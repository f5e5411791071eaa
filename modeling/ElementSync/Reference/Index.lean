import ElementSync.Element.Basic

/-!
# Who refers to whom

The index keeps under each target the places that refer to it, in element order
and depth first within an element. Every occurrence of a reference in the values
of an instance counts. Its place is the id of the instance, extended by the path.
-/
namespace ElementSync

structure Occurrence where
  place : ElementId
  target : ElementId
deriving DecidableEq

abbrev ReferenceIndex := Assoc ElementId (List ElementId)

namespace ReferenceIndex

def referrers (ix : ReferenceIndex) (target : ElementId) : List ElementId :=
  (ix.lookup target).getD []

def add (ix : ReferenceIndex) (o : Occurrence) : ReferenceIndex :=
  Assoc.put ix o.target (ix.referrers o.target ++ [o.place])

def addInstance (ix : ReferenceIndex) (i : Instance Element) : ReferenceIndex :=
  (Values.references i.value).foldl (fun ix (path, r) => ix.add ⟨i.id.nest path, r.target⟩) ix

def ofElements (es : List Element) : ReferenceIndex :=
  (es.filterMap Element.inst?).foldl addInstance []

/-- The targets that are referred to, each once. -/
def targets (ix : ReferenceIndex) : List ElementId := Assoc.keys ix

end ReferenceIndex

end ElementSync
