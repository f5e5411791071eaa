import ElementSync.Element.Basic

/-!
# References between records

A lookup field holds the identifier of a record of one of the types that the field
refers to. When that record was fetched, the identifier becomes a reference to it;
the first such type counts. An identifier of a fetched type without such a record is
missing.
-/
namespace ElementSync.RecordReferences

def warningName : String := "missingReferences"

def warning (count : Nat) : String :=
  toString count ++ " lookup values point at records that were not fetched and are kept as ids"

def records (es : List Element) : List (Instance Element) :=
  es.filterMap Element.inst? |>.filter fun i => i.isRecord && (i.text? idField).isSome

/-- The record with an identifier; of several the last counts. -/
def record? (rs : List (Instance Element)) (typeName id : String) : Option (Instance Element) :=
  rs.reverse.find? fun r => r.typeName = typeName && r.text? idField = some id

def targetTypes (f : Field Element) : List String :=
  (((f.annotations.lookup AnnotationKey.referenceTo).bind Value.sequence?).getD []).filterMap
    Value.text?

def target? (rs : List (Instance Element)) (i : Instance Element) (f : Field Element) :
    Option (Instance Element) := do
  let id ← i.text? f.name
  (targetTypes f).findSome? fun typeName => record? rs typeName id

def linkField (rs : List (Instance Element)) (i : Instance Element) (f : Field Element) :
    Instance Element :=
  match target? rs i f with
  | some r => i.set f.name (.reference (.ofElement (.inst r)))
  | none => i

def isMissing (rs : List (Instance Element)) (i : Instance Element) (f : Field Element) : Bool :=
  (i.text? f.name).isSome && (target? rs i f).isNone
    && (targetTypes f).any fun typeName => rs.any (·.typeName = typeName)

def linkInstance (rs : List (Instance Element)) (i : Instance Element) : Instance Element :=
  if i.isRecord then i.type.fields.foldl (linkField rs) i else i

def linkElement (rs : List (Instance Element)) : Element → Element
  | .inst i => .inst (linkInstance rs i)
  | e => e

def link (es : List Element) : List Element := es.map (linkElement (records es))

def missing (es : List Element) : Nat :=
  (es.filterMap Element.inst? |>.filter (·.isRecord) |>.flatMap fun i =>
    i.type.fields.filter (isMissing (records es) i)).length

end ElementSync.RecordReferences
