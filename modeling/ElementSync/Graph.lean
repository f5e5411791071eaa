import ElementSync.Element.Basic

/-!
# Element graphs

A graph is a list of elements with distinct ids. An element that replaces
another takes its place in the list. The id of a field is answered through the
type that owns the field.
-/
namespace ElementSync

/-- Elements known from elsewhere, such as those of an earlier fetch. -/
abbrev ElementSource := ElementId → Option Element

structure ElementGraph where
  elements : List Element := []

namespace ElementGraph

def ids (g : ElementGraph) : List ElementId := g.elements.map Element.id

def stored? (g : ElementGraph) (id : ElementId) : Option Element :=
  g.elements.find? (·.id = id)

def insert (g : ElementGraph) (e : Element) : Except ElementError ElementGraph :=
  if e.id ∈ g.ids then .error (.duplicate e.id) else .ok ⟨g.elements ++ [e]⟩

def upsert (g : ElementGraph) (e : Element) : ElementGraph := ⟨go g.elements⟩
where
  go : List Element → List Element
    | [] => [e]
    | d :: ds => if d.id = e.id then e :: ds else d :: go ds

def remove (g : ElementGraph) (id : ElementId) : ElementGraph :=
  ⟨g.elements.eraseP (·.id = id)⟩

/-- A call that changes a graph. -/
inductive Edit where
  | insert (e : Element)
  | upsert (e : Element)
  | remove (id : ElementId)

/-- What a call that changes a graph gives back. -/
inductive Answer where
  | done
  | refused (cause : ElementError)
  | removed (e : Option Element)

/-- A call that is refused leaves the graph as it was. -/
def edit (g : ElementGraph) : Edit → Answer × ElementGraph
  | .insert e => match g.insert e with
    | .ok g => (.done, g)
    | .error cause => (.refused cause, g)
  | .upsert e => (.done, g.upsert e)
  | .remove id => (.removed (g.stored? id), g.remove id)

def ofElements (es : List Element) : Except ElementError ElementGraph :=
  es.foldlM insert {}

def resolve (g : ElementGraph) (id : ElementId) : Option Element :=
  match g.stored? id with
  | some e => some e
  | none =>
    if id.kind = .field && id.isTopLevel then do
      let owner ← (← g.stored? id.typeId).objectType?
      return .field (← owner.field? id.name)
    else none

def children (g : ElementGraph) (id : ElementId) : List Element :=
  ((g.resolve id).map Element.children).getD []

def instancesOf (g : ElementGraph) (typeName : String) : List (Instance Element) :=
  g.elements.filterMap Element.inst? |>.filter (·.typeName = typeName)

def source (g : ElementGraph) : ElementSource := g.resolve

end ElementGraph

end ElementSync
