import ElementSync.Change.Basic
import ElementSync.Client.Error
import ElementSync.Element.ApiName
import ElementSync.Fetch.TypeOfSchema
import ElementSync.Graph

/-!
# Custom labels

The system keeps all custom labels in one container. On a fetch the container is
split into one instance per label. Before a deploy the changes of labels become one
modification of a container, and after the deploy they take its place again.
-/
namespace ElementSync.Labels

def containerType : String := "CustomLabels"

def labelType : String := "CustomLabel"

def labelsField : String := "labels"

def filterName : String := "splitCustomLabels"

def isOf (typeName : String) (e : Element) : Bool := e.inst?.any (·.typeName = typeName)

/-- The label of one entry of the container; an entry without a name is none. -/
def label? (type : ObjectType Element) (v : Value Element) : Option (Instance Element) := do
  let values ← v.mapping?
  let name ← (values.lookup fullNameField).bind Value.text?
  return { name, type, value := values, path := some (recordPath labelType name) }

def labels (type : ObjectType Element) (container : Instance Element) : List (Instance Element) :=
  (((container.get? labelsField).bind Value.sequence?).getD []).filterMap (label? type)

def container? (es : List Element) : Option (Instance Element) :=
  (es.find? (isOf containerType)).bind Element.inst?

def type? (es : List Element) : Option (ObjectType Element) :=
  es.filterMap Element.objectType? |>.find? (·.id.typeName = labelType)

/-- The labels of the first container take the place of all containers. Without a
container or the type of labels nothing is split. -/
def split (es : List Element) : List Element :=
  match container? es, type? es with
  | some container, some type =>
    es.filter (!isOf containerType ·) ++ (labels type container).map .inst
  | _, _ => es

def isLabelChange (c : Change Element) : Bool := isOf labelType c.data

def isContainerChange (c : Change Element) : Bool := isOf containerType c.data

/-- The container of the labels among some states. -/
def container (type : ObjectType Element) (states : List Element) : Instance Element where
  name := containerType
  type := type
  value := [(fullNameField, .text containerType),
    (labelsField, .sequence (states.filterMap Element.inst? |>.map fun i => .mapping i.value))]

def merged (type : ObjectType Element) (cs : List (Change Element)) : Change Element :=
  .modification (.inst (container type (cs.filterMap Change.before?)))
    (.inst (container type (cs.filterMap Change.after?)))

def knownType? (source : ElementSource) : Option (ObjectType Element) :=
  (source (.type salesforce containerType)).bind Element.objectType?

def missingType : Failure :=
  .filter filterName "CustomLabels type is missing from the element source"

/-- The changes of labels merged behind the others. Without the type of the container
the changes of labels are gone and the deploy fails. -/
def merge (source : ElementSource) (cs : List (Change Element)) :
    List (Change Element) × Except Failure Unit :=
  let changes := cs.filter isLabelChange
  let others := cs.filter (!isLabelChange ·)
  if changes.isEmpty then (others, .ok ())
  else match knownType? source with
    | some type => (others ++ [merged type changes], .ok ())
    | none => (others, .error missingType)

/-- Changes of containers give way to the changes that were merged. -/
def restore (saved cs : List (Change Element)) : List (Change Element) :=
  if cs.any isContainerChange then cs.filter (!isContainerChange ·) ++ saved else cs

end ElementSync.Labels
