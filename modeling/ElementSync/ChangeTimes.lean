import ElementSync.Element.ApiName
import ElementSync.Fetch.TypeOfSchema
import ElementSync.Graph
import ElementSync.Time.Instant

/-!
# Times of the last change

One instance keeps when each element was last changed, by the name of its type and
its own name. A fetch writes the times it finds into the instance of the fetch
before; an earlier time does not replace a later one.
-/
namespace ElementSync.ChangeTimes

def singletonType : String := "ChangedAtSingleton"

def singletonName : String := "_config"

def singletonId : ElementId := .inst salesforce singletonType singletonName

/-- A time that cannot be read gives way to any other, and takes the place of any. -/
def isNewer (candidate current : String) : Bool :=
  match Instant.parse? candidate, Instant.parse? current with
  | some new, some old => old.le new
  | _, _ => true

def typeNameOf : Element → String
  | .inst i => (i.type.annotationText? AnnotationKey.apiName).getD i.typeName
  | e => e.id.typeName

def nameOf (e : Element) : String :=
  e.apiName?.getD (if e.isInst then e.id.name else e.id.typeName)

structure Entry where
  typeName : String
  name : String
  time : String

def entry? (e : Element) : Option Entry := do
  let time ← (e.annotations.lookup AnnotationKey.changedAt).bind Value.text?
  return { typeName := typeNameOf e, name := nameOf e, time }

/-- The times of a type; what is no mapping counts as none. -/
def timesOf (times : Values Element) (typeName : String) : Values Element :=
  ((times.lookup typeName).bind Value.mapping?).getD []

def record (times : Values Element) (e : Entry) : Values Element :=
  let byName := timesOf times e.typeName
  let isOld := ((byName.lookup e.name).bind Value.text?).any (!isNewer e.time ·)
  if isOld then times
  else Assoc.put times e.typeName (.mapping (Assoc.put byName e.name (.text e.time)))

def type : ObjectType Element where
  id := .type salesforce singletonType
  annotations := [(AnnotationKey.metadataType, .text singletonType)]
  path := some (typePath singletonType)

def singleton (times : Values Element) : Instance Element where
  name := singletonName
  type := type
  value := times
  path := some (typePath singletonType)

def previous? (source : ElementSource) : Option (Values Element) :=
  ((source singletonId).bind Element.inst?).map (·.value)

/-- The elements with the instance brought up to date, which comes last behind its type.
Without any time there is none. -/
def update (source : ElementSource) (es : List Element) : List Element :=
  let entries := es.filterMap entry?
  if entries.isEmpty && (previous? source).isNone then es
  else
    let times := entries.foldl record ((previous? source).getD [])
    es.filter (·.id.typeName ≠ singletonType) ++ [.objectType type, .inst (singleton times)]

end ElementSync.ChangeTimes
