import ElementSync.Element.ApiName

/-!
# Serialization strategies

A strategy turns the target of a reference into the value that the external
system expects in its place. Rules choose a strategy by the field that holds the
reference and the type that the field is in; the first rule that fits counts.
-/
namespace ElementSync

structure Strategy where
  name : String
  /-- What is asked for is assigned by the external system. -/
  isIdentifier : Bool := false
  serialize : Element → Option (Value Element)

namespace Strategy

/-- A record identifier. -/
def identifier (field : String) : Strategy where
  name := "id"
  isIdentifier := true
  serialize e := do
    let s ← (← (← e.inst?).get? field).scalar?
    return .scalar s

def apiName : Strategy where
  name := "api_name"
  serialize e := e.apiName?.map .text

def fieldValue (field : String) : Strategy where
  name := "field_value"
  serialize e := do (← e.inst?).get? field

def default : Strategy := identifier idField

end Strategy

structure SerializationRule where
  field : String
  strategy : Strategy
  /-- No types means every type. -/
  parentTypes : List String := []

def SerializationRule.applies (r : SerializationRule) (field parentType : String) : Bool :=
  r.field = field && (r.parentTypes.isEmpty || r.parentTypes.contains parentType)

def SerializationRule.strategyFor? (rules : List SerializationRule) (field parentType : String) :
    Option Strategy :=
  (rules.find? (·.applies field parentType)).map (·.strategy)

end ElementSync
