import ElementSync.ConditionLogic.Saved
import ElementSync.Reference.Context

/-!
# Rules and their conditions

Four types of rules keep condition logic. A condition belongs to the rule that it
refers to and has its position in an index field. On a fetch the logic is unpacked;
before a deploy it is packed with the positions that the conditions have by then,
and after the deploy the templates are put back.
-/
namespace ElementSync.ConditionLogic

structure RuleKind where
  ruleType : String
  logicField : String
  conditionType : String
  indexField : String
  ruleField : String

namespace RuleKind

def all : List RuleKind :=
  [{ ruleType := "SBQQ__ProductRule__c", logicField := "SBQQ__AdvancedCondition__c",
     conditionType := "SBQQ__ErrorCondition__c", indexField := "SBQQ__Index__c",
     ruleField := "SBQQ__Rule__c" },
   { ruleType := "SBQQ__QuoteTerm__c", logicField := "SBQQ__AdvancedCondition__c",
     conditionType := "SBQQ__TermCondition__c", indexField := "SBQQ__Index__c",
     ruleField := "SBQQ__QuoteTerm__c" },
   { ruleType := "SBQQ__PriceRule__c", logicField := "SBQQ__AdvancedCondition__c",
     conditionType := "SBQQ__PriceCondition__c", indexField := "SBQQ__Index__c",
     ruleField := "SBQQ__Rule__c" },
   { ruleType := Approval.ruleType, logicField := "sbaa__AdvancedCondition__c",
     conditionType := Approval.conditionType, indexField := "sbaa__Index__c",
     ruleField := Approval.ruleField }]

/-- The kind of a rule that is a data record. -/
def of? (i : Instance Element) : Option RuleKind :=
  if i.isRecord then all.find? (·.ruleType = i.typeName) else none

variable (k : RuleKind)

def index? (i : Instance Element) : Option Int :=
  ((i.get? k.indexField).bind Value.int?).map Int64.toInt

def belongsTo (rule condition : Instance Element) : Bool :=
  ((condition.get? k.ruleField).bind Value.reference?).any (·.target = rule.id)

def conditions (es : List Element) : List (Instance Element) :=
  es.filterMap Element.inst? |>.filter fun i => i.isRecord && i.typeName = k.conditionType

/-- The conditions of a rule by their index; of several with one index the last counts. -/
def positions (es : List Element) (rule : Instance Element) : Positions :=
  Assoc.ofList ((k.conditions es).filter (k.belongsTo rule) |>.filterMap fun c =>
    (k.index? c).map (·, .inst c))

end RuleKind

def feature : String := "cpqRulesAndConditionsRefs"

/-- A rule with its logic unpacked, unless no condition stands in it. -/
def unpackInstance (es : List Element) (i : Instance Element) : Instance Element :=
  match RuleKind.of? i with
  | none => i
  | some k => match (i.text? k.logicField).bind (unpack? (k.positions es i)) with
    | some t => i.set k.logicField (.template t)
    | none => i

def unpackElement (es : List Element) : Element → Element
  | .inst i => .inst (unpackInstance es i)
  | e => e

def unpackAll (es : List Element) : List Element := es.map (unpackElement es)

/-- The current index of a condition, the changes before the known elements and these
before the snapshot. -/
def currentIndex (c : LookupContext) (k : RuleKind) (r : Reference Element) : Option Int := do
  k.index? (← (← c.target? r).inst?)

def contextOf (source : ElementSource) (cs : List (Change Element)) : LookupContext :=
  { LookupContext.forGroup "" cs with source := source }

/-- Applies a function to the states that additions and modifications of records lead to. -/
def mapAfter (f : Instance Element → Instance Element) (c : Change Element) : Change Element :=
  match c with
  | .removal b => .removal b
  | c => c.mapData fun
    | .inst i => .inst (f i)
    | e => e

def packRule (c : LookupContext) (i : Instance Element) : Instance Element :=
  match RuleKind.of? i with
  | some k => packInstance k.logicField (currentIndex c k) i
  | none => i

def packChanges (source : ElementSource) (cs : List (Change Element)) : List (Change Element) :=
  cs.map (mapAfter (packRule (contextOf source cs)))

/-- The rules of a kind that are added or modified. -/
def rulesOf (k : RuleKind) (cs : List (Change Element)) : List (Instance Element) :=
  cs.filterMap (fun c => c.after?.bind Element.inst?) |>.filter fun i =>
    i.isRecord && i.typeName = k.ruleType

/-- Templates that were packed, by the type of their rules. -/
abbrev SavedByType := Assoc String Saved

/-- Templates of a type take the place of those saved before, if there are any. -/
def saveChanges (source : ElementSource) (cs : List (Change Element)) (saved : SavedByType) :
    SavedByType :=
  RuleKind.all.foldl (fun m k =>
    let new := save k.logicField (currentIndex (contextOf source cs) k) [] (rulesOf k cs)
    if new.isEmpty then m else Assoc.put m k.ruleType new) saved

def restoreRule (saved : SavedByType) (i : Instance Element) : Instance Element :=
  match RuleKind.of? i with
  | some k => restore k.logicField ((saved.lookup k.ruleType).getD []) i
  | none => i

def restoreChanges (saved : SavedByType) (cs : List (Change Element)) : List (Change Element) :=
  cs.map (mapAfter (restoreRule saved))

end ElementSync.ConditionLogic
