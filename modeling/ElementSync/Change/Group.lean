import ElementSync.Change.Basic

/-!
# Change groups

The changes of a group go out together. Metadata changes form one group, so do
additions of approval rules and conditions; other records are grouped by action
and type.
-/
namespace ElementSync

structure ChangeGroup where
  id : String
  changes : List (Change Element)

namespace ChangeGroup

def approval : String := "add_approval_rule_and_condition_instances"

def idOf (c : Change Element) : String :=
  match c.data with
  | .inst i =>
    if !i.isRecord then metadataGroup
    else if c.action = .add
        && (i.typeName = Approval.ruleType || i.typeName = Approval.conditionType) then approval
    else c.action.word ++ "_" ++ i.typeName ++ "_instances"
  | _ => metadataGroup

/-- Groups in the order of their first changes. -/
def ofChanges (cs : List (Change Element)) : List ChangeGroup :=
  (cs.foldl (fun m c => Assoc.put m (idOf c) ((m.lookup (idOf c)).getD [] ++ [c])) []).map
    fun (id, changes) => ⟨id, changes⟩

variable (g : ChangeGroup)

def isMetadata : Bool := g.id = metadataGroup

/-- The changes of instances; one whose states before and after are not both
instances has no place among them. -/
def instanceChanges : List RecordChange :=
  g.changes.filter (·.data.isInst) |>.filterMap fun c => c.toRecord.toOption

def otherChanges : List (Change Element) := g.changes.filter (!·.data.isInst)

end ChangeGroup

end ElementSync
