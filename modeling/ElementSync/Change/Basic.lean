import ElementSync.Element.Basic

/-!
# Changes

A change adds, removes or modifies one element. What it holds is the state after
it, or, for a removal, the state before it.
-/
namespace ElementSync

inductive Action where
  | add
  | remove
  | modify
deriving DecidableEq

namespace Action

def word : Action → String
  | add => "add"
  | remove => "remove"
  | modify => "modify"

def ofWord? : String → Option Action
  | "add" => some add
  | "remove" => some remove
  | "modify" => some modify
  | _ => none

end Action

inductive Change (α : Type) where
  | addition (after : α)
  | removal (before : α)
  | modification (before after : α)

namespace Change
variable {α β : Type}

def action : Change α → Action
  | addition _ => .add
  | removal _ => .remove
  | modification _ _ => .modify

def data : Change α → α
  | addition a => a
  | removal b => b
  | modification _ a => a

def mapData (f : α → α) : Change α → Change α
  | addition a => addition (f a)
  | removal b => removal (f b)
  | modification b a => modification b (f a)

def before? : Change α → Option α
  | addition _ => none
  | removal b => some b
  | modification b _ => some b

def after? : Change α → Option α
  | addition a => some a
  | removal _ => none
  | modification _ a => some a

def isRemoval : Change α → Bool
  | removal _ => true
  | _ => false

def map (f : α → β) : Change α → Change β
  | addition a => addition (f a)
  | removal b => removal (f b)
  | modification b a => modification (f b) (f a)

/-- Fails with the first state that fails, the state before coming first. -/
def mapM {ε : Type} (f : α → Except ε β) : Change α → Except ε (Change β)
  | addition a => return addition (← f a)
  | removal b => return removal (← f b)
  | modification b a => return modification (← f b) (← f a)

@[simp] theorem data_map (f : α → β) (c : Change α) : (c.map f).data = f c.data := by
  cases c <;> rfl

@[simp] theorem action_map (f : α → β) (c : Change α) : (c.map f).action = c.action := by
  cases c <;> rfl

end Change

/-- The group of all changes that are not of data records. -/
def metadataGroup : String := "salesforce_metadata"

/-- A change of an instance. -/
abbrev RecordChange := Change (Instance Element)

namespace Change

def id (c : Change Element) : ElementId := c.data.id

def toRecord (c : Change Element) : Except ElementError RecordChange := c.mapM Element.toInst

/-- The change that leads from one state to another; both states must be of one
element and at least one must be there. -/
def ofStates : Option Element → Option Element → Except ElementError (Change Element)
  | none, none => .error .stateless
  | none, some a => .ok (addition a)
  | some b, none => .ok (removal b)
  | some b, some a =>
    if b.id = a.id then .ok (modification b a) else .error (.stateMismatch b.id a.id)

end Change

namespace RecordChange

def id (c : RecordChange) : ElementId := c.data.id

def toChange (c : RecordChange) : Change Element := c.map Element.inst

end RecordChange

end ElementSync
