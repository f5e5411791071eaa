import ElementSync.ConditionLogic.Codec

/-!
# Packing the logic of many records

Before a deploy the template in a field is packed into text and kept aside by the
id of its owner; after the deploy it is put back. A template that cannot be
packed stays where it is.
-/
namespace ElementSync.ConditionLogic

/-- Templates that were packed, by the id of their owner. -/
abbrev Saved := Assoc ElementId (Template Element)

variable (field : String) (position : Reference Element → Option Int)

def template? (i : Instance Element) : Option (Template Element) :=
  (i.get? field).bind Value.template?

/-- The template of an instance together with the text that it packs into. -/
def packed? (i : Instance Element) : Option (Template Element × String) := do
  let t ← template? field i
  let s ← (pack position t).toOption
  return (t, s)

def packInstance (i : Instance Element) : Instance Element :=
  match packed? field position i with
  | some (_, s) => i.set field (.text s)
  | none => i

def save (saved : Saved) (is : List (Instance Element)) : Saved :=
  is.foldl (fun m i => match packed? field position i with
    | some (t, _) => Assoc.put m i.id t
    | none => m) saved

/-- The targets for which packing failed, one per instance that stays unpacked. -/
def failures (is : List (Instance Element)) : List ElementId :=
  is.filterMap fun i => do
    match pack position (← template? field i) with
    | .error target => some target
    | .ok _ => none

def restore (saved : Saved) (i : Instance Element) : Instance Element :=
  match saved.lookup i.id with
  | some t => i.set field (.template t)
  | none => i

end ElementSync.ConditionLogic
