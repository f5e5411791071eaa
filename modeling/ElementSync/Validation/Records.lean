import ElementSync.Change.Basic
import ElementSync.Change.Finding
import ElementSync.Reference.Resolver
import ElementSync.Value.Same

/-!
# Record values that the external system ignores

The user is warned about values of fields that cannot be created or updated.
References are compared by what they resolve to.
-/
namespace ElementSync.Validation

def resolved (i : Instance Element) : Instance Element :=
  Resolver.resolveInstance { context := {}, policy := .keep } i

def notUpdateable (before after : Instance Element) : List Finding :=
  let b := resolved before
  let a := resolved after
  after.type.fields.filter (fun f =>
      !f.flag AnnotationKey.updateable && !Value.optionSame (a.get? f.name) (b.get? f.name))
    |>.map fun f => .warning before.id "Cannot modify the value of a non-updatable field"
      ("Cannot modify " ++ f.name ++ "'s value of " ++ before.id.fullName
        ++ " because its field is defined as non-updateable.")

def notCreateable (after : Instance Element) : List Finding :=
  let a := resolved after
  after.type.fields.filter (fun f => !f.flag AnnotationKey.createable && (a.get? f.name).isSome)
    |>.map fun f => .warning after.id "Cannot set a value to a non-creatable field"
      ("Cannot set a value for " ++ f.name ++ " of " ++ after.id.fullName
        ++ " because its field is defined as non-creatable.")

def recordUpdate : Change Element → List Finding
  | .modification (.inst before) (.inst after) =>
    if after.isRecord then notUpdateable before after else []
  | _ => []

def recordCreation : Change Element → List Finding
  | .addition (.inst after) => if after.isRecord then notCreateable after else []
  | _ => []

def records (cs : List (Change Element)) : List Finding :=
  cs.flatMap recordUpdate ++ cs.flatMap recordCreation

end ElementSync.Validation
