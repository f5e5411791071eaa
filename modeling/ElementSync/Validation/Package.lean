import ElementSync.Change.Basic
import ElementSync.Change.Finding
import ElementSync.Element.ApiName
import ElementSync.Element.Same

/-!
# Managed packages

Elements of a managed package belong to its publisher. They are neither added nor
removed; of their properties only help text and description may change, and the
version of an installed package may not.
-/
namespace ElementSync.Validation

def installedPackage : String := "InstalledPackage"

def packageVersionField : String := "version_number"

def modifiableProperties : List String := ["inlineHelpText", "description"]

/-- The keys whose values differ between two mappings. -/
def changedKeys (before after : Values Element) : List String :=
  (after.filter fun (k, v) => !(before.lookup k).any (·.same v)).map Prod.fst ++
    (Assoc.keys before).filter (!Assoc.hasKey after ·)

/-- The properties in which a field of a type differs from the type before. -/
def changedFieldKeys (before : ObjectType Element) (f : Field Element) : List String :=
  match before.field? f.name with
  | some old => if old.type = f.type then changedKeys old.annotations f.annotations else [f.name]
  | none => [f.name]

def changedProperties (before after : Element) : List String :=
  changedKeys before.annotations after.annotations ++
    match before, after with
    | .objectType b, .objectType a =>
      a.fields.flatMap (changedFieldKeys b) ++
        (b.fields.map (·.name)).filter fun name => (a.field? name).isNone
    | .field b, .field a => if b.type = a.type then [] else ["type"]
    | .inst b, .inst a => changedKeys b.value a.value
    | _, _ => []

def isPackaged (e : Element) : Bool :=
  let owned := match e with
    | .objectType t => t.annotationText? AnnotationKey.metadataType = some customObject
    | .field _ => true
    | .inst _ => false
  owned && e.hasNamespace

def packageError (e : Element) (detail : String) : Finding :=
  .error e.id ("Cannot change a managed package. Package namespace: " ++ e.namespaceName) detail

def packageMembership (action : Action) (e : Element) : Finding :=
  packageError e ("Cannot " ++ action.word ++ " " ++ e.id.fullName
    ++ " because it is part of a package namespace: " ++ e.namespaceName)

/-- Whether a modification goes beyond the properties that may change. -/
def isForbidden (before after : Element) : Bool :=
  (changedProperties before after).any (!modifiableProperties.contains ·)

def packageAddOrRemove (c : Change Element) : Option Finding :=
  match c with
  | .modification _ _ => none
  | c => if isPackaged c.data then some (packageMembership c.action c.data) else none

def packageModify (c : Change Element) : Option Finding :=
  match c with
  | .modification before after =>
    if isPackaged after && isForbidden before after then
      some (packageError after
        ("Modification is forbidden of any property that is not one of the following: "
          ++ ", ".intercalate modifiableProperties))
    else none
  | _ => none

/-- A type of one's own that has fields of a package is not removed either. -/
def packageFieldsRemoved (c : Change Element) : Option Finding :=
  match c with
  | .removal (.objectType t) =>
    let e := Element.objectType t
    if !e.hasNamespace && t.fields.any (fun f => (Element.field f).hasNamespace) then
      some (packageError e ("Cannot remove type with id " ++ e.id.fullName
        ++ " because some of its fields belong to a managed package"))
    else none
  | _ => none

def packageVersionChanged (c : Change Element) : Option Finding :=
  match c with
  | .modification (.inst before) (.inst after) =>
    if after.type.annotationText? AnnotationKey.metadataType = some installedPackage
        && !Value.optionSame (before.get? packageVersionField) (after.get? packageVersionField) then
      some (packageError (.inst after)
        ("Cannot change installed package version with id: " ++ after.id.fullName))
    else none
  | _ => none

def packages (cs : List (Change Element)) : List Finding :=
  cs.filterMap packageAddOrRemove ++ cs.filterMap packageModify ++
    cs.filterMap packageFieldsRemoved ++ cs.filterMap packageVersionChanged

end ElementSync.Validation
