import ElementSync.Change.Basic
import ElementSync.Change.Finding

/-!
# Supported and destructive deploys

A configuration may list which record types may be deployed and by which actions.
Deploys of data category groups are allowed but may destroy data.
-/
namespace ElementSync.Validation

/-- The actions enabled for each record type. -/
abbrev SupportedTypes := Assoc String (List Action)

namespace SupportedTypes

def enable (s : SupportedTypes) (typeName : String) (actions : List Action) : SupportedTypes :=
  Assoc.put s typeName ((s.lookup typeName).getD [] ++ actions)

def ofList (entries : List (String × List Action)) : SupportedTypes :=
  entries.foldl (fun s e => s.enable e.1 e.2) []

end SupportedTypes

def unsupported? (s : SupportedTypes) (c : Change Element) : Option Finding :=
  match c.data with
  | .inst i =>
    if !i.isRecord then none
    else match s.lookup i.typeName with
      | none => some (.error i.id ("Deployment of " ++ i.typeName ++ " instances is not supported")
          (i.typeName ++ " is not listed as a deployable type in the deploy configuration"))
      | some actions =>
        if actions.contains c.action then none
        else some (.error i.id ("Cannot " ++ c.action.word ++ " " ++ i.typeName ++ " instances")
          ("The deploy configuration does not enable " ++ c.action.word ++ " for " ++ i.typeName))
  | _ => none

def deploySupport (s : SupportedTypes) (cs : List (Change Element)) : List Finding :=
  cs.filterMap (unsupported? s)

def dataCategoryGroup : String := "DataCategoryGroup"

def destructive? (c : Change Element) : Option Finding :=
  match c with
  | .removal _ => none
  | c => match c.data with
    | .inst i =>
      if i.type.annotationText? AnnotationKey.metadataType = some dataCategoryGroup then
        some (.warning i.id "DataCategoryGroup deployments may be destructive"
          ("Deploying category changes from one environment to another may permanently remove "
            ++ "some categories and record categorizations. It is recommended to manually create "
            ++ "data categories and record associations from Setup, under Data Categories."))
      else none
    | _ => none

def dataCategories (cs : List (Change Element)) : List Finding := cs.filterMap destructive?

end ElementSync.Validation
