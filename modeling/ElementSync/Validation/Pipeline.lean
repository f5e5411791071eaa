import ElementSync.Validation.DeploySupport
import ElementSync.Validation.Package
import ElementSync.Validation.Records

/-!
# Validation before a deploy

The findings of all validators are taken in order. An error blocks the change of
its element, and of an element that it lies inside; the other changes go on.
-/
namespace ElementSync

inductive Validator where
  | packages
  | records
  | dataCategories
  | deploySupport (types : Validation.SupportedTypes)

namespace Validator

def name : Validator → String
  | packages => "package"
  | records => "custom_object_instances"
  | dataCategories => "data_category_group"
  | deploySupport _ => "deploy_support"

def validate : Validator → List (Change Element) → List Finding
  | packages => Validation.packages
  | records => Validation.records
  | dataCategories => Validation.dataCategories
  | deploySupport types => Validation.deploySupport types

def builtIn : List Validator := [packages, records, dataCategories]

end Validator

namespace Validation

def run (vs : List Validator) (cs : List (Change Element)) : List Finding :=
  vs.flatMap (·.validate cs)

def isBlocked (findings : List Finding) (c : Change Element) : Bool :=
  findings.any fun f => f.isBlocking && (f.id = c.id || c.id.isAbove f.id)

def deployable (findings : List Finding) (cs : List (Change Element)) : List (Change Element) :=
  cs.filter (!isBlocked findings ·)

def blocked (findings : List Finding) (cs : List (Change Element)) : List (Change Element) :=
  cs.filter (isBlocked findings ·)

end Validation

end ElementSync
