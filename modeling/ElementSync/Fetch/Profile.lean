import ElementSync.Config.Basic

/-!
# Fetch profiles

A profile answers what a fetch should do: the settings of the configuration with
their defaults, and the compiled selection of record types.
-/
namespace ElementSync

structure FetchProfile where
  features : Assoc String Bool := []
  warnings : Assoc String Bool := []
  maxInstances : Nat := 5000
  /-- Without a selection no records are fetched. -/
  selection : Option Selection := none

namespace FetchProfile

/-- Features that are not simply on unless the configuration says so. -/
def featureDefaults : Assoc String Bool :=
  [("fetchProfilesUsingReadApi", false), ("generateRefsInProfiles", false),
   ("skipAliases", false), ("toolingDepsOfCurrentNamespace", false),
   ("fixRetrieveFilePaths", true)]

def ofSettings (s : FetchSettings) : Except ConfigError FetchProfile := do
  let selection ← s.data.mapM Selection.ofSettings
  let defaults : FetchProfile := {}
  return {
    features := s.features
    warnings := s.warnings
    maxInstances := s.maxInstances.getD defaults.maxInstances
    selection }

variable (p : FetchProfile)

def isFeatureEnabled (name : String) : Bool :=
  ((p.features.lookup name).or (featureDefaults.lookup name)).getD true

def isWarningEnabled (name : String) : Bool := (p.warnings.lookup name).getD true

end FetchProfile

end ElementSync
