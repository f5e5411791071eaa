import ElementSync.Adapter
import ElementSync.Assoc
import ElementSync.Change.Basic
import ElementSync.Change.Finding
import ElementSync.Change.Group
import ElementSync.ChangeTimes
import ElementSync.Client.Basic
import ElementSync.Client.Error
import ElementSync.Client.InMemory
import ElementSync.Client.Schema
import ElementSync.Client.Scripted
import ElementSync.ConditionLogic.Codec
import ElementSync.ConditionLogic.Rules
import ElementSync.ConditionLogic.Saved
import ElementSync.Config.Basic
import ElementSync.Config.Reader
import ElementSync.Deploy.Approval
import ElementSync.Deploy.Batch
import ElementSync.Element.ApiName
import ElementSync.Element.Basic
import ElementSync.Element.Same
import ElementSync.ElementId
import ElementSync.Fetch.Profile
import ElementSync.Fetch.RecordReferences
import ElementSync.Fetch.Records
import ElementSync.Fetch.ToolingTypes
import ElementSync.Fetch.TypeOfSchema
import ElementSync.Filter.Basic
import ElementSync.Filter.Pipeline
import ElementSync.Graph
import ElementSync.IssueTypes
import ElementSync.Json
import ElementSync.Labels
import ElementSync.Number.Binary64
import ElementSync.Number.Shortest
import ElementSync.PackageDependencies
import ElementSync.Pattern.Basic
import ElementSync.Pattern.Class
import ElementSync.Pattern.Escape
import ElementSync.Pattern.Meaning
import ElementSync.Pattern.Reader
import ElementSync.Pattern.Tree
import ElementSync.Reference.Context
import ElementSync.Reference.Index
import ElementSync.Reference.Resolver
import ElementSync.Reference.Strategy
import ElementSync.Reference.Weak
import ElementSync.Text.Split
import ElementSync.Time.Instant
import ElementSync.Toml.Basic
import ElementSync.Toml.Document
import ElementSync.Toml.Number
import ElementSync.Toml.Tables
import ElementSync.Toml.Text
import ElementSync.Toml.Value
import ElementSync.Unicode.CaseFolding
import ElementSync.Unicode.Category
import ElementSync.Unicode.Property
import ElementSync.Unicode.Runs
import ElementSync.Unicode.Script
import ElementSync.Validation.DeploySupport
import ElementSync.Validation.Package
import ElementSync.Validation.Pipeline
import ElementSync.Validation.Records
import ElementSync.Value.Basic
import ElementSync.Value.Json
import ElementSync.Value.Leaves
import ElementSync.Value.Same
import ElementSync.Value.Template
import ElementSync.Proofs.Text.Numerals
import ElementSync.Proofs.Text.Runs
import ElementSync.Proofs.ConditionLogic.Packing
import ElementSync.Proofs.ConditionLogic.RoundTrip
import ElementSync.Proofs.ConditionLogic.Renumbering
import ElementSync.Proofs.ConditionLogic.Restoring
import ElementSync.Proofs.Value.Leaves
import ElementSync.Proofs.Value.Plain
import ElementSync.Proofs.Value.Replacing
import ElementSync.Proofs.Reference.Identifiers
import ElementSync.Proofs.Reference.Rendering
import ElementSync.Proofs.Change.Outline
import ElementSync.Proofs.Change.Writes
import ElementSync.Proofs.Identified
import ElementSync.Proofs.Change.Group
import ElementSync.Proofs.Client.Exchanges
import ElementSync.Proofs.Client.Answers
import ElementSync.Proofs.Client.Creates
import ElementSync.Proofs.Validation.Blocking
import ElementSync.Proofs.Validation.Locality
import ElementSync.Proofs.Validation.Packages
import ElementSync.Proofs.Validation.Records
import ElementSync.Proofs.Filter.Deploy
import ElementSync.Proofs.Filter.Undo
import ElementSync.Proofs.Filter.Leftovers
import ElementSync.Proofs.Deploy.Reports
import ElementSync.Proofs.Deploy.ApprovalRun
import ElementSync.Proofs.Deploy.ApprovalCalls
import ElementSync.Proofs.Deploy.ApprovalReports
import ElementSync.Proofs.Deploy.BatchReports
import ElementSync.Proofs.Deploy.RestoredRules
import ElementSync.Proofs.Deploy.Accounts
import ElementSync.Proofs.ConditionLogic.Survival
import ElementSync.Proofs.Filter.RoundTrip
import ElementSync.Proofs.Adapter.Accounts
import ElementSync.Proofs.Adapter.Sends
import ElementSync.Proofs.Adapter.Runs
import ElementSync.Proofs.Adapter.Approval
import ElementSync.Proofs.Adapter.SentConditions
import ElementSync.Proofs.Adapter.Deliveries
import ElementSync.Proofs.Adapter.Prepared
import ElementSync.Proofs.Adapter.SentLogic
import ElementSync.Proofs.Adapter.GroupOrder
import ElementSync.Proofs.Adapter.Batches
import ElementSync.Proofs.Adapter.GroupRuns
import ElementSync.Proofs.Adapter.Failures
import ElementSync.Proofs.Adapter.LabelAccounts
import ElementSync.Proofs.Adapter.AfterFailure
import ElementSync.Proofs.Fetch.Lookups
import ElementSync.Proofs.Fetch.Records
import ElementSync.Proofs.Graph
import ElementSync.Proofs.GraphHistory
import ElementSync.Proofs.ElementId
import ElementSync.Proofs.Fetch.Filtered
import ElementSync.Proofs.Fetch.References
import ElementSync.Proofs.Adapter.FetchedReferences
import ElementSync.Proofs.Fetch.Ids
import ElementSync.Proofs.Fetch.Arrival
import ElementSync.Proofs.Fetch.Names
import ElementSync.Proofs.Fetch.SplitLabels
import ElementSync.Proofs.Adapter.FetchedIds
import ElementSync.Proofs.Value.Places
import ElementSync.Proofs.Reference.Precedence
import ElementSync.Proofs.Reference.Fields
import ElementSync.Proofs.Reference.Templates
import ElementSync.Proofs.Reference.Idempotence
import ElementSync.Proofs.Ancestry
import ElementSync.Proofs.Value.LeafPlaces
import ElementSync.Proofs.Value.Json
import ElementSync.Proofs.Reference.Index
import ElementSync.Proofs.Reference.Weak
import ElementSync.Proofs.Adapter.Fixes
import ElementSync.Proofs.Adapter.Warnings
import ElementSync.Proofs.Fetch.ChangeTimes
import ElementSync.Proofs.Fetch.LatestTimes
import ElementSync.Proofs.Fetch.TimesGoingBack
import ElementSync.Proofs.Adapter.GroupKinds
import ElementSync.Proofs.Change.Parting
import ElementSync.Proofs.Filter.LabelContainers
import ElementSync.Proofs.Fetch.InstalledPackages
import ElementSync.Proofs.ConditionLogic.SeveralFields
import ElementSync.Proofs.ConditionLogic.NormalForm
import ElementSync.Proofs.Value.LeafAnswers
import ElementSync.Proofs.ApiName
import ElementSync.Proofs.Text.Search
import ElementSync.Proofs.ConditionLogic.Covering
