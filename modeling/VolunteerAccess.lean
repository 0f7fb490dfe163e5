import VolunteerAccess.Ability
import VolunteerAccess.Action
import VolunteerAccess.CommandLine.Arguments
import VolunteerAccess.CommandLine.Command
import VolunteerAccess.CommandLine.Program
import VolunteerAccess.Compilation
import VolunteerAccess.Condition
import VolunteerAccess.Decimal.Binary64
import VolunteerAccess.Decimal.Layout
import VolunteerAccess.Decimal.Reader
import VolunteerAccess.Decimal.Shortest
import VolunteerAccess.Dict
import VolunteerAccess.Document
import VolunteerAccess.Entries
import VolunteerAccess.EnvFile
import VolunteerAccess.Environment
import VolunteerAccess.Events
import VolunteerAccess.Failure
import VolunteerAccess.Files
import VolunteerAccess.Filter
import VolunteerAccess.Filter.Query
import VolunteerAccess.Fixtures
import VolunteerAccess.Host
import VolunteerAccess.Interest
import VolunteerAccess.Json.Basic
import VolunteerAccess.Json.Reader
import VolunteerAccess.Json.Writer
import VolunteerAccess.Main
import VolunteerAccess.Policy
import VolunteerAccess.Proofs.Ability.Grants
import VolunteerAccess.Proofs.Ability.Verdict
import VolunteerAccess.Proofs.Compilation.Outcomes
import VolunteerAccess.Proofs.Dict.Selection
import VolunteerAccess.Proofs.Fallible
import VolunteerAccess.Proofs.Filter.Meaning
import VolunteerAccess.Proofs.Policy.Matrix
import VolunteerAccess.Proofs.Policy.RuleSets
import VolunteerAccess.Proofs.Service.Confidentiality
import VolunteerAccess.Proofs.Service.Effects
import VolunteerAccess.Proofs.Store.FreshIds
import VolunteerAccess.Proofs.Store.Keys
import VolunteerAccess.Proofs.Store.Operations
import VolunteerAccess.Resource
import VolunteerAccess.Role
import VolunteerAccess.Rule
import VolunteerAccess.Service
import VolunteerAccess.Session
import VolunteerAccess.Settings
import VolunteerAccess.Settings.Key
import VolunteerAccess.Settings.Tree
import VolunteerAccess.Settings.Variable
import VolunteerAccess.Store
import VolunteerAccess.Target
import VolunteerAccess.Text.Alphanumeric
import VolunteerAccess.Text.Basic
import VolunteerAccess.Toml.Basic
import VolunteerAccess.Toml.Lexeme
import VolunteerAccess.Toml.Reader
import VolunteerAccess.Transition
import VolunteerAccess.Proofs.Service.Decisions
import VolunteerAccess.Proofs.Service.Updates
import VolunteerAccess.Proofs.Compilation.Failures
import VolunteerAccess.Proofs.Service.Guarding
import VolunteerAccess.Proofs.Policy.Volunteers
import VolunteerAccess.Proofs.Service.Numbering
import VolunteerAccess.Proofs.Service.Confinement
import VolunteerAccess.Proofs.Dict.Insertion
import VolunteerAccess.Proofs.Transition.Configuration
import VolunteerAccess.Proofs.Transition.VisitingOrder
import VolunteerAccess.Proofs.Service.History
import VolunteerAccess.Proofs.Filter.Conditions
import VolunteerAccess.Proofs.Filter.Queries
import VolunteerAccess.Proofs.Policy.Queries
import VolunteerAccess.Proofs.Text.ByteOrder
import VolunteerAccess.Proofs.Filter.Constants
import VolunteerAccess.Proofs.Ability.Constants
import VolunteerAccess.Proofs.Ability.Exchange
import VolunteerAccess.Proofs.Compilation.Validity
import VolunteerAccess.Proofs.Ability.Records
import VolunteerAccess.Proofs.Policy.Lookups
import VolunteerAccess.Proofs.Service.Lookups
import VolunteerAccess.Proofs.Service.Answers
import VolunteerAccess.Proofs.CommandLine.Verdicts
import VolunteerAccess.Proofs.Compilation.Priority
import VolunteerAccess.Proofs.Service.Refusals
import VolunteerAccess.Proofs.Service.Creations
import VolunteerAccess.Proofs.Store.Order
import VolunteerAccess.Proofs.Service.Listings
import VolunteerAccess.Proofs.Store.Removals
import VolunteerAccess.Proofs.Store.Representation
import VolunteerAccess.Proofs.Service.OneInterest
import VolunteerAccess.Proofs.Service.ReadBack
import VolunteerAccess.Proofs.Document.Rules
import VolunteerAccess.Proofs.Filter.NormalForm
import VolunteerAccess.Proofs.Filter.Algebra
import VolunteerAccess.Proofs.Filter.QueryShape
import VolunteerAccess.Proofs.Json.Equality
import VolunteerAccess.Proofs.Filter.Satisfiability
import VolunteerAccess.Proofs.Transition.Relations
import VolunteerAccess.Proofs.Settings.Sources
import VolunteerAccess.Proofs.Settings.Marks
import VolunteerAccess.Proofs.Settings.Sections
import VolunteerAccess.Proofs.Settings.Layers
import VolunteerAccess.Proofs.Settings.Alike
import VolunteerAccess.Proofs.Settings.Orders
import VolunteerAccess.Proofs.Settings.Overrides
import VolunteerAccess.Proofs.Decimal.Texts
import VolunteerAccess.Proofs.Settings.Verbatim
import VolunteerAccess.Proofs.Transition.UnnamedStates
import VolunteerAccess.Proofs.Filter.Recovery
import VolunteerAccess.Proofs.Settings.Alike
import VolunteerAccess.Proofs.Settings.Orders
