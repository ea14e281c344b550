import IssueFlow.Authority.RoleChange
import IssueFlow.Json.Reader
import IssueFlow.Proofs.Reachable
import IssueFlow.Transition.Rehearsal
import IssueFlow.Wire.Catalogue
import IssueFlow.Wire.Description
import IssueFlow.Wire.Report
import IssueFlow.Proofs.StatusLog
import IssueFlow.Proofs.Stages
import IssueFlow.Proofs.PostFunctions
import IssueFlow.Proofs.AllOrNothing
import IssueFlow.Proofs.StatusHistory
import IssueFlow.Proofs.OneWinner
import IssueFlow.Proofs.GraphIntegrity
import IssueFlow.Proofs.GateMeaning
import IssueFlow.Proofs.GateSoundness
import IssueFlow.Proofs.PermissionSource
import IssueFlow.Proofs.WorkflowReferences
import IssueFlow.Proofs.FirstFailure
import IssueFlow.Proofs.JudgedValues
import IssueFlow.Proofs.Creation
import IssueFlow.Proofs.AdministratorRights
import IssueFlow.Proofs.CommittedRow
import IssueFlow.Proofs.PermissionListing
import IssueFlow.Proofs.OfferListing
import IssueFlow.Proofs.AccessGrowth
import IssueFlow.Proofs.Outages
import IssueFlow.Proofs.Deletion
import IssueFlow.Proofs.NaturalKeys
import IssueFlow.Proofs.RuleIdentity
import IssueFlow.Proofs.SchemeMappings
import IssueFlow.Proofs.TruthfulAnswers
import IssueFlow.Proofs.Delivery
import IssueFlow.Proofs.Footprint
import IssueFlow.Proofs.RoundTrips
import IssueFlow.Proofs.Legs
import IssueFlow.Proofs.SeenIssue
import IssueFlow.Proofs.AbortedRuns
import IssueFlow.Proofs.FieldLaws
import IssueFlow.Proofs.CommitContents
import IssueFlow.Proofs.TestedFields
import IssueFlow.Proofs.GlobalPermission
import IssueFlow.Proofs.Precedence
import IssueFlow.Proofs.RoleHolders
import IssueFlow.Proofs.DefaultActors
import IssueFlow.Proofs.GrantFacts
import IssueFlow.Proofs.Recipients
import IssueFlow.Proofs.EdgeIdentity
import IssueFlow.Proofs.OrderedListings
import IssueFlow.Proofs.NamedGates
