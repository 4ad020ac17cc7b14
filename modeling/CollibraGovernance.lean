import CollibraGovernance.Library.StableSort
import CollibraGovernance.Library.Text
import CollibraGovernance.Library.Dict
import CollibraGovernance.Library.Json
import CollibraGovernance.Collibra.Models
import CollibraGovernance.Domain.Models
import CollibraGovernance.Collibra.Sync
import CollibraGovernance.Library.PyJson
import CollibraGovernance.Collibra.PlanJson
import CollibraGovernance.Collibra.Execute
import CollibraGovernance.Collibra.ExactlyOnce
import CollibraGovernance.Library.CanonicalJson
import CollibraGovernance.Collibra.Mapping
import CollibraGovernance.Library.Outcome
import CollibraGovernance.Collibra.MappedModel
import CollibraGovernance.Collibra.PlanSpec
import CollibraGovernance.Collibra.NoObjectLost
import CollibraGovernance.Identity.Hashing
import CollibraGovernance.Plans.RemoteIdentity
import CollibraGovernance.Plans.RemoteCoverage
import CollibraGovernance.Collibra.Mock
import CollibraGovernance.Collibra.MockSpec
import CollibraGovernance.Collibra.PlannedMutations
import CollibraGovernance.Collibra.MockRun
import CollibraGovernance.Collibra.MockConvergence
import CollibraGovernance.Collibra.Live
import CollibraGovernance.Collibra.LiveSpec
import CollibraGovernance.Collibra.LiveResume
import CollibraGovernance.Library.Merge
import CollibraGovernance.Identity.JsonValues
import CollibraGovernance.Domain.Graph
import CollibraGovernance.Domain.GraphSpec
import CollibraGovernance.Library.LayeredSearch
import CollibraGovernance.Domain.Impact
import CollibraGovernance.Domain.ImpactOrder
import CollibraGovernance.Domain.ImpactLayers
import CollibraGovernance.Domain.ImpactSearch
import CollibraGovernance.Domain.ImpactSpec
import CollibraGovernance.Library.JsonPointer
import CollibraGovernance.Domain.Observations
import CollibraGovernance.Domain.Authority
import CollibraGovernance.Domain.Conflicts
import CollibraGovernance.Domain.ConflictSpec
import CollibraGovernance.Library.JsonSchema
import CollibraGovernance.Authority.Load
import CollibraGovernance.Authority.LoadSpec
import CollibraGovernance.Authority.Unambiguous
import CollibraGovernance.Library.JoinedNames
import CollibraGovernance.Domain.PhysicalIds
import CollibraGovernance.Domain.Created
import CollibraGovernance.Scanner.Postgres
import CollibraGovernance.Scanner.Scanned
import CollibraGovernance.Scanner.UniqueIds
import CollibraGovernance.Domain.PhysicalProjection
import CollibraGovernance.Reconciliation.PhysicalIndex
import CollibraGovernance.Reconciliation.ScannedIndex
import CollibraGovernance.Domain.Elements
import CollibraGovernance.Domain.Renaming
import CollibraGovernance.Snapshots.Models
import CollibraGovernance.Comparison.Identity
import CollibraGovernance.Comparison.Projection
import CollibraGovernance.Comparison.Registration
import CollibraGovernance.Comparison.Located
import CollibraGovernance.Comparison.References
import CollibraGovernance.Comparison.Resolved
import CollibraGovernance.Comparison.Properties
import CollibraGovernance.Comparison.Projected
import CollibraGovernance.Comparison.Compare
import CollibraGovernance.Comparison.Renamed
import CollibraGovernance.Comparison.CompareSpec
import CollibraGovernance.Comparison.Compatible
import CollibraGovernance.Comparison.WellFormed
import CollibraGovernance.Comparison.CompatibleSpec
import CollibraGovernance.Comparison.Result
import CollibraGovernance.Comparison.Inverse
import CollibraGovernance.Comparison.Proper
import CollibraGovernance.Comparison.Load
import CollibraGovernance.Comparison.ProperResult
import CollibraGovernance.Comparison.LoadSpec
import CollibraGovernance.Comparison.RoundTrip
import CollibraGovernance.Drift.Policy
import CollibraGovernance.Drift.PolicySpec
import CollibraGovernance.Drift.Classify
import CollibraGovernance.Drift.ClassifySpec
import CollibraGovernance.Comparison.MemberOrder
import CollibraGovernance.Comparison.Accepted
import CollibraGovernance.Drift.Express
import CollibraGovernance.Domain.ImpactClosed
import CollibraGovernance.Collibra.FreshPlan
import CollibraGovernance.Observations.RoundTrip
import CollibraGovernance.Observations.RuleKeySchema
import CollibraGovernance.Reconciliation.Safety
import CollibraGovernance.Drift.Result
import CollibraGovernance.GithubCi.Review
import CollibraGovernance.GithubCi.ReviewSpec
import CollibraGovernance.Collibra.PlanDict
import CollibraGovernance.Reconciliation.Assumptions
import CollibraGovernance.Reconciliation.Recompute
import CollibraGovernance.Reconciliation.RecomputeSpec
import CollibraGovernance.Reconciliation.Overlay
import CollibraGovernance.Reconciliation.OverlaySpec
import CollibraGovernance.Plans.SavedPlan
import CollibraGovernance.Plans.SavedPlanSpec
import CollibraGovernance.Collibra.Catalog
import CollibraGovernance.Collibra.CatalogRun
import CollibraGovernance.Collibra.Http
import CollibraGovernance.Collibra.HttpSpec
import CollibraGovernance.Scanner.RowOrder
import CollibraGovernance.Scanner.Faithful
import CollibraGovernance.Scanner.ExportedIds
import CollibraGovernance.History.Models
import CollibraGovernance.History.Resolve
import CollibraGovernance.History.Evolution
import CollibraGovernance.History.EvolutionSpec
import CollibraGovernance.Collibra.Import
import CollibraGovernance.Collibra.Batching
import CollibraGovernance.Collibra.ImportSpec
import CollibraGovernance.Domain.Mapping
import CollibraGovernance.Library.LabelledTree
import CollibraGovernance.Odcs.Mapper
import CollibraGovernance.Odcs.Columns
import CollibraGovernance.Odcs.Reordered
import CollibraGovernance.Odcs.OrderWalk
import CollibraGovernance.Library.GreedyCut
import CollibraGovernance.Collibra.BatchingSpec
import CollibraGovernance.Domain.NormalForm
import CollibraGovernance.Library.SameJson
import CollibraGovernance.Identity.Tagged
import CollibraGovernance.Drift.Monotone
import CollibraGovernance.Policy.Selectors
import CollibraGovernance.Collibra.Jobs
import CollibraGovernance.Collibra.JobsSpec
import CollibraGovernance.Library.Refusal
import CollibraGovernance.Plans.LoadErrors
import CollibraGovernance.Library.ReadEach
import CollibraGovernance.Snapshots.Validate
import CollibraGovernance.Snapshots.Load
import CollibraGovernance.Snapshots.LoadErrors
import CollibraGovernance.Openlineage.Validate
import CollibraGovernance.Openlineage.Events
import CollibraGovernance.Openlineage.Mapper
import CollibraGovernance.Openlineage.Faults
import CollibraGovernance.Openlineage.Readable
import CollibraGovernance.Openlineage.Errors
import CollibraGovernance.Library.Lines
import CollibraGovernance.GithubCi.Escaping
import CollibraGovernance.GithubCi.Report
import CollibraGovernance.GithubCi.ReportHeads
import CollibraGovernance.GithubCi.ReportLines
import CollibraGovernance.GithubCi.ReportSafety
import CollibraGovernance.Odcs.OrderSpec
import CollibraGovernance.Odcs.OrderSchema
import CollibraGovernance.Odcs.Order
import CollibraGovernance.Library.RelativePath
import CollibraGovernance.ConfigContract.RelativePaths
import CollibraGovernance.GithubCi.Comment
import CollibraGovernance.GithubCi.CommentRuns
import CollibraGovernance.Collibra.Pagination
import CollibraGovernance.Library.PrefixCode
import CollibraGovernance.GithubCi.HumanValue
import CollibraGovernance.Collibra.Lifecycle
import CollibraGovernance.Collibra.LifecycleSpec
import CollibraGovernance.Reconciliation.Boundary
import CollibraGovernance.Reconciliation.Proven
import CollibraGovernance.Domain.Canonical
import CollibraGovernance.Snapshots.ReadBack
import CollibraGovernance.Snapshots.RoundTrip
import CollibraGovernance.Snapshots.WriteLoad
import CollibraGovernance.Snapshots.Inverse
import CollibraGovernance.Snapshots.IdentitySpec
import CollibraGovernance.Snapshots.IdentityKept
import CollibraGovernance.Library.Described
import CollibraGovernance.Openlineage.Material
import CollibraGovernance.Openlineage.Facts
import CollibraGovernance.Openlineage.Ingest
import CollibraGovernance.Openlineage.Alike
import CollibraGovernance.Openlineage.Places
import CollibraGovernance.Openlineage.Lineage
import CollibraGovernance.Openlineage.Exact
import CollibraGovernance.Openlineage.Provenance
import CollibraGovernance.History.Recorded
import CollibraGovernance.History.Load
import CollibraGovernance.History.Append
import CollibraGovernance.History.Reread
import CollibraGovernance.History.Reload
import CollibraGovernance.History.Fits
import CollibraGovernance.History.AppendSpec
import CollibraGovernance.History.AppendRuns
import CollibraGovernance.History.AppendResolve
import CollibraGovernance.Dbt.Validate
import CollibraGovernance.Dbt.Mapper
import CollibraGovernance.Dbt.Resources
import CollibraGovernance.Dbt.Accept
import CollibraGovernance.Dbt.Exact
import CollibraGovernance.Collibra.CatalogMock
import CollibraGovernance.Collibra.CatalogLive
import CollibraGovernance.Collibra.Agreement
