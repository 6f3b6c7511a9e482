import QueryPlan.Json.Options
import QueryPlan.Planner
import QueryPlan.Query.Building
import QueryPlan.Schema.Declaration
import QueryPlan.Proofs.ReadingOrder
import QueryPlan.Proofs.Resolution
import QueryPlan.Proofs.Stages
import QueryPlan.Proofs.Parameters
import QueryPlan.Proofs.Placeholders
import QueryPlan.Proofs.References
import QueryPlan.Proofs.Preload
import QueryPlan.Proofs.WellFormed
import QueryPlan.Proofs.Positions
import QueryPlan.Proofs.InvalidReferences
import QueryPlan.Proofs.LoadableAssociations
import QueryPlan.Proofs.OutputColumns
import QueryPlan.Proofs.Alike
import QueryPlan.Proofs.Encoding.Faithful
import QueryPlan.Proofs.Decimals
import QueryPlan.Proofs.Encoding.Values
import QueryPlan.Proofs.Encoding.Exprs
import QueryPlan.Proofs.Encoding.Queries
import QueryPlan.Proofs.CacheHit
import QueryPlan.Proofs.Sources
import QueryPlan.Proofs.Growth
import QueryPlan.Proofs.Declarations
import QueryPlan.Proofs.AssociationJoins
import QueryPlan.Proofs.Joinable
import QueryPlan.Proofs.Numbering
import QueryPlan.Proofs.Mentions
import QueryPlan.Proofs.Settled
import QueryPlan.Proofs.Shifting
import QueryPlan.Proofs.Renormalization
import QueryPlan.Proofs.Noninterference
import QueryPlan.Proofs.ExactResolution
import QueryPlan.Proofs.Merging
import QueryPlan.Proofs.JoinedAssociations
import QueryPlan.Proofs.Encoding.Wrapping
import QueryPlan.Proofs.WideIndices
import QueryPlan.Proofs.NullItems
import QueryPlan.Proofs.Casting
import QueryPlan.Proofs.Compatibility
import QueryPlan.Proofs.RestrictedQueries
import QueryPlan.Proofs.ParameterOrder
import QueryPlan.Proofs.BuildOrder
import QueryPlan.Proofs.ParentModels
import QueryPlan.Proofs.SchemaDefects
import QueryPlan.Proofs.FieldLookups
