import QueryPlan.CacheKey
import QueryPlan.Planning.Parameters
import QueryPlan.Planning.Preload
import QueryPlan.Planning.Projection
import QueryPlan.Planning.References
import QueryPlan.Planning.Resolution
import QueryPlan.Planning.Restriction
import QueryPlan.Value.Standard

set_option autoImplicit false

/-! # Planning

Planning has two phases. `prepare` resolves the sources and merges the parameters; the structure of
its result is the key of the plan. `normalize` is needed once per key: it checks the references,
numbers the placeholders, flattens the select clause and checks the loaded associations. `plan`
does both.

A machine plans in words, where a sum may wrap around. As long as none does, the numbers are the
exact ones, and these are what most of the theory is about. -/

namespace QueryPlan

/-- What planning depends on: the known models and the way parameters are cast. -/
structure Planner where
  catalog : Catalog
  caster : Caster := Caster.standard

/-- A query with resolved sources and without parameters of its own, and its parameters. -/
structure Prepared where
  query : Query
  /-- Each parameter under the number that its placeholder will have. -/
  params : List (Nat × Value)

namespace Prepared

/-- The parameters in the order of their numbers. -/
def values (p : Prepared) : List Value :=
  p.params.map Prod.snd

/-- The key under which a plan for the query is kept. -/
def cacheKey (p : Prepared) : CacheKey :=
  .ofQuery p.query

end Prepared

/-- A normalized query and the number of the next placeholder. -/
structure Normalized where
  query : Query
  counter : Nat

/-- A planned query and the values of all its placeholders. -/
structure Plan where
  query : Query
  params : List Value

namespace Planner

/-! ## Planning in any numbers -/

section

variable (planner : Planner) (counting : Counting)

/-- Resolves the sources of a query and merges its parameters, which are numbered from `base`
    on. -/
def prepareWith (q : Query) (base : Nat) : Except PlanError Prepared := do
  let resolved ← q.resolve planner.catalog
  let (query, params) ← (resolved.merge counting planner.catalog planner.caster base).run []
  return { query, params }

/-- Normalizes a query, whose placeholders are numbered from `counter` on. -/
def normalizeWith (q : Query) (counter : Nat) (options : Options) :
    Except PlanError Normalized := do
  q.checkOptions options
  let (numbered, next) ← (q.assign counting planner.catalog).run counter
  let projected ← if options.filterOnly then pure numbered else numbered.project
  projected.checkPreload planner.catalog
  return { query := projected, counter := next }

/-- Prepares and normalizes a query behind parameters that are bound already. -/
def planWith (q : Query) (bound : List Value) (options : Options) : Except PlanError Plan := do
  let prepared ← planner.prepareWith counting q bound.length
  let normalized ← planner.normalizeWith counting prepared.query bound.length options
  return { query := normalized.query, params := bound ++ prepared.values }

end

/-! ## Planning without a bound on numbers -/

/-- Prepares a query with exact numbers. -/
def prepare (planner : Planner) (q : Query) (base : Nat) : Except PlanError Prepared :=
  planner.prepareWith .unbounded q base

/-- Normalizes a query with exact numbers. -/
def normalize (planner : Planner) (q : Query) (counter : Nat) (options : Options) :
    Except PlanError Normalized :=
  planner.normalizeWith .unbounded q counter options

/-- Plans a query with exact numbers. -/
def plan (planner : Planner) (q : Query) (bound : List Value) (options : Options) :
    Except PlanError Plan :=
  planner.planWith .unbounded q bound options

end Planner

end QueryPlan
