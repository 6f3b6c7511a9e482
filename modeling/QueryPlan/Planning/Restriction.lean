import QueryPlan.Planning.Error

set_option autoImplicit false

/-! # Restricted queries

A query that is embedded as a condition in another one may have filters and nothing else besides
its source. -/

namespace QueryPlan

/-- How a query is planned. -/
structure Options where
  /-- Only filters are allowed, and the select clause stays as it is. -/
  filterOnly : Bool := false
deriving DecidableEq

/-- Whether a query has nothing but filters. -/
def Query.hasOnlyFilters (q : Query) : Bool :=
  q.joins.isEmpty && q.select.isNone && q.orderings.isEmpty && q.limit.isNone &&
    q.offset.isNone && q.groupings.isEmpty && q.havings.isEmpty && q.preloads.isEmpty &&
    q.assocs.isEmpty && q.distincts.isEmpty && q.lock.isNone

/-- Refuses a query that the options do not admit. -/
def Query.checkOptions (options : Options) (q : Query) : Except PlanError Unit :=
  if options.filterOnly && !q.hasOnlyFilters then .error .notOnlyFilters else .ok ()

end QueryPlan
