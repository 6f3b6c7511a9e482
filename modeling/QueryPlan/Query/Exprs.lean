import QueryPlan.Query

set_option autoImplicit false

/-! # The expressions of a query

Every stage of planning reads the expressions of a query in the same order. `Query.exprs` lists them
with their clauses. -/

namespace QueryPlan.Query

/-- The expressions of one clause in the order in which they were written. -/
def clauseExprs (q : Query) : Clause → List ClauseExpr
  | .select => q.select.toList.map (·.expr)
  | .distinct => q.distincts
  | .join => q.joins.map (·.on)
  | .filter => q.filters
  | .groupBy => q.groupings
  | .having => q.havings
  | .orderBy => q.orderings
  | .limit => q.limit.toList
  | .offset => q.offset.toList

/-- All expressions with their clauses, in reading order. -/
def exprs (q : Query) : List (Clause × ClauseExpr) :=
  Clause.all.flatMap fun clause => (q.clauseExprs clause).map (clause, ·)

@[simp] theorem mem_exprs {q : Query} {clause : Clause} {e : ClauseExpr} :
    (clause, e) ∈ q.exprs ↔ e ∈ q.clauseExprs clause := by
  simp only [exprs, List.mem_flatMap, List.mem_map, Prod.mk.injEq]
  constructor
  · rintro ⟨_, _, e', he, rfl, rfl⟩
    exact he
  · intro he
    exact ⟨clause, Clause.mem_all clause, e, he, rfl, rfl⟩

/-- The number of local parameters in all clauses. -/
def paramCount (q : Query) : Nat :=
  (q.exprs.flatMap fun row => row.2.params).length

/-- The number of placeholders in all clauses. -/
def placeholderCount (q : Query) : Nat :=
  (q.exprs.flatMap fun row => row.2.expr.placeholders).length

end QueryPlan.Query
