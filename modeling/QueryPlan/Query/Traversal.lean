import QueryPlan.Query.Exprs

set_option autoImplicit false

/-! # Walks over a query

A stage of planning that counts something visits the expressions of a query one after the other and
writes back what it makes of each. Between two visits it hands on what it has counted so far. -/

namespace QueryPlan.Query

/-- Writes expressions back into the places of a clause. -/
def withClause (q : Query) (clause : Clause) (es : List ClauseExpr) : Query :=
  match clause with
  | .select =>
    { q with select := (q.select.toList.zipWith (fun s expr => { s with expr }) es).head? }
  | .distinct => { q with distincts := es }
  | .join => { q with joins := q.joins.zipWith (fun j on => { j with on }) es }
  | .filter => { q with filters := es }
  | .groupBy => { q with groupings := es }
  | .having => { q with havings := es }
  | .orderBy => { q with orderings := es }
  | .limit => { q with limit := es.head? }
  | .offset => { q with offset := es.head? }

/-- Visits all expressions in reading order, clause by clause, and writes back the results. -/
def traverse {m : Type → Type} [Monad m] (visit : Clause → ClauseExpr → m ClauseExpr) (q : Query) :
    m Query :=
  Clause.all.foldlM (fun q clause => do
    let es ← (q.clauseExprs clause).mapM (visit clause)
    return q.withClause clause es) q

end QueryPlan.Query
