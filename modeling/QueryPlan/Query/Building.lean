import QueryPlan.Query

set_option autoImplicit false

/-! # Building queries

A query is built step by step from an empty one or from its first source. Nothing is checked here;
that is the task of planning. Each step touches one part of the query: it adds to a list or it sets
a single value. -/

namespace QueryPlan

/-- One step in building a query. -/
inductive BuildStep
  | join (kind : JoinKind) (ref : TableRef) (on : ClauseExpr)
  | joinAssociation (kind : JoinKind) (binding : Nat) (name : String) (on : ClauseExpr)
  | filter (e : ClauseExpr)
  | having (e : ClauseExpr)
  | groupBy (e : ClauseExpr)
  | orderBy (e : ClauseExpr)
  | distinct (e : ClauseExpr)
  | select (e : ClauseExpr)
  | limit (e : ClauseExpr)
  | offset (e : ClauseExpr)
  | preload (path : String)
  | assocs (forest : AssocForest)
  | lock (text : String)

/-- The condition of a join that has none: the value true. -/
def ClauseExpr.always : ClauseExpr where
  expr := .literal (.bool true)

namespace Query

/-- The query over one source. -/
def ofSource (ref : TableRef) : Query where
  fromRef := some ref

/-- Takes one building step. -/
def build (q : Query) : BuildStep → Query
  | .join kind ref on => { q with joins := q.joins ++ [⟨kind, .explicit ref, on⟩] }
  | .joinAssociation kind binding name on =>
    { q with joins := q.joins ++ [⟨kind, .association binding name, on⟩] }
  | .filter e => { q with filters := q.filters ++ [e] }
  | .having e => { q with havings := q.havings ++ [e] }
  | .groupBy e => { q with groupings := q.groupings ++ [e] }
  | .orderBy e => { q with orderings := q.orderings ++ [e] }
  | .distinct e => { q with distincts := q.distincts ++ [e] }
  | .select e => { q with select := some { expr := e } }
  | .limit e => { q with limit := some e }
  | .offset e => { q with offset := some e }
  | .preload path => { q with preloads := q.preloads ++ [path] }
  | .assocs forest => { q with assocs := forest }
  | .lock text => { q with lock := some text }

/-- Takes several building steps, one after the other. -/
def buildAll (q : Query) (steps : List BuildStep) : Query :=
  steps.foldl build q

@[simp] theorem buildAll_nil (q : Query) : q.buildAll [] = q := rfl

@[simp] theorem buildAll_cons (q : Query) (step : BuildStep) (steps : List BuildStep) :
    q.buildAll (step :: steps) = (q.build step).buildAll steps := rfl

end Query

end QueryPlan
