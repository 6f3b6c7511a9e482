import QueryPlan.Expr
import QueryPlan.JoinKind
import QueryPlan.Schema.Catalog

set_option autoImplicit false

/-! # Queries

A query as it is written and as it is planned: sources, clauses of expressions with their local
parameters, and the associations that are loaded with the result. Planning turns queries into
queries; what it adds are the resolved sources and the fields of the select clause. -/

namespace QueryPlan

/-! ## Clauses -/

/-- The kinds of clauses that hold expressions. -/
inductive Clause
  | select
  | distinct
  | join
  | filter
  | groupBy
  | having
  | orderBy
  | limit
  | offset
deriving DecidableEq

namespace Clause

/-- The name of a clause. -/
def text : Clause → String
  | select => "select"
  | distinct => "distinct"
  | join => "join"
  | filter => "where"
  | groupBy => "group_by"
  | having => "having"
  | orderBy => "order_by"
  | limit => "limit"
  | offset => "offset"

/-- All clauses in the order in which a query is read. Parameters and placeholders are numbered in
    this order. -/
def all : List Clause :=
  [select, distinct, join, filter, groupBy, having, orderBy, limit, offset]

theorem mem_all (c : Clause) : c ∈ all := by
  cases c <;> decide

theorem nodup_all : all.Nodup := by
  decide

end Clause

/-! ## Clause expressions -/

/-- Where an expression was written. -/
structure Location where
  file : String := "nofile"
  line : Nat := 0
deriving DecidableEq

/-- A location as file and line. -/
def Location.text (l : Location) : String :=
  l.file ++ ":" ++ toString l.line

/-- The type that a parameter is cast to, as far as it is known when the query is written. -/
inductive ParamType
  | plain (type : FieldType)
  /-- The declared type of a field of a source. -/
  | ofField (binding : Nat) (field : String)
  /-- A list, each item of the inner type, to test membership in. -/
  | listOf (inner : ParamType)
deriving DecidableEq

/-- A value that stands for a placeholder of its expression. -/
structure LocalParam where
  value : Value
  type : ParamType

/-- An expression of a clause with its parameters, each under the number of its placeholder. -/
structure ClauseExpr where
  expr : Expr
  params : List (Nat × LocalParam) := []
  location : Location := {}

namespace ClauseExpr

/-- Adds a parameter under the next number. -/
def bind (e : ClauseExpr) (value : Value) (type : ParamType) : ClauseExpr :=
  { e with params := e.params ++ [(e.params.length, { value, type })] }

/-- Drops the parameters. -/
def withoutParams (e : ClauseExpr) : ClauseExpr :=
  { e with params := [] }

/-- Adds `offset` to the number of every placeholder in the expression. -/
def shift (offset : Nat) (e : ClauseExpr) : ClauseExpr :=
  { e with expr := e.expr.shift offset }

/-- How many placeholders the expression has. -/
def placeholderCount (e : ClauseExpr) : Nat :=
  e.expr.placeholderCount

end ClauseExpr

/-! ## Sources -/

/-- A source as it is written. -/
inductive TableRef
  /-- A table without a model; its fields have any type. -/
  | table (table : String)
  /-- A model on its default table. -/
  | model (model : ModelName)
  /-- A model on another table. -/
  | modelAt (table : String) (model : ModelName)
deriving DecidableEq

/-- A resolved source: a table, and its model if it has one. -/
structure Source where
  table : String
  model : Option ModelName := none
deriving DecidableEq

/-- What a join adds to the query. -/
inductive JoinTarget
  | explicit (ref : TableRef)
  /-- The model behind an association of an earlier source. -/
  | association (binding : Nat) (name : String)
deriving DecidableEq

/-- A join and its condition. -/
structure Join where
  kind : JoinKind
  target : JoinTarget
  on : ClauseExpr

/-- The source and the name of the association that a join goes through, if it does. -/
def Join.association? (j : Join) : Option (Nat × String) :=
  match j.target with
  | .association binding name => some (binding, name)
  | .explicit _ => none

/-! ## Result -/

/-- The select clause. All but the expression is filled in by planning. -/
structure Select where
  expr : ClauseExpr
  /-- The fields to read: the row of the first source if it is included, then the rows of loaded
      associations, then the other output columns. -/
  fields : List Expr := []
  /-- Whether the row of the first source is part of the result. -/
  includesFrom : Bool := false
  /-- How many of the fields are rows of loaded associations. -/
  assocCount : Nat := 0

/-- An association that is loaded with the row of its parent, the source that holds its rows, and
    the associations that are loaded below it. -/
structure AssocNode where
  name : String
  binding : Nat
  children : List AssocNode

/-- Associations with a common parent, in the order in which they are read. -/
abbrev AssocForest := List AssocNode

/-! ## Queries -/

/-- A query. Source 0 is the one of `fromRef`, source `k` the one of the `k`-th join. -/
structure Query where
  fromRef : Option TableRef := none
  joins : List Join := []
  filters : List ClauseExpr := []
  havings : List ClauseExpr := []
  groupings : List ClauseExpr := []
  orderings : List ClauseExpr := []
  distincts : List ClauseExpr := []
  select : Option Select := none
  limit : Option ClauseExpr := none
  offset : Option ClauseExpr := none
  /-- The resolved sources; none before planning. -/
  sources : List Source := []
  /-- Associations that separate queries load. -/
  preloads : List String := []
  /-- Associations that this query loads from its joins. -/
  assocs : AssocForest := []
  /-- The row lock to take. -/
  lock : Option String := none

/-- The model of a source, if the source is resolved and has one. -/
def Query.modelAt (q : Query) (binding : Nat) : Option ModelName :=
  q.sources[binding]?.bind (·.model)

end QueryPlan
