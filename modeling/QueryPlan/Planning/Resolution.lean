import QueryPlan.Planning.Error

set_option autoImplicit false

/-! # Resolution of sources

The first stage of planning finds the table and the model behind `fromRef` and behind every join,
from left to right. A join through an association becomes an explicit join: its source is the
related model, and the equality of the two keys goes in front of its condition. -/

namespace QueryPlan

/-- The default table of a model, which must exist. -/
def Catalog.requireTable (catalog : Catalog) (model : ModelName) : Except PlanError String :=
  match catalog.table model with
  | some table => .ok table
  | none => .error (.unknownModel model)

/-- The source that a written source stands for. -/
def TableRef.resolve (catalog : Catalog) : TableRef → Except PlanError Source
  | .table name => .ok { table := name }
  | .model name => do
    let default ← catalog.requireTable name
    return { table := default, model := some name }
  | .modelAt location name => .ok { table := location, model := some name }

/-- The condition that joins source `index` to source `binding` through an association. -/
def Association.keysEqual (association : Association) (index binding : Nat) : Expr :=
  .eq (.field index association.relatedKey) (.field binding association.ownerKey)

/-- Puts a condition in front of a written one. The literal true adds nothing and is replaced. -/
def ClauseExpr.onlyIf (e : ClauseExpr) (condition : Expr) : ClauseExpr :=
  match e.expr with
  | .atom (.literal (.bool true)) => { e with expr := condition }
  | written => { e with expr := .and condition written }

/-- Resolves a join, given the sources before it. -/
def Join.resolve (catalog : Catalog) (sources : List Source) (join : Join) :
    Except PlanError (Join × Source) :=
  match join.target with
  | .explicit ref => do
    let source ← ref.resolve catalog
    return (join, source)
  | .association binding name => do
    let owner ← sourceAt .join sources binding
    match owner.model with
    | none => .error (.sourceWithoutModel .join binding owner.table)
    | some model =>
      match catalog.association model name with
      | none => .error (.unknownAssociation model name)
      | some association =>
        let table ← catalog.requireTable association.related
        let resolved : Join :=
          { kind := join.kind
            target := .explicit (.modelAt table association.related)
            on := join.on.onlyIf (association.keysEqual sources.length binding) }
        return (resolved, { table, model := some association.related })

/-- Resolves joins from left to right. Gives the resolved joins and their sources. -/
def resolveJoins (catalog : Catalog) (sources : List Source) :
    List Join → Except PlanError (List Join × List Source)
  | [] => .ok ([], [])
  | join :: rest => do
    let (join, source) ← join.resolve catalog sources
    let (joins, more) ← resolveJoins catalog (sources ++ [source]) rest
    return (join :: joins, source :: more)

/-- Resolves all sources of a query. -/
def Query.resolve (catalog : Catalog) (q : Query) : Except PlanError Query :=
  match q.fromRef with
  | none => .error .missingFrom
  | some ref => do
    let first ← ref.resolve catalog
    let (joins, more) ← resolveJoins catalog [first] q.joins
    return { q with joins, sources := first :: more }

end QueryPlan
