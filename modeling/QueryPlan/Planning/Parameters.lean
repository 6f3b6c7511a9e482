import QueryPlan.Numeric.Counting
import QueryPlan.Planning.Error
import QueryPlan.Query.Traversal

set_option autoImplicit false

/-! # Merging of parameters

The second stage of planning collects the local parameters of all expressions into one list, in
reading order and within an expression by their numbers. On the way each parameter is cast to its
type; null is refused for every type, because a comparison with null is never what was meant. -/

namespace QueryPlan

/-! ## Types -/

/-- A type to cast to, and the field of a model that it was declared for, if it was. -/
structure ResolvedType where
  type : CastType
  field : Option (ModelName × String) := none
deriving DecidableEq

/-- Finds the type of a parameter. A field of a source without a model may be anything. -/
def ParamType.resolve (catalog : Catalog) (sources : List Source) (clause : Clause)
    (location : Location) : ParamType → Except PlanError ResolvedType
  | .plain type => .ok { type := .plain type }
  | .ofField binding field => do
    let source ← sourceAt clause sources binding
    match source.model with
    | none => .ok { type := .plain .any }
    | some model =>
      match catalog.fieldType model field with
      | none => .error (.unknownField clause model field location)
      | some type => .ok { type := .plain type, field := some (model, field) }
  | .listOf inner => do
    let resolved ← inner.resolve catalog sources clause location
    return { resolved with type := .listOf resolved.type }

/-! ## Parameters in place -/

/-- A local parameter together with the place where it stands. -/
structure ParamUse where
  clause : Clause
  location : Location
  param : LocalParam

/-- Checks a parameter and casts it to its type. -/
def ParamUse.cast (catalog : Catalog) (caster : Caster) (sources : List Source) (use : ParamUse) :
    Except PlanError Value := do
  let resolved ← use.param.type.resolve catalog sources use.clause use.location
  if use.param.value.isNull then
    .error (.nullParam use.clause resolved.type use.location)
  else
    match caster.castParam resolved.type use.param.value with
    | some value => .ok value
    | none =>
      .error (.invalidParam use.clause use.param.value resolved.type resolved.field use.location)

/-- The parameters of an expression in the order of their numbers; equal numbers keep the order in
    which they are listed. -/
def ClauseExpr.sortedParams (e : ClauseExpr) : List (Nat × LocalParam) :=
  e.params.mergeSort fun p q => p.1 ≤ q.1

/-- The parameters of an expression of a clause, in place. -/
def ClauseExpr.paramUses (clause : Clause) (e : ClauseExpr) : List ParamUse :=
  e.sortedParams.map fun row => { clause, location := e.location, param := row.2 }

/-! ## The walk -/

/-- The parameters that have been merged so far, each under its number. -/
abbrev Merged := List (Nat × Value)

section

variable (counting : Counting) (catalog : Catalog) (caster : Caster) (sources : List Source)
  (base : Nat)

/-- Casts a parameter and adds it to the merged ones, under the number behind theirs. -/
def ParamUse.merge (use : ParamUse) : StateT Merged (Except PlanError) Unit := do
  let value ← use.cast catalog caster sources
  modify fun merged => merged ++ [(counting.add base merged.length, value)]

/-- Merges the parameters of an expression, which keeps none. -/
def ClauseExpr.merge (clause : Clause) (e : ClauseExpr) :
    StateT Merged (Except PlanError) ClauseExpr := do
  (e.paramUses clause).forM (ParamUse.merge counting catalog caster sources base)
  return e.withoutParams

/-- Merges the parameters of all expressions of a query. -/
def Query.merge (q : Query) : StateT Merged (Except PlanError) Query :=
  q.traverse (ClauseExpr.merge counting catalog caster q.sources base)

end

end QueryPlan
