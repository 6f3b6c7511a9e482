import QueryPlan.Numeric.Counting
import QueryPlan.Planning.Error
import QueryPlan.Query.Traversal

set_option autoImplicit false

/-! # References and placeholders

Every source and every field that an expression mentions must exist, and a field must have the type
that its place expects. Sources without a model have every field.

The walk that checks this also numbers the placeholders. Each expression has its own numbers from 0
on before; they are moved past the placeholders of the expressions visited earlier. -/

namespace QueryPlan

/-! ## Checks -/

/-- Checks the access to a field. -/
def FieldAccess.check (catalog : Catalog) (sources : List Source) (clause : Clause)
    (location : Location) (access : FieldAccess) : Except PlanError Unit := do
  let source ← sourceAt clause sources access.binding
  match source.model with
  | none => .ok ()
  | some model =>
    match catalog.fieldType model access.name with
    | none => .error (.unknownField clause model access.name location)
    | some actual =>
      match access.expected with
      | none => .ok ()
      | some expected =>
        if actual.compatible expected then .ok ()
        else .error (.typeMismatch clause model access.name actual expected location)

/-- Checks a reference. -/
def Reference.check (catalog : Catalog) (sources : List Source) (clause : Clause)
    (location : Location) : Reference → Except PlanError Unit
  | .binding index => do
    let _ ← sourceAt clause sources index
    return ()
  | .field access => access.check catalog sources clause location

/-! ## The walk -/

section

variable (counting : Counting) (check : Reference → Except PlanError Unit) (base : Nat)

/-- Checks what an atom refers to. A placeholder is moved by `base` and counted, whatever its number
    is. -/
def Atom.assign : Atom → StateT Nat (Except PlanError) Atom
  | .placeholder key => do
    modify (counting.add · 1)
    return .placeholder (counting.add base key)
  | .field access => do
    check (.field access)
    return .field access
  | .binding index => do
    check (.binding index)
    return .binding index
  | .literal value => return .literal value

mutual

/-- Visits the atoms of an expression from left to right. The counter moves on, `base` does not. -/
def Expr.assign : Expr → StateT Nat (Except PlanError) Expr
  | .atom a => return .atom (← a.assign counting check base)
  | .node form args => return .node form (← Expr.assignAll args)

/-- Visits several expressions from left to right. -/
def Expr.assignAll : List Expr → StateT Nat (Except PlanError) (List Expr)
  | [] => return []
  | e :: es => return (← Expr.assign e) :: (← Expr.assignAll es)

end

end

/-- Checks the references of an expression and moves its placeholders by what the counter is when
    the expression is entered. -/
def ClauseExpr.assign (counting : Counting) (catalog : Catalog) (sources : List Source)
    (clause : Clause) (e : ClauseExpr) : StateT Nat (Except PlanError) ClauseExpr := do
  let base ← get
  let expr ← e.expr.assign counting (Reference.check catalog sources clause e.location) base
  return { e with expr }

/-- Checks the references and numbers the placeholders of all expressions of a query. -/
def Query.assign (counting : Counting) (catalog : Catalog) (q : Query) :
    StateT Nat (Except PlanError) Query :=
  q.traverse (ClauseExpr.assign counting catalog q.sources)

end QueryPlan
