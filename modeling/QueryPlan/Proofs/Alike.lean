import QueryPlan.Proofs.ReadingOrder
import QueryPlan.Proofs.Trees

set_option autoImplicit false

/-! # Alike queries

Two queries are alike when they differ at most in parameters, in locations, in the derived parts of
the select clause, and in literals that stand for one number or one instant. Queries that are alike
may share a plan. -/

namespace QueryPlan

/-! ## Values -/

/-- Decimals of the same numeric size are alike, whatever their scales, and timestamps of the same
    instant, whatever their offsets. Lists are alike item by item, anything else if it is equal. -/
inductive Value.Alike : Value → Value → Prop
  | same (v : Value) : Alike v v
  | decimal {a b : Decimal} : a.SameNumber b → Alike (.decimal a) (.decimal b)
  | timestamp {s t : Timestamp} : s.instant = t.instant → Alike (.timestamp s) (.timestamp t)
  | list {vs ws : List Value} : List.Forall₂ Alike vs ws → Alike (.list vs) (.list ws)

/-! ## Expressions -/

/-- Literals are alike if their values are, other atoms if they are equal. -/
inductive Atom.Alike : Atom → Atom → Prop
  | same (a : Atom) : Alike a a
  | literal {v w : Value} : v.Alike w → Alike (.literal v) (.literal w)

/-- Trees of the same form are alike if their atoms are. -/
inductive Expr.Alike : Expr → Expr → Prop
  | atom {a b : Atom} : a.Alike b → Alike (.atom a) (.atom b)
  | node (form : Form) {args args' : List Expr} :
    List.Forall₂ Alike args args' → Alike (.node form args) (.node form args')

/-- Only the trees of clause expressions count. -/
def ClauseExpr.Alike (e e' : ClauseExpr) : Prop :=
  e.expr.Alike e'.expr

/-! ## Queries -/

/-- All clauses have alike expressions in the same places, and the other parts are equal. -/
structure Query.Alike (p q : Query) : Prop where
  fromRef : p.fromRef = q.fromRef
  joins : p.joins.map Join.head = q.joins.map Join.head
  sources : p.sources = q.sources
  exprs : ∀ clause, List.Forall₂ ClauseExpr.Alike (p.clauseExprs clause) (q.clauseExprs clause)
  preloads : p.preloads = q.preloads
  assocs : p.assocs = q.assocs
  lock : p.lock = q.lock

/-! ## What alike expressions have in common -/

theorem Expr.alike_iff_sameShape {e e' : Expr} : e.Alike e' ↔ e.SameShape Atom.Alike e' := by
  constructor
  · intro h
    induction e using Expr.induction generalizing e' with
    | atom a =>
      cases h with
      | atom hab => exact .atom hab
    | node form args ih =>
      cases h with
      | node _ hargs => exact .node form (forall₂_imp_of_mem hargs fun arg harg _ => ih arg harg)
  · intro h
    exact Expr.SameShape.induction (fun a b => .atom) (fun form _ _ _ ih => .node form ih) h

namespace Expr.Alike

variable {e e' : Expr}

theorem refl (e : Expr) : e.Alike e :=
  alike_iff_sameShape.2 (.refl Atom.Alike.same e)

theorem placeholders_eq (h : e.Alike e') : e.placeholders = e'.placeholders := by
  refine filterMap_eq_of_forall₂ ((alike_iff_sameShape.1 h).atoms.imp fun a b hab => ?_)
  cases hab <;> rfl

theorem shift (h : e.Alike e') (offset : Nat) : (e.shift offset).Alike (e'.shift offset) := by
  refine alike_iff_sameShape.2 ((alike_iff_sameShape.1 h).mapAtoms fun a b hab => ?_)
  cases hab with
  | same => exact .same _
  | literal hvalue => exact .literal hvalue

/-- Their output columns are alike, from left to right. -/
theorem leaves (h : e.Alike e') : List.Forall₂ Expr.Alike e.leaves e'.leaves :=
  (alike_iff_sameShape.1 h).leaves.imp fun _ _ => alike_iff_sameShape.2

end Expr.Alike

end QueryPlan
