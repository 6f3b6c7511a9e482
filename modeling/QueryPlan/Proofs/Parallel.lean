import QueryPlan.Proofs.Alike
import QueryPlan.Proofs.Preload
import QueryPlan.Proofs.Stages

set_option autoImplicit false

/-! # Parallel queries

No check of planning looks at the number of a placeholder, at a literal or at a location. Queries
that differ in nothing else are parallel: they pass each check together, or fail it with errors that
differ at most in locations, from whatever number their placeholders are counted. -/

namespace QueryPlan

/-! ## Outcomes -/

/-- The error as it would be at an unknown place. -/
def PlanError.withoutLocation : PlanError → PlanError
  | .unknownField clause model field _ => .unknownField clause model field {}
  | .typeMismatch clause model field actual expected _ =>
    .typeMismatch clause model field actual expected {}
  | .nullParam clause type _ => .nullParam clause type {}
  | .invalidParam clause value type field _ => .invalidParam clause value type field {}
  | error => error

/-- Two errors differ at most in their locations. -/
def PlanError.SameCause (error error' : PlanError) : Prop :=
  error.withoutLocation = error'.withoutLocation

/-- Two steps with the same outcome, up to the location of an error. -/
abbrev SameOutcome {α : Type} (x y : Except PlanError α) : Prop :=
  ResultRel PlanError.SameCause Eq x y

theorem SameOutcome.of_eq {α : Type} {x y : Except PlanError α} (h : x = y) : SameOutcome x y :=
  ResultRel.of_eq h fun _ => rfl

/-! ## Expressions -/

/-- Atoms that refer to the same thing, or both to nothing. -/
def Atom.Parallel (a b : Atom) : Prop :=
  a.reference? = b.reference?

/-- Trees of one shape that refer to the same things. -/
def Expr.Parallel (e e' : Expr) : Prop :=
  e.SameShape Atom.Parallel e'

namespace Expr.Parallel

variable {e e' : Expr}

theorem refl (e : Expr) : e.Parallel e :=
  Expr.SameShape.refl (R := Atom.Parallel) (fun _ => rfl) e

theorem references_eq (h : e.Parallel e') : e.references = e'.references :=
  filterMap_eq_of_forall₂ h.atoms

theorem shift (h : e.Parallel e') (offset offset' : Nat) :
    (e.shift offset).Parallel (e'.shift offset') := by
  refine h.mapAtoms fun a b hab => ?_
  rw [Atom.Parallel, Atom.reference?_shift, Atom.reference?_shift, hab]

theorem isFromRow_eq (h : e.Parallel e') : e.isFromRow = e'.isFromRow := by
  cases h with
  | @atom a b hab =>
    cases a <;> cases b <;> cases hab <;> rfl
  | node form _ => rfl

theorem checkColumn_eq (h : e.Parallel e') (sources : List Source) :
    e.checkColumn sources = e'.checkColumn sources := by
  cases h with
  | @atom a b hab =>
    cases a <;> cases b <;> cases hab <;> rfl
  | node form _ => rfl

/-- Of parallel output columns, the same may be selected and the same are the first row. -/
theorem any_isFromRow_eq (h : e.Parallel e') :
    e.leaves.any Expr.isFromRow = e'.leaves.any Expr.isFromRow :=
  any_eq_of_forall₂ ((Expr.SameShape.leaves h).imp fun _ _ hleaf => isFromRow_eq hleaf)

theorem checkColumns_eq (h : e.Parallel e') (sources : List Source) :
    e.leaves.forM (Expr.checkColumn sources) = e'.leaves.forM (Expr.checkColumn sources) :=
  forM_eq_of_forall₂ ((Expr.SameShape.leaves h).imp fun _ _ hleaf => checkColumn_eq hleaf sources)

end Expr.Parallel

theorem Expr.parallel_rekey (f : Nat → Nat) (e : Expr) : e.Parallel (e.rekey f) :=
  Expr.sameShape_mapAtoms fun a _ => (Atom.reference?_rekey f a).symm

theorem Expr.Alike.parallel {e e' : Expr} (h : e.Alike e') : e.Parallel e' := by
  refine (Expr.alike_iff_sameShape.1 h).imp fun a b hab => ?_
  cases hab <;> rfl

/-! ## Queries -/

/-- All clauses have parallel expressions in the same places, and the other parts are equal. -/
structure Query.Parallel (p q : Query) : Prop extends p.SameFrame q where
  exprs : ∀ clause, List.Forall₂ (fun e e' : ClauseExpr => e.expr.Parallel e'.expr)
    (p.clauseExprs clause) (q.clauseExprs clause)

theorem Query.Alike.parallel {p q : Query} (h : p.Alike q) : p.Parallel q where
  fromRef := h.fromRef.symm
  joins := h.joins.symm
  sources := h.sources.symm
  preloads := h.preloads.symm
  assocs := h.assocs.symm
  lock := h.lock.symm
  exprs clause := (h.exprs clause).imp fun _ _ halike => Expr.Alike.parallel halike

/-! ## Restricted queries -/

/-- What a query must not have besides its filters, as far as this is in its clauses. -/
theorem Query.hasOnlyFilters_eq (q : Query) :
    q.hasOnlyFilters = ((Clause.all.erase .filter).all (fun clause =>
      (q.clauseExprs clause).isEmpty) && q.preloads.isEmpty && q.assocs.isEmpty &&
        q.lock.isNone) := by
  have hclauses : Clause.all.erase .filter
      = [.select, .distinct, .join, .groupBy, .having, .orderBy, .limit, .offset] := rfl
  have hoption {α : Type} (a : Option α) : a.toList.isEmpty = a.isNone := by
    cases a <;> rfl
  simp only [Query.hasOnlyFilters, hclauses, List.all_cons, List.all_nil, Query.clauseExprs,
    List.isEmpty_map, hoption, Bool.and_true]
  -- The same tests in another order.
  ac_rfl

namespace Query.Parallel

variable {p q : Query}

theorem isEmpty_eq (h : p.Parallel q) (clause : Clause) :
    (p.clauseExprs clause).isEmpty = (q.clauseExprs clause).isEmpty := by
  rw [Bool.eq_iff_iff, List.isEmpty_iff_length_eq_zero, List.isEmpty_iff_length_eq_zero,
    (h.exprs clause).length_eq]

theorem checkOptions_eq (h : p.Parallel q) (options : Options) :
    p.checkOptions options = q.checkOptions options := by
  simp only [Query.checkOptions, Query.hasOnlyFilters_eq, h.isEmpty_eq, h.preloads, h.assocs,
    h.lock]

end Query.Parallel

/-! ## References -/

/-- The location of a field only shows in errors. -/
theorem FieldAccess.check_sameOutcome (catalog : Catalog) (sources : List Source) (clause : Clause)
    (location location' : Location) (access : FieldAccess) :
    SameOutcome (access.check catalog sources clause location)
      (access.check catalog sources clause location') := by
  unfold FieldAccess.check
  refine ResultRel.bind (SameOutcome.of_eq rfl) ?_
  rintro source _ rfl
  -- Every branch is taken by both, and no branch looks at the location.
  cases source.model with
  | none => exact .ok rfl
  | some model =>
    dsimp only
    cases catalog.fieldType model access.name with
    | none => exact .error rfl
    | some actual =>
      dsimp only
      cases access.expected with
      | none => exact .ok rfl
      | some expected =>
        dsimp only
        by_cases hcompatible : actual.compatible expected = true
        · rw [if_pos hcompatible, if_pos hcompatible]
          exact .ok rfl
        · rw [if_neg hcompatible, if_neg hcompatible]
          exact .error rfl

theorem Expr.Parallel.checkReferences {e e' : ClauseExpr} (h : e.expr.Parallel e'.expr)
    (catalog : Catalog) (sources : List Source) (clause : Clause) :
    SameOutcome (e.checkReferences catalog sources clause)
      (e'.checkReferences catalog sources clause) := by
  unfold ClauseExpr.checkReferences
  rw [h.references_eq]
  refine ResultRel.forM (List.forall₂_same.2 fun r _ => rfl) ?_
  rintro r _ rfl
  cases r with
  | binding index => exact SameOutcome.of_eq rfl
  | field access => exact FieldAccess.check_sameOutcome _ _ _ _ _ access

namespace Query.Parallel

variable {p q : Query}

theorem checkReferences (h : p.Parallel q) (catalog : Catalog) :
    SameOutcome (p.checkReferences catalog) (q.checkReferences catalog) := by
  unfold Query.checkReferences
  refine ResultRel.forM (Query.exprs_forall₂ h.exprs) ?_
  rintro ⟨clause, e⟩ ⟨_, e'⟩ ⟨rfl, hparallel⟩
  rw [h.sources]
  exact Expr.Parallel.checkReferences hparallel catalog p.sources clause

/-! ## The select clause -/

/-- Wherever the numbers start, renumbered queries are parallel. -/
theorem renumber (h : p.Parallel q) (counter counter' : Nat) :
    (p.renumber counter).Parallel (q.renumber counter') := by
  refine ⟨h.toSameFrame.mapExprs _ _, fun clause => ?_⟩
  rw [Query.renumber, Query.renumber, Query.clauseExprs_mapExprs, Query.clauseExprs_mapExprs]
  exact forall₂_mapIdx (h.exprs clause) fun _ _ _ hparallel => hparallel.shift _ _

theorem selectOrDefault (h : p.Parallel q) :
    p.selectOrDefault.expr.expr.Parallel q.selectOrDefault.expr.expr :=
  Query.selectOrDefault_rel (R := fun e e' => e.expr.Parallel e'.expr) (.refl _) (h.exprs .select)

/-- Filling in the select clauses of parallel queries gives parallel queries, or fails for both. -/
theorem project (h : p.Parallel q) :
    ResultRel PlanError.SameCause Query.Parallel p.project q.project := by
  have hexpr := h.selectOrDefault
  unfold Query.project
  refine ResultRel.bind (SameOutcome.of_eq ?_) ?_
  · rw [h.sources]
    exact hexpr.checkColumns_eq p.sources
  · intro _ _ _
    rw [h.assocs, hexpr.any_isFromRow_eq]
    split
    · exact .error rfl
    · refine .ok ⟨⟨h.fromRef, h.joins, h.sources, h.preloads, rfl, h.lock⟩, fun clause => ?_⟩
      have hclause := h.exprs clause
      cases clause with
      | select => exact .cons hexpr .nil
      | _ => exact hclause

theorem projectFor (h : p.Parallel q) (options : Options) :
    ResultRel PlanError.SameCause Query.Parallel (p.projectFor options) (q.projectFor options) := by
  unfold Query.projectFor
  by_cases hfilter : options.filterOnly = true
  · rw [if_pos hfilter, if_pos hfilter]
    exact .ok h
  · rw [if_neg hfilter, if_neg hfilter]
    exact h.project

end Query.Parallel

/-! ## Normalization -/

/-- Parallel queries pass all stages of normalization together, or fail one together. -/
theorem Planner.normalize_parallel {p q : Query} (h : p.Parallel q) (planner : Planner)
    (counter counter' : Nat) (options : Options) :
    ResultRel PlanError.SameCause (fun n m => n.query.Parallel m.query)
      (planner.normalize p counter options) (planner.normalize q counter' options) := by
  rw [normalize_eq, normalize_eq]
  -- One stage after the other: what a stage makes of parallel queries is parallel for the next.
  refine ResultRel.bind (SameOutcome.of_eq (h.checkOptions_eq options)) ?_
  intro _ _ _
  refine ResultRel.bind (h.checkReferences planner.catalog) ?_
  intro _ _ _
  refine ResultRel.bind ((h.renumber counter counter').projectFor options) ?_
  intro p' q' hprojected
  refine ResultRel.bind (SameOutcome.of_eq (Query.checkPreload_congr hprojected.assocs.symm
    hprojected.sources.symm hprojected.joins.symm planner.catalog)) ?_
  intro _ _ _
  exact .ok hprojected

end QueryPlan
