import Mathlib.Data.List.Forall2
import QueryPlan.Proofs.ReadingOrder
import QueryPlan.Proofs.Sources

set_option autoImplicit false

/-! # What resolution keeps

Resolution replaces the targets of joins and puts key equalities in front of their conditions. Each
join stays in its place with its kind, its parameters and its placeholders, and gets one source. -/

namespace QueryPlan

/-! ## Conditions -/

/-- Two expressions with the same parameters for the same placeholders, written at one location. -/
structure ClauseExpr.SameHoles (e e' : ClauseExpr) : Prop where
  params : e'.params = e.params
  location : e'.location = e.location
  placeholders : e'.expr.placeholders = e.expr.placeholders

theorem ClauseExpr.SameHoles.refl (e : ClauseExpr) : e.SameHoles e :=
  ⟨rfl, rfl, rfl⟩

theorem Expr.placeholders_and (a b : Expr) :
    (Expr.and a b).placeholders = a.placeholders ++ b.placeholders := by
  simp only [Expr.placeholders, Expr.atoms, Expr.atomsAll, List.append_nil, List.filterMap_append]

/-- A condition in front that has no placeholders adds none. The literal true, which it may
    replace, had none either. -/
theorem ClauseExpr.sameHoles_onlyIf (e : ClauseExpr) {condition : Expr}
    (hc : condition.placeholders = []) : e.SameHoles (e.onlyIf condition) := by
  unfold ClauseExpr.onlyIf
  split
  · next htrue =>
    refine ⟨rfl, rfl, ?_⟩
    rw [htrue, hc]
    rfl
  · refine ⟨rfl, rfl, ?_⟩
    rw [Expr.placeholders_and, hc, List.nil_append]

/-! ## Joins -/

/-- What a join has in common with the one that was written: all but its target and the keys in
    its condition. -/
structure Join.ResolvesTo (j j' : Join) : Prop where
  kind : j'.kind = j.kind
  target : ∃ ref, j'.target = .explicit ref
  on : j.on.SameHoles j'.on

theorem Join.ResolvesAs.resolvesTo {catalog : Catalog} {sources : List Source} {j j' : Join}
    {source : Source} (h : j.ResolvesAs catalog sources j' source) : j.ResolvesTo j' := by
  cases h with
  | explicit htarget _ => exact ⟨rfl, ⟨_, htarget⟩, .refl _⟩
  -- The target is replaced and the keys go in front of the condition.
  | association => exact ⟨rfl, ⟨_, rfl⟩, j.on.sameHoles_onlyIf rfl⟩

theorem resolvesTo_of_resolveJoins {catalog : Catalog} {sources : List Source}
    {joins joins' : List Join} {more : List Source}
    (h : resolveJoins catalog sources joins = .ok (joins', more)) :
    List.Forall₂ Join.ResolvesTo joins joins' ∧ more.length = joins'.length := by
  induction joins generalizing sources joins' more with
  | nil =>
    cases h
    exact ⟨.nil, rfl⟩
  | cons j rest ih =>
    obtain ⟨j', source, rest', sources', hj, hrest, rfl, rfl⟩ := resolveJoins_cons_eq_ok_iff.1 h
    obtain ⟨hjoins, hlength⟩ := ih hrest
    exact ⟨.cons hj.resolvesTo hjoins, congrArg (· + 1) hlength⟩

/-! ## Changed conditions -/

section Changes

variable {catalog : Catalog} {sources : List Source}

/-- A change of a condition that may as well be made after another one is put in front, may as well
    be made after resolution. What is refused stays refused for the same reason. -/
theorem Join.resolve_mapOn {f : ClauseExpr → ClauseExpr}
    (hf : ∀ e condition, (f e).onlyIf condition = f (e.onlyIf condition)) (join : Join) :
    ({ join with on := f join.on } : Join).resolve catalog sources
      = (join.resolve catalog sources).map fun step =>
          ({ step.1 with on := f step.1.on }, step.2) := by
  obtain ⟨kind, target, on⟩ := join
  unfold Join.resolve
  cases target with
  | explicit ref =>
    dsimp only
    cases ref.resolve catalog with
    | error e => rfl
    | ok source => rfl
  | association binding name =>
    dsimp only
    cases sourceAt .join sources binding with
    | error e => rfl
    | ok owner =>
      dsimp only [bind, Except.bind]
      cases owner.model with
      | none => rfl
      | some model =>
        dsimp only
        cases catalog.association model name with
        | none => rfl
        | some association =>
          dsimp only
          rw [hf]
          cases catalog.requireTable association.related with
          | error e => rfl
          | ok table => rfl

theorem resolveJoins_mapIdx {f : Nat → ClauseExpr → ClauseExpr}
    (hf : ∀ i e condition, (f i e).onlyIf condition = f i (e.onlyIf condition))
    (joins : List Join) :
    resolveJoins catalog sources (joins.mapIdx fun i j => { j with on := f i j.on })
      = (resolveJoins catalog sources joins).map fun steps =>
          (steps.1.mapIdx fun i j => { j with on := f i j.on }, steps.2) := by
  induction joins generalizing sources f with
  | nil => rfl
  | cons join rest ih =>
    rw [List.mapIdx_cons, resolveJoins, resolveJoins, Join.resolve_mapOn (hf 0)]
    cases join.resolve catalog sources with
    | error e => rfl
    | ok first =>
      obtain ⟨joined, source⟩ := first
      have hrest := @ih (sources ++ [source]) (fun i => f (i + 1)) fun i => hf (i + 1)
      show (resolveJoins catalog (sources ++ [source]) _ >>= _)
        = Except.map _ (resolveJoins catalog (sources ++ [source]) rest >>= _)
      rw [hrest]
      cases resolveJoins catalog (sources ++ [source]) rest with
      | error e => rfl
      | ok others => simp [Except.map, bind, Except.bind, pure, Except.pure]

end Changes

/-! ## Queries -/

/-- Resolution looks at the trees of no clause but the joins, and there it only puts conditions in
    front. -/
theorem Query.resolve_mapExprs {catalog : Catalog} {f : Clause → Nat → ClauseExpr → ClauseExpr}
    (hf : ∀ i e condition, (f .join i e).onlyIf condition = f .join i (e.onlyIf condition))
    (q : Query) : (q.mapExprs f).resolve catalog = (q.resolve catalog).map (·.mapExprs f) := by
  have hjoins (sources : List Source) := @resolveJoins_mapIdx catalog sources _ hf q.joins
  have href : (q.mapExprs f).fromRef = q.fromRef := rfl
  rw [Query.resolve, Query.resolve, href]
  cases hfrom : q.fromRef with
  | none => rfl
  | some ref =>
    dsimp only
    cases ref.resolve catalog with
    | error e => rfl
    | ok first =>
      show (resolveJoins catalog [first] _ >>= _)
        = Except.map _ (resolveJoins catalog [first] q.joins >>= _)
      rw [Query.mapExprs, hjoins]
      cases resolveJoins catalog [first] q.joins with
      | error e => rfl
      | ok resolved =>
        show Except.ok _ = Except.ok _
        rw [← hfrom]
        rfl

/-- What a resolved query has in common with the one that was written. -/
structure Query.ResolvesTo (q r : Query) : Prop where
  fromRef : r.fromRef = q.fromRef
  fromRef_isSome : r.fromRef.isSome
  joins : List.Forall₂ Join.ResolvesTo q.joins r.joins
  length_sources : r.sources.length = r.joins.length + 1
  /-- All parts but the joins and the sources are as they were written. -/
  rest : r = { q with joins := r.joins, sources := r.sources }

theorem Query.resolvesTo_of_resolve {catalog : Catalog} {q r : Query}
    (h : q.resolve catalog = .ok r) : q.ResolvesTo r := by
  obtain ⟨ref, first, joins, more, href, -, hjoins, rfl⟩ := Query.resolve_eq_ok_iff.1 h
  obtain ⟨hall, hlength⟩ := resolvesTo_of_resolveJoins hjoins
  exact ⟨rfl, by rw [href]; rfl, hall, congrArg (· + 1) hlength, rfl⟩

/-- The expressions of all clauses but the joins are as they were written. -/
theorem Query.ResolvesTo.clauseExprs_eq {q r : Query} (h : q.ResolvesTo r) {clause : Clause}
    (hclause : clause ≠ .join) : r.clauseExprs clause = q.clauseExprs clause := by
  rw [h.rest]
  cases clause with
  | join => exact absurd rfl hclause
  | select | distinct | filter | groupBy | having | orderBy | limit | offset => rfl

/-- Every clause keeps its expressions, in their places. -/
theorem Query.ResolvesTo.clauseExprs {q r : Query} (h : q.ResolvesTo r) (clause : Clause) :
    List.Forall₂ ClauseExpr.SameHoles (q.clauseExprs clause) (r.clauseExprs clause) := by
  by_cases hclause : clause = .join
  · subst hclause
    simp only [Query.clauseExprs, List.forall₂_map_left_iff, List.forall₂_map_right_iff]
    exact h.joins.imp fun _ _ hj => hj.on
  · rw [h.clauseExprs_eq hclause]
    exact List.forall₂_same.2 fun e _ => .refl e

theorem Query.ResolvesTo.paramCount {q r : Query} (h : q.ResolvesTo r) :
    r.paramCount = q.paramCount := by
  refine congrArg List.length (Query.flatMap_exprs_congr fun clause => map_eq_of_forall₂ ?_)
  exact (h.clauseExprs clause).flip.imp fun _ _ hsame => ClauseExpr.SameHoles.params hsame

theorem ClauseExpr.SameHoles.paramUses {e e' : ClauseExpr} (h : e.SameHoles e')
    (clause : Clause) : e'.paramUses clause = e.paramUses clause := by
  simp only [ClauseExpr.paramUses, ClauseExpr.sortedParams, h.params, h.location]

theorem Query.ResolvesTo.placeholdersBefore {q r : Query} (h : q.ResolvesTo r) (clause : Clause)
    (position : Nat) :
    r.placeholdersBefore clause position = q.placeholdersBefore clause position := by
  refine Query.placeholdersBefore_congr (fun c => map_eq_of_forall₂ ?_) clause position
  exact (h.clauseExprs c).flip.imp fun _ _ hsame => ClauseExpr.SameHoles.placeholders hsame

/-- All parameters are kept, in their places. -/
theorem Query.ResolvesTo.paramUses {q r : Query} (h : q.ResolvesTo r) :
    r.paramUses = q.paramUses :=
  Query.paramUses_congr fun clause =>
    (h.clauseExprs clause).imp fun _ _ hsame => ClauseExpr.SameHoles.paramUses hsame clause

end QueryPlan
