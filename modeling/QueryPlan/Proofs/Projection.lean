import QueryPlan.Planning.Restriction
import QueryPlan.Proofs.ReadingOrder
import QueryPlan.Proofs.Trees

set_option autoImplicit false

/-! # The select clause

Filling in the select clause keeps its expression and everything else in the query; a query that
selects nothing gets the row of its first source. The fields carry the placeholders of the select
expression and no others. -/

namespace QueryPlan

/-! ## The fields -/

/-- The fields to read have the placeholders of the select expression, in their order: no row of a
    source has any. -/
theorem Select.flatMap_placeholders_withFields (s : Select) (assocs : AssocForest) :
    (s.withFields assocs).fields.flatMap Expr.placeholders = s.expr.expr.placeholders := by
  have hfrom : (if s.expr.expr.leaves.any Expr.isFromRow then [Expr.binding 0] else []).flatMap
      Expr.placeholders = [] := by
    split <;> rfl
  have hrows : ((AssocForest.bindings assocs).map Expr.binding).flatMap Expr.placeholders = [] := by
    rw [List.flatMap_map, List.flatMap_eq_nil_iff]
    exact fun _ _ => rfl
  have hleaves (es : List Expr) : (es.filter fun leaf => !leaf.isFromRow).flatMap Expr.placeholders
      = es.flatMap Expr.placeholders := by
    induction es with
    | nil => rfl
    | cons leaf es ih =>
      by_cases hrow : leaf.isFromRow = true
      · rw [List.filter_cons_of_neg (by simp [hrow]), ih, List.flatMap_cons,
          Expr.isFromRow_iff.1 hrow]
        rfl
      · rw [List.filter_cons_of_pos (by simp [hrow]), List.flatMap_cons, ih, List.flatMap_cons]
  rw [Select.withFields]
  simp only [List.flatMap_append, hfrom, hrows, hleaves, List.nil_append,
    Expr.flatMap_placeholders_leaves]

/-- The fields to read are rows of loaded associations and output columns. -/
theorem Select.mem_fields_withFields {s : Select} {assocs : AssocForest} {field : Expr}
    (h : field ∈ (s.withFields assocs).fields) :
    (∃ index ∈ AssocForest.bindings assocs, field = .binding index) ∨
      field ∈ s.expr.expr.leaves := by
  simp only [Select.withFields, List.mem_append, List.mem_map, List.mem_filter] at h
  rcases h with (hfrom | ⟨index, hindex, rfl⟩) | ⟨hleaf, -⟩
  · split at hfrom
    · next hrow =>
      obtain ⟨leaf, hleaf, hisFrom⟩ := List.any_eq_true.1 hrow
      rw [List.mem_singleton.1 hfrom, ← Expr.isFromRow_iff.1 hisFrom]
      exact .inr hleaf
    · cases hfrom
  · exact .inl ⟨index, hindex, rfl⟩
  · exact .inr hleaf

/-- The expression of a select clause stays as it is. -/
@[simp] theorem Select.expr_withFields (s : Select) (assocs : AssocForest) :
    (s.withFields assocs).expr = s.expr := rfl

/-- The select expressions of two queries are related if those that are written are, and the default
    one is to itself. -/
theorem Query.selectOrDefault_rel {R : ClauseExpr → ClauseExpr → Prop} {p q : Query}
    (hdefault : R { expr := .binding 0 } { expr := .binding 0 })
    (h : List.Forall₂ R (p.clauseExprs .select) (q.clauseExprs .select)) :
    R p.selectOrDefault.expr q.selectOrDefault.expr := by
  unfold Query.selectOrDefault
  cases hp : p.select <;> cases hq : q.select <;> simp [Query.clauseExprs, hp, hq] at h
  · exact hdefault
  · exact h

/-! ## The whole query -/

/-- The select clause is filled in when all its columns may be selected and, if associations are
    loaded, the row they hang on is one of them. -/
theorem Query.project_eq_ok_iff {q p : Query} :
    q.project = .ok p ↔
      (∀ leaf ∈ q.selectOrDefault.expr.expr.leaves, leaf.checkColumn q.sources = .ok ()) ∧
      (q.assocs ≠ [] → q.selectOrDefault.expr.expr.leaves.any Expr.isFromRow = true) ∧
      p = { q with select := some (q.selectOrDefault.withFields q.assocs) } := by
  unfold Query.project
  simp only [bind_eq_ok_iff, forM_eq_ok_iff]
  constructor
  · rintro ⟨_, hcolumns, h⟩
    split at h
    · cases h
    · next hrow =>
      refine ⟨hcolumns, fun hassocs => ?_, (pure_eq_ok_iff.1 h).symm⟩
      simpa [hassocs] using hrow
  · rintro ⟨hcolumns, hrow, rfl⟩
    refine ⟨(), hcolumns, ?_⟩
    rw [if_neg]
    · rfl
    · intro hfail
      simp only [Bool.and_eq_true, Bool.not_eq_true', List.isEmpty_eq_false_iff] at hfail
      rw [hrow hfail.1] at hfail
      exact absurd hfail.2 (by decide)

/-- The select clause as the options ask for it: as it is, or with its fields filled in. -/
def Query.projectFor (q : Query) (options : Options) : Except PlanError Query :=
  if options.filterOnly then .ok q else q.project

/-- A query that may have filters only has no select clause. -/
theorem Query.select_eq_none_of_checkOptions {q : Query} {options : Options}
    (h : q.checkOptions options = .ok ()) (hfilter : options.filterOnly = true) :
    q.select = none := by
  unfold Query.checkOptions at h
  split at h
  · cases h
  · next hpasses =>
    simp only [hfilter, Bool.true_and, Bool.not_eq_true', Bool.not_eq_false,
      Query.hasOnlyFilters, Bool.and_eq_true, Option.isNone_iff_eq_none] at hpasses
    tauto

/-- What the options admit does not depend on the expressions, only on how many there are. -/
theorem Query.checkOptions_mapExprs (f : Clause → Nat → ClauseExpr → ClauseExpr) (q : Query)
    (options : Options) : (q.mapExprs f).checkOptions options = q.checkOptions options := by
  have hempty {α : Type} (xs : List α) (g : Nat → α → α) :
      (xs.mapIdx g).isEmpty = xs.isEmpty := by
    cases xs <;> simp
  have honly : (q.mapExprs f).hasOnlyFilters = q.hasOnlyFilters := by
    simp only [Query.hasOnlyFilters, Query.mapExprs, Option.isNone_map, hempty]
  rw [Query.checkOptions, honly, Query.checkOptions]

theorem Query.eq_of_projectFor {q p : Query} {options : Options}
    (h : q.projectFor options = .ok p) : p = { q with select := p.select } := by
  unfold Query.projectFor at h
  split at h
  · cases h
    rfl
  · obtain ⟨-, -, rfl⟩ := Query.project_eq_ok_iff.1 h
    rfl

/-- A select clause whose fields have been filled in is filled in with the same fields again. -/
theorem Query.projectFor_again {q p : Query} {options : Options}
    (h : q.projectFor options = .ok p) : p.projectFor options = .ok p := by
  unfold Query.projectFor at h ⊢
  split at h
  · next hfilter => rw [if_pos hfilter]
  · next hfilter =>
    rw [if_neg hfilter]
    -- The fields are a function of the expression, which stays as it is.
    obtain ⟨hcolumns, hrow, rfl⟩ := Query.project_eq_ok_iff.1 h
    exact Query.project_eq_ok_iff.2 ⟨hcolumns, hrow, rfl⟩

theorem Query.checkOptions_of_projectFor {q p : Query} {options : Options}
    (h : q.projectFor options = .ok p) (hq : q.checkOptions options = .ok ()) :
    p.checkOptions options = .ok () := by
  unfold Query.projectFor at h
  split at h
  · cases h
    exact hq
  · next hfilter => simp [Query.checkOptions, hfilter]

/-- The select clause that the options add to a query without one, as an expression in its place. -/
def Options.addedExpr (options : Options) (clause : Clause) (position : Nat) : Option ClauseExpr :=
  if clause = .select ∧ position = 0 ∧ options.filterOnly = false then some { expr := .binding 0 }
  else none

theorem Options.placeholders_of_addedExpr {options : Options} {clause : Clause} {position : Nat}
    {e : ClauseExpr} (h : options.addedExpr clause position = some e) :
    e.expr.placeholders = [] := by
  unfold Options.addedExpr at h
  split at h
  · cases h
    rfl
  · cases h

/-- Which expression stands in a place: the one that stood there, or the one that is added. Only the
    select clause is written, and its expression stays if there is one. -/
theorem Query.getElem?_of_projectFor {q p : Query} {options : Options}
    (h : q.projectFor options = .ok p) (clause : Clause) (i : Nat) :
    (p.clauseExprs clause)[i]? = (q.clauseExprs clause)[i]?.or (options.addedExpr clause i) := by
  unfold Query.projectFor at h
  split at h
  · next hfilter =>
    cases h
    simp [Options.addedExpr, hfilter]
  · next hfilter =>
    obtain ⟨-, -, rfl⟩ := Query.project_eq_ok_iff.1 h
    cases clause with
    | select =>
      cases hselect : q.select <;> cases i <;>
        simp [Query.clauseExprs, Query.selectOrDefault, Select.withFields, Options.addedExpr,
          hselect, hfilter]
    | distinct | join | filter | groupBy | having | orderBy | limit | offset =>
      simp [Query.clauseExprs, Options.addedExpr]

end QueryPlan
