import Mathlib
import QueryPlan.Proofs.CastRules
import QueryPlan.Proofs.Numbering

set_option autoImplicit false

/-! # Merging

Merging succeeds exactly when it can cast every parameter of a query. If several of them are refused
it reports the first: expressions come in reading order, and within one the parameters by ascending
numbers, those of one number as they are listed. -/

namespace QueryPlan

variable {catalog : Catalog} {caster : Caster} {sources : List Source}

/-! ## The order in an expression -/

/-- The first entry of an ascending list has the least number. -/
theorem fst_le_of_mem {α : Type} {row row' : Nat × α} {rows : List (Nat × α)}
    (h : (row :: rows).Pairwise fun p q => p.1 ≤ q.1) (hmem : row' ∈ row :: rows) :
    row.1 ≤ row'.1 := by
  rcases List.mem_cons.1 hmem with rfl | hrest
  · exact Nat.le_refl _
  · exact (List.pairwise_cons.1 h).1 row' hrest

/-- Ascending lists are equal if they have the same entries of each number in the same order. -/
theorem eq_of_filter_eq {α : Type} {rows rows' : List (Nat × α)}
    (h : rows.Pairwise fun p q => p.1 ≤ q.1) (h' : rows'.Pairwise fun p q => p.1 ≤ q.1)
    (hsame : ∀ key, rows.filter (·.1 = key) = rows'.filter (·.1 = key)) : rows = rows' := by
  induction rows generalizing rows' with
  | nil =>
    cases rows' with
    | nil => rfl
    | cons row' rows' => simpa using hsame row'.1
  | cons row rows ih =>
    cases rows' with
    | nil => simpa using hsame row.1
    | cons row' rows' =>
      -- Each list has the first entry of the other, so both begin with the same number.
      have hmem : row ∈ row' :: rows' :=
        List.mem_of_mem_filter (p := (·.1 = row.1)) (hsame row.1 ▸ by simp)
      have hmem' : row' ∈ row :: rows :=
        List.mem_of_mem_filter (p := (·.1 = row'.1)) (hsame row'.1 ▸ by simp)
      have hkey : row.1 = row'.1 :=
        Nat.le_antisymm (fst_le_of_mem h hmem') (fst_le_of_mem h' hmem)
      have hfirst := hsame row.1
      simp only [List.filter_cons, hkey, decide_true, if_true, List.cons.injEq] at hfirst
      obtain ⟨rfl, -⟩ := hfirst
      refine congrArg (row :: ·) (ih h.of_cons h'.of_cons fun key => ?_)
      have hrest := hsame key
      simp only [List.filter_cons] at hrest
      split at hrest
      · exact List.tail_eq_of_cons_eq hrest
      · exact hrest

theorem ClauseExpr.InOrder.eq_of_inOrder {e : ClauseExpr} {rows rows' : List (Nat × LocalParam)}
    (h : e.InOrder rows) (h' : e.InOrder rows') : rows = rows' :=
  eq_of_filter_eq h.ascending h'.ascending fun key => (h.same key).trans (h'.same key).symm

/-! ## Expressions -/

/-- All parameters of an expression are cast. -/
def ClauseExpr.Castable (catalog : Catalog) (caster : Caster) (sources : List Source)
    (e : ClauseExpr) : Prop :=
  ∀ row ∈ e.params, row.2.Castable catalog caster sources

/-- The error is that of the first parameter, in order, that is refused. -/
def ClauseExpr.FirstRefused (catalog : Catalog) (caster : Caster) (sources : List Source)
    (clause : Clause) (e : ClauseExpr) (error : PlanError) : Prop :=
  ∃ before key param after, e.InOrder (before ++ (key, param) :: after) ∧
    (∀ row ∈ before, row.2.Castable catalog caster sources) ∧
    param.Refused catalog caster sources clause e.location error

theorem ClauseExpr.exists_mapM_cast_eq_ok_iff {clause : Clause} {e : ClauseExpr} :
    (∃ values, (e.paramUses clause).mapM (ParamUse.cast catalog caster sources) = .ok values) ↔
      e.Castable catalog caster sources := by
  rw [exists_mapM_eq_ok_iff, ClauseExpr.paramUses, List.forall_mem_map]
  simp only [ParamUse.exists_cast_eq_ok_iff, e.sortedParams_perm.mem_iff]
  exact Iff.rfl

theorem ClauseExpr.mapM_cast_eq_error_iff {clause : Clause} {e : ClauseExpr} {error : PlanError} :
    (e.paramUses clause).mapM (ParamUse.cast catalog caster sources) = .error error ↔
      e.FirstRefused catalog caster sources clause error := by
  rw [mapM_eq_error_iff, ClauseExpr.paramUses]
  constructor
  · rintro ⟨_, _, _, hsorted, hbefore, hrefused⟩
    obtain ⟨before, rest, hrows, rfl, hrest⟩ := List.map_eq_append_iff.1 hsorted
    obtain ⟨⟨key, param⟩, after, rfl, rfl, rfl⟩ := List.map_eq_cons_iff.1 hrest
    refine ⟨before, key, param, after, hrows ▸ e.inOrder_sortedParams, fun row hrow => ?_, ?_⟩
    · exact ParamUse.exists_cast_eq_ok_iff.1 (hbefore _ (List.mem_map_of_mem hrow))
    · exact ParamUse.cast_eq_error_iff.1 hrefused
  · rintro ⟨before, key, param, after, horder, hbefore, hrefused⟩
    rw [e.inOrder_sortedParams.eq_of_inOrder horder, List.map_append, List.map_cons]
    refine ⟨_, _, _, rfl, List.forall_mem_map.2 fun row hrow => ?_, ?_⟩
    · exact ParamUse.exists_cast_eq_ok_iff.2 (hbefore row hrow)
    · exact ParamUse.cast_eq_error_iff.2 hrefused

/-! ## Queries -/

/-- The error is that of the first expression, in reading order, with a refused parameter. -/
def Query.FirstRefused (catalog : Catalog) (caster : Caster) (q : Query) (error : PlanError) :
    Prop :=
  ∃ before clause e after, q.exprs = before ++ (clause, e) :: after ∧
    (∀ row ∈ before, row.2.Castable catalog caster q.sources) ∧
    e.FirstRefused catalog caster q.sources clause error

theorem Query.exists_castParams_eq_ok_iff {q : Query} :
    (∃ values, q.castParams catalog caster = .ok values) ↔
      ∀ clause, ∀ e ∈ q.clauseExprs clause, e.Castable catalog caster q.sources := by
  rw [Query.castParams, exists_mapM_eq_ok_iff, Query.paramUses, List.forall_mem_flatMap]
  simp only [← exists_mapM_eq_ok_iff, ClauseExpr.exists_mapM_cast_eq_ok_iff]
  exact ⟨fun h clause e he => h (clause, e) (Query.mem_exprs.2 he),
    fun h row hrow => h row.1 row.2 (Query.mem_exprs.1 hrow)⟩

theorem Query.castParams_eq_error_iff {q : Query} {error : PlanError} :
    q.castParams catalog caster = .error error ↔ q.FirstRefused catalog caster error := by
  rw [Query.castParams, Query.paramUses, mapM_flatMap_eq_error_iff]
  simp only [ClauseExpr.exists_mapM_cast_eq_ok_iff, ClauseExpr.mapM_cast_eq_error_iff]
  constructor
  · rintro ⟨before, ⟨clause, e⟩, after, hexprs, hbefore, hrefused⟩
    exact ⟨before, clause, e, after, hexprs, hbefore, hrefused⟩
  · rintro ⟨before, clause, e, after, hexprs, hbefore, hrefused⟩
    exact ⟨before, (clause, e), after, hexprs, hbefore, hrefused⟩

/-! ## Merging as a whole -/

/-- Merging accepts exactly the queries whose parameters are all cast, and reports exactly the error
    of the first that is refused. So does preparation, behind any number of values, once a query is
    resolved. -/
theorem Query.castParams_exact (planner : Planner) (q : Query) :
    ((∃ values, q.castParams planner.catalog planner.caster = .ok values) ↔
        ∀ clause, ∀ e ∈ q.clauseExprs clause,
          e.Castable planner.catalog planner.caster q.sources) ∧
      (∀ error, q.castParams planner.catalog planner.caster = .error error ↔
        q.FirstRefused planner.catalog planner.caster error) ∧
      ∀ written base, written.resolve planner.catalog = .ok q →
        ((∃ p, planner.prepare written base = .ok p) ↔
          ∀ clause, ∀ e ∈ q.clauseExprs clause,
            e.Castable planner.catalog planner.caster q.sources) ∧
        ∀ error, planner.prepare written base = .error error ↔
          q.FirstRefused planner.catalog planner.caster error := by
  refine ⟨Query.exists_castParams_eq_ok_iff, fun error => Query.castParams_eq_error_iff,
    fun written base hresolve => ⟨?_, fun error => ?_⟩⟩
  · rw [← Query.exists_castParams_eq_ok_iff]
    constructor
    · rintro ⟨p, h⟩
      obtain ⟨r, values, hr, hvalues, -⟩ := Planner.prepare_eq_ok_iff.1 h
      obtain rfl := Except.ok.inj (hresolve.symm.trans hr)
      exact ⟨values, hvalues⟩
    · rintro ⟨values, hvalues⟩
      exact ⟨_, Planner.prepare_eq_ok_iff.2 ⟨q, values, hresolve, hvalues, rfl⟩⟩
  · rw [← Query.castParams_eq_error_iff, Planner.prepare_eq_error_iff]
    constructor
    · rintro (h | ⟨r, hr, h⟩)
      · rw [hresolve] at h
        cases h
      · obtain rfl := Except.ok.inj (hresolve.symm.trans hr)
        exact h
    · intro h
      exact .inr ⟨q, hresolve, h⟩

/-- Users of some ages, with four bad parameters: a null, a list of ages one of which is a name, the
    field of a source that does not exist, and one that is not declared. -/
def usersByWrongAge : Query where
  fromRef := some (.model "user")
  filters := [
    { expr := .eq (.field 0 "age") (.placeholder 0)
      params := [(0, ⟨.text "18", .ofField 0 "age"⟩)] },
    { expr := .and (.eq (.field 0 "id") (.placeholder 1))
        (.node (.apply .member) [.field 0 "age", .placeholder 0])
      params := [(1, ⟨.null, .ofField 0 "id"⟩),
        (0, ⟨.list [.text "60", .text "old"], .listOf (.ofField 0 "age")⟩)] }]
  orderings := [{ expr := .placeholder 0, params := [(0, ⟨.int 7, .ofField 0 "name"⟩)] }]
  limit := some { expr := .placeholder 0, params := [(0, ⟨.int 5, .ofField 1 "age"⟩)] }

theorem castParams_exact_usersByWrongAge :
    usersByWrongAge.resolve postCatalog
        = .ok { usersByWrongAge with sources := [⟨"users", some "user"⟩] } ∧
      Planner.prepare { catalog := postCatalog } usersByWrongAge 3
        = .error (.invalidParam .filter (.list [.text "60", .text "old"])
            (.listOf (.plain .integer)) (some ("user", "age")) {}) ∧
      Query.FirstRefused postCatalog .standard
        { usersByWrongAge with sources := [⟨"users", some "user"⟩] }
        (.invalidParam .filter (.list [.text "60", .text "old"])
          (.listOf (.plain .integer)) (some ("user", "age")) {}) := by
  have hresolve : usersByWrongAge.resolve postCatalog
      = .ok { usersByWrongAge with sources := [⟨"users", some "user"⟩] } := by
    cbv
  have hprepare : Planner.prepare { catalog := postCatalog } usersByWrongAge 3
      = .error (.invalidParam .filter (.list [.text "60", .text "old"])
          (.listOf (.plain .integer)) (some ("user", "age")) {}) := by
    cbv
  obtain ⟨-, -, hexact⟩ := Query.castParams_exact { catalog := postCatalog }
    { usersByWrongAge with sources := [⟨"users", some "user"⟩] }
  exact ⟨hresolve, hprepare, ((hexact _ 3 hresolve).2 _).1 hprepare⟩

end QueryPlan
