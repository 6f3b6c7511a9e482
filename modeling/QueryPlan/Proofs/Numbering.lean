import Mathlib
import QueryPlan.Proofs.Parameters
import QueryPlan.Proofs.Resolution
import QueryPlan.Proofs.Stages

set_option autoImplicit false

/-! # Exact numbers

The number of a parameter is given by merging, the number of a placeholder by normalization. Each
pass counts on its own: merging counts parameters, normalization placeholders. Here is what each of
them does to every query, also to those whose expressions do not have one placeholder for each
parameter. -/

namespace QueryPlan

/-! ## Moved placeholders -/

/-- Two trees of one shape with the same atoms, except that the placeholder `offset + key` stands in
    the second where the first has the placeholder `key`. -/
inductive Expr.Moved (offset : Nat) : Expr → Expr → Prop
  | placeholder (key : Nat) : Moved offset (.placeholder key) (.placeholder (offset + key))
  | other {a : Atom} : a.placeholder? = none → Moved offset (.atom a) (.atom a)
  | node {form : Form} {args args' : List Expr} :
    List.Forall₂ (Moved offset) args args' → Moved offset (.node form args) (.node form args')

theorem Expr.moved_shift (offset : Nat) (e : Expr) : e.Moved offset (e.shift offset) := by
  induction e using Expr.induction with
  | atom a =>
    cases a with
    | placeholder key => exact .placeholder key
    | binding index => exact .other rfl
    | field access => exact .other rfl
    | literal value => exact .other rfl
  | node form args ih =>
    rw [Expr.shift_node]
    refine .node (List.forall₂_map_right_iff.2 (List.forall₂_same.2 fun arg harg => ?_))
    exact ih arg harg

/-- There is one way to move the placeholders of a tree. -/
theorem Expr.Moved.eq_shift {offset : Nat} {e e' : Expr} (h : e.Moved offset e') :
    e' = e.shift offset := by
  induction e using Expr.induction generalizing e' with
  | atom a =>
    cases h with
    | placeholder key => rfl
    | other hnone =>
      cases a with
      | placeholder key => cases hnone
      | binding index | field access | literal value => rfl
  | node form args ih =>
    cases h with
    | @node _ _ args' hargs =>
      have hsame := forall₂_imp_of_mem hargs (S := fun arg arg' => arg.shift offset = id arg')
        fun arg harg arg' hmoved => (ih arg harg hmoved).symm
      rw [Expr.shift_node, map_eq_of_forall₂ hsame, List.map_id]

theorem Expr.Moved.eq_of_placeholders_eq_nil {offset : Nat} {e e' : Expr} (h : e.Moved offset e')
    (hnone : e.placeholders = []) : e' = e := by
  rw [h.eq_shift, Expr.shift_of_placeholders_eq_nil offset hnone]

theorem Expr.Moved.refl (e : Expr) : e.Moved 0 e := by
  have h := e.moved_shift 0
  rwa [e.shift_zero] at h

theorem Expr.Moved.trans {m n : Nat} {e₁ e₂ e₃ : Expr} (h₁ : e₁.Moved m e₂)
    (h₂ : e₂.Moved n e₃) : e₁.Moved (n + m) e₃ := by
  rw [h₂.eq_shift, h₁.eq_shift, Expr.shift_shift]
  exact e₁.moved_shift (n + m)

/-- Expressions that differ in nothing but moved placeholders. -/
structure ClauseExpr.Moved (offset : Nat) (e e' : ClauseExpr) : Prop where
  expr : e.expr.Moved offset e'.expr
  params : e'.params = e.params
  location : e'.location = e.location

theorem ClauseExpr.moved_shift (offset : Nat) (e : ClauseExpr) : e.Moved offset (e.shift offset) :=
  ⟨e.expr.moved_shift offset, rfl, rfl⟩

theorem ClauseExpr.Moved.eq_shift {offset : Nat} {e e' : ClauseExpr} (h : e.Moved offset e') :
    e' = e.shift offset := by
  rw [ClauseExpr.shift, ← h.expr.eq_shift, ← h.params, ← h.location]

theorem ClauseExpr.Moved.refl (e : ClauseExpr) : e.Moved 0 e :=
  ⟨.refl e.expr, rfl, rfl⟩

theorem ClauseExpr.Moved.trans {m n : Nat} {e₁ e₂ e₃ : ClauseExpr} (h₁ : e₁.Moved m e₂)
    (h₂ : e₂.Moved n e₃) : e₁.Moved (n + m) e₃ :=
  ⟨h₁.expr.trans h₂.expr, h₂.params.trans h₁.params, h₂.location.trans h₁.location⟩

/-! ## Parameters in order -/

/-- The parameters of an expression by ascending numbers. Those of one number stand in the order in
    which they are listed. -/
structure ClauseExpr.InOrder (e : ClauseExpr) (sorted : List (Nat × LocalParam)) : Prop where
  ascending : sorted.Pairwise fun p q => p.1 ≤ q.1
  same (key : Nat) : sorted.filter (·.1 = key) = e.params.filter (·.1 = key)

/-- Sorting is stable: it keeps the order of the parameters of each number. -/
theorem ClauseExpr.inOrder_sortedParams (e : ClauseExpr) : e.InOrder e.sortedParams := by
  refine ⟨e.pairwise_sortedParams, fun key => Eq.symm ?_⟩
  -- The rows of one number are in order as they are listed, so sorting keeps them as a sublist.
  have hpairwise : (e.params.filter (·.1 = key)).Pairwise
      fun p q => decide (p.1 ≤ q.1) = true := by
    refine List.pairwise_of_forall_mem_list ?_
    intro p hp q hq
    have hp' := List.of_mem_filter hp
    have hq' := List.of_mem_filter hq
    simp only [decide_eq_true_eq] at hp' hq' ⊢
    omega
  have hsublist : (e.params.filter (·.1 = key)).Sublist e.sortedParams :=
    List.sublist_mergeSort (fun _ _ _ => by simpa using Nat.le_trans)
      (fun a b => by simpa using Nat.le_total a.1 b.1) hpairwise List.filter_sublist
  have hfiltered := hsublist.filter (·.1 = key)
  rw [List.filter_filter] at hfiltered
  simp only [Bool.and_self] at hfiltered
  exact hfiltered.eq_of_length (e.sortedParams_perm.filter _).length_eq.symm

/-- The values that the parameters of an expression are cast to, in order. -/
def ClauseExpr.CastsTo (planner : Planner) (sources : List Source) (clause : Clause)
    (e : ClauseExpr) (values : List Value) : Prop :=
  ∃ sorted, e.InOrder sorted ∧ List.Forall₂ (fun row value =>
    ParamUse.cast planner.catalog planner.caster sources
      { clause, location := e.location, param := row.2 } = .ok value) sorted values

/-! ## The numbers that merging gives -/

/-- What merging makes of the parameters of a query: they are numbered without a gap from `base` on,
    their values come in the reading order of the expressions, in each by ascending numbers, and
    the query has none left. -/
structure Query.MergesTo (planner : Planner) (base : Nat) (q : Query) (p : Prepared) : Prop where
  keys : p.params.map Prod.fst = List.range' base q.paramCount
  values : ∃ groups : List (List Value), p.params.map Prod.snd = groups.flatten ∧
    List.Forall₂ (fun row group => row.2.CastsTo planner p.query.sources row.1 group) q.exprs groups
  none_left : p.query.paramCount = 0

theorem map_fst_numberedFrom (base : Nat) (values : List Value) :
    (numberedFrom base values).map Prod.fst = List.range' base values.length := by
  refine List.ext_getElem? fun i => ?_
  simp only [numberedFrom, List.getElem?_map, List.getElem?_mapIdx, Option.map_map]
  by_cases hi : i < values.length
  · simp [hi]
  · simp [hi]

theorem Query.exists_groups_of_castParams {planner : Planner} {q r : Query} {values : List Value}
    (hr : q.ResolvesTo r) (h : r.castParams planner.catalog planner.caster = .ok values) :
    ∃ groups : List (List Value), values = groups.flatten ∧
      List.Forall₂ (fun row group => row.2.CastsTo planner r.sources row.1 group)
        q.exprs groups := by
  rw [Query.castParams_eq_ok_iff, hr.paramUses] at h
  obtain ⟨groups, hgroups, hall⟩ := exists_groups_of_forall₂_flatMap h
  refine ⟨groups, hgroups, hall.imp fun row group hgroup => ?_⟩
  exact ⟨row.2.sortedParams, row.2.inOrder_sortedParams, List.forall₂_map_left_iff.1 hgroup⟩

namespace Planner

variable {planner : Planner} {q : Query}

theorem mergesTo_of_prepare {base : Nat} {p : Prepared} (h : planner.prepare q base = .ok p) :
    q.MergesTo planner base p := by
  obtain ⟨r, values, hresolve, hvalues, rfl⟩ := prepare_eq_ok_iff.1 h
  have hr := Query.resolvesTo_of_resolve hresolve
  refine ⟨?_, ?_, r.paramCount_withoutParams⟩
  · rw [map_fst_numberedFrom, Query.length_of_castParams hvalues, hr.paramCount]
  · rw [map_snd_numberedFrom]
    exact Query.exists_groups_of_castParams (r := r) hr hvalues

end Planner

/-! ## The numbers that normalization gives -/

/-- What normalization makes of the placeholders of a query: those of each expression are moved past
    all that stand in the expressions read before it, and the counter is moved past all that stand
    anywhere. -/
structure Query.NumbersTo (first : Nat) (q : Query) (n : Normalized) : Prop where
  counter : n.counter = first + (q.exprs.map (·.2.placeholderCount)).sum
  exprs (before after : List (Clause × ClauseExpr)) (clause : Clause) (e : ClauseExpr) :
    q.exprs = before ++ (clause, e) :: after →
      ∃ e', (n.query.clauseExprs clause)[before.countP (·.1 = clause)]? = some e' ∧
        e.Moved (first + (before.map (·.2.placeholderCount)).sum) e'

namespace Planner

variable {planner : Planner} {q : Query}

theorem numbersTo_of_normalize {counter : Nat} {options : Options} {n : Normalized}
    (h : planner.normalize q counter options = .ok n) : q.NumbersTo counter n := by
  refine ⟨?_, fun before after clause e he => ⟨_, ?_, e.moved_shift _⟩⟩
  · rw [(normalize_eq_ok_iff.1 h).2.2.2.2, Query.placeholderCount, List.length_flatMap]
    rfl
  · rw [getElem?_of_normalize h, Query.getElem?_of_exprs_eq he,
      Query.placeholdersBefore_of_exprs_eq he, List.length_flatMap]
    rfl

end Planner

/-! ## Numbers that fit in a word -/

/-- No number that normalization gives from `first` on reaches `bound`, neither the counter nor any
    placeholder moved past those read before. -/
structure Query.CountsWithin (bound first : Nat) (q : Query) : Prop where
  counter : first + (q.exprs.map (·.2.placeholderCount)).sum < bound
  keys (before after : List (Clause × ClauseExpr)) (clause : Clause) (e : ClauseExpr) :
    q.exprs = before ++ (clause, e) :: after → ∀ key ∈ e.expr.placeholders,
      first + (before.map (·.2.placeholderCount)).sum + key < bound

/-- All of these are below the sum of the counter and any number that is written. -/
theorem Query.CountsWithin.of_lt {bound first : Nat} {q : Query}
    (hcounter : first + (q.exprs.map (·.2.placeholderCount)).sum < bound)
    (hkeys : ∀ row ∈ q.exprs, ∀ key ∈ row.2.expr.placeholders,
      first + (q.exprs.map (·.2.placeholderCount)).sum + key < bound) :
    q.CountsWithin bound first := by
  refine ⟨hcounter, fun before after clause e he key hkey => ?_⟩
  have hrow : (clause, e) ∈ q.exprs := he ▸ List.mem_append_right before List.mem_cons_self
  have hlt := hkeys _ hrow key hkey
  rw [he, List.map_append, List.sum_append] at hlt
  omega

theorem Query.CountsWithin.rekeyExprs_renumber {first : Nat} {q : Query}
    (h : q.CountsWithin UInt64.size first) :
    ((q.renumber first).rekeyExprs fun _ _ => Counting.words.cut) = q.renumber first := by
  refine mapExprs_eq_self fun clause _ e he => ?_
  obtain ⟨i, hi⟩ := List.mem_iff_getElem?.1 he
  rw [renumber, clauseExprs_mapExprs, List.getElem?_mapIdx, Option.map_eq_some_iff] at hi
  obtain ⟨written, hwritten, rfl⟩ := hi
  have hbefore : q.placeholdersBefore clause i
      = ((q.exprsBefore clause i).map (·.2.placeholderCount)).sum := by
    rw [placeholdersBefore_eq, List.length_flatMap]
    rfl
  refine congrArg (fun expr => { written with expr }) (Expr.rekey_eq_self fun key hkey => ?_)
  simp only [ClauseExpr.shift, Expr.placeholders_shift, List.mem_map] at hkey
  obtain ⟨own, hown, rfl⟩ := hkey
  rw [hbefore]
  exact Counting.cut_words_of_lt (h.keys _ _ _ _ (exprs_eq_append hwritten) own hown)

theorem Merged.cut_words_numberedFrom {base : Nat} {values : List Value}
    (h : base + values.length ≤ UInt64.size) :
    Merged.cut .words (numberedFrom base values) = numberedFrom base values := by
  refine List.ext_getElem? fun i => ?_
  by_cases hi : i < values.length
  · have hfits : Counting.words.cut (base + i) = base + i := Counting.cut_words_of_lt (by omega)
    simp [cut, numberedFrom, hi, hfits]
  · simp [cut, numberedFrom, hi]

namespace Planner

variable {planner : Planner} {q : Query}

/-- A query is prepared in words as it is with exact numbers if the last of these fits. -/
theorem prepareWith_words {base : Nat} (h : base + q.paramCount ≤ UInt64.size) :
    planner.prepareWith .words q base = planner.prepare q base := by
  rw [prepareWith_eq, prepare_eq]
  cases hresolve : q.resolve planner.catalog with
  | error e => rfl
  | ok r =>
    show (r.castParams planner.catalog planner.caster >>= _)
      = r.castParams planner.catalog planner.caster >>= _
    cases hvalues : r.castParams planner.catalog planner.caster with
    | error e => rfl
    | ok values =>
      have hlength : values.length = q.paramCount := by
        rw [Query.length_of_castParams hvalues, (Query.resolvesTo_of_resolve hresolve).paramCount]
      have hcut := Merged.cut_words_numberedFrom (hlength ▸ h)
      show Except.ok _ = Except.ok _
      rw [hcut]

/-- A query is normalized in words as it is with exact numbers if all of these fit. -/
theorem normalizeWith_words {counter : Nat} (h : q.CountsWithin UInt64.size counter)
    (options : Options) :
    planner.normalizeWith .words q counter options = planner.normalize q counter options := by
  have hcounter : counter + q.placeholderCount < UInt64.size := by
    have := h.counter
    rwa [Query.placeholderCount, List.length_flatMap]
  have hstart : Counting.words.cut counter = counter := Counting.cut_words_of_lt (by omega)
  rw [planner.normalizeWith_eq q hstart, normalize_eq, h.rekeyExprs_renumber,
    Counting.cut_words_of_lt hcounter]

/-- The numbers that the two passes give to any query, whether or not its expressions have as many
    placeholders as parameters. In words they are the same, as long as they all fit. -/
theorem exact_numbers (planner : Planner) (q : Query) :
    (∀ base p, planner.prepare q base = .ok p → q.MergesTo planner base p) ∧
    (∀ counter options n, planner.normalize q counter options = .ok n → q.NumbersTo counter n) ∧
    (∀ base p, base + q.paramCount ≤ UInt64.size → planner.prepareWith .words q base = .ok p →
      q.MergesTo planner base p) ∧
    (∀ counter options n, q.CountsWithin UInt64.size counter →
      planner.normalizeWith .words q counter options = .ok n → q.NumbersTo counter n) := by
  refine ⟨fun _ _ => mergesTo_of_prepare, fun _ _ _ => numbersTo_of_normalize, ?_, ?_⟩
  · intro base p hfits h
    rw [prepareWith_words hfits] at h
    exact mergesTo_of_prepare h
  · intro counter options n hfits h
    rw [normalizeWith_words hfits] at h
    exact numbersTo_of_normalize h

/-! ### A query out of step -/

/-- The first posts of users, whose ages are compared with three values, two of them under one
    number. The condition mentions one placeholder twice; the one on groups mentions none, but has a
    parameter. -/
def postsByAge : Query where
  fromRef := some (.model "user")
  joins := [⟨.left, .association 0 "posts", {
    expr := .eq (.field 1 "author") (.placeholder 0)
    params := [(0, ⟨.int 7, .ofField 1 "author"⟩)] }⟩]
  filters := [{
    expr := .node (.apply .member) [.field 0 "age",
      .node .list [.placeholder 1, .placeholder 0, .node .tuple [.placeholder 1]]]
    params := [(1, ⟨.text "60", .ofField 0 "age"⟩), (0, ⟨.int 18, .ofField 0 "age"⟩),
      (1, ⟨.int 70, .ofField 0 "age"⟩)] }]
  havings := [{ expr := .literal (.bool true), params := [(4, ⟨.bool true, .plain .boolean⟩)] }]
  limit := some { expr := .placeholder 0, params := [(0, ⟨.int 5, .plain .integer⟩)] }

/-- `postsByAge`, prepared behind two values. -/
def postsByAgePrepared : Prepared where
  query := {
    fromRef := some (.model "user")
    joins := [⟨.left, .explicit (.modelAt "posts" "post"), {
      expr := .and (.eq (.field 1 "author") (.field 0 "id"))
        (.eq (.field 1 "author") (.placeholder 0)) }⟩]
    filters := [{
      expr := .node (.apply .member) [.field 0 "age",
        .node .list [.placeholder 1, .placeholder 0, .node .tuple [.placeholder 1]]] }]
    havings := [{ expr := .literal (.bool true) }]
    limit := some { expr := .placeholder 0 }
    sources := [⟨"users", some "user"⟩, ⟨"posts", some "post"⟩] }
  params := [(2, .int 7), (3, .int 18), (4, .int 60), (5, .int 70), (6, .bool true), (7, .int 5)]

/-- The query of `postsByAgePrepared`, normalized from four on. -/
def postsByAgeNormalized : Normalized where
  query := {
    fromRef := some (.model "user")
    joins := [⟨.left, .explicit (.modelAt "posts" "post"), {
      expr := .and (.eq (.field 1 "author") (.field 0 "id"))
        (.eq (.field 1 "author") (.placeholder 4)) }⟩]
    filters := [{
      expr := .node (.apply .member) [.field 0 "age",
        .node .list [.placeholder 6, .placeholder 5, .node .tuple [.placeholder 6]]] }]
    havings := [{ expr := .literal (.bool true) }]
    limit := some { expr := .placeholder 8 }
    sources := [⟨"users", some "user"⟩, ⟨"posts", some "post"⟩]
    select := some {
      expr := { expr := .binding 0 }
      fields := [.binding 0]
      includesFrom := true } }
  counter := 9

theorem exact_numbers_postsByAge :
    (prepare { catalog := postCatalog } postsByAge 2 = .ok postsByAgePrepared ∧
      postsByAge.MergesTo { catalog := postCatalog } 2 postsByAgePrepared) ∧
    (normalize { catalog := postCatalog } postsByAgePrepared.query 4 {}
        = .ok postsByAgeNormalized ∧
      postsByAgePrepared.query.NumbersTo 4 postsByAgeNormalized) ∧
    (prepareWith { catalog := postCatalog } .words postsByAge 2 = .ok postsByAgePrepared ∧
      postsByAge.MergesTo { catalog := postCatalog } 2 postsByAgePrepared) ∧
    (normalizeWith { catalog := postCatalog } .words postsByAgePrepared.query 4 {}
        = .ok postsByAgeNormalized ∧
      postsByAgePrepared.query.NumbersTo 4 postsByAgeNormalized) := by
  have hprepare : prepare { catalog := postCatalog } postsByAge 2 = .ok postsByAgePrepared := by
    cbv
  have hnormalize : normalize { catalog := postCatalog } postsByAgePrepared.query 4 {}
      = .ok postsByAgeNormalized := by
    cbv
  have hprepareWords : prepareWith { catalog := postCatalog } .words postsByAge 2
      = .ok postsByAgePrepared := by
    cbv
  have hnormalizeWords : normalizeWith { catalog := postCatalog } .words
      postsByAgePrepared.query 4 {} = .ok postsByAgeNormalized := by
    cbv
  have hfits : postsByAgePrepared.query.CountsWithin UInt64.size 4 :=
    .of_lt (by decide) (by decide)
  have h := exact_numbers { catalog := postCatalog }
  exact ⟨⟨hprepare, (h _).1 _ _ hprepare⟩, ⟨hnormalize, (h _).2.1 _ _ _ hnormalize⟩,
    ⟨hprepareWords, (h _).2.2.1 _ _ (by decide) hprepareWords⟩,
    ⟨hnormalizeWords, (h _).2.2.2 _ _ _ hfits hnormalizeWords⟩⟩

end Planner

end QueryPlan
