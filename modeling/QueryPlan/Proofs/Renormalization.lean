import QueryPlan.Proofs.Shifting

set_option autoImplicit false

/-! # Normalizing again

A normalized query passes every check of normalization, with the options that it was normalized
with. The select clause that may have been added is one that may be written, the fields are filled
in as they were, and as many placeholders are counted. So normalizing again only moves
placeholders. -/

namespace QueryPlan.Planner

variable {planner : Planner} {q : Query} {counter : Nat} {options : Options} {n : Normalized}

/-! ## The first run -/

/-- No placeholders are lost, and the select clause that may be added has none. -/
theorem placeholderCount_of_normalize (h : planner.normalize q counter options = .ok n) :
    n.query.placeholderCount = q.placeholderCount := by
  refine Query.length_flatMap_exprs_congr (f := fun e => e.expr.placeholders) fun clause => ?_
  rcases clauseExprs_of_normalize h clause with hmoved | ⟨rfl, hnil, hadded⟩
  · rw [hmoved, List.length_flatMap, List.length_flatMap]
    refine congrArg List.sum (List.ext_getElem? fun i => ?_)
    simp [ClauseExpr.shift, Option.map_map, Function.comp_def]
  · rw [hnil, hadded]
    rfl

/-- A normalized query passes the checks that come before its placeholders are numbered. -/
theorem checks_of_normalize (h : planner.normalize q counter options = .ok n) :
    n.query.checkOptions options = .ok () ∧ n.query.checkReferences planner.catalog = .ok () := by
  obtain ⟨hoptions, -, hproject, -, -⟩ := normalize_eq_ok_iff.1 h
  rw [← Query.checkOptions_mapExprs] at hoptions
  exact ⟨Query.checkOptions_of_projectFor hproject hoptions,
    Query.checkReferences_eq_ok_iff.2 (valid_of_normalize h)⟩

/-- The fields have no placeholders if the select expression has none. -/
theorem placeholders_of_mem_fields (h : planner.normalize q counter options = .ok n) {s : Select}
    (hs : n.query.select = some s) (hnone : s.expr.expr.placeholders = []) :
    ∀ field ∈ s.fields, field.placeholders = [] := by
  rcases select_of_normalize h with ⟨-, hselect⟩ | ⟨-, written, hselect, -⟩
  · rw [hselect] at hs
    cases hs
  · obtain rfl := Option.some.inj (hselect.symm.trans hs)
    rw [← List.flatMap_eq_nil_iff, Select.flatMap_placeholders_withFields]
    exact hnone

/-! ## The second run -/

/-- A normalized query may be normalized again from any number on. As many placeholders are counted,
    and nothing changes but their numbers; the fields to read stay as they are if the select
    expression has no placeholders. -/
theorem normalize_again (planner : Planner) (q : Query) (counter counter' : Nat)
    (options : Options) (n : Normalized) (h : planner.normalize q counter options = .ok n) :
    ∃ m, planner.normalize n.query counter' options = .ok m ∧
      (∃ count, n.counter = counter + count ∧ m.counter = counter' + count) ∧
      n.query.Moved (fun clause i => counter' + n.query.placeholdersBefore clause i) m.query ∧
      ∀ s s', n.query.select = some s → m.query.select = some s' →
        s.expr.expr.placeholders = [] → s'.fields = s.fields := by
  obtain ⟨hoptions, hreferences⟩ := checks_of_normalize h
  obtain ⟨-, -, hproject, hpreload, hcounter⟩ := normalize_eq_ok_iff.1 h
  let offset : Clause → Nat → Nat := fun clause i =>
    counter' + n.query.placeholdersBefore clause i
  have hmoved := n.query.moved_shift offset
  have hsecond : (n.query.renumber counter').projectFor options
      = .ok (n.query.shift offset) := by
    have hshifted := n.query.projectFor_shiftExprs offset hoptions
    rw [Query.projectFor_again hproject] at hshifted
    obtain ⟨_, hresult, rfl⟩ := hshifted.exists_of_ok
    rw [Query.renumber_eq_shiftExprs]
    exact hresult
  have hm : planner.normalize n.query counter' options
      = .ok ⟨n.query.shift offset, counter' + n.query.placeholderCount⟩ :=
    normalize_eq_ok_iff.2 ⟨hoptions, hreferences, hsecond,
      (hmoved.checkPreload_eq planner.catalog).trans hpreload, rfl⟩
  refine ⟨_, hm, ⟨q.placeholderCount, hcounter, ?_⟩, hmoved, fun s s' hs hs' hnone => ?_⟩
  · rw [placeholderCount_of_normalize h]
  · have hfields := placeholders_of_mem_fields h hs hnone
    have hselect := hmoved.select
    rw [hs, hs', Option.rel_some_some] at hselect
    have hsame : List.Forall₂ Eq s.fields s'.fields :=
      forall₂_imp_of_mem hselect.fields fun field hfield _ hmoved =>
        (hmoved.eq_of_placeholders_eq_nil (hfields field hfield)).symm
    rw [List.forall₂_eq_eq_eq] at hsame
    exact hsame.symm

/-- Users with their posts by one author, and a mark in a column of its own. -/
def markedUsers (mark author age : Nat) : Query where
  fromRef := some (.model "user")
  joins := [⟨.left, .explicit (.modelAt "posts" "post"),
    { expr := .eq (.field 1 "author") (.placeholder author) }⟩]
  filters := [{ expr := .eq (.field 0 "age") (.placeholder age) }]
  select := some { expr := { expr := .node .tuple [.placeholder mark, .binding 0] } }
  sources := [⟨"users", some "user"⟩, ⟨"posts", some "post"⟩]
  assocs := [⟨"posts", 1, []⟩]

/-- `markedUsers` with its fields. -/
def markedUsersNormalized (mark author age : Nat) : Query where
  __ := markedUsers mark author age
  select := some {
    expr := { expr := .node .tuple [.placeholder mark, .binding 0] }
    fields := [.binding 0, .binding 1, .placeholder mark]
    includesFrom := true
    assocCount := 1 }

theorem normalize_again_markedUsers :
    let first := markedUsersNormalized 4 5 6
    let second := markedUsersNormalized 14 16 18
    normalize { catalog := postCatalog } (markedUsers 0 0 0) 4 {} = .ok ⟨first, 7⟩ ∧
      normalize { catalog := postCatalog } first 10 {} = .ok ⟨second, 13⟩ ∧
      first.Moved (fun clause i => 10 + first.placeholdersBefore clause i) second := by
  intro first second
  have hfirst : normalize { catalog := postCatalog } (markedUsers 0 0 0) 4 {}
      = .ok ⟨first, 7⟩ := by
    cbv
  have hsecond : normalize { catalog := postCatalog } first 10 {} = .ok ⟨second, 13⟩ := by
    cbv
  obtain ⟨m, hm, -, hmoved, -⟩ := normalize_again _ _ 4 10 _ _ hfirst
  obtain rfl := Except.ok.inj (hsecond.symm.trans hm)
  exact ⟨hfirst, hsecond, hmoved⟩

end QueryPlan.Planner
