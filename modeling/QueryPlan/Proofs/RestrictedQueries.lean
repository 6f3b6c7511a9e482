import Mathlib
import QueryPlan.Proofs.InvalidReferences
import QueryPlan.Proofs.Words

set_option autoImplicit false

/-! # Restricted queries

A query that is embedded in another one as a condition may have filters and nothing else besides its
source. One that has more is refused for this reason, whatever other defects it has. What is left
of normalization for all others is the check of their references and the numbering of the
placeholders in their filters; no other part of the query is written. -/

namespace QueryPlan

/-! ## Nothing but filters -/

/-- A query without any of the parts that are not allowed in a condition. -/
structure Query.OnlyFilters (q : Query) : Prop where
  joins : q.joins = []
  select : q.select = none
  orderings : q.orderings = []
  limit : q.limit = none
  offset : q.offset = none
  groupings : q.groupings = []
  havings : q.havings = []
  preloads : q.preloads = []
  assocs : q.assocs = []
  distincts : q.distincts = []
  lock : q.lock = none

theorem Query.hasOnlyFilters_iff {q : Query} : q.hasOnlyFilters = true ↔ q.OnlyFilters := by
  simp only [hasOnlyFilters, Bool.and_eq_true, List.isEmpty_iff, Option.isNone_iff_eq_none]
  constructor
  · rintro ⟨⟨⟨⟨⟨⟨⟨⟨⟨⟨joins, select⟩, orderings⟩, limit⟩, offset⟩, groupings⟩, havings⟩, preloads⟩,
      assocs⟩, distincts⟩, lock⟩
    exact { joins, select, orderings, limit, offset, groupings, havings, preloads, assocs,
            distincts, lock }
  · intro h
    simp only [h.joins, h.select, h.orderings, h.limit, h.offset, h.groupings, h.havings,
      h.preloads, h.assocs, h.distincts, h.lock, and_self]

/-- The options of a query that is embedded as a condition. -/
abbrev Options.restricted : Options := { filterOnly := true }

theorem Query.checkOptions_restricted (q : Query) :
    q.checkOptions .restricted = if q.hasOnlyFilters then .ok () else .error .notOnlyFilters := by
  cases h : q.hasOnlyFilters <;> simp [checkOptions, h]

namespace Query.OnlyFilters

variable {q : Query}

/-- All expressions of the query are filters. -/
theorem exprs_eq (h : q.OnlyFilters) : q.exprs = q.filters.map (Clause.filter, ·) := by
  simp [Query.exprs, Clause.all, Query.clauseExprs, h.joins, h.select, h.orderings, h.limit,
    h.offset, h.groupings, h.havings, h.distincts]

theorem forall_clauseExprs_iff (h : q.OnlyFilters) {p : ClauseExpr → Prop} :
    (∀ clause, ∀ e ∈ q.clauseExprs clause, p e) ↔ ∀ e ∈ q.filters, p e := by
  have hrows : (∀ row ∈ q.exprs, p row.2) ↔ ∀ e ∈ q.filters, p e := by
    simp [h.exprs_eq]
  rw [← hrows]
  exact ⟨fun hall row hrow => hall row.1 row.2 (Query.mem_exprs.1 hrow),
    fun hall clause e he => hall (clause, e) (Query.mem_exprs.2 he)⟩

/-- Numbering writes the filters only. -/
theorem renumber_eq (h : q.OnlyFilters) (counter : Nat) :
    q.renumber counter = { q with filters := (q.renumber counter).filters } := by
  simp [Query.renumber, Query.mapExprs, h.joins, h.select, h.orderings, h.limit, h.offset,
    h.groupings, h.havings, h.distincts]

/-- So does any change of numbers. -/
theorem rekey_eq (h : q.OnlyFilters) (f : Clause → Nat → Nat → Nat) :
    q.rekey f = { q with filters := q.filters.mapIdx fun i e => e.rekey (f .filter i) } := by
  simp [Query.rekey, Query.rekeyExprs, Query.mapExprs, h.joins, h.select, h.orderings, h.limit,
    h.offset, h.groupings, h.havings, h.distincts]

end Query.OnlyFilters

/-! ## Restricted normalization -/

/-- Nothing but the filters is written, and these keep their places. -/
structure Query.WritesFilters (q : Query) (n : Normalized) : Prop where
  frame : n.query = { q with filters := n.query.filters }
  onlyFilters : n.query.OnlyFilters
  length : n.query.filters.length = q.filters.length

/-- What restricted normalization makes of a query: in every filter, the placeholders are moved past
    those of the filters before it, and the counter is moved past the placeholders of all
    filters. -/
structure Query.NumbersFilters (first : Nat) (q : Query) (n : Normalized) : Prop
    extends q.WritesFilters n where
  filters (before after : List ClauseExpr) (e : ClauseExpr) :
    q.filters = before ++ e :: after →
      ∃ e', n.query.filters[before.length]? = some e' ∧
        e.Moved (first + (before.map (·.placeholderCount)).sum) e'
  counter : n.counter = first + (q.filters.map (·.placeholderCount)).sum

/-- The same in words, whose sums wrap around: the placeholders are moved by the sum of words, and
    the counter grows by the number of placeholders as a word does. -/
structure Query.NumbersFiltersInWords (first : UInt64) (q : Query) (n : Normalized) : Prop
    extends q.WritesFilters n where
  filters (before after : List ClauseExpr) (e : ClauseExpr) :
    q.filters = before ++ e :: after → n.query.filters[before.length]? = some (e.rekey fun key =>
      (first + .ofNat (before.map (·.placeholderCount)).sum + .ofNat key).toNat)
  counter : n.counter = (first + .ofNat (q.filters.map (·.placeholderCount)).sum).toNat

/-- Exact numbers, cut to words, are the numbers in words. -/
theorem Query.NumbersFilters.cut {q : Query} {first : UInt64} {n : Normalized}
    (h : q.NumbersFilters first.toNat n) : q.NumbersFiltersInWords first (n.cut .words) := by
  have hquery : (n.cut .words).query = { n.query with
      filters := n.query.filters.mapIdx fun _ e => e.rekey Counting.words.cut } :=
    h.onlyFilters.rekey_eq _
  refine ⟨⟨?_, ?_, ?_⟩, fun before after e he => ?_, ?_⟩
  · have hframe := congrArg (fun r : Query => { r with
      filters := n.query.filters.mapIdx fun _ => ClauseExpr.rekey Counting.words.cut }) h.frame
    rw [hquery]
    exact hframe
  · rw [hquery]
    exact { h.onlyFilters with }
  · rw [hquery, ← h.length]
    exact List.length_mapIdx
  · obtain ⟨e', he', hmoved⟩ := h.filters before after e he
    have hkeys (key : Nat) : Counting.words.cut
        (first.toNat + (before.map (·.placeholderCount)).sum + key)
          = (first + .ofNat (before.map (·.placeholderCount)).sum + .ofNat key).toNat := by
      rw [← Counting.words.cut_cut_add, Counting.cut_words_add, Counting.cut_words_add]
    rw [hquery, List.getElem?_mapIdx, he', hmoved.eq_shift]
    show some { e with expr := (e.expr.shift _).rekey Counting.words.cut } = _
    simp only [Expr.rekey_shift, hkeys]
    rfl
  · rw [← Counting.cut_words_add, ← h.counter]
    rfl

/-- No reference is refused for a part that the query must not have. -/
theorem Query.FirstInvalid.ne_notOnlyFilters {catalog : Catalog} {q : Query} {error : PlanError}
    (h : q.FirstInvalid catalog error) : error ≠ .notOnlyFilters := by
  rintro rfl
  obtain ⟨_, _, _, _, -, -, _, _, -, hinvalid, -⟩ := h
  cases hinvalid

namespace Planner

variable {planner : Planner} {q : Query} {counter : Nat}

/-- Without other parts, there are no columns to fill in and no associations to check. -/
theorem normalize_restricted_eq (h : q.OnlyFilters) :
    planner.normalize q counter .restricted = (do
      q.checkReferences planner.catalog
      return { query := q.renumber counter, counter := counter + q.placeholderCount }) := by
  have hoptions : q.checkOptions .restricted = .ok () := by
    rw [Query.checkOptions_restricted, if_pos (Query.hasOnlyFilters_iff.2 h)]
  have hpreload : (q.renumber counter).checkPreload planner.catalog = .ok () := by
    have hassocs : (q.renumber counter).assocs = [] := h.assocs
    rw [Query.checkPreload, hassocs]
    rfl
  rw [normalize_eq, hoptions]
  show (q.checkReferences planner.catalog >>= _) = _
  refine bind_congr fun _ => ?_
  -- The select clause is left alone, so only the check of the associations follows.
  show ((q.renumber counter).checkPreload planner.catalog >>= _) = _
  rw [hpreload]
  rfl

theorem normalize_restricted_eq_error_iff :
    planner.normalize q counter .restricted = .error .notOnlyFilters ↔ ¬q.OnlyFilters := by
  constructor
  · intro herror h
    rw [normalize_restricted_eq h, bind_eq_error_iff] at herror
    rcases herror with hrefused | ⟨_, _, hreturn⟩
    · exact (Query.checkReferences_eq_error_iff.1 hrefused).ne_notOnlyFilters rfl
    · cases hreturn
  · intro h
    rw [normalize_eq, Query.checkOptions_restricted, if_neg (mt Query.hasOnlyFilters_iff.1 h)]
    rfl

theorem normalize_restricted_eq_ok_iff (h : q.OnlyFilters) {n : Normalized} :
    planner.normalize q counter .restricted = .ok n ↔
      (∀ e ∈ q.filters, e.expr.Valid planner.catalog q.sources) ∧
        n = { query := q.renumber counter, counter := counter + q.placeholderCount } := by
  rw [normalize_restricted_eq h, bind_eq_ok_iff, ← h.forall_clauseExprs_iff,
    ← Query.checkReferences_eq_ok_iff]
  simp only [pure_eq_ok_iff]
  exact ⟨fun ⟨_, hvalid, hn⟩ => ⟨hvalid, hn.symm⟩, fun ⟨hvalid, hn⟩ => ⟨(), hvalid, hn.symm⟩⟩

theorem numbersFilters_of_normalize (h : q.OnlyFilters) {n : Normalized}
    (hn : planner.normalize q counter .restricted = .ok n) : q.NumbersFilters counter n := by
  have hnumbers := numbersTo_of_normalize hn
  obtain ⟨-, rfl⟩ := (normalize_restricted_eq_ok_iff h).1 hn
  refine ⟨⟨h.renumber_eq counter, ?_, List.length_mapIdx⟩, fun before after e he => ?_, ?_⟩
  · rw [h.renumber_eq counter]
    exact { h with }
  · have hexprs : q.exprs
        = before.map (Clause.filter, ·) ++ (.filter, e) :: after.map (Clause.filter, ·) := by
      rw [h.exprs_eq, he, List.map_append, List.map_cons]
    obtain ⟨e', he', hmoved⟩ := hnumbers.exprs _ _ _ _ hexprs
    simp only [List.countP_map, List.map_map, Function.comp_def, decide_true, List.countP_true]
      at he' hmoved
    exact ⟨e', he', hmoved⟩
  · have hcounter := hnumbers.counter
    rw [h.exprs_eq, List.map_map] at hcounter
    exact hcounter

/-- Restricted normalization refuses exactly the queries that have more than filters, for this reason
    and whatever else is wrong with them. It accepts those of the others whose filters mention
    nothing that cannot be read, and of these it writes the placeholders of the filters only. -/
theorem restricted_exact (planner : Planner) (q : Query) (counter : UInt64) :
    (planner.normalizeWith .words q counter.toNat .restricted = .error .notOnlyFilters ↔
        ¬q.OnlyFilters) ∧
      (q.OnlyFilters →
        ((∃ n, planner.normalizeWith .words q counter.toNat .restricted = .ok n) ↔
          ∀ e ∈ q.filters, e.expr.Valid planner.catalog q.sources) ∧
        ∀ n, planner.normalizeWith .words q counter.toNat .restricted = .ok n →
          q.NumbersFiltersInWords counter n ∧
            (q.CountsWithin UInt64.size counter.toNat → q.NumbersFilters counter.toNat n)) := by
  rw [normalizeWith_eq_map planner .words q (Counting.cut_words_toNat counter)]
  refine ⟨map_eq_error_iff.trans normalize_restricted_eq_error_iff, fun h => ⟨?_, ?_⟩⟩
  · simp [map_eq_ok_iff, normalize_restricted_eq_ok_iff h]
  · intro n hn
    obtain ⟨m, hm, rfl⟩ := map_eq_ok_iff.1 hn
    have hnumbers := numbersFilters_of_normalize h hm
    refine ⟨hnumbers.cut, fun hfits => ?_⟩
    rw [← normalizeWith_eq_map planner .words q (Counting.cut_words_toNat counter),
      normalizeWith_words hfits, hm] at hn
    rw [← Except.ok.inj hn]
    exact hnumbers

/-- The users of one of two ages but for one of them. The first filter mentions its second placeholder
    twice. -/
def usersOfTwoAges (first second third : Nat) : Query where
  fromRef := some (.model "user")
  filters := [
    { expr := .node (.apply .or) [.eq (.field 0 "age") (.placeholder first),
        .node (.apply .member) [.field 0 "age",
          .node .list [.placeholder second, .placeholder second]]] },
    { expr := .node (.apply .not) [.eq (.field 0 "id") (.placeholder third)] }]
  sources := [⟨"users", some "user"⟩]

/-- Users to lock, without the source that the filters mention. -/
def lockedUsers : Query :=
  { usersOfTwoAges 0 1 0 with sources := [], lock := some "FOR UPDATE" }

/-- In the second run, the counter wraps around in the first filter. -/
theorem restricted_exact_usersOfTwoAges :
    (usersOfTwoAges 0 1 0).OnlyFilters ∧
      (normalizeWith { catalog := postCatalog } .words (usersOfTwoAges 0 1 0) (4 : UInt64).toNat
          .restricted = .ok ⟨usersOfTwoAges 4 5 7, 8⟩ ∧
        (usersOfTwoAges 0 1 0).NumbersFilters (4 : UInt64).toNat ⟨usersOfTwoAges 4 5 7, 8⟩) ∧
      (normalizeWith { catalog := postCatalog } .words (usersOfTwoAges 0 1 0)
          (18446744073709551614 : UInt64).toNat .restricted
            = .ok ⟨usersOfTwoAges 18446744073709551614 18446744073709551615 1, 2⟩ ∧
        (usersOfTwoAges 0 1 0).NumbersFiltersInWords 18446744073709551614
          ⟨usersOfTwoAges 18446744073709551614 18446744073709551615 1, 2⟩) ∧
      normalizeWith { catalog := postCatalog } .words lockedUsers (4 : UInt64).toNat .restricted
        = .error .notOnlyFilters := by
  have honly : (usersOfTwoAges 0 1 0).OnlyFilters := by
    constructor <;> rfl
  have hfits : (usersOfTwoAges 0 1 0).CountsWithin UInt64.size (4 : UInt64).toNat :=
    .of_lt (by decide) (by decide)
  have hexact : normalizeWith { catalog := postCatalog } .words (usersOfTwoAges 0 1 0)
      (4 : UInt64).toNat .restricted = .ok ⟨usersOfTwoAges 4 5 7, 8⟩ := by
    cbv
  have hwrapped : normalizeWith { catalog := postCatalog } .words (usersOfTwoAges 0 1 0)
      (18446744073709551614 : UInt64).toNat .restricted
        = .ok ⟨usersOfTwoAges 18446744073709551614 18446744073709551615 1, 2⟩ := by
    cbv
  have hlocked : ¬lockedUsers.OnlyFilters := by
    intro h
    exact Option.some_ne_none _ h.lock
  exact ⟨honly, ⟨hexact, (((restricted_exact _ _ _).2 honly).2 _ hexact).2 hfits⟩,
    ⟨hwrapped, (((restricted_exact _ _ _).2 honly).2 _ hwrapped).1⟩,
    (restricted_exact _ _ _).1.2 hlocked⟩

end Planner

end QueryPlan
