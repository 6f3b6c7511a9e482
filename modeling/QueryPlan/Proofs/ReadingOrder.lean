import Mathlib.Data.List.Forall2
import Mathlib.Data.List.TakeWhile
import QueryPlan.Proofs.AtOnce
import QueryPlan.Proofs.Results

set_option autoImplicit false

/-! # The reading order

All stages of planning read the expressions of a query in one order. An expression in its place (a
clause and a position in it) splits that order into what is read before it and what is read after
it. Numbers are given in this order: an expression's parameters and placeholders are numbered behind
those of all expressions read before. -/

namespace QueryPlan

/-- What a join has besides its condition. -/
def Join.head (j : Join) : JoinKind × JoinTarget :=
  (j.kind, j.target)

/-- A clause splits the list of all clauses. -/
theorem Clause.all_eq_append (c : Clause) : Clause.all
    = Clause.all.takeWhile (· ≠ c) ++ c :: (Clause.all.dropWhile (· ≠ c)).tail := by
  cases c <;> rfl

theorem Clause.ne_of_mem_earlier {c c' : Clause} (h : c' ∈ Clause.all.takeWhile (· ≠ c)) :
    c' ≠ c := by
  simpa using List.mem_takeWhile_imp h

theorem Clause.ne_of_mem_later {c c' : Clause} (h : c' ∈ (Clause.all.dropWhile (· ≠ c)).tail) :
    c' ≠ c := by
  rintro rfl
  revert h
  cases c' <;> decide

/-- Two splittings of a list at an entry of a kind are the same if as many entries of this kind are
    in front. -/
theorem eq_of_append_cons_eq {α : Type} {p : α → Bool} {xs ys as bs : List α} {a b : α}
    (ha : p a) (hb : p b) (h : xs ++ a :: as = ys ++ b :: bs) (hcount : xs.countP p = ys.countP p) :
    xs = ys := by
  induction xs generalizing ys with
  | nil =>
    cases ys with
    | nil => rfl
    | cons y ys =>
      obtain ⟨rfl, -⟩ := List.cons.inj h
      simp [ha] at hcount
  | cons x xs ih =>
    cases ys with
    | nil =>
      obtain ⟨rfl, -⟩ := List.cons.inj h
      simp [hb] at hcount
    | cons y ys =>
      obtain ⟨rfl, hrest⟩ := List.cons.inj h
      rw [List.countP_cons, List.countP_cons, Nat.add_right_cancel_iff] at hcount
      rw [ih hrest hcount]

namespace Query

/-! ## Places -/

/-- The expressions that are read before the one at a position of a clause. -/
def exprsBefore (q : Query) (clause : Clause) (position : Nat) : List (Clause × ClauseExpr) :=
  (Clause.all.takeWhile (· ≠ clause)).flatMap (fun c => (q.clauseExprs c).map (c, ·)) ++
    ((q.clauseExprs clause).take position).map (clause, ·)

/-- The expressions that are read after the one at a position of a clause. -/
def exprsAfter (q : Query) (clause : Clause) (position : Nat) : List (Clause × ClauseExpr) :=
  ((q.clauseExprs clause).drop (position + 1)).map (clause, ·) ++
    (Clause.all.dropWhile (· ≠ clause)).tail.flatMap fun c => (q.clauseExprs c).map (c, ·)

/-- An expression in its place splits the reading order. -/
theorem exprs_eq_append {q : Query} {clause : Clause} {i : Nat} {e : ClauseExpr}
    (he : (q.clauseExprs clause)[i]? = some e) :
    q.exprs = q.exprsBefore clause i ++ (clause, e) :: q.exprsAfter clause i := by
  obtain ⟨hi, rfl⟩ := List.getElem?_eq_some_iff.1 he
  -- The clause itself is split at the position, the list of clauses at the clause.
  have hsplit : (q.clauseExprs clause).map (clause, ·)
      = ((q.clauseExprs clause).take i).map (clause, ·) ++
        (clause, (q.clauseExprs clause)[i]) ::
          ((q.clauseExprs clause).drop (i + 1)).map (clause, ·) := by
    rw [← List.map_cons, ← List.map_append, List.getElem_cons_drop, List.take_append_drop]
  rw [exprs, clause.all_eq_append, List.flatMap_append, List.flatMap_cons, hsplit, exprsBefore,
    exprsAfter]
  simp only [List.append_assoc, List.cons_append]

theorem mem_exprs_of_getElem? {q : Query} {clause : Clause} {i : Nat} {e : ClauseExpr}
    (he : (q.clauseExprs clause)[i]? = some e) : (clause, e) ∈ q.exprs :=
  mem_exprs.2 (List.mem_of_getElem? he)

theorem mem_exprs_of_mem_exprsBefore {q : Query} {clause : Clause} {i : Nat}
    {row : Clause × ClauseExpr} (hrow : row ∈ q.exprsBefore clause i) : row ∈ q.exprs := by
  rw [exprsBefore, List.mem_append, List.mem_flatMap, List.mem_map] at hrow
  obtain ⟨c, -, hrow⟩ | ⟨e, he, rfl⟩ := hrow
  · obtain ⟨e, he, rfl⟩ := List.mem_map.1 hrow
    exact mem_exprs.2 he
  · exact mem_exprs.2 (List.mem_of_mem_take he)

/-- The expressions of one clause, picked out of the reading order. -/
theorem filter_exprs (q : Query) (clause : Clause) :
    q.exprs.filter (·.1 = clause) = (q.clauseExprs clause).map (clause, ·) := by
  have hclause (c : Clause) : ((q.clauseExprs c).map (c, ·)).filter (·.1 = clause)
      = if c = clause then (q.clauseExprs clause).map (clause, ·) else [] := by
    split
    · next heq =>
      subst heq
      simp
    · next hne => simp [hne]
  rw [exprs, List.filter_flatMap]
  simp only [hclause]
  cases clause <;> simp [Clause.all]

/-- An entry of the reading order stands in its clause behind the entries of this clause that are
    read before. -/
theorem getElem?_of_exprs_eq {q : Query} {before after : List (Clause × ClauseExpr)}
    {clause : Clause} {e : ClauseExpr} (h : q.exprs = before ++ (clause, e) :: after) :
    (q.clauseExprs clause)[before.countP (·.1 = clause)]? = some e := by
  have hfilter := q.filter_exprs clause
  rw [h, List.filter_append, List.filter_cons_of_pos (by simp)] at hfilter
  have hget := congrArg (·[before.countP (·.1 = clause)]?) hfilter
  rw [List.countP_eq_length_filter] at hget ⊢
  simpa using hget.symm

theorem countP_exprsBefore {q : Query} {clause : Clause} {i : Nat}
    (hi : i ≤ (q.clauseExprs clause).length) :
    (q.exprsBefore clause i).countP (·.1 = clause) = i := by
  have hearlier : ((Clause.all.takeWhile (· ≠ clause)).flatMap fun c =>
      (q.clauseExprs c).map (c, ·)).countP (·.1 = clause) = 0 := by
    rw [List.countP_eq_zero]
    intro row hrow
    obtain ⟨c, hc, hrow⟩ := List.mem_flatMap.1 hrow
    obtain ⟨e, -, rfl⟩ := List.mem_map.1 hrow
    simpa using Clause.ne_of_mem_earlier hc
  have hkind : ((fun row : Clause × ClauseExpr => decide (row.1 = clause)) ∘ (clause, ·))
      = fun _ => true := by
    funext e
    simp
  rw [exprsBefore, List.countP_append, hearlier, List.countP_map, hkind, List.countP_true,
    List.length_take, Nat.zero_add, Nat.min_eq_left hi]

/-- What is read before an entry of the reading order is what is read before its place. -/
theorem exprsBefore_of_exprs_eq {q : Query} {before after : List (Clause × ClauseExpr)}
    {clause : Clause} {e : ClauseExpr} (h : q.exprs = before ++ (clause, e) :: after) :
    q.exprsBefore clause (before.countP (·.1 = clause)) = before := by
  have he := getElem?_of_exprs_eq h
  have hcount := countP_exprsBefore (Nat.le_of_lt (List.getElem?_eq_some_iff.1 he).1)
  exact eq_of_append_cons_eq (p := (·.1 = clause)) (by simp) (by simp)
    ((exprs_eq_append he).symm.trans h) hcount

theorem exprsAfter_of_exprs_eq {q : Query} {before after : List (Clause × ClauseExpr)}
    {clause : Clause} {e : ClauseExpr} (h : q.exprs = before ++ (clause, e) :: after) :
    q.exprsAfter clause (before.countP (·.1 = clause)) = after := by
  have hexprs := exprs_eq_append (getElem?_of_exprs_eq h)
  rw [exprsBefore_of_exprs_eq h, h, List.append_cancel_left_eq, List.cons.injEq] at hexprs
  exact hexprs.2.symm

theorem placeholdersBefore_eq (q : Query) (clause : Clause) (position : Nat) :
    q.placeholdersBefore clause position
      = ((q.exprsBefore clause position).flatMap fun row => row.2.expr.placeholders).length := by
  simp only [placeholdersBefore, exprsBefore, List.flatMap_append, List.flatMap_map,
    List.flatMap_assoc]

theorem placeholdersBefore_of_exprs_eq {q : Query} {before after : List (Clause × ClauseExpr)}
    {clause : Clause} {e : ClauseExpr} (h : q.exprs = before ++ (clause, e) :: after) :
    q.placeholdersBefore clause (before.countP (·.1 = clause))
      = (before.flatMap fun row => row.2.expr.placeholders).length := by
  rw [placeholdersBefore_eq, exprsBefore_of_exprs_eq h]

/-- Queries whose expressions agree in some list, place by place, agree in all of it. -/
theorem flatMap_exprs_congr {α : Type} {p q : Query} {f : ClauseExpr → List α}
    (h : ∀ c, (p.clauseExprs c).map f = (q.clauseExprs c).map f) :
    (p.exprs.flatMap fun row => f row.2) = q.exprs.flatMap fun row => f row.2 := by
  simp only [exprs, List.flatMap_assoc, List.flatMap_map]
  simp only [List.flatMap_def, h]

/-- Queries whose expressions have as many things in each clause have as many in all. -/
theorem length_flatMap_exprs_congr {α : Type} {p q : Query} {f : ClauseExpr → List α}
    (h : ∀ c, ((p.clauseExprs c).flatMap f).length = ((q.clauseExprs c).flatMap f).length) :
    (p.exprs.flatMap fun row => f row.2).length = (q.exprs.flatMap fun row => f row.2).length := by
  simp only [exprs, List.flatMap_assoc, List.flatMap_map]
  rw [List.length_flatMap, List.length_flatMap]
  simp only [h]

/-- Queries whose expressions are in step, clause by clause, are in step in the reading order. -/
theorem exprs_forall₂ {R : Clause → ClauseExpr → ClauseExpr → Prop} {p q : Query}
    (h : ∀ c, List.Forall₂ (R c) (p.clauseExprs c) (q.clauseExprs c)) :
    List.Forall₂ (fun row row' => row.1 = row'.1 ∧ R row.1 row.2 row'.2) p.exprs q.exprs := by
  refine List.rel_flatMap (List.forall₂_same.2 fun clause _ => rfl) fun clause _ hclause => ?_
  subst hclause
  rw [List.forall₂_map_left_iff, List.forall₂_map_right_iff]
  exact (h clause).imp fun _ _ related => ⟨rfl, related⟩

/-- Queries whose expressions have the same parameters, place by place, have the same altogether. -/
theorem paramUses_congr {p q : Query}
    (h : ∀ c, List.Forall₂ (fun e e' => e'.paramUses c = e.paramUses c) (p.clauseExprs c)
      (q.clauseExprs c)) : q.paramUses = p.paramUses := by
  have hrows := exprs_forall₂ (R := fun c e e' => e'.paramUses c = e.paramUses c) h
  refine (flatMap_eq_of_forall₂ (hrows.imp ?_)).symm
  rintro ⟨clause, e⟩ ⟨_, e'⟩ ⟨rfl, hsame⟩
  exact Eq.symm hsame

/-! ## Changes in place -/

/-- Queries with the same parts besides their expressions and the select clause. -/
structure SameFrame (q r : Query) : Prop where
  fromRef : r.fromRef = q.fromRef
  joins : r.joins.map Join.head = q.joins.map Join.head
  sources : r.sources = q.sources
  preloads : r.preloads = q.preloads
  assocs : r.assocs = q.assocs
  lock : r.lock = q.lock

theorem SameFrame.refl (q : Query) : q.SameFrame q :=
  ⟨rfl, rfl, rfl, rfl, rfl, rfl⟩

theorem SameFrame.trans {q₁ q₂ q₃ : Query} (h₁ : q₁.SameFrame q₂) (h₂ : q₂.SameFrame q₃) :
    q₁.SameFrame q₃ where
  fromRef := h₂.fromRef.trans h₁.fromRef
  joins := h₂.joins.trans h₁.joins
  sources := h₂.sources.trans h₁.sources
  preloads := h₂.preloads.trans h₁.preloads
  assocs := h₂.assocs.trans h₁.assocs
  lock := h₂.lock.trans h₁.lock

theorem SameFrame.withSelect {q r : Query} (h : q.SameFrame r) (select : Option Select) :
    q.SameFrame { r with select } :=
  ⟨h.fromRef, h.joins, h.sources, h.preloads, h.assocs, h.lock⟩

section mapExprs

variable (f : Clause → Nat → ClauseExpr → ClauseExpr) (q : Query)

@[simp] theorem sources_mapExprs : (q.mapExprs f).sources = q.sources := rfl

@[simp] theorem length_joins_mapExprs : (q.mapExprs f).joins.length = q.joins.length :=
  List.length_mapIdx

@[simp] theorem map_head_joins_mapExprs :
    (q.mapExprs f).joins.map Join.head = q.joins.map Join.head := by
  refine List.ext_getElem? fun i => ?_
  simp only [mapExprs, List.getElem?_map, List.getElem?_mapIdx, Option.map_map]
  rfl

theorem sameFrame_mapExprs : q.SameFrame (q.mapExprs f) :=
  ⟨rfl, map_head_joins_mapExprs f q, rfl, rfl, rfl, rfl⟩

variable {q} in
theorem SameFrame.mapExprs {r : Query} (h : q.SameFrame r)
    (g : Clause → Nat → ClauseExpr → ClauseExpr) : (q.mapExprs f).SameFrame (r.mapExprs g) where
  fromRef := h.fromRef
  joins := by rw [map_head_joins_mapExprs, map_head_joins_mapExprs, h.joins]
  sources := h.sources
  preloads := h.preloads
  assocs := h.assocs
  lock := h.lock

/-- Two changes in a row are one. -/
theorem mapExprs_mapExprs (g : Clause → Nat → ClauseExpr → ClauseExpr) :
    (q.mapExprs f).mapExprs g = q.mapExprs fun clause i e => g clause i (f clause i e) := by
  simp only [mapExprs, List.mapIdx_mapIdx, Option.map_map, Function.comp_def]

variable {f q}

/-- A change that leaves every expression as it is leaves the query as it is. -/
theorem mapExprs_eq_self (h : ∀ clause i, ∀ e ∈ q.clauseExprs clause, f clause i e = e) :
    q.mapExprs f = q := by
  have hlist {α : Type} {xs : List α} {g : Nat → α → α} (hg : ∀ i, ∀ x ∈ xs, g i x = x) :
      xs.mapIdx g = xs := by
    refine List.ext_getElem? fun i => ?_
    rw [List.getElem?_mapIdx]
    cases hx : xs[i]? with
    | none => rfl
    | some x => exact congrArg some (hg i x (List.mem_of_getElem? hx))
  have hjoins : (q.joins.mapIdx fun i j => { j with on := f .join i j.on }) = q.joins :=
    hlist fun i j hj => by rw [h .join i j.on (List.mem_map_of_mem hj)]
  have hselect : (q.select.map fun s => { s with expr := f .select 0 s.expr }) = q.select := by
    cases hs : q.select with
    | none => rfl
    | some s => rw [Option.map_some, h .select 0 s.expr (by simp [clauseExprs, hs])]
  have hoption {e? : Option ClauseExpr} {g : ClauseExpr → ClauseExpr}
      (hg : ∀ e ∈ e?.toList, g e = e) : e?.map g = e? := by
    cases e? with
    | none => rfl
    | some e => exact congrArg some (hg e (List.mem_singleton_self e))
  have hdistincts : q.distincts.mapIdx (f .distinct) = q.distincts := hlist (h .distinct)
  have hfilters : q.filters.mapIdx (f .filter) = q.filters := hlist (h .filter)
  have hgroupings : q.groupings.mapIdx (f .groupBy) = q.groupings := hlist (h .groupBy)
  have hhavings : q.havings.mapIdx (f .having) = q.havings := hlist (h .having)
  have horderings : q.orderings.mapIdx (f .orderBy) = q.orderings := hlist (h .orderBy)
  have hlimit : q.limit.map (f .limit 0) = q.limit := hoption (h .limit 0)
  have hoffset : q.offset.map (f .offset 0) = q.offset := hoption (h .offset 0)
  rw [mapExprs, hjoins, hselect, hdistincts, hfilters, hgroupings, hhavings, horderings, hlimit,
    hoffset]

end mapExprs

/-- Queries whose expressions have the same placeholders, place by place, have the same number of
    them before each place. -/
theorem placeholdersBefore_congr {p q : Query}
    (h : ∀ c, (p.clauseExprs c).map (·.expr.placeholders)
      = (q.clauseExprs c).map (·.expr.placeholders)) (clause : Clause) (position : Nat) :
    p.placeholdersBefore clause position = q.placeholdersBefore clause position := by
  simp only [placeholdersBefore, List.flatMap_def, List.map_append, List.map_flatten, List.map_map,
    List.map_take, Function.comp_def, h]

@[simp] theorem placeholdersBefore_withoutParams (q : Query) (clause : Clause) (position : Nat) :
    q.withoutParams.placeholdersBefore clause position
      = q.placeholdersBefore clause position := by
  refine placeholdersBefore_congr (fun c => ?_) clause position
  rw [clauseExprs_withoutParams, List.map_map]
  rfl

end Query

end QueryPlan
