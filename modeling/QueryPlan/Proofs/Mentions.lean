import QueryPlan.Proofs.Placeholders

set_option autoImplicit false

/-! # Placeholders that are mentioned more or less often

A parameter may be mentioned several times in the tree of its expression, or not at all. Merging
does not look at trees, so the values are the same however often this happens. But normalization
moves placeholders past the placeholders read before, not past the parameters: another tree with
more or fewer placeholders moves those of every expression read after it away from their values. -/

namespace QueryPlan

/-! ## Another tree in one place -/

/-- The query with another tree in one place. The parameters there stay. -/
def Query.withTree (clause : Clause) (position : Nat) (tree : Expr) (q : Query) : Query :=
  q.mapExprs fun c i e => if c = clause ∧ i = position then { e with expr := tree } else e

namespace Query

variable {q : Query} {clause c : Clause} {i j : Nat} {tree : Expr}

theorem getElem?_withTree_self :
    ((q.withTree clause i tree).clauseExprs clause)[i]?
      = (q.clauseExprs clause)[i]?.map ({ · with expr := tree }) := by
  rw [withTree, clauseExprs_mapExprs, List.getElem?_mapIdx]
  simp

theorem getElem?_withTree_of_ne (h : (c, j) ≠ (clause, i)) :
    ((q.withTree clause i tree).clauseExprs c)[j]? = (q.clauseExprs c)[j]? := by
  have hplace : ¬(c = clause ∧ j = i) := by
    rintro ⟨rfl, rfl⟩
    exact h rfl
  rw [withTree, clauseExprs_mapExprs, List.getElem?_mapIdx]
  simp [hplace]

theorem clauseExprs_withTree_of_ne (h : c ≠ clause) :
    (q.withTree clause i tree).clauseExprs c = q.clauseExprs c :=
  List.ext_getElem? fun _ => getElem?_withTree_of_ne fun heq => h (Prod.mk.inj heq).1

@[simp] theorem sources_withTree : (q.withTree clause i tree).sources = q.sources := rfl

@[simp] theorem paramUses_withTree : (q.withTree clause i tree).paramUses = q.paramUses := by
  refine paramUses_congr fun c => ?_
  rw [withTree, clauseExprs_mapExprs]
  refine forall₂_of_getElem? (by simp) fun j e e' he he' => ?_
  rw [List.getElem?_mapIdx, he] at he'
  obtain rfl := Option.some.inj he'
  split <;> rfl

/-! ### In the reading order -/

theorem exprsBefore_withTree :
    (q.withTree clause i tree).exprsBefore clause i = q.exprsBefore clause i := by
  have hsame : ((q.withTree clause i tree).clauseExprs clause).take i
      = (q.clauseExprs clause).take i := by
    refine List.ext_getElem? fun j => ?_
    rw [List.getElem?_take, List.getElem?_take]
    split
    · next hj => exact getElem?_withTree_of_ne fun heq => hj.ne (Prod.mk.inj heq).2
    · rfl
  rw [exprsBefore, exprsBefore, hsame]
  refine congrArg (· ++ _) (List.flatMap_congr fun c hc => ?_)
  rw [clauseExprs_withTree_of_ne (Clause.ne_of_mem_earlier hc)]

theorem exprsAfter_withTree :
    (q.withTree clause i tree).exprsAfter clause i = q.exprsAfter clause i := by
  have hsame : ((q.withTree clause i tree).clauseExprs clause).drop (i + 1)
      = (q.clauseExprs clause).drop (i + 1) := by
    refine List.ext_getElem? fun j => ?_
    rw [List.getElem?_drop, List.getElem?_drop]
    refine getElem?_withTree_of_ne fun heq => ?_
    have hj := (Prod.mk.inj heq).2
    omega
  rw [exprsAfter, exprsAfter, hsame]
  refine congrArg (_ ++ ·) (List.flatMap_congr fun c hc => ?_)
  rw [clauseExprs_withTree_of_ne (Clause.ne_of_mem_later hc)]

section

variable {e e₀ : ClauseExpr} {before after mid rest : List (Clause × ClauseExpr)}

/-- Another tree in one place changes the entry of this place and no other. -/
theorem exprs_withTree (tree : Expr) (he : q.exprs = before ++ (clause, e) :: after) :
    (q.withTree clause (before.countP (·.1 = clause)) tree).exprs
      = before ++ (clause, { e with expr := tree }) :: after := by
  have hchanged : ((q.withTree clause (before.countP (·.1 = clause)) tree).clauseExprs
      clause)[before.countP (·.1 = clause)]? = some { e with expr := tree } := by
    rw [getElem?_withTree_self, getElem?_of_exprs_eq he]
    rfl
  rw [exprs_eq_append hchanged, exprsBefore_withTree, exprsAfter_withTree,
    exprsBefore_of_exprs_eq he, exprsAfter_of_exprs_eq he]

/-! ### The placeholders read before -/

/-- Behind the place, as many placeholders more or less are read before as the trees differ in. -/
theorem placeholdersBefore_withTree_of_after (tree : Expr)
    (he : q.exprs = before ++ (clause, e) :: (mid ++ (c, e₀) :: rest)) :
    (q.withTree clause (before.countP (·.1 = clause)) tree).placeholdersBefore c
        ((before ++ (clause, e) :: mid).countP (·.1 = c)) + e.placeholderCount
      = q.placeholdersBefore c ((before ++ (clause, e) :: mid).countP (·.1 = c))
        + tree.placeholderCount := by
  have hq : q.exprs = (before ++ (clause, e) :: mid) ++ (c, e₀) :: rest := by
    rw [he, List.append_assoc, List.cons_append]
  have hq' : (q.withTree clause (before.countP (·.1 = clause)) tree).exprs
      = (before ++ (clause, { e with expr := tree }) :: mid) ++ (c, e₀) :: rest := by
    rw [exprs_withTree tree he, List.append_assoc, List.cons_append]
  have hcount : (before ++ (clause, { e with expr := tree }) :: mid).countP (·.1 = c)
      = (before ++ (clause, e) :: mid).countP (·.1 = c) := by
    rw [List.countP_append, List.countP_append, List.countP_cons, List.countP_cons]
  rw [placeholdersBefore_of_exprs_eq hq, ← hcount, placeholdersBefore_of_exprs_eq hq']
  simp only [List.flatMap_append, List.flatMap_cons, List.length_append,
    ClauseExpr.placeholderCount, Expr.placeholderCount]
  omega

/-- An entry behind the place of another one has a place of its own. -/
theorem exists_place_of_mem_after (tree : Expr) (he : q.exprs = before ++ (clause, e) :: after)
    (hafter : (c, e₀) ∈ after) :
    ∃ j, (c, j) ≠ (clause, before.countP (·.1 = clause)) ∧ (q.clauseExprs c)[j]? = some e₀ ∧
      (q.withTree clause (before.countP (·.1 = clause)) tree).placeholdersBefore c j
          + e.placeholderCount
        = q.placeholdersBefore c j + tree.placeholderCount := by
  obtain ⟨mid, rest, rfl⟩ := List.append_of_mem hafter
  have hq : q.exprs = (before ++ (clause, e) :: mid) ++ (c, e₀) :: rest := by
    rw [he, List.append_assoc, List.cons_append]
  refine ⟨_, ?_, getElem?_of_exprs_eq hq, placeholdersBefore_withTree_of_after tree he⟩
  intro heq
  obtain ⟨rfl, hcount⟩ := Prod.mk.inj heq
  simp [List.countP_append] at hcount

/-- Every other place is read before or behind the one with another tree. -/
theorem placeholdersBefore_withTree (tree : Expr) (he : q.exprs = before ++ (clause, e) :: after)
    (hplace : (c, j) ≠ (clause, before.countP (·.1 = clause)))
    (he₀ : (q.clauseExprs c)[j]? = some e₀) :
    (q.withTree clause (before.countP (·.1 = clause)) tree).placeholdersBefore c j
        = q.placeholdersBefore c j ∨
      (c, e₀) ∈ after ∧
        (q.withTree clause (before.countP (·.1 = clause)) tree).placeholdersBefore c j
            + e.placeholderCount
          = q.placeholdersBefore c j + tree.placeholderCount := by
  have hcount : (q.exprsBefore c j).countP (·.1 = c) = j :=
    countP_exprsBefore (Nat.le_of_lt (List.getElem?_eq_some_iff.1 he₀).1)
  have hsplit := exprs_eq_append he₀
  generalize q.exprsBefore c j = earlier at hcount hsplit
  generalize q.exprsAfter c j = later at hsplit
  subst hcount
  rcases List.append_eq_append_iff.1 (he.symm.trans hsplit) with ⟨mid, rfl, hmid⟩ | ⟨mid, rfl, hmid⟩
  · cases mid with
    | nil =>
      obtain ⟨⟨rfl, rfl⟩, -⟩ := by simpa using hmid
      simp at hplace
    | cons row mid =>
      obtain ⟨rfl, rfl⟩ := List.cons.inj hmid
      refine .inr ⟨by simp, placeholdersBefore_withTree_of_after tree he⟩
  · cases mid with
    | nil =>
      obtain ⟨⟨rfl, rfl⟩, -⟩ := by simpa using hmid
      simp at hplace
    | cons row mid =>
      obtain ⟨rfl, rfl⟩ := List.cons.inj hmid
      have hq' := exprs_withTree tree he
      rw [List.append_assoc, List.cons_append] at hq'
      left
      rw [placeholdersBefore_of_exprs_eq hsplit, placeholdersBefore_of_exprs_eq hq']

end

/-! ### Before planning -/

/-- Resolution does not look at trees outside of joins. -/
theorem resolve_withTree {catalog : Catalog} {r : Query} (hclause : clause ≠ .join)
    (h : q.resolve catalog = .ok r) :
    (q.withTree clause i tree).resolve catalog = .ok (r.withTree clause i tree) := by
  rw [withTree, resolve_mapExprs, h]
  · rfl
  · intro j e condition
    simp only [hclause.symm, false_and, if_false]

theorem castParams_withTree {catalog : Catalog} {caster : Caster} :
    (q.withTree clause i tree).castParams catalog caster = q.castParams catalog caster := by
  rw [castParams, castParams, paramUses_withTree, sources_withTree]

end Query

/-! ## Moving the same expression -/

theorem Expr.shift_eq_shift_iff {e : Expr} {m n : Nat} :
    e.shift m = e.shift n ↔ m = n ∨ e.placeholderCount = 0 := by
  constructor
  · intro h
    have hmap := congrArg Expr.placeholders h
    rw [Expr.placeholders_shift, Expr.placeholders_shift, List.map_inj_left] at hmap
    cases hkeys : e.placeholders with
    | nil => exact .inr (by rw [Expr.placeholderCount, hkeys]; rfl)
    | cons key keys =>
      have hkey := hmap key (by rw [hkeys]; exact List.mem_cons_self)
      exact .inl (Nat.add_right_cancel hkey)
  · rintro (rfl | hcount)
    · rfl
    · have hnil := List.length_eq_zero_iff.1 hcount
      rw [Expr.shift_of_placeholders_eq_nil m hnil, Expr.shift_of_placeholders_eq_nil n hnil]

/-! ## Closed expressions -/

/-- An expression whose `n` parameters have the numbers from 0 to `n - 1`, listed in any order, and
    whose placeholders have such numbers. Each may be mentioned any number of times. -/
structure ClauseExpr.Closed (e : ClauseExpr) : Prop where
  keys : (e.params.map Prod.fst).Perm (List.range e.params.length)
  lt : ∀ key ∈ e.expr.placeholders, key < e.params.length

instance (e : ClauseExpr) : Decidable e.Closed :=
  decidable_of_iff ((e.params.map Prod.fst).Perm (List.range e.params.length) ∧
      ∀ key ∈ e.expr.placeholders, key < e.params.length)
    ⟨fun h => ⟨h.1, h.2⟩, fun h => ⟨h.keys, h.lt⟩⟩

/-! ## Planning -/

namespace Planner

variable {planner : Planner} {q : Query} {bound : List Value} {options : Options}

/-- Two plans of a query, one of them with another tree in one place, come from the same values, and
    another place has the same expression in both unless its placeholders are moved by different
    numbers. -/
theorem agree_iff_of_plan_withTree {clause : Clause} {i : Nat} {tree : Expr} {p p' : Plan}
    (hclause : clause ≠ .join) (h : planner.plan q bound options = .ok p)
    (h' : planner.plan (q.withTree clause i tree) bound options = .ok p') :
    p.params = p'.params ∧ ∀ c j, (c, j) ≠ (clause, i) →
      ((p.query.clauseExprs c)[j]? = (p'.query.clauseExprs c)[j]? ↔
        ∀ e, (q.clauseExprs c)[j]? = some e →
          q.placeholdersBefore c j = (q.withTree clause i tree).placeholdersBefore c j ∨
            e.placeholderCount = 0) := by
  obtain ⟨r, values, hresolve, hvalues, hparams, -, hplaces⟩ := exists_of_plan h
  obtain ⟨r', values', hresolve', hvalues', hparams', -, hplaces'⟩ := exists_of_plan h'
  have hr := Query.resolvesTo_of_resolve hresolve
  have hr' := Query.resolvesTo_of_resolve hresolve'
  -- The resolved queries differ in the same place as the written ones.
  rw [Query.resolve_withTree hclause hresolve] at hresolve'
  cases hresolve'
  rw [Query.castParams_withTree, hvalues] at hvalues'
  cases hvalues'
  refine ⟨hparams.trans hparams'.symm, fun c j hplace => ?_⟩
  have hclauses := hr.clauseExprs c
  rw [hplaces, hplaces', Query.getElem?_withTree_of_ne hplace, hr.placeholdersBefore,
    hr'.placeholdersBefore]
  cases hwritten : (q.clauseExprs c)[j]? with
  | none =>
    simp [forall₂_getElem?_eq_none hclauses hwritten]
  | some e =>
    obtain ⟨e', he', hsame⟩ := forall₂_getElem? hclauses hwritten
    have hcount : e'.expr.placeholderCount = e.expr.placeholderCount := by
      rw [Expr.placeholderCount, hsame.placeholders]
      rfl
    rw [he']
    simp [ClauseExpr.shift, ClauseExpr.withoutParams, Expr.shift_eq_shift_iff, hcount,
      ClauseExpr.placeholderCount]

/-- The values do not depend on how often a tree mentions its placeholders, but the expressions read
    after it do: all others are the same in both plans exactly when the trees have as many
    placeholders or no expression read after them has one. -/
theorem agree_iff_placeholderCount_eq (planner : Planner) (q : Query) (bound : List Value)
    (options : Options) (before after : List (Clause × ClauseExpr)) (clause : Clause)
    (e : ClauseExpr) (tree : Expr) (p p' : Plan) (hclause : clause ≠ .join)
    (he : q.exprs = before ++ (clause, e) :: after)
    (h : planner.plan q bound options = .ok p)
    (h' : planner.plan (q.withTree clause (before.countP (·.1 = clause)) tree) bound options
      = .ok p') :
    p.params = p'.params ∧
      ((∀ c j, (c, j) ≠ (clause, before.countP (·.1 = clause)) →
          (p.query.clauseExprs c)[j]? = (p'.query.clauseExprs c)[j]?) ↔
        tree.placeholderCount = e.placeholderCount ∨
          ∀ row ∈ after, row.2.placeholderCount = 0) := by
  obtain ⟨hparams, hagree⟩ := agree_iff_of_plan_withTree hclause h h'
  refine ⟨hparams, fun hall => ?_, fun hcounts c j hplace => ?_⟩
  · by_cases hcount : tree.placeholderCount = e.placeholderCount
    · exact .inl hcount
    -- An expression behind the place agrees although it is moved by another number.
    · refine .inr fun row hrow => ?_
      obtain ⟨c, e₀⟩ := row
      obtain ⟨j, hplace, he₀, hmoved⟩ := Query.exists_place_of_mem_after tree he hrow
      rcases (hagree c j hplace).1 (hall c j hplace) e₀ he₀ with hsame | hnone
      · omega
      · exact hnone
  · refine (hagree c j hplace).2 fun e₀ he₀ => ?_
    rcases Query.placeholdersBefore_withTree tree he hplace he₀ with
      hsame | ⟨hrow, hmoved⟩
    · exact .inl hsame.symm
    · rcases hcounts with hcount | hnone
      · left
        omega
      · exact .inr (hnone _ hrow)

/-! ### A condition in two forms -/

/-- Users of one age with one id. -/
def usersByAgeAndId : Query where
  fromRef := some (.model "user")
  filters := [
    { expr := .eq (.field 0 "age") (.placeholder 0), params := [(0, ⟨.int 30, .ofField 0 "age"⟩)] },
    { expr := .eq (.field 0 "id") (.placeholder 0), params := [(0, ⟨.int 7, .ofField 0 "id"⟩)] }]

/-- The condition on the age with its parameter mentioned twice. -/
def ageTwice : Expr :=
  .node (.apply .or) [.eq (.field 0 "age") (.placeholder 0), .eq (.field 0 "age") (.placeholder 0)]

/-- `usersByAgeAndId` with a condition on the age and the number of the placeholder for the id. -/
def usersByAgeAndIdPlanned (condition : Expr) (id : Nat) : Query where
  fromRef := some (.model "user")
  filters := [{ expr := condition }, { expr := .eq (.field 0 "id") (.placeholder id) }]
  sources := [⟨"users", some "user"⟩]
  select := some { expr := { expr := .binding 0 }, fields := [.binding 0], includesFrom := true }

theorem plan_usersByAgeAndId : plan { catalog := postCatalog } usersByAgeAndId [] {}
    = .ok { query := usersByAgeAndIdPlanned (.eq (.field 0 "age") (.placeholder 0)) 1,
            params := [.int 30, .int 7] } := by
  cbv

/-- The second placeholder is moved behind all values. -/
theorem plan_usersByAgeAndId_ageTwice :
    plan { catalog := postCatalog } (usersByAgeAndId.withTree .filter 0 ageTwice) [] {}
      = .ok { query := usersByAgeAndIdPlanned ageTwice 2, params := [.int 30, .int 7] } := by
  cbv

theorem agree_iff_placeholderCount_eq_ageTwice :
    ∃ e after, usersByAgeAndId.exprs = [] ++ (.filter, e) :: after ∧
      ¬(ageTwice.placeholderCount = e.placeholderCount ∨
        ∀ row ∈ after, row.2.placeholderCount = 0) ∧
      ¬∀ c j, (c, j) ≠ (.filter, 0) →
        ((usersByAgeAndIdPlanned (.eq (.field 0 "age") (.placeholder 0)) 1).clauseExprs c)[j]?
          = ((usersByAgeAndIdPlanned ageTwice 2).clauseExprs c)[j]? := by
  refine ⟨_, _, rfl, by decide, ?_⟩
  have hiff := (agree_iff_placeholderCount_eq _ _ _ _ [] _ .filter _ ageTwice _ _ (by decide) rfl
    plan_usersByAgeAndId plan_usersByAgeAndId_ageTwice).2
  exact fun hall => absurd (hiff.1 hall) (by decide)

/-- Closed expressions are not enough for the others to stay as they are: a second mention of one
    placeholder moves the next. -/
theorem not_agree_of_closed : ¬∀ (planner : Planner) (q : Query) (bound : List Value)
    (options : Options) (clause : Clause) (i : Nat) (tree : Expr) (p p' : Plan),
    clause ∈ [Clause.filter, .having, .groupBy, .orderBy, .distinct] →
    (∀ row ∈ q.exprs, row.2.Closed) →
    (∀ row ∈ (q.withTree clause i tree).exprs, row.2.Closed) →
    planner.plan q bound options = .ok p →
    planner.plan (q.withTree clause i tree) bound options = .ok p' →
    p.params = p'.params ∧ ∀ c j, (c, j) ≠ (clause, i) →
      (p.query.clauseExprs c)[j]? = (p'.query.clauseExprs c)[j]? := by
  intro hall
  have hsame := (hall _ _ _ _ .filter 0 ageTwice _ _ (by decide) (by decide) (by decide)
    plan_usersByAgeAndId plan_usersByAgeAndId_ageTwice).2 .filter 1 (by decide)
  have hplaceholders := congrArg (Option.map (·.expr.placeholders)) hsame
  exact absurd hplaceholders (by decide)

end Planner

end QueryPlan
