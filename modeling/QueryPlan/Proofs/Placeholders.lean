import Mathlib
import QueryPlan.Proofs.Parameters
import QueryPlan.Proofs.Resolution
import QueryPlan.Proofs.Stages

set_option autoImplicit false

/-! # Placeholders and their values

Parameters and placeholders are numbered in two separate passes. If every expression has as many
placeholders as parameters, the passes stay in step: each placeholder of a planned query carries the
position of its own parameter's value. This survives any chain of plannings, where each query is
planned behind the values that the ones before it have left. -/

namespace QueryPlan

/-! ## What a placeholder stands for -/

/-- `value` is what the parameter `key` of an expression stands for: its type is known, and the
    caster takes it to that value. -/
def ClauseExpr.Binds (planner : Planner) (sources : List Source) (clause : Clause)
    (e : ClauseExpr) (key : Nat) (value : Value) : Prop :=
  ∃ param resolved, (key, param) ∈ e.params ∧
    param.type.resolve planner.catalog sources clause e.location = .ok resolved ∧
    planner.caster.castParam resolved.type param.value = some value

/-- The placeholders of a planned expression stand, one by one, for those of the written one: where
    that had the placeholder `key`, there is an index from `first` on and before `last` under which
    the values hold what the expression's own parameter `key` stands for. -/
def ClauseExpr.Answered (planner : Planner) (sources : List Source) (clause : Clause)
    (first last : Nat) (values : List Value) (written planned : ClauseExpr) : Prop :=
  List.Forall₂ (fun key index => first ≤ index ∧ index < last ∧
      ∃ value, values[index]? = some value ∧ written.Binds planner sources clause key value)
    written.expr.placeholders planned.expr.placeholders

/-- The placeholders of a planned query all stand for parameters of the written one, in the same
    places, with indices from `first` on and before `last`. -/
structure Query.Answered (planner : Planner) (first last : Nat) (values : List Value)
    (written planned : Query) : Prop where
  /-- Every written expression has a planned one in its place. -/
  exprs (clause : Clause) (i : Nat) (e : ClauseExpr) : (written.clauseExprs clause)[i]? = some e →
    ∃ e', (planned.clauseExprs clause)[i]? = some e' ∧
      e.Answered planner planned.sources clause first last values e'
  /-- A planned expression that was not written, such as the default select, has none. -/
  others (clause : Clause) (i : Nat) (e' : ClauseExpr) :
    (planned.clauseExprs clause)[i]? = some e' → (written.clauseExprs clause)[i]? = none →
      e'.expr.placeholders = []
  /-- The fields to read have the placeholders of the select expression. -/
  fields (s : Select) : planned.select = some s →
    s.fields.flatMap Expr.placeholders = s.expr.expr.placeholders

/-- More values behind the ones that are there answer the same placeholders. -/
theorem Query.Answered.mono {planner : Planner} {first last : Nat} {values values' : List Value}
    {written planned : Query} (h : written.Answered planner first last values planned)
    (hbehind : values <+: values') : written.Answered planner first last values' planned := by
  refine ⟨fun clause i e he => ?_, h.others, h.fields⟩
  obtain ⟨e', he', hanswered⟩ := h.exprs clause i e he
  refine ⟨e', he', hanswered.imp fun key index ⟨hfirst, hlast, value, hvalue, hbinds⟩ => ?_⟩
  obtain ⟨more, rfl⟩ := hbehind
  have hlt : index < values.length := (List.getElem?_eq_some_iff.1 hvalue).1
  exact ⟨hfirst, hlast, value, by rw [List.getElem?_append_left hlt, hvalue], hbinds⟩

/-! ## Resolution -/

/-- The same parameters for the same placeholders are as many as those. -/
theorem ClauseExpr.SameHoles.balanced {e e' : ClauseExpr} (h : e.SameHoles e')
    (he : e.Balanced) : e'.Balanced := by
  have hcount : e'.placeholderCount = e.placeholderCount := by
    simp only [ClauseExpr.placeholderCount, Expr.placeholderCount, h.placeholders]
  refine ⟨?_, ?_, ?_⟩
  · rw [h.params]
    exact he.keys
  · rw [hcount, h.params]
    exact he.count
  · rw [h.placeholders, h.params]
    exact he.lt

theorem Query.ResolvesTo.balanced {q r : Query} (h : q.ResolvesTo r)
    (hq : ∀ row ∈ q.exprs, row.2.Balanced) : ∀ row ∈ r.exprs, row.2.Balanced := by
  rintro ⟨clause, e'⟩ hrow
  obtain ⟨i, hi⟩ := List.mem_iff_getElem?.1 (Query.mem_exprs.1 hrow)
  obtain ⟨e, he, hsame⟩ := forall₂_getElem? (h.clauseExprs clause).flip hi
  exact ClauseExpr.SameHoles.balanced hsame (hq _ (Query.mem_exprs_of_getElem? he))

/-! ## One planning -/

/-- Where merging leaves the value of an expression's parameter. -/
theorem Query.exists_value {planner : Planner} {r : Query} {values : List Value}
    (hvalues : r.castParams planner.catalog planner.caster = .ok values) {clause : Clause}
    {i : Nat} {e : ClauseExpr} (he : (r.clauseExprs clause)[i]? = some e) (hbalanced : e.Balanced)
    {key : Nat} (hkey : key < e.params.length) :
    ∃ value, values[r.paramsBefore clause i + key]? = some value ∧
      e.Binds planner r.sources clause key value := by
  obtain ⟨param, hmem, huse⟩ := hbalanced.exists_param clause hkey
  have hplace := Query.getElem?_paramUses he huse
  obtain ⟨value, hvalue, hcast⟩ := forall₂_getElem? (Query.castParams_eq_ok_iff.1 hvalues) hplace
  obtain ⟨resolved, htype, -, hcast⟩ := ParamUse.cast_eq_ok_iff.1 hcast
  exact ⟨value, hvalue, param, resolved, hmem, htype, hcast⟩

/-- Moved past the placeholders read before, those of a resolved expression find the values of its
    parameters behind the values bound before: merging has left these past as many places. -/
theorem ClauseExpr.SameHoles.answered {planner : Planner} {r : Query} {values : List Value}
    (hvalues : r.castParams planner.catalog planner.caster = .ok values)
    (hbalanced : ∀ row ∈ r.exprs, row.2.Balanced) {clause : Clause} {i : Nat} {e e' : ClauseExpr}
    (hsame : e.SameHoles e') (he' : (r.clauseExprs clause)[i]? = some e') (bound : List Value) :
    e.Answered planner r.sources clause bound.length (bound.length + r.paramCount) (bound ++ values)
      (e'.withoutParams.shift (bound.length + r.placeholdersBefore clause i)) := by
  have hb : e'.Balanced := hbalanced _ (Query.mem_exprs_of_getElem? he')
  have hbefore := Query.placeholdersBefore_eq_paramsBefore hbalanced clause i
  have hend := Query.paramsBefore_add_le he'
  show List.Forall₂ _ _ (e'.expr.shift _).placeholders
  rw [Expr.placeholders_shift, hsame.placeholders, List.forall₂_map_right_iff, List.forall₂_same,
    hbefore]
  intro key hkey
  have hlt : key < e'.params.length := hb.lt key (hsame.placeholders ▸ hkey)
  obtain ⟨value, hvalue, param, resolved, hmem, htype, hcast⟩ :=
    Query.exists_value hvalues he' hb hlt
  refine ⟨by omega, by omega, value, ?_, param, resolved, hsame.params ▸ hmem,
    hsame.location ▸ htype, hcast⟩
  rw [Nat.add_assoc, List.getElem?_append_right (Nat.le_add_right _ _), Nat.add_sub_cancel_left]
  exact hvalue

/-- What planning does to a query, place by place: an expression is resolved, loses its parameters
    and has its placeholders moved past those read before. Where none was written, the select clause
    may be added. -/
theorem Planner.exists_of_plan {planner : Planner} {q : Query} {bound : List Value}
    {options : Options} {p : Plan} (h : planner.plan q bound options = .ok p) :
    ∃ r values, q.resolve planner.catalog = .ok r ∧
      r.castParams planner.catalog planner.caster = .ok values ∧ p.params = bound ++ values ∧
      p.query.sources = r.sources ∧
      ∀ clause i, (p.query.clauseExprs clause)[i]? = ((r.clauseExprs clause)[i]?.map fun e =>
          e.withoutParams.shift (bound.length + r.placeholdersBefore clause i)).or
        (options.addedExpr clause i) := by
  obtain ⟨prepared, normalized, hprepared, hnormalized, rfl⟩ := Planner.plan_eq_ok_iff.1 h
  obtain ⟨r, values, hresolve, hvalues, rfl⟩ := Planner.prepare_eq_ok_iff.1 hprepared
  refine ⟨r, values, hresolve, hvalues, ?_, ?_, fun clause i => ?_⟩
  · rw [Prepared.values, map_snd_numberedFrom]
  · rw [Planner.sources_of_normalize hnormalized]
    rfl
  · rw [Planner.getElem?_of_normalize hnormalized, Query.clauseExprs_withoutParams,
      List.getElem?_map, Option.map_map, Query.placeholdersBefore_withoutParams]
    rfl

theorem Planner.fields_of_plan {planner : Planner} {q : Query} {bound : List Value}
    {options : Options} {p : Plan} (h : planner.plan q bound options = .ok p) {s : Select}
    (hs : p.query.select = some s) :
    s.fields.flatMap Expr.placeholders = s.expr.expr.placeholders := by
  obtain ⟨prepared, normalized, -, hnormalized, rfl⟩ := Planner.plan_eq_ok_iff.1 h
  rcases Planner.select_of_normalize hnormalized with ⟨-, hnone⟩ | ⟨-, written, hselect, -⟩
  · rw [hnone] at hs
    cases hs
  · rw [hselect] at hs
    obtain rfl := Option.some.inj hs
    exact Select.flatMap_placeholders_withFields _ _

/-- One planning answers the placeholders of a query by values behind those bound before. -/
theorem Planner.answered_of_plan {planner : Planner} {q : Query} {bound : List Value}
    {options : Options} {p : Plan} (h : planner.plan q bound options = .ok p)
    (hq : ∀ row ∈ q.exprs, row.2.Balanced) :
    bound <+: p.params ∧ p.params.length = bound.length + q.paramCount ∧
      q.Answered planner bound.length (bound.length + q.paramCount) p.params p.query := by
  obtain ⟨r, values, hresolve, hvalues, hparams, hsources, hplaces⟩ := exists_of_plan h
  have hresolves := Query.resolvesTo_of_resolve hresolve
  have hbalanced := hresolves.balanced hq
  have hcount := hresolves.paramCount
  have hlength : p.params.length = bound.length + q.paramCount := by
    rw [hparams, List.length_append, Query.length_of_castParams hvalues, hcount]
  refine ⟨⟨values, hparams.symm⟩, hlength, ?_, ?_, fun s hs => fields_of_plan h hs⟩
  · intro clause i e he
    obtain ⟨e', he', hsame⟩ := forall₂_getElem? (hresolves.clauseExprs clause) he
    rw [← hcount, hparams, hsources]
    refine ⟨_, ?_, ClauseExpr.SameHoles.answered hvalues hbalanced hsame he' bound⟩
    rw [hplaces, he']
    rfl
  · intro clause i e' he' hnone
    -- Unless the select clause was added, no place is new.
    rw [hplaces, forall₂_getElem?_eq_none (hresolves.clauseExprs clause) hnone] at he'
    exact Options.placeholders_of_addedExpr he'

/-! ## Chains of plannings -/

namespace Planner

/-- Plans queries one after another, each behind the values that the ones before it have left. Gives
    the planned queries and the values of all of them. -/
def planAll (planner : Planner) : List (Query × Options) → List Value →
    Except PlanError (List Query × List Value)
  | [], bound => .ok ([], bound)
  | (q, options) :: calls, bound => do
    let plan ← planner.plan q bound options
    let (queries, values) ← planner.planAll calls plan.params
    return (plan.query :: queries, values)

/-- The index before which the placeholders of the first `i` queries of a chain end: they follow
    the values bound at the beginning, and each other. -/
def segmentStart (bound : List Value) (calls : List (Query × Options)) (i : Nat) : Nat :=
  bound.length + ((calls.take i).flatMap fun call => call.1.exprs.flatMap (·.2.params)).length

@[simp] theorem segmentStart_zero (bound : List Value) (calls : List (Query × Options)) :
    segmentStart bound calls 0 = bound.length := by
  simp [segmentStart]

theorem segmentStart_cons {bound bound' : List Value} {call : Query × Options}
    {calls : List (Query × Options)} (h : bound'.length = bound.length + call.1.paramCount)
    (i : Nat) : segmentStart bound (call :: calls) (i + 1) = segmentStart bound' calls i := by
  rw [segmentStart, segmentStart, h, List.take_succ_cons, List.flatMap_cons, List.length_append,
    ← Nat.add_assoc, Query.paramCount]

/-- In a chain of plannings of queries whose expressions all have as many placeholders as
    parameters, the values bound at the beginning stay in front, each query has a segment of indices
    behind that of the query before it, and each of its placeholders has an index in this segment
    under which the final values hold what its own parameter stands for. -/
theorem answered_of_planAll (planner : Planner) (calls : List (Query × Options))
    (bound : List Value) (queries : List Query) (values : List Value)
    (h : planner.planAll calls bound = .ok (queries, values))
    (hcalls : ∀ call ∈ calls, ∀ row ∈ call.1.exprs, row.2.Balanced) :
    bound <+: values ∧ values.length = segmentStart bound calls calls.length ∧
      queries.length = calls.length ∧
      ∀ i q options planned, calls[i]? = some (q, options) → queries[i]? = some planned →
        segmentStart bound calls (i + 1) = segmentStart bound calls i + q.paramCount ∧
        q.Answered planner (segmentStart bound calls i) (segmentStart bound calls (i + 1)) values
          planned := by
  induction calls generalizing bound queries with
  | nil =>
    cases h
    refine ⟨List.prefix_rfl, (segmentStart_zero _ []).symm, rfl, ?_⟩
    intro i q options planned hcall
    cases hcall
  | cons call calls ih =>
    obtain ⟨q₀, options₀⟩ := call
    obtain ⟨plan, hplan, h⟩ := bind_eq_ok_iff.1 h
    obtain ⟨⟨rest, final⟩, hrest, h⟩ := bind_eq_ok_iff.1 h
    cases h
    obtain ⟨hfirst, hcalls⟩ := List.forall_mem_cons.1 hcalls
    obtain ⟨hbound, hlength, hanswered⟩ := answered_of_plan hplan hfirst
    -- The rest of the chain starts from what the first query has left.
    obtain ⟨hvalues, htotal, hqueries, hall⟩ := ih plan.params rest hrest hcalls
    have hstart (i : Nat) : segmentStart bound ((q₀, options₀) :: calls) (i + 1)
        = segmentStart plan.params calls i := segmentStart_cons hlength i
    refine ⟨hbound.trans hvalues, htotal.trans (hstart _).symm, congrArg (· + 1) hqueries, ?_⟩
    intro i q options planned hcall hquery
    cases i with
    | zero =>
      cases hcall
      cases hquery
      rw [hstart, segmentStart_zero, segmentStart_zero, hlength]
      exact ⟨rfl, hanswered.mono hvalues⟩
    | succ i =>
      rw [hstart, hstart]
      exact hall i q options planned hcall hquery

/-! ### A chain of two -/

/-- The first five posts of users in a range of ages, whose bounds are listed the wrong way
    round. -/
def postsOfUsers : Query where
  fromRef := some (.model "user")
  joins := [⟨.left, .association 0 "posts", { expr := .literal (.bool true) }⟩]
  filters := [{
    expr := .and (.eq (.field 0 "age") (.placeholder 1)) (.eq (.field 0 "age") (.placeholder 0))
    params := [(1, ⟨.text "60", .ofField 0 "age"⟩), (0, ⟨.int 18, .ofField 0 "age"⟩)] }]
  limit := some { expr := .placeholder 0, params := [(0, ⟨.int 5, .plain .integer⟩)] }

/-- The condition that a user has an age. -/
def usersOfAge : Query where
  fromRef := some (.model "user")
  filters := [{
    expr := .eq (.field 0 "age") (.placeholder 0)
    params := [(0, ⟨.int 30, .ofField 0 "age"⟩)] }]

/-- `postsOfUsers` behind one value. -/
def postsOfUsersPlanned : Query where
  fromRef := some (.model "user")
  joins := [⟨.left, .explicit (.modelAt "posts" "post"),
    { expr := .eq (.field 1 "author") (.field 0 "id") }⟩]
  sources := [⟨"users", some "user"⟩, ⟨"posts", some "post"⟩]
  select := some { expr := { expr := .binding 0 }, fields := [.binding 0], includesFrom := true }
  filters := [{
    expr := .and (.eq (.field 0 "age") (.placeholder 2)) (.eq (.field 0 "age") (.placeholder 1)) }]
  limit := some { expr := .placeholder 3 }

/-- `usersOfAge` behind four values. -/
def usersOfAgePlanned : Query where
  fromRef := some (.model "user")
  sources := [⟨"users", some "user"⟩]
  filters := [{ expr := .eq (.field 0 "age") (.placeholder 4) }]

theorem answered_of_planAll_posts :
    planAll { catalog := postCatalog } [(postsOfUsers, {}), (usersOfAge, { filterOnly := true })]
        [.null] = .ok ([postsOfUsersPlanned, usersOfAgePlanned],
          [.null, .int 18, .int 60, .int 5, .int 30]) ∧
      (∀ row ∈ postsOfUsers.exprs ++ usersOfAge.exprs, row.2.Balanced) ∧
      postsOfUsers.Answered { catalog := postCatalog } 1 4
        [.null, .int 18, .int 60, .int 5, .int 30] postsOfUsersPlanned ∧
      usersOfAge.Answered { catalog := postCatalog } 4 5
        [.null, .int 18, .int 60, .int 5, .int 30] usersOfAgePlanned := by
  have hplan : planAll { catalog := postCatalog }
      [(postsOfUsers, {}), (usersOfAge, { filterOnly := true })] [.null]
        = .ok ([postsOfUsersPlanned, usersOfAgePlanned],
          [.null, .int 18, .int 60, .int 5, .int 30]) := by
    cbv
  have hbalanced : ∀ row ∈ postsOfUsers.exprs ++ usersOfAge.exprs, row.2.Balanced := by
    decide
  have hall := answered_of_planAll _ _ _ _ _ hplan (by decide)
  exact ⟨hplan, hbalanced, (hall.2.2.2 0 _ _ _ rfl rfl).2, (hall.2.2.2 1 _ _ _ rfl rfl).2⟩

end Planner

end QueryPlan
