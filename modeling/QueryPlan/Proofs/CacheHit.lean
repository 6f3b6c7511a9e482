import QueryPlan.Proofs.Encoding.Queries
import QueryPlan.Proofs.Parallel
import QueryPlan.Proofs.WellFormed

set_option autoImplicit false

/-! # Cache hits

A plan is kept under the bytes of the prepared query and used again for every other query with these
bytes. As long as all numbers fit into four bytes, queries with the same bytes are alike, and
normalization looks at nothing in which alike queries differ: they are parallel, so they pass or fail
each stage together, and what comes out is alike again, down to the fields to read. -/

namespace QueryPlan

/-! ## Numbering -/

namespace Query.Alike

variable {p q : Query}

theorem placeholders_eq (h : p.Alike q) (clause : Clause) :
    (p.clauseExprs clause).map (·.expr.placeholders)
      = (q.clauseExprs clause).map (·.expr.placeholders) :=
  map_eq_of_forall₂ ((h.exprs clause).imp fun _ _ halike => Expr.Alike.placeholders_eq halike)

theorem placeholderCount_eq (h : p.Alike q) : p.placeholderCount = q.placeholderCount :=
  congrArg List.length (Query.flatMap_exprs_congr (f := fun e => e.expr.placeholders)
    h.placeholders_eq)

/-- Alike queries are numbered alike: as many placeholders are read before each expression. -/
theorem renumber (h : p.Alike q) (counter : Nat) :
    (p.renumber counter).Alike (q.renumber counter) where
  fromRef := h.fromRef
  joins := by
    rw [Query.renumber, Query.renumber, Query.map_head_joins_mapExprs,
      Query.map_head_joins_mapExprs, h.joins]
  sources := h.sources
  exprs := by
    intro clause
    rw [Query.renumber, Query.renumber, Query.clauseExprs_mapExprs, Query.clauseExprs_mapExprs]
    refine forall₂_mapIdx (h.exprs clause) ?_
    intro i e e' halike
    rw [Query.placeholdersBefore_congr h.placeholders_eq]
    exact Expr.Alike.shift halike _
  preloads := h.preloads
  assocs := h.assocs
  lock := h.lock

/-! ## The select clause -/

theorem selectOrDefault (h : p.Alike q) :
    p.selectOrDefault.expr.Alike q.selectOrDefault.expr :=
  Query.selectOrDefault_rel (Expr.Alike.refl _) (h.exprs .select)

/-- Filling in the select clauses of alike queries gives alike queries. -/
theorem of_projectFor (h : p.Alike q) {options : Options} {p' q' : Query}
    (hp : p.projectFor options = .ok p') (hq : q.projectFor options = .ok q') : p'.Alike q' := by
  unfold Query.projectFor at hp hq
  split at hp
  · next hfilter =>
    rw [if_pos hfilter] at hq
    cases hp
    cases hq
    exact h
  · next hfilter =>
    rw [if_neg hfilter] at hq
    obtain ⟨-, -, rfl⟩ := Query.project_eq_ok_iff.1 hp
    obtain ⟨-, -, rfl⟩ := Query.project_eq_ok_iff.1 hq
    refine ⟨h.fromRef, h.joins, h.sources, fun clause => ?_, h.preloads, h.assocs, h.lock⟩
    have hclause := h.exprs clause
    cases clause with
    | select => exact .cons h.selectOrDefault .nil
    | _ => exact hclause

end Query.Alike

/-! ## Normalization -/

/-- Alike queries with the same parameters and with alike fields to read: they differ at most in
    locations and in literals that stand for one number or one instant. -/
structure Query.SamePlan (p q : Query) : Prop extends p.Alike q where
  params : ∀ clause, (p.clauseExprs clause).map (·.params) = (q.clauseExprs clause).map (·.params)
  fields : ∀ s s', p.select = some s → q.select = some s' →
    List.Forall₂ Expr.Alike s.fields s'.fields ∧ s.includesFrom = s'.includesFrom ∧
      s.assocCount = s'.assocCount

theorem Select.withFields_alike {s s' : Select} (h : s.expr.Alike s'.expr) (assocs : AssocForest) :
    List.Forall₂ Expr.Alike (s.withFields assocs).fields (s'.withFields assocs).fields ∧
      (s.withFields assocs).includesFrom = (s'.withFields assocs).includesFrom ∧
      (s.withFields assocs).assocCount = (s'.withFields assocs).assocCount := by
  have hleaves := Expr.Alike.leaves h
  have hrow := (Expr.Alike.parallel h).any_isFromRow_eq
  have hsame (es : List Expr) : List.Forall₂ Expr.Alike es es :=
    List.forall₂_same.2 fun e _ => .refl e
  refine ⟨?_, hrow, rfl⟩
  rw [Select.withFields, Select.withFields]
  simp only [hrow]
  refine List.rel_append (hsame _) (List.rel_filter (fun leaf leaf' hleaf => ?_) hleaves)
  simp only [hleaf.parallel.isFromRow_eq]

namespace Planner

/-- Alike queries pass all stages of normalization together, or fail one together. -/
theorem normalize_alike {p q : Query} (h : p.Alike q) (planner : Planner) (counter : Nat)
    (options : Options) :
    ResultRel PlanError.SameCause (fun n m => n.query.Alike m.query ∧ n.counter = m.counter)
      (planner.normalize p counter options) (planner.normalize q counter options) := by
  refine (normalize_parallel h.parallel planner counter counter options).imp ?_
  intro n m hn hm _
  obtain ⟨-, -, hp, -, hcounter⟩ := normalize_eq_ok_iff.1 hn
  obtain ⟨-, -, hq, -, hcounter'⟩ := normalize_eq_ok_iff.1 hm
  refine ⟨(h.renumber counter).of_projectFor hp hq, ?_⟩
  rw [hcounter, hcounter', h.placeholderCount_eq]

theorem map_params_of_normalize {planner : Planner} {p : Query} {counter : Nat} {options : Options}
    {n : Normalized} (hn : planner.normalize p counter options = .ok n) (hp : p.Resolved)
    (clause : Clause) : (n.query.clauseExprs clause).map (·.params)
      = List.replicate (n.query.clauseExprs clause).length [] :=
  List.map_eq_replicate_iff.2 ((resolved_of_normalize hn hp).params clause)

/-- What alike queries are normalized to differs at most in locations and in literals that stand for
    one number or one instant, if they had no parameters. -/
theorem samePlan_of_normalize {planner : Planner} {p q : Query} {counter : Nat} {options : Options}
    {n m : Normalized} (hn : planner.normalize p counter options = .ok n)
    (hm : planner.normalize q counter options = .ok m) (hp : p.Resolved) (hq : q.Resolved)
    (h : n.query.Alike m.query) : n.query.SamePlan m.query := by
  refine ⟨h, fun clause => ?_, fun s s' hs hs' => ?_⟩
  · rw [map_params_of_normalize hn hp, map_params_of_normalize hm hq, (h.exprs clause).length_eq]
  · rcases select_of_normalize hn with ⟨-, hnone⟩ | ⟨-, written, hselect, -⟩
    · rw [hnone] at hs
      cases hs
    · rcases select_of_normalize hm with ⟨-, hnone⟩ | ⟨-, written', hselect', -⟩
      · rw [hnone] at hs'
        cases hs'
      · obtain rfl := Option.some.inj (hselect.symm.trans hs)
        obtain rfl := Option.some.inj (hselect'.symm.trans hs')
        have hexpr : written.expr.Alike written'.expr := by
          simpa [Query.clauseExprs, hselect, hselect'] using h.exprs .select
        rw [h.assocs]
        exact Select.withFields_alike hexpr m.query.assocs

/-- If two prepared queries whose numbers and lengths fit have the same bytes, normalization fails
    for both with the same error up to its location, or succeeds for both with the same number of
    the next placeholder and with queries that differ at most in locations and in literals that
    stand for one number or one instant. -/
theorem normalize_of_encode_eq (planner : Planner) (q q' : Query) (base base' : Nat)
    (p p' : Prepared) (hp : planner.prepare q base = .ok p)
    (hp' : planner.prepare q' base' = .ok p') (hfits : p.query.Fits) (hfits' : p'.query.Fits)
    (hencode : p.query.encode = p'.query.encode) (counter : Nat) (options : Options) :
    ResultRel PlanError.SameCause (fun n m => n.query.SamePlan m.query ∧ n.counter = m.counter)
      (planner.normalize p.query counter options)
      (planner.normalize p'.query counter options) := by
  have halike : p.query.Alike p'.query := by
    refine ((Query.encode_append_iff hfits hfits' [] []).1 ?_).1
    rw [hencode]
  have hresolved := resolved_of_prepare hp
  have hresolved' := resolved_of_prepare hp'
  refine (normalize_alike halike planner counter options).imp ?_
  rintro n m hn hm ⟨hquery, hcounter⟩
  exact ⟨samePlan_of_normalize hn hm hresolved hresolved' hquery, hcounter⟩

/-- `postsAt`, prepared and then normalized behind two values. -/
def postsAtNormalized (price : Decimal) (line : Nat) : Normalized where
  query := {
    fromRef := some (.model "post")
    sources := [⟨"posts", some "post"⟩]
    filters := [{
      expr := .eq (.field 0 "price") (.literal (.list [.decimal price, .text "EUR"]))
      location := { line } }]
    select := some {
      expr := { expr := .binding 0 }
      fields := [.binding 0]
      includesFrom := true }
    limit := some { expr := .placeholder 2 } }
  counter := 3

/-- The plan for one way to write a price serves for the other. -/
theorem normalize_postsAt :
    prepare { catalog := postCatalog } (postsAt shortOne 3 (.int 5)) 0
        = .ok ⟨(postsAt shortOne 3 (.int 5)).withoutParams, [(0, .int 5)]⟩ ∧
      prepare { catalog := postCatalog } (postsAt longOne 8 (.int 6)) 2
        = .ok ⟨(postsAt longOne 8 (.int 6)).withoutParams, [(2, .int 6)]⟩ ∧
      (postsAt shortOne 3 (.int 5)).withoutParams.encode
        = (postsAt longOne 8 (.int 6)).withoutParams.encode ∧
      normalize { catalog := postCatalog } (postsAt shortOne 3 (.int 5)).withoutParams 2 {}
        = .ok (postsAtNormalized shortOne 3) ∧
      normalize { catalog := postCatalog } (postsAt longOne 8 (.int 6)).withoutParams 2 {}
        = .ok (postsAtNormalized longOne 8) ∧
      (postsAtNormalized shortOne 3).query.SamePlan (postsAtNormalized longOne 8).query := by
  have hprepare : prepare { catalog := postCatalog } (postsAt shortOne 3 (.int 5)) 0
      = .ok ⟨(postsAt shortOne 3 (.int 5)).withoutParams, [(0, .int 5)]⟩ := by
    cbv
  have hprepare' : prepare { catalog := postCatalog } (postsAt longOne 8 (.int 6)) 2
      = .ok ⟨(postsAt longOne 8 (.int 6)).withoutParams, [(2, .int 6)]⟩ := by
    cbv
  have hsources : Encoding.fitsList Source.fits [⟨"posts", some "post"⟩] := by decide
  have hfits (price : Decimal) (line : Nat) (count : Value) :
      (postsAt price line count).withoutParams.Fits :=
    ⟨rfl, rfl, hsources, fun clause => by cases clause <;> exact rfl, rfl, rfl, rfl⟩
  have hencode : (postsAt shortOne 3 (.int 5)).withoutParams.encode
      = (postsAt longOne 8 (.int 6)).withoutParams.encode := rfl
  have hnormalize :
      normalize { catalog := postCatalog } (postsAt shortOne 3 (.int 5)).withoutParams 2 {}
        = .ok (postsAtNormalized shortOne 3) := by
    cbv
  have hnormalize' :
      normalize { catalog := postCatalog } (postsAt longOne 8 (.int 6)).withoutParams 2 {}
        = .ok (postsAtNormalized longOne 8) := by
    cbv
  have hrelated := normalize_of_encode_eq _ _ _ _ _ _ _ hprepare hprepare' (hfits _ _ _)
    (hfits _ _ _) hencode 2 {}
  rw [hnormalize, hnormalize'] at hrelated
  obtain ⟨_, hsecond, hsame, -⟩ := hrelated.exists_of_ok
  obtain rfl := Except.ok.inj hsecond
  exact ⟨hprepare, hprepare', hencode, hnormalize, hnormalize', hsame⟩

end Planner

end QueryPlan
