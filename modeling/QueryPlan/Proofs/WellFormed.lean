import Mathlib
import QueryPlan.Proofs.Preload
import QueryPlan.Proofs.Resolution
import QueryPlan.Proofs.Stages

set_option autoImplicit false

/-! # Well-formed queries

What a planned query promises to those who read it: its sources are known, everything that its
expressions and fields mention can be read, and no parameters or groups are left. The passes of
planning each establish a part of this, and none of them undoes what an earlier one has done. -/

namespace QueryPlan

/-! ## Prepared queries -/

/-- Sources are known, one for each join and one in front, and no parameters are left. -/
structure Query.Resolved (q : Query) : Prop where
  fromRef : q.fromRef.isSome
  length_sources : q.sources.length = 1 + q.joins.length
  targets : ∀ j ∈ q.joins, ∃ ref, j.target = .explicit ref
  params : ∀ clause, ∀ e ∈ q.clauseExprs clause, e.params = []

/-- A change of expressions that leaves no parameters keeps the rest of what makes a query
    resolved. -/
theorem Query.Resolved.mapExprs {q : Query} {f : Clause → Nat → ClauseExpr → ClauseExpr}
    (hfrom : q.fromRef.isSome) (hlength : q.sources.length = 1 + q.joins.length)
    (htargets : ∀ j ∈ q.joins, ∃ ref, j.target = .explicit ref)
    (hf : ∀ clause i, ∀ e ∈ q.clauseExprs clause, (f clause i e).params = []) :
    (q.mapExprs f).Resolved := by
  refine ⟨hfrom, ?_, fun j hj => ?_, fun clause e he => ?_⟩
  · rw [Query.sources_mapExprs, Query.length_joins_mapExprs, hlength]
  · have hmem : j.head ∈ q.joins.map Join.head := by
      rw [← Query.map_head_joins_mapExprs f]
      exact List.mem_map_of_mem hj
    obtain ⟨j₀, hj₀, hhead⟩ := List.mem_map.1 hmem
    obtain ⟨ref, href⟩ := htargets j₀ hj₀
    have htarget : j₀.target = j.target := congrArg Prod.snd hhead
    exact ⟨ref, htarget.symm.trans href⟩
  · rw [Query.clauseExprs_mapExprs, List.mem_mapIdx] at he
    obtain ⟨i, hi, rfl⟩ := he
    exact hf clause i _ (List.getElem_mem hi)

theorem Planner.resolved_of_prepare {planner : Planner} {q : Query} {base : Nat} {p : Prepared}
    (h : planner.prepare q base = .ok p) : p.query.Resolved := by
  obtain ⟨r, values, hresolve, -, rfl⟩ := Planner.prepare_eq_ok_iff.1 h
  have hr := Query.resolvesTo_of_resolve hresolve
  have hlength : r.sources.length = 1 + r.joins.length := by
    rw [hr.length_sources, Nat.add_comm]
  have htargets : ∀ j ∈ r.joins, ∃ ref, j.target = .explicit ref := by
    intro j hj
    obtain ⟨i, hi⟩ := List.mem_iff_getElem?.1 hj
    obtain ⟨_, -, hresolves⟩ := forall₂_getElem? hr.joins.flip hi
    exact Join.ResolvesTo.target hresolves
  show (r.mapExprs fun _ _ e => e.withoutParams).Resolved
  exact Query.Resolved.mapExprs hr.fromRef_isSome hlength htargets fun _ _ _ _ => rfl

/-! ## Planned queries -/

/-- A query that can be read as it stands. With the options by default its select clause is there,
    and each field to read is the row of a model or a single column. -/
structure Query.WellFormed (catalog : Catalog) (options : Options) (q : Query) : Prop
    extends q.Resolved where
  exprs : ∀ clause, ∀ e ∈ q.clauseExprs clause, e.expr.Valid catalog q.sources
  fields : ∀ s, q.select = some s → ∀ field ∈ s.fields, field.Valid catalog q.sources
  assocs : ∀ node, AssocNode.Within node q.assocs → node.binding < q.sources.length
  select : options.filterOnly = false → ∃ s, q.select = some s ∧
    (∀ index, .binding index ∈ s.fields → HasModel q.sources index) ∧
    ∀ args, .node .tuple args ∉ s.fields ∧ .node .list args ∉ s.fields

theorem Expr.Valid.of_lt {catalog : Catalog} {sources : List Source} {index : Nat}
    (h : index < sources.length) : (Expr.binding index).Valid catalog sources := by
  refine ⟨fun index' hoccurs => ?_, fun access hoccurs => ?_⟩
  · cases hoccurs
    exact h
  · cases hoccurs

namespace Planner

variable {planner : Planner} {q : Query} {counter : Nat} {options : Options} {n : Normalized}

theorem resolved_of_normalize (h : planner.normalize q counter options = .ok n)
    (hq : q.Resolved) : n.query.Resolved := by
  have hrenumbered : (q.renumber counter).Resolved :=
    Query.Resolved.mapExprs hq.fromRef hq.length_sources hq.targets
      fun clause _ e he => hq.params clause e he
  have hparts := parts_of_normalize h
  refine ⟨?_, ?_, ?_, fun clause e he => ?_⟩
  · rw [hparts]
    exact hrenumbered.fromRef
  · rw [hparts]
    exact hrenumbered.length_sources
  · rw [hparts]
    exact hrenumbered.targets
  · rcases clauseExprs_of_normalize h clause with hclause | ⟨-, -, hdefault⟩
    · rw [hclause, List.mem_mapIdx] at he
      obtain ⟨i, hi, rfl⟩ := he
      exact hq.params clause (q.clauseExprs clause)[i] (List.getElem_mem hi)
    · rw [hdefault, List.mem_singleton] at he
      rw [he]

/-- The references that have been checked before the placeholders were moved are still good after,
    and so is the default select clause: the row of the first source was found to have a model. -/
theorem valid_of_normalize (h : planner.normalize q counter options = .ok n) (clause : Clause) :
    ∀ e ∈ n.query.clauseExprs clause, e.expr.Valid planner.catalog n.query.sources := by
  intro e he
  rcases clauseExprs_of_normalize h clause with hclause | ⟨rfl, -, hdefault⟩
  · rw [hclause, List.mem_mapIdx] at he
    obtain ⟨i, hi, rfl⟩ := he
    obtain ⟨-, hreferences, -⟩ := normalize_eq_ok_iff.1 h
    have hvalid := Query.checkReferences_eq_ok_iff.1 hreferences clause _ (List.getElem_mem hi)
    rw [sources_of_normalize h]
    exact hvalid.shift _
  · rcases select_of_normalize h with ⟨-, hnone⟩ | ⟨-, written, hselect, hcolumns⟩
    · simp [Query.clauseExprs, hnone] at he
    · have hwritten : written.expr = { expr := .binding 0 } := by
        simpa [Query.clauseExprs, hselect] using hdefault
      rw [hwritten] at hcolumns
      rw [hdefault, List.mem_singleton] at he
      rw [he]
      have hmodel := Expr.checkColumn_eq_ok_iff.1 (hcolumns (.binding 0) List.mem_cons_self)
      exact .of_lt (hmodel 0 rfl).lt_length

/-- A field to read is a row or an output column, and no row of a source without a model. The rows
    of loaded associations were added to the fields without a look at their sources, which are only
    checked with the associations. -/
theorem field_of_normalize (h : planner.normalize q counter options = .ok n) {s : Select}
    (hs : n.query.select = some s) {field : Expr} (hfield : field ∈ s.fields) :
    (field ∈ s.expr.expr.leaves ∨ ∃ index, field = .binding index) ∧
      ∀ index, field = .binding index → HasModel n.query.sources index := by
  rcases select_of_normalize h with ⟨-, hnone⟩ | ⟨-, written, hselect, hcolumns⟩
  · rw [hnone] at hs
    cases hs
  · obtain rfl := Option.some.inj (hselect.symm.trans hs)
    rcases Select.mem_fields_withFields hfield with ⟨row, hrow, rfl⟩ | hleaf
    · obtain ⟨-, -, -, hpreload, -⟩ := normalize_eq_ok_iff.1 h
      refine ⟨.inr ⟨row, rfl⟩, fun index hindex => ?_⟩
      cases hindex
      exact Query.hasModel_of_checkPreload hpreload hrow
    · exact ⟨.inl hleaf, Expr.checkColumn_eq_ok_iff.1 (hcolumns field hleaf)⟩

/-- What normalization makes of a resolved query is well formed. -/
theorem wellFormed_of_normalize (h : planner.normalize q counter options = .ok n)
    (hq : q.Resolved) : n.query.WellFormed planner.catalog options := by
  have hexprs := valid_of_normalize h
  obtain ⟨-, -, -, hpreload, -⟩ := normalize_eq_ok_iff.1 h
  refine ⟨resolved_of_normalize h hq, hexprs, ?_, ?_, ?_⟩
  · intro s hs field hfield
    have hvalid : s.expr.expr.Valid planner.catalog n.query.sources :=
      hexprs .select s.expr (by simp [Query.clauseExprs, hs])
    obtain ⟨hleaf | ⟨index, rfl⟩, hmodel⟩ := field_of_normalize h hs hfield
    · exact hvalid.of_mem_leaves hleaf
    · exact .of_lt (hmodel index rfl).lt_length
  · intro node hnode
    exact (Query.hasModel_of_checkPreload hpreload hnode.binding_mem).lt_length
  · intro hdefault
    rcases select_of_normalize h with ⟨hfilter, -⟩ | ⟨-, written, hselect, -⟩
    · rw [hdefault] at hfilter
      cases hfilter
    · -- A field that is a node is an output column, and no group is one.
      have hsingle (form : Form) (args : List Expr)
          (hnode : .node form args ∈ (written.withFields n.query.assocs).fields) :
          form.isGroup = false := by
        obtain ⟨hleaf | ⟨_, hbinding⟩, -⟩ := field_of_normalize h hselect hnode
        · exact Expr.isGroup_of_mem_leaves hleaf
        · cases hbinding
      refine ⟨_, hselect, ?_, ?_⟩
      · intro index hindex
        exact (field_of_normalize h hselect hindex).2 index rfl
      · intro args
        constructor
        · intro htuple
          cases hsingle .tuple args htuple
        · intro hlist
          cases hsingle .list args hlist

/-- Every planned query is well formed, whatever was bound before. -/
theorem wellFormed_of_plan (planner : Planner) (q : Query) (bound : List Value)
    (options : Options) (p : Plan) (h : planner.plan q bound options = .ok p) :
    p.query.WellFormed planner.catalog options := by
  obtain ⟨prepared, normalized, hprepared, hnormalized, rfl⟩ := plan_eq_ok_iff.1 h
  exact wellFormed_of_normalize hnormalized (resolved_of_prepare hprepared)

/-- Users with their posts, and the ages of the users in a column of their own. -/
def usersWithPosts : Query where
  fromRef := some (.model "user")
  joins := [⟨.left, .association 0 "posts", { expr := .literal (.bool true) }⟩]
  filters := [{
    expr := .eq (.atom (.field { binding := 0, name := "age", expected := some .integer }))
      (.placeholder 0)
    params := [(0, ⟨.int 30, .ofField 0 "age"⟩)] }]
  select := some { expr := { expr := .node .tuple [.node .list [.field 0 "age"], .binding 0] } }
  assocs := [⟨"posts", 1, []⟩]

/-- `usersWithPosts` behind one value. -/
def usersWithPostsPlanned : Query where
  fromRef := some (.model "user")
  joins := [⟨.left, .explicit (.modelAt "posts" "post"),
    { expr := .eq (.field 1 "author") (.field 0 "id") }⟩]
  filters := [{
    expr := .eq (.atom (.field { binding := 0, name := "age", expected := some .integer }))
      (.placeholder 1) }]
  sources := [⟨"users", some "user"⟩, ⟨"posts", some "post"⟩]
  select := some {
    expr := { expr := .node .tuple [.node .list [.field 0 "age"], .binding 0] }
    fields := [.binding 0, .binding 1, .field 0 "age"]
    includesFrom := true
    assocCount := 1 }
  assocs := [⟨"posts", 1, []⟩]

theorem wellFormed_usersWithPosts :
    plan { catalog := postCatalog } usersWithPosts [.null] {}
        = .ok { query := usersWithPostsPlanned, params := [.null, .int 30] } ∧
      usersWithPostsPlanned.WellFormed postCatalog {} := by
  have hplan : plan { catalog := postCatalog } usersWithPosts [.null] {}
      = .ok { query := usersWithPostsPlanned, params := [.null, .int 30] } := by
    cbv
  exact ⟨hplan, wellFormed_of_plan _ _ _ _ _ hplan⟩

end Planner

end QueryPlan
