import Mathlib
import QueryPlan.Proofs.WellFormed
import QueryPlan.Query.Building

set_option autoImplicit false

/-! # Joins of loaded associations

The rows of a loaded association are read from a join, and each of them needs its parent row. So the
join must be an inner or a left one, at any depth of the associations. The one exception is the
first source, which no join adds: an association may lead back to it, if its model is the right
one. -/

namespace QueryPlan

/-! ## Kinds of joins -/

theorem JoinKind.allowsPreload_iff {kind : JoinKind} :
    kind.allowsPreload = true ↔ kind = .inner ∨ kind = .left := by
  cases kind <;> simp [JoinKind.allowsPreload]

/-- The source is that of a join which gives each of its rows a row of the sources before it. -/
def Query.KeepsParents (q : Query) (binding : Nat) : Prop :=
  1 ≤ binding ∧ binding ≤ q.joins.length ∧
    ∃ join, q.joins[binding - 1]? = some join ∧ (join.kind = .inner ∨ join.kind = .left)

/-- Of the joins only the kinds matter. -/
theorem Query.KeepsParents.congr {p q : Query}
    (hkinds : p.joins.map (·.kind) = q.joins.map (·.kind)) {binding : Nat}
    (h : p.KeepsParents binding) : q.KeepsParents binding := by
  obtain ⟨hpos, hle, join, hjoin, hkind⟩ := h
  have hlength : p.joins.length = q.joins.length := by
    simpa using congrArg List.length hkinds
  have hat := congrArg (·[binding - 1]?) hkinds
  simp only [List.getElem?_map, hjoin, Option.map_some] at hat
  obtain ⟨join', hjoin', hsame⟩ := Option.map_eq_some_iff.1 hat.symm
  refine ⟨hpos, hlength ▸ hle, join', hjoin', ?_⟩
  rwa [hsame]

/-- An association that may be loaded leads to the first source or keeps parent rows, if each other
    source has a join. -/
theorem AssocEdge.Valid.keepsParents {catalog : Catalog} {q : Query} {edge : AssocEdge}
    (h : edge.Valid catalog q) (hlength : q.sources.length = 1 + q.joins.length) :
    edge.binding = 0 ∨ q.KeepsParents edge.binding := by
  obtain ⟨⟨_, _, _, _, -, -, -, hchild, -⟩, hjoined⟩ := h
  have hbound := (List.getElem?_eq_some_iff.1 hchild).1
  obtain ⟨parent, name, binding⟩ := edge
  cases binding with
  | zero => exact .inl rfl
  | succ position =>
    have hlt : position < q.joins.length := by
      rw [hlength, Nat.add_comm] at hbound
      exact Nat.lt_of_add_lt_add_left hbound
    have hjoin := List.getElem?_eq_getElem hlt
    exact .inr ⟨Nat.le_add_left 1 position, hlt, _, hjoin,
      JoinKind.allowsPreload_iff.1 (hjoined _ hjoin)⟩

theorem Query.ResolvesTo.kinds {q r : Query} (h : q.ResolvesTo r) :
    r.joins.map (·.kind) = q.joins.map (·.kind) :=
  map_eq_of_forall₂ (h.joins.flip.imp fun _ _ hjoin => Join.ResolvesTo.kind hjoin)

theorem Query.SameFrame.kinds {q r : Query} (h : q.SameFrame r) :
    r.joins.map (·.kind) = q.joins.map (·.kind) := by
  have hfst := congrArg (List.map Prod.fst) h.joins
  rwa [List.map_map, List.map_map] at hfst

namespace Planner

variable {planner : Planner} {q : Query} {bound : List Value} {options : Options} {p : Plan}

/-- Planning writes neither the kinds of joins nor the associations. -/
theorem kinds_and_assocs_of_plan (h : planner.plan q bound options = .ok p) :
    p.query.joins.map (·.kind) = q.joins.map (·.kind) ∧ p.query.assocs = q.assocs := by
  obtain ⟨prepared, normalized, hprepared, hnormalized, rfl⟩ := plan_eq_ok_iff.1 h
  obtain ⟨r, values, hresolve, -, rfl⟩ := prepare_eq_ok_iff.1 hprepared
  have hresolves := Query.resolvesTo_of_resolve hresolve
  have hframe : r.SameFrame normalized.query :=
    (Query.sameFrame_mapExprs _ r).trans (sameFrame_of_normalize hnormalized)
  refine ⟨hframe.kinds.trans hresolves.kinds, hframe.assocs.trans ?_⟩
  rw [hresolves.rest]

/-! ## Planned associations -/

/-- An association that is loaded with a plan leads from a model to the model of its source. Unless
    this is the first source, it comes from a join that keeps parent rows. -/
theorem joined_of_plan (planner : Planner) (q : Query) (bound : List Value) (options : Options)
    (p : Plan) (h : planner.plan q bound options = .ok p) (node : AssocNode) (parent : Nat)
    (hnode : node.Below parent 0 q.assocs) :
    (∃ model association, p.query.modelAt parent = some model ∧
        planner.catalog.association model node.name = some association ∧
        p.query.modelAt node.binding = some association.related) ∧
      (node.binding = 0 ∨ q.KeepsParents node.binding ∧ p.query.KeepsParents node.binding) := by
  obtain ⟨hkinds, hassocs⟩ := kinds_and_assocs_of_plan h
  obtain ⟨prepared, normalized, hprepared, hnormalized, rfl⟩ := plan_eq_ok_iff.1 h
  obtain ⟨-, -, -, hpreload, -⟩ := normalize_eq_ok_iff.1 hnormalized
  have hvalid := Query.checkPreload_eq_ok_iff.1 hpreload _ (hassocs.symm ▸ hnode).edge_mem
  have hlength := (resolved_of_normalize hnormalized (resolved_of_prepare hprepared)).length_sources
  refine ⟨?_, (hvalid.keepsParents hlength).imp_right fun hkeeps => ⟨hkeeps.congr hkinds, hkeeps⟩⟩
  obtain ⟨owner, model, association, child, howner, hmodel, hassociation, hchild, hrelated⟩ :=
    hvalid.related
  refine ⟨model, association, ?_, hassociation, ?_⟩
  · rw [Query.modelAt, howner]
    exact hmodel
  · rw [Query.modelAt, hchild]
    exact hrelated

/-- Users, each of whom has a manager. -/
def staffCatalog : Catalog where
  table
    | "user" => some "users"
    | _ => none
  fieldType
    | "user", "id" => some .id
    | "user", "manager_id" => some .id
    | _, _ => none
  association
    | "user", "manager" => some { related := "user", ownerKey := "manager_id", relatedKey := "id" }
    | _, _ => none

/-- Users with their managers, and the users themselves in the place of the managers of these. -/
def usersWithManagers : Query where
  fromRef := some (.model "user")
  joins := [⟨.left, .association 0 "manager", .always⟩]
  assocs := [⟨"manager", 1, [⟨"manager", 0, []⟩]⟩]

/-- `usersWithManagers`, planned. -/
def usersWithManagersPlanned : Query where
  fromRef := some (.model "user")
  joins := [⟨.left, .explicit (.modelAt "users" "user"),
    { expr := .eq (.field 1 "id") (.field 0 "manager_id") }⟩]
  sources := [⟨"users", some "user"⟩, ⟨"users", some "user"⟩]
  select := some {
    expr := { expr := .binding 0 }
    fields := [.binding 0, .binding 1, .binding 0]
    includesFrom := true
    assocCount := 2 }
  assocs := [⟨"manager", 1, [⟨"manager", 0, []⟩]⟩]

theorem plan_usersWithManagers : plan { catalog := staffCatalog } usersWithManagers [] {}
    = .ok { query := usersWithManagersPlanned, params := [] } := by
  cbv

theorem below_usersWithManagers :
    (AssocNode.mk "manager" 0 []).Below 1 0 usersWithManagers.assocs :=
  .child List.mem_cons_self (.root List.mem_cons_self)

theorem joined_usersWithManagers :
    plan { catalog := staffCatalog } usersWithManagers [] {}
        = .ok { query := usersWithManagersPlanned, params := [] } ∧
      usersWithManagers.KeepsParents 1 ∧
      (AssocNode.mk "manager" 0 []).Below 1 0 usersWithManagers.assocs ∧
      ∃ model association, usersWithManagersPlanned.modelAt 1 = some model ∧
        staffCatalog.association model "manager" = some association ∧
        usersWithManagersPlanned.modelAt 0 = some association.related := by
  have hroot : (AssocNode.mk "manager" 1 [⟨"manager", 0, []⟩]).Below 0 0
      usersWithManagers.assocs := .root List.mem_cons_self
  obtain ⟨-, hjoined⟩ := joined_of_plan _ _ _ _ _ plan_usersWithManagers _ _ hroot
  obtain ⟨hrelated, -⟩ :=
    joined_of_plan _ _ _ _ _ plan_usersWithManagers _ _ below_usersWithManagers
  exact ⟨plan_usersWithManagers, (hjoined.resolve_left (by decide)).1, below_usersWithManagers,
    hrelated⟩

/-- Not every association that is loaded has a join: one may lead back to the first source. -/
theorem not_keepsParents_of_plan : ¬∀ (planner : Planner) (q : Query) (bound : List Value)
    (p : Plan), planner.plan q bound {} = .ok p →
    ∀ node parent, AssocNode.Below node parent 0 q.assocs → q.KeepsParents node.binding := by
  intro hall
  have hkeeps := hall _ _ _ _ plan_usersWithManagers _ _ below_usersWithManagers
  exact absurd hkeeps.1 (by decide)

end Planner

end QueryPlan
