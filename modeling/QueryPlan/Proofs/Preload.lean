import QueryPlan.Planning.Preload
import QueryPlan.Proofs.References

set_option autoImplicit false

/-! # Loaded associations

The check of loaded associations accepts a forest exactly when each of its edges, at any depth,
leads from a source to a source with the related model, through a join that keeps parent rows. -/

namespace QueryPlan

/-! ## Nodes at any depth -/

/-- A node stands somewhere in a forest. -/
inductive AssocNode.Within (node : AssocNode) : AssocForest → Prop
  | here {forest : AssocForest} : node ∈ forest → Within node forest
  | there {forest : AssocForest} {parent : AssocNode} :
    parent ∈ forest → Within node parent.children → Within node forest

/-- A node stands somewhere in a forest that hangs on the source `root`, and its parent is the source
    `parent`. -/
inductive AssocNode.Below (node : AssocNode) (parent : Nat) : Nat → AssocForest → Prop
  | root {forest : AssocForest} : node ∈ forest → Below node parent parent forest
  | child {root : Nat} {forest : AssocForest} {owner : AssocNode} :
    owner ∈ forest → Below node parent owner.binding owner.children →
    Below node parent root forest

theorem AssocNode.Within.exists_below {node : AssocNode} {forest : AssocForest}
    (h : node.Within forest) (root : Nat) : ∃ parent, node.Below parent root forest := by
  induction h generalizing root with
  | here hmem => exact ⟨root, .root hmem⟩
  | @there _ owner howner _ ih =>
    obtain ⟨parent, h⟩ := ih owner.binding
    exact ⟨parent, .child howner h⟩

/-! ## Edges -/

theorem AssocForest.edges_eq_flatMap (parent : Nat) (forest : AssocForest) :
    AssocForest.edges parent forest = forest.flatMap (AssocNode.edges parent) := by
  induction forest with
  | nil => rfl
  | cons tree forest ih => rw [AssocForest.edges, ih, List.flatMap_cons]

/-- Every node, with its parent, is an edge. -/
theorem AssocNode.Below.edge_mem {node : AssocNode} {parent root : Nat} {forest : AssocForest}
    (h : node.Below parent root forest) :
    ⟨parent, node.name, node.binding⟩ ∈ AssocForest.edges root forest := by
  induction h with
  | @root forest hmem =>
    rw [AssocForest.edges_eq_flatMap, List.mem_flatMap]
    obtain ⟨name, binding, children⟩ := node
    exact ⟨_, hmem, by rw [AssocNode.edges]; exact List.mem_cons_self⟩
  | @child root forest owner howner _ ih =>
    rw [AssocForest.edges_eq_flatMap, List.mem_flatMap]
    obtain ⟨name, binding, children⟩ := owner
    exact ⟨_, howner, by rw [AssocNode.edges]; exact List.mem_cons_of_mem _ ih⟩

theorem AssocNode.Within.binding_mem {node : AssocNode} {forest : AssocForest}
    (h : node.Within forest) : node.binding ∈ AssocForest.bindings forest := by
  obtain ⟨parent, hbelow⟩ := h.exists_below 0
  rw [← AssocForest.map_binding_edges 0, List.mem_map]
  exact ⟨_, hbelow.edge_mem, rfl⟩

/-- An association that may be loaded: it is declared on the model of the parent's source, its own
    source has the related model, and the join that this comes from, if it does, keeps the rows of
    the parent. -/
structure AssocEdge.Valid (catalog : Catalog) (q : Query) (edge : AssocEdge) : Prop where
  related : ∃ parent model association child, q.sources[edge.parent]? = some parent ∧
    parent.model = some model ∧ catalog.association model edge.name = some association ∧
    q.sources[edge.binding]? = some child ∧ child.model = some association.related
  joined : ∀ join, q.joinOf edge.binding = some join → join.kind.allowsPreload = true

theorem AssocEdge.check_eq_ok_iff {catalog : Catalog} {q : Query} {edge : AssocEdge} :
    edge.check catalog q = .ok () ↔ edge.Valid catalog q := by
  simp only [AssocEdge.check, bind_eq_ok_iff, sourceAt_eq_ok_iff]
  constructor
  · rintro ⟨parent, hparent, h⟩
    split at h
    · cases h
    · next model hmodel =>
      split at h
      · cases h
      · next association hassociation =>
        obtain ⟨child, hchild, h⟩ := bind_eq_ok_iff.1 h
        rw [sourceAt_eq_ok_iff] at hchild
        split at h
        · cases h
        · next hrelated =>
          refine ⟨⟨parent, model, association, child, hparent, hmodel, hassociation, hchild,
            not_not.1 hrelated⟩, fun join hjoin => ?_⟩
          rw [hjoin] at h
          -- The last test is on the kind of the join.
          by_cases hallows : join.kind.allowsPreload = true
          · exact hallows
          · simp [hallows] at h
  · rintro ⟨⟨parent, model, association, child, hparent, hmodel, hassociation, hchild, hrelated⟩,
      hjoined⟩
    refine ⟨parent, hparent, ?_⟩
    rw [hmodel]
    dsimp only
    rw [hassociation]
    refine bind_eq_ok_iff.2 ⟨child, sourceAt_eq_ok_iff.2 hchild, ?_⟩
    rw [if_neg (not_not.2 hrelated)]
    cases hjoin : q.joinOf edge.binding with
    | none => rfl
    | some join => exact if_pos (hjoined join hjoin)

theorem Query.checkPreload_eq_ok_iff {catalog : Catalog} {q : Query} :
    q.checkPreload catalog = .ok () ↔
      ∀ edge ∈ AssocForest.edges 0 q.assocs, edge.Valid catalog q := by
  rw [Query.checkPreload, forM_eq_ok_iff]
  simp only [AssocEdge.check_eq_ok_iff]

/-- Of the joins only the kinds matter. -/
theorem Query.kind_joinOf_congr {p q : Query} (h : p.joins.map Join.head = q.joins.map Join.head)
    (index : Nat) : (p.joinOf index).map (·.kind) = (q.joinOf index).map (·.kind) := by
  cases index with
  | zero => rfl
  | succ position =>
    have hhead := congrArg (fun heads => heads[position]?.map Prod.fst) h
    simp only [List.getElem?_map, Option.map_map] at hhead
    exact hhead

/-- The check looks at the associations, the sources and the joins without their conditions. -/
theorem Query.checkPreload_congr {p q : Query} (hassocs : p.assocs = q.assocs)
    (hsources : p.sources = q.sources) (hjoins : p.joins.map Join.head = q.joins.map Join.head)
    (catalog : Catalog) : p.checkPreload catalog = q.checkPreload catalog := by
  have hedge (edge : AssocEdge) : edge.check catalog p = edge.check catalog q := by
    have hkind := Query.kind_joinOf_congr hjoins edge.binding
    cases hp : p.joinOf edge.binding <;> cases hq : q.joinOf edge.binding <;>
      simp [hp, hq] at hkind
    · simp only [AssocEdge.check, hsources, hp, hq]
    · simp only [AssocEdge.check, hsources, hp, hq, hkind]
  rw [Query.checkPreload, Query.checkPreload, hassocs, funext hedge]

/-- The sources of all associations that may be loaded have a model. -/
theorem Query.hasModel_of_checkPreload {catalog : Catalog} {q : Query}
    (h : q.checkPreload catalog = .ok ()) {index : Nat}
    (hindex : index ∈ AssocForest.bindings q.assocs) : HasModel q.sources index := by
  rw [← AssocForest.map_binding_edges 0, List.mem_map] at hindex
  obtain ⟨edge, hedge, rfl⟩ := hindex
  obtain ⟨_, _, association, child, -, -, -, hchild, hrelated⟩ :=
    (Query.checkPreload_eq_ok_iff.1 h edge hedge).related
  exact ⟨child, association.related, hchild, hrelated⟩

end QueryPlan
