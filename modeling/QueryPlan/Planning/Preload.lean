import QueryPlan.Planning.Projection

set_option autoImplicit false

/-! # Checking of loaded associations

An association that is loaded with its parent must be declared on the parent's model, its source
must have the related model, and it must be joined so that each of its rows has a parent row. -/

namespace QueryPlan

/-! ## Edges of a forest -/

/-- An association with the source of its parent. -/
structure AssocEdge where
  parent : Nat
  name : String
  binding : Nat
deriving DecidableEq

mutual

/-- The edges of a tree below a parent: the one to its root, then those below the root. -/
def AssocNode.edges (parent : Nat) : AssocNode → List AssocEdge
  | ⟨name, binding, children⟩ => ⟨parent, name, binding⟩ :: AssocForest.edges binding children

/-- The edges of several trees below a parent. -/
def AssocForest.edges (parent : Nat) : List AssocNode → List AssocEdge
  | [] => []
  | node :: forest => AssocNode.edges parent node ++ AssocForest.edges parent forest

end

mutual

/-- The edges of a tree lead to its sources in the order in which they are read. -/
theorem AssocNode.map_binding_edges (parent : Nat) :
    ∀ node : AssocNode, (node.edges parent).map (·.binding) = node.bindings
  | ⟨_, binding, children⟩ => by
    rw [AssocNode.edges, AssocNode.bindings, List.map_cons,
      AssocForest.map_binding_edges binding children]

theorem AssocForest.map_binding_edges (parent : Nat) :
    ∀ forest : List AssocNode,
      (AssocForest.edges parent forest).map (·.binding) = AssocForest.bindings forest
  | [] => rfl
  | node :: forest => by
    rw [AssocForest.edges, AssocForest.bindings, List.map_append,
      AssocNode.map_binding_edges parent node, AssocForest.map_binding_edges parent forest]

end

/-! ## Checks -/

/-- The join that a source comes from. The first source comes from none. -/
def Query.joinOf (q : Query) : Nat → Option Join
  | 0 => none
  | position + 1 => q.joins[position]?

/-- Checks one loaded association. -/
def AssocEdge.check (catalog : Catalog) (q : Query) (edge : AssocEdge) :
    Except PlanError Unit := do
  let parent ← sourceAt .select q.sources edge.parent
  match parent.model with
  | none => .error (.sourceWithoutModel .preload edge.parent parent.table)
  | some model =>
    match catalog.association model edge.name with
    | none => .error (.notAnAssociation model edge.name)
    | some association =>
      let child ← sourceAt .select q.sources edge.binding
      if child.model ≠ some association.related then
        .error (.associationMismatch model edge.name association.related child.model)
      else
        match q.joinOf edge.binding with
        | none => return ()
        | some join =>
          if join.kind.allowsPreload then return ()
          else .error (.unsuitableJoin model edge.name join.kind)

/-- Checks all loaded associations, each before those below it. -/
def Query.checkPreload (catalog : Catalog) (q : Query) : Except PlanError Unit :=
  (AssocForest.edges 0 q.assocs).forM (AssocEdge.check catalog q)

end QueryPlan
