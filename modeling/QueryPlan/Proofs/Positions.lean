import QueryPlan.Proofs.Preload

set_option autoImplicit false

/-! # Positions in trees

The position of a node in a tree is the list of the argument indices that lead to it from the root.
Positions are compared as words: a node comes before all nodes below it, and these before the nodes
further right. In this order planning reads expressions and loaded associations, so its lists of
atoms, of output columns and of associations have one entry for each position, and a row of checks
fails at the first position that is refused. -/

namespace QueryPlan

variable {α β : Type}

/-! ## Lists in the order of positions -/

/-- The list has one entry for each position at which something stands, in the order of the
    positions. -/
def Enumerates (xs : List α) (At : List Nat → α → Prop) : Prop :=
  ∃ rows : List (List Nat × α), rows.map Prod.snd = xs ∧
    rows.Pairwise (fun r s => r.1 < s.1) ∧ ∀ path a, (path, a) ∈ rows ↔ At path a

namespace Enumerates

variable {xs ys : List α} {At At' : List Nat → α → Prop}

theorem congr (h : Enumerates xs At) (hAt : ∀ path a, At path a ↔ At' path a) :
    Enumerates xs At' := by
  obtain ⟨rows, hxs, hsorted, hmem⟩ := h
  exact ⟨rows, hxs, hsorted, fun path a => (hmem path a).trans (hAt path a)⟩

theorem nil : Enumerates ([] : List α) fun _ _ => False :=
  ⟨[], rfl, .nil, by simp⟩

theorem singleton (x : α) : Enumerates [x] fun path a => path = [] ∧ a = x :=
  ⟨[([], x)], rfl, List.pairwise_singleton _ _, by simp⟩

/-- What stands at later positions is listed behind. -/
theorem append (h : Enumerates xs At) (h' : Enumerates ys At')
    (hlt : ∀ p a q b, At p a → At' q b → p < q) :
    Enumerates (xs ++ ys) fun path a => At path a ∨ At' path a := by
  obtain ⟨rows, rfl, hsorted, hmem⟩ := h
  obtain ⟨rows', rfl, hsorted', hmem'⟩ := h'
  refine ⟨rows ++ rows', by simp, List.pairwise_append.2 ⟨hsorted, hsorted', ?_⟩, ?_⟩
  · rintro ⟨p, a⟩ ha ⟨q, b⟩ hb
    exact hlt p a q b ((hmem p a).1 ha) ((hmem' q b).1 hb)
  · intro path a
    rw [List.mem_append, hmem, hmem']

/-- The same entries stand one step deeper in a tree of which theirs is an argument. -/
theorem below (i : Nat) (h : Enumerates xs At) :
    Enumerates xs fun path a => ∃ rest, path = i :: rest ∧ At rest a := by
  obtain ⟨rows, rfl, hsorted, hmem⟩ := h
  refine ⟨rows.map fun row => (i :: row.1, row.2), by simp, ?_, ?_⟩
  · rw [List.pairwise_map]
    exact hsorted.imp fun hlt => List.cons_lt_cons_iff.2 (.inr ⟨rfl, hlt⟩)
  · intro path a
    simp only [List.mem_map, Prod.mk.injEq, Prod.exists, ← hmem]
    constructor
    · rintro ⟨rest, _, hrow, rfl, rfl⟩
      exact ⟨rest, rfl, hrow⟩
    · rintro ⟨rest, rfl, hrow⟩
      exact ⟨rest, a, hrow, rfl, rfl⟩

/-- Trees side by side, each with its own list, are listed one after the other. -/
theorem flatMap {f : β → List α} {At : β → List Nat → α → Prop} {ts : List β}
    (h : ∀ t ∈ ts, Enumerates (f t) (At t)) :
    Enumerates (ts.flatMap f) fun path a =>
      ∃ i t rest, path = i :: rest ∧ ts[i]? = some t ∧ At t rest a := by
  -- The trees may as well be the last ones of several, so that the first has any index.
  suffices hfrom : ∀ start, Enumerates (ts.flatMap f) fun path a =>
      ∃ i t rest, path = (start + i) :: rest ∧ ts[i]? = some t ∧ At t rest a by
    simpa using hfrom 0
  induction ts with
  | nil =>
    intro start
    exact nil.congr (by simp)
  | cons t ts ih =>
    intro start
    obtain ⟨hfirst, hrest⟩ := List.forall_mem_cons.1 h
    rw [List.flatMap_cons]
    refine ((hfirst.below start).append (ih hrest (start + 1)) ?_).congr ?_
    · rintro _ a _ b ⟨p, rfl, -⟩ ⟨i, -, q, rfl, -, -⟩
      exact List.cons_lt_cons_iff.2 (.inl (by omega))
    · intro path a
      constructor
      · rintro (⟨rest, rfl, ha⟩ | ⟨i, u, rest, rfl, hu, ha⟩)
        · exact ⟨0, t, rest, rfl, rfl, ha⟩
        · exact ⟨i + 1, u, rest, by rw [Nat.add_assoc, Nat.add_comm 1 i], hu, ha⟩
      · rintro ⟨i, u, rest, rfl, hu, ha⟩
        cases i with
        | zero =>
          cases hu
          exact .inl ⟨rest, rfl, ha⟩
        | succ i =>
          exact .inr ⟨i, u, rest, by rw [Nat.add_assoc, Nat.add_comm 1 i], hu, ha⟩

theorem filter (p : α → Bool) (h : Enumerates xs At) :
    Enumerates (xs.filter p) fun path a => At path a ∧ p a = true := by
  obtain ⟨rows, rfl, hsorted, hmem⟩ := h
  refine ⟨rows.filter fun row => p row.2, ?_, hsorted.filter _, ?_⟩
  · rw [List.filter_map]
    rfl
  · intro path a
    rw [List.mem_filter, hmem]

theorem filterMap (g : α → Option β) (h : Enumerates xs At) :
    Enumerates (xs.filterMap g) fun path b => ∃ a, At path a ∧ g a = some b := by
  obtain ⟨rows, rfl, hsorted, hmem⟩ := h
  refine ⟨rows.filterMap fun row => (g row.2).map (row.1, ·), ?_, ?_, ?_⟩
  · rw [List.map_filterMap, List.filterMap_map]
    refine congrArg (rows.filterMap ·) (funext fun row => ?_)
    simp [Option.map_map, Function.comp_def]
  · rw [List.pairwise_filterMap]
    refine hsorted.imp fun hlt => ?_
    rintro r hr s hs
    obtain ⟨_, -, rfl⟩ := Option.map_eq_some_iff.1 hr
    obtain ⟨_, -, rfl⟩ := Option.map_eq_some_iff.1 hs
    exact hlt
  · intro path b
    simp only [List.mem_filterMap, Option.map_eq_some_iff, Prod.mk.injEq, Prod.exists, ← hmem]
    constructor
    · rintro ⟨_, a, hrow, _, hb, rfl, rfl⟩
      exact ⟨a, hrow, hb⟩
    · rintro ⟨a, hrow, hb⟩
      exact ⟨path, a, hrow, b, hb, rfl, rfl⟩

theorem map (g : α → β) (h : Enumerates xs At) :
    Enumerates (xs.map g) fun path b => ∃ a, At path a ∧ g a = b := by
  rw [← List.filterMap_eq_map]
  exact (h.filterMap (some ∘ g)).congr fun path b => by simp

theorem mem_iff (h : Enumerates xs At) {a : α} : a ∈ xs ↔ ∃ path, At path a := by
  obtain ⟨rows, rfl, -, hmem⟩ := h
  simp [← hmem]

/-! ### Checks -/

variable {ε : Type} {f : α → Except ε Unit}

theorem forM_eq_ok_iff (h : Enumerates xs At) {u : Unit} :
    xs.forM f = .ok u ↔ ∀ path a, At path a → f a = .ok () := by
  rw [QueryPlan.forM_eq_ok_iff]
  constructor
  · intro hall path a ha
    exact hall a (h.mem_iff.2 ⟨path, ha⟩)
  · intro hall a ha
    obtain ⟨path, hpath⟩ := h.mem_iff.1 ha
    exact hall path a hpath

/-- A row of checks fails at the first position whose check does. -/
theorem forM_eq_error_iff (h : Enumerates xs At) {e : ε} :
    xs.forM f = .error e ↔
      ∃ path a, At path a ∧ f a = .error e ∧
        ∀ path' a', path' < path → At path' a' → f a' = .ok () := by
  obtain ⟨rows, rfl, hsorted, hmem⟩ := h
  have hrows : (rows.map Prod.snd).forM f = rows.forM (f ∘ Prod.snd) := List.forM_map
  rw [hrows, forM_eq_error_iff_of_pairwise (fun _ _ => List.lt_asymm) hsorted]
  simp only [Prod.exists, Prod.forall, hmem, Function.comp_apply]
  constructor
  · rintro ⟨path, a, ha, hx, hearlier⟩
    exact ⟨path, a, ha, hx, fun path' a' hlt ha' => hearlier path' a' ha' hlt⟩
  · rintro ⟨path, a, ha, hx, hearlier⟩
    exact ⟨path, a, ha, hx, fun path' a' ha' hlt => hearlier path' a' hlt ha'⟩

end Enumerates

/-! ## Expressions -/

/-- An atom stands at a position of an expression. -/
inductive Expr.AtomAt : Expr → List Nat → Atom → Prop
  | here {a : Atom} : AtomAt (.atom a) [] a
  | there {form : Form} {args : List Expr} {i : Nat} {arg : Expr} {path : List Nat} {a : Atom} :
    args[i]? = some arg → AtomAt arg path a → AtomAt (.node form args) (i :: path) a

theorem Expr.enumerates_atoms (e : Expr) : Enumerates e.atoms e.AtomAt := by
  induction e using Expr.induction with
  | atom a =>
    refine (Enumerates.singleton a).congr fun path b => ?_
    constructor
    · rintro ⟨rfl, rfl⟩
      exact .here
    · intro h
      cases h
      exact ⟨rfl, rfl⟩
  | node form args ih =>
    rw [Expr.atoms, Expr.atomsAll_eq_flatMap]
    refine (Enumerates.flatMap ih).congr fun path b => ?_
    constructor
    · rintro ⟨i, arg, rest, rfl, harg, hb⟩
      exact .there harg hb
    · intro h
      cases h with
      | there harg hb => exact ⟨_, _, _, rfl, harg, hb⟩

theorem Form.isGroup_iff {form : Form} : form.isGroup = true ↔ form = .tuple ∨ form = .list := by
  cases form <;> simp [Form.isGroup]

/-- An output column stands at a position of an expression: the way to it leads through tuples and
    lists, and it is neither of these itself. -/
inductive Expr.ColumnAt : Expr → List Nat → Expr → Prop
  | atom {a : Atom} : ColumnAt (.atom a) [] (.atom a)
  | apply {operator : Operator} {args : List Expr} :
    ColumnAt (.node (.apply operator) args) [] (.node (.apply operator) args)
  | inside {form : Form} {args : List Expr} {i : Nat} {arg : Expr} {path : List Nat}
    {column : Expr} :
    form = .tuple ∨ form = .list → args[i]? = some arg → ColumnAt arg path column →
    ColumnAt (.node form args) (i :: path) column

theorem Expr.enumerates_leaves (e : Expr) : Enumerates e.leaves e.ColumnAt := by
  induction e using Expr.induction with
  | atom a =>
    refine (Enumerates.singleton (Expr.atom a)).congr fun path column => ?_
    constructor
    · rintro ⟨rfl, rfl⟩
      exact .atom
    · intro h
      cases h
      exact ⟨rfl, rfl⟩
  | node form args ih =>
    rw [Expr.leaves]
    by_cases hgroup : form.isGroup = true
    · rw [if_pos hgroup, Expr.leavesAll_eq_flatMap]
      refine (Enumerates.flatMap ih).congr fun path column => ?_
      constructor
      · rintro ⟨i, arg, rest, rfl, harg, hcolumn⟩
        exact .inside (Form.isGroup_iff.1 hgroup) harg hcolumn
      · intro h
        cases h with
        | apply => cases hgroup
        | inside _ harg hcolumn => exact ⟨_, _, _, rfl, harg, hcolumn⟩
    · rw [if_neg hgroup]
      refine (Enumerates.singleton (Expr.node form args)).congr fun path column => ?_
      constructor
      · rintro ⟨rfl, rfl⟩
        cases form with
        | apply operator => exact .apply
        | tuple | list => exact absurd rfl hgroup
      · intro h
        cases h with
        | apply => exact ⟨rfl, rfl⟩
        | inside hform _ _ => exact absurd (Form.isGroup_iff.2 hform) hgroup

/-! ## Loaded associations -/

/-- The edge to a node stands at the position of this node in a forest that hangs on a source. -/
inductive AssocForest.EdgeAt : Nat → AssocForest → List Nat → AssocEdge → Prop
  | root {root : Nat} {forest : AssocForest} {i : Nat} {node : AssocNode} :
    forest[i]? = some node → EdgeAt root forest [i] ⟨root, node.name, node.binding⟩
  | child {root : Nat} {forest : AssocForest} {i : Nat} {node : AssocNode} {path : List Nat}
    {edge : AssocEdge} :
    forest[i]? = some node → EdgeAt node.binding node.children path edge →
    EdgeAt root forest (i :: path) edge

theorem AssocForest.EdgeAt.ne_nil {root : Nat} {forest : AssocForest} {path : List Nat}
    {edge : AssocEdge} (h : AssocForest.EdgeAt root forest path edge) : path ≠ [] := by
  cases h <;> simp

theorem AssocForest.EdgeAt.forest_ne_nil {root : Nat} {forest : AssocForest} {path : List Nat}
    {edge : AssocEdge} (h : AssocForest.EdgeAt root forest path edge) : forest ≠ [] := by
  cases h with
  | root hi => exact List.ne_nil_of_mem (List.mem_of_getElem? hi)
  | child hi _ => exact List.ne_nil_of_mem (List.mem_of_getElem? hi)

/-- The edges of a tree: the one to its root, and those below. -/
theorem AssocNode.enumerates_edges (tree : AssocNode) (parent : Nat) :
    Enumerates (tree.edges parent) fun path edge =>
      path = [] ∧ edge = ⟨parent, tree.name, tree.binding⟩ ∨
        AssocForest.EdgeAt tree.binding tree.children path edge := by
  induction tree using AssocNode.induction generalizing parent with
  | node name binding children ih =>
    rw [AssocNode.edges, ← List.singleton_append, AssocForest.edges_eq_flatMap]
    have hchildren := Enumerates.flatMap fun child hchild => ih child hchild binding
    refine ((Enumerates.singleton _).append hchildren ?_).congr fun path edge => or_congr_right ?_
    · rintro _ _ _ _ ⟨rfl, rfl⟩ ⟨i, _, rest, rfl, -⟩
      exact List.nil_lt_cons i rest
    · constructor
      · rintro ⟨i, child, rest, rfl, hi, ⟨rfl, rfl⟩ | hedge⟩
        · exact .root hi
        · exact .child hi hedge
      · intro h
        cases h with
        | root hi => exact ⟨_, _, [], rfl, hi, .inl ⟨rfl, rfl⟩⟩
        | child hi hedge => exact ⟨_, _, _, rfl, hi, .inr hedge⟩

theorem AssocForest.enumerates_edges (root : Nat) (forest : AssocForest) :
    Enumerates (AssocForest.edges root forest) (AssocForest.EdgeAt root forest) := by
  rw [AssocForest.edges_eq_flatMap]
  refine (Enumerates.flatMap fun tree _ => tree.enumerates_edges root).congr fun path edge => ?_
  constructor
  · rintro ⟨i, tree, rest, rfl, hi, ⟨rfl, rfl⟩ | hedge⟩
    · exact .root hi
    · exact .child hi hedge
  · intro h
    cases h with
    | root hi => exact ⟨_, _, [], rfl, hi, .inl ⟨rfl, rfl⟩⟩
    | child hi hedge => exact ⟨_, _, _, rfl, hi, .inr hedge⟩

/-- The parent of a node is the source that the forest hangs on, or that of a node which comes
    before it. -/
theorem AssocForest.EdgeAt.exists_parent {root : Nat} {forest : AssocForest} {path : List Nat}
    {edge : AssocEdge} (h : AssocForest.EdgeAt root forest path edge) :
    edge.parent = root ∨ ∃ path' edge', path' < path ∧
      AssocForest.EdgeAt root forest path' edge' ∧ edge'.binding = edge.parent := by
  induction h with
  | root hi => exact .inl rfl
  | @child root forest i node path edge hi hedge ih =>
    rcases ih with hparent | ⟨path', edge', hlt, hedge', hparent⟩
    · obtain ⟨j, rest, rfl⟩ := List.exists_cons_of_ne_nil hedge.ne_nil
      refine .inr ⟨[i], _, ?_, .root hi, hparent.symm⟩
      exact List.cons_lt_cons_iff.2 (.inr ⟨rfl, List.nil_lt_cons j rest⟩)
    · exact .inr ⟨i :: path', edge', List.cons_lt_cons_iff.2 (.inr ⟨rfl, hlt⟩), .child hi hedge',
        hparent⟩

end QueryPlan
