import Mathlib.Data.List.Forall2
import QueryPlan.Planning.Projection
import QueryPlan.Proofs.Results

set_option autoImplicit false

/-! # Trees

Expressions, values and loaded associations are trees with any number of children at each node. A
property of trees is proved of a node from its children; the list of an expression's atoms holds
what occurs at any depth of it. Two expressions are often compared by their atoms alone: they have
one shape, and the atoms are related in their places. -/

namespace QueryPlan

/-! ## Induction -/

/-- What holds of every atom, and of every node whose arguments have it, holds of every
    expression. -/
@[elab_as_elim] theorem Expr.induction {motive : Expr → Prop} (atom : ∀ a, motive (.atom a))
    (node : ∀ form args, (∀ e ∈ args, motive e) → motive (.node form args)) (e : Expr) :
    motive e := by
  cases e with
  | atom a => exact atom a
  | node form args => exact node form args fun arg _ => Expr.induction atom node arg

/-- What holds of every association below whose children it holds, holds of all associations. -/
@[elab_as_elim] theorem AssocNode.induction {motive : AssocNode → Prop}
    (node : ∀ name binding children, (∀ child ∈ children, motive child) →
      motive ⟨name, binding, children⟩) (tree : AssocNode) : motive tree := by
  obtain ⟨name, binding, children⟩ := tree
  exact node name binding children fun child _ => AssocNode.induction node child

/-- What holds of every value that is not a list, and of every list whose items have it, holds of
    all values. -/
@[elab_as_elim] theorem Value.induction {motive : Value → Prop}
    (scalar : ∀ v, (∀ items, v ≠ .list items) → motive v)
    (list : ∀ items, (∀ v ∈ items, motive v) → motive (.list items)) (v : Value) : motive v := by
  cases v with
  | list items => exact list items fun item _ => Value.induction scalar list item
  | _ => exact scalar _ nofun

/-! ## Atoms at any depth -/

/-- An atom stands somewhere in an expression. -/
inductive Expr.Occurs (a : Atom) : Expr → Prop
  | here : Occurs a (.atom a)
  | there {form : Form} {args : List Expr} {e : Expr} :
    e ∈ args → Occurs a e → Occurs a (.node form args)

theorem Expr.mem_atoms_iff {a : Atom} {e : Expr} : a ∈ e.atoms ↔ e.Occurs a := by
  induction e using Expr.induction with
  | atom b =>
    rw [Expr.atoms, List.mem_singleton]
    constructor
    · rintro rfl
      exact .here
    · rintro ⟨⟩
      rfl
  | node form args ih =>
    rw [Expr.atoms, Expr.atomsAll_eq_flatMap, List.mem_flatMap]
    constructor
    · rintro ⟨arg, harg, ha⟩
      exact .there harg ((ih arg harg).1 ha)
    · rintro (_ | ⟨harg, ha⟩)
      exact ⟨_, harg, (ih _ harg).2 ha⟩

/-! ## Placeholders under other numbers -/

/-- Gives a placeholder another number and leaves every other atom alone. -/
def Atom.rekey (f : Nat → Nat) : Atom → Atom
  | placeholder key => placeholder (f key)
  | atom => atom

@[simp] theorem Atom.reference?_rekey (f : Nat → Nat) (a : Atom) :
    (a.rekey f).reference? = a.reference? := by
  cases a <;> rfl

/-- Gives every placeholder of an expression another number. -/
def Expr.rekey (f : Nat → Nat) (e : Expr) : Expr :=
  e.mapAtoms (Atom.rekey f)

theorem Expr.rekey_node (f : Nat → Nat) (form : Form) (args : List Expr) :
    (node form args).rekey f = node form (args.map (rekey f)) := by
  rw [rekey, mapAtoms, mapAtomsAll_eq_map]
  rfl

/-- Two changes of numbers are one. -/
theorem Expr.rekey_rekey (f g : Nat → Nat) (e : Expr) :
    (e.rekey f).rekey g = e.rekey fun key => g (f key) := by
  induction e using Expr.induction with
  | atom a => cases a <;> rfl
  | node form args ih =>
    rw [rekey_node, rekey_node, rekey_node, List.map_map]
    exact congrArg (node form) (List.map_congr_left ih)

/-- Numbers that stay as they are leave the expression as it is. -/
theorem Expr.rekey_eq_self {f : Nat → Nat} {e : Expr} (h : ∀ key ∈ e.placeholders, f key = key) :
    e.rekey f = e := by
  induction e using Expr.induction with
  | atom a =>
    cases a with
    | placeholder key => exact congrArg Expr.placeholder (h key (List.mem_singleton_self key))
    | binding index | field access | literal value => rfl
  | node form args ih =>
    rw [placeholders_node, List.forall_mem_flatMap] at h
    rw [rekey_node, List.map_congr_left fun arg harg => ih arg harg (h arg harg), List.map_id']

/-! ## Moved placeholders -/

theorem Expr.rekey_add (offset : Nat) (e : Expr) : e.rekey (offset + ·) = e.shift offset := by
  have hatom : Atom.rekey (offset + ·) = Atom.shift offset := by
    funext a
    cases a <;> rfl
  rw [rekey, hatom, shift]

theorem Expr.rekey_shift (f : Nat → Nat) (offset : Nat) (e : Expr) :
    (e.shift offset).rekey f = e.rekey fun key => f (offset + key) := by
  rw [← rekey_add, rekey_rekey]

/-- Without placeholders, there is nothing to move. -/
theorem Expr.shift_of_placeholders_eq_nil {e : Expr} (offset : Nat) (h : e.placeholders = []) :
    e.shift offset = e := by
  rw [← rekey_add]
  refine rekey_eq_self fun key hkey => ?_
  rw [h] at hkey
  cases hkey

theorem Expr.shift_zero (e : Expr) : e.shift 0 = e := by
  rw [← rekey_add]
  exact rekey_eq_self fun key _ => Nat.zero_add key

/-- Moving twice is moving by the sum. -/
theorem Expr.shift_shift (m n : Nat) (e : Expr) : (e.shift m).shift n = e.shift (n + m) := by
  rw [← rekey_add n, rekey_shift, ← rekey_add]
  simp only [Nat.add_assoc]

/-! ## Output columns -/

/-- Taking groups apart keeps the atoms in their order. -/
theorem Expr.flatMap_atoms_leaves (e : Expr) : e.leaves.flatMap Expr.atoms = e.atoms := by
  induction e using Expr.induction with
  | atom a => rfl
  | node form args ih =>
    rw [Expr.leaves]
    split
    · rw [Expr.leavesAll_eq_flatMap, List.flatMap_assoc, Expr.atoms, Expr.atomsAll_eq_flatMap]
      exact List.flatMap_congr fun arg harg => ih arg harg
    · rw [List.flatMap_cons, List.flatMap_nil, List.append_nil]

theorem Expr.flatMap_placeholders_leaves (e : Expr) :
    e.leaves.flatMap Expr.placeholders = e.placeholders := by
  rw [Expr.placeholders, ← e.flatMap_atoms_leaves, List.filterMap_flatMap]
  rfl

/-- Output columns are found in the same way whatever the numbers of placeholders. -/
theorem Expr.leaves_rekey (f : Nat → Nat) (e : Expr) :
    (e.rekey f).leaves = e.leaves.map (Expr.rekey f) := by
  induction e using Expr.induction with
  | atom a => rfl
  | node form args ih =>
    rw [Expr.rekey_node, Expr.leaves, Expr.leaves]
    split
    · rw [Expr.leavesAll_eq_flatMap, Expr.leavesAll_eq_flatMap, List.flatMap_map, List.map_flatMap]
      exact List.flatMap_congr ih
    · rw [List.map_singleton, Expr.rekey_node]

theorem Expr.isFromRow_iff {e : Expr} : e.isFromRow = true ↔ e = .binding 0 := by
  constructor
  · intro h
    unfold Expr.isFromRow at h
    split at h
    · rfl
    · cases h
  · rintro rfl
    rfl

/-! ## Trees of one shape -/

/-- Trees with the same nodes whose atoms are related, each to the one in its place. -/
inductive Expr.SameShape (R : Atom → Atom → Prop) : Expr → Expr → Prop
  | atom {a b : Atom} : R a b → SameShape R (.atom a) (.atom b)
  | node (form : Form) {args args' : List Expr} :
    List.Forall₂ (SameShape R) args args' → SameShape R (.node form args) (.node form args')

/-- A change of atoms keeps the shape. -/
theorem Expr.sameShape_mapAtoms {R : Atom → Atom → Prop} {f : Atom → Atom} {e : Expr}
    (h : ∀ a ∈ e.atoms, R a (f a)) : e.SameShape R (e.mapAtoms f) := by
  induction e using Expr.induction with
  | atom a => exact .atom (h a List.mem_cons_self)
  | node form args ih =>
    rw [Expr.mapAtoms, Expr.mapAtomsAll_eq_map]
    refine .node form (List.forall₂_map_right_iff.2 (List.forall₂_same.2 fun arg harg => ?_))
    refine ih arg harg fun a ha => h a ?_
    rw [Expr.atoms, Expr.atomsAll_eq_flatMap]
    exact List.mem_flatMap.2 ⟨arg, harg, ha⟩

namespace Expr.SameShape

variable {R S : Atom → Atom → Prop} {e e' : Expr}

theorem refl (hR : ∀ a, R a a) (e : Expr) : e.SameShape R e := by
  induction e using Expr.induction with
  | atom a => exact .atom (hR a)
  | node form args ih => exact .node form (List.forall₂_same.2 ih)

/-- What holds of related atoms, and of nodes of one form over arguments in step that have it, holds
    of all trees of one shape. -/
@[elab_as_elim] theorem induction {motive : Expr → Expr → Prop}
    (atom : ∀ a b, R a b → motive (.atom a) (.atom b))
    (node : ∀ form args args', List.Forall₂ (SameShape R) args args' →
      List.Forall₂ motive args args' → motive (.node form args) (.node form args'))
    (h : e.SameShape R e') : motive e e' := by
  induction e using Expr.induction generalizing e' with
  | atom a =>
    cases h with
    | atom hab => exact atom _ _ hab
  | node form args ih =>
    cases h with
    | node _ hargs =>
      refine node form args _ hargs (forall₂_imp_of_mem hargs fun e he e' hsame => ?_)
      exact ih e he hsame

/-- Trees of one shape stay so when their atoms are changed and stay related. -/
theorem mapAtoms {f g : Atom → Atom} (h : e.SameShape R e')
    (hfg : ∀ a b, R a b → S (f a) (g b)) : (e.mapAtoms f).SameShape S (e'.mapAtoms g) := by
  refine induction (fun a b hab => .atom (hfg a b hab)) (fun form args args' _ ih => ?_) h
  rw [Expr.mapAtoms, Expr.mapAtoms, mapAtomsAll_eq_map, mapAtomsAll_eq_map]
  exact .node form (List.forall₂_map_left_iff.2 (List.forall₂_map_right_iff.2 ih))

theorem imp (h : e.SameShape R e') (hRS : ∀ a b, R a b → S a b) : e.SameShape S e' :=
  induction (fun a b hab => .atom (hRS a b hab)) (fun form _ _ _ ih => .node form ih) h

theorem atoms (h : e.SameShape R e') : List.Forall₂ R e.atoms e'.atoms := by
  refine induction (fun a b hab => .cons hab .nil) (fun form args args' _ ih => ?_) h
  rw [Expr.atoms, Expr.atoms, atomsAll_eq_flatMap, atomsAll_eq_flatMap]
  exact List.rel_flatMap ih fun _ _ hatoms => hatoms

/-- Their output columns have one shape, from left to right. -/
theorem leaves (h : e.SameShape R e') : List.Forall₂ (SameShape R) e.leaves e'.leaves := by
  refine induction (fun a b hab => .cons (.atom hab) .nil) (fun form args args' hargs ih => ?_) h
  rw [Expr.leaves, Expr.leaves]
  split
  · rw [leavesAll_eq_flatMap, leavesAll_eq_flatMap]
    exact List.rel_flatMap ih fun _ _ hleaves => hleaves
  · exact .cons (.node form hargs) .nil

end Expr.SameShape

end QueryPlan
