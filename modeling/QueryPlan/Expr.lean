import QueryPlan.Schema.FieldType
import QueryPlan.Value

set_option autoImplicit false

/-! # Expressions

The expression trees of a query. An expression is an atom or a node; atoms are all that refers to
something outside the expression, so the checks of a query look at atoms only. -/

namespace QueryPlan

/-- A read of one field of a source. -/
structure FieldAccess where
  binding : Nat
  name : String
  /-- The type that the surrounding expression needs, if it needs one. -/
  expected : Option FieldType := none
deriving DecidableEq

/-- An operation on expressions. -/
inductive Operator
  | eq
  | ne
  | lt
  | lte
  | gt
  | gte
  | and
  | or
  | not
  | member
  | isNil
  | like
  | ilike
  | add
  | sub
  | mul
  | div
  | count
  | sum
  | avg
  | min
  | max
  | asc
  | desc
  /-- Any other function, by its name. -/
  | call (name : String)
deriving DecidableEq

/-- An expression without parts. -/
inductive Atom
  /-- The whole row of a source. -/
  | binding (index : Nat)
  /-- One field of a source. -/
  | field (access : FieldAccess)
  /-- The parameter with this number. -/
  | placeholder (key : Nat)
  /-- A value written into the query. -/
  | literal (value : Value)

/-- How a node holds its arguments together. -/
inductive Form
  | apply (operator : Operator)
  | tuple
  | list
deriving DecidableEq

/-- An expression tree. Nodes may have any number of arguments. -/
inductive Expr
  | atom (value : Atom)
  | node (form : Form) (args : List Expr)

/-- A place that an atom refers to: a source, or a field of a source. -/
inductive Reference
  | binding (index : Nat)
  | field (access : FieldAccess)
deriving DecidableEq

/-- Whether a form only groups its arguments. -/
def Form.isGroup : Form → Bool
  | apply _ => false
  | tuple | list => true

/-! ## Atoms -/

namespace Atom

/-- The number of a placeholder. -/
def placeholder? : Atom → Option Nat
  | placeholder key => some key
  | _ => none

/-- What an atom refers to. -/
def reference? : Atom → Option Reference
  | binding index => some (.binding index)
  | field access => some (.field access)
  | _ => none

/-- Renumbers a placeholder and leaves every other atom alone. -/
def shift (offset : Nat) : Atom → Atom
  | placeholder key => placeholder (offset + key)
  | atom => atom

@[simp] theorem placeholder?_shift (offset : Nat) (a : Atom) :
    (a.shift offset).placeholder? = a.placeholder?.map (offset + ·) := by
  cases a <;> rfl

@[simp] theorem reference?_shift (offset : Nat) (a : Atom) :
    (a.shift offset).reference? = a.reference? := by
  cases a <;> rfl

end Atom

namespace Expr

/-! ## Writing expressions -/

/-- The whole row of a source. -/
abbrev binding (index : Nat) : Expr := atom (.binding index)

/-- A field of a source, of any type. -/
abbrev field (index : Nat) (name : String) : Expr := atom (.field { binding := index, name })

/-- The parameter with this number. -/
abbrev placeholder (key : Nat) : Expr := atom (.placeholder key)

/-- A value. -/
abbrev literal (value : Value) : Expr := atom (.literal value)

/-- The equality of two expressions. -/
abbrev eq (left right : Expr) : Expr := node (.apply .eq) [left, right]

/-- The conjunction of two expressions. -/
abbrev and (left right : Expr) : Expr := node (.apply .and) [left, right]

/-! ## Atoms of a tree -/

mutual

/-- The atoms of an expression from left to right. -/
def atoms : Expr → List Atom
  | .atom a => [a]
  | .node _ args => atomsAll args

/-- The atoms of several expressions from left to right. -/
def atomsAll : List Expr → List Atom
  | [] => []
  | e :: es => atoms e ++ atomsAll es

end

mutual

/-- Changes the atoms of an expression. -/
def mapAtoms (f : Atom → Atom) : Expr → Expr
  | .atom a => .atom (f a)
  | .node form args => .node form (mapAtomsAll f args)

/-- Changes the atoms of several expressions. -/
def mapAtomsAll (f : Atom → Atom) : List Expr → List Expr
  | [] => []
  | e :: es => mapAtoms f e :: mapAtomsAll f es

end

@[simp] theorem atomsAll_eq_flatMap (es : List Expr) : atomsAll es = es.flatMap atoms := by
  induction es with
  | nil => rfl
  | cons e es ih => rw [atomsAll, ih, List.flatMap_cons]

@[simp] theorem mapAtomsAll_eq_map (f : Atom → Atom) (es : List Expr) :
    mapAtomsAll f es = es.map (mapAtoms f) := by
  induction es with
  | nil => rfl
  | cons e es ih => rw [mapAtomsAll, ih, List.map_cons]

mutual

/-- Changing the atoms of a tree changes its list of atoms in the same way. -/
theorem atoms_mapAtoms (f : Atom → Atom) : ∀ e : Expr, (e.mapAtoms f).atoms = e.atoms.map f
  | .atom _ => rfl
  | .node _ args => atomsAll_mapAtomsAll f args

theorem atomsAll_mapAtomsAll (f : Atom → Atom) :
    ∀ es : List Expr, atomsAll (mapAtomsAll f es) = (atomsAll es).map f
  | [] => rfl
  | e :: es => by
    rw [mapAtomsAll, atomsAll, atoms_mapAtoms f e, atomsAll_mapAtomsAll f es, atomsAll,
      List.map_append]

end

/-! ## Placeholders and references -/

/-- The numbers of the placeholders of an expression, from left to right. -/
def placeholders (e : Expr) : List Nat :=
  e.atoms.filterMap Atom.placeholder?

/-- How many placeholders an expression has. -/
def placeholderCount (e : Expr) : Nat :=
  e.placeholders.length

/-- All that an expression refers to, from left to right. -/
def references (e : Expr) : List Reference :=
  e.atoms.filterMap Atom.reference?

/-- Adds `offset` to the number of every placeholder. -/
def shift (offset : Nat) (e : Expr) : Expr :=
  e.mapAtoms (Atom.shift offset)

theorem placeholders_node (form : Form) (args : List Expr) :
    (node form args).placeholders = args.flatMap placeholders := by
  rw [placeholders, atoms, atomsAll_eq_flatMap, List.filterMap_flatMap]
  rfl

theorem shift_node (offset : Nat) (form : Form) (args : List Expr) :
    (node form args).shift offset = node form (args.map (shift offset)) := by
  rw [shift, mapAtoms, mapAtomsAll_eq_map]
  rfl

@[simp] theorem placeholders_shift (offset : Nat) (e : Expr) :
    (e.shift offset).placeholders = e.placeholders.map (offset + ·) := by
  simp only [placeholders, shift, atoms_mapAtoms, List.filterMap_map, List.map_filterMap]
  exact congrArg (List.filterMap · e.atoms) (funext fun a => Atom.placeholder?_shift offset a)

/-! ## Leaves -/

mutual

/-- The output columns of an expression: tuples and lists are taken apart, everything else stays
    whole. -/
def leaves : Expr → List Expr
  | .atom a => [.atom a]
  | .node form args => if form.isGroup then leavesAll args else [.node form args]

/-- The output columns of several expressions. -/
def leavesAll : List Expr → List Expr
  | [] => []
  | e :: es => leaves e ++ leavesAll es

end

@[simp] theorem leavesAll_eq_flatMap (es : List Expr) : leavesAll es = es.flatMap leaves := by
  induction es with
  | nil => rfl
  | cons e es ih => rw [leavesAll, ih, List.flatMap_cons]

end Expr

end QueryPlan
