import QueryPlan.Proofs.Encoding.Queries

set_option autoImplicit false

/-! # Wrapped numbers

Four bytes hold what is left of a number after division by `limit`. A query whose indices and
placeholder numbers are replaced by what is left of them has the bytes of the query itself. So the
bytes tell queries of any numbers apart as far as these remainders go, and no further. -/

namespace QueryPlan

open Encoding

/-! ## Numbers -/

/-- What four bytes hold of a number. -/
def Encoding.wrap (n : Nat) : Nat :=
  n % limit

@[simp] theorem Encoding.number_wrap (n : Nat) : number (wrap n) = number n :=
  Bytes.bigEndian_inj.2 (Nat.mod_mod n limit)

theorem Encoding.wrap_of_lt {n : Nat} (h : n < limit) : wrap n = n :=
  Nat.mod_eq_of_lt h

/-! ## Expressions -/

/-- Wraps the numbers in an atom, but not those in a literal. -/
def Atom.wrap : Atom → Atom
  | .binding index => .binding (Encoding.wrap index)
  | .field access => .field { access with binding := Encoding.wrap access.binding }
  | .placeholder key => .placeholder (Encoding.wrap key)
  | .literal value => .literal value

theorem Atom.encode_wrap (a : Atom) : a.wrap.encode = a.encode := by
  cases a with
  | binding index => exact congrArg (0x40 :: ·) (number_wrap index)
  | field access => simp only [Atom.wrap, Atom.encode, number_wrap]
  | placeholder key => exact congrArg (0x42 :: ·) (number_wrap key)
  | literal value => rfl

/-- Wraps all indices and numbers of placeholders. -/
def Expr.wrap (e : Expr) : Expr :=
  e.mapAtoms Atom.wrap

theorem Expr.encode_wrap (e : Expr) : e.wrap.encode = e.encode := by
  induction e using Expr.induction with
  | atom a => exact a.encode_wrap
  | node form args ih =>
    rw [Expr.wrap, Expr.mapAtoms, Expr.mapAtomsAll_eq_map, Expr.encode_node, Expr.encode_node,
      Encoding.list, Encoding.list, List.length_map, List.flatMap_map]
    exact congrArg (fun bytes => form.encode ++ (number args.length ++ bytes))
      (List.flatMap_congr ih)

def ClauseExpr.wrap (e : ClauseExpr) : ClauseExpr :=
  { e with expr := e.expr.wrap }

/-! ## Loaded associations -/

mutual

/-- Wraps the source of an association and those of the associations below it. -/
def AssocNode.wrap : AssocNode → AssocNode
  | ⟨name, binding, children⟩ => ⟨name, Encoding.wrap binding, AssocForest.wrap children⟩

def AssocForest.wrap : List AssocNode → List AssocNode
  | [] => []
  | node :: forest => AssocNode.wrap node :: AssocForest.wrap forest

end

theorem AssocForest.length_wrap (forest : AssocForest) :
    (AssocForest.wrap forest).length = forest.length := by
  induction forest with
  | nil => rfl
  | cons node forest ih => rw [AssocForest.wrap, List.length_cons, ih, List.length_cons]

mutual

theorem AssocNode.encode_wrap : ∀ node : AssocNode, node.wrap.encode = node.encode
  | ⟨name, binding, children⟩ => by
    simp only [AssocNode.wrap, AssocNode.encode, number_wrap, AssocForest.length_wrap,
      AssocForest.encodeAll_wrap children]

theorem AssocForest.encodeAll_wrap :
    ∀ forest : List AssocNode,
      AssocForest.encodeAll (AssocForest.wrap forest) = AssocForest.encodeAll forest
  | [] => rfl
  | node :: forest => by
    rw [AssocForest.wrap, AssocForest.encodeAll, AssocForest.encodeAll,
      AssocNode.encode_wrap node, AssocForest.encodeAll_wrap forest]

end

mutual

theorem AssocNode.wrap_of_lt :
    ∀ node : AssocNode, (∀ index ∈ node.bindings, index < limit) → node.wrap = node
  | ⟨name, binding, children⟩ => by
    intro h
    rw [AssocNode.bindings, List.forall_mem_cons] at h
    rw [AssocNode.wrap, Encoding.wrap_of_lt h.1, AssocForest.wrap_of_lt children h.2]

theorem AssocForest.wrap_of_lt :
    ∀ forest : List AssocNode, (∀ index ∈ AssocForest.bindings forest, index < limit) →
      AssocForest.wrap forest = forest
  | [] => fun _ => rfl
  | node :: forest => by
    intro h
    rw [AssocForest.bindings, List.forall_mem_append] at h
    rw [AssocForest.wrap, AssocNode.wrap_of_lt node h.1, AssocForest.wrap_of_lt forest h.2]

end

/-! ## Queries -/

/-- Wraps the indices and numbers of placeholders in all expressions, and the sources of loaded
    associations. A resolved query has no other indices. -/
def Query.wrap (q : Query) : Query :=
  { q.mapExprs fun _ _ e => e.wrap with assocs := AssocForest.wrap q.assocs }

theorem Query.encode_wrap (q : Query) : q.wrap.encode = q.encode := by
  have hassocs : q.wrap.encode = (q.mapExprs fun _ _ e => e.wrap).encode := by
    simp only [Query.wrap, Query.encode, Query.encodedParts, AssocForest.length_wrap,
      AssocForest.encodeAll_wrap]
    rfl
  exact hassocs.trans
    (Query.encode_mapExprs (f := fun _ _ e => e.wrap) (fun _ _ e => e.expr.encode_wrap) q)

theorem Query.clauseExprs_wrap (q : Query) (clause : Clause) :
    q.wrap.clauseExprs clause = (q.clauseExprs clause).map ClauseExpr.wrap := by
  have hmap : (q.mapExprs fun _ _ e => e.wrap).clauseExprs clause
      = (q.clauseExprs clause).map ClauseExpr.wrap := by
    rw [Query.clauseExprs_mapExprs]
    exact List.ext_getElem? fun i => by simp
  rw [← hmap]
  cases clause <;> rfl

/-- The lengths of all lists, texts and byte strings of a resolved query are below `limit`; its
    indices and the numbers of its placeholders may be of any size. -/
def Query.LengthsFit (q : Query) : Prop :=
  q.wrap.Fits

theorem Query.LengthsFit.length_sources {q : Query} (h : q.LengthsFit) :
    q.sources.length < Encoding.limit := by
  have hsources : fitsList Source.fits q.sources := h.sources
  rw [fitsList, Bool.and_eq_true] at hsources
  exact of_decide_eq_true hsources.1

/-- Queries with numbers of any size share their bytes exactly when they are alike up to what four
    bytes hold of the numbers. -/
theorem Query.encode_eq_iff_wrap_alike {p q : Query} (hp : p.LengthsFit) (hq : q.LengthsFit) :
    p.encode = q.encode ↔ p.wrap.Alike q.wrap := by
  have h := Query.encode_append_iff hp hq [] []
  rwa [List.append_nil, List.append_nil, and_iff_left rfl, Query.encode_wrap,
    Query.encode_wrap] at h

end QueryPlan
