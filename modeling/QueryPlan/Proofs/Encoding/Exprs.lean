import QueryPlan.Proofs.Encoding.Values

set_option autoImplicit false

/-! # Faithful encoding of expressions

The bytes of an expression can be told from what follows, and two expressions share their bytes
exactly when they are alike. -/

namespace QueryPlan

open Encoding

/-! ## Operators -/

/-- The operators that have a tag of their own. -/
def Operator.tagged : List Operator :=
  [.eq, .ne, .lt, .lte, .gt, .gte, .and, .or, .not, .member, .isNil, .like, .ilike, .add, .sub,
    .mul, .div, .count, .sum, .avg, .min, .max, .asc, .desc]

theorem Operator.find_tagged (a : Operator) :
    Operator.tagged.find? (fun b => b.tag == a.tag) = some a ∨ ∃ name, a = .call name := by
  cases a with
  | call name => exact .inr ⟨name, rfl⟩
  | _ => exact .inl rfl

/-- Operators with one tag are equal or both called by name. -/
theorem Operator.eq_of_tag_eq {a b : Operator} (h : a.tag = b.tag) :
    a = b ∨ ∃ m n, a = .call m ∧ b = .call n := by
  have hcalled (name : String) :
      Operator.tagged.find? (fun c => c.tag == (Operator.call name).tag) = none := rfl
  -- Looking up one tag gives one answer, and none for called functions.
  rcases a.find_tagged with ha | ⟨m, rfl⟩
  · rcases b.find_tagged with hb | ⟨n, rfl⟩
    · rw [h, hb] at ha
      exact .inl (Option.some.inj ha).symm
    · rw [h, hcalled] at ha
      cases ha
  · rcases b.find_tagged with hb | ⟨n, rfl⟩
    · rw [← h, hcalled] at hb
      cases hb
    · exact .inr ⟨m, n, rfl, rfl⟩

/-- The name of a called function has a length that fits. -/
def Operator.fits : Operator → Bool
  | .call name => fitsString name
  | _ => true

theorem Operator.faithful_encode : Faithful Operator.encode Operator.fits Eq := by
  intro a
  refine .of_eq ?_
  intro b ha hb s t h
  rcases Operator.eq_of_tag_eq (List.cons.inj h).1 with rfl | ⟨m, n, rfl, rfl⟩
  · rfl
  · rw [((Encoding.cons_append_iff (faithful_string m n ha hb s t)).1 h).1]

/-! ## Forms -/

def Form.fits : Form → Bool
  | .apply operator => operator.fits
  | .tuple | .list => true

theorem Form.faithful_encode : Faithful Form.encode Form.fits Eq := by
  intro a
  refine .of_eq ?_
  intro b ha hb s t h
  cases a with
  | apply operator =>
    cases b with
    | apply operator' =>
      rw [((Encoding.cons_append_iff (Operator.faithful_encode _ _ ha hb s t)).1 h).1]
    | _ => exact absurd (List.cons.inj h).1 (by decide)
  | tuple => cases b <;> first | rfl | exact absurd (List.cons.inj h).1 (by decide)
  | list => cases b <;> first | rfl | exact absurd (List.cons.inj h).1 (by decide)

/-! ## Atoms -/

/-- The source of a field fits, and so does the length of its name. -/
def FieldAccess.fits (access : FieldAccess) : Bool :=
  fitsNumber access.binding && fitsString access.name

theorem FieldAccess.faithful :
    Faithful (fun access : FieldAccess => number access.binding ++ string access.name ++
      optional FieldType.encode access.expected) FieldAccess.fits Eq := by
  intro a
  refine .of_eq ?_
  intro b ha hb s t h
  rw [FieldAccess.fits, Bool.and_eq_true] at ha hb
  obtain ⟨binding, name, expected⟩ := a
  obtain ⟨binding', name', expected'⟩ := b
  have hexpected := FieldType.faithful_encode.optional_eq expected expected'
    (by cases expected <;> rfl) (by cases expected' <;> rfl) s t
  simp only [List.append_assoc] at h
  rw [faithful_number _ _ ha.1 hb.1, faithful_string _ _ ha.2 hb.2, hexpected] at h
  obtain ⟨rfl, rfl, rfl, -⟩ := h
  rfl

/-- The numbers in an atom and the lengths of its texts fit. -/
def Atom.fits : Atom → Bool
  | .binding index => fitsNumber index
  | .field access => access.fits
  | .placeholder key => fitsNumber key
  | .literal value => value.fits

theorem Atom.alike_literal_iff {v w : Value} :
    (Atom.literal v).Alike (.literal w) ↔ v.Alike w := by
  constructor
  · intro h
    cases h with
    | same => exact .same v
    | literal hv => exact hv
  · exact .literal

theorem Atom.alike_iff_eq {a b : Atom} (ha : ∀ v, a ≠ .literal v) : a.Alike b ↔ a = b := by
  constructor
  · intro h
    cases h with
    | same => rfl
    | literal _ => exact absurd rfl (ha _)
  · rintro rfl
    exact .same a

theorem Atom.faithful_encode : Faithful Atom.encode Atom.fits Atom.Alike := by
  intro a b ha hb s t
  cases a with
  | binding index =>
    cases b with
    | binding index' =>
      rw [Atom.alike_iff_eq (a := .binding index) nofun, Atom.binding.injEq]
      exact Encoding.cons_append_iff (faithful_number index index' ha hb s t)
    | _ => exact cons_append_of_ne (by decide) nofun
  | field access =>
    cases b with
    | field access' =>
      rw [Atom.alike_iff_eq (a := .field access) nofun, Atom.field.injEq]
      exact Encoding.cons_append_iff (FieldAccess.faithful access access' ha hb s t)
    | _ => exact cons_append_of_ne (by decide) nofun
  | placeholder key =>
    cases b with
    | placeholder key' =>
      rw [Atom.alike_iff_eq (a := .placeholder key) nofun, Atom.placeholder.injEq]
      exact Encoding.cons_append_iff (faithful_number key key' ha hb s t)
    | _ => exact cons_append_of_ne (by decide) nofun
  | literal v =>
    cases b with
    | literal w =>
      rw [Atom.alike_literal_iff]
      exact Encoding.cons_append_iff (Value.faithful_encode v w ha hb s t)
    | _ => exact cons_append_of_ne (by decide) nofun

/-! ## Trees -/

mutual

/-- All numbers and lengths in an expression, at any depth, fit. -/
def Expr.fits : Expr → Bool
  | .atom a => a.fits
  | .node form args => form.fits && (fitsNumber args.length && Expr.fitAll args)

def Expr.fitAll : List Expr → Bool
  | [] => true
  | e :: es => Expr.fits e && Expr.fitAll es

end

theorem Expr.fitAll_eq_all (es : List Expr) : Expr.fitAll es = es.all Expr.fits := by
  induction es with
  | nil => rfl
  | cons e es ih => rw [Expr.fitAll, ih, List.all_cons]

theorem Expr.encodeAll_eq_flatMap (es : List Expr) :
    Expr.encodeAll es = es.flatMap Expr.encode := by
  induction es with
  | nil => rfl
  | cons e es ih => rw [Expr.encodeAll, ih, List.flatMap_cons]

theorem Expr.encode_node (form : Form) (args : List Expr) :
    (Expr.node form args).encode = form.encode ++ Encoding.list Expr.encode args := by
  rw [Expr.encode, Expr.encodeAll_eq_flatMap, List.append_assoc]
  rfl

theorem Expr.fits_node (form : Form) (args : List Expr) :
    (Expr.node form args).fits = (form.fits && fitsList Expr.fits args) := by
  rw [Expr.fits, Expr.fitAll_eq_all]
  rfl

theorem Expr.alike_node_iff {form form' : Form} {args args' : List Expr} :
    (Expr.node form args).Alike (.node form' args') ↔
      form = form' ∧ List.Forall₂ Expr.Alike args args' := by
  constructor
  · intro h
    cases h with
    | node _ hargs => exact ⟨rfl, hargs⟩
  · rintro ⟨rfl, hargs⟩
    exact .node form hargs

/-- The first byte of an atom is not that of a node. -/
theorem Expr.atom_encode_ne_node {a : Atom} {form : Form} {args : List Expr} {s t : List UInt8} :
    (Expr.atom a).encode ++ s ≠ (Expr.node form args).encode ++ t := by
  rw [Expr.encode_node]
  cases a <;> cases form <;> exact fun h => absurd (List.cons.inj h).1 (by decide)

theorem Expr.faithful_encode : Faithful Expr.encode Expr.fits Expr.Alike := by
  intro e
  induction e using Expr.induction with
  | atom a =>
    intro e' he he' s t
    cases e' with
    | atom b =>
      have halike : (Expr.atom a).Alike (.atom b) ↔ a.Alike b :=
        ⟨fun h => by cases h; assumption, .atom⟩
      rw [halike]
      exact Atom.faithful_encode a b he he' s t
    | node form args =>
      exact ⟨fun h => absurd h Expr.atom_encode_ne_node, fun h => nomatch h.1⟩
  | node form args ih =>
    intro e' he he' s t
    cases e' with
    | atom b =>
      exact ⟨fun h => absurd h.symm Expr.atom_encode_ne_node, fun h => nomatch h.1⟩
    | node form' args' =>
      rw [Expr.fits_node, Bool.and_eq_true] at he he'
      rw [Expr.encode_node, Expr.encode_node, List.append_assoc, List.append_assoc,
        Form.faithful_encode _ _ he.1 he'.1, FaithfulAt.list ih _ he.2 he'.2,
        Expr.alike_node_iff, and_assoc]

def ClauseExpr.fits (e : ClauseExpr) : Bool :=
  e.expr.fits

theorem ClauseExpr.faithful_encode : Faithful ClauseExpr.encode ClauseExpr.fits ClauseExpr.Alike :=
  fun e e' => Expr.faithful_encode e.expr e'.expr

end QueryPlan
