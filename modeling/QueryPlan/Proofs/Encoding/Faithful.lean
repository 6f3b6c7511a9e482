import Mathlib.Algebra.Order.Group.Unbundled.Int
import Mathlib.Data.List.Forall2
import QueryPlan.CacheKey.Encoding

set_option autoImplicit false

/-! # Faithful encodings

An encoding is faithful when what it puts in front of other bytes can be told from those bytes, and
tells apart all that is not the same. Fixed widths, tags and lengths make encodings faithful, and
faithful encodings can be put one after the other. -/

namespace QueryPlan

/-! ## Words -/

/-- Integers in the range of a width have different bytes. -/
theorem Bytes.twosComplement_inj {width : Nat} {m n : Int}
    (hm : -(wordCount width : Int) ≤ 2 * m ∧ 2 * m < wordCount width)
    (hn : -(wordCount width : Int) ≤ 2 * n ∧ 2 * n < wordCount width) :
    twosComplement width m = twosComplement width n ↔ m = n := by
  refine ⟨fun h => ?_, fun h => by rw [h]⟩
  have hpos : 0 < (wordCount width : Int) := by omega
  have hword (k : Int) : (k % wordCount width).toNat % wordCount width
      = (k % wordCount width).toNat := by
    have hlt := Int.emod_lt_of_pos k hpos
    exact Nat.mod_eq_of_lt (by omega)
  rw [twosComplement, twosComplement, bigEndian_inj, hword, hword] at h
  have hmod : m % (wordCount width : Int) = n % (wordCount width : Int) := by
    have hm₀ := Int.emod_nonneg m hpos.ne'
    have hn₀ := Int.emod_nonneg n hpos.ne'
    omega
  -- Two integers in range are less than the number of words apart.
  have hdvd : (wordCount width : Int) ∣ m - n :=
    Int.dvd_of_emod_eq_zero (Int.emod_eq_emod_iff_emod_sub_eq_zero.1 hmod)
  have hzero := Int.eq_zero_of_abs_lt_dvd hdvd (abs_lt.2 ⟨by omega, by omega⟩)
  omega

theorem Bytes.littleEndian_inj {width m n : Nat} (hm : m < wordCount width)
    (hn : n < wordCount width) : littleEndian width m = littleEndian width n ↔ m = n := by
  rw [littleEndian, littleEndian, List.reverse_inj, bigEndian_inj, Nat.mod_eq_of_lt hm,
    Nat.mod_eq_of_lt hn]

namespace Encoding

variable {α β : Type}

/-! ## Faithfulness -/

/-- `a` can be read back from the front of any bytes, up to what is the same. -/
def FaithfulAt (encode : α → List UInt8) (fits : α → Bool) (same : α → α → Prop) (a : α) : Prop :=
  ∀ b, fits a → fits b → ∀ s t, encode a ++ s = encode b ++ t ↔ same a b ∧ s = t

/-- Everything that fits can be read back. -/
def Faithful (encode : α → List UInt8) (fits : α → Bool) (same : α → α → Prop) : Prop :=
  ∀ a, FaithfulAt encode fits same a

/-- Things with the same tag are told apart by what is behind it. -/
theorem cons_append_iff {tag : UInt8} {x y s t : List UInt8} {P : Prop}
    (h : x ++ s = y ++ t ↔ P) : (tag :: x) ++ s = (tag :: y) ++ t ↔ P := by
  rw [List.cons_append, List.cons_append, List.cons_inj_right]
  exact h

/-- Things with different tags are told apart. -/
theorem cons_append_of_ne {tag tag' : UInt8} {x y s t : List UInt8} {P Q : Prop}
    (htag : tag ≠ tag') (hP : ¬ P) : (tag :: x) ++ s = (tag' :: y) ++ t ↔ P ∧ Q :=
  ⟨fun h => absurd (List.cons.inj h).1 htag, fun h => absurd h.1 hP⟩

/-- Where only equal things are the same, it is enough that equal bytes come from equal things. -/
theorem FaithfulAt.of_eq {encode : α → List UInt8} {fits : α → Bool} {a : α}
    (h : ∀ b, fits a → fits b → ∀ s t, encode a ++ s = encode b ++ t → a = b) :
    FaithfulAt encode fits Eq a := by
  intro b ha hb s t
  constructor
  · intro heq
    obtain rfl := h b ha hb s t heq
    exact ⟨rfl, List.append_cancel_left heq⟩
  · rintro ⟨rfl, rfl⟩
    rfl

/-- An encoding of one width is faithful if it has different bytes for different things. -/
theorem Faithful.of_length {encode : α → List UInt8} {fits : α → Bool} {same : α → α → Prop}
    (width : Nat) (hwidth : ∀ a, (encode a).length = width)
    (h : ∀ a b, fits a → fits b → (encode a = encode b ↔ same a b)) :
    Faithful encode fits same := by
  intro a b ha hb s t
  rw [← h a b ha hb]
  constructor
  · intro heq
    exact List.append_inj heq (by rw [hwidth, hwidth])
  · rintro ⟨heq, rfl⟩
    rw [heq]

theorem Faithful.append {f : α → List UInt8} {g : β → List UInt8} {fits : α → Bool}
    {fits' : β → Bool} {same : α → α → Prop} {same' : β → β → Prop} (hf : Faithful f fits same)
    (hg : Faithful g fits' same') :
    Faithful (fun x : α × β => f x.1 ++ g x.2) (fun x => fits x.1 && fits' x.2)
      fun x y => same x.1 y.1 ∧ same' x.2 y.2 := by
  intro x y hx hy s t
  rw [Bool.and_eq_true] at hx hy
  rw [List.append_assoc, List.append_assoc, hf _ _ hx.1 hy.1, hg _ _ hx.2 hy.2, and_assoc]

/-! ## Pieces -/

/-- The first number that four bytes cannot hold. -/
def limit : Nat := 4294967296

/-- A number that four bytes can hold. -/
def fitsNumber (n : Nat) : Bool :=
  n < limit

/-- A text whose number of bytes fits. -/
def fitsString (text : String) : Bool :=
  fitsNumber (Bytes.utf8 text).length

/-- A list whose length and whose items fit. -/
def fitsList (fits : α → Bool) (items : List α) : Bool :=
  fitsNumber items.length && items.all fits

theorem faithful_number : Faithful number fitsNumber Eq := by
  refine .of_length 4 (fun n => Bytes.length_bigEndian 4 n) fun m n hm hn => ?_
  have hword (k : Nat) (hk : fitsNumber k = true) : k % Bytes.wordCount 4 = k :=
    Nat.mod_eq_of_lt (of_decide_eq_true hk)
  rw [number, number, Bytes.bigEndian_inj, hword m hm, hword n hn]

theorem append_eq_append_iff {x y s t : List UInt8} (h : x.length = y.length) :
    x ++ s = y ++ t ↔ x = y ∧ s = t :=
  ⟨fun heq => List.append_inj heq h, fun ⟨hx, hs⟩ => by rw [hx, hs]⟩

theorem faithful_bytes :
    Faithful (fun bytes => number bytes.length ++ bytes) (fun bytes => fitsNumber bytes.length)
      Eq := by
  intro a
  refine .of_eq ?_
  intro b ha hb s t h
  rw [List.append_assoc, List.append_assoc, faithful_number _ _ ha hb] at h
  exact ((append_eq_append_iff h.1).1 h.2).1

theorem faithful_string : Faithful string fitsString Eq :=
  fun a => .of_eq fun b ha hb s t h =>
    Bytes.utf8_inj.1 ((faithful_bytes (Bytes.utf8 a) (Bytes.utf8 b) ha hb s t).1 h).1

/-! ## Lists and options -/

/-- Items in a row are told apart one by one, if there are equally many. -/
theorem flatMap_append_iff {encode : α → List UInt8} {fits : α → Bool} {same : α → α → Prop}
    {as bs : List α} (h : ∀ a ∈ as, FaithfulAt encode fits same a)
    (hlength : as.length = bs.length) (has : as.all fits) (hbs : bs.all fits) (s t : List UInt8) :
    as.flatMap encode ++ s = bs.flatMap encode ++ t ↔ List.Forall₂ same as bs ∧ s = t := by
  induction as generalizing bs with
  | nil =>
    cases bs with
    | nil => simp
    | cons b bs => cases hlength
  | cons a as ih =>
    cases bs with
    | nil => cases hlength
    | cons b bs =>
      rw [List.all_cons, Bool.and_eq_true] at has hbs
      obtain ⟨hfirst, hrest⟩ := List.forall_mem_cons.1 h
      -- The first item is followed by the others and then by the rest.
      rw [List.flatMap_cons, List.flatMap_cons, List.append_assoc, List.append_assoc,
        hfirst b has.1 hbs.1, ih hrest (Nat.succ.inj hlength) has.2 hbs.2, List.forall₂_cons,
        and_assoc]

/-- Behind its length, a list can be told from what follows. -/
theorem FaithfulAt.list {encode : α → List UInt8} {fits : α → Bool} {same : α → α → Prop}
    {as : List α} (h : ∀ a ∈ as, FaithfulAt encode fits same a) :
    FaithfulAt (list encode) (fitsList fits) (List.Forall₂ same) as := by
  intro bs has hbs s t
  rw [fitsList, Bool.and_eq_true] at has hbs
  rw [Encoding.list, Encoding.list, List.append_assoc, List.append_assoc,
    faithful_number _ _ has.1 hbs.1]
  constructor
  · rintro ⟨hlength, heq⟩
    exact (flatMap_append_iff h hlength has.2 hbs.2 s t).1 heq
  · rintro ⟨hsame, rfl⟩
    have hlength := hsame.length_eq
    exact ⟨hlength, (flatMap_append_iff h hlength has.2 hbs.2 s s).2 ⟨hsame, rfl⟩⟩

theorem Faithful.list {encode : α → List UInt8} {fits : α → Bool} {same : α → α → Prop}
    (h : Faithful encode fits same) :
    Faithful (list encode) (fitsList fits) (List.Forall₂ same) :=
  fun _ => .list fun a _ => h a

/-- What may be missing has a tag that tells whether it is there. -/
theorem Faithful.optional {encode : α → List UInt8} {fits : α → Bool} {same : α → α → Prop}
    (h : Faithful encode fits same) :
    Faithful (optional encode) (·.all fits) fun a b => List.Forall₂ same a.toList b.toList := by
  intro a b ha hb s t
  cases a with
  | none =>
    cases b with
    | none => exact cons_append_iff (by simp)
    | some b => exact cons_append_of_ne (by decide) (by simp)
  | some a =>
    cases b with
    | none => exact cons_append_of_ne (by decide) (by simp)
    | some b =>
      refine cons_append_iff ((h a b ha hb s t).trans ?_)
      simp

theorem Faithful.list_eq {encode : α → List UInt8} {fits : α → Bool}
    (h : Faithful encode fits Eq) : Faithful (Encoding.list encode) (fitsList fits) Eq := by
  have hall := h.list
  rwa [List.forall₂_eq_eq_eq] at hall

theorem Faithful.optional_eq {encode : α → List UInt8} {fits : α → Bool}
    (h : Faithful encode fits Eq) : Faithful (Encoding.optional encode) (·.all fits) Eq := by
  intro a b ha hb s t
  rw [h.optional a b ha hb]
  cases a <;> cases b <;> simp

end Encoding

end QueryPlan
