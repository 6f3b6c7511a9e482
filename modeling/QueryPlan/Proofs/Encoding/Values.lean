import QueryPlan.Proofs.Alike
import QueryPlan.Proofs.Decimals
import QueryPlan.Proofs.Encoding.Faithful
import QueryPlan.Proofs.Trees

set_option autoImplicit false

/-! # Faithful encoding of types and values

The bytes of a value can be told from what follows, and two values share their bytes exactly when
they are alike. -/

namespace QueryPlan

open Encoding

/-! ## Field types -/

theorem FieldType.faithful_encode : Faithful FieldType.encode (fun _ => true) Eq := by
  intro a
  refine .of_eq ?_
  intro b _ _ s t h
  induction a generalizing b with
  | array inner ih =>
    cases b with
    | array inner' => rw [ih inner' (List.cons.inj h).2]
    | _ => exact absurd (List.cons.inj h).1 (by decide)
  | _ => cases b <;> first | rfl | exact absurd (List.cons.inj h).1 (by decide)

/-! ## Numbers -/

theorem Decimal.encode_inj {a b : Decimal} : a.encode = b.encode ↔ a = b := by
  refine ⟨fun h => ?_, fun h => by rw [h]⟩
  have hflags (d : Decimal) :
      d.scale * 0x10000 + (if d.negative then 0x80000000 else 0) < Bytes.wordCount 4 := by
    have hscale := d.scale_le
    show _ < 4294967296
    split <;> omega
  have hmantissa (d : Decimal) : d.mantissa < Bytes.wordCount 12 := d.mantissa_lt
  obtain ⟨hfirst, hsecond⟩ := List.append_inj h (by simp)
  rw [Bytes.littleEndian_inj (hflags a) (hflags b)] at hfirst
  rw [Bytes.littleEndian_inj (hmantissa a) (hmantissa b)] at hsecond
  obtain ⟨negative, mantissa, scale, _, hscale⟩ := a
  obtain ⟨negative', mantissa', scale', _, hscale'⟩ := b
  simp only at hfirst hsecond
  -- The scale does not reach up to the bit of the sign.
  have hparts : negative = negative' ∧ scale = scale' := by
    cases negative <;> cases negative' <;> simp at hfirst ⊢ <;> omega
  obtain ⟨rfl, rfl⟩ := hparts
  subst hsecond
  rfl

theorem Bytes.int64_inj {a b : Int64} :
    twosComplement 8 a.toInt = twosComplement 8 b.toInt ↔ a = b := by
  have hrange (i : Int64) : -(wordCount 8 : Int) ≤ 2 * i.toInt ∧ 2 * i.toInt < wordCount 8 := by
    have hlower := Int64.le_toInt i
    have hupper := Int64.toInt_lt i
    show -(18446744073709551616 : Int) ≤ _ ∧ _ < (18446744073709551616 : Int)
    omega
  rw [twosComplement_inj (hrange a) (hrange b), Int64.toInt_inj]

/-- Floats are told apart by their bits. -/
theorem Binary64.bytes_inj {a b : Binary64} :
    Bytes.bigEndian 8 a.bits.toNat = Bytes.bigEndian 8 b.bits.toNat ↔ a = b := by
  have hword (f : Binary64) : f.bits.toNat % Bytes.wordCount 8 = f.bits.toNat :=
    Nat.mod_eq_of_lt f.bits.toNat_lt
  obtain ⟨a⟩ := a
  obtain ⟨b⟩ := b
  rw [Bytes.bigEndian_inj, hword, hword, UInt64.toNat_inj, Binary64.mk.injEq]

theorem Date.bytes_inj {a b : Date} :
    Bytes.twosComplement 4 a.julianDay = Bytes.twosComplement 4 b.julianDay ↔ a = b := by
  have hrange (d : Date) : -(Bytes.wordCount 4 : Int) ≤ 2 * d.julianDay ∧
      2 * d.julianDay < Bytes.wordCount 4 := by
    have hlower := d.first_le
    have hupper := d.le_last
    show -(4294967296 : Int) ≤ _ ∧ _ < (4294967296 : Int)
    omega
  rw [Bytes.twosComplement_inj (hrange a) (hrange b)]
  refine ⟨fun h => ?_, fun h => by rw [h]⟩
  obtain ⟨_, _, _⟩ := a
  obtain ⟨_, _, _⟩ := b
  cases h
  rfl

/-- Timestamps are told apart by their instants only. -/
theorem Timestamp.bytes_inj {a b : Timestamp} :
    Bytes.twosComplement 16 a.instant = Bytes.twosComplement 16 b.instant ↔
      a.instant = b.instant := by
  have hrange (t : Timestamp) : -(Bytes.wordCount 16 : Int) ≤ 2 * t.instant ∧
      2 * t.instant < Bytes.wordCount 16 := by
    have hlower := t.lower_le
    have hupper := t.lt_upper
    unfold Timestamp.instantLimit at hlower hupper
    show -(340282366920938463463374607431768211456 : Int) ≤ _ ∧
      _ < (340282366920938463463374607431768211456 : Int)
    omega
  exact Bytes.twosComplement_inj (hrange a) (hrange b)

/-! ## Values -/

mutual

/-- All texts, byte strings and lists in a value, at any depth, have a length that fits. -/
def Value.fits : Value → Bool
  | .text value => fitsString value
  | .blob bytes => fitsNumber bytes.length
  | .list items => fitsNumber items.length && Value.fitAll items
  | .null | .bool _ | .int _ | .float _ | .decimal _ | .date _ | .timestamp _ => true

def Value.fitAll : List Value → Bool
  | [] => true
  | v :: vs => Value.fits v && Value.fitAll vs

end

theorem Value.fitAll_eq_all (vs : List Value) : Value.fitAll vs = vs.all Value.fits := by
  induction vs with
  | nil => rfl
  | cons v vs ih => rw [Value.fitAll, ih, List.all_cons]

theorem Value.encodeAll_eq_flatMap (vs : List Value) :
    Value.encodeAll vs = vs.flatMap Value.encode := by
  induction vs with
  | nil => rfl
  | cons v vs ih => rw [Value.encodeAll, ih, List.flatMap_cons]

/-- Whether a value is alike to itself only. -/
def Value.isExact : Value → Bool
  | .decimal _ | .timestamp _ | .list _ => false
  | .null | .bool _ | .int _ | .float _ | .text _ | .blob _ | .date _ => true

theorem Value.alike_iff_eq {v w : Value} (hv : v.isExact) : v.Alike w ↔ v = w := by
  constructor
  · intro h
    cases h with
    | same => rfl
    | decimal _ => cases hv
    | timestamp _ => cases hv
    | list _ => cases hv
  · rintro rfl
    exact .same v

theorem Value.alike_decimal_iff {a b : Decimal} :
    (Value.decimal a).Alike (.decimal b) ↔ a.SameNumber b := by
  constructor
  · intro h
    cases h with
    | same => rfl
    | decimal hsame => exact hsame
  · exact .decimal

theorem Value.alike_timestamp_iff {a b : Timestamp} :
    (Value.timestamp a).Alike (.timestamp b) ↔ a.instant = b.instant := by
  constructor
  · intro h
    cases h with
    | same => rfl
    | timestamp hsame => exact hsame
  · exact .timestamp

theorem Value.alike_list_iff {vs ws : List Value} :
    (Value.list vs).Alike (.list ws) ↔ List.Forall₂ Value.Alike vs ws := by
  constructor
  · intro h
    cases h with
    | same => exact List.forall₂_same.2 fun v _ => .same v
    | list hall => exact hall
  · exact .list

/-- A tag and then bytes of one width, which are equal for alike values. -/
theorem Value.cons_append_iff {tag : UInt8} {x y s t : List UInt8} {v w : Value}
    (hlength : x.length = y.length) (h : x = y ↔ v.Alike w) :
    (tag :: x) ++ s = (tag :: y) ++ t ↔ v.Alike w ∧ s = t :=
  Encoding.cons_append_iff ((append_eq_append_iff hlength).trans (and_congr_left' h))

/-- A value that is no list shares its bytes with those it is alike to. -/
theorem Value.faithfulAt_scalar (v : Value) (hscalar : ∀ items, v ≠ .list items) :
    FaithfulAt Value.encode Value.fits Value.Alike v := by
  intro w hv hw s t
  -- Values of different kinds have different tags and are not alike.
  cases v with
  | null =>
    cases w with
    | null =>
      rw [Value.alike_iff_eq rfl]
      exact Encoding.cons_append_iff (by simp)
    | _ => exact cons_append_of_ne (by decide) nofun
  | bool a =>
    cases w with
    | bool b =>
      refine Value.cons_append_iff rfl ?_
      rw [Value.alike_iff_eq rfl]
      cases a <;> cases b <;> simp
    | _ => exact cons_append_of_ne (by decide) nofun
  | int a =>
    cases w with
    | int b =>
      refine Value.cons_append_iff (by simp) ?_
      rw [Bytes.int64_inj, Value.alike_iff_eq rfl, Value.int.injEq]
    | _ => exact cons_append_of_ne (by decide) nofun
  | float a =>
    cases w with
    | float b =>
      refine Value.cons_append_iff (by simp) ?_
      rw [Binary64.bytes_inj, Value.alike_iff_eq rfl, Value.float.injEq]
    | _ => exact cons_append_of_ne (by decide) nofun
  | decimal a =>
    cases w with
    | decimal b =>
      refine Value.cons_append_iff (by simp [Decimal.encode]) ?_
      rw [Decimal.encode_inj, Decimal.normalize_eq_iff, Value.alike_decimal_iff]
    | _ => exact cons_append_of_ne (by decide) nofun
  | text a =>
    cases w with
    | text b =>
      rw [Value.alike_iff_eq rfl, Value.text.injEq]
      exact Encoding.cons_append_iff (faithful_string a b hv hw s t)
    | _ => exact cons_append_of_ne (by decide) nofun
  | blob a =>
    cases w with
    | blob b =>
      rw [Value.alike_iff_eq rfl, Value.blob.injEq]
      exact Encoding.cons_append_iff (faithful_bytes a b hv hw s t)
    | _ => exact cons_append_of_ne (by decide) nofun
  | date a =>
    cases w with
    | date b =>
      refine Value.cons_append_iff (by simp) ?_
      rw [Date.bytes_inj, Value.alike_iff_eq rfl, Value.date.injEq]
    | _ => exact cons_append_of_ne (by decide) nofun
  | timestamp a =>
    cases w with
    | timestamp b =>
      refine Value.cons_append_iff (by simp) ?_
      rw [Timestamp.bytes_inj, Value.alike_timestamp_iff]
    | _ => exact cons_append_of_ne (by decide) nofun
  | list items => exact absurd rfl (hscalar items)

theorem Value.faithful_encode : Faithful Value.encode Value.fits Value.Alike := by
  intro v
  induction v using Value.induction with
  | scalar v hscalar => exact Value.faithfulAt_scalar v hscalar
  | list vs ih =>
    intro w hv hw s t
    cases w with
    | list ws =>
      have hencode (items : List Value) :
          (Value.list items).encode = 0x69 :: Encoding.list Value.encode items := by
        rw [Value.encode, Value.encodeAll_eq_flatMap]
        rfl
      have hfits (items : List Value) : (Value.list items).fits = fitsList Value.fits items := by
        rw [Value.fits, Value.fitAll_eq_all]
        rfl
      rw [hfits] at hv hw
      rw [hencode, hencode, Value.alike_list_iff]
      -- The items are told apart one by one, by induction.
      exact Encoding.cons_append_iff (FaithfulAt.list ih ws hv hw s t)
    | _ => exact cons_append_of_ne (by decide) nofun

end QueryPlan
