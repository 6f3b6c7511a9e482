import Mathlib.Tactic.Ring
import QueryPlan.Numeric.Decimal

set_option autoImplicit false

/-! # The normal form of decimals

Normalization keeps the numeric size of a decimal, and its results have no trailing fraction zeros
and no negative zero among them. Two such decimals of one size are equal, so decimals have the same
numeric size exactly when they have the same normal form. -/

namespace QueryPlan.Decimal

/-! ## Numeric size -/

@[simp] theorem natAbs_signed (d : Decimal) : d.signed.natAbs = d.mantissa := by
  unfold signed
  split <;> omega

theorem SameNumber.symm {a b : Decimal} (h : a.SameNumber b) : b.SameNumber a :=
  Eq.symm h

theorem SameNumber.trans {a b c : Decimal} (hab : a.SameNumber b) (hbc : b.SameNumber c) :
    a.SameNumber c := by
  unfold SameNumber at hab hbc ⊢
  have hpos : (tenPow b.scale : Int) ≠ 0 := by
    have := tenPow_pos b.scale
    omega
  refine Int.eq_of_mul_eq_mul_right hpos ?_
  calc a.signed * tenPow c.scale * tenPow b.scale
      = a.signed * tenPow b.scale * tenPow c.scale := by ring
    _ = b.signed * tenPow c.scale * tenPow a.scale := by rw [hab]; ring
    _ = c.signed * tenPow a.scale * tenPow b.scale := by rw [hbc]; ring

/-! ## Reduced decimals -/

/-- There is no trailing fraction zero, and zero is positive. -/
structure Reduced (d : Decimal) : Prop where
  digits : d.scale = 0 ∨ d.mantissa % 10 ≠ 0
  zero : d.mantissa = 0 → d.negative = false

theorem dropZeros_reduced (mantissa scale : Nat) :
    (dropZeros mantissa scale).2 = 0 ∨ (dropZeros mantissa scale).1 % 10 ≠ 0 := by
  induction scale generalizing mantissa with
  | zero => exact .inl rfl
  | succ scale ih =>
    unfold dropZeros
    split
    · exact ih (mantissa / 10)
    · next hlast => exact .inr hlast

theorem reduced_normalize (d : Decimal) : d.normalize.Reduced := by
  refine ⟨?_, fun hzero => ?_⟩
  · by_cases hmantissa : d.mantissa = 0
    · exact .inl (if_pos hmantissa)
    · show (if d.mantissa = 0 then 0 else (dropZeros d.mantissa d.scale).2) = 0 ∨ _
      rw [if_neg hmantissa]
      exact dropZeros_reduced d.mantissa d.scale
  · have hmul := dropZeros_mul d.mantissa d.scale
    have hdropped : (dropZeros d.mantissa d.scale).1 = 0 := hzero
    rw [hdropped, Nat.zero_mul, eq_comm, Nat.mul_eq_zero] at hmul
    have hmantissa : d.mantissa = 0 := hmul.resolve_right (tenPow_pos _).ne'
    simp [normalize, hmantissa]

theorem sameNumber_normalize (d : Decimal) : d.normalize.SameNumber d := by
  by_cases hmantissa : d.mantissa = 0
  · have hdropped : d.normalize.mantissa = 0 := by
      have hle := (dropZeros_le d.mantissa d.scale).1
      show (dropZeros d.mantissa d.scale).1 = 0
      omega
    have hnormal : d.normalize.signed = 0 :=
      Int.natAbs_eq_zero.1 ((natAbs_signed _).trans hdropped)
    have hsigned : d.signed = 0 := Int.natAbs_eq_zero.1 ((natAbs_signed _).trans hmantissa)
    rw [SameNumber, hnormal, hsigned, Int.zero_mul, Int.zero_mul]
  · have hmul := dropZeros_mul d.mantissa d.scale
    have hcast : ((dropZeros d.mantissa d.scale).1 : Int) * tenPow d.scale
        = d.mantissa * tenPow (dropZeros d.mantissa d.scale).2 := by
      exact_mod_cast hmul
    cases hnegative : d.negative with
    | false => simpa [SameNumber, signed, normalize, hmantissa, hnegative] using hcast
    | true => simpa [SameNumber, signed, normalize, hmantissa, hnegative] using hcast

/-- A reduced decimal has the fewest fraction digits among those of its size: with fewer of them,
    its last digit would be a zero. -/
theorem Reduced.scale_le {a b : Decimal} (hb : b.Reduced) (h : a.SameNumber b) :
    b.scale ≤ a.scale := by
  by_contra hlt
  obtain ⟨k, hk⟩ := Nat.exists_eq_add_of_lt (Nat.lt_of_not_le hlt)
  unfold SameNumber at h
  rw [hk, Nat.add_assoc, tenPow_add, tenPow_succ] at h
  have hpos : (tenPow a.scale : Int) ≠ 0 := by
    have := tenPow_pos a.scale
    omega
  -- Cancelling the common power of ten leaves a factor of ten.
  have hten : a.signed * tenPow k * 10 = b.signed := by
    refine Int.eq_of_mul_eq_mul_right hpos ?_
    rw [← h]
    push_cast
    ring
  have hlast : b.mantissa % 10 = 0 := by
    rw [← natAbs_signed]
    omega
  have hscale : b.scale ≠ 0 := by omega
  exact hb.digits.elim hscale fun hne => hne hlast

/-- Reduced decimals of one numeric size are equal. -/
theorem Reduced.eq_of_sameNumber {a b : Decimal} (ha : a.Reduced) (hb : b.Reduced)
    (h : a.SameNumber b) : a = b := by
  have hscale : a.scale = b.scale :=
    Nat.le_antisymm (ha.scale_le h.symm) (hb.scale_le h)
  have hpos : (tenPow b.scale : Int) ≠ 0 := by
    have := tenPow_pos b.scale
    omega
  have hsigned : a.signed = b.signed := by
    unfold SameNumber at h
    rw [hscale] at h
    exact Int.eq_of_mul_eq_mul_right hpos h
  have hmantissa : a.mantissa = b.mantissa := by
    rw [← natAbs_signed, hsigned, natAbs_signed]
  -- The sign can be read off the number unless that is zero.
  have hnegative : a.negative = b.negative := by
    by_cases hzero : a.mantissa = 0
    · rw [ha.zero hzero, hb.zero (hmantissa ▸ hzero)]
    · unfold signed at hsigned
      cases hsign : a.negative <;> cases hsign' : b.negative <;> simp [hsign, hsign'] at hsigned ⊢
      all_goals omega
  obtain ⟨_, _, _, _, _⟩ := a
  obtain ⟨_, _, _, _, _⟩ := b
  simp only at hscale hmantissa hnegative
  subst hscale hmantissa hnegative
  rfl

/-- Decimals have one normal form exactly when they have one numeric size. -/
theorem normalize_eq_iff {a b : Decimal} : a.normalize = b.normalize ↔ a.SameNumber b := by
  constructor
  · intro h
    have hb := sameNumber_normalize b
    rw [← h] at hb
    exact (sameNumber_normalize a).symm.trans hb
  · intro h
    have hnormal : a.normalize.SameNumber b.normalize :=
      ((sameNumber_normalize a).trans h).trans (sameNumber_normalize b).symm
    exact (reduced_normalize a).eq_of_sameNumber (reduced_normalize b) hnormal

end QueryPlan.Decimal
