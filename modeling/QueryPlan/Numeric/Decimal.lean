import QueryPlan.Numeric.TenPow
import QueryPlan.Text.Digits

set_option autoImplicit false

/-! # Decimal numbers

A `Decimal` is a sign, a 96-bit mantissa and a scale of at most 28 fraction digits. Trailing zeros
count: `1.5` and `1.50` are different values of equal numeric size, and so are `0` and `-0`.
`normalize` picks one value of each numeric size. -/

namespace QueryPlan

/-- The first number that a mantissa cannot hold, 2 to the power 96. -/
def Decimal.mantissaLimit : Nat := 79228162514264337593543950336

/-- The number `± mantissa / 10 ^ scale`. -/
structure Decimal where
  negative : Bool
  mantissa : Nat
  scale : Nat
  mantissa_lt : mantissa < Decimal.mantissaLimit := by decide
  scale_le : scale ≤ 28 := by decide
deriving DecidableEq

namespace Decimal

/-- The decimal with these parts, when they are in range. -/
def ofParts? (negative : Bool) (mantissa scale : Nat) : Option Decimal :=
  if h : mantissa < mantissaLimit ∧ scale ≤ 28 then some ⟨negative, mantissa, scale, h.1, h.2⟩
  else none

@[simp] theorem ofParts?_self (d : Decimal) :
    ofParts? d.negative d.mantissa d.scale = some d :=
  dif_pos ⟨d.mantissa_lt, d.scale_le⟩

/-- The integer that the mantissa stands for. -/
def signed (d : Decimal) : Int :=
  if d.negative then -(d.mantissa : Int) else d.mantissa

/-- Two decimals have the same numeric size. -/
def SameNumber (a b : Decimal) : Prop :=
  a.signed * tenPow b.scale = b.signed * tenPow a.scale

instance (a b : Decimal) : Decidable (SameNumber a b) :=
  inferInstanceAs (Decidable (_ = _))

/-! ## Integers -/

/-- A 64-bit integer as a decimal without fraction digits. -/
def ofInt64 (value : Int64) : Decimal where
  negative := value.toInt < 0
  mantissa := value.toInt.natAbs
  scale := 0
  mantissa_lt := by
    have lower := Int64.le_toInt value
    have upper := Int64.toInt_lt value
    unfold mantissaLimit
    omega

/-! ## Normal form -/

/-- Takes trailing zeros off a mantissa, one per fraction digit at most. -/
def dropZeros (mantissa : Nat) : Nat → Nat × Nat
  | 0 => (mantissa, 0)
  | scale + 1 =>
    if mantissa % 10 = 0 then dropZeros (mantissa / 10) scale else (mantissa, scale + 1)

theorem dropZeros_le (mantissa scale : Nat) :
    (dropZeros mantissa scale).1 ≤ mantissa ∧ (dropZeros mantissa scale).2 ≤ scale := by
  induction scale generalizing mantissa with
  | zero => simp [dropZeros]
  | succ scale ih =>
    unfold dropZeros
    split
    · have := ih (mantissa / 10)
      omega
    · simp

/-- Dropping zeros keeps the number. -/
theorem dropZeros_mul (mantissa scale : Nat) :
    (dropZeros mantissa scale).1 * tenPow scale =
      mantissa * tenPow (dropZeros mantissa scale).2 := by
  induction scale generalizing mantissa with
  | zero => simp [dropZeros]
  | succ scale ih =>
    unfold dropZeros
    split
    · next divides =>
      have step := ih (mantissa / 10)
      have whole : mantissa / 10 * 10 = mantissa := by omega
      rw [tenPow_succ, ← Nat.mul_assoc, step, Nat.mul_right_comm, whole]
    · rfl

/-- The value of this size without trailing fraction zeros; zero is positive. -/
def normalize (d : Decimal) : Decimal :=
  { negative := d.negative && d.mantissa ≠ 0
    mantissa := (dropZeros d.mantissa d.scale).1
    scale := if d.mantissa = 0 then 0 else (dropZeros d.mantissa d.scale).2
    mantissa_lt := Nat.lt_of_le_of_lt (dropZeros_le d.mantissa d.scale).1 d.mantissa_lt
    scale_le := by
      have := (dropZeros_le d.mantissa d.scale).2
      have := d.scale_le
      split <;> omega }

/-! ## Text -/

/-- All digits of the mantissa with the point in its place and at least one digit before it. A
    negative zero shows its sign. -/
def text (d : Decimal) : String :=
  let digits := (Text.padded (d.scale + 1) d.mantissa).toList
  let whole := digits.take (digits.length - d.scale)
  let decimals := digits.drop (digits.length - d.scale)
  Text.signText d.negative ++ String.ofList whole ++
    (if decimals.isEmpty then "" else "." ++ String.ofList decimals)

end Decimal

end QueryPlan
