import QueryPlan.Text.Digits

set_option autoImplicit false

/-! # Reading 64-bit integers

An integer text is an optional sign and ASCII digits, nothing else; numbers outside the signed
64-bit range are refused. -/

namespace QueryPlan.Integer

/-- The signed 64-bit integer of this value, when it is in range. -/
def ofInt? (value : Int) : Option Int64 :=
  if Int64.minValue.toInt ≤ value ∧ value ≤ Int64.maxValue.toInt then some (Int64.ofInt value)
  else none

/-- Reads an optional sign and digits. -/
def read? (cs : List Char) : Option Int64 := do
  let (negative, digits) := Text.splitSign cs
  let magnitude ← Text.readNat? digits
  ofInt? (if negative then -(magnitude : Int) else magnitude)

/-- A number that is accepted is represented exactly. -/
theorem toInt_of_ofInt? {value : Int} {word : Int64} (h : ofInt? value = some word) :
    word.toInt = value := by
  unfold ofInt? at h
  split at h
  · next range =>
    obtain rfl := Option.some.inj h
    exact Int64.toInt_ofInt_of_le range.1 (Int.lt_of_le_of_lt range.2 (by decide))
  · simp at h

end QueryPlan.Integer
