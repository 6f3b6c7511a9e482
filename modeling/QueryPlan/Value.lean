import QueryPlan.Calendar.Timestamp
import QueryPlan.Numeric.Binary64
import QueryPlan.Numeric.Decimal

set_option autoImplicit false

/-! # Values

The values that parameters and literals of a query carry. -/

namespace QueryPlan

/-- A value of any kind. Floats are compared by their bits, decimals with their scale and
    timestamps with their offset. -/
inductive Value
  | null
  | bool (value : Bool)
  | int (value : Int64)
  | float (value : Binary64)
  | decimal (value : Decimal)
  | text (value : String)
  | blob (bytes : List UInt8)
  | date (value : Date)
  | timestamp (value : Timestamp)
  | list (items : List Value)

/-- Whether a value is the null value. -/
def Value.isNull : Value → Bool
  | .null => true
  | _ => false

@[simp] theorem Value.isNull_iff {v : Value} : v.isNull = true ↔ v = .null := by
  cases v <;> simp [isNull]

end QueryPlan
