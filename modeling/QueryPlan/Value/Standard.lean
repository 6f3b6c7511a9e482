import QueryPlan.Bytes.Words
import QueryPlan.Calendar.Date.Iso
import QueryPlan.Calendar.Timestamp.Rfc3339
import QueryPlan.Numeric.Binary64.Reading
import QueryPlan.Numeric.Decimal.OfBinary64
import QueryPlan.Numeric.Decimal.Reading
import QueryPlan.Numeric.Integer
import QueryPlan.Text.Blank
import QueryPlan.Value.Cast

set_option autoImplicit false

/-! # The standard caster

Values that have the right shape pass unchanged, texts are read where that is unambiguous, and
integers widen to floating point and decimal numbers. Everything else is refused. -/

namespace QueryPlan.Caster

/-- The texts of the truth values, taken literally. -/
def readBool? (text : String) : Option Bool :=
  if text = "true" ∨ text = "1" then some true
  else if text = "false" ∨ text = "0" then some false
  else none

/-- The characters of a text without the blanks around them, as numbers are read. -/
def trimmed (text : String) : List Char :=
  Text.trim text.toList

/-- Casts a value to a field type by the standard rules. Numbers may have blanks around them, other
    texts may not. -/
def standardCast : FieldType → Value → Option Value
  | .any, value => some value
  | .id, .int value => some (.int value)
  | .id, .text value => (Integer.read? (trimmed value)).map .int
  | .integer, .int value => some (.int value)
  | .integer, .text value => (Integer.read? (trimmed value)).map .int
  | .float, .float value => some (.float value)
  | .float, .int value => some (.float (Binary64.ofInt value.toInt))
  | .float, .text value => (Binary64.read? (trimmed value)).map .float
  | .decimal, .decimal value => some (.decimal value)
  | .decimal, .int value => some (.decimal (Decimal.ofInt64 value))
  | .decimal, .float value => (Decimal.ofBinary64? value).map .decimal
  | .decimal, .text value => (Decimal.read? (trimmed value)).map .decimal
  | .boolean, .bool value => some (.bool value)
  | .boolean, .text value => (readBool? value).map .bool
  | .string, .text value => some (.text value)
  | .binary, .blob bytes => some (.blob bytes)
  | .binary, .text value => some (.blob (Bytes.utf8 value))
  | .date, .date value => some (.date value)
  | .date, .text value => (Date.Iso.read? value.toList).map .date
  | .timestamp, .timestamp value => some (.timestamp value)
  | .timestamp, .text value => (Timestamp.Rfc3339.read? value.toList).map .timestamp
  | .array inner, .list items => (items.mapM (standardCast inner)).map .list
  | _, _ => none

/-- The caster that is used where no other is given. -/
def standard : Caster where
  cast := standardCast

end QueryPlan.Caster
