import QueryPlan.Numeric.Binary64.Shortest
import QueryPlan.Text.Quoted
import QueryPlan.Value

set_option autoImplicit false

/-! # The text of values

How values appear in messages. -/

namespace QueryPlan.Value

/-- The truth values in words. -/
def boolText (value : Bool) : String :=
  if value then "true" else "false"

/-- The bytes of a blob as decimal numbers between double angle brackets. -/
def blobText (bytes : List UInt8) : String :=
  "<<" ++ String.intercalate ", " (bytes.map fun byte => toString byte.toNat) ++ ">>"

mutual

/-- The text of a value. Texts are quoted, so that they differ from all other values. -/
def render : Value → String
  | .null => "nil"
  | .bool value => boolText value
  | .int value => toString value.toInt
  | .float value => value.text
  | .decimal value => value.text
  | .text value => Text.quoted value
  | .blob bytes => blobText bytes
  | .date value => value.text
  | .timestamp value => value.text
  | .list items => "[" ++ String.intercalate ", " (renderAll items) ++ "]"

/-- The texts of the items of a list. -/
def renderAll : List Value → List String
  | [] => []
  | item :: items => render item :: renderAll items

end

end QueryPlan.Value
