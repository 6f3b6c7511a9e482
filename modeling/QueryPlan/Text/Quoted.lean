import QueryPlan.Text.Unprintable

set_option autoImplicit false

/-! # Quoted text

The form in which a text value appears in messages: between double quotes, with the quote, the
backslash, the usual control characters and everything unprintable written as escapes. -/

namespace QueryPlan.Text

/-- The code point of a character in lower-case hexadecimal, without leading zeros. -/
def hexCode (c : Char) : String :=
  String.ofList (Nat.toDigits 16 c.toNat)

/-- How one character stands between the quotes. -/
def escaped (c : Char) : String :=
  match c with
  | '\x00' => "\\0"
  | '\t' => "\\t"
  | '\n' => "\\n"
  | '\r' => "\\r"
  | '"' => "\\\""
  | '\\' => "\\\\"
  | _ => if isUnprintable c then "\\u\x7b" ++ hexCode c ++ "\x7d" else String.singleton c

/-- A text between double quotes. -/
def quoted (text : String) : String :=
  "\"" ++ String.join (text.toList.map escaped) ++ "\""

end QueryPlan.Text
