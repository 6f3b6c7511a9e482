set_option autoImplicit false

/-! # Scanning JSON

Functions that take one piece of JSON off the front of a text and give the rest. They check a piece
for its form; only strings that are needed are decoded. -/

namespace QueryPlan.Json

/-! ## Blanks, words and numbers -/

/-- The four blanks of JSON. -/
def isBlank (c : Char) : Bool :=
  c = ' ' || c = '\t' || c = '\n' || c = '\r'

/-- Skips blanks. -/
def skipBlanks (cs : List Char) : List Char :=
  cs.dropWhile isBlank

/-- Skips the given characters. -/
def skipWord? (word cs : List Char) : Option (List Char) :=
  if word.isPrefixOf cs then some (cs.drop word.length) else none

/-- Skips at least one digit. -/
def skipDigits? (cs : List Char) : Option (List Char) :=
  match cs with
  | [] => none
  | c :: rest => if c.isDigit then some (rest.dropWhile Char.isDigit) else none

/-- Skips a whole number without leading zeros. -/
def skipWhole? : List Char → Option (List Char)
  | '0' :: rest =>
    match rest with
    | c :: _ => if c.isDigit then none else some rest
    | [] => some rest
  | cs => skipDigits? cs

/-- Skips the fraction of a number, if there is one. -/
def skipFraction? : List Char → Option (List Char)
  | '.' :: rest => skipDigits? rest
  | cs => some cs

/-- Skips the exponent of a number, if there is one. -/
def skipExponent? : List Char → Option (List Char)
  | [] => some []
  | mark :: rest =>
    if mark = 'e' ∨ mark = 'E' then
      match rest with
      | '+' :: digits => skipDigits? digits
      | '-' :: digits => skipDigits? digits
      | digits => skipDigits? digits
    else some (mark :: rest)

/-- Skips a number. -/
def skipNumber? (cs : List Char) : Option (List Char) := do
  let rest ← skipWhole? (if cs.head? = some '-' then cs.drop 1 else cs)
  let rest ← skipFraction? rest
  skipExponent? rest

/-! ## Strings -/

/-- The value of a hexadecimal digit. -/
def hexValue? (c : Char) : Option Nat :=
  if c.isDigit then some (c.toNat - '0'.toNat)
  else if 'a' ≤ c ∧ c ≤ 'f' then some (c.toNat - 'a'.toNat + 10)
  else if 'A' ≤ c ∧ c ≤ 'F' then some (c.toNat - 'A'.toNat + 10)
  else none

/-- The number that four hexadecimal digits write. -/
def hexCode? (a b c d : Char) : Option Nat := do
  return (((← hexValue? a) * 16 + (← hexValue? b)) * 16 + (← hexValue? c)) * 16 + (← hexValue? d)

/-- The character of a one-letter escape. -/
def escape? : Char → Option Char
  | '"' => some '"'
  | '\\' => some '\\'
  | '/' => some '/'
  | 'b' => some '\x08'
  | 'f' => some '\x0c'
  | 'n' => some '\n'
  | 'r' => some '\r'
  | 't' => some '\t'
  | _ => none

/-- Skips the rest of a string behind its opening quote. Numeric escapes need digits only; whether
    there is such a character does not matter. -/
def skipString? : List Char → Option (List Char)
  | [] => none
  | '"' :: rest => some rest
  | '\\' :: 'u' :: a :: b :: c :: d :: rest =>
    if (hexCode? a b c d).isSome then skipString? rest else none
  | '\\' :: mark :: rest => if (escape? mark).isSome then skipString? rest else none
  | c :: rest => if c.toNat < 0x20 then none else skipString? rest

/-- The character that a numeric escape stands for, unless it is half of a surrogate pair. -/
def charOf? (code : Nat) : Option Char :=
  if h : code.isValidChar then some ⟨UInt32.ofNatLT code (by
    rcases h with h | h
    · exact Nat.lt_trans h (by decide)
    · exact Nat.lt_trans h.2 (by decide)), h⟩ else none

/-- The character that a surrogate pair stands for. -/
def pairOf? (high low : Nat) : Option Char :=
  if 0xD800 ≤ high ∧ high < 0xDC00 ∧ 0xDC00 ≤ low ∧ low < 0xE000 then
    charOf? (0x10000 + (high - 0xD800) * 0x400 + (low - 0xDC00))
  else none

/-- Decodes the rest of a string behind its opening quote. Every escape must stand for a
    character. -/
def readString? : List Char → Option (List Char × List Char)
  | [] => none
  | '"' :: rest => some ([], rest)
  | '\\' :: 'u' :: a :: b :: c :: d :: rest => do
    let code ← hexCode? a b c d
    match charOf? code with
    | some char =>
      let (chars, rest) ← readString? rest
      return (char :: chars, rest)
    | none =>
      match rest with
      | '\\' :: 'u' :: e :: f :: g :: h :: rest =>
        let char ← pairOf? code (← hexCode? e f g h)
        let (chars, rest) ← readString? rest
        return (char :: chars, rest)
      | _ => none
  | '\\' :: mark :: rest => do
    let char ← escape? mark
    let (chars, rest) ← readString? rest
    return (char :: chars, rest)
  | c :: rest =>
    if c.toNat < 0x20 then none
    else do
      let (chars, rest) ← readString? rest
      return (c :: chars, rest)

/-! ## Values -/

mutual

/-- Skips a value. Each call takes at least one character or hands over to one that does, so
    `fuel` need not be more than twice the length of the text. -/
def skipValueIn? : Nat → List Char → Option (List Char)
  | 0, _ => none
  | fuel + 1, cs =>
    match skipBlanks cs with
    | '"' :: rest => skipString? rest
    | '[' :: rest =>
      match skipBlanks rest with
      | ']' :: rest => some rest
      | rest => skipItemsIn? fuel rest
    | '\x7b' :: rest =>
      match skipBlanks rest with
      | '\x7d' :: rest => some rest
      | rest => skipMembersIn? fuel rest
    | rest =>
      (((skipWord? "null".toList rest).or (skipWord? "true".toList rest)).or
        (skipWord? "false".toList rest)).or (skipNumber? rest)

/-- Skips the items of an array and its end. -/
def skipItemsIn? : Nat → List Char → Option (List Char)
  | 0, _ => none
  | fuel + 1, cs => do
    let rest ← skipValueIn? fuel cs
    match skipBlanks rest with
    | ',' :: rest => skipItemsIn? fuel rest
    | ']' :: rest => some rest
    | _ => none

/-- Skips the members of an object and its end. -/
def skipMembersIn? : Nat → List Char → Option (List Char)
  | 0, _ => none
  | fuel + 1, cs =>
    match skipBlanks cs with
    | '"' :: rest => do
      let rest ← skipString? rest
      match skipBlanks rest with
      | ':' :: rest =>
        let rest ← skipValueIn? fuel rest
        match skipBlanks rest with
        | ',' :: rest => skipMembersIn? fuel rest
        | '\x7d' :: rest => some rest
        | _ => none
      | _ => none
    | _ => none

end

/-- Skips a value. -/
def skipValue? (cs : List Char) : Option (List Char) :=
  skipValueIn? (2 * cs.length + 2) cs

/-- Reads a truth value. -/
def readBool? (cs : List Char) : Option (Bool × List Char) :=
  let rest := skipBlanks cs
  ((skipWord? "true".toList rest).map (true, ·)).or ((skipWord? "false".toList rest).map (false, ·))

end QueryPlan.Json
