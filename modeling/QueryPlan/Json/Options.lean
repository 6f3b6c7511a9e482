import QueryPlan.Json.Scanning
import QueryPlan.Planning.Restriction

set_option autoImplicit false

/-! # Options as JSON

Options are written as an object, in which `only_where` is a truth value that may be missing and
other members do not matter, or as an array of at most one truth value. A member that is given
twice is refused. -/

namespace QueryPlan.Options

open Json

/-- Reads the members of an object and its end. `found` is the value of the one member that counts,
    if it has been read. -/
def readMembersIn? (found : Option Bool) : Nat → List Char → Option (Options × List Char)
  | 0, _ => none
  | fuel + 1, cs =>
    match skipBlanks cs with
    | '"' :: rest => do
      let (name, rest) ← readString? rest
      match skipBlanks rest with
      | ':' :: rest =>
        let (found, rest) ←
          if String.ofList name = "only_where" then
            if found.isSome then none
            else (readBool? rest).map fun (value, rest) => (some value, rest)
          else (skipValue? rest).map fun rest => (found, rest)
        match skipBlanks rest with
        | ',' :: rest => readMembersIn? found fuel rest
        | '\x7d' :: rest => some ({ filterOnly := found.getD false }, rest)
        | _ => none
      | _ => none
    | _ => none

/-- Reads an object or an array. -/
def readValue? (cs : List Char) : Option (Options × List Char) :=
  match skipBlanks cs with
  | '\x7b' :: rest =>
    match skipBlanks rest with
    | '\x7d' :: rest => some ({}, rest)
    | rest => readMembersIn? none rest.length rest
  | '[' :: rest =>
    match skipBlanks rest with
    | ']' :: rest => some ({}, rest)
    | rest => do
      let (value, rest) ← readBool? rest
      match skipBlanks rest with
      | ']' :: rest => some ({ filterOnly := value }, rest)
      | _ => none
  | _ => none

/-- Reads options from a text that holds nothing else. -/
def ofJson? (text : String) : Option Options := do
  let (options, rest) ← readValue? text.toList
  if (skipBlanks rest).isEmpty then some options else none

end QueryPlan.Options
