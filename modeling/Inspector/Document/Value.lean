import Inspector.Number.Binary

/-!
# Document values

What a document says, whatever its format. Only the kinds of value that a
description can hold are kept apart. All others are one: such a value may stand
where nobody reads it, and nowhere else.
-/

namespace Inspector.Document

open Number

/-- A value of a document. The entries of a table are in document order, and a
format that allows repeated keys keeps the repetitions. -/
inductive Value where
  | null
  | truth (b : Bool)
  | integer (n : Int)
  | real (x : Double)
  | text (s : String)
  | list (values : List Value)
  | table (entries : List (String × Value))
  /-- A date, a time, or a number out of range. -/
  | other

/-- The value of a hexadecimal digit. -/
def hexDigit? (c : Char) : Option Nat :=
  if c.isDigit then some (c.toNat - '0'.toNat)
  else if 'a' ≤ c && c ≤ 'f' then some (c.toNat - 'a'.toNat + 10)
  else if 'A' ≤ c && c ≤ 'F' then some (c.toNat - 'A'.toNat + 10)
  else none

/-- The character of a code point, if it is one of a character. -/
def charOfCode? (code : Nat) : Option Char :=
  if code.isValidChar then some (Char.ofNat code) else none

end Inspector.Document
