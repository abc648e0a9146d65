import Inspector.Document.Value
import Inspector.Number.Numeral

/-!
# JSON documents

A reader of JSON text. It follows the grammar strictly: no byte order mark, no
comments, no trailing commas, no control characters in strings, no lone
surrogates, and nothing but blanks after the value.

Numbers without a fraction and an exponent are integers as long as they fit
into 64 bits. Of every other number at most 64 bits of digits are kept; these
are scaled by a power of ten in double precision, and the answer must be
finite.
-/

namespace Inspector.Document.Json

open Number

/-- A blank between tokens. -/
def isBlank (c : Char) : Bool :=
  c == ' ' || c == '\t' || c == '\n' || c == '\r'

/-- The text after its leading blanks. -/
def skipBlanks : List Char → List Char :=
  List.dropWhile isBlank

/-! ## Strings -/

/-- What a string needs next. -/
inductive Mode where
  /-- A character, an escape or the closing quote. -/
  | plain
  /-- The letter of an escape. -/
  | escape
  /-- Some more hexadecimal digits of a code unit, after a high surrogate or not. -/
  | code (high : Option Nat) (missing value : Nat)
  /-- The backslash of the low surrogate that belongs to a high one. -/
  | low (high : Nat)
  /-- The letter after that backslash. -/
  | lowEscape (high : Nat)

/-- What a code unit leads to: a character, or the wish for a low surrogate. -/
def closeCode (high : Option Nat) (unit : Nat) : Option (Mode × List Char) :=
  match high with
  | none =>
    if 0xD800 ≤ unit && unit ≤ 0xDBFF then some (.low unit, [])
    else (charOfCode? unit).map fun c => (.plain, [c])
  | some h =>
    if 0xDC00 ≤ unit && unit ≤ 0xDFFF then
      (charOfCode? (0x10000 + (h - 0xD800) * 0x400 + (unit - 0xDC00))).map fun c => (.plain, [c])
    else none

/-- The character of a short escape. -/
def shortEscape? : Char → Option Char
  | '"' => some '"'
  | '\\' => some '\\'
  | '/' => some '/'
  | 'b' => some '\x08'
  | 'f' => some '\x0c'
  | 'n' => some '\n'
  | 'r' => some '\r'
  | 't' => some '\t'
  | _ => none

/-- Takes in one character of a string: what is needed next, and what it adds to
the text. -/
def stepString (mode : Mode) (c : Char) : Option (Mode × List Char) :=
  match mode with
  | .plain =>
    if c == '\\' then some (.escape, [])
    else if c.toNat < 0x20 then none
    else some (.plain, [c])
  | .escape =>
    if c == 'u' then some (.code none 4 0, [])
    else (shortEscape? c).map fun escaped => (.plain, [escaped])
  | .code high missing value =>
    (hexDigit? c).bind fun digit =>
      if missing ≤ 1 then closeCode high (16 * value + digit)
      else some (.code high (missing - 1) (16 * value + digit), [])
  | .low high => if c == '\\' then some (.lowEscape high, []) else none
  | .lowEscape high => if c == 'u' then some (.code (some high) 4 0, []) else none

/-- Whether a quote ends a string here. -/
def endsString (mode : Mode) (c : Char) : Bool :=
  match mode with
  | .plain => c == '"'
  | _ => false

/-- The rest of a string and what follows it. -/
def readString (mode : Mode) : List Char → Option (List Char × List Char)
  | [] => none
  | c :: rest =>
    if endsString mode c then some ([], rest)
    else
      (stepString mode c).bind fun (next, added) =>
        (readString next rest).map fun (text, after) => (added ++ text, after)

/-! ## Numbers -/

/-- A number as it is written. -/
structure Numeral where
  negative : Bool
  whole : List Char
  fraction : List Char
  /-- The sign and the digits of the exponent. -/
  exponent : Option (Bool × List Char)

/-- The largest number that significant digits are gathered into. -/
def largestSignificand : Nat := 2 ^ 64 - 1

/-- The largest exponent that can be written. -/
def largestExponent : Nat := 2 ^ 31 - 1

/-- Digits gathered until they do not fit any more: the number so far, how many
digits went into it, and how many were left over. -/
def gather (significand : Nat) : List Char → Nat × Nat × Nat
  | [] => (significand, 0, 0)
  | c :: rest =>
    let grown := 10 * significand + (c.toNat - '0'.toNat)
    if grown ≤ largestSignificand then
      let (final, used, left) := gather grown rest
      (final, used + 1, left)
    else (significand, 0, rest.length + 1)

/-- A power of ten in double precision. -/
def powerOfTen (exponent : Nat) : Double :=
  Decimal.toBinary ⟨1, exponent⟩ false

/-- A significand times a power of ten in double precision: the significand is
rounded, then multiplied or divided by the rounded power, at most `10 ^ 308` at
a time. There is no answer beyond the finite numbers. -/
def scale (significand : Nat) (exponent : Int) : Option Double :=
  let start : Double := .ofInt significand
  if 308 < exponent then
    if significand = 0 then some start else none
  else if 0 ≤ exponent then
    match start.mul (powerOfTen exponent.toNat) with
    | .infinite _ => none
    | product => some product
  else if -308 ≤ exponent then some (start.div (powerOfTen (-exponent).toNat))
  else if -616 ≤ exponent then
    some ((start.div (powerOfTen 308)).div (powerOfTen (-exponent - 308).toNat))
  else some .zero

namespace Numeral

/-- The digits that count and the exponent that goes with them, before the written
exponent is added. -/
def gathered (n : Numeral) : Nat × Int :=
  let (whole, _, wholeLeft) := gather 0 n.whole
  let (significand, used, _) := gather whole n.fraction
  (significand, (wholeLeft : Int) - used)

/-- The number as a double. -/
def real? (n : Numeral) : Option Double :=
  let (significand, shift) := n.gathered
  let magnitude :=
    match n.exponent with
    | none => scale significand shift
    | some (down, digits) =>
      let exponent := digitsValue digits
      if largestExponent < exponent then
        if significand ≠ 0 && !down then none else some .zero
      else scale significand (if down then shift - exponent else shift + exponent)
  magnitude.map (·.withSign n.negative)

/-- The number as an integer, if it is written as one and fits. Minus zero is not
an integer. -/
def integer? (n : Numeral) : Option Int :=
  let value := digitsValue n.whole
  if !n.fraction.isEmpty || n.exponent.isSome then none
  else if n.negative then
    if 0 < value && value ≤ 2 ^ 63 then some (-(value : Int)) else none
  else if value ≤ largestSignificand then some value
  else none

/-- The value of a number. -/
def value? (n : Numeral) : Option Value :=
  match n.integer? with
  | some value => some (.integer value)
  | none => n.real?.map .real

end Numeral

/-- The digits at the start of a text, at least one, and what follows. -/
def readDigits (text : List Char) : Option (List Char × List Char) :=
  let digits := text.takeWhile Char.isDigit
  if digits.isEmpty then none else some (digits, text.dropWhile Char.isDigit)

/-- The whole part of a number: no zero before other digits. -/
def readWhole (text : List Char) : Option (List Char × List Char) :=
  (readDigits text).bind fun (digits, rest) =>
    match digits with
    | '0' :: _ :: _ => none
    | _ => some (digits, rest)

/-- The fraction of a number, if it has one. -/
def readFraction : List Char → Option (List Char × List Char)
  | '.' :: rest => readDigits rest
  | rest => some ([], rest)

/-- The sign of an exponent: whether it is negative, and what follows. -/
def readSign : List Char → Bool × List Char
  | '-' :: rest => (true, rest)
  | '+' :: rest => (false, rest)
  | rest => (false, rest)

/-- The exponent of a number, if it has one. -/
def readExponent : List Char → Option (Option (Bool × List Char) × List Char)
  | 'e' :: rest | 'E' :: rest =>
    (readDigits (readSign rest).2).map fun (digits, after) =>
      (some ((readSign rest).1, digits), after)
  | rest => some (none, rest)

/-- A number and what follows it. -/
def readNumber (text : List Char) : Option (Value × List Char) := do
  let (negative, unsigned) :=
    match text with
    | '-' :: rest => (true, rest)
    | rest => (false, rest)
  let (whole, rest) ← readWhole unsigned
  let (fraction, rest) ← readFraction rest
  let (exponent, rest) ← readExponent rest
  let value ← Numeral.value? ⟨negative, whole, fraction, exponent⟩
  return (value, rest)

/-! ## Values -/

mutual

/-- A value and what follows it, with at most `fuel` nested calls. -/
def readValue : Nat → List Char → Option (Value × List Char)
  | 0, _ => none
  | fuel + 1, text =>
    match skipBlanks text with
    | '"' :: rest => (readString .plain rest).map fun (s, after) => (.text (String.ofList s), after)
    | '[' :: rest =>
      match skipBlanks rest with
      | ']' :: after => some (.list [], after)
      | rest => (readElements fuel rest).map fun (values, after) => (.list values, after)
    | '{' :: rest =>
      match skipBlanks rest with
      | '}' :: after => some (.table [], after)
      | rest => (readMembers fuel rest).map fun (entries, after) => (.table entries, after)
    | 'n' :: 'u' :: 'l' :: 'l' :: rest => some (.null, rest)
    | 't' :: 'r' :: 'u' :: 'e' :: rest => some (.truth true, rest)
    | 'f' :: 'a' :: 'l' :: 's' :: 'e' :: rest => some (.truth false, rest)
    | rest => readNumber rest

/-- The elements of an array, to its end. -/
def readElements : Nat → List Char → Option (List Value × List Char)
  | 0, _ => none
  | fuel + 1, text =>
    (readValue fuel text).bind fun (value, rest) =>
      match skipBlanks rest with
      | ',' :: rest => (readElements fuel rest).map fun (values, after) => (value :: values, after)
      | ']' :: after => some ([value], after)
      | _ => none

/-- The members of an object, to its end. -/
def readMembers : Nat → List Char → Option (List (String × Value) × List Char)
  | 0, _ => none
  | fuel + 1, text =>
    match skipBlanks text with
    | '"' :: rest =>
      (readString .plain rest).bind fun (key, rest) =>
        match skipBlanks rest with
        | ':' :: rest =>
          (readValue fuel rest).bind fun (value, rest) =>
            let entry := (String.ofList key, value)
            match skipBlanks rest with
            | ',' :: rest =>
              (readMembers fuel rest).map fun (entries, after) => (entry :: entries, after)
            | '}' :: after => some ([entry], after)
            | _ => none
        | _ => none
    | _ => none

end

/-- The value of a document. Every second nested call takes in a character, so
twice the length of the text bounds them. -/
def read? (text : String) : Option Value :=
  let chars := text.toList
  match readValue (2 * chars.length + 1) chars with
  | some (value, rest) => if (skipBlanks rest).isEmpty then some value else none
  | none => none

end Inspector.Document.Json
