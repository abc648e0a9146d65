import Inspector.Document.Toml.Moment
import Inspector.Document.Value
import Inspector.Number.Numeral
import Inspector.Text.Segment

/-!
# Unquoted values of a TOML document

Integers in four bases, floats, the two truth values, and moments. Underscores
may stand between digits. Integers reach from the least signed to the largest
unsigned number of 64 bits, and a float with digits is finite: a number beyond
that is well written, but of no use to a description, as a moment is.
-/

namespace Inspector.Document.Toml

open Number

/-- Digits without the underscores between them: each piece between underscores
has some digit and nothing else. -/
def ungroup? (isDigit : Char → Bool) (text : List Char) : Option (List Char) :=
  let pieces := Text.segments '_' text
  if pieces.all fun piece => !piece.isEmpty && piece.all isDigit then some pieces.flatten else none

/-- Decimal digits that do not begin with a zero, zero itself excepted. -/
def wholeDigits? (text : List Char) : Option (List Char) :=
  (ungroup? Char.isDigit text).bind fun digits =>
    match digits with
    | '0' :: _ :: _ => none
    | _ => some digits

/-- The value of digits of a base. -/
def valueInBase (base : Nat) (digits : List Char) : Nat :=
  digits.foldl (fun value c => base * value + (hexDigit? c).getD 0) 0

/-- Whether a character is a digit of a base. -/
def isDigitOf (base : Nat) (c : Char) : Bool :=
  match hexDigit? c with
  | some digit => digit < base
  | none => false

/-- An integer, if it fits. -/
def integerValue (n : Int) : Value :=
  if -2 ^ 63 ≤ n && n < 2 ^ 64 then .integer n else .other

/-- A float, if it is finite. -/
def realValue (x : Double) : Value :=
  match x with
  | .infinite _ => .other
  | x => .real x

/-- An integer with the digits of a base. -/
def integerInBase? (base : Nat) (text : List Char) : Option Value :=
  (ungroup? (isDigitOf base) text).map fun digits => integerValue (valueInBase base digits)

/-- A decimal integer after its sign. -/
def decimalInteger? (negative : Bool) (text : List Char) : Option Value :=
  (wholeDigits? text).map fun digits =>
    integerValue (if negative then -(digitsValue digits : Int) else digitsValue digits)

/-- The sign at the start of a text, and the rest. -/
def splitSign : List Char → Bool × List Char
  | '-' :: rest => (true, rest)
  | '+' :: rest => (false, rest)
  | rest => (false, rest)

/-- The exponent of a float, if a text is one. -/
def exponent? (text : List Char) : Option Int :=
  (ungroup? Char.isDigit (splitSign text).2).map fun digits =>
    if (splitSign text).1 then -(digitsValue digits : Int) else digitsValue digits

/-- Whole part and fraction of a float, of which the fraction may be missing. -/
def mantissa? (text : List Char) : Option (List Char × Option (List Char)) :=
  match Text.segments '.' text with
  | [whole] => (wholeDigits? whole).map fun digits => (digits, none)
  | [whole, fraction] => do
    return (← wholeDigits? whole, some (← ungroup? Char.isDigit fraction))
  | _ => none

/-- A float after its sign, with a fraction or an exponent or both. -/
def decimalFloat? (negative : Bool) (text : List Char) : Option Value :=
  match Text.segments 'e' (text.map fun c => if c == 'E' then 'e' else c) with
  | [mantissa] =>
    match mantissa? mantissa with
    | some (whole, some fraction) =>
      some (realValue ((Decimal.ofParts whole fraction 0).toBinary negative))
    | _ => none
  | [mantissa, power] => do
    let (whole, fraction) ← mantissa? mantissa
    let d := Decimal.ofParts whole (fraction.getD []) (← exponent? power)
    return realValue (d.toBinary negative)
  | _ => none

/-- A number after its sign. -/
def unsigned? (negative : Bool) (text : List Char) : Option Value :=
  if text = "inf".toList then some (.real (.infinite negative))
  else if text = "nan".toList then some (.real .nan)
  else (decimalInteger? negative text).or (decimalFloat? negative text)

/-- The value of an unquoted text. -/
def scalar? (text : List Char) : Option Value :=
  match text with
  | '0' :: 'x' :: digits => integerInBase? 16 digits
  | '0' :: 'o' :: digits => integerInBase? 8 digits
  | '0' :: 'b' :: digits => integerInBase? 2 digits
  | text =>
    if text = "true".toList then some (.truth true)
    else if text = "false".toList then some (.truth false)
    else if isMoment text then some .other
    else unsigned? (splitSign text).1 (splitSign text).2

end Inspector.Document.Toml
