import Inspector.Number.Notation

/-!
# Reading decimal numerals

Digits, a point with digits and an exponent, each of the last two optional.
The reader returns the decimal it saw; what is allowed around it (signs,
leading zeros, separators) is for the grammar that uses it.
-/

namespace Inspector.Number

/-- The value of a run of decimal digits. -/
def digitsValue (digits : List Char) : Nat :=
  Nat.ofDigitChars 10 digits 0

/-- An exponent: a sign if there is one, and digits. -/
def readExponent? : List Char → Option Int
  | '-' :: digits => if digits.isEmpty || !digits.all Char.isDigit then none
      else some (-(digitsValue digits : Int))
  | '+' :: digits => if digits.isEmpty || !digits.all Char.isDigit then none
      else some (digitsValue digits)
  | digits => if digits.isEmpty || !digits.all Char.isDigit then none
      else some (digitsValue digits)

namespace Decimal

/-- The decimal of a whole part, a fraction and an exponent. -/
def ofParts (whole fraction : List Char) (exponent : Int) : Decimal :=
  ⟨digitsValue (whole ++ fraction), exponent - fraction.length⟩

/-- An unsigned numeral: digits before or after the point, or both, and an
exponent after `e` or `E`. -/
def read? (text : List Char) : Option Decimal :=
  let whole := text.takeWhile Char.isDigit
  let afterWhole := text.dropWhile Char.isDigit
  let (fraction, afterFraction) :=
    match afterWhole with
    | '.' :: rest => (rest.takeWhile Char.isDigit, rest.dropWhile Char.isDigit)
    | rest => ([], rest)
  if whole.isEmpty && fraction.isEmpty then none
  else
    match afterFraction with
    | [] => some (ofParts whole fraction 0)
    | e :: rest =>
      if e == 'e' || e == 'E' then (readExponent? rest).map (ofParts whole fraction) else none

end Decimal

namespace Binary

variable {F : Format}

/-- An unsigned number: a numeral, `inf` or `NaN`. -/
def readMagnitude? (negative : Bool) (text : List Char) : Option (Binary F) :=
  if text = "NaN".toList then some nan
  else if text = "inf".toList then some (infinite negative)
  else (Decimal.read? text).map (·.toBinary negative)

/-- The nearest number to a numeral with an optional sign. -/
def read? : List Char → Option (Binary F)
  | '-' :: rest => readMagnitude? true rest
  | '+' :: rest => readMagnitude? false rest
  | text => readMagnitude? false text

end Binary

end Inspector.Number
