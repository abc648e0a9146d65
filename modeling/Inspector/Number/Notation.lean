import Inspector.Number.Shortest

/-!
# Numbers as text

A layout says how the digits of a shortest decimal are set: which magnitudes
are written out and which with an exponent, and what marks a whole number.
-/

namespace Inspector.Number

/-- The decisions of a format for floating-point text. -/
structure Layout where
  /-- Numbers whose leading digit stands at or above `10 ^ upper` are written with
  an exponent. -/
  upper : Option Int
  /-- So are those whose leading digit stands below `10 ^ lower`. -/
  lower : Option Int
  /-- What follows the digits of a whole number that is written out. -/
  wholeMark : String

namespace Layout

/-- Numbers in source text and in messages for people: always written out. -/
def plain : Layout := ⟨none, none, ""⟩

/-- Numbers in diagnostics: recognisable as floating-point numbers, and short
for very large and very small ones. -/
def marked : Layout := ⟨some 16, some (-4), ".0"⟩

/-- A decimal is written out when its leading digit is within the limits. -/
def writesOut (l : Layout) (d : Decimal) : Bool :=
  d.coefficient = 0 ||
    ((l.upper.all fun limit => d.leading < limit) && l.lower.all fun limit => limit ≤ d.leading)

end Layout

namespace Decimal

/-- The digits with the point where it belongs, and zeros up to it. -/
def writtenOut (d : Decimal) (wholeMark : String) : List Char :=
  if 0 ≤ d.exponent then
    d.digits ++ List.replicate d.exponent.toNat '0' ++ wholeMark.toList
  else
    let places := (-d.exponent).toNat
    let padded := List.replicate (places + 1 - d.digits.length) '0' ++ d.digits
    padded.take (padded.length - places) ++ '.' :: padded.drop (padded.length - places)

/-- One digit, the others after a point, and the power of ten. -/
def withExponent (d : Decimal) : List Char :=
  match d.digits with
  | first :: second :: rest => first :: '.' :: second :: rest ++ 'e' :: d.leading.repr.toList
  | few => few ++ 'e' :: d.leading.repr.toList

/-- The text of a decimal in a layout. -/
def text (d : Decimal) (l : Layout) : List Char :=
  if l.writesOut d then d.writtenOut l.wholeMark else d.withExponent

end Decimal

namespace Binary

variable {F : Format}

/-- A sign if there is one to show. -/
def signText (negative : Bool) : List Char :=
  if negative then ['-'] else []

/-- The text of a number in a layout. -/
def text (l : Layout) : Binary F → List Char
  | nan => "NaN".toList
  | infinite negative => signText negative ++ "inf".toList
  | finite negative rank => signText negative ++ (F.shortest rank).text l

end Binary

end Inspector.Number
