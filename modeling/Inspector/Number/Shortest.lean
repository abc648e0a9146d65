import Inspector.Number.Binary

/-!
# The shortest decimal of a number

Of all decimals that round to a number, the one with the fewest digits, and of
those the nearest to it; of two equally near the upper one. The grids of
decimals are searched from the coarsest that can matter to the finest that can
be needed, on which the number itself lies, so the search never comes back
empty-handed.
-/

namespace Inspector.Number

/-- The decimal `coefficient * 10 ^ exponent`. -/
structure Decimal where
  coefficient : Nat
  exponent : Int
deriving DecidableEq

namespace Decimal

/-- The value as a quotient of two naturals. -/
def ratio (d : Decimal) : Nat × Nat :=
  (d.coefficient * 10 ^ d.exponent.toNat, 10 ^ (-d.exponent).toNat)

/-- The rank of a format nearest to a decimal. -/
def nearestRank (d : Decimal) (F : Format) : Nat :=
  F.nearestRank d.ratio.1 d.ratio.2

/-- The digits of the coefficient. -/
def digits (d : Decimal) : List Char :=
  Nat.toDigits 10 d.coefficient

/-- Where the first digit stands: the decimal is at least `10 ^ leading` and less
than ten times that, zero excepted. -/
def leading (d : Decimal) : Int :=
  d.exponent + d.digits.length - 1

/-- The nearest number to a decimal. Decimals that are out of the reach of the
format are settled by their leading digit alone: the power of ten they would
be compared with may be too large to write down. -/
def toBinary {F : Format} (d : Decimal) (negative : Bool) : Binary F :=
  if d.coefficient = 0 then .ofRank negative 0
  else if F.ceiling ≤ d.leading then .infinite negative
  else if d.leading + 1 < -F.scale then .ofRank negative 0
  else .ofRank negative (d.nearestRank F)

end Decimal

namespace Format

/-- The decimal at `exponent` just below a magnitude. -/
def floorAt (F : Format) (rank : Nat) (exponent : Int) : Decimal :=
  let num := F.units rank * 10 ^ (-exponent).toNat
  let den := 2 ^ F.scale * 10 ^ exponent.toNat
  ⟨num / den, exponent⟩

/-- On one grid, the nearer of the two neighbours of a magnitude that round to
it. -/
def shortestAt? (F : Format) (rank : Nat) (exponent : Int) : Option Decimal :=
  let below := F.floorAt rank exponent
  let above : Decimal := ⟨below.coefficient + 1, exponent⟩
  match below.nearestRank F == rank, above.nearestRank F == rank with
  | true, true =>
    let num := F.units rank * 10 ^ (-exponent).toNat
    let den := 2 ^ F.scale * 10 ^ exponent.toNat
    if 2 * (num % den) < den then some below else some above
  | true, false => some below
  | false, true => some above
  | false, false => none

/-- The first grid that answers, `steps` grids above the finest one. -/
def searchFrom (F : Format) (rank : Nat) : Nat → Decimal
  | 0 => F.floorAt rank (-F.scale)
  | steps + 1 =>
    (F.shortestAt? rank (steps + 1 - F.scale)).getD (F.searchFrom rank steps)

/-- The shortest decimal that rounds to the magnitude of a rank. The coarsest
grid is that of a power of ten above the magnitude. -/
def shortest (F : Format) (rank : Nat) : Decimal :=
  if rank = 0 then ⟨0, 0⟩
  else F.searchFrom rank ((Nat.toDigits 10 (F.units rank / 2 ^ F.scale)).length + F.scale)

end Format

end Inspector.Number
