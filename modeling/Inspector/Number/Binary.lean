/-!
# Binary floating-point numbers

A number of a binary format is data: not a number, an infinity of either sign,
or a sign and a RANK. The ranks count the magnitudes of the format from zero
upwards without gaps, so that order on magnitudes is order on ranks and the
neighbour of a magnitude is one rank away. What a rank stands for is told in
whole multiples of the least positive magnitude of the format (its UNITS),
which every magnitude is: no fraction and no machine number occurs here.

Rounding is one function, `Binary.ofRatio`: the nearest number to a quotient of
two naturals, and of two equally near the one with the even rank.
-/

namespace Inspector.Number

-- The powers of numbers are those of the core library, whatever else a module imports.
attribute [instance (high), default_instance 10001] instPowNat

/-- A binary format. Magnitudes below `2 ^ (fractionBits + 1)` units lie one
unit apart; above, each doubling of the magnitude doubles the distance. -/
structure Format where
  /-- The bits of a significand after its leading one. -/
  fractionBits : Nat
  /-- The least positive magnitude is `2 ^ -scale`. -/
  scale : Nat
  /-- The number of finite magnitudes, zero included. -/
  finiteCount : Nat

namespace Format

/-- The format of 32 bits. -/
def single : Format := ⟨23, 149, 255 * 2 ^ 23⟩

/-- The format of 64 bits. -/
def double : Format := ⟨52, 1074, 2047 * 2 ^ 52⟩

/-- How often the distance between neighbours has doubled below a rank. -/
def doublings (F : Format) (rank : Nat) : Nat :=
  rank / 2 ^ F.fractionBits - 1

/-- The magnitude of a rank, in units. -/
def units (F : Format) (rank : Nat) : Nat :=
  (rank - F.doublings rank * 2 ^ F.fractionBits) * 2 ^ F.doublings rank

/-- No finite magnitude reaches `2 ^ ceiling`. -/
def ceiling (F : Format) : Nat :=
  F.finiteCount / 2 ^ F.fractionBits - 1 + F.fractionBits - F.scale

end Format

/-- The natural number nearest to `num / den`; halfway, the even neighbour. -/
def roundHalfEven (num den : Nat) : Nat :=
  let quotient := num / den
  let twice := 2 * (num % den)
  if twice < den then quotient
  else if den < twice then quotient + 1
  else quotient + quotient % 2

/-- The rank nearest to `num / den` of a format without an upper end: the
quotient in units is rounded on the grid of its own doubling, and a carry into
the next doubling is the next rank all the same. -/
def Format.nearestRank (F : Format) (num den : Nat) : Nat :=
  let units := num * 2 ^ F.scale
  let doublings := (units / den).log2 - F.fractionBits
  doublings * 2 ^ F.fractionBits + roundHalfEven units (den * 2 ^ doublings)

/-- A number of a binary format. -/
inductive Binary (F : Format) where
  | nan
  | infinite (negative : Bool)
  | finite (negative : Bool) (rank : Fin F.finiteCount)
deriving DecidableEq

/-- Numbers of 32 bits: what descriptions and literals hold. -/
abbrev Single := Binary .single

/-- Numbers of 64 bits: what documents and diagnostics hold. -/
abbrev Double := Binary .double

namespace Binary

variable {F : Format}

/-- A rank with its sign, infinite when it is beyond the finite ones. -/
def ofRank (negative : Bool) (rank : Nat) : Binary F :=
  if h : rank < F.finiteCount then finite negative ⟨rank, h⟩ else infinite negative

/-- The number nearest to `num / den` with the given sign. -/
def ofRatio (negative : Bool) (num den : Nat) : Binary F :=
  ofRank negative (F.nearestRank num den)

/-- The number nearest to an integer. -/
def ofInt (n : Int) : Binary F :=
  ofRatio (n < 0) n.natAbs 1

/-- The place of a number on the line of all numbers but not-a-number. Both
zeros have the same place. -/
def position : Binary F → Option Int
  | nan => none
  | infinite negative => some (if negative then -F.finiteCount else F.finiteCount)
  | finite negative rank => some (if negative then -rank else rank)

/-- The order of numbers, in which not-a-number takes no part. -/
def lt (x y : Binary F) : Bool :=
  match x.position, y.position with
  | some a, some b => a < b
  | _, _ => false

/-- Numerical equality: both zeros are equal, and not-a-number equals nothing. -/
def same (x y : Binary F) : Bool :=
  match x.position, y.position with
  | some a, some b => a == b
  | _, _ => false

/-- The nearest number of another format. -/
def convert {G : Format} : Binary F → Binary G
  | nan => nan
  | infinite negative => infinite negative
  | finite negative rank => ofRatio negative (F.units rank) (2 ^ F.scale)

/-- The integer part toward zero, held between two limits; zero for
not-a-number. -/
def truncate (low high : Int) : Binary F → Int
  | nan => 0
  | infinite negative => if negative then low else high
  | finite negative rank =>
    let whole : Int := F.units rank / 2 ^ F.scale
    max low (min high (if negative then -whole else whole))

/-- The product, rounded once. -/
def mul : Binary F → Binary F → Binary F
  | finite s a, finite t b => ofRatio (s != t) (F.units a * F.units b) (2 ^ (2 * F.scale))
  | infinite s, infinite t => infinite (s != t)
  | infinite s, finite t b => if b.val = 0 then nan else infinite (s != t)
  | finite s a, infinite t => if a.val = 0 then nan else infinite (s != t)
  | _, _ => nan

/-- The quotient, rounded once. -/
def div : Binary F → Binary F → Binary F
  | finite s a, finite t b =>
    if b.val = 0 then (if a.val = 0 then nan else infinite (s != t))
    else ofRatio (s != t) (F.units a) (F.units b)
  | infinite s, finite t _ => infinite (s != t)
  | finite s _, infinite t => ofRank (s != t) 0
  | _, _ => nan

/-- The positive zero. -/
def zero : Binary F := ofRank false 0

/-- The same magnitude with the sign given. -/
def withSign (negative : Bool) : Binary F → Binary F
  | nan => nan
  | infinite _ => infinite negative
  | finite _ rank => finite negative rank

end Binary

end Inspector.Number
