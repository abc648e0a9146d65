/-!
# Spans of code points

A character property that no short rule describes is kept as a table: a list of
spans, each an arithmetic run of code points. The tables of this folder start
at `0x80`; below that every property has a one-line rule of its own, which is
what the predicates ask first.

The tables hold the values of Unicode 17.0.
-/

namespace Inspector.Text

/-- The code points `first`, `first + step`, … up to `last`. -/
structure Span where
  first : Nat
  last : Nat
  step : Nat
deriving DecidableEq

namespace Span

/-- A code point lies in a span when it is between the ends and on the run. -/
def contains (s : Span) (n : Nat) : Bool :=
  s.first ≤ n && n ≤ s.last && (n - s.first) % s.step == 0

end Span

/-- A table has a code point when one of its spans does. -/
def inSpans (table : List Span) (n : Nat) : Bool :=
  table.any (·.contains n)

/-- The code points below `0x80`, for which no table is asked. -/
def isAscii (c : Char) : Bool :=
  c.toNat < 0x80

end Inspector.Text
