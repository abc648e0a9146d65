import Inspector.Text.Span

/-!
# White space

The property White_Space.
-/

namespace Inspector.Text

/-- The White_Space code points from `0x80` on. -/
def blankSpans : List Span :=
  [⟨0x0085, 0x0085, 1⟩, ⟨0x00A0, 0x00A0, 1⟩, ⟨0x1680, 0x1680, 1⟩, ⟨0x2000, 0x200A, 1⟩,
   ⟨0x2028, 0x2029, 1⟩, ⟨0x202F, 0x202F, 1⟩, ⟨0x205F, 0x205F, 1⟩, ⟨0x3000, 0x3000, 1⟩]

/-- Has the property White_Space: the space, tab to carriage return, and the
wider spaces and separators. -/
def isBlank (c : Char) : Bool :=
  if isAscii c then c == ' ' || ('\t' ≤ c && c ≤ '\r') else inSpans blankSpans c.toNat

/-- A text without the white space at its end. -/
def trimEnd (text : List Char) : List Char :=
  (text.reverse.dropWhile isBlank).reverse

end Inspector.Text
