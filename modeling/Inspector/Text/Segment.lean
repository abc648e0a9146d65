/-!
# Segments

Texts that are cut at a separator: dotted names, and paths. Cutting keeps empty
segments, so that `List.intercalate` is its inverse, and gives at least one
segment, so that a text without the separator is its own last segment.
-/

namespace Inspector.Text

/-- The pieces of a text between its separators. -/
def segments (separator : Char) : List Char → List (List Char)
  | [] => [[]]
  | c :: rest =>
    if c = separator then [] :: segments separator rest
    else
      match segments separator rest with
      | [] => [[c]]
      | piece :: pieces => (c :: piece) :: pieces

/-- What follows the last separator, or the whole text if there is none. -/
def lastSegment (separator : Char) (text : List Char) : List Char :=
  (segments separator text).getLastD []

end Inspector.Text
