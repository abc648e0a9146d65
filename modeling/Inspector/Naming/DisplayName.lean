import Inspector.Text.Blank
import Inspector.Text.Capital
import Inspector.Text.Cased
import Inspector.Text.Numeric

/-!
# Display names

The name under which a field is shown: its identifier without the prefix of a
member (`m_`, `k` before a capital, or `_`), cut into words where the case
changes, at the end of an acronym, before digits, after digits before a
capital, and at underscores.
-/

namespace Inspector.Naming

open Text

/-- A name without its `m_`, if something is left. -/
def dropMemberMark? : List Char → Option (List Char)
  | 'm' :: '_' :: c :: rest => some (c :: rest)
  | _ => none

/-- A name without its `k`, if a capital follows. -/
def dropConstantMark? : List Char → Option (List Char)
  | 'k' :: c :: rest => if isUppercase c then some (c :: rest) else none
  | _ => none

/-- A name without its leading underscore, if something is left. -/
def dropUnderscore? : List Char → Option (List Char)
  | '_' :: c :: rest => some (c :: rest)
  | _ => none

/-- A name without its prefix. At most one prefix is dropped. -/
def stripPrefix (name : List Char) : List Char :=
  (((dropMemberMark? name).or (dropConstantMark? name)).or (dropUnderscore? name)).getD name

/-- Whether a word begins with `c`, between the characters before and after it. -/
def beginsWord (before : Option Char) (c : Char) (after : Option Char) : Bool :=
  match before with
  | none => false
  | some '_' => false
  | some b =>
    (isUppercase c && (isLowercase b || isAsciiDigit b)) ||
      (isUppercase c && isUppercase b && after.any isLowercase) ||
      (isAsciiDigit c && isAlphabetic b)

/-- What has been written (last character first) with a space after it, unless
it ends with one already. -/
def spaced (written : List Char) : List Char :=
  if written.head? = some ' ' then written else ' ' :: written

/-- Writes the words of a name after what has been written, last character
first; `before` is the character before the rest of the name. -/
def writeWords (written : List Char) (before : Option Char) : List Char → List Char
  | [] => written
  | c :: rest =>
    if c = '_' then
      writeWords (if written.isEmpty then written else spaced written) (some c) rest
    else if beginsWord before c rest.head? then
      writeWords (c :: spaced written) (some c) rest
    else
      writeWords (c :: written) (some c) rest

/-- The words of a name with spaces between them. -/
def words (name : List Char) : List Char :=
  (writeWords [] none name).reverse

/-- The display name of a field. -/
def displayName (name : String) : String :=
  String.ofList (capitalize (trimEnd (words (stripPrefix name.toList))))

end Inspector.Naming
