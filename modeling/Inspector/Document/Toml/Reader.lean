import Inspector.Document.Toml.Scalar
import Inspector.Document.Toml.Text
import Inspector.Document.Toml.Tree

/-!
# TOML documents

A reader of TOML text. A document is a sequence of lines: headings of tables
and of elements of lists of tables, and keys with their values. Arrays and
tables in braces may span lines and end in a comma; what is in braces may break
the line anywhere but within a key.
-/

namespace Inspector.Document.Toml

/-! ## Values -/

/-- Ends an unquoted value. -/
def endsScalar (c : Char) : Bool :=
  isBlank c || c == '\n' || c == '\r' || c == ',' || c == ']' || c == '}' || c == '#'

/-- The characters of an unquoted value and what follows them. -/
def splitWord (text : List Char) : List Char × List Char :=
  (text.takeWhile fun c => !endsScalar c, text.dropWhile fun c => !endsScalar c)

/-- The characters of an unquoted value and what follows them, where one space
may stand before a digit, as between a date and a time. -/
def splitScalar (text : List Char) : List Char × List Char :=
  match splitWord text with
  | (date, ' ' :: c :: rest) =>
    if c.isDigit then
      let (clock, after) := splitWord (c :: rest)
      (date ++ ' ' :: clock, after)
    else (date, ' ' :: c :: rest)
  | word => word

/-- An unquoted value and what follows it. -/
def readScalar (text : List Char) : Option (Value × List Char) :=
  (scalar? (splitScalar text).1).map fun v => (v, (splitScalar text).2)

/-- How deep arrays and tables in braces may be nested. -/
def deepest : Nat := 80

mutual

/-- A value and what follows it, with at most `fuel` nested calls, and with
`room` for arrays and tables in one another. -/
def readValue : Nat → Nat → List Char → Option (Value × List Char)
  | 0, _, _ => none
  | fuel + 1, room, text =>
    match text, room with
    | '[' :: _, 0 | '{' :: _, 0 => none
    | '[' :: rest, room + 1 =>
      (readElements fuel room rest).map fun (values, after) => (.list values, after)
    | '{' :: rest, room + 1 =>
      (readMembers fuel room [] rest).map fun (entries, after) =>
        (.table (entriesToValues entries), after)
    | '"' :: _, _ | '\'' :: _, _ =>
      (readAnyString text).map fun (s, after) => (.text s, after)
    | _, _ => readScalar text

/-- The elements of an array, to its end. -/
def readElements : Nat → Nat → List Char → Option (List Value × List Char)
  | 0, _, _ => none
  | fuel + 1, room, text =>
    (skipLayout false text).bind fun text =>
      match text with
      | ']' :: after => some ([], after)
      | text =>
        (readValue fuel room text).bind fun (value, rest) =>
          (skipLayout false rest).bind fun rest =>
            match rest with
            | ',' :: rest =>
              (readElements fuel room rest).map fun (values, after) => (value :: values, after)
            | ']' :: after => some ([value], after)
            | _ => none

/-- The members of a table in braces, to its end, after those already read. -/
def readMembers : Nat → Nat → Entries → List Char → Option (Entries × List Char)
  | 0, _, _, _ => none
  | fuel + 1, room, entries, text =>
    (skipLayout false text).bind fun text =>
      match text with
      | '}' :: after => some (entries, after)
      | text =>
        (readMember fuel room entries text).bind fun (entries, rest) =>
          (skipLayout false rest).bind fun rest =>
            match rest with
            | ',' :: rest => readMembers fuel room entries rest
            | '}' :: after => some (entries, after)
            | _ => none

/-- One member of a table in braces, after those already read. -/
def readMember : Nat → Nat → Entries → List Char → Option (Entries × List Char)
  | 0, _, _, _ => none
  | fuel + 1, room, entries, text =>
    (readPath text).bind fun (path, key, rest) =>
      (skipLayout false rest).bind fun rest =>
        match rest with
        | '=' :: rest =>
          (skipLayout false rest).bind fun rest =>
            (readValue fuel room rest).bind fun (value, rest) =>
              (Entries.assign path key value .heading entries).map fun entries => (entries, rest)
        | _ => none

end

/-! ## Lines -/

/-- A document as far as it has been read. -/
structure Progress where
  entries : Entries
  /-- The heading that keys are under. -/
  heading : List String

namespace Progress

/-- Nothing read yet. -/
def start : Progress := ⟨[], []⟩

/-- Takes in the heading of a table. -/
def table (p : Progress) (path : List String) (key : String) : Option Progress :=
  (p.entries.openTable path key).map fun entries => ⟨entries, path ++ [key]⟩

/-- Takes in the heading of an element. -/
def element (p : Progress) (path : List String) (key : String) : Option Progress :=
  (p.entries.openElement path key).map fun entries => ⟨entries, path ++ [key]⟩

/-- Takes in a key and its value. -/
def assign (p : Progress) (path : List String) (key : String) (v : Value) : Option Progress :=
  (p.entries.assignUnder p.heading path key v).map fun entries => { p with entries }

end Progress

/-- Reads one line that is not blank, without its end. -/
def readLine (p : Progress) (text : List Char) : Option (Progress × List Char) :=
  match text with
  | '[' :: '[' :: rest => do
    let (path, key, rest) ← readPath rest
    match rest with
    | ']' :: ']' :: after => return (← p.element path key, after)
    | _ => none
  | '[' :: rest => do
    let (path, key, rest) ← readPath rest
    match rest with
    | ']' :: after => return (← p.table path key, after)
    | _ => none
  | text => do
    let (path, key, rest) ← readPath text
    match rest with
    | '=' :: rest =>
      let (value, after) ← readValue (3 * rest.length + 1) deepest (skipBlanks rest)
      return (← p.assign path key value, after)
    | _ => none

/-- Reads the lines of a document, at most `fuel` of them. -/
def readLines : Nat → Progress → List Char → Option Progress
  | 0, _, _ => none
  | fuel + 1, p, text =>
    match skipLayout false text with
    | none => none
    | some [] => some p
    | some text =>
      (readLine p text).bind fun (p, rest) =>
        (endLine rest).bind fun rest => readLines fuel p rest

/-- A text without a byte order mark. -/
def dropMark : List Char → List Char
  | '\uFEFF' :: rest => rest
  | text => text

/-- The value of a document: its outermost table. -/
def read? (text : String) : Option Value :=
  let chars := dropMark text.toList
  (readLines (chars.length + 1) .start chars).map fun p => .table (entriesToValues p.entries)

end Inspector.Document.Toml
