import Inspector.Document.Value
import Inspector.Text.Segment

/-!
# The texts of a TOML document

Blanks, comments, the four kinds of string, and keys. Each reader takes in what
it names from the front of a text and gives the rest.
-/

namespace Inspector.Document.Toml

/-! ## Blanks and comments -/

/-- A blank within a line. -/
def isBlank (c : Char) : Bool :=
  c == ' ' || c == '\t'

/-- The text after its leading blanks. -/
def skipBlanks : List Char → List Char :=
  List.dropWhile isBlank

/-- A character that may stand unescaped in comments and strings: no control
character but the tab. -/
def isPlain (c : Char) : Bool :=
  c == '\t' || (0x20 ≤ c.toNat && c.toNat ≠ 0x7F)

/-- What follows a line break. -/
def newline? : List Char → Option (List Char)
  | '\n' :: rest => some rest
  | '\r' :: '\n' :: rest => some rest
  | _ => none

/-- The line break or the end of the text after a comment. -/
def skipComment : List Char → Option (List Char)
  | [] => some []
  | '\n' :: rest => some ('\n' :: rest)
  | '\r' :: '\n' :: rest => some ('\n' :: rest)
  | c :: rest => if isPlain c then skipComment rest else none

/-- The next line, after blanks and perhaps a comment. -/
def endLine (text : List Char) : Option (List Char) :=
  let afterComment :=
    match skipBlanks text with
    | '#' :: rest => skipComment rest
    | rest => some rest
  afterComment.bind fun rest =>
    if rest.isEmpty then some [] else newline? rest

/-- The text after blanks, line breaks and comments. -/
def skipLayout (inComment : Bool) : List Char → Option (List Char)
  | [] => some []
  | '\n' :: rest => skipLayout false rest
  | '\r' :: '\n' :: rest => skipLayout false rest
  | c :: rest =>
    if inComment then if isPlain c then skipLayout true rest else none
    else if isBlank c then skipLayout false rest
    else if c == '#' then skipLayout true rest
    else some (c :: rest)

/-! ## Strings -/

/-- The four kinds of string. -/
inductive StringKind where
  | basic
  | literal
  | longBasic
  | longLiteral
deriving DecidableEq

namespace StringKind

/-- The character that a string is quoted with. -/
def quote : StringKind → Char
  | basic | longBasic => '"'
  | literal | longLiteral => '\''

/-- Whether a string is in three quotes and may hold line breaks. -/
def isLong : StringKind → Bool
  | longBasic | longLiteral => true
  | basic | literal => false

/-- Whether a string has escapes. -/
def hasEscapes : StringKind → Bool
  | basic | longBasic => true
  | literal | longLiteral => false

end StringKind

/-- What a string needs next. -/
inductive Mode where
  /-- A character, an escape or a closing quote. -/
  | plain
  /-- The letter of an escape. -/
  | escape
  /-- Some more hexadecimal digits of a code point. -/
  | code (missing value : Nat)
  /-- The line break after a backslash and blanks. -/
  | lineEnd
  /-- Something that is not a blank or line break, after a line break that a
  backslash has taken away. -/
  | margin
  /-- More quotes after some, in a long string. -/
  | quotes (seen : Nat)

/-- The character of a short escape. -/
def shortEscape? : Char → Option Char
  | '"' => some '"'
  | '\\' => some '\\'
  | 'b' => some '\x08'
  | 'e' => some '\x1b'
  | 'f' => some '\x0c'
  | 'n' => some '\n'
  | 'r' => some '\r'
  | 't' => some '\t'
  | _ => none

/-- What the letter after a backslash leads to. -/
def stepEscape (kind : StringKind) (c : Char) : Option (Mode × List Char) :=
  if c == 'x' then some (.code 2 0, [])
  else if c == 'u' then some (.code 4 0, [])
  else if c == 'U' then some (.code 8 0, [])
  else if kind.isLong && (isBlank c || c == '\r') then some (.lineEnd, [])
  else if kind.isLong && c == '\n' then some (.margin, [])
  else (shortEscape? c).map fun escaped => (.plain, [escaped])

/-- Takes in a character that is neither part of an escape nor a quote. -/
def stepPlain (kind : StringKind) (c : Char) : Option (Mode × List Char) :=
  if kind.hasEscapes && c == '\\' then some (.escape, [])
  else if isPlain c || (kind.isLong && (c == '\n' || c == '\r')) then some (.plain, [c])
  else none

/-- Takes in a character that is no quote of the string: what is needed next, and
what it adds to the text. -/
def stepString (kind : StringKind) (mode : Mode) (c : Char) : Option (Mode × List Char) :=
  match mode with
  | .plain => stepPlain kind c
  | .escape => stepEscape kind c
  | .code missing value =>
    (hexDigit? c).bind fun digit =>
      if missing ≤ 1 then (charOfCode? (16 * value + digit)).map fun c => (.plain, [c])
      else some (.code (missing - 1) (16 * value + digit), [])
  | .lineEnd =>
    if isBlank c || c == '\r' then some (.lineEnd, [])
    else if c == '\n' then some (.margin, []) else none
  | .margin =>
    if isBlank c || c == '\n' || c == '\r' then some (.margin, []) else stepPlain kind c
  | .quotes seen =>
    (stepPlain kind c).map fun (next, added) => (next, List.replicate seen kind.quote ++ added)

/-- Whether quotes count here: not inside an escape. -/
def Mode.allowsQuote : Mode → Bool
  | plain | margin | quotes _ => true
  | escape | code .. | lineEnd => false

/-- How many quotes have just been seen. -/
def Mode.quotesSeen : Mode → Nat
  | quotes seen => seen
  | _ => 0

/-- Whether a character may stand before a text: a carriage return only before a
line feed. -/
def mayPrecede : Char → List Char → Bool
  | '\r', '\n' :: _ => true
  | '\r', _ => false
  | _, _ => true

/-- The rest of a string and what follows it. A long string ends with its third
quote in a row, but up to two more belong to the text. -/
def readString (kind : StringKind) (mode : Mode) : List Char → Option (List Char × List Char)
  | [] => none
  | c :: rest =>
    if c == kind.quote && mode.allowsQuote then
      if !kind.isLong then some ([], rest)
      else if mode.quotesSeen < 2 then readString kind (.quotes (mode.quotesSeen + 1)) rest
      else if mode.quotesSeen < 4 && rest.head? = some kind.quote then
        readString kind (.quotes (mode.quotesSeen + 1)) rest
      else some (List.replicate (mode.quotesSeen - 2) kind.quote, rest)
    else if mayPrecede c rest then
      (stepString kind mode c).bind fun (next, added) =>
        (readString kind next rest).map fun (text, after) => (added ++ text, after)
    else none

/-- A text without its first line break. -/
def dropNewline (text : List Char) : List Char :=
  (newline? text).getD text

/-- The text of a string after its opening quotes, and what follows it. A long
string does not begin with a line break. -/
def readText (kind : StringKind) (text : List Char) : Option (String × List Char) :=
  (readString kind .plain (if kind.isLong then dropNewline text else text)).map
    fun (s, rest) => (String.ofList s, rest)

/-- A string of any kind and what follows it. -/
def readAnyString : List Char → Option (String × List Char)
  | '"' :: '"' :: '"' :: rest => readText .longBasic rest
  | '\'' :: '\'' :: '\'' :: rest => readText .longLiteral rest
  | '"' :: rest => readText .basic rest
  | '\'' :: rest => readText .literal rest
  | _ => none

/-! ## Keys -/

/-- A character of a bare key. -/
def isBareKey (c : Char) : Bool :=
  c.isAlphanum || c == '_' || c == '-'

/-- One key and what follows it. -/
def readKey : List Char → Option (String × List Char)
  | '"' :: rest => readText .basic rest
  | '\'' :: rest => readText .literal rest
  | text =>
    let key := text.takeWhile isBareKey
    if key.isEmpty then none else some (String.ofList key, text.dropWhile isBareKey)

/-- Keys with dots between them, with at most `fuel` dots. -/
def readKeysWithin : Nat → List Char → Option (List String × List Char)
  | 0, _ => none
  | fuel + 1, text =>
    (readKey (skipBlanks text)).bind fun (key, rest) =>
      match skipBlanks rest with
      | '.' :: rest => (readKeysWithin fuel rest).map fun (keys, after) => (key :: keys, after)
      | rest => some ([key], rest)

/-- Keys with dots between them, the last one apart, and what follows. -/
def readPath (text : List Char) : Option (List String × String × List Char) :=
  (readKeysWithin (text.length + 1) text).bind fun (keys, rest) =>
    keys.getLast?.map fun last => (keys.dropLast, last, rest)

end Inspector.Document.Toml
