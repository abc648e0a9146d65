import Inspector.Text.Printable

/-!
# Quoted text

The form in which messages for people quote a text that may hold anything: in
double quotes, with a backslash before quotes and backslashes, short escapes
for the four common controls, and the code point in hexadecimal for whatever
would not show by itself.
-/

namespace Inspector.Text

/-- The hexadecimal digits of a number. -/
def hexDigits (n : Nat) : List Char :=
  Nat.toDigits 16 n

/-- A code point in braces after `\u`. -/
def escapeCodePoint (c : Char) : List Char :=
  '\\' :: 'u' :: '{' :: hexDigits c.toNat ++ ['}']

/-- A character as it stands inside a quoted text. -/
def escapeQuoted (c : Char) : List Char :=
  match c with
  | '\x00' => ['\\', '0']
  | '\t' => ['\\', 't']
  | '\r' => ['\\', 'r']
  | '\n' => ['\\', 'n']
  | '"' => ['\\', '"']
  | '\\' => ['\\', '\\']
  | c => if isExtending c || !isPrintable c then escapeCodePoint c else [c]

/-- A text in quotes. -/
def quoted (text : String) : String :=
  String.ofList ('"' :: text.toList.flatMap escapeQuoted ++ ['"'])

/-- A character of a message line on a terminal: the controls that a terminal
obeys are spelled out, line breaks and tabs excepted. -/
def escapeTerminal (c : Char) : List Char :=
  match c with
  | '\x1b' => "\\x1b".toList
  | '\x07' => "\\x07".toList
  | '\x08' => "\\x08".toList
  | '\x0c' => "\\x0c".toList
  | '\x7f' => "\\x7f".toList
  | c => if 0x80 ≤ c.toNat && c.toNat ≤ 0x9F then escapeCodePoint c else [c]

/-- A text that may be sent to a terminal. -/
def forTerminal (text : String) : String :=
  String.ofList (text.toList.flatMap escapeTerminal)

end Inspector.Text
