import Inspector.Document.Json
import Inspector.Document.Toml.Reader

/-!
# Document formats

The two formats of description files. They are told apart by the extension of
the file: `json`, in letters of any case, is one, and everything else the other.
-/

namespace Inspector.Document

/-- The format of a document. -/
inductive Format where
  | toml
  | json
deriving DecidableEq

namespace Format

/-- The format that goes with the extension of a file. -/
def ofExtension : Option String → Format
  | some text => if text.map Char.toLower = "json" then json else toml
  | none => toml

/-- The value of a document. -/
def read? : Format → String → Option Value
  | toml, text => Toml.read? text
  | json, text => Json.read? text

/-- How a format says that there is nothing to say. -/
def isUnit : Format → Value → Bool
  | json, .null => true
  | toml, .table [] => true
  | toml, .list [] => true
  | _, _ => false

/-- Whether a list that stands for a structure may go on after the last of its
members. What follows there is not read. -/
def ignoresSurplus : Format → Bool
  | toml => true
  | json => false

end Format

end Inspector.Document
