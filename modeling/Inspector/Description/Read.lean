import Inspector.Description.Entry
import Inspector.Document.Format

/-!
# Reading descriptions

A description is read from the value of a document. Each of its structures is a
table with known keys, none of them twice, or a list of their values in order;
keys with a default may be missing, in a list only at the end, and what follows
the last of them in a list is ignored in one format and refused in the other. A
text that is no document and a document that is no description are refused alike.
-/

namespace Inspector

open Document
open Number (Single)

namespace Document.Value

/-- The values of the keys of a structure, in their order. -/
def members? (format : Format) (keys : List String) : Value → Option (List (Option Value))
  | .table entries =>
    let given := entries.map (·.1)
    if given.all keys.contains && given.Nodup then
      some (keys.map fun key => List.lookup key entries)
    else none
  | .list values =>
    if values.length ≤ keys.length || format.ignoresSurplus then
      some ((List.range keys.length).map fun i => values[i]?)
    else none
  | _ => none

/-- A text. -/
def text? : Value → Option String
  | .text s => some s
  | _ => none

/-- A number in single precision. -/
def single? : Value → Option Single
  | .integer n => some (.ofInt n)
  | .real x => some x.convert
  | _ => none

/-- A list of things that are read alike. -/
def list? {α : Type} (read : Value → Option α) : Value → Option (List α)
  | .list values => values.mapM read
  | _ => none

end Document.Value

/-- A member that has to be there. -/
def required {α : Type} (read : Value → Option α) (member : Option Value) : Option α :=
  member.bind read

/-- A member that may be missing, with what it is then. -/
def withDefault {α : Type} (default : α) (read : Value → Option α) :
    Option Value → Option α
  | none => some default
  | some v => read v

/-- A member that may be missing or null. -/
def nullable {α : Type} (read : Value → Option α) : Option Value → Option (Option α)
  | none => some none
  | some .null => some none
  | some v => (read v).map some

/-- The visibility of a name. -/
def Visibility.ofName? : String → Option Visibility
  | "public" => some .isPublic
  | "non_public" | "private" | "protected" | "internal" => some .nonPublic
  | _ => none

/-- A visibility: a name, or a table with the name for its only key and nothing
under it. -/
def readVisibility (format : Format) : Value → Option Visibility
  | .text name => Visibility.ofName? name
  | .table [(name, v)] => if format.isUnit v then Visibility.ofName? name else none
  | _ => none

/-- An annotation as it is described. -/
def AnnotationEntry.read? (format : Format) (v : Value) : Option AnnotationEntry :=
  match v.members? format ["kind", "text", "height", "min", "max"] with
  | some [kind, text, height, min, max] => do
    return ⟨← required Value.text? kind, ← nullable Value.text? text,
      ← nullable Value.single? height, ← nullable Value.single? min, ← nullable Value.single? max⟩
  | _ => none

/-- A field as it is described. -/
def FieldEntry.read? (format : Format) (v : Value) : Option FieldEntry :=
  match v.members? format ["name", "type", "visibility", "annotations"] with
  | some [name, type, visibility, annotations] => do
    return ⟨← required Value.text? name, ← required Value.text? type,
      ← withDefault .isPublic (readVisibility format) visibility,
      ← withDefault [] (Value.list? (AnnotationEntry.read? format)) annotations⟩
  | _ => none

namespace Description

/-- A description in the value of a document. -/
def ofValue? (format : Format) (v : Value) : Option Description :=
  match v.members? format ["name", "namespace", "lineage", "fields"] with
  | some [name, scope, lineage, fields] => do
    return ⟨← required Value.text? name, ← nullable Value.text? scope,
      ← withDefault [] (Value.list? Value.text?) lineage,
      ← withDefault [] (Value.list? (FieldEntry.read? format)) fields⟩
  | _ => none

/-- The description in a text. -/
def read? (format : Format) (text : String) : Option Description :=
  (format.read? text).bind (ofValue? format)

end Description

/-- Why a text gives no target. -/
inductive LoadFault where
  /-- The text is no description. -/
  | unreadable
  /-- An entry is no annotation. -/
  | entry (fault : DescriptionFault)
deriving DecidableEq

/-- The fault in words. -/
def LoadFault.message : LoadFault → String
  | unreadable => "Failed to parse description"
  | entry fault => fault.message

/-- The target that a text describes. -/
def Target.load (format : Format) (text : String) : Except LoadFault Target :=
  match Description.read? format text with
  | none => .error .unreadable
  | some d => d.toTarget.mapError .entry

end Inspector
