import Inspector.Number.Binary

/-!
# Annotations

What may be attached to a field of the target type. The set of kinds with a
meaning is closed: two markers that decide whether a field is serialized, four
presentation annotations that become code, and six kinds that are known but
have no generated form yet. Every other annotation is kept by its name.
-/

namespace Inspector

open Number

/-- The kinds that are known but deferred. -/
inductive DeferredKind where
  | textArea
  | multiline
  | contextMenuItem
  | gradientUsage
  | delayed
  | minimum
deriving DecidableEq

namespace DeferredKind

/-- All deferred kinds. -/
def all : List DeferredKind :=
  [textArea, multiline, contextMenuItem, gradientUsage, delayed, minimum]

/-- The name of a deferred kind in descriptions and notices. -/
def name : DeferredKind → String
  | textArea => "text_area"
  | multiline => "multiline"
  | contextMenuItem => "context_menu_item"
  | gradientUsage => "gradient_usage"
  | delayed => "delayed"
  | minimum => "min"

/-- The deferred kind of a name. -/
def ofName? (name : String) : Option DeferredKind :=
  all.find? (·.name == name)

end DeferredKind

/-- An annotation with its parameters. -/
inductive Annotation where
  /-- Makes a field serialized whatever its visibility. -/
  | serializeMarker
  /-- Keeps a public field from being serialized. -/
  | nonSerializedMarker
  /-- A heading above the field. -/
  | header (text : String)
  /-- A gap above the field. -/
  | space (height : Single)
  /-- Limits of a numeric field, which turn its input into a slider. -/
  | range (min max : Single)
  /-- A hint shown with the label of the field. -/
  | tooltip (text : String)
  | deferred (kind : DeferredKind)
  | unrecognized (name : String)
deriving DecidableEq

namespace Annotation

/-- The name of the kind of an annotation. -/
def kind : Annotation → String
  | serializeMarker => "serialize_field"
  | nonSerializedMarker => "non_serialized"
  | header _ => "header"
  | space _ => "space"
  | range .. => "range"
  | tooltip _ => "tooltip"
  | deferred k => k.name
  | unrecognized name => name

/-- Whether two annotations are of one kind. An unrecognized annotation is only
of the kind of another one with its name, even if that name is the name of a
known kind. -/
def sameKind : Annotation → Annotation → Bool
  | serializeMarker, serializeMarker => true
  | nonSerializedMarker, nonSerializedMarker => true
  | header _, header _ => true
  | space _, space _ => true
  | range .., range .. => true
  | tooltip _, tooltip _ => true
  | deferred a, deferred b => a == b
  | unrecognized a, unrecognized b => a == b
  | _, _ => false

end Annotation

end Inspector
