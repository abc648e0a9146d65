import Inspector.Number.Notation
import Inspector.Target.Basic

/-!
# Descriptions

A description states a target type as its author writes it: annotations are
entries with a kind and optional parameters. Which parameters a kind needs is
only decided when the entries are turned into annotations.
-/

namespace Inspector

open Number

/-- An annotation as it is described. -/
structure AnnotationEntry where
  kind : String
  text : Option String
  height : Option Single
  min : Option Single
  max : Option Single

/-- A field as it is described. -/
structure FieldEntry where
  name : String
  type : String
  visibility : Visibility
  annotations : List AnnotationEntry

/-- A type as it is described. -/
structure Description where
  name : String
  scope : Option String
  /-- The ancestors, nearest first. -/
  lineage : List String
  fields : List FieldEntry

/-- Why an entry is no annotation. -/
inductive EntryFault where
  | textMissing (kind : String)
  | limitMissing
  | limitsReversed (min max : Single)
  | kindMissing
deriving DecidableEq

/-- The fault in words. -/
def EntryFault.message : EntryFault → String
  | textMissing kind => "'" ++ kind ++ "' requires 'text'"
  | limitMissing => "'range' requires both 'min' and 'max'"
  | limitsReversed min max =>
    "'range' min " ++ String.ofList (min.text .plain) ++ " is greater than max " ++
      String.ofList (max.text .plain)
  | kindMissing => "Annotation kind cannot be empty"

/-- The first entry of a description that is no annotation. -/
structure DescriptionFault where
  field : String
  fault : EntryFault
deriving DecidableEq

/-- The fault in words, with the field it is on. -/
def DescriptionFault.message (f : DescriptionFault) : String :=
  "Invalid annotation on field '" ++ f.field ++ "': " ++ f.fault.message

/-- The height of a space that states none. -/
def defaultSpaceHeight : Single := .ofInt 8

namespace AnnotationEntry

/-- The text of an entry whose kind needs one. -/
def requireText (e : AnnotationEntry) : Except EntryFault String :=
  match e.text with
  | some text => .ok text
  | none => .error (.textMissing e.kind)

/-- The limits of an entry whose kind needs them. -/
def requireLimits (e : AnnotationEntry) : Except EntryFault (Single × Single) :=
  match e.min, e.max with
  | some min, some max =>
    if max.lt min then .error (.limitsReversed min max) else .ok (min, max)
  | _, _ => .error .limitMissing

/-- The annotation of a kind without parameters: a deferred one, or one that is
only known by its name. -/
def nameOnly (kind : String) : Except EntryFault Annotation :=
  match DeferredKind.ofName? kind with
  | some deferred => .ok (.deferred deferred)
  | none => if kind = "" then .error .kindMissing else .ok (.unrecognized kind)

/-- The annotation that an entry describes. -/
def toMark (e : AnnotationEntry) : Except EntryFault Annotation :=
  match e.kind with
  | "serialize_field" => .ok .serializeMarker
  | "non_serialized" => .ok .nonSerializedMarker
  | "header" => e.requireText.map .header
  | "tooltip" => e.requireText.map .tooltip
  | "space" => .ok (.space (e.height.getD defaultSpaceHeight))
  | "range" => e.requireLimits.map fun limits => .range limits.1 limits.2
  | kind => nameOnly kind

end AnnotationEntry

namespace FieldEntry

/-- The field that an entry describes. -/
def toField (e : FieldEntry) : Except DescriptionFault Field :=
  match e.annotations.mapM AnnotationEntry.toMark with
  | .ok annotations => .ok ⟨e.name, e.type, e.visibility, annotations⟩
  | .error fault => .error ⟨e.name, fault⟩

end FieldEntry

namespace Description

/-- The target that a description describes. -/
def toTarget (d : Description) : Except DescriptionFault Target :=
  (d.fields.mapM FieldEntry.toField).map fun fields => ⟨d.name, d.scope, d.lineage, fields⟩

end Description

end Inspector
