import Inspector.CSharp.Syntax
import Inspector.Diagnostics.Report
import Inspector.Naming.Derived
import Inspector.Naming.DisplayName
import Inspector.Target.Basic

/-!
# The plan of a field

What becomes of one selected field: a member that labels it, statements that
lead up to it, and one statement that draws it. A range replaces the statement
that draws; a tooltip adds to the label; a header and a space lead up. The
other annotations leave the plan alone, and those that have no meaning yet are
reported.
-/

namespace Inspector

open CSharp Diagnostics Number

/-- The code for one field. -/
structure FieldPlan where
  /-- The member that labels the field. -/
  label : FieldDecl
  /-- The statements before the field, in annotation order. -/
  lead : List Expr
  /-- The statement that draws the field. -/
  body : Expr
  /-- Whether an annotation became code. -/
  drawsAnnotations : Bool

/-- The layout functions of the host's editors. -/
def editorLayout : Expr := .ident "EditorGUILayout"

/-- The object an editor draws. -/
def serializedObject : Expr := .ident "serializedObject"

namespace Annotation

/-- The statement that an annotation puts before its field. -/
def leadStatement? : Annotation → Option Expr
  | header text =>
    some (.call editorLayout "LabelField" [.str text, .member (.ident "EditorStyles") "boldLabel"])
  | space height => some (.call (.ident "GUILayout") "Space" [.float height])
  | _ => none

/-- The limits of a range. -/
def limits? : Annotation → Option (Single × Single)
  | range min max => some (min, max)
  | _ => none

/-- The text of a tooltip. -/
def tooltip? : Annotation → Option String
  | tooltip text => some text
  | _ => none

/-- Whether an annotation has no generated form. -/
def isUnsupported : Annotation → Bool
  | deferred _ => true
  | unrecognized _ => true
  | _ => false

end Annotation

/-- The types whose values are integers, as they may be written. -/
def integralTypes : List String :=
  ["int", "uint", "short", "ushort", "byte", "sbyte", "long", "ulong",
   "System.Int32", "System.UInt32", "System.Int16", "System.UInt16",
   "System.Byte", "System.SByte", "System.Int64", "System.UInt64"]

/-- A limit as an integer literal: the fraction is dropped, and what is beyond the
range of a 32-bit integer becomes its end. -/
def integerLimit (limit : Single) : Int :=
  limit.truncate (-2 ^ 31) (2 ^ 31 - 1)

/-- Whether an integer limit stands for another number than the limit, both taken
in single precision. -/
def isAdjusted (limit : Single) : Bool :=
  !(Binary.ofInt (integerLimit limit) : Single).same limit

namespace Field

/-- The limits that decide: those of the last range. -/
def limits? (f : Field) : Option (Single × Single) :=
  (f.annotations.filterMap (·.limits?)).getLast?

/-- The tooltip that decides: the last one. -/
def tooltip? (f : Field) : Option String :=
  (f.annotations.filterMap (·.tooltip?)).getLast?

/-- The statements before the field. -/
def leadStatements (f : Field) : List Expr :=
  f.annotations.filterMap (·.leadStatement?)

/-- Whether the declared type is an integer type. -/
def isIntegral (f : Field) : Bool :=
  integralTypes.contains f.type

/-- The name of the member that labels the field. -/
def labelName (f : Field) : String :=
  Naming.labelField f.name

/-- The property of the drawn object that holds the field. -/
def property (f : Field) : Expr :=
  .call serializedObject "FindProperty" [.str f.name]

/-- The statement that draws the field. -/
def drawStatement (f : Field) : Expr :=
  match f.limits? with
  | some (min, max) =>
    if f.isIntegral then
      .call editorLayout "IntSlider"
        [f.property, .int (integerLimit min), .int (integerLimit max), .ident f.labelName]
    else
      .call editorLayout "Slider" [f.property, .float min, .float max, .ident f.labelName]
  | none => .call editorLayout "PropertyField" [f.property, .ident f.labelName]

/-- The member that labels the field: its display name, and its tooltip. -/
def labelMember (f : Field) : FieldDecl where
  access := .isPrivate
  type := "GUIContent"
  name := f.labelName
  initial := some (.create "GUIContent"
    (.str (Naming.displayName f.name) :: (f.tooltip?.map Expr.str).toList))

/-- The code for a field. -/
def plan (f : Field) : FieldPlan where
  label := f.labelMember
  lead := f.leadStatements
  body := f.drawStatement
  drawsAnnotations := !f.leadStatements.isEmpty || f.limits?.isSome || f.tooltip?.isSome

end Field

/-- Where the reports on annotations come from. -/
def planOrigin : String := "editorgen_codegen::annotation"

namespace Field

/-- The event on an annotation without a generated form. -/
def fallbackEvent (f : Field) (a : Annotation) : Event :=
  .of .debug planOrigin "falling back to default field rendering"
    [("field", .shown f.name), ("kind", .text a.kind)]

/-- The event on a limit that became another number. -/
def adjustedEvent (f : Field) (limit : Single) : Event :=
  .of .debug planOrigin "range bound adjusted for IntSlider"
    [("field", .text f.name), ("value", .float limit.convert), ("bound", .int (integerLimit limit))]

/-- The reports on one annotation. -/
def annotationReports (f : Field) (a : Annotation) : List Report :=
  if a.isUnsupported then [.event (f.fallbackEvent a), .notice ⟨f.name, a.kind⟩] else []

/-- The reports on the limits of a slider over integers. -/
def limitReports (f : Field) : List Report :=
  match f.limits? with
  | some (min, max) =>
    if f.isIntegral then
      ([min, max].filter isAdjusted).map fun limit => .event (f.adjustedEvent limit)
    else []
  | none => []

/-- The reports on the plan of a field: on its annotations in order, then on its
limits. -/
def planReports (f : Field) : List Report :=
  f.annotations.flatMap f.annotationReports ++ f.limitReports

end Field

end Inspector
