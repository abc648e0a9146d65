import Inspector.Target.Annotations
import Inspector.Text.Segment

/-!
# The target type

A static description of the type whose companion editor is generated: its
name, the namespace around it, its ancestors and its fields.
-/

namespace Inspector

/-- Visibility as far as serialization is concerned. -/
inductive Visibility where
  | isPublic
  | nonPublic
deriving DecidableEq

/-- A field of the target type. -/
structure Field where
  name : String
  /-- The declared type as it is written in the source. -/
  type : String
  visibility : Visibility
  /-- The annotations in declaration order. -/
  annotations : List Annotation
deriving DecidableEq

/-- A target type. -/
structure Target where
  name : String
  /-- The enclosing namespace; an empty one counts as none. -/
  scope : Option String
  /-- The ancestors, nearest first. -/
  lineage : List String
  /-- The fields in declaration order. -/
  fields : List Field
deriving DecidableEq

namespace Field

/-- Whether a field is public. -/
def isPublic (f : Field) : Bool :=
  f.visibility == .isPublic

/-- Whether an annotation of the same kind is attached. -/
def has (f : Field) (other : Annotation) : Bool :=
  f.annotations.any (·.sameKind other)

end Field

namespace Target

/-- The namespace that counts: a present one that is not empty. -/
def enclosing (t : Target) : Option String :=
  t.scope.filter (· ≠ "")

/-- The name with its namespace, if there is one. -/
def qualifiedName (t : Target) : String :=
  match t.enclosing with
  | some scope => scope ++ "." ++ t.name
  | none => t.name

/-- Whether a base type is among the ancestors, by its qualified name or by the
last segment of it. -/
def derivesFrom (t : Target) (base : String) : Bool :=
  let short := String.ofList (Text.lastSegment '.' base.toList)
  t.lineage.any fun ancestor => ancestor == base || ancestor == short

/-- The base types of which a target needs one. -/
def eligibleBases : List String :=
  ["UnityEngine.MonoBehaviour", "UnityEngine.ScriptableObject"]

/-- Whether a target derives from one of the base types that have editors. -/
def isEligible (t : Target) : Bool :=
  eligibleBases.any t.derivesFrom

end Target

end Inspector
