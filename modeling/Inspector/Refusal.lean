import Inspector.Phase

/-!
# Refusals

Why a generation request is refused. Every refusal is final for its request;
annotations without a generated form are no reason for one.
-/

namespace Inspector

/-- What is wrong with the input of a request. -/
inductive InputFault where
  | targetMissing
  | typeName (name : String)
  | scopeName (scope : String)
  | fieldName (name : String)
  | repeatedKind (field kind : String)
  /-- A fault in the words of the host that found it. -/
  | reported (reason : String)
deriving DecidableEq

/-- The fault in words. -/
def InputFault.reason : InputFault → String
  | targetMissing => "target type description is required"
  | typeName name => "type name '" ++ name ++ "' is not a valid identifier"
  | scopeName scope => "namespace '" ++ scope ++ "' is not a valid dotted name"
  | fieldName name => "field name '" ++ name ++ "' is not a valid identifier"
  | repeatedKind field kind =>
    "field '" ++ field ++ "' carries more than one '" ++ kind ++ "' annotation"
  | reported reason => reason

/-- Why a request is refused. -/
inductive Refusal where
  /-- The target is missing or malformed. -/
  | invalidInput (fault : InputFault)
  /-- The target derives from no base type that has editors. -/
  | ineligibleType (qualifiedName : String)
  /-- The request is in another phase than the operation needs. -/
  | invalidState (expected actual : Phase)
deriving DecidableEq

namespace Refusal

/-- The refusal in words. -/
def message : Refusal → String
  | invalidInput fault => "invalid input: " ++ fault.reason
  | ineligibleType name => "type " ++ name ++ " must derive from MonoBehaviour or ScriptableObject"
  | invalidState expected actual =>
    "invalid generation state: expected " ++ expected.name ++ ", got " ++ actual.name

/-- A stable number for each kind of refusal, which is also the exit status of
the command. -/
def code : Refusal → Nat
  | invalidInput _ => 1
  | ineligibleType _ => 2
  | invalidState .. => 3

end Refusal

end Inspector
