import Inspector.Refusal
import Inspector.Target.Basic
import Inspector.Target.Identifier

/-!
# Validity of targets

The structural rules of a target: its name, its namespace and the names of all
its fields are identifiers, and no field carries two annotations of one kind.
The first fault in reading order is the one that is reported. Eligibility is
asked before any of them.
-/

namespace Inspector

/-- The first annotation of a list that repeats the kind of an earlier one;
`earlier` are those before the list. -/
def firstRepeat? (earlier : List Annotation) : List Annotation → Option Annotation
  | [] => none
  | a :: rest =>
    if earlier.any (·.sameKind a) then some a else firstRepeat? (earlier ++ [a]) rest

/-- The first fault of a field. -/
def Field.fault? (f : Field) : Option InputFault :=
  if !isIdentifier f.name then some (.fieldName f.name)
  else (firstRepeat? [] f.annotations).map fun a => .repeatedKind f.name a.kind

namespace Target

/-- The fault of the namespace: if there is one that counts, it must be a dotted
name. -/
def scopeFault? (t : Target) : Option InputFault :=
  match t.enclosing with
  | some scope => if isDottedName scope then none else some (.scopeName scope)
  | none => none

/-- The first fault of a target: name, namespace, fields in order. -/
def fault? (t : Target) : Option InputFault :=
  if !isIdentifier t.name then some (.typeName t.name)
  else t.scopeFault?.or (t.fields.findSome? (·.fault?))

/-- The target of a request, if there is one and it may have an editor. -/
def accept : Option Target → Except Refusal Target
  | none => .error (.invalidInput .targetMissing)
  | some t =>
    if t.isEligible then
      match t.fault? with
      | some fault => .error (.invalidInput fault)
      | none => .ok t
    else .error (.ineligibleType t.qualifiedName)

end Target

end Inspector
