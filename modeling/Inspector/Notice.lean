/-!
# Notices

A notice tells that an annotation was found for which no code is generated. It
is advice: the field is drawn all the same.
-/

namespace Inspector

/-- An annotation of a kind that has no generated form, and the field it is on. -/
structure Notice where
  field : String
  kind : String
deriving DecidableEq

/-- The notice in words. -/
def Notice.text (n : Notice) : String :=
  "annotation '" ++ n.kind ++ "' on field '" ++ n.field ++ "' is not supported yet"

end Inspector
