import Inspector.Target.Basic

/-!
# Serialized fields

Which fields of a target the host stores, and therefore which fields an editor
draws.
-/

namespace Inspector

namespace Field

/-- A field is serialized when it is public and not kept from it, or when it is
explicitly marked. -/
def isSerialized (f : Field) : Bool :=
  (f.isPublic && !f.annotations.contains .nonSerializedMarker) ||
    f.annotations.contains .serializeMarker

end Field

namespace Target

/-- The serialized fields in declaration order. -/
def serializedFields (t : Target) : List Field :=
  t.fields.filter (·.isSerialized)

end Target

end Inspector
