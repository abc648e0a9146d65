import Inspector.Description.Read
import Inspector.Proofs.Description.Limits

/-!
# What a description describes

An entry has a kind and, beside it, whatever its author wrote. It describes an
annotation if the kind is not empty and the parameters that the kind needs are
there (`AnnotationEntry.Describable`); a parameter that the kind does not need is of
no account. The annotation is of the kind that the entry names, and has its
parameters from the entry (`AnnotationEntry.Means`). So the dispatch on kinds and
the table of the deferred ones undo `Annotation.kind`.

A field is converted entry by entry, and a description field by field, and the
first failure ends it all. What is said of a failure is therefore said of an entry
with nothing but describable ones before it, on its field and on every earlier
field (`Description.FirstFault`).

**The law** (`Description.toTarget_verdict`): a description becomes a target exactly
if all its entries are describable. The target then follows it member by member;
otherwise the fault is the first one.
-/

namespace Inspector

open Number

theorem DeferredKind.ofName?_eq_some_iff {name : String} {kind : DeferredKind} :
    ofName? name = some kind ↔ kind.name = name := by
  constructor
  · intro found
    rw [ofName?] at found
    exact eq_of_beq (List.find?_some (p := fun kind : DeferredKind => kind.name == name) found)
  · rintro rfl
    cases kind <;> rfl

theorem DeferredKind.ofName?_eq_none_iff {name : String} :
    ofName? name = none ↔ name ∉ all.map DeferredKind.name := by
  simp [ofName?, List.find?_eq_none]

/-- The kinds that have a meaning. -/
def meaningfulKinds : List String :=
  ["serialize_field", "non_serialized", "header", "tooltip", "space", "range"]

/-- The kinds that are known, deferred ones included. -/
def knownKinds : List String :=
  meaningfulKinds ++ DeferredKind.all.map DeferredKind.name

namespace AnnotationEntry

variable {e : AnnotationEntry} {a : Annotation} {fault : EntryFault}

/-! ## Entries that describe annotations -/

/-- An entry that describes an annotation. -/
structure Describable (e : AnnotationEntry) : Prop where
  kind : e.kind ≠ ""
  text : e.kind = "header" ∨ e.kind = "tooltip" → ∃ text, e.text = some text
  limits : e.kind = "range" →
    ∃ min max, e.min = some min ∧ e.max = some max ∧ max.lt min = false

/-- What is wrong with an entry. -/
inductive Faulty (e : AnnotationEntry) : EntryFault → Prop
  | kindMissing (kind : e.kind = "") : Faulty e .kindMissing
  | textMissing (kind : e.kind = "header" ∨ e.kind = "tooltip") (missing : e.text = none) :
    Faulty e (.textMissing e.kind)
  | limitMissing (kind : e.kind = "range") (missing : e.min = none ∨ e.max = none) :
    Faulty e .limitMissing
  | limitsReversed {min max : Single} (kind : e.kind = "range") (low : e.min = some min)
    (high : e.max = some max) (reversed : max.lt min) : Faulty e (.limitsReversed min max)

/-- The annotation that an entry describes. -/
structure Means (e : AnnotationEntry) (a : Annotation) : Prop where
  /-- It is of the kind that the entry names. -/
  kind : a.kind = e.kind
  /-- It is left unrecognized only if there is no such kind. -/
  unknown : ∀ name, a = .unrecognized name → name ≠ "" ∧ name ∉ knownKinds
  text : ∀ text, a = .header text ∨ a = .tooltip text → e.text = some text
  height : ∀ height, a = .space height → height = e.height.getD (.ofInt 8)
  limits : ∀ min max, a = .range min max →
    e.min = some min ∧ e.max = some max ∧ max.lt min = false

theorem describable_iff : e.Describable ↔ ∀ fault, ¬e.Faulty fault := by
  constructor
  · rintro describable fault
      (kind | ⟨kind, missing⟩ | ⟨kind, missing⟩ | ⟨kind, low, high, reversed⟩)
    · exact describable.kind kind
    · obtain ⟨text, there⟩ := describable.text kind
      rw [there] at missing
      cases missing
    · obtain ⟨min, max, low, high, _⟩ := describable.limits kind
      simp [low, high] at missing
    · obtain ⟨min, max, low', high', ordered⟩ := describable.limits kind
      cases low.symm.trans low'
      cases high.symm.trans high'
      rw [ordered] at reversed
      cases reversed
  · intro sound
    refine ⟨fun kind => sound _ (.kindMissing kind), fun kind => ?_, fun kind => ?_⟩
    · exact Option.ne_none_iff_exists'.mp fun missing => sound _ (.textMissing kind missing)
    · cases low : e.min with
      | none => exact (sound _ (.limitMissing kind (.inl low))).elim
      | some min =>
        cases high : e.max with
        | none => exact (sound _ (.limitMissing kind (.inr high))).elim
        | some max =>
          exact ⟨min, max, rfl, rfl, Bool.eq_false_iff.mpr fun reversed =>
            sound _ (.limitsReversed kind low high reversed)⟩

/-! ## Conversion of entries -/

/-- An entry of a kind without a meaning is converted by its kind alone. -/
theorem toMark_of_other (other : e.kind ∉ meaningfulKinds) : e.toMark = nameOnly e.kind := by
  simp only [meaningfulKinds, List.mem_cons, not_or] at other
  unfold toMark
  split <;> simp_all

theorem toMark_of_means (h : e.Means a) : e.toMark = .ok a := by
  obtain ⟨name, text, height, min, max⟩ := e
  obtain ⟨kind, unknown, text', height', limits⟩ := h
  cases kind
  cases a with
  | serializeMarker | nonSerializedMarker => rfl
  | header text | tooltip text =>
    cases text' text (by simp)
    rfl
  | space height =>
    rw [height' height rfl]
    rfl
  | range min max =>
    obtain ⟨low, high, ordered⟩ := limits min max rfl
    exact toMark_eq_range_iff.mpr ⟨rfl, low, high, ordered⟩
  | deferred kind => cases kind <;> rfl
  | unrecognized name =>
    obtain ⟨some, missing⟩ := unknown name rfl
    obtain ⟨other, unnamed⟩ := not_or.mp (List.mem_append.not.mp missing)
    rw [toMark_of_other other, nameOnly, DeferredKind.ofName?_eq_none_iff.mpr unnamed]
    exact if_neg some

theorem requireText_eq_ok_iff {text : String} : e.requireText = .ok text ↔ e.text = some text := by
  rw [requireText]
  cases e.text <;> simp

theorem requireText_eq_error_iff : e.requireText = .error fault ↔
    e.text = none ∧ fault = .textMissing e.kind := by
  rw [requireText]
  cases e.text <;> simp [eq_comm]

theorem means_of_text {text : String} (own : a = .header text ∨ a = .tooltip text)
    (kind : a.kind = e.kind) (there : e.text = some text) : e.Means a := by
  refine ⟨kind, ?_, fun other same => ?_, ?_, ?_⟩
  · rcases own with rfl | rfl <;> nofun
  · rcases own with rfl | rfl <;> rcases same with same | same <;> cases same <;> exact there
  · rcases own with rfl | rfl <;> nofun
  · rcases own with rfl | rfl <;> nofun

theorem means_of_nameOnly (other : e.kind ∉ meaningfulKinds) (h : nameOnly e.kind = .ok a) :
    e.Means a := by
  unfold nameOnly at h
  split at h
  next deferred found =>
    cases h
    exact ⟨DeferredKind.ofName?_eq_some_iff.mp found, nofun, nofun, nofun, nofun⟩
  next unnamed =>
    split at h <;> cases h
    next some =>
      refine ⟨rfl, ?_, nofun, nofun, nofun⟩
      rintro _ ⟨⟩
      exact ⟨some, List.mem_append.not.mpr
        (not_or.mpr ⟨other, DeferredKind.ofName?_eq_none_iff.mp unnamed⟩)⟩

theorem means_of_toMark (h : e.toMark = .ok a) : e.Means a := by
  unfold toMark at h
  split at h
  next kind =>
    cases h
    exact ⟨kind.symm, nofun, nofun, nofun, nofun⟩
  next kind =>
    cases h
    exact ⟨kind.symm, nofun, nofun, nofun, nofun⟩
  next kind =>
    obtain ⟨text, there, rfl⟩ := map_eq_ok_iff.mp h
    exact means_of_text (.inl rfl) kind.symm (requireText_eq_ok_iff.mp there)
  next kind =>
    obtain ⟨text, there, rfl⟩ := map_eq_ok_iff.mp h
    exact means_of_text (.inr rfl) kind.symm (requireText_eq_ok_iff.mp there)
  next kind =>
    cases h
    refine ⟨kind.symm, nofun, nofun, ?_, nofun⟩
    rintro _ ⟨⟩
    rfl
  next kind =>
    obtain ⟨⟨min, max⟩, there, rfl⟩ := map_eq_ok_iff.mp h
    refine ⟨kind.symm, nofun, nofun, nofun, ?_⟩
    rintro _ _ ⟨⟩
    exact requireLimits_eq_ok_iff.mp there
  next marker unmarker header tooltip space range =>
    refine means_of_nameOnly ?_ h
    simp only [meaningfulKinds, List.mem_cons, List.not_mem_nil, or_false, not_or]
    exact ⟨marker, unmarker, header, tooltip, space, range⟩

/-- An entry is converted to the annotation that it describes. -/
theorem toMark_eq_ok_iff : e.toMark = .ok a ↔ e.Means a :=
  ⟨means_of_toMark, toMark_of_means⟩

/-! ## Entries that describe nothing -/

theorem faulty_of_requireLimits (kind : e.kind = "range") (h : e.requireLimits = .error fault) :
    e.Faulty fault := by
  unfold requireLimits at h
  split at h
  next min max low high =>
    split at h <;> cases h
    next reversed => exact .limitsReversed kind low high reversed
  next missing =>
    cases h
    refine .limitMissing kind ?_
    cases low : e.min with
    | none => exact .inl rfl
    | some min =>
      cases high : e.max with
      | none => exact .inr rfl
      | some max => exact (missing min max low high).elim

theorem faulty_of_toMark (h : e.toMark = .error fault) : e.Faulty fault := by
  unfold toMark at h
  split at h
  next => cases h
  next => cases h
  next kind =>
    obtain ⟨missing, rfl⟩ := requireText_eq_error_iff.mp (map_eq_error_iff.mp h)
    exact .textMissing (.inl kind) missing
  next kind =>
    obtain ⟨missing, rfl⟩ := requireText_eq_error_iff.mp (map_eq_error_iff.mp h)
    exact .textMissing (.inr kind) missing
  next => cases h
  next kind => exact faulty_of_requireLimits kind (map_eq_error_iff.mp h)
  next =>
    unfold nameOnly at h
    split at h
    · cases h
    · split at h <;> cases h
      next kind => exact .kindMissing kind

theorem toMark_of_faulty (h : e.Faulty fault) : e.toMark = .error fault := by
  obtain ⟨name, text, height, min, max⟩ := e
  cases h with
  | kindMissing kind =>
    cases kind
    rfl
  | textMissing kind missing =>
    cases missing
    rcases kind with ⟨⟨⟩⟩ | ⟨⟨⟩⟩ <;> rfl
  | limitMissing kind missing =>
    cases kind
    rcases missing with ⟨⟨⟩⟩ | ⟨⟨⟩⟩
    · rfl
    · cases min <;> rfl
  | limitsReversed kind low high reversed =>
    cases kind
    cases low
    cases high
    simp [toMark, requireLimits, reversed, Except.map]

theorem toMark_eq_error_iff : e.toMark = .error fault ↔ e.Faulty fault :=
  ⟨faulty_of_toMark, toMark_of_faulty⟩

theorem exists_toMark_iff : (∃ a, e.toMark = .ok a) ↔ e.Describable := by
  rw [exists_ok_iff, describable_iff]
  simp only [ne_eq, toMark_eq_error_iff]

end AnnotationEntry

/-! ## Descriptions -/

/-- A field that is what its entry describes. -/
structure FieldEntry.Means (e : FieldEntry) (f : Field) : Prop where
  name : f.name = e.name
  type : f.type = e.type
  visibility : f.visibility = e.visibility
  annotations : List.Forall₂ AnnotationEntry.Means e.annotations f.annotations

/-- A target that is what a description describes. -/
structure Description.Means (d : Description) (t : Target) : Prop where
  name : t.name = d.name
  scope : t.scope = d.scope
  lineage : t.lineage = d.lineage
  fields : List.Forall₂ FieldEntry.Means d.fields t.fields

/-- The first fault among some entries: all before it are describable. -/
inductive AnnotationEntry.FirstFault (entries : List AnnotationEntry) : EntryFault → Prop
  | mk {before after : List AnnotationEntry} {e : AnnotationEntry} {fault : EntryFault}
    (cut : entries = before ++ e :: after) (clear : ∀ b ∈ before, b.Describable)
    (faulty : e.Faulty fault) : FirstFault entries fault

/-- The first fault of a description, with the field that it is on. -/
inductive Description.FirstFault (d : Description) : DescriptionFault → Prop
  | mk {before after : List FieldEntry} {e : FieldEntry} {fault : EntryFault}
    (cut : d.fields = before ++ e :: after)
    (clear : ∀ b ∈ before, ∀ entry ∈ b.annotations, entry.Describable)
    (faulty : AnnotationEntry.FirstFault e.annotations fault) : FirstFault d ⟨e.name, fault⟩

theorem AnnotationEntry.marks_eq_error_iff {entries : List AnnotationEntry} {fault : EntryFault} :
    entries.mapM toMark = .error fault ↔ FirstFault entries fault := by
  simp only [mapM_eq_error_iff, exists_toMark_iff, toMark_eq_error_iff]
  constructor
  · rintro ⟨before, e, after, cut, clear, faulty⟩
    exact .mk cut clear faulty
  · rintro ⟨cut, clear, faulty⟩
    exact ⟨_, _, _, cut, clear, faulty⟩

namespace FieldEntry

variable {e : FieldEntry}

theorem toField_iff_means {f : Field} : e.toField = .ok f ↔ e.Means f := by
  simp only [toField_eq_ok_iff, AnnotationEntry.toMark_eq_ok_iff]
  exact ⟨fun ⟨name, type, visibility, all⟩ => ⟨name, type, visibility, all⟩,
    fun ⟨name, type, visibility, all⟩ => ⟨name, type, visibility, all⟩⟩

theorem toField_eq_error_iff {fault : DescriptionFault} : e.toField = .error fault ↔
    ∃ own, fault = ⟨e.name, own⟩ ∧ AnnotationEntry.FirstFault e.annotations own := by
  simp only [← AnnotationEntry.marks_eq_error_iff]
  rw [toField]
  cases e.annotations.mapM AnnotationEntry.toMark <;> simp [eq_comm]

theorem exists_toField_iff :
    (∃ f, e.toField = .ok f) ↔ ∀ entry ∈ e.annotations, entry.Describable := by
  simp only [← AnnotationEntry.exists_toMark_iff, ← exists_mapM_iff, toField]
  cases e.annotations.mapM AnnotationEntry.toMark <;> simp

end FieldEntry

namespace Description

variable {d : Description}

theorem toTarget_iff_means {t : Target} : d.toTarget = .ok t ↔ d.Means t := by
  simp only [toTarget_eq_ok_iff, FieldEntry.toField_iff_means]
  exact ⟨fun ⟨name, scope, lineage, all⟩ => ⟨name, scope, lineage, all⟩,
    fun ⟨name, scope, lineage, all⟩ => ⟨name, scope, lineage, all⟩⟩

theorem exists_toTarget_iff : (∃ t, d.toTarget = .ok t) ↔
    ∀ e ∈ d.fields, ∀ entry ∈ e.annotations, entry.Describable := by
  simp only [← FieldEntry.exists_toField_iff, ← exists_mapM_iff, toTarget, map_eq_ok_iff]
  constructor
  · rintro ⟨_, fields, read, _⟩
    exact ⟨fields, read⟩
  · rintro ⟨fields, read⟩
    exact ⟨_, fields, read, rfl⟩

theorem toTarget_eq_error_iff {fault : DescriptionFault} :
    d.toTarget = .error fault ↔ d.FirstFault fault := by
  rw [toTarget, map_eq_error_iff, mapM_eq_error_iff]
  simp only [FieldEntry.exists_toField_iff, FieldEntry.toField_eq_error_iff]
  constructor
  · rintro ⟨before, e, after, cut, clear, own, rfl, faulty⟩
    exact .mk cut clear faulty
  · rintro ⟨cut, clear, faulty⟩
    exact ⟨_, _, _, cut, clear, _, rfl, faulty⟩

/-! ## The law -/

/-- A description becomes a target exactly if all its entries are describable, and then
the one that it describes. Otherwise it fails with its first fault, which is told with
the name of the field. -/
theorem toTarget_verdict (d : Description) :
    ((∃ t, d.toTarget = .ok t) ↔
      ∀ e ∈ d.fields, ∀ entry ∈ e.annotations, entry.Describable) ∧
    (∀ t, d.toTarget = .ok t ↔ d.Means t) ∧
    (∀ fault, d.toTarget = .error fault ↔ d.FirstFault fault) ∧
    ∀ fault, (LoadFault.entry fault).message =
      "Invalid annotation on field '" ++ fault.field ++ "': " ++ fault.fault.message :=
  ⟨exists_toTarget_iff, fun _ => toTarget_iff_means, fun _ => toTarget_eq_error_iff,
    fun _ => rfl⟩

/-- An annotation entry with nothing but a kind. -/
def plainEntry (kind : String) : AnnotationEntry := ⟨kind, none, none, none, none⟩

/-- A description with faults: two entries of its first field have one, and the second field
has one of its own. -/
def candle : Description where
  name := "Candle"
  scope := none
  lineage := []
  fields :=
    [⟨"glow", "float", .isPublic, [plainEntry "space", plainEntry "tooltip", plainEntry "range"]⟩,
      ⟨"wick", "float", .isPublic, [plainEntry ""]⟩]

/-- A description without faults. -/
def taper : Description where
  name := "Taper"
  scope := none
  lineage := []
  fields := [⟨"glow", "float", .isPublic, [plainEntry "space", plainEntry "delayed"]⟩]

theorem toTarget_verdict_candle :
    candle.toTarget = .error ⟨"glow", .textMissing "tooltip"⟩ ∧
    candle.FirstFault ⟨"glow", .textMissing "tooltip"⟩ ∧
    ∃ t, taper.toTarget = .ok t ∧ taper.Means t ∧
      ∀ e ∈ taper.fields, ∀ entry ∈ e.annotations, entry.Describable := by
  have fails : candle.toTarget = .error ⟨"glow", .textMissing "tooltip"⟩ := rfl
  have succeeds : taper.toTarget = .ok _ := rfl
  obtain ⟨_, _, first, _⟩ := toTarget_verdict candle
  obtain ⟨describable, means, _⟩ := toTarget_verdict taper
  exact ⟨fails, (first _).mp fails, _, succeeds, (means _).mp succeeds,
    describable.mp ⟨_, succeeds⟩⟩

end Description

end Inspector
