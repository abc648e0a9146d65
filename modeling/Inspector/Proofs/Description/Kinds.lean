import Inspector.Proofs.Description.Conversion
import Inspector.Proofs.Generation.Verdict
import Inspector.Proofs.Target.Kinds
import Mathlib.Data.List.Induction

/-!
# Kinds in descriptions

An annotation that is not recognized may be called as a kind that is: a host can attach
both a heading and an unrecognized `header`, and they are of two kinds. A description
cannot. What its entries become is only left unrecognized where there is no such kind
(`Annotation.Proper`), and then the comparison of annotations is that of the names
(`Annotation.sameKind_iff_of_proper`).

So whether a described target repeats a kind can be read off the description. What is
read is the names of its fields and, for each, the kinds of its entries in order
(`Description.listing`); the target has the same listing.

**The law** (`kinds_by_name`): to be of one kind is an equivalence, finer than to have
one name, and among described annotations it is to be described under one kind. If all
else about a described target is in order, its editor is refused exactly for the first
kind that a field lists again.
-/

namespace Inspector

/-! ## Annotations with a kind of their name -/

namespace Annotation

variable {a b : Annotation}

theorem kind_mem_knownKinds (known : a.isUnrecognized = false) : a.kind ∈ knownKinds := by
  cases a with
  | unrecognized name => cases known
  | deferred kind => cases kind <;> decide
  | _ => simp [kind, knownKinds, meaningfulKinds]

/-- An annotation that is left unrecognized only where there is no kind of its name. -/
def Proper (a : Annotation) : Prop :=
  a.isUnrecognized → a.kind ∉ knownKinds

theorem isUnrecognized_iff_of_proper (h : a.Proper) : a.isUnrecognized ↔ a.kind ∉ knownKinds := by
  refine ⟨h, fun unknown => ?_⟩
  by_contra known
  exact unknown (kind_mem_knownKinds (Bool.eq_false_iff.mpr known))

theorem sameKind_iff_of_proper (ha : a.Proper) (hb : b.Proper) :
    a.sameKind b ↔ a.kind = b.kind := by
  rw [sameKind_iff]
  refine ⟨And.left, fun same => ⟨same, ?_⟩⟩
  rw [Bool.eq_iff_iff, isUnrecognized_iff_of_proper ha, isUnrecognized_iff_of_proper hb, same]

end Annotation

theorem AnnotationEntry.Means.proper {e : AnnotationEntry} {a : Annotation} (h : e.Means a) :
    a.Proper := by
  intro unrecognized
  cases a with
  | unrecognized name => exact (h.unknown name rfl).2
  | _ => cases unrecognized

/-! ## Kinds that are repeated -/

/-- The first kind of a list that stands in it before. -/
inductive FirstRepeated (kinds : List String) : String → Prop
  | mk {before after : List String} {kind : String} (cut : kinds = before ++ kind :: after)
    (apart : before.Nodup) (again : kind ∈ before) : FirstRepeated kinds kind

theorem exists_firstRepeated_iff {kinds : List String} :
    (∃ kind, FirstRepeated kinds kind) ↔ ¬kinds.Nodup := by
  constructor
  · rintro ⟨kind, cut, _, again⟩ once
    rw [cut, List.nodup_append] at once
    exact once.2.2 kind again kind List.mem_cons_self rfl
  · intro repeated
    induction kinds using List.reverseRecOn with
    | nil => exact absurd List.nodup_nil repeated
    | append_singleton kinds kind ih =>
      by_cases apart : kinds.Nodup
      · refine ⟨kind, .mk rfl apart ?_⟩
        by_contra new
        have others : ∀ x ∈ kinds, x ≠ kind := fun x mem same => new (same ▸ mem)
        exact repeated (List.nodup_append.mpr
          ⟨apart, by simp, by simpa using others⟩)
      · obtain ⟨earlier, @⟨before, after, _, cut, once, again⟩⟩ := ih apart
        have longer : kinds ++ [kind] = before ++ earlier :: (after ++ [kind]) := by
          rw [cut, List.append_assoc, List.cons_append]
        exact ⟨earlier, .mk longer once again⟩

theorem unrepeated_iff_nodup {annotations : List Annotation}
    (proper : ∀ a ∈ annotations, a.Proper) :
    Unrepeated annotations ↔ (annotations.map Annotation.kind).Nodup := by
  rw [List.Nodup, List.pairwise_map]
  refine List.Pairwise.iff_of_mem fun {a b} ha hb => ?_
  rw [← Bool.not_eq_true, a.sameKind_iff_of_proper (proper a ha) (proper b hb)]

/-- What is listed on a field of a target. -/
def Field.listed (f : Field) : String × List String :=
  (f.name, f.annotations.map Annotation.kind)

/-- The names of the fields that are described, each with the kinds of its entries. -/
def Description.listing (d : Description) : List (String × List String) :=
  d.fields.map fun e => (e.name, e.annotations.map (·.kind))

/-- The first field of a listing that lists a kind again, and the kind. -/
inductive FirstListedAgain (listing : List (String × List String)) : String → String → Prop
  | mk {before after : List (String × List String)} {field kind : String} {kinds : List String}
    (cut : listing = before ++ (field, kinds) :: after) (clear : ∀ own ∈ before, own.2.Nodup)
    (again : FirstRepeated kinds kind) : FirstListedAgain listing field kind

namespace Field

variable {f : Field}

theorem firstFault_iff (named : isIdentifier f.name) (proper : ∀ a ∈ f.annotations, a.Proper)
    {fault : InputFault} : f.FirstFault fault ↔
      ∃ kind, fault = .repeatedKind f.name kind ∧
        FirstRepeated (f.annotations.map Annotation.kind) kind := by
  constructor
  · intro first
    cases first with
    | name bad => exact absurd named bad
    | @repeated before after a _ cut apart again =>
      rw [cut, List.forall_mem_append, List.forall_mem_cons] at proper
      obtain ⟨earlier, own, _⟩ := proper
      obtain ⟨b, mem, same⟩ := again
      refine ⟨a.kind, rfl, .mk (by rw [cut, List.map_append, List.map_cons]) ?_ ?_⟩
      · exact (unrepeated_iff_nodup earlier).mp apart
      · exact List.mem_map.mpr ⟨b, mem, (b.sameKind_iff_of_proper (earlier b mem) own).mp same⟩
  · rintro ⟨kind, rfl, cut, apart, again⟩
    obtain ⟨before, rest, own, rfl, more⟩ := List.map_eq_append_iff.mp cut
    obtain ⟨a, after, rfl, rfl, _⟩ := List.map_eq_cons_iff.mp more
    rw [own, List.forall_mem_append, List.forall_mem_cons] at proper
    obtain ⟨earlier, last, _⟩ := proper
    obtain ⟨b, mem, same⟩ := List.mem_map.mp again
    exact .repeated named own ((unrepeated_iff_nodup earlier).mpr apart)
      ⟨b, mem, (b.sameKind_iff_of_proper (earlier b mem) last).mpr same⟩

end Field

namespace Target

variable {t : Target}

/-- All that is asked of a target except of the annotations of its fields. -/
structure WellFormed (t : Target) : Prop where
  eligible : t.Eligible
  name : isIdentifier t.name
  scope : t.WellScoped
  fields : ∀ f ∈ t.fields, isIdentifier f.name

/-- The names of the fields, each with the kinds of its annotations. -/
def listing (t : Target) : List (String × List String) :=
  t.fields.map Field.listed

theorem WellFormed.refused_iff (h : t.WellFormed)
    (proper : ∀ f ∈ t.fields, ∀ a ∈ f.annotations, a.Proper) {refusal : Refusal} :
    Refused (some t) refusal ↔ ∃ field kind,
      refusal = .invalidInput (.repeatedKind field kind) ∧
        FirstListedAgain t.listing field kind := by
  constructor
  · intro refused
    cases refused with
    | ineligible bad => exact absurd h.eligible bad
    | faulty _ first =>
      cases first with
      | name bad => exact absurd h.name bad
      | scope _ _ bad => exact absurd h.scope bad
      | @field before after f _ _ _ cut valid first =>
        have mem : f ∈ t.fields := by simp [cut]
        have known : ∀ g ∈ before, g ∈ t.fields := fun g mem => cut ▸ List.mem_append_left _ mem
        obtain ⟨kind, rfl, again⟩ := (Field.firstFault_iff (h.fields f mem) (proper f mem)).mp first
        have listed : t.listing =
            before.map Field.listed ++ f.listed :: after.map Field.listed := by
          rw [listing, cut, List.map_append, List.map_cons]
        refine ⟨f.name, kind, rfl, .mk listed ?_ again⟩
        rintro _ own
        obtain ⟨g, mem, rfl⟩ := List.mem_map.mp own
        exact (unrepeated_iff_nodup (proper g (known g mem))).mp (valid g mem).2
  · rintro ⟨field, kind, rfl, cut, clear, again⟩
    obtain ⟨before, rest, own, rfl, more⟩ := List.map_eq_append_iff.mp cut
    obtain ⟨f, after, rfl, same, _⟩ := List.map_eq_cons_iff.mp more
    obtain ⟨rfl, rfl⟩ := Prod.mk.inj same
    have mem : f ∈ t.fields := by simp [own]
    have known : ∀ g ∈ before, g ∈ t.fields := fun g mem => own ▸ List.mem_append_left _ mem
    refine .faulty h.eligible (.field h.name h.scope own (fun g mem => ?_)
      ((Field.firstFault_iff (h.fields f mem) (proper f mem)).mpr ⟨kind, rfl, again⟩))
    exact ⟨h.fields g (known g mem), (unrepeated_iff_nodup (proper g (known g mem))).mpr
      (clear _ (List.mem_map_of_mem mem))⟩

end Target

/-! ## Described targets -/

theorem map_eq_map_of_forall₂ {α β γ : Type} {R : α → β → Prop} {f : α → γ} {g : β → γ}
    (same : ∀ a b, R a b → g b = f a) {xs : List α} {ys : List β} (all : List.Forall₂ R xs ys) :
    ys.map g = xs.map f := by
  rw [← List.forall₂_eq_eq_eq, List.forall₂_map_left_iff, List.forall₂_map_right_iff]
  exact (all.imp same).flip

theorem FieldEntry.Means.listed_eq {e : FieldEntry} {f : Field} (h : e.Means f) :
    f.listed = (e.name, e.annotations.map (·.kind)) := by
  rw [Field.listed, h.name, map_eq_map_of_forall₂ (fun _ _ own => own.kind) h.annotations]

theorem Description.Means.listing_eq {d : Description} {t : Target} (h : d.Means t) :
    t.listing = d.listing :=
  map_eq_map_of_forall₂ (fun _ _ own => own.listed_eq) h.fields

theorem Description.Means.proper {d : Description} {t : Target} (h : d.Means t) :
    ∀ f ∈ t.fields, ∀ a ∈ f.annotations, a.Proper := by
  intro f field a mem
  obtain ⟨e, _, own⟩ := exists_of_forall₂ h.fields f field
  obtain ⟨entry, _, described⟩ := exists_of_forall₂ own.annotations a mem
  exact described.proper

theorem exists_firstListedAgain_iff {listing : List (String × List String)} :
    (∃ field kind, FirstListedAgain listing field kind) ↔ ∃ own ∈ listing, ¬own.2.Nodup := by
  constructor
  · rintro ⟨field, kind, cut, _, again⟩
    exact ⟨(field, _), by simp [cut], exists_firstRepeated_iff.mp ⟨kind, again⟩⟩
  · rintro ⟨own, mem, repeated⟩
    -- the first of those that repeat a kind
    induction listing with
    | nil => cases mem
    | cons first rest ih =>
      by_cases apart : first.2.Nodup
      · have later : own ∈ rest := (List.mem_cons.mp mem).resolve_left fun same =>
          repeated (same ▸ apart)
        obtain ⟨field, kind, @⟨before, after, _, _, kinds, cut, clear, again⟩⟩ := ih later
        have longer : first :: rest = (first :: before) ++ (field, kinds) :: after := by
          rw [cut, List.cons_append]
        exact ⟨field, kind, .mk longer (List.forall_mem_cons.mpr ⟨apart, clear⟩) again⟩
      · obtain ⟨kind, again⟩ := exists_firstRepeated_iff.mpr apart
        exact ⟨first.1, kind, .mk (List.nil_append _).symm (List.forall_mem_nil _) again⟩

/-! ## The law -/

/-- To be of one kind is an equivalence, and annotations of one kind have one name for
it; described annotations are of one kind exactly if they are described under one. A
described target in which all else is in order is refused exactly if a field is described
with two entries of one kind, and then for the first of these repetitions. -/
theorem kinds_by_name :
    Equivalence (fun a b : Annotation => a.sameKind b) ∧
    (∀ a b : Annotation, a.sameKind b → a.kind = b.kind) ∧
    (∀ (e e' : AnnotationEntry) (a b : Annotation), e.toMark = .ok a → e'.toMark = .ok b →
      (a.sameKind b ↔ e.kind = e'.kind)) ∧
    ∀ (d : Description) (t : Target), d.toTarget = .ok t → t.WellFormed →
      ((∃ field kind, (Generation.build (some t) .initial).answer =
          .error (.refused (.invalidInput (.repeatedKind field kind)))) ↔
        ∃ e ∈ d.fields, ¬(e.annotations.map (·.kind)).Nodup) ∧
      ∀ failure, (Generation.build (some t) .initial).answer = .error failure ↔
        ∃ field kind, failure = .refused (.invalidInput (.repeatedKind field kind)) ∧
          FirstListedAgain d.listing field kind := by
  refine ⟨?_, ?_, ?_, ?_⟩
  · exact Annotation.sameKind_equivalence
  · intro a b same
    obtain ⟨name, _⟩ := Annotation.sameKind_iff.mp same
    exact name
  · intro e e' a b first second
    have one := AnnotationEntry.means_of_toMark first
    have other := AnnotationEntry.means_of_toMark second
    rw [a.sameKind_iff_of_proper one.proper other.proper, one.kind, other.kind]
  · intro d t described wellFormed
    have means := Description.toTarget_iff_means.mp described
    have refused (failure : Failure) :
        (Generation.build (some t) .initial).answer = .error failure ↔
          ∃ field kind, failure = .refused (.invalidInput (.repeatedKind field kind)) ∧
            FirstListedAgain d.listing field kind := by
      rw [Generation.answer_build_initial_eq_error_iff, ← means.listing_eq]
      simp only [wellFormed.refused_iff means.proper]
      constructor
      · rintro ⟨_, rfl, field, kind, rfl, again⟩
        exact ⟨field, kind, rfl, again⟩
      · rintro ⟨field, kind, rfl, again⟩
        exact ⟨_, rfl, field, kind, rfl, again⟩
    refine ⟨?_, refused⟩
    have listed : (∃ own ∈ d.listing, ¬own.2.Nodup) ↔
        ∃ e ∈ d.fields, ¬(e.annotations.map (·.kind)).Nodup := by
      simp [Description.listing]
    rw [← listed, ← exists_firstListedAgain_iff]
    simp [refused]

/-- Two fields: the kinds of the first differ in one capital, those of the second repeat
a range without numbers. -/
def vane : Description where
  name := "Vane"
  scope := some ""
  lineage := ["MonoBehaviour"]
  fields :=
    [⟨"gust", "int", .isPublic, [⟨"header", some "Wind", none, none, none⟩,
      ⟨"Header", some "Wind", none, none, none⟩]⟩,
    ⟨"pitch", "float", .nonPublic, [⟨"range", none, none, some .nan, some .nan⟩,
      ⟨"min", none, none, some .nan, none⟩, ⟨"range", none, none, some .nan, some .nan⟩]⟩]

/-- The target that it describes. -/
def vaneTarget : Target where
  name := "Vane"
  scope := some ""
  lineage := ["MonoBehaviour"]
  fields := [⟨"gust", "int", .isPublic, [.header "Wind", .unrecognized "Header"]⟩,
    ⟨"pitch", "float", .nonPublic, [.range .nan .nan, .deferred .minimum, .range .nan .nan]⟩]

theorem wellFormed_vaneTarget : vaneTarget.WellFormed where
  eligible := ⟨"MonoBehaviour", by decide, by decide⟩
  name := by decide +kernel
  scope := by
    rintro _ ⟨⟩
    exact .inl rfl
  fields := by decide +kernel

theorem kinds_by_name_vane :
    Annotation.sameKind (.range .nan .nan) (.range .nan (.ofInt 1)) ∧
    Annotation.kind (.range .nan .nan) = Annotation.kind (.range .nan (.ofInt 1)) ∧
    (AnnotationEntry.mk "header" (some "Wind") none none none).toMark = .ok (.header "Wind") ∧
    (AnnotationEntry.mk "Header" none none none none).toMark = .ok (.unrecognized "Header") ∧
    ( Annotation.sameKind (.header "Wind") (.unrecognized "Header") ↔ "header" = "Header") ∧
    vane.toTarget = .ok vaneTarget ∧ vaneTarget.WellFormed ∧
    (∃ e ∈ vane.fields, ¬(e.annotations.map (·.kind)).Nodup) ∧
    (Generation.build (some vaneTarget) .initial).answer =
      .error (.refused (.invalidInput (.repeatedKind "pitch" "range"))) := by
  obtain ⟨_, names, described, law⟩ := kinds_by_name
  have header : (AnnotationEntry.mk "header" (some "Wind") none none none).toMark =
      .ok (.header "Wind") := rfl
  have other : (AnnotationEntry.mk "Header" none none none none).toMark =
      .ok (.unrecognized "Header") := rfl
  have loads : vane.toTarget = .ok vaneTarget := rfl
  obtain ⟨repeats, refused⟩ := law vane vaneTarget loads wellFormed_vaneTarget
  have again : FirstListedAgain vane.listing "pitch" "range" := by
    have listing : vane.listing = [("gust", ["header", "Header"])] ++
        ("pitch", ["range", "min"] ++ "range" :: []) :: [] := rfl
    exact .mk listing (by decide) (.mk rfl (by decide) (by decide))
  have answer := (refused _).mpr ⟨"pitch", "range", rfl, again⟩
  exact ⟨rfl, names _ _ rfl, header, other, described _ _ _ _ header other, loads,
    wellFormed_vaneTarget, repeats.mp ⟨_, _, answer⟩, answer⟩

end Inspector
