import Inspector.Proofs.Editor.Names
import Mathlib.Logic.Relation

/-!
# What an editor shows of its target

Much of a target never reaches its editor. What does is gathered in a view: the
name, the namespace that counts, and of each serialized field its name, its
annotations with a generated form, and whether its type is an integer type, the
last only if it has a range (`Target.drawn`).

**The law** (`Target.generateEditor_drawn`): accepted targets with one view have
the same source, for every destination. In particular nothing changes under
annotations without a generated form, markers that leave a field as serialized
as it was, fields that are not serialized, other ancestors, or the type of a
field without a range (`Target.Unseen`).

The law is about what is answered. The reports tell the targets apart.
-/

namespace Inspector

open CSharp

/-! ## The view -/

/-- Whether an annotation becomes code. -/
def Annotation.isDrawn : Annotation → Bool
  | header _ => true
  | space _ => true
  | range .. => true
  | tooltip _ => true
  | _ => false

/-- What is drawn of a field. -/
structure DrawnField where
  name : String
  annotations : List Annotation
  /-- Whether the type is an integer type, for a field with a range. -/
  integral : Option Bool
deriving DecidableEq

/-- What is drawn of a target. -/
structure Drawn where
  name : String
  scope : Option String
  fields : List DrawnField
deriving DecidableEq

namespace Field

/-- Whether one of the annotations is a range. -/
def hasRange (f : Field) : Bool :=
  f.annotations.any (·.limits?.isSome)

/-- The view of a field. -/
def drawn (f : Field) : DrawnField where
  name := f.name
  annotations := f.annotations.filter (·.isDrawn)
  integral := if f.hasRange then some f.isIntegral else none

end Field

/-- The view of a target. -/
def Target.drawn (t : Target) : Drawn :=
  ⟨t.name, t.enclosing, t.serializedFields.map (·.drawn)⟩

/-! ## Fields with one view -/

theorem Annotation.meaningless {a : Annotation} (undrawn : ¬a.isDrawn) :
    a.leadStatement? = none ∧ a.limits? = none ∧ a.tooltip? = none := by
  cases a with
  | header | space | range | tooltip => exact absurd rfl undrawn
  | serializeMarker | nonSerializedMarker | deferred | unrecognized => exact ⟨rfl, rfl, rfl⟩

/-- A meaning that only drawn annotations have is not lost in the view. -/
theorem filterMap_drawn {β : Type} {meaning : Annotation → Option β}
    (only : ∀ a, ¬a.isDrawn → meaning a = none) (annotations : List Annotation) :
    (annotations.filter (·.isDrawn)).filterMap meaning = annotations.filterMap meaning := by
  rw [List.filterMap_filter]
  congr 1
  funext a
  by_cases drawn : a.isDrawn
  · simp [drawn]
  · simp [drawn, only a drawn]

namespace Field

variable {f g : Field}

theorem filterMap_eq_of_drawn {β : Type} {meaning : Annotation → Option β}
    (same : f.drawn = g.drawn) (only : ∀ a, ¬a.isDrawn → meaning a = none) :
    f.annotations.filterMap meaning = g.annotations.filterMap meaning := by
  have views := congrArg (fun view => view.annotations.filterMap meaning) same
  simpa only [drawn, filterMap_drawn only] using views

theorem leadStatements_eq_of_drawn (same : f.drawn = g.drawn) :
    f.leadStatements = g.leadStatements := by
  apply filterMap_eq_of_drawn same
  intro a undrawn
  obtain ⟨unled, -, -⟩ := Annotation.meaningless undrawn
  exact unled

theorem limits?_eq_of_drawn (same : f.drawn = g.drawn) : f.limits? = g.limits? := by
  apply congrArg List.getLast?
  apply filterMap_eq_of_drawn same
  intro a undrawn
  obtain ⟨-, unlimited, -⟩ := Annotation.meaningless undrawn
  exact unlimited

theorem tooltip?_eq_of_drawn (same : f.drawn = g.drawn) : f.tooltip? = g.tooltip? := by
  apply congrArg List.getLast?
  apply filterMap_eq_of_drawn same
  intro a undrawn
  obtain ⟨-, -, untipped⟩ := Annotation.meaningless undrawn
  exact untipped

theorem hasRange_of_limits? {limits : Number.Single × Number.Single} (h : f.limits? = some limits) :
    f.hasRange := by
  have mem := List.mem_of_getLast? h
  obtain ⟨a, mem, range⟩ := List.mem_filterMap.mp mem
  exact List.any_eq_true.mpr ⟨a, mem, by simp [range]⟩

theorem drawStatement_eq_of_drawn (same : f.drawn = g.drawn) :
    f.drawStatement = g.drawStatement := by
  have name : f.name = g.name := congrArg DrawnField.name same
  have limits := limits?_eq_of_drawn same
  unfold drawStatement property labelName
  rw [name, ← limits]
  cases found : f.limits? with
  | none => rfl
  | some limits' =>
    -- the type decides between two sliders, and under a range the view has it
    have integral : f.isIntegral = g.isIntegral := by
      have types := congrArg DrawnField.integral same
      simpa [drawn, hasRange_of_limits? found, hasRange_of_limits? (limits ▸ found)] using types
    simp only [integral]

/-- The plan of a field depends on its view. -/
theorem plan_eq_of_drawn (same : f.drawn = g.drawn) : f.plan = g.plan := by
  have name : f.name = g.name := congrArg DrawnField.name same
  unfold plan labelMember labelName
  rw [leadStatements_eq_of_drawn same, limits?_eq_of_drawn same, tooltip?_eq_of_drawn same,
    drawStatement_eq_of_drawn same, name]

end Field

/-! ## Targets with one view -/

theorem Draft.add_eq_of_drawn {f g : Field} (same : f.drawn = g.drawn) (d : Draft) :
    d.add f = d.add g := by
  have name : f.name = g.name := congrArg DrawnField.name same
  unfold add
  rw [Field.plan_eq_of_drawn same, name]

theorem Draft.foldl_add_eq_of_drawn {fs gs : List Field}
    (same : fs.map (·.drawn) = gs.map (·.drawn)) (d : Draft) :
    fs.foldl Draft.add d = gs.foldl Draft.add d := by
  induction fs generalizing gs d with
  | nil =>
    cases gs with
    | nil => rfl
    | cons g gs => cases same
  | cons f fs ih =>
    cases gs with
    | nil => cases same
    | cons g gs =>
      obtain ⟨first, rest⟩ := List.cons.inj same
      rw [List.foldl_cons, List.foldl_cons, add_eq_of_drawn first]
      exact ih rest _

namespace Target

variable {t u : Target}

/-- A request keeps the same of targets with one view. -/
theorem built_eq_of_drawn (same : t.drawn = u.drawn) : Generation.built t = Generation.built u := by
  have name : t.name = u.name := congrArg Drawn.name same
  have scope : t.enclosing = u.enclosing := congrArg Drawn.scope same
  have draft : t.draft = u.draft :=
    Draft.foldl_add_eq_of_drawn (congrArg Drawn.fields same) .start
  have outer : Naming.editorScope t.scope = Naming.editorScope u.scope :=
    congrArg (Option.map (· ++ ".Editor")) scope
  have qualified : t.qualifiedName = u.qualifiedName := by
    unfold qualifiedName
    rw [scope, name]
  unfold Generation.built editor editorClass
  rw [name, outer, qualified, draft]

end Target

/-! ## Unseen changes -/

/-- A change to a field that does not show. -/
inductive Field.Unseen : Field → Field → Prop
  /-- One more annotation without a generated form. -/
  | unsupported {f : Field} {before after : List Annotation} {a : Annotation}
    (cut : f.annotations = before ++ after) (unsupported : a.isUnsupported) :
    Unseen f { f with annotations := before ++ a :: after }
  /-- One more marker that does not change whether the field is serialized. -/
  | marker {f : Field} {before after : List Annotation} {a : Annotation}
    (cut : f.annotations = before ++ after)
    (marker : a = .serializeMarker ∨ a = .nonSerializedMarker)
    (still : { f with annotations := before ++ a :: after }.isSerialized = f.isSerialized) :
    Unseen f { f with annotations := before ++ a :: after }
  /-- Another type, without a range. -/
  | type {f : Field} (type : String) (unlimited : ¬f.hasRange) : Unseen f { f with type := type }

/-- A change to a target that does not show. -/
inductive Target.Unseen : Target → Target → Prop
  /-- A change to one of the fields. -/
  | field {t : Target} {before after : List Field} {f g : Field}
    (cut : t.fields = before ++ f :: after) (unseen : f.Unseen g) :
    Unseen t { t with fields := before ++ g :: after }
  /-- One more field that is not serialized. -/
  | unselected {t : Target} {before after : List Field} {f : Field}
    (cut : t.fields = before ++ after) (unselected : ¬f.isSerialized) :
    Unseen t { t with fields := before ++ f :: after }
  /-- Other ancestors. -/
  | ancestors {t : Target} (lineage : List String) : Unseen t { t with lineage := lineage }

namespace Field

variable {f g : Field}

/-- One more annotation that is not drawn is not in the view. -/
theorem drawn_insert {before after : List Annotation} {a : Annotation}
    (cut : f.annotations = before ++ after) (undrawn : ¬a.isDrawn) :
    { f with annotations := before ++ a :: after }.drawn = f.drawn := by
  obtain ⟨-, unlimited, -⟩ := Annotation.meaningless undrawn
  simp [drawn, hasRange, isIntegral, cut, undrawn, unlimited]

theorem Unseen.drawn_eq (h : f.Unseen g) : f.drawn = g.drawn := by
  cases h with
  | @unsupported before after a cut unsupported =>
    have undrawn : ¬a.isDrawn := by
      cases a <;> first | exact Bool.false_ne_true | cases unsupported
    exact (drawn_insert cut undrawn).symm
  | @marker before after a cut marker still =>
    have undrawn : ¬a.isDrawn := by
      rcases marker with rfl | rfl <;> exact Bool.false_ne_true
    exact (drawn_insert cut undrawn).symm
  | type type unlimited =>
    have unlimited' : ¬{ f with type := type }.hasRange := unlimited
    simp only [drawn, if_neg unlimited, if_neg unlimited']

theorem Unseen.isSerialized_eq (h : f.Unseen g) : f.isSerialized = g.isSerialized := by
  cases h with
  | @unsupported before after a cut unsupported =>
    have apart : a ≠ .serializeMarker ∧ a ≠ .nonSerializedMarker := by
      constructor <;> rintro rfl <;> cases unsupported
    simp [isSerialized, isPublic, cut, apart.1.symm, apart.2.symm]
  | marker cut marker still => exact still.symm
  | type => rfl

end Field

namespace Target

variable {t u : Target}

theorem Unseen.drawn_eq (h : Unseen t u) : t.drawn = u.drawn := by
  cases h with
  | @field before after f g cut unseen =>
    have fields : t.serializedFields.map Field.drawn =
        { t with fields := before ++ g :: after }.serializedFields.map Field.drawn := by
      -- the change keeps the selection: both lists have the field, or neither
      by_cases selected : f.isSerialized
      · simp [serializedFields, cut, selected, ← unseen.isSerialized_eq, unseen.drawn_eq]
      · simp [serializedFields, cut, selected, ← unseen.isSerialized_eq]
    exact congrArg (Drawn.mk t.name t.enclosing) fields
  | unselected cut unselected =>
    simp [drawn, serializedFields, enclosing, cut, unselected]
  | ancestors lineage => rfl

/-- Whatever is changed unseen, the view stays. -/
theorem drawn_eq_of_unseen (h : Relation.EqvGen Unseen t u) : t.drawn = u.drawn := by
  induction h with
  | rel t u unseen => exact unseen.drawn_eq
  | refl t => rfl
  | symm t u _ ih => exact ih.symm
  | trans t u v _ _ first second => exact first.trans second

/-! ## The law -/

/-- Accepted targets that show the same have the same source for every destination. -/
theorem generateEditor_drawn (accepted : (Generation.build (some t) .initial).answer = .ok ())
    (accepted' : (Generation.build (some u) .initial).answer = .ok ())
    (alike : t.drawn = u.drawn ∨ Relation.EqvGen Unseen t u) (destination : Destination) :
    ∃ source, (generateEditor (some t) destination).answer = .ok source ∧
      (generateEditor (some u) destination).answer = .ok source := by
  have first := acceptable_of_build accepted
  have second := acceptable_of_build accepted'
  have same : t.drawn = u.drawn := alike.elim id drawn_eq_of_unseen
  obtain ⟨source, answer⟩ : ∃ source,
      (Generation.render destination (.built t)).answer = .ok source :=
    ⟨_, first.render_built destination⟩
  refine ⟨source, ?_, ?_⟩
  · rw [generateEditor_of_accept first.accept]
    exact answer
  · rw [generateEditor_of_accept second.accept, ← built_eq_of_drawn same]
    exact answer

/-- A target with a slider over integers and a field that is only labelled. -/
def probe : Target where
  name := "Probe"
  scope := none
  lineage := ["MonoBehaviour"]
  fields :=
    [⟨"depth", "int", .isPublic, [.range (.ofInt 0) (.ofInt 9), .header "Dive"]⟩,
    ⟨"tag", "string", .isPublic, [.tooltip "Name"]⟩]

/-- The same with everything added that does not show. -/
def probeDisguised : Target where
  name := "Probe"
  scope := some ""
  lineage := ["Vessel", "UnityEngine.ScriptableObject"]
  fields :=
    [⟨"hidden", "float", .nonPublic, [.space (.ofInt 4)]⟩,
    ⟨"depth", "System.UInt16", .nonPublic,
      [.deferred .delayed, .range (.ofInt 0) (.ofInt 9), .serializeMarker, .header "Dive"]⟩,
    ⟨"tag", "Color", .isPublic, [.unrecognized "header", .tooltip "Name", .unrecognized "range"]⟩]

theorem generateEditor_drawn_probe :
    (Generation.build (some probe) .initial).answer = .ok () ∧
    (Generation.build (some probeDisguised) .initial).answer = .ok () ∧
    probe.drawn = probeDisguised.drawn ∧
    ∃ source, (generateEditor (some probe) (.directory "Assets")).answer = .ok source ∧
      (generateEditor (some probeDisguised) (.directory "Assets")).answer = .ok source :=
  have accepted : (Generation.build (some probe) .initial).answer = .ok () := rfl
  have accepted' : (Generation.build (some probeDisguised) .initial).answer = .ok () := rfl
  have same : probe.drawn = probeDisguised.drawn := rfl
  ⟨accepted, accepted', same, generateEditor_drawn accepted accepted' (.inl same) _⟩

end Target

end Inspector
