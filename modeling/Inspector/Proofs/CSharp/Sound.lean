import Inspector.CSharp.Name
import Inspector.Proofs.Target.Identifiers

/-!
# Sound names

A name is judged twice: by the form of its place (`WellNamed`), and, where it must
be there, by what it is for. The names of a tree are sound if they pass both.

Soundness is said for each kind of syntax node by its parts (`Expr.sound_call`,
`Member.sound_field` and so on), so that the soundness of a tree is read off its
pieces.
-/

namespace Inspector.CSharp

/-- Whether a required name is what its role asks for. Only types that are
referred to may have dots, and no method of an editor has a result. -/
def NameRole.admits : NameRole → String → Bool
  | .baseType, name => isDottedName name
  | .typeOperand, name => isDottedName name
  | .returnType, name => name == "void"
  | _, name => isIdentifier name

/-- Names as they should be: all by their form, the required ones by their role. -/
def Sound (slots : List Slot) (required : List (NameRole × String)) : Prop :=
  WellNamed slots ∧ ∀ name ∈ required, name.1.admits name.2

/-! ## Lists of names -/

variable {slots more : List Slot} {required others : List (NameRole × String)}

theorem sound_nil : Sound [] [] := by simp [Sound]

theorem sound_cons {form : NameForm} {role : NameRole} {name : String} (formed : form.admits name)
    (fitting : role.admits name) (rest : Sound slots required) :
    Sound ((form, name) :: slots) ((role, name) :: required) :=
  ⟨wellNamed_cons.mpr ⟨formed, rest.1⟩, List.forall_mem_cons.mpr ⟨fitting, rest.2⟩⟩

theorem sound_append (h : Sound slots required) (h' : Sound more others) :
    Sound (slots ++ more) (required ++ others) :=
  ⟨wellNamed_append.mpr ⟨h.1, h'.1⟩, List.forall_mem_append.mpr ⟨h.2, h'.2⟩⟩

theorem sound_flatMap {α : Type} {xs : List α} {f : α → List Slot}
    {g : α → List (NameRole × String)} (h : ∀ x ∈ xs, Sound (f x) (g x)) :
    Sound (xs.flatMap f) (xs.flatMap g) := by
  induction xs with
  | nil => exact sound_nil
  | cons x xs ih =>
    rw [List.flatMap_cons, List.flatMap_cons]
    apply sound_append
    · exact h x List.mem_cons_self
    · exact ih fun y mem => h y (List.mem_cons_of_mem _ mem)

/-! ## Syntax trees -/

namespace Expr

/-- An expression with sound names. -/
def Sound (e : Expr) : Prop := CSharp.Sound e.slots e.names

theorem sound_list {es : List Expr} (h : ∀ e ∈ es, e.Sound) :
    CSharp.Sound (listSlots es) (listNames es) := by
  induction es with
  | nil => exact sound_nil
  | cons e es ih =>
    apply sound_append
    · exact h e List.mem_cons_self
    · exact ih fun e mem => h e (List.mem_cons_of_mem _ mem)

theorem sound_str (value : String) : (str value).Sound := sound_nil

theorem sound_int (value : Int) : (int value).Sound := sound_nil

theorem sound_float (value : Number.Single) : (float value).Sound := sound_nil

theorem sound_ident {name : String} (h : isIdentifier name) : (ident name).Sound :=
  sound_cons h h sound_nil

theorem sound_typeOf {type : String} (h : isDottedName type) : (typeOf type).Sound :=
  sound_cons h h sound_nil

theorem sound_member {target : Expr} {name : String} (h : isIdentifier name)
    (sound : target.Sound) : (member target name).Sound :=
  ⟨wellNamed_cons.mpr ⟨h, sound.1⟩, sound.2⟩

theorem sound_call {target : Expr} {method : String} {args : List Expr} (h : isIdentifier method)
    (sound : target.Sound) (all : ∀ e ∈ args, e.Sound) : (call target method args).Sound :=
  sound_cons h h (sound_append sound (sound_list all))

theorem sound_create {type : String} {args : List Expr} (h : isIdentifier type)
    (all : ∀ e ∈ args, e.Sound) : (create type args).Sound :=
  sound_cons (isDottedName_of_isIdentifier h) h (sound_list all)

end Expr

namespace Member

/-- A member with sound names. -/
def Sound (m : Member) : Prop := CSharp.Sound m.slots m.names

theorem sound_field {access : Access} {type name : String} {initial : Option Expr}
    (typed : isIdentifier type) (named : isIdentifier name) (all : ∀ e ∈ initial, e.Sound) :
    (field ⟨access, type, name, initial⟩).Sound := by
  have value : CSharp.Sound (Expr.listSlots initial.toList) (Expr.listNames initial.toList) :=
    Expr.sound_list (by simpa using all)
  refine ⟨FieldDecl.wellNamed_iff.mpr ⟨isDottedName_of_isIdentifier typed, named, ?_⟩, ?_⟩
  · exact fun e mem => (all e mem).1
  · exact List.forall_mem_cons.mpr ⟨named, List.forall_mem_cons.mpr ⟨typed, value.2⟩⟩

theorem sound_method {access : Access} {overrides : Bool} {name : String} {body : List Expr}
    (named : isIdentifier name) (all : ∀ e ∈ body, e.Sound) :
    (method ⟨access, overrides, "void", name, body⟩).Sound := by
  have void : NameForm.result.admits "void" ∧ NameRole.returnType.admits "void" := by decide
  refine ⟨MethodDecl.wellNamed_iff.mpr ⟨void.1, named, fun e mem => (all e mem).1⟩, ?_⟩
  exact List.forall_mem_cons.mpr
    ⟨named, List.forall_mem_cons.mpr ⟨void.2, (Expr.sound_list all).2⟩⟩

end Member

theorem Attribute.sound {name : String} {args : List Expr} (named : isIdentifier name)
    (all : ∀ e ∈ args, e.Sound) :
    Sound (Attribute.slots ⟨name, args⟩) (Attribute.names ⟨name, args⟩) :=
  sound_cons named named (Expr.sound_list all)

theorem ClassDecl.sound {access : Access} {name base : String} {attributes : List Attribute}
    {members : List Member} (named : isIdentifier name) (dotted : isDottedName base)
    (all : ∀ a ∈ attributes, Sound a.slots a.names) (each : ∀ m ∈ members, m.Sound) :
    Sound (ClassDecl.slots ⟨access, name, base, attributes, members⟩)
      (ClassDecl.names ⟨access, name, base, attributes, members⟩) :=
  sound_cons named named (sound_cons dotted dotted
    (sound_append (sound_flatMap all) (sound_flatMap each)))

/-! ## Reserved words -/

/-- A reserved word stands in well-named source only where there is no result. -/
theorem WellNamed.eq_void_of_keyword (h : WellNamed slots) :
    ∀ slot ∈ slots, slot.2 ∈ keywords → slot = (.result, "void") := by
  rintro ⟨form, name⟩ mem reserved
  have admitted := h _ mem
  cases form with
  | simple => exact absurd admitted (not_isIdentifier_of_keyword reserved)
  | qualified => exact absurd admitted (not_isDottedName_of_keyword reserved)
  | result =>
    simp only [NameForm.admits, Bool.or_eq_true, beq_iff_eq] at admitted
    rw [admitted.resolve_left (not_isDottedName_of_keyword reserved)]

end Inspector.CSharp
