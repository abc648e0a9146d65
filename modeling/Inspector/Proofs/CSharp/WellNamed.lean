import Inspector.CSharp.Syntax
import Inspector.Proofs.Text.Run

/-!
# Well-named source files

A syntax tree holds names as texts, and any text fits. A well-named tree has at
each place a name of the form that belongs there: an identifier, identifiers
with dots between them, or, for the result of a method, also the word `void`.

The slots of a tree are all its names, each with its form. They are gathered in
one list for each kind of node, so that a property of all names is said once
and passes from a tree to its parts.
-/

namespace Inspector.CSharp

open Text

/-! ## Slots -/

/-- The form that a name has to have. -/
inductive NameForm where
  /-- An identifier. -/
  | simple
  /-- Identifiers with dots between them. -/
  | qualified
  /-- A qualified name, or the word for no result. -/
  | result
deriving DecidableEq

/-- Whether a name has a form. -/
def NameForm.admits : NameForm → String → Bool
  | simple, name => isIdentifier name
  | qualified, name => isDottedName name
  | result, name => isDottedName name || name == "void"

/-- A name with the form that its place asks for. -/
abbrev Slot : Type := NameForm × String

mutual

/-- The names of an expression. -/
def Expr.slots : Expr → List Slot
  | .str _ => []
  | .int _ => []
  | .float _ => []
  | .ident name => [(.simple, name)]
  | .typeOf type => [(.qualified, type)]
  | .member target name => (.simple, name) :: target.slots
  | .call target method args => (.simple, method) :: target.slots ++ Expr.listSlots args
  | .create type args => (.qualified, type) :: Expr.listSlots args

/-- The names of some expressions. -/
def Expr.listSlots : List Expr → List Slot
  | [] => []
  | e :: rest => e.slots ++ Expr.listSlots rest

end

/-- The names of an attribute. -/
def Attribute.slots (a : Attribute) : List Slot :=
  (.simple, a.name) :: Expr.listSlots a.args

/-- The names of a field declaration. -/
def FieldDecl.slots (f : FieldDecl) : List Slot :=
  (.qualified, f.type) :: (.simple, f.name) :: Expr.listSlots f.initial.toList

/-- The names of a method declaration. -/
def MethodDecl.slots (m : MethodDecl) : List Slot :=
  (.result, m.returns) :: (.simple, m.name) :: Expr.listSlots m.body

/-- The names of a member. -/
def Member.slots : Member → List Slot
  | .field f => f.slots
  | .method m => m.slots

/-- The names of a class. -/
def ClassDecl.slots (c : ClassDecl) : List Slot :=
  (.simple, c.name) :: (.qualified, c.base) ::
    c.attributes.flatMap (·.slots) ++ c.members.flatMap (·.slots)

/-- The names of a source file. -/
def CompilationUnit.slots (u : CompilationUnit) : List Slot :=
  u.scope.toList.map (.qualified, ·) ++ u.imports.map (.qualified, ·) ++ u.cls.slots

/-! ## Well-named -/

/-- Every name has the form that its place asks for. -/
def WellNamed (slots : List Slot) : Prop :=
  ∀ slot ∈ slots, slot.1.admits slot.2

instance (slots : List Slot) : Decidable (WellNamed slots) :=
  inferInstanceAs (Decidable (∀ slot ∈ slots, slot.1.admits slot.2))

@[simp] theorem wellNamed_nil : WellNamed [] := by simp [WellNamed]

@[simp] theorem wellNamed_cons {form : NameForm} {name : String} {slots : List Slot} :
    WellNamed ((form, name) :: slots) ↔ form.admits name ∧ WellNamed slots := by
  simp [WellNamed]

@[simp] theorem wellNamed_append {slots more : List Slot} :
    WellNamed (slots ++ more) ↔ WellNamed slots ∧ WellNamed more :=
  List.forall_mem_append

/-! ## The names of the parts -/

section Parts

variable {p : Slot → Prop}

theorem Expr.forall_listSlots {es : List Expr} :
    (∀ slot ∈ listSlots es, p slot) ↔ ∀ e ∈ es, ∀ slot ∈ e.slots, p slot := by
  induction es with
  | nil => simp [listSlots]
  | cons e rest ih => rw [listSlots, List.forall_mem_append, ih, List.forall_mem_cons]

theorem Attribute.forall_slots {a : Attribute} : (∀ slot ∈ a.slots, p slot) ↔
    p (.simple, a.name) ∧ ∀ e ∈ a.args, ∀ slot ∈ e.slots, p slot := by
  rw [slots, List.forall_mem_cons, Expr.forall_listSlots]

theorem FieldDecl.forall_slots {f : FieldDecl} : (∀ slot ∈ f.slots, p slot) ↔
    p (.qualified, f.type) ∧ p (.simple, f.name) ∧
      ∀ e ∈ f.initial, ∀ slot ∈ e.slots, p slot := by
  rw [slots, List.forall_mem_cons, List.forall_mem_cons, Expr.forall_listSlots]
  simp only [Option.mem_toList, Option.mem_def]

theorem MethodDecl.forall_slots {m : MethodDecl} : (∀ slot ∈ m.slots, p slot) ↔
    p (.result, m.returns) ∧ p (.simple, m.name) ∧ ∀ e ∈ m.body, ∀ slot ∈ e.slots, p slot := by
  rw [slots, List.forall_mem_cons, List.forall_mem_cons, Expr.forall_listSlots]

theorem ClassDecl.forall_slots {c : ClassDecl} : (∀ slot ∈ c.slots, p slot) ↔
    p (.simple, c.name) ∧ p (.qualified, c.base) ∧
      (∀ a ∈ c.attributes, ∀ slot ∈ a.slots, p slot) ∧
      ∀ m ∈ c.members, ∀ slot ∈ m.slots, p slot := by
  rw [slots, List.cons_append, List.cons_append, List.forall_mem_cons, List.forall_mem_cons,
    List.forall_mem_append, List.forall_mem_flatMap, List.forall_mem_flatMap]

end Parts

theorem wellNamed_listSlots {es : List Expr} :
    WellNamed (Expr.listSlots es) ↔ ∀ e ∈ es, WellNamed e.slots :=
  Expr.forall_listSlots

theorem Attribute.wellNamed_iff {a : Attribute} : WellNamed a.slots ↔
    NameForm.simple.admits a.name ∧ ∀ e ∈ a.args, WellNamed e.slots :=
  forall_slots

theorem FieldDecl.wellNamed_iff {f : FieldDecl} : WellNamed f.slots ↔
    NameForm.qualified.admits f.type ∧ NameForm.simple.admits f.name ∧
      ∀ e ∈ f.initial, WellNamed e.slots :=
  forall_slots

theorem MethodDecl.wellNamed_iff {m : MethodDecl} : WellNamed m.slots ↔
    NameForm.result.admits m.returns ∧ NameForm.simple.admits m.name ∧
      ∀ e ∈ m.body, WellNamed e.slots :=
  forall_slots

theorem ClassDecl.wellNamed_iff {c : ClassDecl} : WellNamed c.slots ↔
    NameForm.simple.admits c.name ∧ NameForm.qualified.admits c.base ∧
      (∀ a ∈ c.attributes, WellNamed a.slots) ∧ ∀ m ∈ c.members, WellNamed m.slots :=
  forall_slots

theorem CompilationUnit.wellNamed_iff {u : CompilationUnit} : WellNamed u.slots ↔
    (∀ name ∈ u.scope, NameForm.qualified.admits name) ∧
      (∀ name ∈ u.imports, NameForm.qualified.admits name) ∧ WellNamed u.cls.slots := by
  simp only [slots, wellNamed_append, and_assoc]
  simp [WellNamed]

/-! ## The characters of a name -/

/-- The characters of identifiers, and the dot between them. -/
def isNameChar (c : Char) : Bool :=
  c == '.' || continuesIdentifier c

theorem continues_of_starts {c : Char} (h : startsIdentifier c) : continuesIdentifier c := by
  simp only [startsIdentifier, Bool.or_eq_true] at h
  simp only [continuesIdentifier, isAlphanumeric, Bool.or_eq_true]
  exact h.imp_right .inl

/-- An identifier starts with a letter or an underscore and goes on with its
characters. -/
theorem identifier_cons {name : String} (h : isIdentifier name) : ∃ c rest,
    name.toList = c :: rest ∧ startsIdentifier c ∧ ∀ d ∈ c :: rest, continuesIdentifier d := by
  simp only [isIdentifier, Bool.and_eq_true] at h
  have shape := h.1
  cases text : name.toList with
  | nil => rw [text] at shape; cases shape
  | cons c rest =>
    rw [text, hasIdentifierShape, Bool.and_eq_true, List.all_eq_true] at shape
    refine ⟨c, rest, rfl, shape.1, ?_⟩
    intro d hd
    rcases List.mem_cons.mp hd with rfl | hd
    · exact continues_of_starts shape.1
    · exact shape.2 d hd

theorem continuesIdentifier_of_mem {name : String} (h : isIdentifier name) {c : Char}
    (hc : c ∈ name.toList) : continuesIdentifier c := by
  obtain ⟨d, rest, text, _, all⟩ := identifier_cons h
  exact all c (text ▸ hc)

/-- A reserved word is no identifier. -/
theorem not_isIdentifier_of_keyword {name : String} (h : name ∈ keywords) : ¬isIdentifier name := by
  simp [isIdentifier, h]

theorem isNameChar_of_dotted {name : String} (h : isDottedName name) {c : Char}
    (hc : c ∈ name.toList) : isNameChar c := by
  rw [isDottedName, List.all_eq_true] at h
  rcases mem_segments '.' hc with rfl | ⟨piece, mem, hc⟩
  · rfl
  · have part := continuesIdentifier_of_mem (h piece mem) (c := c) (by simpa using hc)
    simp [isNameChar, part]

theorem ne_nil_of_dotted {name : String} (h : isDottedName name) : name.toList ≠ [] := by
  intro none
  rw [isDottedName, none] at h
  exact absurd h (by decide)

/-- Whatever the form, a name is made of the characters of names. -/
theorem NameForm.isNameChar_of_admits {form : NameForm} {name : String} (h : form.admits name)
    {c : Char} (hc : c ∈ name.toList) : isNameChar c := by
  cases form with
  | simple => simp [isNameChar, continuesIdentifier_of_mem h hc]
  | qualified => exact isNameChar_of_dotted h hc
  | result =>
    rcases Bool.or_eq_true _ _ ▸ h with h | h
    · exact isNameChar_of_dotted h hc
    · rw [beq_iff_eq.mp h] at hc
      exact List.all_eq_true.mp (by decide : "void".toList.all isNameChar) c hc

/-- No marker of source text stands in a name. -/
theorem NameForm.not_mem_of_admits {form : NameForm} {name : String} (h : form.admits name)
    {c : Char} (hc : isNameChar c = false) : c ∉ name.toList := by
  intro mem
  rw [NameForm.isNameChar_of_admits h mem] at hc
  cases hc

/-- Whatever the form, a name is not empty. -/
theorem NameForm.ne_nil_of_admits {form : NameForm} {name : String} (h : form.admits name) :
    name.toList ≠ [] := by
  cases form with
  | simple =>
    obtain ⟨c, rest, text, _⟩ := identifier_cons h
    simp [text]
  | qualified => exact ne_nil_of_dotted h
  | result =>
    rcases Bool.or_eq_true _ _ ▸ h with h | h
    · exact ne_nil_of_dotted h
    · rw [beq_iff_eq.mp h]
      decide

end Inspector.CSharp
