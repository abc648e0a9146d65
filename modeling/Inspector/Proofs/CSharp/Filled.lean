import Inspector.CSharp.Render
import Inspector.Proofs.CSharp.Parts
import Inspector.Proofs.CSharp.WellNamed

/-!
# Names that are there

A source file is rendered unless a required name is empty. The required names
of a tree are gathered role by role (`CompilationUnit.missingName?`), and the
file is rendered exactly if all of them are there (`render_eq_ok_iff`).

Every part of an expression has at most one name of its own, required or not. So
the required names of an expression, and all its names, are those of its parts
(`Expr.names_eq`, `Expr.slots_eq`), and where no name at all is empty, no required
one is (`ClassDecl.filled_of_slots`). A well-named file is one of those.
-/

namespace Inspector.CSharp

/-- No name is empty. -/
def Filled (names : List (NameRole × String)) : Prop :=
  ∀ name ∈ names, name.2 ≠ ""

@[simp] theorem filled_cons {role : NameRole} {name : String} {names : List (NameRole × String)} :
    Filled ((role, name) :: names) ↔ name ≠ "" ∧ Filled names := by
  simp [Filled]

@[simp] theorem filled_append {names more : List (NameRole × String)} :
    Filled (names ++ more) ↔ Filled names ∧ Filled more :=
  List.forall_mem_append

theorem filled_flatMap {α : Type} {xs : List α} {f : α → List (NameRole × String)} :
    Filled (xs.flatMap f) ↔ ∀ x ∈ xs, Filled (f x) :=
  List.forall_mem_flatMap

theorem CompilationUnit.missingName?_eq_none_iff {u : CompilationUnit} :
    u.missingName? = none ↔ Filled u.cls.names := by
  simp [missingName?, Filled]

/-- A file is rendered exactly if its required names are there. -/
theorem CompilationUnit.render_eq_ok_iff {u : CompilationUnit} {text : String} :
    u.render = .ok text ↔ Filled u.cls.names ∧ u.text = text := by
  rw [← missingName?_eq_none_iff, render]
  cases u.missingName? <;> simp

/-! ## Names of parts -/

namespace Expr

/-- The required name that an expression has itself. -/
def ownName? : Expr → Option (NameRole × String)
  | ident name => some (.identifier, name)
  | typeOf type => some (.typeOperand, type)
  | call _ method _ => some (.calledMethod, method)
  | create type _ => some (.constructedType, type)
  | _ => none

/-- The name that an expression has itself, required or not. -/
def ownSlot? : Expr → Option Slot
  | ident name => some (.simple, name)
  | typeOf type => some (.qualified, type)
  | member _ name => some (.simple, name)
  | call _ method _ => some (.simple, method)
  | create type _ => some (.qualified, type)
  | _ => none

mutual

/-- The required names of an expression are those of its parts. -/
theorem names_eq : (e : Expr) → e.names = e.parts.filterMap ownName?
  | .str _ => rfl
  | .int _ => rfl
  | .float _ => rfl
  | .ident _ => rfl
  | .typeOf _ => rfl
  | .member target _ => target.names_eq
  | .call target _ args => by simp [names, ownName?, target.names_eq, listNames_eq args]
  | .create _ args => by simp [names, ownName?, listNames_eq args]

theorem listNames_eq : (es : List Expr) → listNames es = (listParts es).filterMap ownName?
  | [] => rfl
  | e :: rest => by
    rw [listNames, listParts, List.filterMap_append, ← e.names_eq, ← listNames_eq rest]

end

mutual

/-- The names of an expression are those of its parts. -/
theorem slots_eq : (e : Expr) → e.slots = e.parts.filterMap ownSlot?
  | .str _ => rfl
  | .int _ => rfl
  | .float _ => rfl
  | .ident _ => rfl
  | .typeOf _ => rfl
  | .member target _ => by simp [slots, ownSlot?, target.slots_eq]
  | .call target _ args => by simp [slots, ownSlot?, target.slots_eq, listSlots_eq args]
  | .create _ args => by simp [slots, ownSlot?, listSlots_eq args]

theorem listSlots_eq : (es : List Expr) → listSlots es = (listParts es).filterMap ownSlot?
  | [] => rfl
  | e :: rest => by
    rw [listSlots, listParts, List.filterMap_append, ← e.slots_eq, ← listSlots_eq rest]

end

/-- A required name is one of the names. -/
theorem exists_ownSlot? {e : Expr} {role : NameRole} {name : String}
    (own : e.ownName? = some (role, name)) : ∃ form, e.ownSlot? = some (form, name) := by
  cases e <;> cases own <;> exact ⟨_, rfl⟩

theorem filled_of_slots {es : List Expr} (given : ∀ slot ∈ listSlots es, slot.2 ≠ "") :
    Filled (listNames es) := by
  rintro ⟨role, name⟩ mem
  rw [listNames_eq] at mem
  obtain ⟨part, known, own⟩ := List.mem_filterMap.mp mem
  obtain ⟨form, slot⟩ := exists_ownSlot? own
  have among : (form, name) ∈ listSlots es := by
    rw [listSlots_eq]
    exact List.mem_filterMap.mpr ⟨part, known, slot⟩
  exact given _ among

end Expr

/-! ## Names of declarations -/

theorem Attribute.filled_of_slots {a : Attribute} (given : ∀ slot ∈ a.slots, slot.2 ≠ "") :
    Filled a.names := by
  obtain ⟨name, args⟩ := List.forall_mem_cons.mp given
  exact filled_cons.mpr ⟨name, Expr.filled_of_slots args⟩

theorem Member.filled_of_slots {m : Member} (given : ∀ slot ∈ m.slots, slot.2 ≠ "") :
    Filled m.names := by
  cases m with
  | field f =>
    obtain ⟨type, others⟩ := List.forall_mem_cons.mp given
    obtain ⟨name, initial⟩ := List.forall_mem_cons.mp others
    exact filled_cons.mpr ⟨name, filled_cons.mpr ⟨type, Expr.filled_of_slots initial⟩⟩
  | method m =>
    obtain ⟨returns, others⟩ := List.forall_mem_cons.mp given
    obtain ⟨name, body⟩ := List.forall_mem_cons.mp others
    exact filled_cons.mpr ⟨name, filled_cons.mpr ⟨returns, Expr.filled_of_slots body⟩⟩

theorem ClassDecl.filled_of_slots {c : ClassDecl} (given : ∀ slot ∈ c.slots, slot.2 ≠ "") :
    Filled c.names := by
  obtain ⟨name, base, attributes, members⟩ := forall_slots.mp given
  simp only [ClassDecl.names, List.cons_append, filled_cons, filled_append, filled_flatMap]
  exact ⟨name, base, fun a known => Attribute.filled_of_slots (attributes a known),
    fun m known => Member.filled_of_slots (members m known)⟩

/-! ## Well-named files -/

theorem NameForm.ne_empty_of_admits {form : NameForm} {name : String} (h : form.admits name) :
    name ≠ "" := by
  rintro rfl
  exact NameForm.ne_nil_of_admits h rfl

theorem ClassDecl.filled {c : ClassDecl} (h : WellNamed c.slots) : Filled c.names :=
  filled_of_slots fun slot mem => NameForm.ne_empty_of_admits (h slot mem)

/-- A well-named file is rendered, to its text. -/
theorem CompilationUnit.render_of_wellNamed {u : CompilationUnit} (h : WellNamed u.slots) :
    u.render = .ok u.text :=
  render_eq_ok_iff.mpr ⟨ClassDecl.filled (wellNamed_iff.mp h).2.2, rfl⟩

end Inspector.CSharp
