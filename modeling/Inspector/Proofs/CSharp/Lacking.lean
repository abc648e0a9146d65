import Inspector.Proofs.CSharp.Filled

/-!
# Names that are not there

A source file lacks a name if one that it must have is empty, in a declaration or
in an expression at any depth (`CompilationUnit.Lacks`).

**The law** (`CompilationUnit.rejected_iff_lacks`): a source file is rejected exactly
if it lacks a name, for what one of the names it lacks is for; otherwise its text is
the answer.

The name of an accessed member is not among the names that a file must have, although
an empty one is no better than any other: `EditorStyles.` is no expression. A file that
is malformed only there is rendered (`unnamed_member_rendered`).
-/

namespace Inspector.CSharp

/-! ## Lacking a name -/

namespace CompilationUnit

/-- A name for a role is empty. -/
inductive Lacks (u : CompilationUnit) : NameRole → Prop where
  | className (empty : u.cls.name = "") : Lacks u .className
  | baseType (empty : u.cls.base = "") : Lacks u .baseType
  | attributeName {a : Attribute} (known : a ∈ u.cls.attributes) (empty : a.name = "") :
    Lacks u .attributeName
  | fieldName {f : FieldDecl} (known : .field f ∈ u.cls.members) (empty : f.name = "") :
    Lacks u .fieldName
  | fieldType {f : FieldDecl} (known : .field f ∈ u.cls.members) (empty : f.type = "") :
    Lacks u .fieldType
  | methodName {m : MethodDecl} (known : .method m ∈ u.cls.members) (empty : m.name = "") :
    Lacks u .methodName
  | returnType {m : MethodDecl} (known : .method m ∈ u.cls.members) (empty : m.returns = "") :
    Lacks u .returnType
  | identifier (part : .ident "" ∈ u.parts) : Lacks u .identifier
  | typeOperand (part : .typeOf "" ∈ u.parts) : Lacks u .typeOperand
  | calledMethod {target : Expr} {args : List Expr} (part : .call target "" args ∈ u.parts) :
    Lacks u .calledMethod
  | constructedType {args : List Expr} (part : .create "" args ∈ u.parts) :
    Lacks u .constructedType

/-- The name of an accessed member is empty. -/
def LacksMember (u : CompilationUnit) : Prop :=
  ∃ target, .member target "" ∈ u.parts

/-- A name is empty that should not be. -/
def Malformed (u : CompilationUnit) : Prop :=
  (∃ role, u.Lacks role) ∨ u.LacksMember

end CompilationUnit

/-! ## The required names of a file -/

theorem Expr.mem_listNames {es : List Expr} {name : NameRole × String} :
    name ∈ listNames es ↔ ∃ part ∈ listParts es, part.ownName? = some name := by
  rw [listNames_eq, List.mem_filterMap]

namespace CompilationUnit

variable {u : CompilationUnit} {role : NameRole}

/-- A part of a file belongs to an attribute or to a member. -/
theorem mem_parts {part : Expr} : part ∈ u.parts ↔
    (∃ a ∈ u.cls.attributes, part ∈ Expr.listParts a.args) ∨
      ∃ m ∈ u.cls.members, part ∈ Expr.listParts m.exprs := by
  rw [parts, ClassDecl.exprs, Expr.listParts_append, Expr.listParts_flatMap,
    Expr.listParts_flatMap, List.mem_append, List.mem_flatMap, List.mem_flatMap]

/-- An empty name of a part is one that the file lacks. -/
theorem Lacks.of_part {part : Expr} (known : part ∈ u.parts)
    (own : part.ownName? = some (role, "")) : u.Lacks role := by
  cases part <;> cases own
  case ident => exact .identifier known
  case typeOf => exact .typeOperand known
  case call => exact .calledMethod known
  case create => exact .constructedType known

/-- An empty name of a member, its own or one of its expressions, is one that the file
lacks. -/
theorem Lacks.of_member {m : Member} (known : m ∈ u.cls.members) (own : (role, "") ∈ m.names) :
    u.Lacks role := by
  have inner (mem : (role, "") ∈ Expr.listNames m.exprs) : u.Lacks role := by
    obtain ⟨part, among, own⟩ := Expr.mem_listNames.mp mem
    exact .of_part (mem_parts.mpr (.inr ⟨m, known, among⟩)) own
  cases m with
  | field f =>
    simp only [Member.names, FieldDecl.names, List.mem_cons, Prod.mk.injEq] at own
    rcases own with ⟨rfl, empty⟩ | ⟨rfl, empty⟩ | mem
    · exact .fieldName known empty.symm
    · exact .fieldType known empty.symm
    · exact inner mem
  | method m =>
    simp only [Member.names, MethodDecl.names, List.mem_cons, Prod.mk.injEq] at own
    rcases own with ⟨rfl, empty⟩ | ⟨rfl, empty⟩ | mem
    · exact .methodName known empty.symm
    · exact .returnType known empty.symm
    · exact inner mem

theorem lacks_of_mem_names (mem : (role, "") ∈ u.cls.names) : u.Lacks role := by
  simp only [ClassDecl.names, List.cons_append, List.mem_cons, Prod.mk.injEq, List.mem_append,
    List.mem_flatMap] at mem
  rcases mem with ⟨rfl, empty⟩ | ⟨rfl, empty⟩ | ⟨a, known, mem⟩ | ⟨m, known, mem⟩
  · exact .className empty.symm
  · exact .baseType empty.symm
  · simp only [Attribute.names, List.mem_cons, Prod.mk.injEq] at mem
    rcases mem with ⟨rfl, empty⟩ | mem
    · exact .attributeName known empty.symm
    · obtain ⟨part, among, own⟩ := Expr.mem_listNames.mp mem
      exact .of_part (mem_parts.mpr (.inl ⟨a, known, among⟩)) own
  · exact .of_member known mem

theorem mem_names_of_attribute {a : Attribute} {name : NameRole × String}
    (known : a ∈ u.cls.attributes) (own : name ∈ a.names) : name ∈ u.cls.names :=
  List.mem_append_left _ (List.mem_cons_of_mem _ (List.mem_cons_of_mem _
    (List.mem_flatMap_of_mem known own)))

theorem mem_names_of_member {m : Member} {name : NameRole × String} (known : m ∈ u.cls.members)
    (own : name ∈ m.names) : name ∈ u.cls.names :=
  List.mem_append_right _ (List.mem_flatMap_of_mem known own)

/-- The name of a part is among the required names of the file. -/
theorem mem_names_of_part {part : Expr} {name : NameRole × String} (known : part ∈ u.parts)
    (own : part.ownName? = some name) : name ∈ u.cls.names := by
  rcases mem_parts.mp known with ⟨a, known, among⟩ | ⟨m, known, among⟩
  · exact mem_names_of_attribute known
      (List.mem_cons_of_mem _ (Expr.mem_listNames.mpr ⟨part, among, own⟩))
  · have inner : name ∈ Expr.listNames m.exprs := Expr.mem_listNames.mpr ⟨part, among, own⟩
    refine mem_names_of_member known ?_
    cases m <;> exact List.mem_cons_of_mem _ (List.mem_cons_of_mem _ inner)

/-- What a file lacks are its empty required names. -/
theorem lacks_iff : u.Lacks role ↔ (role, "") ∈ u.cls.names := by
  refine ⟨fun lacks => ?_, lacks_of_mem_names⟩
  cases lacks with
  | className empty => simp [ClassDecl.names, empty]
  | baseType empty => simp [ClassDecl.names, empty]
  | attributeName known empty =>
    exact mem_names_of_attribute known (by simp [Attribute.names, empty])
  | fieldName known empty =>
    exact mem_names_of_member known (by simp [Member.names, FieldDecl.names, empty])
  | fieldType known empty =>
    exact mem_names_of_member known (by simp [Member.names, FieldDecl.names, empty])
  | methodName known empty =>
    exact mem_names_of_member known (by simp [Member.names, MethodDecl.names, empty])
  | returnType known empty =>
    exact mem_names_of_member known (by simp [Member.names, MethodDecl.names, empty])
  | identifier part => exact mem_names_of_part part rfl
  | typeOperand part => exact mem_names_of_part part rfl
  | calledMethod part => exact mem_names_of_part part rfl
  | constructedType part => exact mem_names_of_part part rfl

theorem filled_iff : Filled u.cls.names ↔ ∀ role, ¬u.Lacks role := by
  constructor
  · intro filled role lacks
    exact filled _ (lacks_iff.mp lacks) rfl
  · rintro none ⟨role, name⟩ mem empty
    cases (empty : name = "")
    exact none role (lacks_iff.mpr mem)

theorem lacks_of_render_eq_error (rejected : u.render = .error role) : u.Lacks role := by
  rw [render] at rejected
  cases missing : u.missingName? with
  | none =>
    rw [missing] at rejected
    cases rejected
  | some other =>
    rw [missing] at rejected
    cases rejected
    obtain ⟨⟨role, name⟩, found, rfl⟩ := Option.map_eq_some_iff.mp missing
    have empty : name = "" := by simpa using List.find?_some found
    cases empty
    exact lacks_iff.mpr (List.mem_of_find?_eq_some found)

end CompilationUnit

theorem NameRole.missingMessage_eq (role : NameRole) : ∃ rest,
    role.missingMessage = "render precondition violated: " ++ rest :=
  ⟨role.description ++ " has an empty name", String.append_assoc⟩

/-! ## The law -/

namespace CompilationUnit

theorem exists_error_iff {u : CompilationUnit} :
    (∃ role, u.render = .error role) ↔ ∃ role, u.Lacks role := by
  constructor
  · rintro ⟨role, rejected⟩
    exact ⟨role, lacks_of_render_eq_error rejected⟩
  · rintro ⟨role, lacks⟩
    cases answer : u.render with
    | error other => exact ⟨other, rfl⟩
    | ok text => exact absurd lacks (filled_iff.mp (render_eq_ok_iff.mp answer).1 role)

theorem exists_ok_iff {u : CompilationUnit} :
    (∃ text, u.render = .ok text) ↔ ∀ role, ¬u.Lacks role := by
  simp only [render_eq_ok_iff, filled_iff, exists_and_left, exists_eq', and_true]

/-- A file is rejected exactly if it lacks a name, with a message on a name that it
lacks; otherwise its text is the answer. So a malformed file is rendered exactly if
only names of accessed members are empty in it. -/
theorem rejected_iff_lacks (u : CompilationUnit) :
    ((∃ role, u.render = .error role) ↔ ∃ role, u.Lacks role) ∧
      (∀ role, u.render = .error role →
        u.Lacks role ∧ ∃ rest, role.missingMessage = "render precondition violated: " ++ rest) ∧
      (u.render = .ok u.text ↔ ∀ role, ¬u.Lacks role) ∧
      ((u.Malformed ∧ ∃ text, u.render = .ok text) ↔ u.LacksMember ∧ ∀ role, ¬u.Lacks role) := by
  refine ⟨exists_error_iff, fun role rejected => ?_, ?_, ?_⟩
  · exact ⟨lacks_of_render_eq_error rejected, role.missingMessage_eq⟩
  · rw [render_eq_ok_iff, filled_iff, and_iff_left rfl]
  · rw [exists_ok_iff]
    refine and_congr_left fun whole => or_iff_right ?_
    rintro ⟨role, lacks⟩
    exact whole role lacks

/-- A file in which an argument accesses a member without a name. -/
def nameless : CompilationUnit :=
  .of (some "Game") ["Game"]
    { access := .isPublic
      name := "Panel"
      base := "Base"
      attributes := []
      members :=
        [.method ⟨.isPublic, true, "void", "Draw",
          [.call (.ident "area") "Show" [.str "", .member (.ident "Styles") ""]]⟩] }

/-- It is malformed, and rendered with a line that is no statement. -/
theorem unnamed_member_rendered : nameless.Malformed ∧ nameless.render = .ok nameless.text ∧
    .code 3 "area.Show(\"\", Styles.);".toList ∈ nameless.lines := by
  refine ⟨.inr ⟨.ident "Styles", ?_⟩, rfl, by decide⟩
  simp [nameless, of, parts, ClassDecl.exprs, Member.exprs, Expr.listParts]

end CompilationUnit

end Inspector.CSharp
