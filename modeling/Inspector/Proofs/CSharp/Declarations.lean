import Inspector.Proofs.CSharp.Beginnings
import Inspector.Proofs.CSharp.Characters
import Inspector.Proofs.CSharp.Expressions

/-!
# Declarations read back

Every attribute, field, method and statement of a class begins with a line of
its own, and that line tells what it declares. The pieces of a line are names,
which hold no spaces, brackets or semicolons, and expressions, which are taken
apart by their own law.

What is foreign to source stands in a line only where one of its string literals
holds it. No literal holds the end of a line, so every declaration stays on its
lines (`Member.tidy_lines`).
-/

namespace Inspector.CSharp

open Number Text

variable {c : Char}

/-! ## Attributes -/

namespace Attribute

/-- What an attribute has behind its name. -/
def tail (a : Attribute) : List Char :=
  match a.args with
  | [] => [']']
  | args => '(' :: Expr.argsText args ++ [')', ']']

theorem text_eq (a : Attribute) : a.text = '[' :: (a.name.toList ++ a.tail) := by
  obtain ⟨name, _ | ⟨e, rest⟩⟩ := a
  · rfl
  · simp [text, tail]

theorem begins (a : Attribute) : Begins a.text := by
  rw [text_eq]
  exact begins_cons (by decide) _

theorem stops_tail (a : Attribute) : Stops continuesIdentifier a.tail := by
  obtain ⟨name, _ | ⟨e, rest⟩⟩ := a <;> exact stops_cons (by decide) _

/-- The line of an attribute tells the attribute. -/
theorem text_cancel {a a' : Attribute} (named : WellNamed a.slots) (named' : WellNamed a'.slots)
    (h : a.text = a'.text) : a = a' := by
  obtain ⟨simple, args⟩ := wellNamed_iff.mp named
  obtain ⟨simple', args'⟩ := wellNamed_iff.mp named'
  rw [text_eq, text_eq] at h
  obtain ⟨names, tails⟩ := run_cancel (fun _ => continuesIdentifier_of_mem simple)
    (fun _ => continuesIdentifier_of_mem simple') a.stops_tail a'.stops_tail (List.cons.inj h).2
  obtain ⟨name, own⟩ := a
  obtain ⟨name', own'⟩ := a'
  have same : own = own' := by
    cases own with
    | nil =>
      cases own' with
      | nil => rfl
      | cons => exact absurd (List.cons.inj tails).1 (by decide)
    | cons e rest =>
      cases own' with
      | nil => exact absurd (List.cons.inj tails).1 (by decide)
      | cons e' rest' =>
        simp only [tail, List.cons_append] at tails
        exact (Expr.argsText_cancel args args' (fun e he => Expr.cancels (args e he))
          (List.cons.inj tails).2).1
  cases same
  cases (String.toList_inj.mp names : name = name')
  rfl

theorem mem_text_iff (foreign : Foreign c) {a : Attribute} (free : Free c a.slots) :
    c ∈ a.text ↔ Expr.Quoted c a.args := by
  obtain ⟨name, args⟩ := forall_slots.mp free
  have tail : c ∈ a.tail ↔ Expr.Quoted c a.args := by
    obtain ⟨name, _ | ⟨e, rest⟩⟩ := a
    · exact iff_of_false (foreign.not_mem (s := [']']) (by decide)) Expr.not_quoted_nil
    · simp only [tail]
      rw [List.cons_append, foreign.mem_cons_iff (by decide), List.mem_append,
        Expr.mem_argsText_iff foreign args, or_iff_left (foreign.not_mem (by decide))]
  rw [text_eq, foreign.mem_cons_iff (by decide), List.mem_append, tail, or_iff_right name]

end Attribute

/-! ## Fields -/

theorem Access.text_cons (a : Access) : ∃ more, a.text = 'p' :: more := by
  cases a with
  | isPublic => exact ⟨"ublic".toList, rfl⟩
  | isPrivate => exact ⟨"rivate".toList, rfl⟩

theorem Access.begins (a : Access) (rest : List Char) : Begins (a.text ++ rest) := by
  obtain ⟨more, text⟩ := a.text_cons
  rw [text]
  exact begins_cons (by decide) _

theorem Access.text_injective : Function.Injective Access.text := by
  intro a b same
  cases a <;> cases b
  case isPublic.isPrivate => exact absurd same (by decide)
  case isPrivate.isPublic => exact absurd same (by decide)
  all_goals rfl

theorem Access.not_mem_text {c : Char} (h : isNameChar c = false) (a : Access) : c ∉ a.text := by
  have all : ∀ d ∈ a.text, isNameChar d := by
    cases a with
    | isPublic => exact List.all_eq_true.mp (by decide : "public".toList.all isNameChar)
    | isPrivate => exact List.all_eq_true.mp (by decide : "private".toList.all isNameChar)
  intro mem
  rw [all c mem] at h
  cases h

namespace FieldDecl

theorem text_eq (f : FieldDecl) :
    f.text = f.access.text ++ ' ' :: (f.type.toList ++ ' ' :: (f.name.toList ++
      (initialText f.initial ++ [';']))) := by
  simp [text]

theorem begins (f : FieldDecl) : Begins f.text := by
  rw [text_eq]
  exact f.access.begins _

theorem stops_initialText (initial : Option Expr) :
    Stops continuesIdentifier (initialText initial ++ [';']) := by
  cases initial with
  | none => exact stops_cons (by decide) _
  | some e => exact stops_cons (a := ' ') (by decide) _

theorem initialText_cancel {i i' : Option Expr} (named : ∀ e ∈ i, WellNamed e.slots)
    (named' : ∀ e ∈ i', WellNamed e.slots)
    (h : initialText i ++ [';'] = initialText i' ++ [';']) : i = i' := by
  cases i with
  | none =>
    cases i' with
    | none => rfl
    | some e' => exact absurd (congrArg List.head? h) (by decide : some ';' ≠ some ' ')
  | some e =>
    cases i' with
    | none => exact absurd (congrArg List.head? h) (by decide : some ' ' ≠ some ';')
    | some e' =>
      simp only [initialText, List.append_assoc] at h
      obtain ⟨same, _⟩ := Expr.cancels (named e (by simp)) (named' e' (by simp))
        (closes_cons (by decide) []) (closes_cons (by decide) []) (List.append_cancel_left h)
      rw [same]

/-- The line of a field tells the declaration. -/
theorem text_cancel {f f' : FieldDecl} (named : WellNamed f.slots) (named' : WellNamed f'.slots)
    (h : f.text = f'.text) : f = f' := by
  obtain ⟨type, name, initial⟩ := wellNamed_iff.mp named
  obtain ⟨type', name', initial'⟩ := wellNamed_iff.mp named'
  rw [text_eq, text_eq] at h
  obtain ⟨accesses, rest⟩ := marker_cancel (f.access.not_mem_text (by decide))
    (f'.access.not_mem_text (by decide)) h
  obtain ⟨types, rest⟩ := marker_cancel (NameForm.not_mem_of_admits type (by decide))
    (NameForm.not_mem_of_admits type' (by decide)) rest
  obtain ⟨names, rest⟩ := run_cancel (fun _ => continuesIdentifier_of_mem name)
    (fun _ => continuesIdentifier_of_mem name') (stops_initialText _) (stops_initialText _) rest
  have initials := initialText_cancel initial initial' rest
  cases f
  cases f'
  cases Access.text_injective accesses
  cases String.toList_inj.mp types
  cases String.toList_inj.mp names
  cases initials
  rfl

theorem mem_text_iff (foreign : Foreign c) {f : FieldDecl} (free : Free c f.slots) :
    c ∈ f.text ↔ Expr.Quoted c f.initial.toList := by
  obtain ⟨type, name, initial⟩ := forall_slots.mp free
  have value : c ∈ initialText f.initial ↔ Expr.Quoted c f.initial.toList := by
    cases given : f.initial with
    | none => exact iff_of_false List.not_mem_nil Expr.not_quoted_nil
    | some e =>
      rw [initialText, foreign.mem_append_iff (by decide)]
      exact Expr.mem_text_iff foreign e (initial e given)
  have access := f.access.not_mem_text foreign.unnamed
  rw [text_eq, List.mem_append, or_iff_right access, foreign.mem_cons_iff (by decide),
    List.mem_append, or_iff_right type, foreign.mem_cons_iff (by decide), List.mem_append,
    or_iff_right name, List.mem_append, or_iff_left (foreign.not_mem (by decide)), value]

end FieldDecl

/-! ## Methods -/

/-- The line of a statement tells the expression. -/
theorem statementText_cancel {e e' : Expr} (named : WellNamed e.slots)
    (named' : WellNamed e'.slots) (h : statementText e = statementText e') : e = e' :=
  (Expr.cancels named named' (closes_cons (by decide) []) (closes_cons (by decide) []) h).1

theorem begins_statementText {e : Expr} (named : WellNamed e.slots) : Begins (statementText e) :=
  (Expr.begins named).append [';']

theorem mem_statementText_iff (foreign : Foreign c) {e : Expr} (free : Free c e.slots) :
    c ∈ statementText e ↔ Expr.Quoted c [e] := by
  rw [statementText, List.mem_append, or_iff_left (foreign.not_mem (by decide)),
    Expr.mem_text_iff foreign e free]

namespace MethodDecl

/-- What the first line of a method has behind its access modifier. -/
def signatureTail (m : MethodDecl) : List Char :=
  m.returns.toList ++ ' ' :: (m.name.toList ++ ['(', ')'])

theorem signature_eq (m : MethodDecl) : m.signature = m.access.text ++ ' ' ::
    (if m.overrides then "override ".toList ++ m.signatureTail else m.signatureTail) := by
  cases overrides : m.overrides <;> simp [signature, signatureTail, overrides]

theorem begins_signature (m : MethodDecl) : Begins m.signature := by
  rw [signature_eq]
  exact m.access.begins _

/-- A method that overrides is told from one that does not: the name of the
result is not the modifier, and nothing stands behind the name of the method. -/
theorem signatureTail_ne_override {m m' : MethodDecl} (returns : NameForm.result.admits m.returns)
    (name : NameForm.simple.admits m.name) :
    m.signatureTail ≠ "override ".toList ++ m'.signatureTail := by
  intro h
  obtain ⟨_, rest⟩ := marker_cancel (a := m.returns.toList) (b := "override".toList)
    (NameForm.not_mem_of_admits returns (by decide)) (by decide) h
  have space : ' ' ∈ m'.signatureTail := by simp [signatureTail]
  rw [show m'.signatureTail = m.name.toList ++ ['(', ')'] from rest.symm,
    List.mem_append] at space
  rcases space with space | space
  · exact NameForm.not_mem_of_admits name (by decide) space
  · exact absurd space (by decide)

theorem signatureTail_cancel {m m' : MethodDecl} (returns : NameForm.result.admits m.returns)
    (returns' : NameForm.result.admits m'.returns) (h : m.signatureTail = m'.signatureTail) :
    m.returns = m'.returns ∧ m.name = m'.name := by
  obtain ⟨results, rest⟩ := marker_cancel (NameForm.not_mem_of_admits returns (by decide))
    (NameForm.not_mem_of_admits returns' (by decide)) h
  exact ⟨String.toList_inj.mp results, String.toList_inj.mp (List.append_cancel_right rest)⟩

/-- The first line of a method tells all but its body. -/
theorem signature_cancel {m m' : MethodDecl} (named : WellNamed m.slots)
    (named' : WellNamed m'.slots) (h : m.signature = m'.signature) :
    m = { m' with body := m.body } := by
  obtain ⟨returns, name, _⟩ := wellNamed_iff.mp named
  obtain ⟨returns', name', _⟩ := wellNamed_iff.mp named'
  rw [signature_eq, signature_eq] at h
  obtain ⟨accesses, tails⟩ := marker_cancel (m.access.not_mem_text (by decide))
    (m'.access.not_mem_text (by decide)) h
  have same : m.overrides = m'.overrides ∧ m.signatureTail = m'.signatureTail := by
    cases own : m.overrides <;> cases other : m'.overrides <;>
      simp only [own, other, if_true, if_false, Bool.false_eq_true] at tails
    case false.false => exact ⟨rfl, tails⟩
    case false.true => exact (signatureTail_ne_override returns name tails).elim
    case true.false => exact (signatureTail_ne_override returns' name' tails.symm).elim
    case true.true => exact ⟨rfl, List.append_cancel_left tails⟩
  obtain ⟨results, names⟩ := signatureTail_cancel returns returns' same.2
  obtain ⟨access, overrides, result, name, body⟩ := m
  cases Access.text_injective accesses
  cases same.1
  cases results
  cases names
  rfl

/-- The first line of a method holds little but names. -/
theorem not_mem_signature (other : isHeadingChar c = false) {m : MethodDecl}
    (free : Free c m.slots) : c ∉ m.signature := by
  obtain ⟨returns, name, _⟩ := forall_slots.mp free
  have tail : c ∉ m.signatureTail :=
    not_mem_name_append other (s := [' ']) returns (by decide)
      (not_mem_name_append other (s := ['(', ')']) name (by decide) List.not_mem_nil)
  rw [signature_eq, List.mem_append, not_or]
  refine ⟨m.access.not_mem_text (not_isNameChar_of_not_heading other), ?_⟩
  apply not_mem_heading_append other (s := [' ']) (by decide)
  cases m.overrides with
  | false => exact tail
  | true => exact not_mem_heading_append other (s := "override ".toList) (by decide) tail

end MethodDecl

/-! ## Members -/

namespace Member

theorem body_lines_inj {body body' : List Expr} (named : ∀ e ∈ body, WellNamed e.slots)
    (named' : ∀ e ∈ body', WellNamed e.slots)
    (h : body.map (fun e => Line.outer (statementText e)) =
      body'.map fun e => Line.outer (statementText e)) : body = body' := by
  refine map_cancel (fun e he e' he' same => ?_) h
  exact statementText_cancel (named e he) (named' e' he') (Line.code.inj same).2

theorem tidy_lines {m : Member} (named : WellNamed m.slots) : ∀ l ∈ m.lines, l.Tidy := by
  have free := foreign_newline.free named
  cases m with
  | field f =>
    intro l hl
    rw [List.mem_singleton.mp hl]
    exact f.begins.tidy_outer
      (mt (FieldDecl.mem_text_iff foreign_newline free).mp (Expr.newline_not_quoted _))
  | method m =>
    refine Line.tidy_block (fun l hl => ?_) (fun l hl => ?_)
    · rw [List.mem_singleton.mp hl]
      exact m.begins_signature.tidy_outer
        (MethodDecl.not_mem_signature foreign_newline.not_heading free)
    · obtain ⟨e, he, rfl⟩ := List.mem_map.mp hl
      have named := (MethodDecl.wellNamed_iff.mp named).2.2 e he
      exact (begins_statementText named).tidy_outer
        (mt (mem_statementText_iff foreign_newline (foreign_newline.free named)).mp
          (Expr.newline_not_quoted _))

/-- A member is at least a line, and holds no empty one. -/
theorem lines_full (m : Member) : m.lines ≠ [] ∧ .empty ∉ m.lines := by
  cases m with
  | field f => simp [lines, Line.outer]
  | method m =>
    refine ⟨by simp [lines, Line.block], ?_⟩
    simp [lines, Line.block, Line.outer, Line.deeper]

theorem field_lines_ne_method_lines (f : FieldDecl) (m : MethodDecl) :
    (field f).lines ≠ (method m).lines := by
  intro h
  exact absurd (congrArg List.length h) (by simp [lines, Line.block])

/-- The lines of a member tell the member. -/
theorem lines_cancel {m m' : Member} (named : WellNamed m.slots) (named' : WellNamed m'.slots)
    (h : m.lines = m'.lines) : m = m' := by
  have brace (m : MethodDecl) : Line.outer ['{'] ∉ [Line.outer m.signature] := by
    rw [List.mem_singleton]
    exact m.begins_signature.brace_ne_outer
  cases m with
  | field f =>
    cases m' with
    | field f' =>
      rw [FieldDecl.text_cancel named named' (Line.code.inj (List.cons.inj h).1).2]
    | method m' => exact (field_lines_ne_method_lines f m' h).elim
  | method m =>
    cases m' with
    | field f' => exact (field_lines_ne_method_lines f' m h.symm).elim
    | method m' =>
      obtain ⟨headings, bodies⟩ := Line.block_cancel (brace m) (brace m') h
      have signature := MethodDecl.signature_cancel named named'
        (Line.code.inj (List.cons.inj headings).1).2
      obtain ⟨_, _, statements⟩ := MethodDecl.wellNamed_iff.mp named
      obtain ⟨_, _, statements'⟩ := MethodDecl.wellNamed_iff.mp named'
      have body : m.body = m'.body := body_lines_inj statements statements' bodies
      rw [signature, body]

end Member

end Inspector.CSharp
