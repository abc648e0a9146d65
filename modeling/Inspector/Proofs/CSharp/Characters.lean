import Inspector.Proofs.CSharp.Heads
import Inspector.Proofs.CSharp.Parts

/-!
# Characters in source

The syntax itself is written in printable characters of the basic alphabet, and
names have their own characters. Any other character is foreign to source text:
it gets there only through a string literal, or through a name that is none.

**The law** (`Expr.mem_text_iff`): a foreign character that stands in no name of an
expression stands in its text exactly if it stands in one of its string literals. It
is passed from expressions to the declarations and lines made of them. In well-named
source no name holds a foreign character (`Foreign.free`).
-/

namespace Inspector.CSharp

open Number

/-! ## Foreign characters -/

/-- The characters that the syntax is written in. -/
def isPrintable (c : Char) : Bool :=
  ' ' ≤ c && c ≤ '~'

/-- A character that neither the syntax nor a name is written in. -/
structure Foreign (c : Char) : Prop where
  unprintable : isPrintable c = false
  unnamed : isNameChar c = false

theorem foreign_newline : Foreign '\n' := ⟨by decide, by decide⟩

namespace Foreign

variable {c : Char}

theorem ne (foreign : Foreign c) {d : Char} (printable : isPrintable d) : c ≠ d := by
  rintro rfl
  rw [foreign.unprintable] at printable
  cases printable

theorem not_mem (foreign : Foreign c) {s : List Char} (printable : s.all isPrintable) : c ∉ s :=
  fun mem => foreign.ne (List.all_eq_true.mp printable c mem) rfl

theorem not_mem_name (foreign : Foreign c) {form : NameForm} {name : String}
    (named : form.admits name) : c ∉ name.toList :=
  NameForm.not_mem_of_admits named foreign.unnamed

theorem mem_cons_iff (foreign : Foreign c) {d : Char} (printable : isPrintable d)
    {rest : List Char} : c ∈ d :: rest ↔ c ∈ rest := by
  rw [List.mem_cons, or_iff_right (foreign.ne printable)]

theorem mem_append_iff (foreign : Foreign c) {text rest : List Char}
    (printable : text.all isPrintable) : c ∈ text ++ rest ↔ c ∈ rest := by
  rw [List.mem_append, or_iff_right (foreign.not_mem printable)]

end Foreign

/-- A character stands in no name. -/
def Free (c : Char) (slots : List Slot) : Prop :=
  ∀ slot ∈ slots, c ∉ slot.2.toList

theorem free_cons {c : Char} {form : NameForm} {name : String} {slots : List Slot} :
    Free c ((form, name) :: slots) ↔ c ∉ name.toList ∧ Free c slots :=
  List.forall_mem_cons

theorem free_append {c : Char} {slots more : List Slot} :
    Free c (slots ++ more) ↔ Free c slots ∧ Free c more :=
  List.forall_mem_append

theorem Foreign.free {c : Char} (foreign : Foreign c) {slots : List Slot}
    (named : WellNamed slots) : Free c slots :=
  fun slot mem => foreign.not_mem_name (named slot mem)

/-! ## Headings -/

/-- The characters of the lines that have no expressions: those of names, and what
stands between names. -/
def isHeadingChar (c : Char) : Bool :=
  isNameChar c || [' ', '(', ')', ':', ';'].contains c

theorem Foreign.not_heading {c : Char} (foreign : Foreign c) : isHeadingChar c = false := by
  rw [isHeadingChar, foreign.unnamed, Bool.false_or, ← Bool.not_eq_true, List.contains_iff_mem]
  exact foreign.not_mem (by decide)

section Headings

variable {c : Char} (other : isHeadingChar c = false)
include other

theorem not_isNameChar_of_not_heading : isNameChar c = false :=
  (Bool.or_eq_false_iff.mp other).1

theorem not_mem_heading_append {s rest : List Char} (all : s.all isHeadingChar)
    (free : c ∉ rest) : c ∉ s ++ rest := by
  rw [List.mem_append, not_or]
  refine ⟨fun mem => ?_, free⟩
  rw [List.all_eq_true.mp all c mem] at other
  cases other

theorem not_mem_name_append {name : String} {s rest : List Char} (own : c ∉ name.toList)
    (all : s.all isHeadingChar) (free : c ∉ rest) : c ∉ name.toList ++ (s ++ rest) := by
  rw [List.mem_append, not_or]
  exact ⟨own, not_mem_heading_append other all free⟩

end Headings

/-! ## Literals -/

/-- The characters with an escape that are not printable themselves. -/
def escapedControls : List Char := ['\n', '\r', '\t', '\x00']

namespace Foreign

variable {c : Char}

/-- An escape is printable, so a foreign character stands only for itself. -/
theorem mem_escapeChar_iff (foreign : Foreign c) {d : Char} :
    c ∈ escapeChar d ↔ c = d ∧ c ∉ escapedControls := by
  have escape {d : Char} {text : List Char} (printable : text.all isPrintable)
      (known : isPrintable d ∨ d ∈ escapedControls) :
      c ∈ text ↔ c = d ∧ c ∉ escapedControls := by
    refine iff_of_false (foreign.not_mem printable) ?_
    rintro ⟨rfl, control⟩
    rcases known with printable | escaped
    · exact foreign.ne printable rfl
    · exact control escaped
  unfold escapeChar
  split
  case h_7 _ _ line carriage tab zero =>
    rw [List.mem_singleton, iff_self_and]
    rintro rfl
    simp only [escapedControls, List.mem_cons, List.not_mem_nil, or_false, not_or]
    exact ⟨line, carriage, tab, zero⟩
  all_goals exact escape (by decide) (by decide)

theorem mem_stringLiteral_iff (foreign : Foreign c) {value : String} :
    c ∈ stringLiteral value ↔ c ∈ value.toList ∧ c ∉ escapedControls := by
  rw [stringLiteral, List.cons_append, foreign.mem_cons_iff (by decide), List.mem_append,
    or_iff_left (foreign.not_mem (by decide)), List.mem_flatMap]
  simp only [foreign.mem_escapeChar_iff]
  constructor
  · rintro ⟨_, mem, rfl, rest⟩
    exact ⟨mem, rest⟩
  · rintro ⟨mem, rest⟩
    exact ⟨c, mem, rfl, rest⟩

end Foreign

/-- Integers are written in the characters of names, but for the sign. -/
theorem sign_or_isNameChar {c : Char} (h : isIntegerChar c) : c = '-' ∨ isNameChar c := by
  rcases Bool.or_eq_true _ _ ▸ h with sign | digit
  · exact .inl (beq_iff_eq.mp sign)
  · exact .inr (holds_of_digit (by decide) digit)

theorem sign_or_isNameChar_of_int {c : Char} {value : Int} (mem : c ∈ intLiteral value) :
    c = '-' ∨ isNameChar c :=
  sign_or_isNameChar (isIntegerChar_of_mem mem)

theorem sign_or_isNameChar_of_float {c : Char} {value : Single} (mem : c ∈ floatLiteral value) :
    c = '-' ∨ isNameChar c := by
  have word {s : List Char} (all : s.all isNameChar) (mem : c ∈ s) :
      c = '-' ∨ isNameChar c :=
    .inr (List.all_eq_true.mp all c mem)
  cases value with
  | nan => exact word (s := "float.NaN".toList) (by decide) mem
  | infinite negative =>
    cases negative with
    | false => exact word (s := "float.PositiveInfinity".toList) (by decide) mem
    | true => exact word (s := "float.NegativeInfinity".toList) (by decide) mem
  | finite negative rank =>
    rw [floatLiteral_finite] at mem
    rcases List.mem_append.mp mem with mem | suffix
    · rcases Bool.or_eq_true _ _ ▸ isDecimalChar_of_mem mem with point | digit
      · exact .inr (beq_iff_eq.mp point ▸ by decide)
      · exact sign_or_isNameChar digit
    · exact word (s := ['f']) (by decide) suffix

namespace Foreign

variable {c : Char}

theorem not_sign_or_isNameChar (foreign : Foreign c) : ¬(c = '-' ∨ isNameChar c) := by
  rw [not_or, foreign.unnamed]
  exact ⟨foreign.ne (by decide), Bool.false_ne_true⟩

theorem not_mem_intLiteral (foreign : Foreign c) (value : Int) : c ∉ intLiteral value :=
  mt sign_or_isNameChar_of_int foreign.not_sign_or_isNameChar

theorem not_mem_floatLiteral (foreign : Foreign c) (value : Single) : c ∉ floatLiteral value :=
  mt sign_or_isNameChar_of_float foreign.not_sign_or_isNameChar

end Foreign

/-! ## Expressions -/

namespace Expr

/-- A character stands in a string literal of some expressions. -/
def Quoted (c : Char) (es : List Expr) : Prop :=
  ∃ value ∈ contents es, c ∈ stringLiteral value

variable {c : Char}

theorem not_quoted_nil : ¬Quoted c [] := by simp [Quoted, contents, listParts]

theorem quoted_append {es more : List Expr} :
    Quoted c (es ++ more) ↔ Quoted c es ∨ Quoted c more := by
  simp only [Quoted, contents_append, List.mem_append, or_and_right, exists_or]

theorem quoted_cons {e : Expr} {rest : List Expr} :
    Quoted c (e :: rest) ↔ Quoted c [e] ∨ Quoted c rest := by
  rw [← List.singleton_append, quoted_append]

theorem quoted_str {value : String} : Quoted c [.str value] ↔ c ∈ stringLiteral value := by
  simp [Quoted, contents, listParts, content?]

theorem quoted_member {target : Expr} {name : String} :
    Quoted c [.member target name] ↔ Quoted c [target] := by
  simp [Quoted, contents, listParts, content?]

theorem quoted_call {target : Expr} {method : String} {args : List Expr} :
    Quoted c [.call target method args] ↔ Quoted c [target] ∨ Quoted c args := by
  rw [← quoted_append]
  simp [Quoted, contents, listParts, content?]

theorem quoted_create {type : String} {args : List Expr} :
    Quoted c [.create type args] ↔ Quoted c args := by
  simp [Quoted, contents, listParts, content?]

theorem quoted_flatMap {α : Type} {xs : List α} {f : α → List Expr} :
    Quoted c (xs.flatMap f) ↔ ∃ x ∈ xs, Quoted c (f x) := by
  simp only [Quoted, contents_flatMap, List.mem_flatMap]
  exact ⟨fun ⟨value, ⟨x, known, mem⟩, held⟩ => ⟨x, known, value, mem, held⟩,
    fun ⟨x, known, value, mem, held⟩ => ⟨value, ⟨x, known, mem⟩, held⟩⟩

/-- An expression that holds no expressions and is no string literal quotes nothing. -/
theorem not_quoted {e : Expr} (single : e.parts = [e]) (other : e.content? = none) :
    ¬Quoted c [e] := by
  simp [Quoted, contents, listParts, single, other]

theorem mem_argsText (foreign : Foreign c) {es : List Expr} :
    c ∈ argsText es ↔ ∃ e ∈ es, c ∈ e.text := by
  have more (rest : List Expr) : c ∈ moreArgsText rest ↔ ∃ e ∈ rest, c ∈ e.text := by
    induction rest with
    | nil => simp [moreArgsText]
    | cons e rest ih =>
      rw [moreArgsText, List.cons_append, foreign.mem_cons_iff (by decide), List.cons_append,
        foreign.mem_cons_iff (by decide), List.mem_append, ih]
      simp only [List.mem_cons, exists_eq_or_imp]
  cases es with
  | nil => simp [argsText]
  | cons e rest =>
    rw [argsText_cons, List.mem_append, more]
    simp only [List.mem_cons, exists_eq_or_imp]

mutual

/-- A foreign character of an expression stands in one of its string literals. -/
theorem mem_text_iff (foreign : Foreign c) : (e : Expr) → Free c e.slots →
    (c ∈ e.text ↔ Quoted c [e])
  | .str _, _ => quoted_str.symm
  | .int value, _ => iff_of_false (foreign.not_mem_intLiteral value) (not_quoted rfl rfl)
  | .float value, _ => iff_of_false (foreign.not_mem_floatLiteral value) (not_quoted rfl rfl)
  | .ident _, free => iff_of_false (free_cons.mp free).1 (not_quoted rfl rfl)
  | .typeOf type, free => by
    have name := (free_cons.mp free).1
    refine iff_of_false ?_ (not_quoted rfl rfl)
    rw [text_typeOf, List.append_assoc, foreign.mem_append_iff (by decide), List.mem_append, not_or]
    exact ⟨name, foreign.not_mem (by decide)⟩
  | .member target name, free => by
    obtain ⟨own, others⟩ := free_cons.mp free
    rw [text_member, List.mem_append, foreign.mem_cons_iff (by decide), or_iff_left own,
      mem_text_iff foreign target others, quoted_member]
  | .call target method args, free => by
    obtain ⟨own, others⟩ := free_cons.mp free
    obtain ⟨ofTarget, ofArgs⟩ := free_append.mp others
    simp only [text_call, List.mem_append, foreign.mem_cons_iff (d := '.') (by decide),
      foreign.mem_cons_iff (d := '(') (by decide), foreign.not_mem (s := [')']) (by decide),
      own, mem_text_iff foreign target ofTarget, mem_argsText foreign,
      mem_list_iff foreign args ofArgs, or_false, quoted_call]
  | .create type args, free => by
    obtain ⟨own, ofArgs⟩ := free_cons.mp free
    simp only [text_create, List.mem_append, foreign.not_mem (s := "new ".toList) (by decide),
      foreign.mem_cons_iff (d := '(') (by decide), foreign.not_mem (s := [')']) (by decide),
      own, mem_argsText foreign, mem_list_iff foreign args ofArgs, false_or, or_false,
      quoted_create]

theorem mem_list_iff (foreign : Foreign c) : (es : List Expr) → Free c (listSlots es) →
    ((∃ e ∈ es, c ∈ e.text) ↔ Quoted c es)
  | [], _ => iff_of_false (by simp) not_quoted_nil
  | e :: rest, free => by
    obtain ⟨first, others⟩ := free_append.mp free
    simp only [List.mem_cons, exists_eq_or_imp]
    rw [mem_text_iff foreign e first, mem_list_iff foreign rest others, ← quoted_cons]

end

theorem mem_argsText_iff (foreign : Foreign c) {es : List Expr}
    (free : ∀ e ∈ es, Free c e.slots) : c ∈ argsText es ↔ Quoted c es := by
  rw [mem_argsText foreign, mem_list_iff foreign es (forall_listSlots.mpr free)]

/-- No string literal holds the end of a line. -/
theorem newline_not_quoted (es : List Expr) : ¬Quoted '\n' es := by
  rintro ⟨value, _, mem⟩
  exact (foreign_newline.mem_stringLiteral_iff.mp mem).2 (by decide)

end Expr

end Inspector.CSharp
