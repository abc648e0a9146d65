import Inspector.Proofs.CSharp.Chains
import Inspector.Proofs.CSharp.Literals

/-!
# Heads read back

A head is the part of an expression without a target. The first character
settles whether it is a quoted text, a number or a word (`Lead.starts_unique`),
and the word settles the rest, since the words of literals, type objects and new
objects are reserved. What follows a head ends it: a link or a closing
character.

Heads are equal as texts only piece by piece (`head_cancel`), if this is known
of their arguments.
-/

namespace Inspector.CSharp

open Number Text

/-! ## What follows an expression -/

/-- The characters that end an expression: another argument follows, or the
arguments or the statement end. -/
def isCloser (c : Char) : Bool :=
  c == ',' || c == ')' || c == ';'

/-- A text that ends the expression before it. -/
def Closes (rest : List Char) : Prop :=
  ∃ c more, rest = c :: more ∧ isCloser c

/-- A text that ends a piece of an expression: the expression ends, or a link
follows. -/
inductive Resumes : List Char → Prop
  | close {c : Char} {more : List Char} : isCloser c → Resumes (c :: more)
  | link {c : Char} {more : List Char} : startsIdentifier c → Resumes ('.' :: c :: more)

theorem Closes.resumes {rest : List Char} (h : Closes rest) : Resumes rest := by
  obtain ⟨c, more, rfl, closer⟩ := h
  exact .close closer

theorem closes_cons {c : Char} (h : isCloser c) (more : List Char) : Closes (c :: more) :=
  ⟨c, more, rfl, h⟩

/-- A class without dots and closing characters stops where a piece ends. -/
theorem Resumes.stops {rest : List Char} (h : Resumes rest) {p : Char → Bool}
    (hp : ['.', ',', ')', ';'].any p = false) : Stops p rest := by
  have none : ∀ c ∈ ['.', ',', ')', ';'], p c = false := by simpa using hp
  cases h with
  | link _ => exact stops_cons (none '.' (by decide)) _
  | close closer =>
    refine stops_cons (none _ ?_) _
    simp only [isCloser, Bool.or_eq_true, beq_iff_eq] at closer
    rcases closer with (rfl | rfl) | rfl <;> decide

theorem Resumes.stops_identifier {rest : List Char} (h : Resumes rest) :
    Stops continuesIdentifier rest :=
  h.stops (by decide)

theorem Resumes.stops_integer {rest : List Char} (h : Resumes rest) :
    Stops isIntegerChar rest :=
  h.stops (by decide)

/-- What holds of the ten digits holds of every digit. -/
theorem holds_of_digit {p : Char → Bool} (all : "0123456789".toList.all p) {c : Char}
    (h : c.isDigit) : p c := by
  have known : ∀ n ∈ List.range' 48 10, Char.ofNat n ∈ "0123456789".toList := by decide
  simp only [Char.isDigit, Bool.and_eq_true, decide_eq_true_eq, ge_iff_le,
    UInt32.le_iff_toNat_le] at h
  change 48 ≤ c.toNat ∧ c.toNat ≤ 57 at h
  have mem := known c.toNat (List.mem_range'_1.mpr (by omega))
  rw [Char.ofNat_toNat] at mem
  exact List.all_eq_true.mp all c mem

theorem not_startsIdentifier_of_digit {c : Char} (h : c.isDigit) : ¬startsIdentifier c := by
  have none : !startsIdentifier c := holds_of_digit (p := fun c => !startsIdentifier c)
    (by decide) h
  simpa using none

/-- Where an expression goes on or ends, an integer does not turn out to be a
number of single precision. -/
theorem Resumes.not_float_tail {rest : List Char} (h : Resumes rest) :
    ¬((∃ more, rest = 'f' :: more) ∨
      ∃ digit more, rest = '.' :: digit :: more ∧ digit.isDigit) := by
  cases h with
  | close closer =>
    rintro (⟨more, same⟩ | ⟨digit, more, same, _⟩) <;> cases same <;>
      exact absurd closer (by decide)
  | link start =>
    rintro (⟨more, same⟩ | ⟨digit, more, same, isDigit⟩) <;> cases same
    exact not_startsIdentifier_of_digit isDigit start

namespace Expr

/-! ## Arguments -/

/-- As a text, an expression is equal to another one only piece by piece. -/
def Cancels (e : Expr) : Prop :=
  ∀ {e' : Expr} {r r' : List Char}, WellNamed e'.slots → Closes r → Closes r' →
    e.text ++ r = e'.text ++ r' → e = e' ∧ r = r'

/-- The text of the arguments behind the first one. -/
def moreArgsText : List Expr → List Char
  | [] => []
  | e :: rest => ',' :: ' ' :: e.text ++ moreArgsText rest

theorem argsText_cons (e : Expr) (rest : List Expr) :
    argsText (e :: rest) = e.text ++ moreArgsText rest := by
  induction rest generalizing e with
  | nil => simp [argsText, moreArgsText]
  | cons next rest ih => simp [argsText, moreArgsText, ih]

theorem closes_moreArgsText (rest : List Expr) (r : List Char) :
    Closes (moreArgsText rest ++ ')' :: r) := by
  cases rest with
  | nil => exact closes_cons (by decide) r
  | cons e rest => exact closes_cons (by decide) _

theorem moreArgsText_cancel {es es' : List Expr} {r r' : List Char}
    (cancels : ∀ e ∈ es, e.Cancels) (named : ∀ e ∈ es', WellNamed e.slots)
    (h : moreArgsText es ++ ')' :: r = moreArgsText es' ++ ')' :: r') : es = es' ∧ r = r' := by
  induction es generalizing es' with
  | nil =>
    cases es' with
    | nil => exact ⟨rfl, (List.cons.inj h).2⟩
    | cons e' rest' => exact absurd (List.cons.inj h).1 (by decide)
  | cons e rest ih =>
    cases es' with
    | nil => exact absurd (List.cons.inj h).1 (by decide)
    | cons e' rest' =>
      simp only [moreArgsText, List.cons_append, List.append_assoc] at h
      have text := (List.cons.inj (List.cons.inj h).2).2
      obtain ⟨first, others⟩ := cancels e List.mem_cons_self (named e' List.mem_cons_self)
        (closes_moreArgsText rest r) (closes_moreArgsText rest' r') text
      obtain ⟨same, rest⟩ := ih (fun a ha => cancels a (List.mem_cons_of_mem _ ha))
        (fun a ha => named a (List.mem_cons_of_mem _ ha)) others
      exact ⟨by rw [first, same], rest⟩

/-! ## Heads -/

/-- The kinds of heads that the first character tells apart. -/
inductive Lead where
  | quoted
  | numeric
  | verbal

/-- The characters with which a kind of head starts. -/
def Lead.starts : Lead → Char → Bool
  | quoted, c => c == '"'
  | numeric, c => isIntegerChar c
  | verbal, c => startsIdentifier c

/-- The kind of a head. -/
def lead : Expr → Lead
  | .str _ => .quoted
  | .int _ => .numeric
  | .float (.finite ..) => .numeric
  | _ => .verbal

/-- No character starts heads of two kinds. -/
theorem Lead.starts_unique {l l' : Lead} {c : Char} (h : l.starts c) (h' : l'.starts c) :
    l = l' := by
  have quote {l : Lead} (h : l.starts '"') : l = .quoted := by
    cases l with
    | quoted => rfl
    | numeric | verbal => exact absurd h (by decide)
  have word {c : Char} (number : isIntegerChar c) : ¬startsIdentifier c := by
    intro start
    rcases Bool.or_eq_true _ _ ▸ number with minus | digit
    · rw [beq_iff_eq.mp minus] at start
      exact absurd start (by decide)
    · exact not_startsIdentifier_of_digit digit start
  cases l <;> cases l' <;> simp only [Lead.starts, beq_iff_eq] at h h'
  case quoted.numeric => rw [h] at h'; exact (quote (l := .numeric) h').symm
  case quoted.verbal => rw [h] at h'; exact (quote (l := .verbal) h').symm
  case numeric.quoted => rw [h'] at h; exact quote (l := .numeric) h
  case verbal.quoted => rw [h'] at h; exact quote (l := .verbal) h
  case numeric.verbal => exact absurd h' (word h)
  case verbal.numeric => exact absurd h (word h')
  all_goals rfl

/-- A head starts with a character of its kind. -/
theorem lead_text {e : Expr} (head : isHead e) (named : WellNamed e.slots) :
    ∃ c more, e.text = c :: more ∧ e.lead.starts c := by
  cases e with
  | str value => exact ⟨'"', _, rfl, rfl⟩
  | int value =>
    obtain ⟨c, more, text⟩ := List.exists_cons_of_ne_nil (intLiteral_ne_nil value)
    exact ⟨c, more, text, isIntegerChar_of_mem (n := value) (by simp [text])⟩
  | float value =>
    cases value with
    | nan => exact ⟨'f', "loat.NaN".toList, rfl, rfl⟩
    | infinite negative =>
      cases negative with
      | false => exact ⟨'f', "loat.PositiveInfinity".toList, rfl, rfl⟩
      | true => exact ⟨'f', "loat.NegativeInfinity".toList, rfl, rfl⟩
    | finite negative rank =>
      obtain ⟨whole, fraction, nonempty, digits, _, text⟩ := exists_floatParts negative rank
      obtain ⟨c, more, signed⟩ : ∃ c more, Binary.signText negative ++ whole = c :: more :=
        List.exists_cons_of_ne_nil (by simp [nonempty])
      have first : isIntegerChar c := isIntegerChar_of_signed digits c (by rw [signed]; simp)
      refine ⟨c, more ++ Decimal.pointed fraction ++ ['f'], ?_, first⟩
      rw [text_float, text, signed]
      rfl
  | ident name =>
    obtain ⟨c, rest, text, start, _⟩ := identifier_cons (wellNamed_cons.mp named).1
    exact ⟨c, rest, text, start⟩
  | typeOf type => exact ⟨'t', _, rfl, rfl⟩
  | create type args => exact ⟨'n', _, rfl, rfl⟩
  | member | call => cases head

/-- An expression starts with a character that starts heads. -/
theorem text_cons {e : Expr} (named : WellNamed e.slots) :
    ∃ c more lead, e.text = c :: more ∧ Lead.starts lead c := by
  obtain ⟨head, links, isHead, rfl⟩ := e.exists_chain
  obtain ⟨c, more, text, start⟩ := lead_text isHead (wellNamed_chain.mp named).1
  exact ⟨c, more ++ links.flatMap Link.text, head.lead, by rw [text_chain, text]; rfl, start⟩

/-- The word that a verbal head starts with. -/
def word : Expr → List Char
  | .float _ => "float".toList
  | .ident name => name.toList
  | .typeOf _ => "typeof".toList
  | .create .. => "new".toList
  | _ => []

/-- The name of a value of single precision without digits. -/
def constantName : Single → String
  | .infinite false => "PositiveInfinity"
  | .infinite true => "NegativeInfinity"
  | _ => "NaN"

/-- What a verbal head has behind its word. -/
def wordTail : Expr → List Char
  | .float value => '.' :: (constantName value).toList
  | .typeOf type => '(' :: type.toList ++ [')']
  | .create type args => ' ' :: type.toList ++ '(' :: argsText args ++ [')']
  | _ => []

theorem text_verbal {e : Expr} (head : isHead e) (verbal : e.lead = .verbal) :
    e.text = e.word ++ e.wordTail := by
  cases e with
  | str | int => cases verbal
  | float value =>
    cases value with
    | nan => rfl
    | infinite negative => cases negative <;> rfl
    | finite => cases verbal
  | ident name => exact (List.append_nil _).symm
  | typeOf type => rfl
  | create type args => rfl
  | member | call => cases head

theorem continuesIdentifier_of_mem_word {e : Expr} (named : WellNamed e.slots) :
    ∀ c ∈ e.word, continuesIdentifier c := by
  cases e with
  | ident name => exact fun _ => continuesIdentifier_of_mem (wellNamed_cons.mp named).1
  | float => exact List.all_eq_true.mp (by decide : "float".toList.all continuesIdentifier)
  | typeOf => exact List.all_eq_true.mp (by decide : "typeof".toList.all continuesIdentifier)
  | create => exact List.all_eq_true.mp (by decide : "new".toList.all continuesIdentifier)
  | str | int | member | call => intro c hc; cases hc

theorem stops_wordTail (e : Expr) {r : List Char} (hr : Resumes r) :
    Stops continuesIdentifier (e.wordTail ++ r) := by
  cases e with
  | float | typeOf | create => exact stops_cons (by decide) _
  | str | int | ident | member | call => exact hr.stops_identifier

/-- An identifier is none of the words of heads that are reserved. -/
theorem toList_ne_keyword {name : String} (keyword : String) (named : WellNamed (ident name).slots)
    (reserved : keyword ∈ keywords) : name.toList ≠ keyword.toList := by
  intro same
  rw [String.toList_inj.mp same] at named
  exact not_isIdentifier_of_keyword reserved (wellNamed_cons.mp named).1

/-- Argument lists are equal only argument by argument. -/
theorem argsText_cancel {es es' : List Expr} {r r' : List Char}
    (named : ∀ e ∈ es, WellNamed e.slots) (named' : ∀ e ∈ es', WellNamed e.slots)
    (cancels : ∀ e ∈ es, e.Cancels)
    (h : argsText es ++ ')' :: r = argsText es' ++ ')' :: r') : es = es' ∧ r = r' := by
  have opens {e : Expr} (rest : List Expr) {r r' : List Char} (named : WellNamed e.slots)
      (h : ')' :: r = argsText (e :: rest) ++ ')' :: r') : False := by
    obtain ⟨c, more, lead, text, start⟩ := text_cons named
    rw [argsText_cons, text] at h
    rw [← (List.cons.inj h).1] at start
    cases lead <;> exact absurd start (by decide)
  cases es with
  | nil =>
    cases es' with
    | nil => exact ⟨rfl, (List.cons.inj h).2⟩
    | cons e' rest' => exact (opens rest' (named' e' List.mem_cons_self) h).elim
  | cons e rest =>
    cases es' with
    | nil => exact (opens rest (named e List.mem_cons_self) h.symm).elim
    | cons e' rest' =>
      rw [argsText_cons, argsText_cons, List.append_assoc, List.append_assoc] at h
      obtain ⟨first, others⟩ := cancels e List.mem_cons_self (named' e' List.mem_cons_self)
        (closes_moreArgsText rest r) (closes_moreArgsText rest' r') h
      obtain ⟨same, tail⟩ := moreArgsText_cancel
        (fun a ha => cancels a (List.mem_cons_of_mem _ ha))
        (fun a ha => named' a (List.mem_cons_of_mem _ ha)) others
      exact ⟨by rw [first, same], tail⟩

/-- The arguments of a head. -/
def headArgs : Expr → List Expr
  | .create _ args => args
  | _ => []

theorem eq_of_quoted {e : Expr} (quoted : e.lead = .quoted) : ∃ value, e = .str value := by
  cases e with
  | str value => exact ⟨value, rfl⟩
  | float value => cases value <;> cases quoted
  | int | ident | typeOf | member | call | create => cases quoted

theorem eq_of_numeric {e : Expr} (numeric : e.lead = .numeric) :
    (∃ n, e = .int n) ∨ ∃ negative rank, e = .float (.finite negative rank) := by
  cases e with
  | int n => exact .inl ⟨n, rfl⟩
  | float value =>
    cases value with
    | finite negative rank => exact .inr ⟨negative, rank, rfl⟩
    | nan | infinite => cases numeric
  | str | ident | typeOf | member | call | create => cases numeric

/-- Numbers are equal only piece by piece. -/
theorem numeric_cancel {e e' : Expr} {r r' : List Char} (numeric : e.lead = .numeric)
    (numeric' : e'.lead = .numeric) (hr : Resumes r) (hr' : Resumes r')
    (h : e.text ++ r = e'.text ++ r') : e = e' ∧ r = r' := by
  obtain ⟨n, rfl⟩ | ⟨negative, rank, rfl⟩ := eq_of_numeric numeric <;>
    obtain ⟨m, rfl⟩ | ⟨negative', rank', rfl⟩ := eq_of_numeric numeric'
  · obtain ⟨same, rest⟩ := intLiteral_cancel hr.stops_integer hr'.stops_integer h
    exact ⟨by rw [same], rest⟩
  · exact (hr.not_float_tail (float_tail_of_int hr.stops_integer h)).elim
  · exact (hr'.not_float_tail (float_tail_of_int hr'.stops_integer h.symm)).elim
  · obtain ⟨⟨sign, same⟩, rest⟩ := floatLiteral_cancel h
    exact ⟨by rw [sign, same], rest⟩

/-- The values without digits are told apart by their names. -/
theorem constant_cancel {v w : Single} {r r' : List Char} (hv : (float v).lead = .verbal)
    (hw : (float w).lead = .verbal) (hr : Resumes r) (hr' : Resumes r')
    (h : (constantName v).toList ++ r = (constantName w).toList ++ r') : v = w ∧ r = r' := by
  have part (value : Single) : ∀ c ∈ (constantName value).toList, continuesIdentifier c := by
    obtain _ | (_ | _) | _ := value
    · exact List.all_eq_true.mp (by decide : "NaN".toList.all continuesIdentifier)
    · exact List.all_eq_true.mp (by decide : "PositiveInfinity".toList.all continuesIdentifier)
    · exact List.all_eq_true.mp (by decide : "NegativeInfinity".toList.all continuesIdentifier)
    · exact List.all_eq_true.mp (by decide : "NaN".toList.all continuesIdentifier)
  obtain ⟨names, rest⟩ := run_cancel (part v) (part w) hr.stops_identifier hr'.stops_identifier h
  refine ⟨?_, rest⟩
  have name : constantName v = constantName w := String.toList_inj.mp names
  cases v with
  | finite => cases hv
  | nan =>
    obtain _ | (_ | _) | _ := w
    · rfl
    · exact absurd name (by decide)
    · exact absurd name (by decide)
    · cases hw
  | infinite negative =>
    obtain _ | (_ | _) | _ := w <;> cases negative
    case finite.false | finite.true => cases hw
    all_goals first | rfl | exact absurd name (by decide)

theorem typeOf_cancel {type type' : String} {r r' : List Char}
    (named : WellNamed (typeOf type).slots) (named' : WellNamed (typeOf type').slots)
    (h : (typeOf type).wordTail ++ r = (typeOf type').wordTail ++ r') :
    typeOf type = typeOf type' ∧ r = r' := by
  simp only [wordTail, List.cons_append, List.append_assoc, List.cons.injEq, true_and] at h
  obtain ⟨types, rest⟩ := marker_cancel
    (NameForm.not_mem_of_admits (wellNamed_cons.mp named).1 (by decide))
    (NameForm.not_mem_of_admits (wellNamed_cons.mp named').1 (by decide)) h
  exact ⟨by rw [String.toList_inj.mp types], rest⟩

theorem create_cancel {type type' : String} {args args' : List Expr} {r r' : List Char}
    (named : WellNamed (create type args).slots) (named' : WellNamed (create type' args').slots)
    (cancels : ∀ a ∈ args, a.Cancels)
    (h : (create type args).wordTail ++ r = (create type' args').wordTail ++ r') :
    create type args = create type' args' ∧ r = r' := by
  simp only [wordTail, List.cons_append, List.append_assoc, List.cons.injEq, true_and] at h
  obtain ⟨type, own⟩ := wellNamed_cons.mp named
  obtain ⟨type', own'⟩ := wellNamed_cons.mp named'
  obtain ⟨types, behind⟩ := marker_cancel (NameForm.not_mem_of_admits type (by decide))
    (NameForm.not_mem_of_admits type' (by decide)) h
  obtain ⟨same, rest⟩ := argsText_cancel (wellNamed_listSlots.mp own)
    (wellNamed_listSlots.mp own') cancels behind
  exact ⟨by rw [String.toList_inj.mp types, same], rest⟩

/-- Words, and what is behind them, are equal only piece by piece. -/
theorem verbal_cancel {e e' : Expr} {r r' : List Char} (head : isHead e) (head' : isHead e')
    (verbal : e.lead = .verbal) (verbal' : e'.lead = .verbal)
    (named : WellNamed e.slots) (named' : WellNamed e'.slots)
    (cancels : ∀ a ∈ e.headArgs, a.Cancels) (hr : Resumes r) (hr' : Resumes r')
    (h : e.text ++ r = e'.text ++ r') : e = e' ∧ r = r' := by
  rw [text_verbal head verbal, text_verbal head' verbal', List.append_assoc,
    List.append_assoc] at h
  obtain ⟨words, tails⟩ := run_cancel (continuesIdentifier_of_mem_word named)
    (continuesIdentifier_of_mem_word named') (stops_wordTail e hr) (stops_wordTail e' hr') h
  cases e with
  | str | int => cases verbal
  | member | call => cases head
  | ident name =>
    cases e' with
    | str | int => cases verbal'
    | member | call => cases head'
    | ident name' => exact ⟨by rw [String.toList_inj.mp words], tails⟩
    | float => exact absurd words (toList_ne_keyword "float" named (by decide))
    | typeOf => exact absurd words (toList_ne_keyword "typeof" named (by decide))
    | create => exact absurd words (toList_ne_keyword "new" named (by decide))
  | float value =>
    cases e' with
    | str | int => cases verbal'
    | member | call => cases head'
    | ident => exact absurd words.symm (toList_ne_keyword "float" named' (by decide))
    | float value' =>
      obtain ⟨same, rest⟩ := constant_cancel verbal verbal' hr hr' (List.cons.inj tails).2
      exact ⟨by rw [same], rest⟩
    | typeOf => exact absurd words (by decide : "float".toList ≠ "typeof".toList)
    | create => exact absurd words (by decide : "float".toList ≠ "new".toList)
  | typeOf type =>
    cases e' with
    | str | int => cases verbal'
    | member | call => cases head'
    | ident => exact absurd words.symm (toList_ne_keyword "typeof" named' (by decide))
    | float => exact absurd words (by decide : "typeof".toList ≠ "float".toList)
    | typeOf type' => exact typeOf_cancel named named' tails
    | create => exact absurd words (by decide : "typeof".toList ≠ "new".toList)
  | create type args =>
    cases e' with
    | str | int => cases verbal'
    | member | call => cases head'
    | ident => exact absurd words.symm (toList_ne_keyword "new" named' (by decide))
    | float => exact absurd words (by decide : "new".toList ≠ "float".toList)
    | typeOf => exact absurd words (by decide : "new".toList ≠ "typeof".toList)
    | create type' args' => exact create_cancel named named' cancels tails

/-- Heads are equal only piece by piece. -/
theorem head_cancel {e e' : Expr} {r r' : List Char} (head : isHead e) (head' : isHead e')
    (named : WellNamed e.slots) (named' : WellNamed e'.slots)
    (cancels : ∀ a ∈ e.headArgs, a.Cancels) (hr : Resumes r) (hr' : Resumes r')
    (h : e.text ++ r = e'.text ++ r') : e = e' ∧ r = r' := by
  obtain ⟨c, more, text, start⟩ := lead_text head named
  obtain ⟨c', more', text', start'⟩ := lead_text head' named'
  have first : c = c' := by
    rw [text, text'] at h
    exact (List.cons.inj h).1
  have kind : e'.lead = e.lead := Lead.starts_unique start' (first ▸ start)
  cases lead : e.lead with
  | numeric => exact numeric_cancel lead (kind.trans lead) hr hr' h
  | verbal =>
    exact verbal_cancel head head' lead (kind.trans lead) named named' cancels hr hr' h
  | quoted =>
    obtain ⟨value, rfl⟩ := eq_of_quoted lead
    obtain ⟨value', rfl⟩ := eq_of_quoted (kind.trans lead)
    obtain ⟨same, rest⟩ := stringLiteral_cancel h
    exact ⟨by rw [same], rest⟩

end Expr

end Inspector.CSharp
