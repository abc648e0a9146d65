import Inspector.CSharp.Literal
import Inspector.Proofs.Number.Written
import Inspector.Proofs.Text.Run

/-!
# Literals read back

Each kind of literal tells its value and where it ends, whatever comes after it.

- A string literal ends at the first quote without a backslash before it, and
  `readContent?` undoes its escapes (`readContent?_flatMap`).
- An integer literal is a sign perhaps and digits; it ends where they do.
- The literal of a finite number of single precision is a sign perhaps, digits
  with a point perhaps, and the suffix, which ends it.

An integer and a number of single precision can begin alike. They are told
apart by what comes after the first digits: the suffix or a point with digits
(`float_tail_of_int`), neither of which can follow an integer in source.
-/

namespace Inspector.CSharp

open Number Text Binary

/-! ## String literals -/

/-- The character that an escape stands for, by the character after the backslash. -/
def unescape? : Char → Option Char
  | '\\' => some '\\'
  | '"' => some '"'
  | 'n' => some '\n'
  | 'r' => some '\r'
  | 't' => some '\t'
  | '0' => some '\x00'
  | _ => none

/-- Reads a string literal behind its opening quote: its content, and what
follows it. -/
def readContent? : List Char → Option (List Char × List Char)
  | [] => none
  | c :: rest =>
    if c = '"' then some ([], rest)
    else if c = '\\' then
      match rest with
      | [] => none
      | d :: more =>
        (unescape? d).bind fun e => (readContent? more).map fun read => (e :: read.1, read.2)
    else (readContent? rest).map fun read => (c :: read.1, read.2)

theorem readContent?_quote (rest : List Char) : readContent? ('"' :: rest) = some ([], rest) := by
  rw [readContent?.eq_def]
  rfl

theorem readContent?_escape (d : Char) (rest : List Char) :
    readContent? ('\\' :: d :: rest) =
      (unescape? d).bind fun e => (readContent? rest).map fun read => (e :: read.1, read.2) := by
  rw [readContent?.eq_def]
  rfl

theorem readContent?_plain {c : Char} (quote : c ≠ '"') (backslash : c ≠ '\\')
    (rest : List Char) :
    readContent? (c :: rest) = (readContent? rest).map fun read => (c :: read.1, read.2) := by
  rw [readContent?.eq_def]
  simp only [if_neg quote, if_neg backslash]

theorem readContent?_escapeChar (c : Char) (rest : List Char) :
    readContent? (escapeChar c ++ rest) =
      (readContent? rest).map fun read => (c :: read.1, read.2) := by
  unfold escapeChar
  split
  case h_7 backslash quote _ _ _ _ => exact readContent?_plain quote backslash rest
  all_goals exact readContent?_escape _ rest

/-- An escaped text is read back up to its closing quote, whatever follows. -/
theorem readContent?_flatMap (text rest : List Char) :
    readContent? (text.flatMap escapeChar ++ '"' :: rest) = some (text, rest) := by
  induction text with
  | nil => exact readContent?_quote rest
  | cons c text ih =>
    rw [List.flatMap_cons, List.append_assoc, readContent?_escapeChar, ih]
    rfl

theorem stringLiteral_append (value : String) (rest : List Char) :
    stringLiteral value ++ rest = '"' :: (value.toList.flatMap escapeChar ++ '"' :: rest) := by
  simp [stringLiteral]

/-- String literals are equal only piece by piece. -/
theorem stringLiteral_cancel {s t : String} {r r' : List Char}
    (h : stringLiteral s ++ r = stringLiteral t ++ r') : s = t ∧ r = r' := by
  rw [stringLiteral_append, stringLiteral_append] at h
  have read := congrArg readContent? (List.cons.inj h).2
  rw [readContent?_flatMap, readContent?_flatMap, Option.some.injEq, Prod.mk.injEq] at read
  exact ⟨String.toList_inj.mp read.1, read.2⟩

/-! ## Integer literals -/

/-- The characters that an integer consists of. -/
def isIntegerChar (c : Char) : Bool :=
  c == '-' || c.isDigit

theorem intLiteral_eq (n : Int) :
    intLiteral n = signText (decide (n < 0)) ++ Nat.toDigits 10 n.natAbs := by
  cases n with
  | ofNat n => simp [intLiteral, Int.repr, signText]
  | negSucc n => simp [intLiteral, Int.repr, signText, Int.negSucc_lt_zero]

theorem toDigits_head (n : Nat) : (Nat.toDigits 10 n).head? ≠ some '-' := by
  intro sign
  have digit : '-'.isDigit :=
    Nat.isDigit_of_mem_toDigits (by decide) (by decide) (List.mem_of_head? sign)
  exact absurd digit (by decide)

theorem intLiteral_injective : Function.Injective intLiteral := by
  intro a b same
  rw [intLiteral_eq, intLiteral_eq] at same
  obtain ⟨sign, digits⟩ := signText_cancel (toDigits_head _) (toDigits_head _) same
  have magnitude : a.natAbs = b.natAbs := by
    rw [← Nat.ofDigitChars_ten_toDigits (n := a.natAbs), digits, Nat.ofDigitChars_ten_toDigits]
  have side : a < 0 ↔ b < 0 := by simpa using sign
  omega

/-- A sign perhaps, and digits. -/
theorem isIntegerChar_of_signed {negative : Bool} {digits : List Char}
    (all : ∀ c ∈ digits, c.isDigit) : ∀ c ∈ signText negative ++ digits, isIntegerChar c := by
  intro c hc
  rcases List.mem_append.mp hc with hc | hc
  · cases negative with
    | false => cases hc
    | true => rw [List.mem_singleton.mp hc]; rfl
  · simp [isIntegerChar, all c hc]

theorem isIntegerChar_of_mem {n : Int} {c : Char} (hc : c ∈ intLiteral n) : isIntegerChar c := by
  rw [intLiteral_eq] at hc
  exact isIntegerChar_of_signed
    (fun _ h => Nat.isDigit_of_mem_toDigits (by decide) (by decide) h) c hc

theorem intLiteral_ne_nil (n : Int) : intLiteral n ≠ [] := by
  simp [intLiteral_eq, Nat.toDigits_ne_nil]

/-- Integer literals are equal only piece by piece. -/
theorem intLiteral_cancel {a b : Int} {r r' : List Char} (hr : Stops isIntegerChar r)
    (hr' : Stops isIntegerChar r') (h : intLiteral a ++ r = intLiteral b ++ r') :
    a = b ∧ r = r' := by
  obtain ⟨literal, rest⟩ := run_cancel (fun _ => isIntegerChar_of_mem)
    (fun _ => isIntegerChar_of_mem) hr hr' h
  exact ⟨intLiteral_injective literal, rest⟩

/-! ## Literals of single precision -/

theorem floatLiteral_finite (negative : Bool) (rank : Fin Format.single.finiteCount) :
    floatLiteral (.finite negative rank) =
      (Binary.finite negative rank : Single).text .plain ++ ['f'] := rfl

/-- The literal of a finite number: a sign perhaps, digits, a point with digits
perhaps, and the suffix. -/
theorem exists_floatParts (negative : Bool) (rank : Fin Format.single.finiteCount) :
    ∃ whole fraction, whole ≠ [] ∧ (∀ c ∈ whole, c.isDigit) ∧ (∀ c ∈ fraction, c.isDigit) ∧
      floatLiteral (.finite negative rank) =
        signText negative ++ whole ++ Decimal.pointed fraction ++ ['f'] := by
  obtain ⟨whole, fraction, nonempty, digits, decimals, text, _⟩ :=
    (Format.single.shortest rank).exists_parts
  refine ⟨whole, fraction, nonempty, digits, decimals, ?_⟩
  rw [floatLiteral_finite, text_finite, text, List.append_assoc _ whole]

/-- The characters before the suffix of a literal. -/
def isDecimalChar (c : Char) : Bool :=
  c == '.' || isIntegerChar c

theorem isDecimalChar_of_mem {negative : Bool} {rank : Fin Format.single.finiteCount} {c : Char}
    (hc : c ∈ (Binary.finite negative rank : Single).text .plain) : isDecimalChar c := by
  obtain ⟨whole, fraction, _, digits, decimals, text, _⟩ :=
    (Format.single.shortest rank).exists_parts
  rw [Binary.text_finite, text, ← List.append_assoc] at hc
  rcases List.mem_append.mp hc with hc | hc
  · simp [isDecimalChar, isIntegerChar_of_signed digits c hc]
  · cases fraction with
    | nil => cases hc
    | cons digit more =>
      rcases List.mem_cons.mp hc with rfl | hc
      · rfl
      · simp [isDecimalChar, isIntegerChar, decimals c hc]

/-- Literals of finite numbers are equal only piece by piece. -/
theorem floatLiteral_cancel {s t : Bool} {a b : Fin Format.single.finiteCount}
    {r r' : List Char}
    (h : floatLiteral (.finite s a) ++ r = floatLiteral (.finite t b) ++ r') :
    (s = t ∧ a = b) ∧ r = r' := by
  rw [floatLiteral_finite, floatLiteral_finite, List.append_assoc, List.append_assoc] at h
  have suffix (rest : List Char) : Stops isDecimalChar (['f'] ++ rest) :=
    stops_cons (by decide) rest
  obtain ⟨text, rest⟩ := run_cancel (fun _ => isDecimalChar_of_mem)
    (fun _ => isDecimalChar_of_mem) (suffix r) (suffix r') h
  have same := Binary.text_plain_injective text
  cases same
  exact ⟨⟨rfl, rfl⟩, List.append_cancel_left rest⟩

/-- What follows an integer literal, if the text is also that of a literal of
single precision: the suffix, or a point with a digit. -/
theorem float_tail_of_int {n : Int} {negative : Bool} {rank : Fin Format.single.finiteCount}
    {r r' : List Char} (hr : Stops isIntegerChar r)
    (h : intLiteral n ++ r = floatLiteral (.finite negative rank) ++ r') :
    (∃ more, r = 'f' :: more) ∨ ∃ digit more, r = '.' :: digit :: more ∧ digit.isDigit := by
  obtain ⟨whole, fraction, _, digits, decimals, text⟩ := exists_floatParts negative rank
  rw [text, List.append_assoc _ ['f'], List.append_assoc _ (Decimal.pointed fraction)] at h
  have stop : Stops isIntegerChar (Decimal.pointed fraction ++ (['f'] ++ r')) := by
    cases fraction <;> exact stops_cons (by decide) _
  obtain ⟨_, rest⟩ := run_cancel (fun _ => isIntegerChar_of_mem)
    (isIntegerChar_of_signed digits) hr stop h
  cases fraction with
  | nil => exact .inl ⟨r', rest⟩
  | cons digit more => exact .inr ⟨digit, _, rest, decimals digit List.mem_cons_self⟩

end Inspector.CSharp
