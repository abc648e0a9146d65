import Inspector.Number.Numeral
import Inspector.Proofs.Number.Rounding

/-!
# Numbers written out

The text of a number tells which number it is. Two steps lead there:

- The shortest decimal of a rank is nearest to that rank and to no other
  (`nearestRank_shortest`), on whichever grid the search ended.
- A decimal that is written out reads back as a decimal of the same value
  (`read?_writtenOut`). It need not be the same decimal: the zeros that fill up
  to the point become digits of the coefficient.

**The law** (`text_plain_injective`): different numbers of a format have
different texts, the two zeros included. Along the way the shape of the text is
settled (`exists_parts`): digits, and after a point, if there is one, more
digits.
-/

namespace Inspector.Number

namespace Decimal

/-! ## Value -/

/-- Two decimals stand for the same number. -/
def SameValue (d e : Decimal) : Prop :=
  d.ratio.1 * e.ratio.2 = e.ratio.1 * d.ratio.2

theorem ratio_den_pos (d : Decimal) : 0 < d.ratio.2 :=
  Nat.pow_pos (by decide)

theorem SameValue.nearestRank_eq {d e : Decimal} (h : d.SameValue e) (F : Format) :
    d.nearestRank F = e.nearestRank F :=
  F.nearestRank_congr d.ratio_den_pos e.ratio_den_pos h

/-! ## The text of a decimal -/

/-- The digits after the point, with the point, if there are any. -/
def pointed : List Char → List Char
  | [] => []
  | digit :: more => '.' :: digit :: more

/-- A run of digits does not go on into the point. -/
theorem span_parts {whole : List Char} (digits : ∀ c ∈ whole, c.isDigit) (fraction : List Char) :
    (whole ++ pointed fraction).takeWhile Char.isDigit = whole ∧
      (whole ++ pointed fraction).dropWhile Char.isDigit = pointed fraction := by
  have stop : (pointed fraction).takeWhile Char.isDigit = [] ∧
      (pointed fraction).dropWhile Char.isDigit = pointed fraction := by
    cases fraction <;> simp [pointed]
  constructor
  · rw [List.takeWhile_append_of_pos digits, stop.1, List.append_nil]
  · rw [List.dropWhile_append_of_pos digits, stop.2]

/-- Digits with a point among them are read as the number they write. -/
theorem read?_parts {whole fraction : List Char} (nonempty : whole ≠ [])
    (digits : ∀ c ∈ whole, c.isDigit) (decimals : ∀ c ∈ fraction, c.isDigit) :
    read? (whole ++ pointed fraction) = some (ofParts whole fraction 0) := by
  obtain ⟨run, rest⟩ := span_parts digits fraction
  have found : whole.isEmpty = false := by simpa using nonempty
  simp only [read?, run, rest]
  cases fraction with
  | nil => simp [pointed, found]
  | cons digit more =>
    obtain ⟨all, none⟩ := span_parts decimals []
    rw [pointed, List.append_nil] at all none
    simp only [pointed, all, none, found]
    rfl

theorem isDigit_of_mem_digits {d : Decimal} {c : Char} (h : c ∈ d.digits) : c.isDigit :=
  Nat.isDigit_of_mem_toDigits (by decide) (by decide) h

theorem digitsValue_digits (d : Decimal) : digitsValue d.digits = d.coefficient :=
  Nat.ofDigitChars_ten_toDigits

/-- Zeros after the digits multiply by ten, zeros before them do nothing. -/
theorem digitsValue_zeros (digits : List Char) (before after : Nat) :
    digitsValue (List.replicate before '0' ++ digits ++ List.replicate after '0') =
      digitsValue digits * 10 ^ after := by
  simp [digitsValue, Nat.ofDigitChars_append, Nat.ofDigitChars_replicate_zero, Nat.mul_comm]

/-- The shape of a decimal that is written out, and what its digits come to. -/
theorem exists_parts (d : Decimal) : ∃ whole fraction, whole ≠ [] ∧
    (∀ c ∈ whole, c.isDigit) ∧ (∀ c ∈ fraction, c.isDigit) ∧
    d.writtenOut "" = whole ++ pointed fraction ∧ (ofParts whole fraction 0).SameValue d := by
  have nonempty : d.digits ≠ [] := Nat.toDigits_ne_nil
  by_cases upward : 0 ≤ d.exponent
  · refine ⟨d.digits ++ List.replicate d.exponent.toNat '0', [], by simp [nonempty], ?_, by simp,
      by simp [writtenOut, upward, pointed], ?_⟩
    · intro c hc
      rcases List.mem_append.mp hc with hc | hc
      · exact isDigit_of_mem_digits hc
      · rw [List.eq_of_mem_replicate hc]
        rfl
    · have value := digitsValue_zeros d.digits 0 d.exponent.toNat
      rw [List.replicate_zero, List.nil_append, digitsValue_digits] at value
      have down : (-d.exponent).toNat = 0 := by omega
      simp [SameValue, ofParts, ratio, value, down]
  · -- enough zeros stand before the digits for one of them to precede the point
    have below : d.exponent < 0 := Int.not_le.mp upward
    let places := (-d.exponent).toNat
    have positive : 0 < places := by omega
    let padded := List.replicate (places + 1 - d.digits.length) '0' ++ d.digits
    have long : places + 1 ≤ padded.length := by
      simp only [padded, List.length_append, List.length_replicate]
      omega
    have digits : ∀ c ∈ padded, c.isDigit := by
      intro c hc
      rcases List.mem_append.mp hc with hc | hc
      · rw [List.eq_of_mem_replicate hc]
        rfl
      · exact isDigit_of_mem_digits hc
    have decimals : (padded.drop (padded.length - places)).length = places := by
      rw [List.length_drop]
      omega
    obtain ⟨digit, more, fraction⟩ :
        ∃ digit more, padded.drop (padded.length - places) = digit :: more :=
      List.exists_cons_of_length_pos (by omega)
    refine ⟨padded.take (padded.length - places), padded.drop (padded.length - places), ?_,
      fun c hc => digits c (List.mem_of_mem_take hc),
      fun c hc => digits c (List.mem_of_mem_drop hc), ?_, ?_⟩
    · rw [ne_eq, ← List.length_eq_zero_iff, List.length_take]
      omega
    · rw [fraction, pointed, ← fraction]
      simp only [writtenOut, if_neg upward]
      rfl
    · have value : digitsValue padded = d.coefficient := by
        have zeros := digitsValue_zeros d.digits (places + 1 - d.digits.length) 0
        simpa [digitsValue_digits] using zeros
      simp only [SameValue, ofParts, ratio, List.take_append_drop, value, decimals]
      have same : (0 : Int) - places = d.exponent := by omega
      rw [same]

theorem writtenOut_cons (d : Decimal) :
    ∃ digit more, d.writtenOut "" = digit :: more ∧ digit.isDigit := by
  obtain ⟨whole, fraction, nonempty, digits, _, text, _⟩ := d.exists_parts
  obtain ⟨digit, more, rfl⟩ := List.exists_cons_of_ne_nil nonempty
  exact ⟨digit, _, text, digits digit List.mem_cons_self⟩

/-- A decimal that is written out reads back as a decimal of the same value. -/
theorem read?_writtenOut (d : Decimal) : ∃ e, read? (d.writtenOut "") = some e ∧ e.SameValue d := by
  obtain ⟨whole, fraction, nonempty, digits, decimals, text, value⟩ := d.exists_parts
  exact ⟨_, by rw [text, read?_parts nonempty digits decimals], value⟩

end Decimal

/-! ## The shortest decimal -/

namespace Format

variable (F : Format)

/-- What a grid answers is nearest to the rank that was asked for. -/
theorem nearestRank_of_shortestAt? {rank : Nat} {exponent : Int} {d : Decimal}
    (h : F.shortestAt? rank exponent = some d) : d.nearestRank F = rank := by
  simp only [shortestAt?] at h
  split at h
  next below above =>
    split at h <;> cases h
    · exact beq_iff_eq.mp below
    · exact beq_iff_eq.mp above
  next below _ => cases h; exact beq_iff_eq.mp below
  next _ above => cases h; exact beq_iff_eq.mp above
  next => cases h

/-- Every magnitude lies on the finest grid. -/
theorem nearestRank_floorAt_finest (rank : Nat) :
    (F.floorAt rank (-F.scale)).nearestRank F = rank := by
  have down : (-(-(F.scale : Int))).toNat = F.scale := by omega
  have up : (-(F.scale : Int)).toNat = 0 := by omega
  have exact : F.units rank * 10 ^ F.scale / 2 ^ F.scale * 2 ^ F.scale =
      F.units rank * 10 ^ F.scale := by
    have power : 2 ^ F.scale ∣ 10 ^ F.scale := ⟨5 ^ F.scale, by rw [← Nat.mul_pow]⟩
    exact Nat.div_mul_cancel (Nat.dvd_mul_left_of_dvd power _)
  have value : (F.floorAt rank (-F.scale)).ratio =
      (F.units rank * 10 ^ F.scale / 2 ^ F.scale, 10 ^ F.scale) := by
    simp only [floorAt, Decimal.ratio, down, up, Nat.pow_zero, Nat.mul_one]
  have same :=
    F.nearestRank_congr (Nat.pow_pos (by decide : 0 < 10)) (Nat.two_pow_pos F.scale) exact
  rw [Decimal.nearestRank, value, same, nearestRank_units]

/-- So is whatever the search from a grid downwards ends with. -/
theorem nearestRank_searchFrom (rank steps : Nat) :
    (F.searchFrom rank steps).nearestRank F = rank := by
  induction steps with
  | zero => exact F.nearestRank_floorAt_finest rank
  | succ steps ih =>
    rw [searchFrom]
    cases h : F.shortestAt? rank (steps + 1 - F.scale) with
    | none => exact ih
    | some d => exact F.nearestRank_of_shortestAt? h

/-- The shortest decimal of a rank is nearest to that rank. -/
theorem nearestRank_shortest (rank : Nat) : (F.shortest rank).nearestRank F = rank := by
  rw [shortest]
  split
  next zero =>
    have same := F.nearestRank_congr (a := 0) (b := 1) (by decide) (Nat.two_pow_pos F.scale)
      (show 0 * 2 ^ F.scale = F.units 0 * 1 by simp [units])
    rw [zero]
    exact same.trans (F.nearestRank_units 0)
  next => exact F.nearestRank_searchFrom rank _

/-- Different ranks are written differently. -/
theorem writtenOut_shortest_injective :
    Function.Injective fun rank => (F.shortest rank).writtenOut "" := by
  intro a b same
  obtain ⟨d, reads, value⟩ := (F.shortest a).read?_writtenOut
  obtain ⟨e, reads', value'⟩ := (F.shortest b).read?_writtenOut
  have text : (F.shortest a).writtenOut "" = (F.shortest b).writtenOut "" := same
  rw [text, reads'] at reads
  cases reads
  rw [← F.nearestRank_shortest a, ← F.nearestRank_shortest b, ← value.nearestRank_eq F,
    ← value'.nearestRank_eq F]

end Format

/-! ## The text of a number -/

theorem Decimal.text_plain (d : Decimal) : d.text .plain = d.writtenOut "" := by
  simp [Decimal.text, Layout.writesOut, Layout.plain]

namespace Binary

variable {F : Format}

/-- The text of a finite number: a sign perhaps, and digits with a point perhaps. -/
theorem text_finite (negative : Bool) (rank : Fin F.finiteCount) :
    (finite negative rank : Binary F).text .plain =
      signText negative ++ (F.shortest rank).writtenOut "" := by
  rw [text, Decimal.text_plain]

/-- A sign can be told from what it stands before, unless that starts with one. -/
theorem signText_cancel {s t : Bool} {a b : List Char} (ha : a.head? ≠ some '-')
    (hb : b.head? ≠ some '-') (h : signText s ++ a = signText t ++ b) : s = t ∧ a = b := by
  cases s <;> cases t <;> simp only [signText, Bool.false_eq_true, if_false, if_true,
    List.nil_append, List.cons_append, List.cons.injEq, true_and] at h
  · exact ⟨rfl, h⟩
  · exact absurd (by rw [h]; rfl) ha
  · exact absurd (by rw [← h]; rfl) hb
  · exact ⟨rfl, h⟩

/-- The text of a number without its sign. -/
def unsignedText : Binary F → List Char
  | nan => "NaN".toList
  | infinite _ => "inf".toList
  | finite _ rank => (F.shortest rank).writtenOut ""

/-- Whether a number shows a sign. -/
def showsSign : Binary F → Bool
  | nan => false
  | infinite negative => negative
  | finite negative _ => negative

theorem text_plain (x : Binary F) : x.text .plain = signText x.showsSign ++ x.unsignedText := by
  cases x with
  | nan => rfl
  | infinite negative => rfl
  | finite negative rank => exact text_finite negative rank

theorem unsignedText_head (x : Binary F) : x.unsignedText.head? ≠ some '-' := by
  cases x with
  | nan => exact (by decide : "NaN".toList.head? ≠ some '-')
  | infinite negative => exact (by decide : "inf".toList.head? ≠ some '-')
  | finite negative rank =>
    obtain ⟨digit, more, text, isDigit⟩ := (F.shortest rank).writtenOut_cons
    rintro sign
    rw [unsignedText, text] at sign
    cases sign
    exact absurd isDigit (by decide)

/-- Different numbers have different texts. -/
theorem text_plain_injective : Function.Injective (text .plain : Binary F → List Char) := by
  intro x y same
  rw [text_plain, text_plain] at same
  obtain ⟨sign, body⟩ := signText_cancel x.unsignedText_head y.unsignedText_head same
  -- neither word starts with a digit
  have word {rank : Nat} {c : Char} {rest : List Char} (hc : ¬c.isDigit) :
      (F.shortest rank).writtenOut "" ≠ c :: rest := by
    intro h
    obtain ⟨digit, more, text, isDigit⟩ := (F.shortest rank).writtenOut_cons
    rw [text] at h
    cases h
    exact hc isDigit
  cases x <;> cases y <;> simp only [showsSign, unsignedText] at sign body
  case nan.nan => rfl
  case infinite.infinite => rw [sign]
  case finite.finite =>
    rw [sign, Fin.ext (F.writtenOut_shortest_injective body)]
  case finite.nan => exact absurd body (word (by decide))
  case finite.infinite => exact absurd body (word (by decide))
  case nan.finite => exact absurd body.symm (word (by decide))
  case infinite.finite => exact absurd body.symm (word (by decide))
  all_goals exact absurd body (by decide)

end Binary

end Inspector.Number
