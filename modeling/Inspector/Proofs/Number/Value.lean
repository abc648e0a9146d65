import Inspector.Proofs.Number.Order
import Mathlib.Algebra.Order.Floor.Ring
import Mathlib.Data.Rat.Floor
import Mathlib.Order.WithBotTop

/-!
# What numbers stand for

A rank is two numbers written one behind the other: a fraction, and before it how often
the distance between neighbours has doubled. Read in this way it stands for a rational
number (`Format.magnitude`), and a number of a format for a rational number or for one of
the two ends of the line of all numbers (`Binary.value?`). Not-a-number stands for nothing.

What the library does with numbers is then said of what they stand for: they are compared
as what they stand for (`Binary.atMost_iff_le`, `Binary.same_iff`), and cut to integers as
what they stand for (`Binary.truncate_eq`).

An integer that a format has is the number nearest to it (`Binary.isInt_ofInt`). A number
without its fraction is again a number of its format (`Format.exists_units_whole`), so
that its whole part is not changed by rounding (`Binary.isInt_ofInt_whole`).
-/

namespace Inspector.Number

/-! ## Magnitudes -/

namespace Format

variable (F : Format)

/-- The magnitude of a rank. Its significand has a leading one in front of the fraction,
unless the distance between neighbours is still the least one. -/
def magnitude (rank : Nat) : ℚ :=
  let exponent := rank / 2 ^ F.fractionBits
  let fraction := rank % 2 ^ F.fractionBits
  if exponent = 0 then fraction / 2 ^ F.scale
  else (2 ^ F.fractionBits + fraction) * 2 ^ (exponent - 1) / 2 ^ F.scale

theorem magnitude_eq (rank : Nat) : F.magnitude rank = F.units rank / 2 ^ F.scale := by
  unfold magnitude
  cases quotient : rank / 2 ^ F.fractionBits with
  | zero =>
    have small : rank % 2 ^ F.fractionBits = rank := by
      rw [Nat.mod_eq_sub_mul_div, quotient, Nat.mul_zero, Nat.sub_zero]
    have units : F.units rank = rank := by simp [units_eq, doublings, quotient]
    simp only [if_true, small, units]
  | succ d =>
    have doubled : F.doublings rank = d := by rw [doublings, quotient, Nat.add_sub_cancel]
    rw [units_eq, doubled, F.significand_eq quotient]
    simp only [Nat.add_one_ne_zero, if_false, Nat.add_sub_cancel]
    push_cast
    rfl

/-- A significand that has no more than the bits of the format is one at every doubling. -/
theorem exists_units {significand : Nat} (bits : significand < 2 ^ (F.fractionBits + 1))
    (doublings : Nat) : ∃ rank, F.units rank = significand * 2 ^ doublings := by
  induction doublings generalizing significand with
  | zero =>
    refine ⟨significand, ?_⟩
    have none : F.doublings significand = 0 := by
      have low : significand / 2 ^ F.fractionBits < 2 := by
        rwa [Nat.div_lt_iff_lt_mul (Nat.two_pow_pos _), Nat.mul_comm, ← Nat.pow_succ]
      unfold Format.doublings
      omega
    simp [units_eq, none]
  | succ d ih =>
    by_cases leading : significand < 2 ^ F.fractionBits
    · -- without its leading bit it is written with one doubling less
      have bits' : significand * 2 < 2 ^ (F.fractionBits + 1) := by
        rw [Nat.pow_succ]
        omega
      obtain ⟨rank, units⟩ := ih bits'
      exact ⟨rank, by rw [units, Nat.pow_succ, Nat.mul_assoc, Nat.mul_comm 2]⟩
    · have low : significand / 2 ^ F.fractionBits = 1 := by
        refine Nat.div_eq_of_lt_le ?_ ?_
        · omega
        · rw [Nat.pow_succ] at bits
          omega
      refine ⟨significand + (d + 1) * 2 ^ F.fractionBits, ?_⟩
      have doubled : F.doublings (significand + (d + 1) * 2 ^ F.fractionBits) = d + 1 := by
        rw [Format.doublings, Nat.add_mul_div_right _ _ (Nat.two_pow_pos _), low]
        omega
      rw [units_eq, doubled, Nat.add_sub_cancel_right]

/-- A magnitude without its fraction is a magnitude of the format. -/
theorem exists_units_whole (rank : Nat) :
    ∃ whole, F.units whole = F.units rank / 2 ^ F.scale * 2 ^ F.scale := by
  have units := F.units_eq rank
  have bits := F.significand_lt rank
  generalize rank - F.doublings rank * 2 ^ F.fractionBits = s at units bits
  rcases Nat.le_total F.scale (F.doublings rank) with whole | fraction
  · -- no fraction
    obtain ⟨k, doublings⟩ := Nat.exists_eq_add_of_le whole
    refine ⟨rank, ?_⟩
    rw [units, doublings, Nat.pow_add, Nat.mul_left_comm,
      Nat.mul_div_cancel_left _ (Nat.two_pow_pos _), Nat.mul_comm]
  · -- a part of the significand is dropped
    obtain ⟨k, scale⟩ := Nat.exists_eq_add_of_le fraction
    have dropped : F.units rank / 2 ^ F.scale = s / 2 ^ k := by
      rw [units, scale, Nat.pow_add, Nat.mul_comm s, Nat.mul_div_mul_left _ _ (Nat.two_pow_pos _)]
    rw [dropped]
    exact F.exists_units (Nat.lt_of_le_of_lt (Nat.div_le_self _ _) bits) _

end Format

/-! ## Numbers -/

/-- A rational number, or one of the two ends beyond all of them. -/
abbrev Exact := WithBotTop ℚ

/-- The whole part of a rational number: the fraction is dropped, toward zero. -/
def wholePart (q : ℚ) : Int :=
  if q < 0 then ⌈q⌉ else ⌊q⌋

/-- The whole part, held between two limits. -/
def Exact.held (low high : Int) : Exact → Int
  | ⊥ => low
  | ⊤ => high
  | (q : ℚ) => max low (min high (wholePart q))

theorem Exact.held_bounds {low high : Int} (range : low ≤ high) (value : Exact) :
    low ≤ Exact.held low high value ∧ Exact.held low high value ≤ high := by
  rcases value with _ | _ | q
  · exact ⟨Int.le_refl low, range⟩
  · exact ⟨range, Int.le_refl high⟩
  · show low ≤ max low (min high (wholePart q)) ∧ max low (min high (wholePart q)) ≤ high
    omega

namespace Binary

variable {F : Format}

/-- What a number stands for. -/
def value? : Binary F → Option Exact
  | nan => none
  | infinite true => some ⊥
  | infinite false => some ⊤
  | finite negative rank =>
    some ((if negative then -F.magnitude rank else F.magnitude rank : ℚ) : Exact)

theorem wholePart_signed (negative : Bool) (num den : Nat) :
    wholePart ((signed negative num : Int) / (den : ℚ)) = signed negative (num / den) := by
  have floor : ⌊(num : ℚ) / den⌋ = ((num / den : Nat) : Int) := by
    simpa using Rat.floor_intCast_div_natCast num den
  have positive : (0 : ℚ) ≤ num / den := div_nonneg num.cast_nonneg den.cast_nonneg
  unfold wholePart
  cases negative with
  | false => simp [signed, floor, positive]
  | true =>
    have opposite : ((signed true num : Int) : ℚ) / den = -(num / den) := by
      simp [signed, neg_div]
    rw [opposite, Int.ceil_neg, Int.floor_neg, floor]
    split
    · rfl
    next other =>
      -- a number that is not below zero with a minus in front is zero
      have zero : (num : ℚ) / den = 0 := by linarith
      rw [zero, Int.floor_zero] at floor
      rw [zero, Int.ceil_zero]
      simp only [signed, if_true]
      omega

theorem value?_finite (negative : Bool) (rank : Fin F.finiteCount) :
    (finite negative rank).value? =
      some (((signed negative (F.units rank) : Int) / ((2 ^ F.scale : Nat) : ℚ) : ℚ) : Exact) := by
  cases negative <;> simp [value?, signed, F.magnitude_eq, neg_div]

/-- Numbers are compared as what they stand for. -/
theorem atMost_iff_le {x y : Binary F} :
    x.AtMost y ↔ ∃ a b, x.value? = some a ∧ y.value? = some b ∧ a ≤ b := by
  cases x with
  | nan => simp [AtMost, value?]
  | infinite s =>
    cases y with
    | nan => cases s <;> simp [AtMost, value?]
    | infinite t => cases s <;> cases t <;> simp [AtMost, value?]
    | finite t b => cases s <;> simp [AtMost, value?]
  | finite s a =>
    cases y with
    | nan => simp [AtMost, value?]
    | infinite t => cases t <;> simp [AtMost, value?]
    | finite t b =>
      have scale : (0 : ℚ) < ((2 ^ F.scale : Nat) : ℚ) := Nat.cast_pos.mpr (Nat.two_pow_pos _)
      simp only [value?_finite, AtMost, Option.some.injEq, exists_and_left, exists_eq_left',
        WithBotTop.coe_le_coe, div_le_div_iff_of_pos_right scale, Int.cast_le]

/-- Numbers are the same that stand for the same. -/
theorem same_iff (magnitudes : 0 < F.finiteCount) {x y : Binary F} :
    x.same y ↔ ∃ v, x.value? = some v ∧ y.value? = some v := by
  have both : x.same y ↔ x.AtMost y ∧ y.AtMost x := by
    have place (z : Binary F) : z = nan ↔ z.position = none := by cases z <;> simp [position]
    rw [atMost_iff magnitudes, atMost_iff magnitudes, same, lt, lt, ne_eq, ne_eq, place, place]
    cases x.position <;> cases y.position <;> simp
    omega
  rw [both, atMost_iff_le, atMost_iff_le]
  constructor
  · rintro ⟨⟨a, b, here, there, le⟩, b', a', there', here', ge⟩
    cases here.symm.trans here'
    cases there.symm.trans there'
    cases le_antisymm le ge
    exact ⟨a, here, there⟩
  · rintro ⟨v, here, there⟩
    exact ⟨⟨v, v, here, there, le_rfl⟩, v, v, there, here, le_rfl⟩

/-- Numbers are cut to integers as what they stand for, and to zero if they stand for
nothing. -/
theorem truncate_eq (low high : Int) (x : Binary F) :
    x.truncate low high = x.value?.elim 0 (Exact.held low high) := by
  cases x with
  | nan => rfl
  | infinite negative => cases negative <;> rfl
  | finite negative rank =>
    rw [truncate_finite, value?_finite, Option.elim_some, ← wholePart_signed]
    rfl

/-! ## Integers -/

/-- A number stands for an integer. -/
def IsInt (x : Binary F) (n : Int) : Prop :=
  x.value? = some ((n : ℚ) : Exact)

instance (x : Binary F) (n : Int) : Decidable (x.IsInt n) :=
  inferInstanceAs (Decidable (x.value? = some ((n : ℚ) : Exact)))

theorem isInt_finite_iff {negative : Bool} {rank : Fin F.finiteCount} {n : Int} :
    (finite negative rank).IsInt n ↔ signed negative (F.units rank) = n * 2 ^ F.scale := by
  have scale : ((2 ^ F.scale : Nat) : ℚ) ≠ 0 := Nat.cast_ne_zero.mpr (Nat.two_pow_pos _).ne'
  rw [IsInt, value?_finite, Option.some.injEq, WithBotTop.coe_injective.eq_iff,
    div_eq_iff scale]
  norm_cast

/-- What is the same as an integer stands for it. -/
theorem IsInt.same_iff (magnitudes : 0 < F.finiteCount) {x y : Binary F} {n : Int}
    (h : x.IsInt n) : x.same y ↔ y.IsInt n := by
  rw [Binary.same_iff magnitudes, h]
  simp [IsInt]

theorem IsInt.truncate_eq {x : Binary F} {n : Int} (h : x.IsInt n) (low high : Int) :
    x.truncate low high = max low (min high n) := by
  have whole : wholePart n = n := by simp [wholePart]
  rw [Binary.truncate_eq, h, Option.elim_some]
  show max low (min high (wholePart n)) = _
  rw [whole]

/-- An integer that the format has is found as it is. -/
theorem isInt_ofInt {n : Int} {rank : Nat} (finite : rank < F.finiteCount)
    (whole : F.units rank = n.natAbs * 2 ^ F.scale) : (ofInt n : Binary F).IsInt n := by
  have nearest : F.nearestRank n.natAbs 1 = rank := by
    rw [F.nearestRank_congr (c := F.units rank) (d := 2 ^ F.scale) Nat.one_pos (Nat.two_pow_pos _)
      (by rw [whole, Nat.mul_one]), F.nearestRank_units]
  rw [ofInt, ofRatio, nearest, ofRank, dif_pos finite, isInt_finite_iff, whole]
  by_cases below : n < 0
  · have sign : (n.natAbs : Int) = -n := Int.ofNat_natAbs_of_nonpos below.le
    simp [signed, below, sign]
  · have sign : (n.natAbs : Int) = n := Int.natAbs_of_nonneg (Int.not_lt.mp below)
    simp [signed, below, sign]

/-- A number of the format without its fraction is found as it is. -/
theorem isInt_ofInt_whole (negative : Bool) (rank : Fin F.finiteCount) :
    (ofInt (signed negative (F.units rank / 2 ^ F.scale)) : Binary F).IsInt
      (signed negative (F.units rank / 2 ^ F.scale)) := by
  obtain ⟨whole, units⟩ := F.exists_units_whole rank
  have below : whole ≤ rank := by
    rw [← F.units_le_iff, units]
    exact Nat.div_mul_le_self _ _
  have magnitude (n : Nat) : (signed negative n).natAbs = n := by cases negative <;> simp [signed]
  refine isInt_ofInt (Nat.lt_of_le_of_lt below rank.isLt) ?_
  rw [units, magnitude]

end Binary

end Inspector.Number
