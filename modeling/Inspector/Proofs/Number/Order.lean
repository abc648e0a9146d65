import Inspector.Proofs.Number.Rounding
import Mathlib.Order.Monotone.Basic

/-!
# The order of numbers

Ranks count the magnitudes of a format upwards, so a greater rank stands for a
greater magnitude (`Format.units_strictMono`), also across a doubling of the
distance between neighbours. Two readings of "at most" follow from it.

- Numbers are compared by their places, and that is the order of what they stand
  for (`Binary.atMost_iff`). Not-a-number is at most nothing, and nothing is at
  most it, so of two numbers that the comparison leaves apart one may be none.
- Dropping the fraction keeps the order (`Binary.truncate_mono`).
-/

namespace Inspector.Number

namespace Format

variable (F : Format)

theorem units_lt_succ (rank : Nat) : F.units rank < F.units (rank + 1) := by
  have power : 0 < 2 ^ F.fractionBits := Nat.two_pow_pos _
  have below := F.doublings_mul_le rank
  by_cases carry : 2 ^ F.fractionBits ∣ rank + 1
  · -- the last significand of a doubling, and the first of the next one
    have next : (rank + 1) / 2 ^ F.fractionBits = rank / 2 ^ F.fractionBits + 1 :=
      Nat.succ_div_of_dvd carry
    have full : (rank / 2 ^ F.fractionBits + 1) * 2 ^ F.fractionBits = rank + 1 := by
      rw [← next]
      exact Nat.div_mul_cancel carry
    cases quotient : rank / 2 ^ F.fractionBits with
    | zero =>
      rw [quotient] at next
      simp [units_eq, doublings, quotient, next]
    | succ d =>
      rw [quotient] at next full
      have here : F.doublings rank = d := by rw [doublings, quotient, Nat.add_sub_cancel]
      have there : F.doublings (rank + 1) = d + 1 := by rw [doublings, next, Nat.add_sub_cancel]
      have first : rank + 1 - (d + 1) * 2 ^ F.fractionBits = 2 ^ F.fractionBits := by
        rw [← full, Nat.succ_mul (d + 1), Nat.add_sub_cancel_left]
      have last : rank - d * 2 ^ F.fractionBits < 2 ^ F.fractionBits * 2 := by
        rw [Nat.succ_mul, Nat.succ_mul] at full
        omega
      rw [units_eq, units_eq, here, there, first, Nat.pow_succ, Nat.mul_comm (2 ^ d),
        ← Nat.mul_assoc]
      exact Nat.mul_lt_mul_of_pos_right last (Nat.two_pow_pos d)
  · have same : F.doublings (rank + 1) = F.doublings rank := by
      rw [doublings, Nat.succ_div_of_not_dvd carry]
      rfl
    rw [units_eq, units_eq, same]
    exact Nat.mul_lt_mul_of_pos_right (by omega) (Nat.two_pow_pos _)

theorem units_strictMono : StrictMono F.units :=
  strictMono_nat_of_lt_succ F.units_lt_succ

theorem units_le_iff {a b : Nat} : F.units a ≤ F.units b ↔ a ≤ b :=
  F.units_strictMono.le_iff_le

theorem units_zero : F.units 0 = 0 := by simp [units_eq]

end Format

namespace Binary

variable {F : Format}

/-- A number with a sign. -/
def signed (negative : Bool) (n : Nat) : Int :=
  if negative then -n else n

/-- One number is at most another one, by what they stand for. -/
def AtMost : Binary F → Binary F → Prop
  | nan, _ => False
  | _, nan => False
  | infinite true, _ => True
  | _, infinite false => True
  | finite s a, finite t b => signed s (F.units a) ≤ signed t (F.units b)
  | _, _ => False

theorem signed_units_le_iff {s t : Bool} {a b : Nat} :
    signed s (F.units a) ≤ signed t (F.units b) ↔ signed s a ≤ signed t b := by
  have ab := F.units_le_iff (a := a) (b := b)
  have ba := F.units_le_iff (a := b) (b := a)
  have least (n : Nat) : F.units n ≤ 0 ↔ n ≤ 0 := by
    have zero := F.units_le_iff (a := n) (b := 0)
    rwa [F.units_zero] at zero
  have leastA := least a
  have leastB := least b
  unfold signed
  cases s <;> cases t <;> simp only [if_true, if_false, Bool.false_eq_true] <;> omega

theorem position_finite (negative : Bool) (rank : Fin F.finiteCount) :
    (finite negative rank).position = some (signed negative rank) := rfl

/-- To be at most a number is not to be compared as greater, where both are
numbers. The two infinities of a format without magnitudes have one place. -/
theorem atMost_iff (magnitudes : 0 < F.finiteCount) {x y : Binary F} :
    x.AtMost y ↔ x ≠ nan ∧ y ≠ nan ∧ y.lt x = false := by
  cases x with
  | nan => simp [AtMost]
  | infinite s =>
    cases y with
    | nan => cases s <;> simp [AtMost]
    | infinite t =>
      cases s <;> cases t <;> simp [AtMost, lt, position]
      all_goals omega
    | finite t b =>
      have bound := b.isLt
      cases s <;> cases t <;> simp [AtMost, lt, position]
      all_goals omega
  | finite s a =>
    cases y with
    | nan => simp [AtMost]
    | infinite t =>
      have bound := a.isLt
      cases s <;> cases t <;> simp [AtMost, lt, position]
      all_goals omega
    | finite t b =>
      simp only [AtMost, signed_units_le_iff, lt, position_finite]
      simp

theorem signed_div_mono (k : Nat) {s t : Bool} {a b : Nat} (le : signed s a ≤ signed t b) :
    signed s (a / k) ≤ signed t (b / k) := by
  have up : a ≤ b → a / k ≤ b / k := Nat.div_le_div_right
  have down : b ≤ a → b / k ≤ a / k := Nat.div_le_div_right
  have noneA : a = 0 → a / k = 0 := by
    rintro rfl
    exact Nat.zero_div k
  have noneB : b = 0 → b / k = 0 := by
    rintro rfl
    exact Nat.zero_div k
  generalize a / k = m at *
  generalize b / k = n at *
  unfold signed at *
  cases s <;> cases t <;> simp only [if_true, if_false, Bool.false_eq_true] at le ⊢ <;> omega

theorem truncate_finite (low high : Int) (negative : Bool) (rank : Fin F.finiteCount) :
    (finite negative rank).truncate low high =
      max low (min high (signed negative (F.units rank / 2 ^ F.scale))) := by
  cases negative <;> rfl

/-- Dropping fractions keeps the order. -/
theorem truncate_mono {low high : Int} (range : low ≤ high) {x y : Binary F} (le : x.AtMost y) :
    x.truncate low high ≤ y.truncate low high := by
  have inner (n : Int) : low ≤ max low (min high n) ∧ max low (min high n) ≤ high := by omega
  cases x with
  | nan => exact le.elim
  | infinite s =>
    cases y with
    | nan => cases s <;> exact le.elim
    | infinite t =>
      cases s <;> cases t
      · exact Int.le_refl _
      · exact le.elim
      · exact range
      · exact Int.le_refl _
    | finite t b =>
      cases s
      · exact le.elim
      · exact (inner _).1
  | finite s a =>
    cases y with
    | nan => exact le.elim
    | infinite t =>
      cases t
      · exact (inner _).2
      · exact le.elim
    | finite t b =>
      rw [truncate_finite, truncate_finite]
      have whole := signed_div_mono (2 ^ F.scale) le
      omega

end Binary

end Inspector.Number
