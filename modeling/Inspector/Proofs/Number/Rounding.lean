import Inspector.Number.Shortest

/-!
# Rounding of quotients

`Format.nearestRank` takes a quotient of two naturals to the nearest rank of a
format. Two facts about it carry everything that is read off a decimal.

- It is a function of the quotient and not of the two naturals that stand for
  it (`nearestRank_congr`): expanding a fraction changes neither the grid on
  which it is rounded nor what is left over on that grid.
- A magnitude that the format has is nearest to itself (`nearestRank_units`).
  The bits of its significand say how often the distance between neighbours has
  doubled, and on the grid of that doubling nothing is left over.

Nothing here is about the two formats of this library in particular.
-/

namespace Inspector.Number

/-! ## Quotients -/

/-- Expanding a fraction does not change what it is rounded to. -/
theorem roundHalfEven_mul {k : Nat} (hk : 0 < k) (num den : Nat) :
    roundHalfEven (num * k) (den * k) = roundHalfEven num den := by
  have quotient : num * k / (den * k) = num / den := Nat.mul_div_mul_right num den hk
  have remainder : num * k % (den * k) = num % den * k := Nat.mul_mod_mul_right k num den
  have below : 2 * (num % den * k) < den * k ↔ 2 * (num % den) < den := by
    rw [← Nat.mul_assoc]
    exact Nat.mul_lt_mul_right hk
  have above : den * k < 2 * (num % den * k) ↔ den < 2 * (num % den) := by
    rw [← Nat.mul_assoc]
    exact Nat.mul_lt_mul_right hk
  simp only [roundHalfEven, quotient, remainder, below, above]

/-- A whole quotient is rounded to itself. -/
theorem roundHalfEven_exact {den : Nat} (hden : 0 < den) (n : Nat) :
    roundHalfEven (n * den) den = n := by
  have quotient : n * den / den = n := Nat.mul_div_left n hden
  have remainder : n * den % den = 0 := Nat.mul_mod_left n den
  simp only [roundHalfEven, quotient, remainder, Nat.mul_zero, if_pos hden]

namespace Format

variable (F : Format)

/-- Expanding a fraction does not change its nearest rank. -/
theorem nearestRank_mul {k : Nat} (hk : 0 < k) (num den : Nat) :
    F.nearestRank (num * k) (den * k) = F.nearestRank num den := by
  have units : num * k * 2 ^ F.scale = num * 2 ^ F.scale * k := Nat.mul_right_comm num k _
  have grid (d : Nat) : den * k * 2 ^ d = den * 2 ^ d * k := Nat.mul_right_comm den k _
  simp only [nearestRank, units, grid, Nat.mul_div_mul_right _ _ hk, roundHalfEven_mul hk]

/-- The nearest rank of a quotient is the same however the quotient is written. -/
theorem nearestRank_congr {a b c d : Nat} (hb : 0 < b) (hd : 0 < d) (h : a * d = c * b) :
    F.nearestRank a b = F.nearestRank c d :=
  calc F.nearestRank a b
    _ = F.nearestRank (a * d) (b * d) := (F.nearestRank_mul hd a b).symm
    _ = F.nearestRank (c * b) (d * b) := by rw [h, Nat.mul_comm b d]
    _ = F.nearestRank c d := F.nearestRank_mul hb c d

/-! ## Magnitudes of the format -/

/-- The significand of a rank: its units on the grid of its doubling. -/
theorem units_eq (rank : Nat) :
    F.units rank =
      (rank - F.doublings rank * 2 ^ F.fractionBits) * 2 ^ F.doublings rank := rfl

/-- What a rank is made of: the doublings below it, and its significand. -/
theorem doublings_mul_le (rank : Nat) : F.doublings rank * 2 ^ F.fractionBits ≤ rank := by
  have fits : rank / 2 ^ F.fractionBits * 2 ^ F.fractionBits ≤ rank := Nat.div_mul_le_self _ _
  exact Nat.le_trans (Nat.mul_le_mul_right _ (Nat.sub_le _ 1)) fits

/-- Where the distance between neighbours has doubled, a significand has its leading bit. -/
theorem significand_eq {rank d : Nat} (quotient : rank / 2 ^ F.fractionBits = d + 1) :
    rank - d * 2 ^ F.fractionBits = 2 ^ F.fractionBits + rank % 2 ^ F.fractionBits := by
  have split := Nat.div_add_mod rank (2 ^ F.fractionBits)
  rw [quotient, Nat.mul_succ, Nat.mul_comm] at split
  omega

/-- A significand has no more than the bits of the format. -/
theorem significand_lt (rank : Nat) :
    rank - F.doublings rank * 2 ^ F.fractionBits < 2 ^ (F.fractionBits + 1) := by
  have small := Nat.mod_lt rank (Nat.two_pow_pos F.fractionBits)
  rw [Nat.pow_succ, doublings]
  cases quotient : rank / 2 ^ F.fractionBits with
  | zero =>
    have split := Nat.div_add_mod rank (2 ^ F.fractionBits)
    rw [quotient] at split
    omega
  | succ d =>
    rw [Nat.add_sub_cancel, F.significand_eq quotient]
    omega

/-- The number of bits of a magnitude tells how often the distance between
neighbours has doubled below it. -/
theorem log2_units_sub (rank : Nat) : (F.units rank).log2 - F.fractionBits = F.doublings rank := by
  have power : 0 < 2 ^ F.fractionBits := Nat.two_pow_pos _
  have small := Nat.mod_lt rank power
  rcases Nat.lt_or_ge (rank / 2 ^ F.fractionBits) 2 with low | high
  · -- one unit apart: the magnitude is the rank itself, and has few bits
    have none : F.doublings rank = 0 := by unfold doublings; omega
    have same : F.units rank = rank := by simp [units_eq, none]
    have bound : rank < 2 ^ (F.fractionBits + 1) := by
      have : rank / 2 ^ F.fractionBits < 2 := low
      rw [Nat.div_lt_iff_lt_mul power] at this
      rw [Nat.pow_succ]
      omega
    have bits : rank.log2 ≤ F.fractionBits := by
      rcases Nat.eq_zero_or_pos rank with zero | positive
      · simp [zero]
      · exact Nat.le_of_lt_succ ((Nat.log2_lt (Nat.ne_of_gt positive)).mpr bound)
    rw [same, none]
    omega
  · -- the significand keeps its leading bit
    obtain ⟨d, hd⟩ : ∃ d, rank / 2 ^ F.fractionBits = d + 1 :=
      ⟨_, (Nat.sub_add_cancel (by omega)).symm⟩
    have doubled : F.doublings rank = d := by unfold doublings; omega
    have significand := F.significand_eq hd
    have least : 2 ^ (F.fractionBits + d) ≤ F.units rank := by
      rw [units_eq, doubled, significand, Nat.pow_add]
      exact Nat.mul_le_mul_right _ (Nat.le_add_right _ _)
    have greatest : F.units rank < 2 ^ (F.fractionBits + d + 1) := by
      rw [units_eq, doubled, significand, Nat.add_right_comm, Nat.pow_add]
      refine Nat.mul_lt_mul_of_pos_right ?_ (Nat.two_pow_pos d)
      rw [Nat.pow_succ]
      omega
    have positive : F.units rank ≠ 0 := Nat.ne_of_gt (Nat.lt_of_lt_of_le (Nat.two_pow_pos _) least)
    have bits : (F.units rank).log2 = F.fractionBits + d :=
      (Nat.log2_eq_iff positive).mpr ⟨least, greatest⟩
    rw [bits, doubled, Nat.add_sub_cancel_left]

/-- A magnitude of the format is nearest to itself. -/
theorem nearestRank_units (rank : Nat) : F.nearestRank (F.units rank) (2 ^ F.scale) = rank := by
  have scale : 0 < 2 ^ F.scale := Nat.two_pow_pos _
  have whole : F.units rank * 2 ^ F.scale / 2 ^ F.scale = F.units rank := Nat.mul_div_left _ scale
  have expanded : F.units rank * 2 ^ F.scale =
      (rank - F.doublings rank * 2 ^ F.fractionBits) * (2 ^ F.scale * 2 ^ F.doublings rank) := by
    rw [units_eq, Nat.mul_assoc, Nat.mul_comm (2 ^ F.doublings rank)]
  have grid : 0 < 2 ^ F.scale * 2 ^ F.doublings rank := Nat.mul_pos scale (Nat.two_pow_pos _)
  simp only [nearestRank, whole, log2_units_sub]
  rw [expanded, roundHalfEven_exact grid]
  exact Nat.add_sub_cancel' (F.doublings_mul_le rank)

end Format

end Inspector.Number
