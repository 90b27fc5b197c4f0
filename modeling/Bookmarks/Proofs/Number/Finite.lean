import Bookmarks.Proofs.Number.Decimal

/-! Which quotients and whole numbers have a finite double. A quotient is rounded to at most 53
binary digits, which are never more than `2 ^ 53`; what counts is how many zeros follow. -/

namespace Bookmarks

theorem two_mul_add_one_mul (k den : Nat) : (2 * k + 1) * den = 2 * (k * den) + den := by
  rw [Nat.add_mul, Nat.one_mul, Nat.mul_assoc]

theorem nearestEven_le_of_lt {num den k : Nat} (below : 2 * num < (2 * k + 1) * den) :
    nearestEven num den ≤ k := by
  have parted := Nat.div_add_mod num den
  have upper := (nearestEven_bounds num den).2
  rw [two_mul_add_one_mul] at below
  by_cases zero : den = 0
  · simp [zero] at below
  · have quotient : num / den < k + 1 := by
      rw [Nat.div_lt_iff_lt_mul (Nat.pos_of_ne_zero zero), Nat.succ_mul]
      omega
    by_cases same : num / den = k
    · have rest : 2 * (num % den) < den := by
        rw [same, Nat.mul_comm] at parted
        omega
      simp [nearestEven, rest, same]
    · omega

theorem lt_nearestEven_of_le {num den k : Nat} (odd : k % 2 = 1) (pos : 0 < den)
    (above : (2 * k + 1) * den ≤ 2 * num) : k < nearestEven num den := by
  have parted := Nat.div_add_mod num den
  have lower := (nearestEven_bounds num den).1
  rw [two_mul_add_one_mul] at above
  have quotient : k ≤ num / den := by
    rw [Nat.le_div_iff_mul_le pos]
    omega
  by_cases same : num / den = k
  · have rest : ¬2 * (num % den) < den := by
      rw [same, Nat.mul_comm] at parted
      omega
    simp [nearestEven, rest, same, odd]
  · omega

namespace Double

theorem gap_le {magnitude n : Nat} (small : magnitude < 2 ^ (n + 53)) :
    magnitude.log2 - 52 ≤ n := by
  by_cases zero : magnitude = 0
  · simp [zero]
  · have := (Nat.log2_lt zero).2 small
    omega

theorem one_mul_two_pow_pos (n : Nat) : 0 < 1 * 2 ^ n :=
  Nat.mul_pos Nat.one_pos (Nat.two_pow_pos n)

theorem ne_zero_of_pow_le {n k : Nat} (large : 2 ^ k ≤ n) : n ≠ 0 :=
  Nat.ne_of_gt (Nat.lt_of_lt_of_le (Nat.two_pow_pos k) large)

theorem le_log2_of_pow_le {n k : Nat} (large : 2 ^ k ≤ n) : k ≤ n.log2 :=
  (Nat.le_log2 (ne_zero_of_pow_le large)).2 large

theorem lt_gap (magnitude : Nat) : magnitude < 2 ^ (magnitude.log2 - 52 + 53) :=
  Nat.lt_of_lt_of_le Nat.lt_log2_self (Nat.pow_le_pow_right (by decide) (by omega))

/-- The rounded digits of a quotient. -/
theorem nearestEven_le (num den : Nat) :
    nearestEven (num * unit) (den * 2 ^ ((num * unit / den).log2 - 52)) ≤ 2 ^ 53 := by
  have rounded := (nearestEven_bounds (num * unit)
    (den * 2 ^ ((num * unit / den).log2 - 52))).2
  have digits : num * unit / (den * 2 ^ ((num * unit / den).log2 - 52)) < 2 ^ 53 := by
    rw [← Nat.div_div_eq_div_mul, Nat.div_lt_iff_lt_mul (Nat.two_pow_pos _), ← Nat.pow_add,
      Nat.add_comm]
    exact lt_gap _
  omega

theorem rankOf_lt_of_gap_le {num den : Nat} (gap : (num * unit / den).log2 - 52 ≤ 2044) :
    rankOf num den < infinityRank := by
  have digits := nearestEven_le num den
  simp only [rankOf, infinityRank]
  omega

/-- The least whole number that is rounded to infinity: it lies half a step past the largest finite
double. -/
def overflow : Nat := (2 ^ 54 - 1) * 2 ^ 970

theorem overflow_scaled :
    (2 * (2 ^ 53 - 1) + 1) * (1 * 2 ^ 2045) = 2 * (overflow * unit) := by decide +kernel

theorem rankOf_lt_of_lt_overflow {n : Nat} (small : n < overflow) :
    rankOf n 1 < infinityRank := by
  have magnitude : n * unit / 1 = n * unit := Nat.div_one _
  have less : n * unit < overflow * unit := Nat.mul_lt_mul_of_pos_right small unit_pos
  have width : overflow * unit < 2 ^ (2045 + 53) := by decide +kernel
  have gap : (n * unit).log2 - 52 ≤ 2045 := gap_le (Nat.lt_trans less width)
  by_cases widest : (n * unit).log2 - 52 = 2045
  · have digits : nearestEven (n * unit) (1 * 2 ^ 2045) ≤ 2 ^ 53 - 1 := by
      apply nearestEven_le_of_lt
      rw [overflow_scaled]
      exact Nat.mul_lt_mul_of_pos_left less (by decide)
    rw [← widest] at digits
    simp only [rankOf, magnitude, infinityRank]
    omega
  · apply rankOf_lt_of_gap_le
    rw [magnitude]
    omega

theorem rankOf_of_overflow_le {n : Nat} (large : overflow ≤ n) : rankOf n 1 = infinityRank := by
  have magnitude : n * unit / 1 = n * unit := Nat.div_one _
  have more : overflow * unit ≤ n * unit := Nat.mul_le_mul_right unit large
  have width : 2 ^ (2045 + 52) ≤ overflow * unit := by decide +kernel
  have some_digit : n * unit ≠ 0 := ne_zero_of_pow_le (Nat.le_trans width more)
  have gap : 2045 + 52 ≤ (n * unit).log2 := le_log2_of_pow_le (Nat.le_trans width more)
  by_cases widest : (n * unit).log2 - 52 = 2045
  · have digits : 2 ^ 53 - 1 < nearestEven (n * unit) (1 * 2 ^ 2045) := by
      have above : 2 * (overflow * unit) ≤ 2 * (n * unit) := Nat.mul_le_mul_left 2 more
      rw [← overflow_scaled] at above
      exact lt_nearestEven_of_le (by decide) (one_mul_two_pow_pos 2045) above
    rw [← widest] at digits
    simp only [rankOf, magnitude, infinityRank]
    omega
  · have digits : 2 ^ 52 ≤ n * unit / (1 * 2 ^ ((n * unit).log2 - 52)) := by
      rw [Nat.one_mul, Nat.le_div_iff_mul_le (Nat.two_pow_pos _), ← Nat.pow_add]
      have all : 52 + ((n * unit).log2 - 52) = (n * unit).log2 := by omega
      rw [all]
      exact Nat.log2_self_le some_digit
    have rounded := (nearestEven_bounds (n * unit) (1 * 2 ^ ((n * unit).log2 - 52))).1
    simp only [rankOf, magnitude, infinityRank]
    omega

/-- Which whole numbers have a double. -/
theorem isSome_ofInt?_iff {i : Int} : (ofInt? i).isSome ↔ i.natAbs < overflow := by
  have finite : (ofInt i).isFinite = decide (rankOf i.natAbs 1 < infinityRank) := rfl
  rw [ofInt?, finite]
  by_cases small : i.natAbs < overflow
  · simp [small, rankOf_lt_of_lt_overflow small]
  · simp [small, rankOf_of_overflow_le (Nat.le_of_not_lt small)]

/-- A quotient that is not greater than one is finite. -/
theorem rankOf_lt_of_le {num den : Nat} (le : num ≤ den) : rankOf num den < infinityRank := by
  have quotient : num * unit / den ≤ unit := by
    apply Nat.div_le_of_le_mul
    exact Nat.mul_le_mul_right unit le
  have small : num * unit / den < 2 ^ (1022 + 53) := by
    refine Nat.lt_of_le_of_lt quotient ?_
    rw [unit, Nat.pow_lt_pow_iff_right (by decide)]
    decide
  exact rankOf_lt_of_gap_le (Nat.le_trans (gap_le small) (by decide))

end Double

end Bookmarks
