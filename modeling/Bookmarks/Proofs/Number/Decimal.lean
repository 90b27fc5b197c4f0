import Bookmarks.Number.Decimal

/-! The decimal that a double is written with is read back as it. The rank of a decimal depends on
its value only, so closing zeros can be moved between the digits and the exponent; and each
magnitude is the double nearest to itself. -/

namespace Bookmarks

theorem nearestEven_mul_right (num den : Nat) {c : Nat} (h : 0 < c) :
    nearestEven (num * c) (den * c) = nearestEven num den := by
  have below : num * c / (den * c) = num / den := Nat.mul_div_mul_right num den h
  have left : num * c % (den * c) = num % den * c := Nat.mul_mod_mul_right c num den
  have lt : 2 * (num % den * c) < den * c ↔ 2 * (num % den) < den := by
    rw [← Nat.mul_assoc]
    exact Nat.mul_lt_mul_right h
  have gt : den * c < 2 * (num % den * c) ↔ den < 2 * (num % den) := by
    rw [← Nat.mul_assoc]
    exact Nat.mul_lt_mul_right h
  simp only [nearestEven, below, left, lt, gt]

namespace Double

theorem rankOf_mul_right (num den : Nat) {c : Nat} (h : 0 < c) :
    rankOf (num * c) (den * c) = rankOf num den := by
  have num_eq : num * c * unit = num * unit * c := Nat.mul_right_comm num c unit
  have whole : num * unit * c / (den * c) = num * unit / den := Nat.mul_div_mul_right _ den h
  have den_eq : ∀ gap, den * c * 2 ^ gap = den * 2 ^ gap * c := fun gap =>
    Nat.mul_right_comm den c (2 ^ gap)
  simp only [rankOf, num_eq, whole, den_eq, nearestEven_mul_right _ _ h]

/-- The digits of a magnitude in the binary system, which stand before some zeros. -/
def mantissa (rank : Nat) : Nat := if rank < 2 ^ 52 then rank else 2 ^ 52 + rank % 2 ^ 52

/-- How many zeros stand behind the digits of a magnitude in the binary system. -/
def gapOf (rank : Nat) : Nat := rank / 2 ^ 52 - 1

theorem grid_eq_mantissa (rank : Nat) : grid rank = mantissa rank * 2 ^ gapOf rank := by
  unfold grid mantissa gapOf
  split
  · next h => rw [Nat.div_eq_of_lt h, Nat.zero_sub, Nat.pow_zero, Nat.mul_one]
  · rfl

theorem gapOf_mul_add_mantissa (rank : Nat) : gapOf rank * 2 ^ 52 + mantissa rank = rank := by
  unfold mantissa gapOf
  split
  · next h => rw [Nat.div_eq_of_lt h, Nat.zero_sub, Nat.zero_mul, Nat.zero_add]
  · next h =>
    have hq : 1 ≤ rank / 2 ^ 52 := (Nat.one_le_div_iff (by decide)).2 (by omega)
    have := Nat.div_add_mod rank (2 ^ 52)
    omega

theorem log2_grid (rank : Nat) : (grid rank).log2 - 52 = gapOf rank := by
  by_cases h : rank < 2 ^ 52
  · have small : rank.log2 < 52 ∨ rank = 0 := by
      by_cases zero : rank = 0
      · exact .inr zero
      · exact .inl ((Nat.log2_lt zero).2 h)
    have gap : gapOf rank = 0 := by rw [gapOf, Nat.div_eq_of_lt h]
    have grid_eq : grid rank = rank := if_pos h
    rw [grid_eq, gap]
    cases small with
    | inl small => omega
    | inr zero => simp [zero]
  · have mantissa_eq : mantissa rank = 2 ^ 52 + rank % 2 ^ 52 := if_neg h
    have rest : rank % 2 ^ 52 < 2 ^ 52 := Nat.mod_lt _ (by decide)
    have pos : 0 < 2 ^ gapOf rank := Nat.pow_pos (by decide)
    have bounds : (grid rank).log2 = 52 + gapOf rank := by
      rw [grid_eq_mantissa, mantissa_eq, Nat.log2_eq_iff]
      · constructor
        · rw [Nat.pow_add]
          exact Nat.mul_le_mul_right _ (by omega)
        · rw [Nat.add_right_comm, Nat.pow_add]
          exact Nat.mul_lt_mul_of_pos_right (by omega) pos
      · exact Nat.mul_ne_zero (by omega) (by omega)
    omega

/-- Every magnitude is the one nearest to itself. -/
theorem rankOf_grid {rank : Nat} (h : rank ≤ infinityRank) : rankOf (grid rank) unit = rank := by
  have whole : grid rank * unit / unit = grid rank := Nat.mul_div_cancel _ unit_pos
  have pos : 0 < unit * 2 ^ gapOf rank := Nat.mul_pos unit_pos (Nat.pow_pos (by decide))
  have exact : grid rank * unit = mantissa rank * (unit * 2 ^ gapOf rank) := by
    rw [grid_eq_mantissa, Nat.mul_assoc, Nat.mul_comm unit]
  simp only [rankOf, whole, log2_grid]
  rw [exact, nearestEven_mul _ pos, gapOf_mul_add_mantissa, Nat.min_eq_right h]

theorem digitCount_le {n k : Nat} (h : 0 < k) : digitCount n ≤ k ↔ n < 10 ^ k :=
  Nat.length_toDigits_le_iff (by decide) h

theorem digitCount_mul_ten {n : Nat} (h : 0 < n) : digitCount (n * 10) = digitCount n + 1 := by
  have digits := Nat.toDigits_append_toDigits (b := 10) (n := n) (d := 0) (by decide) h (by decide)
  rw [Nat.add_zero, Nat.mul_comm] at digits
  rw [digitCount, digitCount, ← digits, Nat.toDigits_zero, List.length_append, List.length_singleton]

theorem digitCount_mul_pow {n : Nat} (h : 0 < n) (k : Nat) :
    digitCount (n * 10 ^ k) = digitCount n + k := by
  induction k with
  | zero => simp
  | succ k ih =>
    have pos : 0 < n * 10 ^ k := Nat.mul_pos h (Nat.pow_pos (by decide))
    rw [Nat.pow_succ, ← Nat.mul_assoc, digitCount_mul_ten pos, ih, Nat.add_assoc]

/-- Closing zeros of the digits can go over to the exponent. -/
theorem decimalRank_mul_pow (digits : Nat) (exponent : Int) (k : Nat) :
    decimalRank (digits * 10 ^ k) (exponent - k) = decimalRank digits exponent := by
  by_cases zero : digits = 0
  · simp [zero, decimalRank]
  · have pos : 0 < digits := Nat.pos_of_ne_zero zero
    have power : ∀ m, 0 < 10 ^ m := fun m => Nat.pow_pos (by decide)
    have nonzero : digits * 10 ^ k ≠ 0 := Nat.mul_ne_zero zero (Nat.ne_of_gt (power k))
    have size : exponent - k + (digitCount (digits * 10 ^ k) : Nat) =
        exponent + digitCount digits := by
      rw [digitCount_mul_pow pos]
      omega
    unfold decimalRank
    rw [if_neg zero, if_neg nonzero, size]
    split
    · rfl
    · split
      · rfl
      · by_cases whole : 0 ≤ exponent
        · rw [if_pos whole]
          split
          · next whole' =>
            have : exponent.toNat = k + (exponent - k).toNat := by omega
            rw [this, Nat.pow_add, Nat.mul_assoc]
          · next whole' =>
            have : k = exponent.toNat + (-(exponent - k)).toNat := by omega
            have split_eq : digits * 10 ^ k =
                digits * 10 ^ exponent.toNat * 10 ^ (-(exponent - k)).toNat := by
              rw [Nat.mul_assoc, ← Nat.pow_add, ← this]
            rw [split_eq]
            conv => lhs; arg 2; rw [← Nat.one_mul (10 ^ (-(exponent - k)).toNat)]
            exact rankOf_mul_right _ 1 (power _)
        · have : (-(exponent - k)).toNat = (-exponent).toNat + k := by omega
          rw [if_neg whole, if_neg (by omega), this, Nat.pow_add]
          exact rankOf_mul_right _ _ (power k)

theorem decimalRank_of_multipleNear? {rank : Nat} {exponent : Int} {digits : Nat}
    (h : multipleNear? rank exponent = some digits) : decimalRank digits exponent = rank := by
  unfold multipleNear? at h
  simp only at h
  split at h
  · next below above =>
    -- both neighbours are read back, and rounding takes one of them
    have near := nearestEven_bounds (grid rank * 10 ^ (-exponent).toNat)
      (unit * 10 ^ exponent.toNat)
    have either : digits = grid rank * 10 ^ (-exponent).toNat / (unit * 10 ^ exponent.toNat) ∨
        digits = grid rank * 10 ^ (-exponent).toNat / (unit * 10 ^ exponent.toNat) + 1 := by
      have := Option.some.inj h
      omega
    cases either with
    | inl either => rw [either]; exact eq_of_beq below
    | inr either => rw [either]; exact eq_of_beq above
  · next below above => exact Option.some.inj h ▸ eq_of_beq below
  · next below above => exact Option.some.inj h ▸ eq_of_beq above
  · cases h

theorem decimalRank_of_fewestDigits? {rank : Nat} {point : Int} {used count : Nat}
    {decimal : Nat × Int} (h : fewestDigits? rank point used count = some decimal) :
    decimalRank decimal.1 decimal.2 = rank := by
  induction count generalizing used with
  | zero => cases h
  | succ count ih =>
    rw [fewestDigits?] at h
    cases near : multipleNear? rank (point - (used + 1)) with
    | some digits =>
      rw [near] at h
      exact Option.some.inj h ▸ decimalRank_of_multipleNear? near
    | none =>
      rw [near] at h
      exact ih h

theorem grid_pos {rank : Nat} (h : 0 < rank) : 0 < grid rank := by
  rw [grid_eq_mantissa]
  apply Nat.mul_pos
  · unfold mantissa
    split <;> omega
  · exact Nat.pow_pos (by decide)

theorem grid_lt_of_gapOf_le {rank n : Nat} (gap : gapOf rank ≤ n) :
    grid rank < 2 ^ 53 * 2 ^ n := by
  have digits : mantissa rank < 2 ^ 53 := by
    have := Nat.mod_lt rank (by decide : 0 < 2 ^ 52)
    unfold mantissa
    split <;> omega
  calc grid rank = mantissa rank * 2 ^ gapOf rank := grid_eq_mantissa rank
    _ < 2 ^ 53 * 2 ^ gapOf rank := Nat.mul_lt_mul_of_pos_right digits (Nat.pow_pos (by decide))
    _ ≤ 2 ^ 53 * 2 ^ n := Nat.mul_le_mul_left _ (Nat.pow_le_pow_right (by decide) gap)

theorem grid_lt {rank : Nat} (h : rank < infinityRank) : grid rank < 2 ^ 53 * 2 ^ 2045 := by
  apply grid_lt_of_gapOf_le
  have := gapOf_mul_add_mantissa rank
  unfold infinityRank at h
  unfold gapOf
  omega

/-- A decimal with as many places as the smallest magnitude has binary ones. -/
theorem decimalRank_binary (digits places : Nat) (pos : 0 < digits)
    (upper : digitCount (digits * 5 ^ places) < places + 310)
    (lower : places < digitCount (digits * 5 ^ places) + 330) (some_place : 0 < places) :
    decimalRank (digits * 5 ^ places) (-places) = rankOf digits (2 ^ places) := by
  have five : 0 < 5 ^ places := Nat.pow_pos (by decide)
  have ten : 10 ^ places = 2 ^ places * 5 ^ places := by rw [← Nat.mul_pow]
  have negated : (-(-(places : Int))).toNat = places := by omega
  unfold decimalRank
  rw [if_neg (Nat.ne_of_gt (Nat.mul_pos pos five)), if_neg (by omega), if_neg (by omega),
    if_neg (by omega), negated, ten, rankOf_mul_right _ _ five]

/-- The exact decimal of a magnitude is read back as it. -/
theorem decimalRank_exact {rank : Nat} (pos : 0 < rank) (finite : rank < infinityRank) :
    decimalRank (grid rank * 5 ^ 1074) (-1074) = rank := by
  have upper : digitCount (grid rank * 5 ^ 1074) ≤ 1383 := by
    rw [digitCount_le (by decide)]
    calc grid rank * 5 ^ 1074 < 2 ^ 53 * 2 ^ 2045 * 5 ^ 1074 :=
          Nat.mul_lt_mul_of_pos_right (grid_lt finite) (Nat.pow_pos (by decide))
      _ ≤ 10 ^ 1383 := by decide +kernel
  have lower : ¬digitCount (grid rank * 5 ^ 1074) ≤ 744 := by
    rw [digitCount_le (by decide), Nat.not_lt]
    calc 10 ^ 744 ≤ 5 ^ 1074 := by decide +kernel
      _ ≤ grid rank * 5 ^ 1074 := Nat.le_mul_of_pos_left _ (grid_pos pos)
  refine (decimalRank_binary (grid rank) 1074 (grid_pos pos) ?_ ?_ (by decide)).trans ?_
  · exact Nat.lt_of_le_of_lt upper (by decide)
  · exact Nat.lt_of_lt_of_le (by decide) (Nat.add_le_add_right (Nat.not_le.1 lower) 330)
  · rw [← unit]
    exact rankOf_grid (Nat.le_of_lt finite)

/-- The shortest decimal of a magnitude is read back as it. -/
theorem decimalRank_shortest {rank : Nat} (pos : 0 < rank) (finite : rank < infinityRank) :
    decimalRank (shortest rank).1 (shortest rank).2 = rank := by
  unfold shortest
  cases found : fewestDigits? rank (pointOf rank) 0 17 with
  | none => exact decimalRank_exact pos finite
  | some decimal => exact decimalRank_of_fewestDigits? found

theorem shortest_pos {rank : Nat} (pos : 0 < rank) (finite : rank < infinityRank) :
    0 < (shortest rank).1 := by
  have back := decimalRank_shortest pos finite
  apply Nat.pos_of_ne_zero
  intro zero
  rw [zero, decimalRank, if_pos rfl] at back
  omega

end Double

end Bookmarks
