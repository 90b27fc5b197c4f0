import Bookmarks.Json.Order
import Bookmarks.Proofs.Number.Decimal
import Mathlib.Algebra.Order.Ring.Int
import Mathlib.Data.Prod.Lex
import Mathlib.Order.Monotone.Basic

/-! The order of numbers is that of their values, whole numbers and doubles together. Values are
taken in units of the smallest magnitude, with infinity at either end; not a number has none. -/

namespace Bookmarks

/-- What numbers are worth: a multiple of the smallest magnitude, before or behind which stand the
infinite ones. -/
def Value : Type := ℤ ×ₗ ℤ

namespace Value

instance : LinearOrder Value := inferInstanceAs (LinearOrder (ℤ ×ₗ ℤ))

def finite (v : ℤ) : Value := toLex (0, v)

def infinite (negative : Bool) : Value := toLex (if negative then -1 else 1, 0)

theorem finite_lt {u v : ℤ} : finite u < finite v ↔ u < v :=
  Prod.Lex.toLex_lt_toLex.trans (by simp)

theorem finite_inj {u v : ℤ} : finite u = finite v ↔ u = v :=
  toLex_inj.trans (by simp)

theorem finite_lt_infinite {u : ℤ} {negative : Bool} :
    finite u < infinite negative ↔ negative = false :=
  Prod.Lex.toLex_lt_toLex.trans (by cases negative <;> simp)

theorem infinite_lt_finite {v : ℤ} {negative : Bool} :
    infinite negative < finite v ↔ negative = true :=
  Prod.Lex.toLex_lt_toLex.trans (by cases negative <;> simp)

theorem infinite_ne_finite {negative : Bool} {v : ℤ} : infinite negative ≠ finite v := by
  intro same
  have places : (if negative then -1 else 1) = 0 := congrArg Prod.fst (toLex_inj.1 same)
  cases negative <;> cases places

theorem infinite_lt_infinite {s t : Bool} :
    infinite s < infinite t ↔ s = true ∧ t = false :=
  Prod.Lex.toLex_lt_toLex.trans (by cases s <;> cases t <;> simp)

end Value

namespace Double

theorem mantissa_lt (rank : Nat) : mantissa rank < 2 ^ 53 := by
  have rest : rank % 2 ^ 52 < 2 ^ 52 := Nat.mod_lt rank (Nat.two_pow_pos 52)
  unfold mantissa
  split <;> omega

theorem le_mantissa {rank : Nat} (some_gap : 0 < gapOf rank) : 2 ^ 52 ≤ mantissa rank := by
  unfold mantissa
  split
  · next small =>
    rw [gapOf, Nat.div_eq_of_lt small] at some_gap
    cases some_gap
  · exact Nat.le_add_right _ _

/-- A higher rank is a greater magnitude: it has more zeros, or as many and the greater digits. -/
theorem grid_strictMono : StrictMono grid := by
  intro a b less
  have gaps : gapOf a ≤ gapOf b := Nat.sub_le_sub_right (Nat.div_le_div_right (Nat.le_of_lt less)) 1
  have rank_a := gapOf_mul_add_mantissa a
  have rank_b := gapOf_mul_add_mantissa b
  rw [grid_eq_mantissa, grid_eq_mantissa]
  rcases Nat.lt_or_eq_of_le gaps with more | same
  · calc mantissa a * 2 ^ gapOf a
      _ < 2 ^ 53 * 2 ^ gapOf a := Nat.mul_lt_mul_of_pos_right (mantissa_lt a) (Nat.two_pow_pos _)
      _ = 2 ^ 52 * 2 ^ (gapOf a + 1) := by rw [← Nat.pow_add, ← Nat.pow_add]; congr 1; omega
      _ ≤ 2 ^ 52 * 2 ^ gapOf b := Nat.mul_le_mul_left _ (Nat.pow_le_pow_right (by decide) more)
      _ ≤ mantissa b * 2 ^ gapOf b := Nat.mul_le_mul_right _ (le_mantissa (by omega))
  · rw [same]
    rw [same] at rank_a
    exact Nat.mul_lt_mul_of_pos_right (by omega) (Nat.two_pow_pos _)

theorem position_lt_iff {s t : Bool} {a b : Nat} :
    position s (grid a) < position t (grid b) ↔ position s a < position t b := by
  have pos (rank : Nat) : 0 < grid rank ↔ 0 < rank := grid_strictMono.lt_iff_lt (a := 0)
  have less : grid a < grid b ↔ a < b := grid_strictMono.lt_iff_lt
  have greater : grid b < grid a ↔ b < a := grid_strictMono.lt_iff_lt
  have pos_a := pos a
  have pos_b := pos b
  cases s <;> cases t <;> simp only [position] <;> grind

/-- The value of a double; not a number gets one without meaning. -/
def value (x : Double) : Value :=
  match x.scaled? with
  | some v => .finite v
  | none => .infinite (x == infinity true)

theorem scaled?_ranked {s : Bool} {a : Nat} {bounded : a ≤ infinityRank} {v : ℤ} :
    (ranked s a bounded).scaled? = some v ↔ a < infinityRank ∧ position s (grid a) = v := by
  simp [scaled?, position]

theorem scaled?_infinity (negative : Bool) : (infinity negative).scaled? = none := by
  simp [scaled?, infinity]

theorem infinity_beq (s t : Bool) : (infinity s == infinity t) = (s == t) := by
  cases s <;> cases t <;> decide

theorem value_infinity (negative : Bool) : (infinity negative).value = .infinite negative := by
  rw [value, scaled?_infinity]
  simp only [infinity_beq, beq_true]

theorem value_of_scaled {x : Double} {v : ℤ} (finite : x.scaled? = some v) :
    x.value = .finite v := by
  rw [value, finite]

theorem scaled_or_infinity {x : Double} (number : x ≠ nan) :
    (∃ v, x.scaled? = some v) ∨ ∃ negative, x = infinity negative := by
  cases x with
  | nan => exact absurd rfl number
  | ranked negative rank bounded =>
    rcases Nat.lt_or_eq_of_le bounded with below | last
    · exact .inl ⟨_, if_pos below⟩
    · subst last
      exact .inr ⟨negative, rfl⟩

theorem lt_iff_of_scaled {x y : Double} {u v : ℤ} (hx : x.scaled? = some u)
    (hy : y.scaled? = some v) : x.lt y = true ↔ u < v := by
  cases x with
  | nan => cases hx
  | ranked s a =>
    cases y with
    | nan => cases hy
    | ranked t b =>
      rw [lt, decide_eq_true_eq, ← (scaled?_ranked.1 hx).2, ← (scaled?_ranked.1 hy).2,
        position_lt_iff]

theorem lt_infinity_of_scaled {x : Double} {u : ℤ} {negative : Bool} (hx : x.scaled? = some u) :
    x.lt (infinity negative) = true ↔ negative = false := by
  cases x with
  | nan => cases hx
  | ranked s a =>
    have below := (scaled?_ranked.1 hx).1
    cases s <;> cases negative <;> simp [lt, infinity, position] <;> omega

theorem infinity_lt_of_scaled {y : Double} {v : ℤ} {negative : Bool} (hy : y.scaled? = some v) :
    (infinity negative).lt y = true ↔ negative = true := by
  cases y with
  | nan => cases hy
  | ranked t b =>
    have below := (scaled?_ranked.1 hy).1
    cases t <;> cases negative <;> simp [lt, infinity, position] <;> omega

theorem infinity_lt_infinity {s t : Bool} :
    (infinity s).lt (infinity t) = true ↔ s = true ∧ t = false := by
  cases s <;> cases t <;> decide

theorem lt_iff {x y : Double} (hx : x ≠ nan) (hy : y ≠ nan) :
    x.lt y = true ↔ x.value < y.value := by
  rcases scaled_or_infinity hx with ⟨u, finite_x⟩ | ⟨s, rfl⟩ <;>
    rcases scaled_or_infinity hy with ⟨v, finite_y⟩ | ⟨t, rfl⟩
  · rw [value_of_scaled finite_x, value_of_scaled finite_y, Value.finite_lt]
    exact lt_iff_of_scaled finite_x finite_y
  · rw [value_of_scaled finite_x, value_infinity, Value.finite_lt_infinite]
    exact lt_infinity_of_scaled finite_x
  · rw [value_infinity, value_of_scaled finite_y, Value.infinite_lt_finite]
    exact infinity_lt_of_scaled finite_y
  · rw [value_infinity, value_infinity, Value.infinite_lt_infinite]
    exact infinity_lt_infinity

theorem same_iff {x y : Double} (hx : x ≠ nan) (hy : y ≠ nan) :
    x.same y = true ↔ x.value = y.value := by
  have neither : x.same y = true ↔ ¬x.lt y = true ∧ ¬y.lt x = true := by
    cases x with
    | nan => exact absurd rfl hx
    | ranked s a =>
      cases y with
      | nan => exact absurd rfl hy
      | ranked t b =>
        simp only [same, lt, decide_eq_true_eq]
        omega
  rw [neither, lt_iff hx hy, lt_iff hy hx, not_lt, not_lt, and_comm, ← le_antisymm_iff]

end Double

namespace Number

def value : Number → Value
  | whole i => .finite (i * Double.unit)
  | double d => d.value

theorem unit_pos : (0 : ℤ) < Double.unit := Int.natCast_pos.2 Double.unit_pos

theorem value_whole_lt {i j : ℤ} : (whole i).value < (whole j).value ↔ i < j :=
  Value.finite_lt.trans (Int.mul_lt_mul_right unit_pos)

theorem value_whole_inj {i j : ℤ} : (whole i).value = (whole j).value ↔ i = j :=
  Value.finite_inj.trans (Int.mul_eq_mul_right_iff unit_pos.ne')

theorem whole_lt_iff {i : ℤ} {y : Double} (number : y ≠ .nan) :
    (whole i).lt (double y) = true ↔ (whole i).value < y.value := by
  rcases Double.scaled_or_infinity number with ⟨v, finite⟩ | ⟨negative, rfl⟩
  · rw [Double.value_of_scaled finite, lt, finite, decide_eq_true_eq]
    exact Value.finite_lt.symm
  · rw [Double.value_infinity, value, Value.finite_lt_infinite, lt, Double.scaled?_infinity]
    simp only [Double.infinity_beq, beq_iff_eq]

theorem lt_whole_iff {x : Double} {j : ℤ} (number : x ≠ .nan) :
    (double x).lt (whole j) = true ↔ x.value < (whole j).value := by
  rcases Double.scaled_or_infinity number with ⟨v, finite⟩ | ⟨negative, rfl⟩
  · rw [Double.value_of_scaled finite, lt, finite, decide_eq_true_eq]
    exact Value.finite_lt.symm
  · rw [Double.value_infinity, value, Value.infinite_lt_finite, lt, Double.scaled?_infinity]
    simp only [Double.infinity_beq, beq_iff_eq]

theorem scaled?_eq_iff {x : Double} {j : ℤ} (number : x ≠ .nan) :
    (x.scaled? == some (j * Double.unit)) = true ↔ x.value = (whole j).value := by
  rcases Double.scaled_or_infinity number with ⟨v, finite⟩ | ⟨negative, rfl⟩
  · rw [Double.value_of_scaled finite, finite, beq_iff_eq, Option.some.injEq]
    exact Value.finite_inj.symm
  · rw [Double.value_infinity, Double.scaled?_infinity]
    exact iff_of_false nofun Value.infinite_ne_finite

/-- The order of numbers is that of their values. -/
theorem lt_iff {m n : Number} (hm : m ≠ .double .nan) (hn : n ≠ .double .nan) :
    m.lt n = true ↔ m.value < n.value := by
  cases m with
  | whole i =>
    cases n with
    | whole j => rw [value_whole_lt, lt, decide_eq_true_eq]
    | double y => exact whole_lt_iff fun none => hn (congrArg double none)
  | double x =>
    have hx : x ≠ .nan := fun none => hm (congrArg double none)
    cases n with
    | whole j => exact lt_whole_iff hx
    | double y => exact Double.lt_iff hx fun none => hn (congrArg double none)

theorem same_iff {m n : Number} (hm : m ≠ .double .nan) (hn : n ≠ .double .nan) :
    m.same n = true ↔ m.value = n.value := by
  cases m with
  | whole i =>
    cases n with
    | whole j => rw [value_whole_inj, same, beq_iff_eq]
    | double y =>
      rw [same, scaled?_eq_iff fun none => hn (congrArg double none)]
      exact eq_comm
  | double x =>
    have hx : x ≠ .nan := fun none => hm (congrArg double none)
    cases n with
    | whole j => exact scaled?_eq_iff hx
    | double y => exact Double.same_iff hx fun none => hn (congrArg double none)

end Number

namespace Json

/-- Whether a value is a number, and not one that is not a number. -/
def IsValued (v : Json) : Prop := ∃ n, v.number? = some n ∧ n ≠ .double .nan

theorem isValued_int (i : ℤ) : (int i).IsValued := ⟨.whole i, rfl, nofun⟩

/-- The value of a number; anything else gets one without meaning. -/
def value (v : Json) : Value := v.number?.elim (.finite 0) Number.value

theorem lt?_of_number {x y : Json} {m n : Number} (hx : x.number? = some m)
    (hy : y.number? = some n) : x.lt? y = some (m.lt n) := by
  cases x <;> cases hx <;> cases y <;> cases hy <;> rfl

theorem same_of_number {x y : Json} {m n : Number} (hx : x.number? = some m)
    (hy : y.number? = some n) : x.same y = m.same n := by
  cases x <;> cases hx <;> cases y <;> cases hy <;> rfl

theorem lt?_eq_decide {x y : Json} (hx : x.IsValued) (hy : y.IsValued) :
    x.lt? y = some (decide (x.value < y.value)) := by
  have ⟨m, number_x, hm⟩ := hx
  have ⟨n, number_y, hn⟩ := hy
  have is_lt : m.lt n = decide (m.value < n.value) :=
    Bool.eq_iff_iff.2 ((Number.lt_iff hm hn).trans decide_eq_true_iff.symm)
  rw [lt?_of_number number_x number_y, is_lt, value, value, number_x, number_y]
  rfl

theorem same_iff_value {x y : Json} (hx : x.IsValued) (hy : y.IsValued) :
    x.same y = true ↔ x.value = y.value := by
  have ⟨m, number_x, hm⟩ := hx
  have ⟨n, number_y, hn⟩ := hy
  rw [same_of_number number_x number_y, Number.same_iff hm hn, value, value, number_x, number_y]
  rfl

end Json

end Bookmarks
