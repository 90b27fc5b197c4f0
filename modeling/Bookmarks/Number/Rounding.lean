/-! Rounding a quotient to the nearest whole number, a half going to the even neighbour. -/

namespace Bookmarks

/-- Powers of whole numbers, the same ones whichever other modules a module sees. -/
@[default_instance 20000]
instance natPow : Pow Nat Nat := instPowNat

def nearestEven (num den : Nat) : Nat :=
  let below := num / den
  if 2 * (num % den) < den then below
  else if den < 2 * (num % den) then below + 1
  else if below % 2 = 0 then below else below + 1

theorem nearestEven_mul (n : Nat) {den : Nat} (h : 0 < den) : nearestEven (n * den) den = n := by
  simp [nearestEven, Nat.mul_div_cancel _ h, h]

theorem nearestEven_bounds (num den : Nat) :
    num / den ≤ nearestEven num den ∧ nearestEven num den ≤ num / den + 1 := by
  unfold nearestEven
  grind

end Bookmarks
