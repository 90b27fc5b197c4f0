import Bookmarks.Number.Rounding

/-! Numbers in binary64. A number is a sign and the rank of its magnitude: rank 0 is zero, each next
rank is the next larger magnitude, the last one is infinity. Rounding, order and equality are exact
arithmetic on ranks, in units of the smallest magnitude. -/

namespace Bookmarks

/-- The rank of infinity, which follows the largest finite magnitude. -/
def infinityRank : Nat := 0x7FF0000000000000

inductive Double where
  | nan
  | ranked (negative : Bool) (rank : Nat) (bounded : rank ≤ infinityRank)
  deriving DecidableEq

namespace Double

/-- The number of smallest magnitudes in one. -/
def unit : Nat := 2 ^ 1074

theorem unit_pos : 0 < unit := by
  rw [unit]
  apply Nat.pow_pos
  decide

/-- The magnitude of a rank as a multiple of the smallest one. -/
def grid (rank : Nat) : Nat :=
  if rank < 2 ^ 52 then rank else (2 ^ 52 + rank % 2 ^ 52) * 2 ^ (rank / 2 ^ 52 - 1)

/-- The rank of the magnitude nearest to `num / den`, a half going to the even rank. -/
def rankOf (num den : Nat) : Nat :=
  let gap := (num * unit / den).log2 - 52
  min infinityRank (gap * 2 ^ 52 + nearestEven (num * unit) (den * 2 ^ gap))

theorem rankOf_le (num den : Nat) : rankOf num den ≤ infinityRank := Nat.min_le_left _ _

def ofRatio (negative : Bool) (num den : Nat) : Double :=
  ranked negative (rankOf num den) (rankOf_le num den)

def zero : Double := ranked false 0 (Nat.zero_le _)

def infinity (negative : Bool) : Double := ranked negative infinityRank (Nat.le_refl _)

/-- The nearest double; too large a number becomes infinite. -/
def ofInt (i : Int) : Double := ofRatio (decide (i < 0)) i.natAbs 1

def isFinite : Double → Bool
  | nan => false
  | ranked _ rank _ => decide (rank < infinityRank)

/-- The double of a whole number, unless that would be infinite. -/
def ofInt? (i : Int) : Option Double := if (ofInt i).isFinite then some (ofInt i) else none

def isZero : Double → Bool
  | nan => false
  | ranked _ rank _ => rank == 0

/-- The position in the order of magnitudes with sign, the two zeros being one. -/
def position (negative : Bool) (rank : Nat) : Int := if negative then -rank else rank

/-- Not a number is neither less nor greater. -/
def lt : Double → Double → Bool
  | ranked s a _, ranked t b _ => decide (position s a < position t b)
  | _, _ => false

/-- Equality of value: the zeros are equal, and not a number equals nothing. -/
def same : Double → Double → Bool
  | ranked s a _, ranked t b _ => decide (position s a = position t b)
  | _, _ => false

theorem lt_irrefl (x : Double) : lt x x = false := by
  cases x <;> simp [lt]

/-- The value of a finite number in units of the smallest magnitude. -/
def scaled? : Double → Option Int
  | nan => none
  | ranked negative rank _ =>
    if rank < infinityRank then some (if negative then -(grid rank : Int) else grid rank) else none

/-- The whole part, toward zero; none for an infinite number or none at all. -/
def truncate? : Double → Option Int
  | nan => none
  | ranked negative rank _ =>
    if rank < infinityRank then
      some (if negative then -((grid rank / unit : Nat) : Int) else (grid rank / unit : Nat))
    else none

/-- The interchange form: a sign bit over the rank. -/
def bits : Double → Nat
  | nan => 0x7FF8000000000000
  | ranked negative rank _ => (if negative then 2 ^ 63 else 0) + rank

end Double

end Bookmarks
