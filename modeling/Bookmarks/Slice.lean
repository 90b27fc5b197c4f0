/-! The part of a list before a position. Positions from the end are negative; those past an end
stand for it. -/

namespace Bookmarks

def upTo {α : Type} (position : Int) (xs : List α) : List α :=
  if position < 0 then xs.take (xs.length + position).toNat else xs.take position.toNat

theorem upTo_of_nonneg {α : Type} {position : Int} (h : 0 ≤ position) (xs : List α) :
    upTo position xs = xs.take position.toNat := if_neg (by omega)

theorem upTo_sublist {α : Type} (position : Int) (xs : List α) : (upTo position xs).Sublist xs := by
  unfold upTo
  split <;> exact List.take_sublist _ _

end Bookmarks
