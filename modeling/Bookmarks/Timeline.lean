import Bookmarks.Number.Arithmetic
import Bookmarks.Number.Decimal

/-! Times at which something is due. A timeline has a start, delays that can be added to a time, and
an order. -/

namespace Bookmarks

class Timeline (τ : Type) where
  start : τ
  add : τ → τ → τ
  /-- Whether the first time is before the second. -/
  isBefore : τ → τ → Bool
  /-- Whether the first time has come when it is the second one. -/
  hasCome : τ → τ → Bool

/-- A clock that shows seconds tells times apart that lie a billionth of a second apart. -/
def clockResolution : Double := .ofDecimal false 1 (-9)

instance : Timeline Double where
  start := .zero
  add := .add
  isBefore x y := x.lt y
  hasCome due now := due.lt (now.add clockResolution)

instance : Timeline Int where
  start := 0
  add := (· + ·)
  isBefore x y := decide (x < y)
  hasCome due now := decide (due ≤ now)

end Bookmarks
