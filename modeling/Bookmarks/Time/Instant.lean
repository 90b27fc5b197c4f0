import Bookmarks.Time.Date
import Bookmarks.Number.Arithmetic

/-! Instants of local time, in microseconds from the start of year 1 to the end of year 9999, and
stamps, which may carry an offset from universal time. A zone is a fixed offset in microseconds. -/

namespace Bookmarks

def dayMicros : Nat := 86400000000

structure Instant where
  micros : Nat
  inRange : micros < dayCount * dayMicros
  deriving DecidableEq

namespace Instant

/-- The start of the first day of year 1. -/
def first : Instant := ⟨0, by decide⟩

def ofMicros? (micros : Int) : Option Instant :=
  if h : 0 ≤ micros ∧ micros < (dayCount * dayMicros : Nat) then
    some ⟨micros.toNat, by omega⟩
  else none

def shift? (i : Instant) (micros : Int) : Option Instant := ofMicros? (i.micros + micros)

def dayNumber (i : Instant) : Nat := i.micros / dayMicros

def date (i : Instant) : Date := Date.ofNumber i.dayNumber

def startOfDay (i : Instant) : Instant :=
  ⟨i.micros - i.micros % dayMicros, Nat.lt_of_le_of_lt (Nat.sub_le _ _) i.inRange⟩

def startOfMonth (i : Instant) : Instant :=
  ⟨i.startOfDay.micros - (i.date.day - 1) * dayMicros,
    Nat.lt_of_le_of_lt (Nat.sub_le _ _) i.startOfDay.inRange⟩

/-- The start of a day, for the number of a day in range. -/
def ofDayNumber? (n : Nat) : Option Instant := ofMicros? (n * dayMicros : Nat)

def ofDate? (d : Date) : Option Instant := if d.isValid then ofDayNumber? d.number else none

def lt (a b : Instant) : Bool := decide (a.micros < b.micros)

def le (a b : Instant) : Bool := decide (a.micros ≤ b.micros)

/-- Date and time with the letter T between them, and six places when the second is not whole. -/
def text (i : Instant) : List Char :=
  let inDay := i.micros % dayMicros
  let second := inDay / 1000000
  let places := inDay % 1000000
  i.date.text ++ 'T' :: (Date.padded 2 (second / 3600) ++ ':' ::
    (Date.padded 2 (second / 60 % 60) ++ ':' :: Date.padded 2 (second % 60))) ++
    (if places = 0 then [] else '.' :: Date.padded 6 places)

/-- The start of 1970 in microseconds. -/
def epochMicros : Int := 719162 * (dayMicros : Int)

/-- The local time at which a number of microseconds has passed since 1970 in universal time. The
first day of year 1 is left out: the day before a time has to be in range too. -/
def ofEpoch? (zone : Int) (micros : Int) : Option Instant := do
  let i ← ofMicros? (epochMicros + micros + zone)
  if i.micros < dayMicros then none else some i

end Instant

/-- The clock reading of a date and time, and its offset from universal time if it has one. -/
structure Stamp where
  wall : Instant
  offset : Option Int
  deriving DecidableEq

/-- The local time of a stamp, by way of universal time; a stamp without offset is local already. -/
def Stamp.local? (zone : Int) (stamp : Stamp) : Option Instant :=
  match stamp.offset with
  | none => some stamp.wall
  | some offset => do (← stamp.wall.shift? (-offset)).shift? zone

end Bookmarks
