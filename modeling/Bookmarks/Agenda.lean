import Bookmarks.Heap
import Bookmarks.Timeline

/-! An agenda of alarms. Those that are due ring in the order of their times; for alarms of one time
the heap that they lie in decides. An alarm that is called off is not looked for: it stays until it
comes first, or until the agenda holds many such alarms and is cleared of them. -/

namespace Bookmarks

structure Alarm (τ : Type) where
  due : τ
  /-- How many alarms were set before. -/
  number : Nat

structure Agenda (τ : Type) where
  alarms : Heap (Alarm τ) := #[]
  /-- How many alarms were set. -/
  count : Nat := 0
  /-- How many alarms were called off, less those that tidying removed. -/
  stale : Nat := 0

namespace Agenda

variable {τ : Type}

def callOff (agenda : Agenda τ) : Agenda τ := { agenda with stale := agenda.stale + 1 }

variable [Timeline τ]

def earlier (a b : Alarm τ) : Bool := Timeline.isBefore a.due b.due

/-- The alarm that is set next, for a time. -/
def next (agenda : Agenda τ) (due : τ) : Alarm τ := ⟨due, agenda.count⟩

def set (agenda : Agenda τ) (due : τ) : Agenda τ := { agenda with
  alarms := agenda.alarms.insert earlier (agenda.next due)
  count := agenda.count + 1 }

/-- Removes alarms that were called off for as long as one of them comes first. -/
def removeFirst (isSet : Alarm τ → Bool) (agenda : Agenda τ) : Agenda τ :=
  if h : 0 < agenda.alarms.size then
    if isSet agenda.alarms[0] then agenda
    else removeFirst isSet { agenda with
      alarms := agenda.alarms.dropFirst earlier
      stale := agenda.stale - 1 }
  else agenda
termination_by agenda.alarms.size
decreasing_by simp only [Heap.size_dropFirst]; omega

/-- Removes alarms that were called off: all of them if more than half of over a hundred alarms are
such, and otherwise those that come first. -/
def tidy (isSet : Alarm τ → Bool) (agenda : Agenda τ) : Agenda τ :=
  if 100 < agenda.alarms.size && agenda.alarms.size < 2 * agenda.stale then { agenda with
    alarms := .ofArray earlier (agenda.alarms.filter isSet)
    stale := 0 }
  else removeFirst isSet agenda

/-- The alarms that are due, one after the other, and the agenda without them. -/
def ring (now : τ) (agenda : Agenda τ) : List (Alarm τ) × Agenda τ :=
  if h : 0 < agenda.alarms.size then
    if Timeline.hasCome agenda.alarms[0].due now then
      let (rest, left) := ring now { agenda with alarms := agenda.alarms.dropFirst earlier }
      (agenda.alarms[0] :: rest, left)
    else ([], agenda)
  else ([], agenda)
termination_by agenda.alarms.size
decreasing_by simp only [Heap.size_dropFirst]; omega

end Agenda

end Bookmarks
