import Bookmarks.DateFilter
import Bookmarks.Proofs.Finder.Accept
import Bookmarks.Proofs.Time.Range

/-! The instants that conditions and ranges let through. Each of them that asks for something lets
through a period, from an instant on up to another one; the period of a range is what the periods
of its bounds have in common. So shortcuts, comparisons and ranges are compared by the ends of
periods. -/

namespace Bookmarks

/-- Instants from a number of microseconds on, up to and without another one. -/
structure Period where
  start : Nat
  stop : Nat

namespace Period

def has (s : Period) (i : Instant) : Bool := decide (s.start ≤ i.micros ∧ i.micros < s.stop)

theorem has_iff {s : Period} {i : Instant} :
    s.has i = true ↔ s.start ≤ i.micros ∧ i.micros < s.stop := decide_eq_true_iff

def since (start : Nat) : Period := ⟨start, dayCount * dayMicros⟩

theorem has_since {start : Nat} {i : Instant} : (since start).has i = decide (start ≤ i.micros) :=
  decide_eq_decide.2 (and_iff_left i.inRange)

def before (stop : Nat) : Period := ⟨0, stop⟩

theorem has_before {stop : Nat} {i : Instant} : (before stop).has i = decide (i.micros < stop) :=
  decide_eq_decide.2 (and_iff_right (Nat.zero_le _))

def inter (s t : Period) : Period := ⟨max s.start t.start, min s.stop t.stop⟩

theorem has_inter (s t : Period) (i : Instant) : (s.inter t).has i = (s.has i && t.has i) := by
  rw [Bool.eq_iff_iff, Bool.and_eq_true, has_iff, has_iff, has_iff]
  simp only [inter]
  omega

/-- Whether a date lies in a period; where there is no period it is not looked at. -/
def admits (period : Option Period) (created : Option Instant) : Bool :=
  period.all fun s => created.any s.has

theorem admits_merge (s t : Option Period) (created : Option Instant) :
    admits (Option.merge inter s t) created = (admits s created && admits t created) := by
  cases s with
  | none => simp [admits]
  | some s =>
    cases t with
    | none => simp [admits]
    | some t => cases created <;> simp [admits, has_inter]

end Period

open Period (since before inter admits)

namespace Instant

theorem startOfDay_le (i : Instant) : i.startOfDay.micros ≤ i.micros := Nat.sub_le _ _

theorem lt_startOfDay_add (i : Instant) : i.micros < i.startOfDay.micros + dayMicros := by
  simp only [startOfDay, dayMicros]
  omega

theorem startOfDay_add_le (i : Instant) :
    i.startOfDay.micros + dayMicros ≤ dayCount * dayMicros := by
  have := i.inRange
  simp only [startOfDay, dayMicros, dayCount] at *
  omega

end Instant

/-- The instants of a shortcut, for a present that it does not reach back past. -/
def Shortcut.period (now : Instant) : Shortcut → Period
  | today => since now.startOfDay.micros
  | yesterday => ⟨now.startOfDay.micros - dayMicros, now.startOfDay.micros⟩
  | thisWeek => since (now.micros - 7 * dayMicros)
  | thisMonth => since now.startOfMonth.micros

namespace Shortcut

variable {now i : Instant}

theorem has_today : (today.period now).has i = true ↔ now.startOfDay.micros ≤ i.micros := by
  rw [period, Period.has_since, decide_eq_true_eq]

theorem has_yesterday : (yesterday.period now).has i = true ↔
    now.startOfDay.micros - dayMicros ≤ i.micros ∧ i.micros < now.startOfDay.micros :=
  Period.has_iff

theorem has_thisWeek : (thisWeek.period now).has i = true ↔
    now.micros - 7 * dayMicros ≤ i.micros := by
  rw [period, Period.has_since, decide_eq_true_eq]

theorem has_thisMonth : (thisMonth.period now).has i = true ↔
    now.startOfMonth.micros ≤ i.micros := by
  rw [period, Period.has_since, decide_eq_true_eq]

end Shortcut

/-- The instants that compare with a bound. -/
def Comparison.period (bound : Instant) : Comparison → Period
  | after => since (bound.micros + 1)
  | before => Period.before bound.micros
  | sameDay => ⟨bound.startOfDay.micros, bound.startOfDay.micros + dayMicros⟩

namespace DateCondition

/-- How far a condition reaches back from now. -/
def reach : DateCondition → Nat
  | within shortcut => shortcut.reach
  | compared _ _ => 0

/-- What a condition lets through; a bound that is not read asks for nothing. -/
def period? (zone : Int) (now : Instant) : DateCondition → Option Period
  | within shortcut => some (shortcut.period now)
  | compared comparison bound => (Instant.ofText? zone bound).map comparison.period

end DateCondition

theorem Instant.micros_of_shift? {i j : Instant} {micros : Nat}
    (back : i.shift? (-micros) = some j) : j.micros = i.micros - micros := by
  have := ofMicros?_eq_some_iff.1 back
  omega

namespace DateFilter

theorem inWindow_open (start c : Instant) :
    inWindow (some c) (start, none) = (since start.micros).has c := by
  rw [Period.has_since]
  exact Bool.and_true _

theorem inWindow_closed (start stop c : Instant) :
    inWindow (some c) (start, some stop) = (Period.mk start.micros stop.micros).has c :=
  (Bool.decide_and _ _).symm

/-- The window of a shortcut holds the dates in its period. -/
theorem inWindow_eq {now : Instant} {shortcut : Shortcut} {window : Instant × Option Instant}
    (opened : shortcut.window now = .ok window) (created : Option Instant) :
    inWindow created window = created.any (shortcut.period now).has := by
  cases created with
  | none => rfl
  | some c =>
    rw [Option.any_some]
    cases shortcut with
    | today =>
      obtain rfl := Except.ok.inj opened
      exact inWindow_open _ c
    | yesterday =>
      rw [Shortcut.window] at opened
      split at opened
      · next start back =>
        obtain rfl := Except.ok.inj opened
        rw [inWindow_closed, Instant.micros_of_shift? back]
        rfl
      · cases opened
    | thisWeek =>
      rw [Shortcut.window] at opened
      split at opened
      · next start back =>
        obtain rfl := Except.ok.inj opened
        rw [inWindow_open, Instant.micros_of_shift? back]
        rfl
      · cases opened
    | thisMonth =>
      obtain rfl := Except.ok.inj opened
      exact inWindow_open _ c

end DateFilter

theorem Comparison.holds_eq (comparison : Comparison) (created bound : Instant) :
    comparison.holds created bound = (comparison.period bound).has created := by
  cases comparison with
  | after => exact Period.has_since.symm
  | before => exact Period.has_before.symm
  | sameDay =>
    rw [Bool.eq_iff_iff, Period.has_iff]
    show (created.startOfDay == bound.startOfDay) = true ↔ _
    rw [beq_iff_eq, Instant.mk.injEq]
    simp only [Instant.startOfDay, Comparison.period, dayMicros]
    omega

namespace DateFilter

variable {zone : Int} {now : Stamp} {condition : DateCondition} {created : Option Instant}
  {verdict : Bool}

/-- A condition comes to a verdict unless it reaches back past the first day, and lets through what
lies in its period. -/
theorem accepts_eq_ok_iff : (ofCondition condition).accepts zone now created = .ok verdict ↔
    ∃ present, now.local? zone = some present ∧ condition.reach ≤ present.micros ∧
      admits (condition.period? zone present) created = verdict := by
  unfold accepts
  cases now.local? zone with
  | none => simp
  | some present =>
    simp only [Option.some.injEq, exists_eq_left']
    cases condition with
    | within shortcut =>
      have named : (ofCondition (.within shortcut)).shortcut? = some shortcut :=
        Shortcut.ofName?_name shortcut
      rw [acceptsAt, named]
      show (shortcut.window present).map (inWindow created) = _ ↔ shortcut.reach ≤ _ ∧ _
      rw [← Shortcut.exists_window_iff]
      cases opened : shortcut.window present with
      | error fault => simp [Except.map]
      | ok window =>
        simp [Except.map, inWindow_eq opened, admits, DateCondition.period?]
    | compared comparison bound =>
      have unnamed : (ofCondition (.compared comparison bound)).shortcut? = none :=
        Shortcut.ofName?_symbol comparison
      have symbol : (ofCondition (.compared comparison bound)).comparison? = some comparison := by
        cases comparison <;> rfl
      have value : Instant.ofJson? zone (ofCondition (.compared comparison bound)).value =
          Instant.ofText? zone bound := rfl
      simp only [acceptsAt, unnamed, symbol, value, DateCondition.reach, DateCondition.period?,
        Nat.zero_le, true_and]
      cases Instant.ofText? zone bound with
      | none => simp [admits]
      | some bound => simp [admits, Comparison.holds_eq]

end DateFilter

section Range

variable {zone : Int}

theorem rangeBound?_str (text : String) :
    rangeBound? zone (.str text) = Instant.ofText? zone text := by
  have empty : Instant.ofText? zone "" = none := rfl
  rw [rangeBound?]
  split
  · next void => rw [String.isEmpty_iff.1 void, empty]
  · rfl

/-- What the start of a range lets through. -/
def startPeriod? (zone : Int) (start : String) : Option Period :=
  (Instant.ofText? zone start).map fun bound => since bound.micros

/-- What the end of a range lets through: with four digits, two and two its whole day. -/
def stopPeriod? (zone : Int) (stop : String) : Option Period :=
  (Instant.ofText? zone stop).map fun bound =>
    before (if isDayText stop then bound.startOfDay.micros + dayMicros else bound.micros + 1)

theorem startPeriod?_empty : startPeriod? zone "" = none := rfl

theorem stopPeriod?_empty : stopPeriod? zone "" = none := rfl

theorem has_stop (stop : String) (bound created : Instant) :
    (before (if isDayText stop then bound.startOfDay.micros + dayMicros
      else bound.micros + 1)).has created =
      if isDayText stop then created.startOfDay.le bound.startOfDay else created.le bound := by
  rw [Period.has_before]
  split
  · rw [Instant.le, decide_eq_decide]
    simp only [Instant.startOfDay, dayMicros]
    omega
  · rw [Instant.le, decide_eq_decide]
    omega

/-- A range always comes to a verdict, and lets through what both of its bounds do. -/
theorem inDateRange_eq (start stop : String) (created : Option Instant) :
    inDateRange zone (.str start) (.str stop) created = .ok
      (admits (Option.merge inter (startPeriod? zone start) (stopPeriod? zone stop)) created) := by
  rw [Period.admits_merge, inDateRange, rangeBound?_str, rangeBound?_str, startPeriod?, stopPeriod?]
  have begins (lower c : Instant) : (since lower.micros).has c = !c.lt lower := by
    rw [Period.has_since, Instant.lt, ← decide_not, decide_eq_decide, Nat.not_lt]
  cases Instant.ofText? zone start with
  | none =>
    cases Instant.ofText? zone stop with
    | none => rfl
    | some upper =>
      cases created with
      | none => rfl
      | some c => simp [admits, has_stop, Json.text, Except.map]
  | some lower =>
    cases created with
    | none => cases Instant.ofText? zone stop <;> rfl
    | some c =>
      cases Instant.ofText? zone stop with
      | none => cases early : c.lt lower <;> simp [admits, begins, early]
      | some upper =>
        cases early : c.lt lower <;> simp [admits, begins, early, has_stop, Json.text, Except.map]

/-- A range lets through what each of its ends does by itself. -/
theorem inDateRange_start (start : String) (created : Option Instant) :
    inDateRange zone (.str start) (.str "") created =
      .ok (admits (startPeriod? zone start) created) := by
  rw [inDateRange_eq, stopPeriod?_empty, Option.merge_none_right]

theorem inDateRange_stop (stop : String) (created : Option Instant) :
    inDateRange zone (.str "") (.str stop) created =
      .ok (admits (stopPeriod? zone stop) created) := by
  rw [inDateRange_eq, startPeriod?_empty, Option.merge_none_left]

end Range

end Bookmarks
