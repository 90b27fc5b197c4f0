import Bookmarks.Preset
import Bookmarks.Proofs.Time.RoundTrip
import Bookmarks.Proofs.Time.Period

/-! Shortcuts that lie within each other, and the presets that everyone has. What was made today was
made this week and this month but not yesterday, and yesterday lies in this week. The preset of today
has the range of the shortcut; that of this week begins with the day seven days ago, the shortcut
only at the time of day that it is now. -/

namespace Bookmarks

open Period (since admits)

namespace Period

variable {s t : Period} {created : Option Instant}

theorem any_of_subset (subset : ∀ i, s.has i = true → t.has i = true)
    (inside : created.any s.has = true) : created.any t.has = true := by
  cases created with
  | none => exact inside
  | some i => exact subset i inside

theorem not_any_of_apart (apart : ∀ i, s.has i = true → t.has i = false)
    (inside : created.any s.has = true) : created.any t.has = false := by
  cases created with
  | none => rfl
  | some i => exact apart i inside

theorem exists_between (inside : created.any s.has = true) (outside : created.any t.has = false) :
    ∃ i, created = some i ∧ s.has i = true ∧ t.has i = false := by
  cases created with
  | none => cases inside
  | some i => exact ⟨i, rfl, inside, outside⟩

end Period

namespace Instant

theorem startOfMonth_le (i : Instant) : i.startOfMonth.micros ≤ i.startOfDay.micros :=
  Nat.sub_le _ _

theorem dayNumber_mul (i : Instant) : i.dayNumber * dayMicros = i.startOfDay.micros := by
  simp only [dayNumber, startOfDay, dayMicros]
  omega

end Instant

namespace Shortcut

variable {now i : Instant}

theorem has_thisWeek_of_today (made : (today.period now).has i = true) :
    (thisWeek.period now).has i = true := by
  rw [has_today] at made
  have := now.lt_startOfDay_add
  rw [has_thisWeek]
  omega

theorem has_thisMonth_of_today (made : (today.period now).has i = true) :
    (thisMonth.period now).has i = true := by
  rw [has_today] at made
  rw [has_thisMonth]
  exact Nat.le_trans now.startOfMonth_le made

theorem not_has_yesterday_of_today (made : (today.period now).has i = true) :
    (yesterday.period now).has i = false := by
  rw [has_today] at made
  rw [Bool.eq_false_iff, ne_eq, has_yesterday]
  omega

theorem has_thisWeek_of_yesterday (made : (yesterday.period now).has i = true) :
    (thisWeek.period now).has i = true := by
  rw [has_yesterday] at made
  have := now.lt_startOfDay_add
  rw [has_thisWeek]
  omega

/-- The day seven days ago begins before the week that ends now. -/
theorem has_since_of_thisWeek (made : (thisWeek.period now).has i = true) :
    (since (now.startOfDay.micros - 7 * dayMicros)).has i = true := by
  rw [has_thisWeek] at made
  have := now.startOfDay_le
  rw [Period.has_since, decide_eq_true_eq]
  omega

end Shortcut

/-- A shortcut that does not reach back past the first day lets through what lies in its period. -/
theorem DateFilter.accepts_within (zone : Int) {now : Instant} {shortcut : Shortcut}
    (reaches : shortcut.reach ≤ now.micros) (created : Option Instant) :
    (ofCondition (.within shortcut)).accepts zone ⟨now, none⟩ created =
      .ok (created.any (shortcut.period now).has) :=
  accepts_eq_ok_iff.2 ⟨now, rfl, reaches, rfl⟩

/-- How the verdicts of the shortcuts on one date lie within each other. -/
structure Shortcut.AreNested (matched : Shortcut → Bool) : Prop where
  thisWeek_of_today : matched .today = true → matched .thisWeek = true
  thisMonth_of_today : matched .today = true → matched .thisMonth = true
  not_yesterday_of_today : matched .today = true → matched .yesterday = false
  thisWeek_of_yesterday : matched .yesterday = true → matched .thisWeek = true

theorem Shortcut.areNested_any (now : Instant) (created : Option Instant) :
    AreNested fun shortcut => created.any (shortcut.period now).has where
  thisWeek_of_today := Period.any_of_subset fun _ => has_thisWeek_of_today
  thisMonth_of_today := Period.any_of_subset fun _ => has_thisMonth_of_today
  not_yesterday_of_today := Period.not_any_of_apart fun _ => not_has_yesterday_of_today
  thisWeek_of_yesterday := Period.any_of_subset fun _ => has_thisWeek_of_yesterday

namespace Preset

/-- The start and the end of the range that a preset carries. -/
def range? (p : Preset) : Option (Json × Json) :=
  match p.filters.lookup "dateRange" with
  | some (.obj range) => do return (← range.lookup "start", ← range.lookup "end")
  | _ => none

/-- The range of the preset with an id, of those that everyone has on a day. -/
def builtInRange? (today : Nat) (id : String) : Option (Json × Json) :=
  match builtIn today with
  | .ok presets => (presets.find? (·.id == id)).bind range?
  | .error _ => none

section BuiltIn

variable {today : Nat} (week : 7 ≤ today)

include week

theorem builtInRange?_recent : builtInRange? today "recent" =
    some (.str (String.ofList (Date.ofNumber today).text), .str "") := by
  rw [builtInRange?, builtIn, if_neg (Nat.not_lt.2 week)]
  rfl

theorem builtInRange?_thisWeek : builtInRange? today "this-week" =
    some (.str (String.ofList (Date.ofNumber (today - 7)).text), .str "") := by
  rw [builtInRange?, builtIn, if_neg (Nat.not_lt.2 week)]
  rfl

end BuiltIn

/-- A range from a day on lets through what was made from its first instant on. -/
theorem inDateRange_sinceDay (zone : Int) {n : Nat} (inside : n < dayCount)
    (created : Option Instant) :
    inDateRange zone (.str (String.ofList (Date.ofNumber n).text)) (.str "") created =
      .ok (created.any (since (n * dayMicros)).has) := by
  have ⟨i, begun, read⟩ := Instant.ofText?_day zone inside
  rw [inDateRange_start, startPeriod?, read, Option.map_some, begun]
  rfl

end Preset

/-- From the eighth day there is on, all shortcuts and the ranges of both presets come to verdicts
on every date. They are nested, the preset of today agrees with its shortcut, and that of this week
adds to its shortcut what was made on the day seven days ago up to the present time of day. -/
theorem shortcuts_nested (zone : Int) {now : Instant} (week : 7 * dayMicros ≤ now.micros) :
    ∃ start stop start' stop',
      Preset.builtInRange? now.dayNumber "recent" = some (start, stop) ∧
      Preset.builtInRange? now.dayNumber "this-week" = some (start', stop') ∧
      ∀ source : DateSource, ∃ (matched : Shortcut → Bool) (inWeek : Bool),
        (∀ shortcut, (DateFilter.ofCondition (.within shortcut)).accepts zone ⟨now, none⟩
          (source.instant? zone) = .ok (matched shortcut)) ∧
        Shortcut.AreNested matched ∧
        inDateRange zone start stop (source.instant? zone) = .ok (matched .today) ∧
        inDateRange zone start' stop' (source.instant? zone) = .ok inWeek ∧
        (matched .thisWeek = true → inWeek = true) ∧
        (inWeek = true → matched .thisWeek = false → ∃ created, source.instant? zone = some created ∧
          now.startOfDay.micros - 7 * dayMicros ≤ created.micros ∧
          created.micros < now.micros - 7 * dayMicros) := by
  have reaches (shortcut : Shortcut) : shortcut.reach ≤ now.micros := by
    cases shortcut <;> simp only [Shortcut.reach] <;> omega
  have weekDays : 7 ≤ now.dayNumber := (Nat.le_div_iff_mul_le (by decide)).2 week
  have inside := now.dayNumber_lt
  have earlier : now.dayNumber - 7 < dayCount := by omega
  refine ⟨_, _, _, _, Preset.builtInRange?_recent weekDays,
    Preset.builtInRange?_thisWeek weekDays, fun source => ?_⟩
  refine ⟨fun shortcut => (source.instant? zone).any (shortcut.period now).has,
    (source.instant? zone).any (since ((now.dayNumber - 7) * dayMicros)).has,
    fun shortcut => DateFilter.accepts_within zone (reaches shortcut) _,
    Shortcut.areNested_any now _, ?_⟩
  rw [Preset.inDateRange_sinceDay zone inside, Preset.inDateRange_sinceDay zone earlier,
    Nat.sub_mul, now.dayNumber_mul]
  refine ⟨rfl, rfl, Period.any_of_subset fun _ => Shortcut.has_since_of_thisWeek,
    fun inWeek early => ?_⟩
  obtain ⟨created, known, inWeek, early⟩ := Period.exists_between inWeek early
  rw [Period.has_since, decide_eq_true_eq] at inWeek
  rw [Bool.eq_false_iff, ne_eq, Shortcut.has_thisWeek, Nat.not_le] at early
  exact ⟨created, known, inWeek, early⟩

/-- Noon of the third of March in a leap year, when this week began in another month. -/
theorem shortcuts_nested_march :
    let now : Instant := ⟨738947 * dayMicros + 43200000000, by decide⟩
    7 * dayMicros ≤ now.micros ∧
    ∃ start stop start' stop',
      Preset.builtInRange? now.dayNumber "recent" = some (start, stop) ∧
      Preset.builtInRange? now.dayNumber "this-week" = some (start', stop') ∧
      ∀ source : DateSource, ∃ (matched : Shortcut → Bool) (inWeek : Bool),
        (∀ shortcut, (DateFilter.ofCondition (.within shortcut)).accepts 0 ⟨now, none⟩
          (source.instant? 0) = .ok (matched shortcut)) ∧
        Shortcut.AreNested matched ∧
        inDateRange 0 start stop (source.instant? 0) = .ok (matched .today) ∧
        inDateRange 0 start' stop' (source.instant? 0) = .ok inWeek ∧
        (matched .thisWeek = true → inWeek = true) ∧
        (inWeek = true → matched .thisWeek = false → ∃ created, source.instant? 0 = some created ∧
          now.startOfDay.micros - 7 * dayMicros ≤ created.micros ∧
          created.micros < now.micros - 7 * dayMicros) := by
  intro now
  have week : 7 * dayMicros ≤ now.micros := by decide
  exact ⟨week, shortcuts_nested 0 week⟩

end Bookmarks
