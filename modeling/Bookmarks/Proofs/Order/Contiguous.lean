import Bookmarks.Order
import Bookmarks.Proofs.Time.Period

/-! What a date filter lets through lies together when bookmarks are sorted by their date. A filter
that asks for no more than a first instant goes on letting through what comes later, one that asks
for no more than a last instant lets through what comes before and has a date; and every filter
lets through what lies between two bookmarks that it lets through. -/

namespace Bookmarks

open Period (since before admits)

/-- A test of a date: a condition at a present time, or a range. -/
inductive DateTest where
  | condition (now : Stamp) (condition : DateCondition)
  | range (start stop : String)

namespace DateTest

def verdict (zone : Int) (created : Option Instant) : DateTest → Verdict
  | condition now c => (DateFilter.ofCondition c).accepts zone now created
  | range start stop => inDateRange zone (.str start) (.str stop) created

/-- Whether a bookmark passes a test by the date of its creation. -/
def Passes (zone : Int) (test : DateTest) (b : Bookmark) : Prop :=
  test.verdict zone (b.created? zone) = .ok true

/-- Whether a test asks for no more than a first instant. -/
def isRising : DateTest → Bool
  | condition _ (.within shortcut) => shortcut != .yesterday
  | condition _ (.compared comparison _) => comparison == .after
  | range _ stop => stop == ""

/-- Whether a test asks for no more than a last instant. -/
def isFalling : DateTest → Bool
  | condition _ (.within _) => false
  | condition _ (.compared comparison _) => comparison == .before
  | range start _ => start == ""

end DateTest

namespace DateCondition

variable {zone : Int} {now : Stamp} {present : Instant} {c : DateCondition}

theorem exists_since (rising : (DateTest.condition now c).isRising = true) :
    ∃ start : Option Nat, c.period? zone present = start.map since := by
  cases c with
  | within shortcut =>
    cases shortcut with
    | today => exact ⟨some present.startOfDay.micros, rfl⟩
    | yesterday => cases rising
    | thisWeek => exact ⟨some (present.micros - 7 * dayMicros), rfl⟩
    | thisMonth => exact ⟨some present.startOfMonth.micros, rfl⟩
  | compared comparison bound =>
    cases comparison with
    | after =>
      refine ⟨(Instant.ofText? zone bound).map fun i => i.micros + 1, ?_⟩
      rw [Option.map_map]
      rfl
    | before => cases rising
    | sameDay => cases rising

theorem exists_before (falling : (DateTest.condition now c).isFalling = true) :
    ∃ stop : Option Nat, c.period? zone present = stop.map before := by
  cases c with
  | within shortcut => cases falling
  | compared comparison bound =>
    cases comparison with
    | after => cases falling
    | before =>
      refine ⟨(Instant.ofText? zone bound).map (·.micros), ?_⟩
      rw [Option.map_map]
      rfl
    | sameDay => cases falling

end DateCondition

namespace DateTest

variable {zone : Int} {created : Option Instant} {test : DateTest}

/-- A test that comes to a verdict lets through one period of instants, which has no end if the test
is rising and no beginning if it is falling. -/
theorem exists_period {passed : Bool} (passes : test.verdict zone created = .ok passed) :
    ∃ period, (∀ other, test.verdict zone other = .ok (admits period other)) ∧
      (test.isRising = true → ∃ start : Option Nat, period = start.map since) ∧
      (test.isFalling = true → ∃ stop : Option Nat, period = stop.map before) := by
  cases test with
  | condition now c =>
    obtain ⟨present, here, reaches, _⟩ := DateFilter.accepts_eq_ok_iff.1 passes
    exact ⟨c.period? zone present,
      fun other => DateFilter.accepts_eq_ok_iff.2 ⟨present, here, reaches, rfl⟩,
      DateCondition.exists_since, DateCondition.exists_before⟩
  | range start stop =>
    refine ⟨_, inDateRange_eq start stop, fun rising => ?_, fun falling => ?_⟩
    · obtain rfl : stop = "" := eq_of_beq rising
      refine ⟨(Instant.ofText? zone start).map (·.micros), ?_⟩
      rw [stopPeriod?_empty, Option.merge_none_right, startPeriod?, Option.map_map]
      rfl
    · obtain rfl : start = "" := eq_of_beq falling
      refine ⟨(Instant.ofText? zone stop).map fun i =>
        if isDayText stop then i.startOfDay.micros + dayMicros else i.micros + 1, ?_⟩
      rw [startPeriod?_empty, Option.merge_none_left, stopPeriod?, Option.map_map]
      rfl

end DateTest

/-- Whether the second of two dates is read, and as an instant after the first one. -/
def IsLater (a b : Option Instant) : Prop :=
  ∃ j, b = some j ∧ ∀ i, a = some i → i.micros < j.micros

/-- What comes later in the order of dates has a date that is read. -/
theorem isLater_of_compareField {zone : Int} {a b : Bookmark}
    (earlier : compareField zone .createdAt .ascending a b = .lt) :
    IsLater (a.created? zone) (b.created? zone) := by
  have sooner : ((a.created? zone).getD .first).micros < ((b.created? zone).getD .first).micros :=
    Nat.compare_eq_lt.1 earlier
  cases known : b.created? zone with
  | none =>
    rw [known] at sooner
    exact absurd sooner (Nat.not_lt_zero _)
  | some j =>
    rw [known] at sooner
    refine ⟨j, rfl, fun i made => ?_⟩
    rwa [made] at sooner

namespace Period

variable {a b c : Option Instant}

theorem admits_later (later : IsLater a b) {start : Option Nat}
    (passes : admits (start.map since) a = true) : admits (start.map since) b = true := by
  obtain ⟨j, rfl, after⟩ := later
  cases start with
  | none => rfl
  | some start =>
    cases a with
    | none => cases passes
    | some i =>
      have := after i rfl
      have : (since start).has i = true := passes
      show (since start).has j = true
      rw [has_since, decide_eq_true_eq] at *
      omega

theorem admits_earlier (later : IsLater a b) (known : a.isSome = true) {stop : Option Nat}
    (passes : admits (stop.map before) b = true) : admits (stop.map before) a = true := by
  obtain ⟨j, rfl, after⟩ := later
  obtain ⟨i, rfl⟩ := Option.isSome_iff_exists.1 known
  cases stop with
  | none => rfl
  | some stop =>
    have := after i rfl
    have : (before stop).has j = true := passes
    show (before stop).has i = true
    rw [has_before, decide_eq_true_eq] at *
    omega

theorem admits_between (later : IsLater a b) (last : IsLater b c) {period : Option Period}
    (first : admits period a = true) (passes : admits period c = true) :
    admits period b = true := by
  obtain ⟨j, rfl, after⟩ := later
  obtain ⟨k, rfl, beyond⟩ := last
  cases period with
  | none => rfl
  | some period =>
    cases a with
    | none => cases first
    | some i =>
      have := after i rfl
      have := beyond j rfl
      have begun : period.has i = true := first
      have ended : period.has k = true := passes
      show period.has j = true
      rw [has_iff] at *
      omega

end Period

namespace DateTest

/-- Tests of dates cut contiguous pieces out of the order of dates. -/
theorem passes_contiguous (zone : Int) (test : DateTest) {a b : Bookmark}
    (earlier : compareField zone .createdAt .ascending a b = .lt) :
    (test.isRising = true → test.Passes zone a → test.Passes zone b) ∧
    (test.isFalling = true → (a.created? zone).isSome = true → test.Passes zone b →
      test.Passes zone a) ∧
    ∀ c, compareField zone .createdAt .ascending b c = .lt →
      test.Passes zone a → test.Passes zone c → test.Passes zone b := by
  have later := isLater_of_compareField earlier
  unfold Passes
  refine ⟨fun rising passes => ?_, fun falling known passes => ?_, fun c next first last => ?_⟩
  · obtain ⟨period, admitted, unended, _⟩ := exists_period passes
    obtain ⟨start, rfl⟩ := unended rising
    rw [admitted, Except.ok.injEq] at passes ⊢
    exact Period.admits_later later passes
  · obtain ⟨period, admitted, _, unbegun⟩ := exists_period passes
    obtain ⟨stop, rfl⟩ := unbegun falling
    rw [admitted, Except.ok.injEq] at passes ⊢
    exact Period.admits_earlier later known passes
  · obtain ⟨period, admitted, _⟩ := exists_period first
    rw [admitted, Except.ok.injEq] at first last ⊢
    exact Period.admits_between later (isLater_of_compareField next) first last

/-- Around the last midnight of a February, an hour ahead of universal time. -/
theorem passes_contiguous_midnight :
    let made (created : String) : Bookmark := ⟨"", "", .zero, "", created, none, []⟩
    let a := made "2024-02-29T22:59:59Z"
    let b := made "2024-03-01"
    let c := made "20240301T180000"
    let night : DateTest := .range "2024-02-29T23:30:00" ""
    let sooner : DateTest := .condition ⟨.first, none⟩ (.compared .before "2024-03-01 00:00:00.5")
    let days : DateTest := .range "2024-02-29" "2024-03-01"
    compareField 3600000000 .createdAt .ascending a b = .lt ∧
    compareField 3600000000 .createdAt .ascending b c = .lt ∧
    (night.Passes 3600000000 a ∧ night.Passes 3600000000 b) ∧
    (sooner.Passes 3600000000 b ∧ sooner.Passes 3600000000 a) ∧
    (days.Passes 3600000000 a ∧ days.Passes 3600000000 c ∧ days.Passes 3600000000 b) := by
  intro made a b c night sooner days
  have earlier : compareField 3600000000 .createdAt .ascending a b = .lt := by decide +kernel
  have next : compareField 3600000000 .createdAt .ascending b c = .lt := by decide +kernel
  have begun : night.Passes 3600000000 a := by unfold Passes; decide +kernel
  have ended : sooner.Passes 3600000000 b := by unfold Passes; decide +kernel
  have first : days.Passes 3600000000 a := by unfold Passes; decide +kernel
  have last : days.Passes 3600000000 c := by unfold Passes; decide +kernel
  have ⟨rises, _, _⟩ := passes_contiguous 3600000000 night earlier
  have ⟨_, falls, _⟩ := passes_contiguous 3600000000 sooner earlier
  have ⟨_, _, between⟩ := passes_contiguous 3600000000 days earlier
  exact ⟨earlier, next, ⟨begun, rises rfl begun⟩, ⟨ended, falls rfl (by decide +kernel) ended⟩,
    ⟨first, last, between c next first last⟩⟩

end DateTest

end Bookmarks
