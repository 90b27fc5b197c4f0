import Bookmarks.Proofs.Time.Period

/-! The conditions on dates that are typed and the ranges that are set agree. A range from a day to
the same day lets through what a comparison with that day does, whether there is such a day or not;
and a range is what its two ends are together. -/

namespace Bookmarks

open Period (since before inter admits)

/-- The places of a day that is written with four digits, two and two. -/
theorem exists_of_isDayText {text : String} (h : isDayText text = true) :
    ∃ y₁ y₂ y₃ y₄ m₁ m₂ d₁ d₂,
      Text.trim text.toList = [y₁, y₂, y₃, y₄, '-', m₁, m₂, '-', d₁, d₂] ∧
      Text.isDigit m₁ = true ∧ Text.isDigit d₂ = true := by
  unfold isDayText at h
  split at h
  · next y₁ y₂ y₃ y₄ m₁ m₂ d₁ d₂ written =>
    simp only [List.all_cons, Bool.and_eq_true] at h
    exact ⟨y₁, y₂, y₃, y₄, m₁, m₂, d₁, d₂, written, h.2.2.2.2.1, h.2.2.2.2.2.2.2.1⟩
  · cases h

namespace Instant

/-- A day is read as its first instant, if there is such a day. -/
theorem startOfDay_of_isDayText {zone : Int} {text : String} {i : Instant}
    (day : isDayText text = true) (read : ofText? zone text = some i) :
    i.startOfDay.micros = i.micros := by
  obtain ⟨y₁, y₂, y₃, y₄, m₁, m₂, d₁, d₂, written, month, last⟩ := exists_of_isDayText day
  have not_week : m₁ ≠ 'W' := by
    rintro rfl
    exact absurd month (by decide +kernel)
  have kept : withOffset (Text.trim text.toList) = Text.trim text.toList := by
    apply withOffset_of_last
    rw [written]
    intro c hc
    obtain rfl : d₂ = c := by simpa using hc
    constructor <;> (rintro rfl; exact absurd last (by decide +kernel))
  have alone : Time.dateLength (Text.trim text.toList) = 10 := by
    rw [written]
    simp [Time.dateLength, not_week]
  have whole : (Text.trim text.toList).drop 10 = [] := by rw [written]; rfl
  rw [ofText?_eq, kept, Time.readStamp?_eq, alone, whole] at read
  simp only [Option.bind_eq_some_iff] at read
  obtain ⟨stamp, ⟨number, _, time, midnight, made⟩, here⟩ := read
  obtain rfl : ({}, none) = time := Option.some.inj midnight
  obtain ⟨_, begun, plain⟩ := Time.stampOf?_eq_some_iff.1 made
  obtain ⟨wall, offset⟩ := stamp
  obtain rfl : none = offset := plain
  obtain rfl : wall = i := Option.some.inj here
  have := ofMicros?_eq_some_iff.1 begun
  have no_time : ({} : Time.Clock).micros = 0 := rfl
  simp only [startOfDay, dayMicros] at *
  omega

end Instant

/-- A day that is read lets the same instants through as a range from it to itself. -/
theorem period_sameDay {zone : Int} {day : String} (written : isDayText day = true) :
    (Instant.ofText? zone day).map Comparison.sameDay.period =
      Option.merge inter (startPeriod? zone day) (stopPeriod? zone day) := by
  rw [startPeriod?, stopPeriod?]
  cases read : Instant.ofText? zone day with
  | none => rfl
  | some i =>
    have begins := Instant.startOfDay_of_isDayText written read
    have ends := i.startOfDay_add_le
    simp only [written, if_true, Option.map_some, Option.merge_some_some, Option.some.injEq,
      Comparison.period, since, before, inter, Period.mk.injEq]
    omega

/-- A range of one day comes to the verdict of the comparison with that day, whenever that comes to
one, and a range to the verdicts of its two ends together. -/
theorem inDateRange_agrees (zone : Int) (source : DateSource) :
    (∀ (day : String) (now : Stamp) (verdict : Bool), isDayText day = true →
      (DateFilter.ofCondition (.compared .sameDay day)).accepts zone now (source.instant? zone) =
        .ok verdict →
      inDateRange zone (.str day) (.str day) (source.instant? zone) = .ok verdict) ∧
    ∀ start stop : String, ∃ begun ended : Bool,
      inDateRange zone (.str start) (.str "") (source.instant? zone) = .ok begun ∧
      inDateRange zone (.str "") (.str stop) (source.instant? zone) = .ok ended ∧
      inDateRange zone (.str start) (.str stop) (source.instant? zone) = .ok (begun && ended) := by
  constructor
  · intro day now verdict written accepted
    obtain ⟨present, _, _, rfl⟩ := DateFilter.accepts_eq_ok_iff.1 accepted
    rw [inDateRange_eq, DateCondition.period?, period_sameDay written]
  · intro start stop
    refine ⟨_, _, inDateRange_start start _, inDateRange_stop stop _, ?_⟩
    rw [inDateRange_eq, Period.admits_merge]

/-- Half an hour before midnight in universal time, which is the next day an hour ahead. -/
theorem inDateRange_agrees_next_day :
    let source : DateSource := .value (.str "2024-02-29T23:30:00Z")
    let now : Stamp := ⟨.first, some (-3600000000)⟩
    isDayText " 2024-03-01\n" = true ∧
    (DateFilter.ofCondition (.compared .sameDay " 2024-03-01\n")).accepts 3600000000 now
      (source.instant? 3600000000) = .ok true ∧
    inDateRange 3600000000 (.str " 2024-03-01\n") (.str " 2024-03-01\n")
      (source.instant? 3600000000) = .ok true := by
  intro source now
  have written : isDayText " 2024-03-01\n" = true := by decide +kernel
  have accepted : (DateFilter.ofCondition (.compared .sameDay " 2024-03-01\n")).accepts 3600000000
      now (source.instant? 3600000000) = .ok true := by decide +kernel
  exact ⟨written, accepted,
    (inDateRange_agrees 3600000000 source).1 " 2024-03-01\n" now true written accepted⟩

example : inDateRange 0 (.str "2023-02-29") (.str "2023-02-29") none = .ok true := by decide +kernel

end Bookmarks
