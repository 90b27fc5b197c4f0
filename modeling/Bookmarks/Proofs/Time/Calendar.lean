import Bookmarks.Time.Date

/-! Days by number and by date. The date of a day has the number of the day, and for each day from
the first of year 1 to the last of year 9999 it is a date of the calendar. -/

namespace Bookmarks

namespace Date

section Span

/-! A year lies in a span of 4 years, that one in a century and this in an era of 400 years. Only
the last year of a span has a leap day; the last one of a century has it at the end of an era
only. -/

variable (era : Nat) {century span year : Nat}

theorem daysBeforeYear_span (inEra : century ≤ 3) (inCentury : span ≤ 24) (inSpan : year ≤ 3) :
    daysBeforeYear (400 * era + 100 * century + 4 * span + year + 1) =
      146097 * era + 36524 * century + 1461 * span + 365 * year := by
  unfold daysBeforeYear
  rw [Nat.add_sub_cancel]
  have by_four : (400 * era + 100 * century + 4 * span + year) / 4 =
      100 * era + 25 * century + span := by omega
  have by_hundred : (400 * era + 100 * century + 4 * span + year) / 100 =
      4 * era + century := by omega
  have by_era : (400 * era + 100 * century + 4 * span + year) / 400 = era := by omega
  omega

theorem isLeap_span (inEra : century ≤ 3) (inCentury : span ≤ 24) (inSpan : year ≤ 3) :
    isLeap (400 * era + 100 * century + 4 * span + year + 1) = true ↔
      year = 3 ∧ (span = 24 → century = 3) := by
  simp only [isLeap, Bool.and_eq_true, Bool.or_eq_true, beq_iff_eq, bne_iff_ne, ne_eq]
  omega

end Span

def yearLength (year : Nat) : Nat := if isLeap year then 366 else 365

/-- The days of all months make up the year. -/
theorem foldl_monthLengths (year : Nat) :
    (monthLengths (isLeap year)).foldl (· + ·) 0 = yearLength year := by
  rw [yearLength]
  cases isLeap year <;> rfl

/-- A day by its era, its century, its span and its year. -/
theorem exists_spans (n : Nat) : ∃ era century span year rest,
    yearOf n = 400 * era + 100 * century + 4 * span + year + 1 ∧
    n = 146097 * era + 36524 * century + 1461 * span + 365 * year + rest ∧
    century ≤ 3 ∧ span ≤ 24 ∧ year ≤ 3 ∧
    rest < if year = 3 ∧ (span = 24 → century = 3) then 366 else 365 := by
  let inEra := n % 146097
  let century := min 3 (inEra / 36524)
  let inCentury := inEra - century * 36524
  let inSpan := inCentury % 1461
  let year := min 3 (inSpan / 365)
  have hinEra : inEra = n % 146097 := rfl
  have hcentury : century = min 3 (inEra / 36524) := rfl
  have hinCentury : inCentury = inEra - century * 36524 := rfl
  have hinSpan : inSpan = inCentury % 1461 := rfl
  have hyear : year = min 3 (inSpan / 365) := rfl
  refine ⟨n / 146097, century, inCentury / 1461, year, inSpan - 365 * year, rfl, ?_⟩
  split <;> omega

/-- A day lies in its year. -/
theorem yearOf_bounds (n : Nat) : daysBeforeYear (yearOf n) ≤ n ∧
    n < daysBeforeYear (yearOf n) + yearLength (yearOf n) := by
  have ⟨era, century, span, year, rest, same, counted, inEra, inCentury, inSpan, inYear⟩ :=
    exists_spans n
  have length : yearLength (yearOf n) =
      if year = 3 ∧ (span = 24 → century = 3) then 366 else 365 := by
    simp only [same, yearLength, isLeap_span era inEra inCentury inSpan]
  rw [length, same, daysBeforeYear_span era inEra inCentury inSpan]
  omega

/-- Counting off months ends within one of them, when those before it have gone by. -/
theorem countOff_eq {lengths : List Nat} {gone rest : Nat}
    (inside : gone + rest < lengths.foldl (· + ·) gone) (month : Nat) :
    ∃ k day, countOff lengths month rest = (month + k, day + 1) ∧ k < lengths.length ∧
      day < lengths.getD k 0 ∧ (lengths.take k).foldl (· + ·) gone + day = gone + rest := by
  induction lengths generalizing gone rest month with
  | nil => exact absurd inside (Nat.not_lt.2 (Nat.le_add_right gone rest))
  | cons length lengths ih =>
    rw [countOff]
    split
    · next first => exact ⟨0, rest, rfl, Nat.succ_pos _, first, rfl⟩
    · next later =>
      have same : gone + length + (rest - length) = gone + rest := by omega
      rw [List.foldl_cons, ← same] at inside
      have ⟨k, day, counted, within, fits, before⟩ := ih inside (month + 1)
      refine ⟨k + 1, day, by rw [counted, Nat.add_right_comm, Nat.add_assoc],
        Nat.succ_lt_succ within, fits, ?_⟩
      rw [List.take_succ_cons, List.foldl_cons, before, same]

/-- A day is as many days into a month of its year as its date says. -/
theorem exists_ofNumber (n : Nat) : ∃ k day, ofNumber n = ⟨yearOf n, k + 1, day + 1⟩ ∧ k < 12 ∧
    day < daysInMonth (yearOf n) (k + 1) ∧
    daysBeforeYear (yearOf n) + daysBeforeMonth (yearOf n) (k + 1) + day = n := by
  have ⟨begun, ends⟩ := yearOf_bounds n
  have inYear : 0 + (n - daysBeforeYear (yearOf n)) <
      (monthLengths (isLeap (yearOf n))).foldl (· + ·) 0 := by
    rw [foldl_monthLengths]
    omega
  have ⟨k, day, counted, within, fits, before⟩ := countOff_eq inYear 1
  refine ⟨k, day, ?_, within, fits, ?_⟩
  · rw [ofNumber, counted, Nat.add_comm 1 k]
  · rw [daysBeforeMonth, Nat.add_sub_cancel]
    omega

theorem number_ofNumber (n : Nat) : (ofNumber n).number = n := by
  have ⟨k, day, same, _, _, counted⟩ := exists_ofNumber n
  rw [same]
  exact counted

theorem year_le_of_daysBeforeYear_lt {year : Nat} (begun : daysBeforeYear year < dayCount) :
    year ≤ 9999 := by
  simp only [daysBeforeYear, dayCount] at begun
  omega

theorem isValid_ofNumber {n : Nat} (inside : n < dayCount) : (ofNumber n).isValid = true := by
  have ⟨k, day, same, month, fits, _⟩ := exists_ofNumber n
  have ⟨begun, _⟩ := yearOf_bounds n
  have last := year_le_of_daysBeforeYear_lt (Nat.lt_of_le_of_lt begun inside)
  have first : 1 ≤ yearOf n := Nat.le_add_left _ _
  rw [same]
  exact decide_eq_true ⟨first, last, Nat.le_add_left _ _, month, Nat.le_add_left _ _, fits⟩

end Date

end Bookmarks
