import Bookmarks.DateFilter
import Bookmarks.Proofs.Time.Day

/-! What a date without a time means as the end of a range. Written as four digits, two and two with
dashes between it covers its whole day; in each of the other five spellings, which are read as well,
it covers no more of its day than the first instant. -/

namespace Bookmarks

namespace DaySpelling

theorem exists_padded_four {n : Nat} (small : n < 10 ^ 4) :
    ∃ a b c d, Date.padded 4 n = [a, b, c, d] ∧ ([a, b, c, d].all Text.isDigit) = true := by
  have width := Date.length_padded (by decide) small
  have digits := Date.isAsciiDigit_padded 4 n
  match Date.padded 4 n, width, digits with
  | [a, b, c, d], _, digits =>
    refine ⟨a, b, c, d, rfl, List.all_eq_true.2 fun e he => ?_⟩
    exact Literal.isDigit_of_isAsciiDigit (digits e he)

theorem isDayText_eq {spelling : DaySpelling} {n : Nat} (h : spelling.number? = some n)
    {text : String} (spelled : Text.trim text.toList = spelling.text) :
    isDayText text = spelling.isDashedDate := by
  rw [isDayText, spelled]
  cases spelling with
  | date dashed d =>
    rw [number?] at h
    split at h
    · next valid =>
      obtain ⟨year, month, day⟩ := Date.bounds_of_isValid valid
      obtain ⟨y₁, y₂, y₃, y₄, year, hy⟩ := exists_padded_four year
      obtain ⟨m₁, m₂, month, hm₁, hm₂⟩ := Time.exists_padded_two month
      obtain ⟨d₁, d₂, day, hd₁, hd₂⟩ := Time.exists_padded_two day
      rw [DaySpelling.text, year, month, day]
      cases dashed with
      | false => simp [dash, isDashedDate]
      | true =>
        simpa [dash, isDashedDate, Literal.isDigit_of_isAsciiDigit, hm₁, hm₂, hd₁, hd₂] using hy
    · cases h
  | week dashed year w =>
    obtain ⟨year, w, _⟩ := Date.bounds_of_numberOfWeek? h
    obtain ⟨y₁, y₂, y₃, y₄, year, _⟩ := exists_padded_four year
    obtain ⟨w₁, w₂, w, _, _⟩ := Time.exists_padded_two w
    rw [DaySpelling.text, year, w]
    cases dashed <;> simp [dash, isDashedDate]
  | weekday dashed year w d =>
    obtain ⟨year, w, d, _⟩ := Date.bounds_of_numberOfWeek? h
    obtain ⟨y₁, y₂, y₃, y₄, year, _⟩ := exists_padded_four year
    obtain ⟨w₁, w₂, w, _, digit⟩ := Time.exists_padded_two w
    obtain ⟨c, d, _⟩ := Time.exists_padded_one d
    rw [DaySpelling.text, year, w, d]
    cases dashed <;> simp [dash, isDashedDate, Time.ne_of_digit digit]

end DaySpelling

namespace Instant

theorem startOfDay_le_iff {a b : Instant} :
    a.startOfDay.le b.startOfDay = true ↔ a.dayNumber ≤ b.dayNumber := by
  rw [le, decide_eq_true_eq]
  simp only [startOfDay, dayNumber, dayMicros]
  omega

end Instant

theorem exists_rangeBound? (zone : Int) {stop : String} {day : Nat}
    (h : Time.readDate? (Text.trim stop.toList) = some day) :
    ∃ i, i.micros = day * dayMicros ∧ rangeBound? zone (.str stop) = some i := by
  have ⟨i, begun, read⟩ := Instant.ofText?_of_readDate? zone h
  refine ⟨i, begun, ?_⟩
  rw [rangeBound?, if_neg]
  · exact read
  · intro void
    rw [String.isEmpty_iff.1 void] at h
    cases h

/-- What a date without a time, in whichever of its spellings, covers as the end of a range. -/
theorem inDateRange_stop_day (zone : Int) {stop : String} {day : Nat}
    (denoted : Time.readDate? (Text.trim stop.toList) = some day) :
    ∃ spelling : DaySpelling, spelling.text = Text.trim stop.toList ∧
      spelling.number? = some day ∧
      ∀ (source : DateSource) (created : Instant), source.instant? zone = some created →
        inDateRange zone (.str "") (.str stop) (source.instant? zone) =
          .ok (if spelling.isDashedDate then decide (created.dayNumber ≤ day)
            else decide (created.micros ≤ day * dayMicros)) := by
  have ⟨spelling, spelled, numbered⟩ := Time.readDate?_eq_some_iff.1 denoted
  have ⟨bound, begun, upper⟩ := exists_rangeBound? zone denoted
  refine ⟨spelling, spelled, numbered, fun source created known => ?_⟩
  have no_start : rangeBound? zone (.str "") = none := rfl
  have same_day : created.startOfDay.le bound.startOfDay = decide (created.dayNumber ≤ day) := by
    rw [Bool.eq_iff_iff, Instant.startOfDay_le_iff, decide_eq_true_eq, Instant.dayNumber,
      Instant.dayNumber, begun, Nat.mul_div_cancel _ (by decide)]
  have first_instant : created.le bound = decide (created.micros ≤ day * dayMicros) := by
    rw [Instant.le, begun]
  have daily := DaySpelling.isDayText_eq numbered spelled.symm
  rw [known, inDateRange, no_start, upper]
  show Except.ok (if isDayText stop then _ else _) = _
  rw [daily, same_day, first_instant]

/-- A day of a leap year, with blanks around it. -/
theorem inDateRange_stop_leap_day :
    Time.readDate? (Text.trim " 2024-02-29\n".toList) = some (⟨2024, 2, 29⟩ : Date).number ∧
    ∃ spelling : DaySpelling, spelling.text = Text.trim " 2024-02-29\n".toList ∧
      spelling.number? = some (⟨2024, 2, 29⟩ : Date).number ∧
      ∀ (source : DateSource) (created : Instant), source.instant? 0 = some created →
        inDateRange 0 (.str "") (.str " 2024-02-29\n") (source.instant? 0) =
          .ok (if spelling.isDashedDate then
              decide (created.dayNumber ≤ (⟨2024, 2, 29⟩ : Date).number)
            else decide (created.micros ≤ (⟨2024, 2, 29⟩ : Date).number * dayMicros)) :=
  have denoted : Time.readDate? (Text.trim " 2024-02-29\n".toList) =
      some (⟨2024, 2, 29⟩ : Date).number := by decide +kernel
  ⟨denoted, inDateRange_stop_day 0 denoted⟩

/-- Six in the evening is not covered by a range that ends on that day, written without dashes. -/
theorem not_inDateRange_stop_day :
    ¬∀ (zone : Int) (stop : String) (day : Nat) (source : DateSource) (created : Instant),
      Time.readDate? (Text.trim stop.toList) = some day → source.instant? zone = some created →
      (inDateRange zone (.str "") (.str stop) (source.instant? zone) = .ok true ↔
        created.dayNumber ≤ day) := by
  intro whole
  let evening : Instant := ⟨738915 * dayMicros + 18 * 3600000000, by decide⟩
  have covered := (whole 0 "20240131" 738915 (.value (.str "2024-01-31T18:00:00")) evening
    (by decide +kernel) (by decide +kernel)).2 (by decide +kernel)
  exact absurd covered (by decide +kernel)

end Bookmarks
