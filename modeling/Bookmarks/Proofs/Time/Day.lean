import Bookmarks.Proofs.Number.Digits
import Bookmarks.Time.Source

/-! Days as they are written: a calendar date, a week, or a week and a weekday, each with dashes or
without. These six spellings are all that is read as a date, and a date that stands alone is read
as the first instant of its day. -/

namespace Bookmarks

open Literal (isAsciiDigit natOf)

namespace Date

theorem isAsciiDigit_padded (width n : Nat) : ∀ c ∈ padded width n, isAsciiDigit c = true := by
  intro c hc
  cases List.mem_append.1 hc with
  | inl zero => exact Literal.isAsciiDigit_zeros _ c zero
  | inr digit => exact Literal.isAsciiDigit_toDigits n c digit

theorem natOf_padded (width n : Nat) : natOf (padded width n) = n := by
  rw [padded, Literal.natOf_zeros_append, Literal.natOf_toDigits]

theorem length_padded {width n : Nat} (positive : 0 < width) (fits : n < 10 ^ width) :
    (padded width n).length = width := by
  have := (Nat.length_toDigits_le_iff (by decide) positive).2 fits
  rw [padded, List.length_append, List.length_replicate]
  omega

theorem padded_natOf {digits : List Char} (nonempty : digits ≠ [])
    (areDigits : ∀ c ∈ digits, isAsciiDigit c = true) :
    padded digits.length (natOf digits) = digits :=
  Literal.eq_of_natOf_eq (isAsciiDigit_padded _ _) areDigits
    (length_padded (List.length_pos_iff.2 nonempty) (Literal.natOf_lt areDigits))
    (natOf_padded _ _)

/-- A number begins with a digit. -/
theorem exists_padded (width n : Nat) :
    ∃ c rest, padded width n = c :: rest ∧ isAsciiDigit c = true := by
  have digits := isAsciiDigit_padded width n
  cases written : padded width n with
  | nil => exact absurd (List.append_eq_nil_iff.1 written).2 Nat.toDigits_ne_nil
  | cons c rest => exact ⟨c, rest, rfl, digits c (by simp [written])⟩

theorem padded_ne_nil (width n : Nat) : padded width n ≠ [] := by
  have ⟨c, rest, written, _⟩ := exists_padded width n
  simp [written]

/-- What ends in a number ends in a digit. -/
theorem isAsciiDigit_last_padded (start : List Char) (width n : Nat) :
    ∀ c ∈ (start ++ padded width n).getLast?, isAsciiDigit c = true := by
  intro c hc
  rw [List.getLast?_append_of_ne_nil _ (padded_ne_nil width n)] at hc
  exact isAsciiDigit_padded width n c (List.mem_of_mem_getLast? hc)

theorem lt_of_firstMonday_lt {year : Nat} (begun : firstMonday year < dayCount) :
    year < 10 ^ 4 := by
  have near : daysBeforeYear year ≤ firstMonday year + 3 := by
    unfold firstMonday
    dsimp only
    split <;> omega
  have next : firstMonday 10000 = 3652061 := rfl
  by_contra late
  obtain rfl | later : year = 10000 ∨ 10001 ≤ year := by omega
  · rw [next] at begun
    exact absurd begun (by decide)
  · simp only [daysBeforeYear, dayCount] at near begun
    omega

theorem bounds_of_numberOfWeek? {year week weekday n : Nat}
    (h : numberOfWeek? year week weekday = some n) :
    year < 10 ^ 4 ∧ week < 10 ^ 2 ∧ weekday < 10 ^ 1 ∧ n < dayCount := by
  unfold numberOfWeek? at h
  split at h
  · cases h
  · split at h
    · cases h
    · dsimp only at h
      split at h
      · next inside =>
        cases h
        have begun : firstMonday year < dayCount := by omega
        exact ⟨lt_of_firstMonday_lt begun, by omega, by omega, inside⟩
      · cases h

theorem bounds_of_isValid {d : Date} (valid : d.isValid = true) :
    d.year < 10 ^ 4 ∧ d.month < 10 ^ 2 ∧ d.day < 10 ^ 2 := by
  have ⟨_, year, _, month, _, day⟩ := of_decide_eq_true valid
  have longest : daysInMonth d.year d.month ≤ 31 := by
    have : ∀ leap, ∀ m < 13, (monthLengths leap).getD (m - 1) 0 ≤ 31 := by decide
    exact this _ _ (by omega)
  omega

theorem number_lt {d : Date} (valid : d.isValid = true) : d.number < dayCount := by
  have ⟨year, year', month, month', day, day'⟩ := of_decide_eq_true valid
  have within_year : daysBeforeMonth d.year d.month + daysInMonth d.year d.month ≤
      if isLeap d.year then 366 else 365 := by
    have : ∀ leap, ∀ m < 13, 0 < m → ((monthLengths leap).take (m - 1)).foldl (· + ·) 0 +
        (monthLengths leap).getD (m - 1) 0 ≤ if leap then 366 else 365 := by decide
    exact this _ _ (by omega) month
  have years : daysBeforeYear d.year + (if isLeap d.year then 366 else 365) ≤ dayCount := by
    unfold daysBeforeYear dayCount
    split
    · next leap =>
      have : d.year % 4 = 0 := by
        rw [isLeap, Bool.and_eq_true, beq_iff_eq] at leap
        exact leap.1
      omega
    · omega
  unfold number
  omega

end Date

namespace Time

theorem readDigits?_eq_some_iff {count n : Nat} {s rest : List Char} (positive : 0 < count) :
    readDigits? count s = some (n, rest) ↔ n < 10 ^ count ∧ s = Date.padded count n ++ rest := by
  unfold readDigits?
  dsimp only
  constructor
  · intro h
    split at h
    · next digits =>
      cases h
      have areDigits := List.all_eq_true.1 digits.2
      have nonempty : s.take count ≠ [] := by
        intro none
        rw [none] at digits
        exact absurd digits.1 positive.ne
      have small := Literal.natOf_lt areDigits
      have same := Date.padded_natOf nonempty areDigits
      rw [digits.1] at small same
      exact ⟨small, by rw [same, List.take_append_drop]⟩
    · cases h
  · rintro ⟨small, rfl⟩
    have width := Date.length_padded positive small
    rw [List.take_left' width, List.drop_left' width, if_pos, Date.natOf_padded]
    exact ⟨width, List.all_eq_true.2 (Date.isAsciiDigit_padded count n)⟩

end Time

/-- A day as it is written, with dashes or without. -/
inductive DaySpelling where
  | date (dashed : Bool) (date : Date)
  | week (dashed : Bool) (year week : Nat)
  | weekday (dashed : Bool) (year week weekday : Nat)

namespace DaySpelling

def dash (dashed : Bool) : List Char := if dashed then ['-'] else []

def text : DaySpelling → List Char
  | date dashed d => Date.padded 4 d.year ++ (dash dashed ++
      (Date.padded 2 d.month ++ (dash dashed ++ Date.padded 2 d.day)))
  | week dashed year w => Date.padded 4 year ++ (dash dashed ++ 'W' :: Date.padded 2 w)
  | weekday dashed year w d => Date.padded 4 year ++ (dash dashed ++
      'W' :: (Date.padded 2 w ++ (dash dashed ++ Date.padded 1 d)))

/-- The number of the day, if there is such a day; a week stands for its Monday. -/
def number? : DaySpelling → Option Nat
  | date _ d => if d.isValid then some d.number else none
  | week _ year w => Date.numberOfWeek? year w 1
  | weekday _ year w d => Date.numberOfWeek? year w d

/-- Four digits, two and two with dashes between. -/
def isDashedDate : DaySpelling → Bool
  | date dashed _ => dashed
  | _ => false

end DaySpelling

open DaySpelling (dash)

namespace Time

theorem readDash?_eq_some_iff {dashed : Bool} {s rest : List Char} :
    readDash? dashed s = some rest ↔ s = dash dashed ++ rest := by
  unfold readDash?
  cases dashed with
  | false => simp [dash]
  | true =>
    simp only [if_true, dash, List.singleton_append]
    split
    · simp
    · next other => exact ⟨nofun, fun same => absurd same (other rest)⟩

theorem dash_append_tail (s : List Char) :
    s = dash (s.head? == some '-') ++ if s.head? == some '-' then s.tail else s := by
  cases s with
  | nil => rfl
  | cons c s =>
    by_cases h : c = '-'
    · simp [h, dash]
    · simp [h, dash]

theorem ne_of_digit {c : Char} (digit : isAsciiDigit c = true) : c ≠ '-' ∧ c ≠ 'W' := by
  constructor <;> (rintro rfl; exact absurd digit (by decide))

theorem readDigits?_append {count : Nat} (positive : 0 < count) {n : Nat} (small : n < 10 ^ count)
    (rest : List Char) : readDigits? count (Date.padded count n ++ rest) = some (n, rest) :=
  (readDigits?_eq_some_iff positive).2 ⟨small, rfl⟩

theorem readDigits?_padded {count : Nat} (positive : 0 < count) {n : Nat}
    (small : n < 10 ^ count) : readDigits? count (Date.padded count n) = some (n, []) := by
  have read := readDigits?_append positive small []
  rwa [List.append_nil] at read

theorem readDash?_append (dashed : Bool) (rest : List Char) :
    readDash? dashed (dash dashed ++ rest) = some rest := readDash?_eq_some_iff.2 rfl

/-- The number of a day of a year, by what stands behind the year and its dash. -/
def readInYear? (year : Nat) (dashed : Bool) : List Char → Option Nat
  | 'W' :: s => do
    let (week, s) ← readDigits? 2 s
    if s.isEmpty then Date.numberOfWeek? year week 1
    else
      let (weekday, s) ← readDigits? 1 (← readDash? dashed s)
      if s.isEmpty then Date.numberOfWeek? year week weekday else none
  | s => do
    let (month, s) ← readDigits? 2 s
    let (day, s) ← readDigits? 2 (← readDash? dashed s)
    let date : Date := ⟨year, month, day⟩
    if s.isEmpty && date.isValid then some date.number else none

theorem readDate?_eq (s : List Char) : readDate? s = (readDigits? 4 s).bind fun (year, s) =>
    let dashed := s.head? == some '-'
    readInYear? year dashed (if dashed then s.tail else s) := by
  unfold readDate? readInYear?
  rfl

theorem readDate?_year {year : Nat} (small : year < 10 ^ 4) (dashed : Bool) {s : List Char}
    (start : s.head? ≠ some '-') :
    readDate? (Date.padded 4 year ++ (dash dashed ++ s)) = readInYear? year dashed s := by
  rw [readDate?_eq, readDigits?_append (by decide) small, Option.bind_some]
  cases dashed with
  | false =>
    have none : (s.head? == some '-') = false := by simpa using start
    simp [dash, none]
  | true => simp [dash]

/-- What is read behind a year is one of three kinds of spellings. -/
theorem exists_spelling_of_readInYear? {year : Nat} {dashed : Bool} {s : List Char} {n : Nat}
    (h : readInYear? year dashed s = some n) :
    ∃ spelling : DaySpelling, spelling.text = Date.padded 4 year ++ (dash dashed ++ s) ∧
      spelling.number? = some n := by
  unfold readInYear? at h
  split at h
  · simp only [Option.bind_eq_bind, Option.bind_eq_some_iff] at h
    obtain ⟨⟨week, rest⟩, read_week, h⟩ := h
    obtain ⟨_, rfl⟩ := (readDigits?_eq_some_iff (by decide)).1 read_week
    dsimp only at h
    split at h
    · next ended =>
      rw [List.isEmpty_iff.1 ended, List.append_nil]
      exact ⟨.week dashed year week, rfl, h⟩
    · simp only [Option.bind_eq_some_iff] at h
      obtain ⟨behind, read_dash, ⟨weekday, left⟩, read_weekday, h⟩ := h
      obtain rfl := readDash?_eq_some_iff.1 read_dash
      obtain ⟨_, rfl⟩ := (readDigits?_eq_some_iff (by decide)).1 read_weekday
      dsimp only at h
      split at h
      · next ended =>
        rw [List.isEmpty_iff.1 ended, List.append_nil]
        exact ⟨.weekday dashed year week weekday, rfl, h⟩
      · cases h
  · simp only [Option.bind_eq_bind, Option.bind_eq_some_iff] at h
    obtain ⟨⟨month, rest⟩, read_month, behind, read_dash, ⟨day, left⟩, read_day, h⟩ := h
    obtain ⟨_, rfl⟩ := (readDigits?_eq_some_iff (by decide)).1 read_month
    obtain rfl := readDash?_eq_some_iff.1 read_dash
    obtain ⟨_, rfl⟩ := (readDigits?_eq_some_iff (by decide)).1 read_day
    dsimp only at h
    split at h
    · next valid =>
      rw [Bool.and_eq_true, List.isEmpty_iff] at valid
      rw [valid.1, List.append_nil]
      exact ⟨.date dashed ⟨year, month, day⟩, rfl, (if_pos valid.2).trans h⟩
    · cases h

/-- Only the six spellings are read as a date. -/
theorem exists_spelling_of_readDate? {s : List Char} {n : Nat} (h : readDate? s = some n) :
    ∃ spelling : DaySpelling, spelling.text = s ∧ spelling.number? = some n := by
  rw [readDate?_eq, Option.bind_eq_some_iff] at h
  obtain ⟨⟨year, rest⟩, read_year, h⟩ := h
  obtain ⟨_, rfl⟩ := (readDigits?_eq_some_iff (by decide)).1 read_year
  have ⟨spelling, spelled, numbered⟩ := exists_spelling_of_readInYear? h
  rw [← dash_append_tail] at spelled
  exact ⟨spelling, spelled, numbered⟩

/-- All six spellings are read. -/
theorem readDate?_text {spelling : DaySpelling} {n : Nat} (h : spelling.number? = some n) :
    readDate? spelling.text = some n := by
  cases spelling with
  | date dashed d =>
    rw [DaySpelling.number?] at h
    split at h
    · next valid =>
      have ⟨year, month, day⟩ := Date.bounds_of_isValid valid
      have ⟨c, rest, first, digit⟩ := Date.exists_padded 2 d.month
      have ⟨not_dash, not_week⟩ := ne_of_digit digit
      rw [DaySpelling.text, readDate?_year year dashed (by simpa [first] using not_dash),
        readInYear?]
      · simp only [readDigits?_append (by decide) month, readDash?_append,
          readDigits?_padded (by decide) day, Option.bind_eq_bind, Option.bind_some,
          List.isEmpty_nil, Bool.true_and]
        exact (if_pos valid).trans h
      · intro s week_mark
        rw [first] at week_mark
        exact not_week (List.cons.inj week_mark).1
    · cases h
  | week dashed year w =>
    have ⟨year_small, w_small, _⟩ := Date.bounds_of_numberOfWeek? h
    rw [DaySpelling.text, readDate?_year year_small dashed (by simp), readInYear?,
      readDigits?_padded (by decide) w_small]
    exact h
  | weekday dashed year w d =>
    have ⟨year_small, w_small, d_small, _⟩ := Date.bounds_of_numberOfWeek? h
    have more : (dash dashed ++ Date.padded 1 d).isEmpty = false := by
      have ⟨c, rest, first, _⟩ := Date.exists_padded 1 d
      rw [first]
      cases dashed <;> rfl
    rw [DaySpelling.text, readDate?_year year_small dashed (by simp), readInYear?]
    simp only [readDigits?_append (by decide) w_small, more, readDash?_append,
      readDigits?_padded (by decide) d_small, Option.bind_eq_bind, Option.bind_some]
    exact h

theorem readDate?_eq_some_iff {s : List Char} {n : Nat} :
    readDate? s = some n ↔
      ∃ spelling : DaySpelling, spelling.text = s ∧ spelling.number? = some n := by
  refine ⟨exists_spelling_of_readDate?, ?_⟩
  rintro ⟨spelling, rfl, h⟩
  exact readDate?_text h

theorem drop_year {year : Nat} (small : year < 10 ^ 4) (k : Nat) (rest : List Char) :
    (Date.padded 4 year ++ rest).drop (4 + k) = rest.drop k := by
  rw [← List.drop_drop, List.drop_left' (Date.length_padded (by decide) small)]

theorem exists_padded_two {n : Nat} (small : n < 10 ^ 2) : ∃ a b, Date.padded 2 n = [a, b] ∧
    isAsciiDigit a = true ∧ isAsciiDigit b = true := by
  have digits := Date.isAsciiDigit_padded 2 n
  obtain ⟨a, b, written⟩ := List.length_eq_two.1 (Date.length_padded (by decide) small)
  exact ⟨a, b, written, digits a (by simp [written]), digits b (by simp [written])⟩

theorem exists_padded_one {n : Nat} (small : n < 10 ^ 1) : ∃ a, Date.padded 1 n = [a] ∧
    isAsciiDigit a = true := by
  have digits := Date.isAsciiDigit_padded 1 n
  obtain ⟨a, written⟩ := List.length_eq_one_iff.1 (Date.length_padded (by decide) small)
  exact ⟨a, written, digits a (by simp [written])⟩

/-- A spelling is as long as its fifth and sixth characters tell. -/
theorem dateLength_text {spelling : DaySpelling} {n : Nat} (h : spelling.number? = some n) :
    dateLength spelling.text = spelling.text.length := by
  cases spelling with
  | date dashed d =>
    rw [DaySpelling.number?] at h
    split at h
    · next valid =>
      have ⟨year, month, day⟩ := Date.bounds_of_isValid valid
      have ⟨a, b, month, ha, _⟩ := exists_padded_two month
      have ⟨c, e, day, _⟩ := exists_padded_two day
      have tail := drop_year year 0
      have width := Date.length_padded (by decide) year
      rw [DaySpelling.text, dateLength, tail, month, day]
      cases dashed with
      | false => simp [dash, ne_of_digit ha, width]
      | true => simp [dash, ne_of_digit ha, width]
    · cases h
  | week dashed year w =>
    have ⟨year, w, _⟩ := Date.bounds_of_numberOfWeek? h
    have ⟨a, b, w, _⟩ := exists_padded_two w
    have tail := drop_year year
    have width := Date.length_padded (by decide) year
    rw [DaySpelling.text, dateLength, tail 0, tail 4, tail 3, w]
    cases dashed with
    | false => simp [dash, width]
    | true => simp [dash, width]
  | weekday dashed year w d =>
    have ⟨year, w, d, _⟩ := Date.bounds_of_numberOfWeek? h
    have ⟨a, b, w, _⟩ := exists_padded_two w
    have ⟨c, d, digit⟩ := exists_padded_one d
    have tail := drop_year year
    have width := Date.length_padded (by decide) year
    rw [DaySpelling.text, dateLength, tail 0, tail 4, tail 3, w, d]
    cases dashed with
    | false => simp [dash, width, digit]
    | true => simp [dash, width]

theorem lt_of_number? {spelling : DaySpelling} {n : Nat} (h : spelling.number? = some n) :
    n < dayCount := by
  cases spelling with
  | date _ d =>
    rw [DaySpelling.number?] at h
    split at h
    · next valid =>
      cases h
      exact Date.number_lt valid
    · cases h
  | week => exact (Date.bounds_of_numberOfWeek? h).2.2.2
  | weekday => exact (Date.bounds_of_numberOfWeek? h).2.2.2

theorem dateLength_of_readDate? {s : List Char} {n : Nat} (h : readDate? s = some n) :
    dateLength s = s.length := by
  obtain ⟨spelling, rfl, numbered⟩ := readDate?_eq_some_iff.1 h
  exact dateLength_text numbered

/-- What follows a date: nothing, which is midnight, or one character and a time. -/
def readAfter? : List Char → Option (Clock × Option Int)
  | [] => some ({}, none)
  | _ :: time => readTime? time

def stampOf? (day : Nat) (time : Clock × Option Int) : Option Stamp :=
  if time.1.isValid then
    (Instant.ofMicros? (day * dayMicros + time.1.micros : Nat)).bind fun wall =>
      some ⟨wall, time.2⟩
  else none

theorem stampOf?_eq_some_iff {day : Nat} {time : Clock × Option Int} {stamp : Stamp} :
    stampOf? day time = some stamp ↔ time.1.isValid = true ∧
      Instant.ofMicros? (day * dayMicros + time.1.micros : Nat) = some stamp.wall ∧
      time.2 = stamp.offset := by
  rw [stampOf?, Option.ite_none_right_eq_some, Option.bind_eq_some_iff]
  constructor
  · rintro ⟨valid, wall, found, same⟩
    cases same
    exact ⟨valid, found, rfl⟩
  · rintro ⟨valid, found, same⟩
    exact ⟨valid, stamp.wall, found, by rw [same]⟩

theorem readStamp?_eq (s : List Char) : readStamp? s =
    (readDate? (s.take (dateLength s))).bind fun day =>
      (readAfter? (s.drop (dateLength s))).bind (stampOf? day) := by
  rw [readStamp?]
  cases s.drop (dateLength s) with
  | nil => rfl
  | cons c time => rfl

/-- A date that stands alone is read as the first instant of its day. -/
theorem readStamp?_of_readDate? {s : List Char} {n : Nat} (h : readDate? s = some n) :
    ∃ wall, wall.micros = n * dayMicros ∧ readStamp? s = some ⟨wall, none⟩ := by
  have inside : n < dayCount := by
    obtain ⟨spelling, rfl, numbered⟩ := readDate?_eq_some_iff.1 h
    exact lt_of_number? numbered
  have in_range : n * dayMicros < dayCount * dayMicros :=
    Nat.mul_lt_mul_of_pos_right inside (by decide)
  have begun : Instant.ofMicros? (n * dayMicros : Nat) = some ⟨n * dayMicros, in_range⟩ :=
    dif_pos ⟨by omega, by omega⟩
  have midnight : ({} : Clock).micros = 0 := rfl
  refine ⟨⟨n * dayMicros, in_range⟩, rfl, ?_⟩
  rw [readStamp?_eq, dateLength_of_readDate? h, List.take_length, List.drop_length, h, readAfter?,
    Option.bind_some, Option.bind_some, stampOf?, if_pos (by decide), midnight, Nat.add_zero, begun]
  rfl

end Time

namespace DaySpelling

/-- A spelling begins with a digit. -/
theorem isAsciiDigit_head (spelling : DaySpelling) :
    ∃ c rest, spelling.text = c :: rest ∧ isAsciiDigit c = true := by
  have start (year : Nat) (rest : List Char) :
      ∃ c t, Date.padded 4 year ++ rest = c :: t ∧ isAsciiDigit c = true := by
    have ⟨c, t, written, digit⟩ := Date.exists_padded 4 year
    exact ⟨c, t ++ rest, by rw [written, List.cons_append], digit⟩
  cases spelling with
  | date => exact start _ _
  | week => exact start _ _
  | weekday => exact start _ _

/-- A spelling ends in a digit. -/
theorem isAsciiDigit_last (spelling : DaySpelling) :
    ∀ c ∈ spelling.text.getLast?, isAsciiDigit c = true := by
  cases spelling with
  | date dashed d =>
    simpa [text] using Date.isAsciiDigit_last_padded (Date.padded 4 d.year ++ dash dashed ++
      Date.padded 2 d.month ++ dash dashed) 2 d.day
  | week dashed year w =>
    simpa [text] using Date.isAsciiDigit_last_padded (Date.padded 4 year ++ dash dashed ++ ['W']) 2 w
  | weekday dashed year w d =>
    simpa [text] using Date.isAsciiDigit_last_padded (Date.padded 4 year ++ dash dashed ++
      'W' :: Date.padded 2 w ++ dash dashed) 1 d

end DaySpelling

namespace Instant

/-- A closing Z, of either case, as an offset of no hours. -/
def withOffset (s : List Char) : List Char :=
  match s.reverse with
  | 'Z' :: rest | 'z' :: rest => rest.reverse ++ "+00:00".toList
  | _ => s

theorem ofText?_eq (zone : Int) (text : String) : ofText? zone text =
    (Time.readStamp? (withOffset (Text.trim text.toList))).bind (·.local? zone) := rfl

theorem withOffset_of_last {s : List Char} (h : ∀ c ∈ s.getLast?, c ≠ 'Z' ∧ c ≠ 'z') :
    withOffset s = s := by
  rw [← List.head?_reverse] at h
  unfold withOffset
  split
  · next ending => exact absurd rfl (h 'Z' (by rw [ending]; rfl)).1
  · next ending => exact absurd rfl (h 'z' (by rw [ending]; rfl)).2
  · rfl

theorem withOffset_of_digit {s : List Char} (last : ∀ c ∈ s.getLast?, isAsciiDigit c = true) :
    withOffset s = s := by
  apply withOffset_of_last
  intro c hc
  have digit := last c hc
  constructor <;> (rintro rfl; exact absurd digit (by decide))

/-- A number of microseconds is that of an instant, if there is one. -/
theorem ofMicros?_eq_some_iff {micros : Int} {i : Instant} :
    ofMicros? micros = some i ↔ (i.micros : Int) = micros := by
  have inside := i.inRange
  rw [ofMicros?]
  split
  · rw [Option.some.injEq, mk.injEq]
    omega
  · simp only [reduceCtorEq, false_iff]
    omega

theorem ofMicros?_micros (i : Instant) : ofMicros? i.micros = some i := ofMicros?_eq_some_iff.2 rfl

/-- A date that stands alone is its first instant in every zone. -/
theorem ofText?_of_readDate? (zone : Int) {text : String} {day : Nat}
    (h : Time.readDate? (Text.trim text.toList) = some day) :
    ∃ i, i.micros = day * dayMicros ∧ ofText? zone text = some i := by
  have ⟨wall, begun, read⟩ := Time.readStamp?_of_readDate? h
  have ⟨spelling, spelled, _⟩ := Time.readDate?_eq_some_iff.1 h
  have kept : withOffset (Text.trim text.toList) = Text.trim text.toList := by
    rw [← spelled]
    exact withOffset_of_digit spelling.isAsciiDigit_last
  refine ⟨wall, begun, ?_⟩
  rw [ofText?_eq, kept, read]
  rfl

end Instant

end Bookmarks
