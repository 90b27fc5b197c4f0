import Bookmarks.Proofs.Text.Trim
import Bookmarks.Proofs.Time.Calendar
import Bookmarks.Proofs.Time.Day

/-! Instants as they are written are read as themselves, in every zone. With an offset behind them
they are times of that offset, taken to local time by way of universal time: what leaves the years 1
to 9999 on either step is not read, and texts of one instant are read alike. -/

namespace Bookmarks

open Literal (isAsciiDigit)

namespace Date

theorem length_text {d : Date} (valid : d.isValid = true) : d.text.length = 10 := by
  have ⟨year, month, day⟩ := bounds_of_isValid valid
  simp only [text, List.length_append, List.length_cons,
    length_padded (by decide) year, length_padded (by decide) month, length_padded (by decide) day]

/-- A written date begins with a digit and ends in one. -/
theorem isAsciiDigit_text (d : Date) : (∃ c rest, d.text = c :: rest ∧ isAsciiDigit c = true) ∧
    ∀ c ∈ d.text.getLast?, isAsciiDigit c = true :=
  ⟨(DaySpelling.date true d).isAsciiDigit_head, (DaySpelling.date true d).isAsciiDigit_last⟩

end Date

namespace Time

/-- Whatever follows a date, it is read up to its end. -/
theorem dateLength_date {d : Date} (valid : d.isValid = true) (rest : List Char) :
    dateLength (d.text ++ rest) = 10 := by
  have ⟨year, month, _⟩ := Date.bounds_of_isValid valid
  have ⟨a, b, month, digit, _⟩ := exists_padded_two month
  have tail := drop_year year 0
  rw [Date.text, List.append_assoc, dateLength, tail, month]
  simp [ne_of_digit digit]

theorem readDate?_date {d : Date} (valid : d.isValid = true) :
    readDate? d.text = some d.number := by
  have numbered : (DaySpelling.date true d).number? = some d.number := if_pos valid
  exact readDate?_text numbered

/-- A date, the letter T and a time are read by the reader of times. -/
theorem readStamp?_date {d : Date} (valid : d.isValid = true) (time : List Char) :
    readStamp? (d.text ++ 'T' :: time) = (readTime? time).bind (stampOf? d.number) := by
  have width := Date.length_text valid
  rw [readStamp?_eq, dateLength_date valid, List.take_left' width, List.drop_left' width,
    readDate?_date valid]
  rfl

section Continuation

variable {colons : Bool} {rest : List Char}

theorem continuation?_colon (more : rest ≠ []) :
    continuation? true (':' :: rest) = some (.next rest) := by
  cases rest with
  | nil => exact absurd rfl more
  | cons c rest => rfl

theorem continuation?_point (more : rest ≠ []) :
    continuation? colons ('.' :: rest) = some (.fraction rest) := by
  cases rest with
  | nil => exact absurd rfl more
  | cons c rest => cases colons <;> rfl

end Continuation

/-- Hours and minutes as they are written, and what follows them. -/
def hoursText (hour minute : Nat) (rest : List Char) : List Char :=
  Date.padded 2 hour ++ ':' :: (Date.padded 2 minute ++ rest)

/-- The part of a second, in six places, when it is not zero. -/
def placesText (micro : Nat) : List Char := if micro = 0 then [] else '.' :: Date.padded 6 micro

def Clock.text (clock : Clock) : List Char :=
  hoursText clock.hour clock.minute (':' :: (Date.padded 2 clock.second ++ placesText clock.micro))

theorem readFraction?_padded {micro : Nat} (small : micro < 10 ^ 6) :
    readFraction? (Date.padded 6 micro) = some (micro, false) := by
  have width := Date.length_padded (by decide) small
  have read : readDigits? 6 (Date.padded 6 micro) = some (micro, []) :=
    readDigits?_padded (by decide) small
  unfold readFraction?
  simp [width, read, isAtEnd]

/-- Hours and minutes alone are read as such. -/
theorem readClock?_hours {hour minute : Nat} (hour_small : hour < 10 ^ 2)
    (minute_small : minute < 10 ^ 2) :
    readClock? (hoursText hour minute []) = some { hour, minute } := by
  have more : Date.padded 2 minute ++ [] ≠ [] := by simp [Date.padded_ne_nil]
  simp only [readClock?, hoursText, readDigits?_append (by decide) hour_small,
    readDigits?_append (by decide) minute_small, Option.bind_eq_bind, Option.bind_some,
    List.head?_cons, beq_self_eq_true, continuation?_colon more]
  rfl

/-- A time of day as a clock shows it, with nothing left over. -/
structure Clock.IsShown (clock : Clock) : Prop where
  valid : clock.isValid = true
  micro : clock.micro < 10 ^ 6
  whole : clock.leftOver = false

/-- A time of day is read as it is written, with or without a part of a second. -/
theorem readClock?_text {clock : Clock} (shown : clock.IsShown) :
    readClock? clock.text = some clock := by
  have ⟨hour_lt, minute_lt, second_lt⟩ := of_decide_eq_true shown.valid
  have hour : clock.hour < 10 ^ 2 := by omega
  have minute : clock.minute < 10 ^ 2 := by omega
  have second : clock.second < 10 ^ 2 := by omega
  have more (n : Nat) (rest : List Char) : Date.padded 2 n ++ rest ≠ [] := by
    simp [Date.padded_ne_nil]
  simp only [readClock?, Clock.text, hoursText, readDigits?_append (by decide) hour,
    readDigits?_append (by decide) minute, readDigits?_append (by decide) second,
    Option.bind_eq_bind, Option.bind_some, List.head?_cons, beq_self_eq_true,
    continuation?_colon (more _ _)]
  obtain ⟨hour, minute, second, micro, leftOver⟩ := clock
  obtain rfl : leftOver = false := shown.whole
  -- behind the seconds comes the end of the text or a point
  unfold placesText
  split
  · next zero =>
    obtain rfl : micro = 0 := zero
    rfl
  · simp [continuation?_point (Date.padded_ne_nil _ _), withFraction?,
      readFraction?_padded shown.micro]

/-- Nothing in a written time begins an offset. -/
theorem not_isOffsetMark_of_mem_text (clock : Clock) :
    ∀ c ∈ clock.text, (!isOffsetMark c) = true := by
  have digit {width n : Nat} : ∀ c ∈ Date.padded width n, (!isOffsetMark c) = true := by
    intro c hc
    have := Literal.bounds_of_isAsciiDigit (Date.isAsciiDigit_padded _ _ c hc)
    have plain (mark : Char) (other : mark.toNat < 48 ∨ 57 < mark.toNat) : c ≠ mark := by
      rintro rfl
      omega
    simp [isOffsetMark, plain '+' (by decide), plain '-' (by decide), plain 'Z' (by decide)]
  intro c hc
  simp only [Clock.text, hoursText, placesText, List.mem_append, List.mem_cons] at hc
  obtain hc | rfl | hc | rfl | hc | hc := hc
  · exact digit c hc
  · rfl
  · exact digit c hc
  · rfl
  · exact digit c hc
  · split at hc
    · cases hc
    · obtain rfl | hc := List.mem_cons.1 hc
      · rfl
      · exact digit c hc

end Time

/-- An offset from universal time as it is written: a sign, hours and minutes, less than a day. -/
structure Offset where
  negative : Bool
  minutes : Nat
  inDay : minutes < 1440

namespace Offset

def text (o : Offset) : List Char :=
  (if o.negative then '-' else '+') :: Time.hoursText (o.minutes / 60) (o.minutes % 60) []

def micros (o : Offset) : Int :=
  if o.negative then -(o.minutes * 60000000 : Nat) else (o.minutes * 60000000 : Nat)

end Offset

namespace Time

/-- A clock reading counts as an offset when it is zero or has whole seconds. -/
theorem readOffset?_of_readClock? {negative : Bool} {s : List Char} {clock : Clock}
    (read : readClock? s = some clock) (whole : clock.leftOver = false)
    (counts : clock.micros = 0 ∨ 1000000 ≤ clock.micros) (small : clock.micros < dayMicros) :
    readOffset? negative s =
      some (if negative then -(clock.micros : Int) else (clock.micros : Int)) := by
  have size : (if clock.micros < 1000000 then 0 else clock.micros) = clock.micros := by
    split <;> omega
  rw [readOffset?, read, Option.bind_eq_bind, Option.bind_some, size]
  simp [whole, small]

theorem readOffset?_hours (o : Offset) :
    readOffset? o.negative (hoursText (o.minutes / 60) (o.minutes % 60) []) = some o.micros := by
  have inDay := o.inDay
  have size : ({ hour := o.minutes / 60, minute := o.minutes % 60 } : Clock).micros =
      o.minutes * 60000000 := by
    simp only [Clock.micros]
    omega
  have hours : o.minutes / 60 < 10 ^ 2 := by omega
  have minutes : o.minutes % 60 < 10 ^ 2 := by omega
  rw [readOffset?_of_readClock? (readClock?_hours hours minutes) rfl, size, Offset.micros]
  · omega
  · rw [size, dayMicros]
    omega

theorem readTime?_text {clock : Clock} (shown : clock.IsShown) :
    readTime? clock.text = some (clock, none) := by
  have unmarked := not_isOffsetMark_of_mem_text clock
  rw [readTime?, List.takeWhile_eq_self_iff.2 unmarked, List.dropWhile_eq_nil_iff.2 unmarked,
    readClock?_text shown]
  simp [shown.whole]

theorem readTime?_offset {clock : Clock} (shown : clock.IsShown) (o : Offset) :
    readTime? (clock.text ++ o.text) = some (clock, some o.micros) := by
  have unmarked := not_isOffsetMark_of_mem_text clock
  have marked : (!isOffsetMark (if o.negative then '-' else '+')) = false := by
    cases o.negative <;> rfl
  have read := readOffset?_hours o
  rw [readTime?, Offset.text, Text.takeWhile_append_stop marked,
    Text.dropWhile_append_stop marked, List.takeWhile_eq_self_iff.2 unmarked,
    List.dropWhile_eq_nil_iff.2 unmarked, readClock?_text shown]
  cases negative : o.negative
  all_goals
    rw [negative] at read
    exact congrArg (·.bind fun offset => some (clock, some offset)) read

end Time

namespace Instant

/-- The time of day. -/
def clock (i : Instant) : Time.Clock where
  hour := i.micros % dayMicros / 1000000 / 3600
  minute := i.micros % dayMicros / 1000000 / 60 % 60
  second := i.micros % dayMicros / 1000000 % 60
  micro := i.micros % dayMicros % 1000000

theorem text_eq (i : Instant) : i.text = i.date.text ++ 'T' :: i.clock.text := by
  simp only [text, Time.Clock.text, Time.hoursText, Time.placesText, clock, List.append_assoc,
    List.cons_append]
  rfl

theorem isShown_clock (i : Instant) : i.clock.IsShown where
  valid := by
    apply decide_eq_true
    simp only [clock, dayMicros]
    omega
  micro := Nat.mod_lt _ (by decide)
  whole := rfl

theorem dayNumber_lt (i : Instant) : i.dayNumber < dayCount :=
  Nat.div_lt_of_lt_mul (Nat.mul_comm _ _ ▸ i.inRange)

theorem isValid_date (i : Instant) : i.date.isValid = true :=
  Date.isValid_ofNumber i.dayNumber_lt

theorem micros_clock (i : Instant) : i.clock.micros = i.micros % dayMicros := by
  simp only [Time.Clock.micros, clock]
  omega

/-- The date and the time of day make up the instant. -/
theorem stampOf?_clock (i : Instant) (offset : Option Int) :
    Time.stampOf? i.date.number (i.clock, offset) = some ⟨i, offset⟩ := by
  have parts : i.date.number * dayMicros + i.clock.micros = i.micros := by
    rw [date, Date.number_ofNumber, micros_clock]
    exact Nat.div_add_mod' _ _
  rw [Time.stampOf?_eq_some_iff, parts]
  exact ⟨i.isShown_clock.valid, i.ofMicros?_micros, rfl⟩

theorem readStamp?_text (i : Instant) : Time.readStamp? i.text = some ⟨i, none⟩ := by
  rw [text_eq, Time.readStamp?_date i.isValid_date,
    Time.readTime?_text i.isShown_clock, Option.bind_some, stampOf?_clock]

theorem readStamp?_offset (i : Instant) (o : Offset) :
    Time.readStamp? (i.text ++ o.text) = some ⟨i, some o.micros⟩ := by
  rw [text_eq, List.append_assoc, List.cons_append, Time.readStamp?_date i.isValid_date,
    Time.readTime?_offset i.isShown_clock, Option.bind_some, stampOf?_clock]

theorem trim_of_digits {s : List Char} (first : ∃ c rest, s = c :: rest ∧ isAsciiDigit c = true)
    (last : ∀ c ∈ s.getLast?, isAsciiDigit c = true) : Text.trim s = s := by
  apply Text.trim_eq_self
  · obtain ⟨c, rest, rfl, digit⟩ := first
    simpa using Literal.isBlank_of_isAsciiDigit digit
  · exact fun c hc => Literal.isBlank_of_isAsciiDigit (last c hc)

/-- A text that begins and ends with a digit is read as it stands. -/
theorem ofText?_of_digits (zone : Int) {s : List Char}
    (first : ∃ c rest, s = c :: rest ∧ isAsciiDigit c = true)
    (last : ∀ c ∈ s.getLast?, isAsciiDigit c = true) :
    ofText? zone (String.ofList s) = (Time.readStamp? s).bind (·.local? zone) := by
  rw [ofText?_eq, String.toList_ofList, trim_of_digits first last, withOffset_of_digit last]

/-- A day as it is written is read as its first instant. -/
theorem ofText?_day (zone : Int) {n : Nat} (inside : n < dayCount) :
    ∃ i, i.micros = n * dayMicros ∧
      ofText? zone (String.ofList (Date.ofNumber n).text) = some i := by
  have read := Time.readDate?_date (Date.isValid_ofNumber inside)
  have ⟨first, last⟩ := (Date.ofNumber n).isAsciiDigit_text
  rw [Date.number_ofNumber] at read
  apply ofText?_of_readDate?
  rw [String.toList_ofList, trim_of_digits first last, read]

theorem isAsciiDigit_head_text (i : Instant) (rest : List Char) :
    ∃ c more, i.text ++ rest = c :: more ∧ isAsciiDigit c = true := by
  have ⟨c, more, written, digit⟩ := i.date.isAsciiDigit_text.1
  exact ⟨c, _, by rw [text_eq, written, List.cons_append, List.cons_append], digit⟩

theorem isAsciiDigit_last_text (i : Instant) : ∀ c ∈ i.text.getLast?, isAsciiDigit c = true := by
  rw [text_eq]
  unfold Time.Clock.text Time.hoursText Time.placesText
  split
  · simpa using Date.isAsciiDigit_last_padded (i.date.text ++ 'T' :: (Date.padded 2 i.clock.hour ++
      ':' :: (Date.padded 2 i.clock.minute ++ [':']))) 2 i.clock.second
  · simpa using Date.isAsciiDigit_last_padded (i.date.text ++ 'T' :: (Date.padded 2 i.clock.hour ++
      ':' :: (Date.padded 2 i.clock.minute ++ ':' :: (Date.padded 2 i.clock.second ++ ['.']))))
      6 i.clock.micro

theorem isAsciiDigit_last_offset (i : Instant) (o : Offset) :
    ∀ c ∈ (i.text ++ o.text).getLast?, isAsciiDigit c = true := by
  simpa [Offset.text, Time.hoursText] using Date.isAsciiDigit_last_padded (i.text ++
    (if o.negative then '-' else '+') :: (Date.padded 2 (o.minutes / 60) ++ [':']))
    2 (o.minutes % 60)

theorem ofText?_text (zone : Int) (i : Instant) : ofText? zone (String.ofList i.text) = some i := by
  have first := i.isAsciiDigit_head_text []
  rw [List.append_nil] at first
  rw [ofText?_of_digits zone first i.isAsciiDigit_last_text, readStamp?_text]
  rfl

/-- An instant with an offset is taken to universal time first. -/
theorem ofText?_offset (zone : Int) (i : Instant) (o : Offset) :
    ofText? zone (String.ofList (i.text ++ o.text)) =
      (ofMicros? (i.micros - o.micros)).bind fun utc => ofMicros? (utc.micros + zone) := by
  rw [ofText?_of_digits zone (i.isAsciiDigit_head_text _) (i.isAsciiDigit_last_offset o),
    readStamp?_offset, Int.sub_eq_add_neg]
  rfl

/-- Whether a number of microseconds from the start of year 1 lies in the years 1 to 9999. -/
def IsInRange (micros : Int) : Prop := 0 ≤ micros ∧ micros < (dayCount * dayMicros : Nat)

instance (micros : Int) : Decidable (IsInRange micros) := inferInstanceAs (Decidable (_ ∧ _))

def ofInRange (micros : Int) (inside : IsInRange micros) : Instant where
  micros := micros.toNat
  inRange := by
    have ⟨_, before⟩ := inside
    omega

theorem ofMicros?_eq (micros : Int) :
    ofMicros? micros = if inside : IsInRange micros then some (ofInRange micros inside) else none :=
  rfl

theorem micros_ofInRange {micros : Int} (inside : IsInRange micros) :
    ((ofInRange micros inside).micros : Int) = micros := Int.toNat_of_nonneg inside.1

/-- Where texts of an instant with an offset are taken, told by its universal time. -/
theorem ofText?_offset_eq (zone : Int) (i : Instant) (o : Offset) :
    ofText? zone (String.ofList (i.text ++ o.text)) =
      if inside : IsInRange (i.micros - o.micros) ∧ IsInRange (i.micros - o.micros + zone) then
        some (ofInRange _ inside.2)
      else none := by
  rw [ofText?_offset, ofMicros?_eq]
  split
  · next universal =>
    rw [Option.bind_some, micros_ofInRange universal, ofMicros?_eq]
    split
    · next here => rw [dif_pos ⟨universal, here⟩]
    · next away => rw [dif_neg fun both => away both.2]
  · next outside => rw [dif_neg fun both => outside both.1, Option.bind_none]

/-- What an instant and an offset, as they are written, are read as: the instant alone is itself in
every zone, and with an offset it is taken to universal time and from there to local time. -/
theorem ofText?_written (zone : Int) (i : Instant) :
    ofText? zone (String.ofList i.text) = some i ∧
    (∀ o : Offset, ofText? zone (String.ofList (i.text ++ o.text)) =
      if inside : IsInRange (i.micros - o.micros) ∧ IsInRange (i.micros - o.micros + zone) then
        some (ofInRange _ inside.2)
      else none) ∧
    ∀ (j : Instant) (o p : Offset), (i.micros : Int) - o.micros = j.micros - p.micros →
      ofText? zone (String.ofList (i.text ++ o.text)) =
        ofText? zone (String.ofList (j.text ++ p.text)) := by
  refine ⟨ofText?_text zone i, ofText?_offset_eq zone i, fun j o p same => ?_⟩
  rw [ofText?_offset, ofText?_offset, same]

/-- Half past eleven at night five and a half hours ahead of universal time, which is one in the
afternoon five hours behind it. -/
theorem ofText?_written_leap_day :
    let night : Instant := ⟨738944 * dayMicros + 84600500000, by decide⟩
    let afternoon : Instant := ⟨738944 * dayMicros + 46800500000, by decide⟩
    let east : Offset := ⟨false, 330, by decide⟩
    let west : Offset := ⟨true, 300, by decide⟩
    (night.micros : Int) - east.micros = afternoon.micros - west.micros ∧
    ofText? 3600000000 (String.ofList (night.text ++ east.text)) =
      ofText? 3600000000 (String.ofList (afternoon.text ++ west.text)) := by
  intro night afternoon east west
  have same : (night.micros : Int) - east.micros = afternoon.micros - west.micros := by decide
  exact ⟨same, (ofText?_written 3600000000 night).2.2 afternoon east west same⟩

example : ofText? 3600000000 "0001-01-01T00:30:00+00:31" = none := by decide +kernel

end Instant

end Bookmarks
