import Bookmarks.Proofs.Text.Trim
import Bookmarks.Proofs.Time.Day

/-! What a closing Z does to a text that denotes a date and a time. It is read as an offset of no
hours, so that the time is universal time; but behind a date without a time that offset is taken for
the time, and the day begins at local midnight as it does without the Z. -/

namespace Bookmarks

open Literal (isAsciiDigit)

namespace Time

/-- The offset that a closing Z stands for. -/
def offsetText : List Char := "+00:00".toList

theorem offsetText_eq : offsetText = ['+', '0', '0', ':', '0', '0'] := rfl

/-- The length of a date that begins with a year, a dash and a week, by what follows the week. -/
def dashedWeekLength : List Char → Nat
  | '-' :: _ :: c :: _ => if isAsciiDigit c then 8 else 10
  | '-' :: _ => 10
  | _ => 8

/-- The length of a date that begins with a year and a week, by what follows the week. -/
def plainWeekLength (rest : List Char) : Nat :=
  let digits := (rest.takeWhile isAsciiDigit).length
  if digits < 2 then 7 + digits else if digits % 2 = 1 then 7 else 8

/-- The length of a date by what follows its year. -/
def lengthAfterYear : List Char → Nat
  | '-' :: 'W' :: rest => dashedWeekLength (rest.drop 2)
  | '-' :: _ => 10
  | 'W' :: rest => plainWeekLength (rest.drop 2)
  | _ => 8

theorem dateLength_eq (s : List Char) : dateLength s = lengthAfterYear (s.drop 4) := by
  have behind (k : Nat) : s.drop (4 + k) = (s.drop 4).drop k := List.drop_drop.symm
  unfold dateLength
  rw [behind 4, behind 3]
  generalize s.drop 4 = rest
  split
  · rfl
  · next not_week => exact (lengthAfterYear.eq_2 _ not_week).symm
  · rfl
  · next not_dashed_week not_dash not_week =>
    exact (lengthAfterYear.eq_4 _ not_dashed_week not_dash not_week).symm

theorem dashedWeekLength_append {rest : List Char}
    (whole : dashedWeekLength rest ≤ 8 + rest.length) :
    dashedWeekLength (rest ++ offsetText) = dashedWeekLength rest := by
  match rest with
  | [] => rfl
  | c :: rest =>
    by_cases dash : c = '-'
    · subst dash
      match rest with
      | [] => exact absurd whole (by decide)
      | [_] => rfl
      | _ :: _ :: _ => rfl
    · simp [dashedWeekLength, dash]

theorem plainWeekLength_append (rest : List Char) :
    plainWeekLength (rest ++ offsetText) = plainWeekLength rest := by
  rw [plainWeekLength, offsetText_eq, Text.takeWhile_append_stop (by decide), plainWeekLength]

theorem le_dashedWeekLength (rest : List Char) : 8 ≤ dashedWeekLength rest := by
  unfold dashedWeekLength
  split <;> (try split) <;> omega

theorem le_plainWeekLength (rest : List Char) : 7 ≤ plainWeekLength rest := by
  unfold plainWeekLength
  dsimp only
  split <;> (try split) <;> omega

theorem le_lengthAfterYear (rest : List Char) : 7 ≤ lengthAfterYear rest := by
  unfold lengthAfterYear
  split
  · exact Nat.le_trans (by decide) (le_dashedWeekLength _)
  · decide
  · exact le_plainWeekLength _
  · decide

theorem lengthAfterYear_append {rest : List Char}
    (whole : lengthAfterYear rest ≤ 4 + rest.length) :
    lengthAfterYear (rest ++ offsetText) = lengthAfterYear rest := by
  have behind {week : List Char} (fits : 2 ≤ week.length) :
      (week ++ offsetText).drop 2 = week.drop 2 ++ offsetText := List.drop_append_of_le_length fits
  match rest with
  | [] => exact absurd whole (by decide)
  | c :: rest =>
    by_cases dash : c = '-'
    · subst dash
      match rest with
      | [] => exact absurd whole (by decide)
      | d :: rest =>
        by_cases week : d = 'W'
        · subst week
          have long := le_dashedWeekLength (rest.drop 2)
          have whole : dashedWeekLength (rest.drop 2) ≤ 4 + (rest.length + 2) := whole
          show dashedWeekLength ((rest ++ offsetText).drop 2) = dashedWeekLength (rest.drop 2)
          rw [behind (by omega), dashedWeekLength_append]
          rw [List.length_drop]
          omega
        · simp [lengthAfterYear, week]
    · by_cases week : c = 'W'
      · subst week
        have long := le_plainWeekLength (rest.drop 2)
        have whole : plainWeekLength (rest.drop 2) ≤ 4 + (rest.length + 1) := whole
        show plainWeekLength ((rest ++ offsetText).drop 2) = plainWeekLength (rest.drop 2)
        rw [behind (by omega), plainWeekLength_append]
      · simp [lengthAfterYear, dash, week]

/-- An offset behind a text does not change where the date in it ends. -/
theorem dateLength_append {s : List Char} (whole : dateLength s ≤ s.length) :
    dateLength (s ++ offsetText) = dateLength s := by
  rw [dateLength_eq] at whole
  have least := le_lengthAfterYear (s.drop 4)
  have long : 4 ≤ s.length := by omega
  rw [dateLength_eq, dateLength_eq, List.drop_append_of_le_length long, lengthAfterYear_append]
  rw [List.length_drop]
  omega

/-- A time that is read without an offset is read with one behind it. -/
theorem readTime?_append {s : List Char} {clock : Clock} (h : readTime? s = some (clock, none)) :
    readTime? (s ++ offsetText) = some (clock, some 0) := by
  have ⟨unmarked, read⟩ : s.dropWhile (!isOffsetMark ·) = [] ∧
      readClock? (s.takeWhile (!isOffsetMark ·)) = some clock := by
    simp only [readTime?, Option.bind_eq_bind, Option.bind_eq_some_iff] at h
    obtain ⟨found, read, h⟩ := h
    split at h
    · next ended =>
      split at h
      · cases h
      · cases h
        exact ⟨ended, read⟩
    · split at h <;> cases h
    · obtain ⟨offset, _, h⟩ := Option.bind_eq_some_iff.1 h
      cases h
  have no_hours : readOffset? false ['0', '0', ':', '0', '0'] = some 0 := by decide
  rw [readTime?, offsetText_eq, Text.dropWhile_append_stop (by decide), unmarked, List.nil_append,
    Text.takeWhile_append_stop (by decide), read]
  simp only [Option.bind_eq_bind, Option.bind_some]
  split
  · next none => cases none
  · next universal => cases universal
  · next mark hours _ signed =>
    obtain ⟨rfl, rfl⟩ := List.cons.inj signed
    exact congrArg (·.bind fun offset => some (clock, some offset)) no_hours

theorem dateLength_le_of_readDate? {s : List Char} {n : Nat}
    (h : readDate? (s.take (dateLength s)) = some n) : dateLength s ≤ s.length := by
  by_contra short
  have all : s.take (dateLength s) = s := List.take_of_length_le (by omega)
  rw [all] at h
  have := dateLength_of_readDate? h
  omega

/-- A text that is read as a local date and time is read as one in universal time with the offset
behind it, unless it is a date alone. -/
theorem readStamp?_append {s : List Char} {wall : Instant}
    (h : readStamp? s = some ⟨wall, none⟩) :
    readStamp? (s ++ offsetText) =
      some ⟨wall, if (readDate? s).isSome then none else some 0⟩ := by
  rw [readStamp?_eq, Option.bind_eq_some_iff] at h
  obtain ⟨day, date, h⟩ := h
  obtain ⟨⟨clock, offset⟩, after, stamp⟩ := Option.bind_eq_some_iff.1 h
  obtain ⟨valid, begun, rfl⟩ := stampOf?_eq_some_iff.1 stamp
  have whole := dateLength_le_of_readDate? date
  rw [readStamp?_eq, dateLength_append whole, List.take_append_of_le_length whole,
    List.drop_append_of_le_length whole, date, Option.bind_some]
  cases rest : s.drop (dateLength s) with
  | nil =>
    -- the offset stands where a time would, its sign being the one character before it
    have alone : s.take (dateLength s) = s := by
      have parted := List.take_append_drop (dateLength s) s
      rwa [rest, List.append_nil] at parted
    rw [alone] at date
    rw [rest] at after
    have midnight : readAfter? ([] ++ offsetText) = readAfter? [] := by rfl
    rw [midnight, after, date, Option.bind_some]
    exact stamp
  | cons c time =>
    have dated : readDate? s = none := by
      by_contra some_date
      obtain ⟨n, denoted⟩ := Option.ne_none_iff_exists'.1 some_date
      rw [dateLength_of_readDate? denoted, List.drop_length] at rest
      cases rest
    rw [rest] at after
    have later : readAfter? (c :: time ++ offsetText) = some (clock, some 0) :=
      readTime?_append after
    rw [later, dated, Option.bind_some, stampOf?_eq_some_iff]
    exact ⟨valid, begun, rfl⟩

/-- A text that is read begins with a digit. -/
theorem isAsciiDigit_of_readStamp? {s : List Char} {stamp : Stamp} (h : readStamp? s = some stamp) :
    ∃ c rest, s = c :: rest ∧ isAsciiDigit c = true := by
  rw [readStamp?_eq, Option.bind_eq_some_iff] at h
  obtain ⟨day, date, _⟩ := h
  have ⟨spelling, spelled, _⟩ := readDate?_eq_some_iff.1 date
  have ⟨c, rest, begun, digit⟩ := spelling.isAsciiDigit_head
  have parted := List.take_append_drop (dateLength s) s
  rw [← spelled, begun] at parted
  exact ⟨c, _, parted.symm, digit⟩

end Time

namespace Instant

theorem shift?_zero (i : Instant) : i.shift? 0 = some i := by
  rw [shift?, Int.add_zero, ofMicros?_micros]

variable {s : String} {wall : Instant} {mark : Char}

/-- A closing Z is rewritten as an offset, whatever is in front of it. -/
theorem withOffset_append (s : List Char) (universal : mark = 'Z' ∨ mark = 'z') :
    withOffset (s ++ [mark]) = s ++ Time.offsetText := by
  have ending : (s ++ [mark]).reverse = mark :: s.reverse := List.reverse_concat
  rw [withOffset, ending]
  have front : s.reverse.reverse ++ Time.offsetText = s ++ Time.offsetText := by
    rw [List.reverse_reverse]
  obtain rfl | rfl := universal
  · exact front
  · exact front

theorem trim_push (read : Time.readStamp? s.toList = some ⟨wall, none⟩)
    (universal : mark = 'Z' ∨ mark = 'z') :
    Text.trim (s.push mark).toList = s.toList ++ [mark] := by
  have ⟨c, rest, begun, digit⟩ := Time.isAsciiDigit_of_readStamp? read
  have visible : Text.isBlank mark = false := by
    obtain rfl | rfl := universal <;> decide
  rw [String.toList_push]
  apply Text.trim_eq_self
  · simpa [begun] using Literal.isBlank_of_isAsciiDigit digit
  · simpa using visible

/-- What a closing Z means: behind a time universal time, behind a date alone nothing. -/
theorem ofText?_push (read : Time.readStamp? s.toList = some ⟨wall, none⟩)
    (universal : mark = 'Z' ∨ mark = 'z') (zone : Int) :
    ofText? zone (s.push mark) =
      if (Time.readDate? s.toList).isSome then some wall else wall.shift? zone := by
  rw [ofText?_eq, trim_push read universal, withOffset_append _ universal,
    Time.readStamp?_append read, Option.bind_some]
  split
  · rfl
  · show ((wall.shift? (-0)).bind fun i => i.shift? zone) = wall.shift? zone
    rw [Int.neg_zero, shift?_zero, Option.bind_some]

/-- The last half hour there is, in a zone an hour ahead. -/
theorem ofText?_push_last_day :
    let wall : Instant := ⟨(3652058 * 24 * 60 + 1410) * 60000000, by decide⟩
    Time.readStamp? "9999-12-31 23:30".toList = some ⟨wall, none⟩ ∧
    ('z' = 'Z' ∨ 'z' = 'z') ∧
    ofText? 3600000000 ("9999-12-31 23:30".push 'z') =
      if (Time.readDate? "9999-12-31 23:30".toList).isSome then some wall
      else wall.shift? 3600000000 := by
  intro wall
  have read : Time.readStamp? "9999-12-31 23:30".toList = some ⟨wall, none⟩ := by decide +kernel
  exact ⟨read, .inr rfl, ofText?_push read (.inr rfl) 3600000000⟩

example : ofText? 3600000000 "9999-12-31 23:30z" = none := by decide +kernel

/-- Midnight in universal time is not an hour later in a zone an hour ahead. -/
theorem not_ofText?_push :
    ¬∀ (s : String) (wall : Instant) (mark : Char) (zone : Int),
      Time.readStamp? s.toList = some ⟨wall, none⟩ → mark = 'Z' ∨ mark = 'z' →
      ofText? zone (s.push mark) = wall.shift? zone := by
  intro universal
  let midnight : Instant := ⟨738899 * dayMicros, by decide⟩
  have shifted := universal "2024-01-15" midnight 'Z' 3600000000 (by decide +kernel) (.inl rfl)
  exact absurd shifted (by decide +kernel)
end Instant

end Bookmarks
