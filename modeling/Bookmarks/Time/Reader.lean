import Bookmarks.Time.Instant
import Bookmarks.Number.Literal

/-! Reading a date with an optional time and offset. The date is a calendar date or a week with an
optional weekday, with dashes or without; one character of any kind parts it from the time. A time
has two digits for each part, with colons or without, and may end in a decimal fraction of which six
places count; its offset begins with a sign or is the letter Z alone. -/

namespace Bookmarks.Time

/-- The value of exactly `count` digits, and what follows them. -/
def readDigits? (count : Nat) (s : List Char) : Option (Nat × List Char) :=
  let digits := s.take count
  if digits.length = count ∧ digits.all Literal.isAsciiDigit then
    some (Literal.natOf digits, s.drop count)
  else none

/-- The length of the date at the start of a text, told by its fifth and sixth character. After a
week a dash begins a weekday, unless two digits of an hour follow it. -/
def dateLength (s : List Char) : Nat :=
  match s.drop 4 with
  | '-' :: 'W' :: _ =>
    match s.drop 8 with
    | '-' :: _ :: c :: _ => if Literal.isAsciiDigit c then 8 else 10
    | '-' :: _ => 10
    | _ => 8
  | '-' :: _ => 10
  | 'W' :: _ =>
    let digits := ((s.drop 7).takeWhile Literal.isAsciiDigit).length
    if digits < 2 then 7 + digits else if digits % 2 = 1 then 7 else 8
  | _ => 8

/-- A dash, when the date is written with dashes. -/
def readDash? (dashed : Bool) (s : List Char) : Option (List Char) :=
  if dashed then
    match s with
    | '-' :: rest => some rest
    | _ => none
  else some s

/-- The number of the day that a whole text denotes. -/
def readDate? (s : List Char) : Option Nat := do
  let (year, s) ← readDigits? 4 s
  let dashed := s.head? == some '-'
  match if dashed then s.tail else s with
  | 'W' :: s =>
    let (week, s) ← readDigits? 2 s
    if s.isEmpty then Date.numberOfWeek? year week 1
    else
      let (weekday, s) ← readDigits? 1 (← readDash? dashed s)
      if s.isEmpty then Date.numberOfWeek? year week weekday else none
  | s =>
    let (month, s) ← readDigits? 2 s
    let (day, s) ← readDigits? 2 (← readDash? dashed s)
    let date : Date := ⟨year, month, day⟩
    if s.isEmpty && date.isValid then some date.number else none

/-- Hours, minutes, seconds and microseconds as written, and whether anything was left over. -/
structure Clock where
  hour : Nat := 0
  minute : Nat := 0
  second : Nat := 0
  micro : Nat := 0
  leftOver : Bool := false

/-- A NUL counts as the end of a text. -/
def isAtEnd : List Char → Bool
  | [] => true
  | c :: _ => c.toNat == 0

/-- The microseconds of a fraction that is not empty. -/
def readFraction? (s : List Char) : Option (Nat × Bool) := do
  let count := min 6 s.length
  let (value, rest) ← readDigits? count s
  return (value * 10 ^ (6 - count), !isAtEnd (rest.dropWhile Literal.isAsciiDigit))

/-- What follows a part of the time. -/
inductive Continuation where
  | done (leftOver : Bool)
  | next (rest : List Char)
  | fraction (rest : List Char)

/-- After a part comes the end, one more ASCII character that is left over, the next part, or a
fraction. With colons each next part has one; without, it follows at once. -/
def continuation? (colons : Bool) : List Char → Option Continuation
  | [] => some (.done false)
  | [c] => if c.toNat < 128 then some (.done (!isAtEnd [c])) else none
  | c :: rest =>
    if colons && c == ':' then some (.next rest)
    else if c = '.' ∨ c = ',' then some (.fraction rest)
    else if colons then none
    else some (.next (c :: rest))

def withFraction? (clock : Clock) (s : List Char) : Option Clock := do
  let (micro, leftOver) ← readFraction? s
  return { clock with micro, leftOver }

/-- A time of day. What follows the seconds without a point counts as a fraction too. -/
def readClock? (s : List Char) : Option Clock := do
  let (hour, s) ← readDigits? 2 s
  let colons := s.head? == some ':'
  match ← continuation? colons s with
  | .done leftOver => return { hour, leftOver }
  | .fraction s => withFraction? { hour } s
  | .next s =>
    let (minute, s) ← readDigits? 2 s
    match ← continuation? colons s with
    | .done leftOver => return { hour, minute, leftOver }
    | .fraction s => withFraction? { hour, minute } s
    | .next s =>
      let (second, s) ← readDigits? 2 s
      match ← continuation? colons s with
      | .done leftOver => return { hour, minute, second, leftOver }
      | .fraction s | .next s => withFraction? { hour, minute, second } s

def Clock.micros (clock : Clock) : Nat :=
  ((clock.hour * 60 + clock.minute) * 60 + clock.second) * 1000000 + clock.micro

def Clock.isValid (clock : Clock) : Bool :=
  decide (clock.hour < 24 ∧ clock.minute < 60 ∧ clock.second < 60)

/-- An offset after its sign, less than a day. One without whole seconds is none at all. -/
def readOffset? (negative : Bool) (s : List Char) : Option Int := do
  let clock ← readClock? s
  if clock.leftOver then none
  let size := if clock.micros < 1000000 then 0 else clock.micros
  if size < dayMicros then some (if negative then -(size : Int) else size) else none

def isOffsetMark (c : Char) : Bool := c == '+' || c == '-' || c == 'Z'

/-- A time and its offset. Something left over is overlooked in front of an offset. -/
def readTime? (s : List Char) : Option (Clock × Option Int) := do
  let clock ← readClock? (s.takeWhile (!isOffsetMark ·))
  match s.dropWhile (!isOffsetMark ·) with
  | [] => if clock.leftOver then none else some (clock, none)
  | 'Z' :: rest => if isAtEnd rest then some (clock, some 0) else none
  | mark :: rest => return (clock, some (← readOffset? (mark == '-') rest))

/-- A date alone, or a date and a time with one character between them. -/
def readStamp? (s : List Char) : Option Stamp := do
  let length := dateLength s
  let day ← readDate? (s.take length)
  let (clock, offset) ← match s.drop length with
    | [] => some ({}, none)
    | _ :: time => readTime? time
  if clock.isValid then
    let wall ← Instant.ofMicros? (day * dayMicros + clock.micros : Nat)
    return { wall, offset }
  else none

end Bookmarks.Time
