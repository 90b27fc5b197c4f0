import Bookmarks.Time.Source
import Bookmarks.Verdict

/-! Conditions on the instant at which a bookmark was made: shortcuts that reach back from now,
comparisons with an instant, and closed ranges. A condition without a readable bound asks for
nothing; a bookmark without a readable date meets no condition that asks for something. -/

namespace Bookmarks

inductive Shortcut where
  | today
  | yesterday
  | thisWeek
  | thisMonth
  deriving DecidableEq

namespace Shortcut

def all : List Shortcut := [today, yesterday, thisWeek, thisMonth]

def name : Shortcut → String
  | today => "today"
  | yesterday => "yesterday"
  | thisWeek => "this-week"
  | thisMonth => "this-month"

def ofName? (name : String) : Option Shortcut := all.find? (·.name == name)

theorem ofName?_name (s : Shortcut) : ofName? s.name = some s := by cases s <;> decide

/-- The first instant of a shortcut, and the first one after it if it ends. -/
def window (now : Instant) : Shortcut → Except Fault (Instant × Option Instant)
  | today => .ok (now.startOfDay, none)
  | yesterday => match now.startOfDay.shift? (-dayMicros) with
    | some start => .ok (start, some now.startOfDay)
    | none => .error .outOfRange
  | thisWeek => match now.shift? (-(7 * dayMicros : Nat)) with
    | some start => .ok (start, none)
    | none => .error .outOfRange
  | thisMonth => .ok (now.startOfMonth, none)

end Shortcut

inductive Comparison where
  | after
  | before
  | sameDay
  deriving DecidableEq

namespace Comparison

def all : List Comparison := [after, before, sameDay]

def symbol : Comparison → Char
  | after => '>'
  | before => '<'
  | sameDay => '='

def ofSymbol? (c : Char) : Option Comparison := all.find? (·.symbol == c)

theorem ofSymbol?_symbol (c : Comparison) : ofSymbol? c.symbol = some c := by cases c <;> decide

def holds (c : Comparison) (created bound : Instant) : Bool :=
  match c with
  | after => bound.lt created
  | before => created.lt bound
  | sameDay => created.startOfDay == bound.startOfDay

end Comparison

/-- A condition as it is typed. -/
inductive DateCondition where
  | within (shortcut : Shortcut)
  | compared (comparison : Comparison) (bound : String)
  deriving DecidableEq

/-- A condition as it comes from outside: an operator and a bound of any kind. -/
structure DateFilter where
  operator : Json
  value : Json := .null

namespace DateFilter

def ofCondition : DateCondition → DateFilter
  | .within shortcut => ⟨.str shortcut.name, .null⟩
  | .compared comparison bound => ⟨.str (String.singleton comparison.symbol), .str bound⟩

def ofFields (fields : Json.Fields) : DateFilter :=
  ⟨.str (fields.at "operator").textOrEmpty, .ofText? (fields.at "value").text?⟩

def ofJson (value : Json) : Except Fault DateFilter := value.fields.map ofFields

def toJson (f : DateFilter) : Json :=
  .obj (("operator", f.operator) :: if f.value.isNull then [] else [("value", f.value)])

def shortcut? (f : DateFilter) : Option Shortcut := f.operator.text?.bind Shortcut.ofName?

def comparison? (f : DateFilter) : Option Comparison :=
  match f.operator.text?.map String.toList with
  | some [c] => Comparison.ofSymbol? c
  | _ => none

/-- Whether the window of a shortcut holds a date. -/
def inWindow (created : Option Instant) (window : Instant × Option Instant) : Bool :=
  match created with
  | none => false
  | some c => window.1.le c && window.2.all c.lt

def acceptsAt (zone : Int) (now : Instant) (f : DateFilter) (created : Option Instant) : Verdict :=
  match f.shortcut? with
  | some shortcut => (shortcut.window now).map (inWindow created)
  | none => match f.comparison? with
    | none => .ok true
    | some comparison => match Instant.ofJson? zone f.value with
      | none => .ok true
      | some bound => .ok (created.any (comparison.holds · bound))

/-- Whether a date meets the condition, `now` being taken to local time first. -/
def accepts (zone : Int) (now : Stamp) (f : DateFilter) (created : Option Instant) : Verdict :=
  match now.local? zone with
  | some now => f.acceptsAt zone now created
  | none => .error .outOfRange

end DateFilter

/-- A bound that is given. -/
def rangeBound? (zone : Int) (bound : Json) : Option Instant :=
  if bound.isVoid then none else Instant.ofJson? zone bound

/-- Whether a date lies in a closed range; an end that is a day only includes that whole day. -/
def inDateRange (zone : Int) (start stop : Json) (created : Option Instant) : Verdict :=
  match rangeBound? zone start, rangeBound? zone stop with
  | none, none => .ok true
  | lower, upper => match created with
    | none => .ok false
    | some c =>
      if lower.any c.lt then .ok false
      else match upper with
        | none => .ok true
        | some u => stop.text.map fun text =>
          if isDayText text then c.startOfDay.le u.startOfDay else c.le u

end Bookmarks
