import Bookmarks.Time.Reader
import Bookmarks.Json.Basic

/-! What values denote as local instants. A text is a date with an optional time, a closing Z
meaning universal time; a number counts seconds since 1970 in universal time. -/

namespace Bookmarks

namespace Instant

def ofText? (zone : Int) (text : String) : Option Instant := do
  let s := Text.trim text.toList
  let s := match s.reverse with
    | 'Z' :: rest | 'z' :: rest => rest.reverse ++ "+00:00".toList
    | _ => s
  (← Time.readStamp? s).local? zone

/-- Whole microseconds of a number of seconds: the fraction times a million is rounded to a double
first and then to a whole number, halves going to even both times. -/
def microsOfSeconds? : Double → Option Int
  | .nan => none
  | .ranked negative rank _ =>
    if rank < infinityRank then
      let seconds := Double.grid rank / Double.unit
      let fraction := Double.grid rank % Double.unit
      let scaled := Double.grid (Double.rankOf (fraction * 1000000) Double.unit)
      let micros : Int := (seconds * 1000000 + nearestEven scaled Double.unit : Nat)
      some (if negative then -micros else micros)
    else none

def ofJson? (zone : Int) : Json → Option Instant
  | .int i => ofEpoch? zone (i * 1000000)
  | .double d => do ofEpoch? zone (← microsOfSeconds? d)
  | .str s => ofText? zone s
  | _ => none

end Instant

/-- What a record date may be: a stamp, a day, or any value. -/
inductive DateSource where
  | stamp (stamp : Stamp)
  | day (date : Date)
  | value (value : Json)

def DateSource.instant? (zone : Int) : DateSource → Option Instant
  | stamp s => s.local? zone
  | day d => Instant.ofDate? d
  | value v => Instant.ofJson? zone v

/-- Whether a text is four digits, two and two with dashes between, digits being of any script. -/
def isDayText (text : String) : Bool :=
  match Text.trim text.toList with
  | [y₁, y₂, y₃, y₄, '-', m₁, m₂, '-', d₁, d₂] =>
    [y₁, y₂, y₃, y₄, m₁, m₂, d₁, d₂].all Text.isDigit
  | _ => false

end Bookmarks
