import Bookmarks.Text.Blank
import Bookmarks.Text.Class
import Bookmarks.Number.Decimal

/-! Numbers typed by people: blanks around, digits of any script, single underscores between
digits. Whole numbers have at most `digitLimit` digits; decimals may also spell infinity and not a
number. -/

namespace Bookmarks

/-- Whole numbers with more decimal digits are neither read nor written. -/
def digitLimit : Nat := 4300

namespace Literal

/-- Blanks that may stand around a number: all but the four separators of records and fields. -/
def isMargin (c : Char) : Bool :=
  Text.isBlank c && !(decide (0x1C ≤ c.toNat) && decide (c.toNat ≤ 0x1F))

/-- The text inside its margins, digits of any script written as `0` to `9`. -/
def plain (s : List Char) : List Char :=
  ((s.dropWhile isMargin).reverse.dropWhile isMargin).reverse.map fun c =>
    match Text.digitValue? c with
    | some d => Char.ofNat (48 + d)
    | none => c

def isAsciiDigit (c : Char) : Bool := (Text.asciiDigit? c).isSome

/-- Removes single underscores that have a digit on both sides; any other one spoils the text.
`afterDigit` tells whether a digit came just before. -/
def joinDigits? : Bool → List Char → Option (List Char)
  | _, [] => some []
  | _, ['_'] => none
  | afterDigit, '_' :: c :: cs =>
    if afterDigit && isAsciiDigit c then (joinDigits? true cs).map (c :: ·) else none
  | _, c :: cs => (joinDigits? (isAsciiDigit c) cs).map (c :: ·)

/-- The value of a run of digits. -/
def natOf (digits : List Char) : Nat :=
  digits.foldl (fun n c => 10 * n + (c.toNat - 48)) 0

/-- A leading sign, and the rest. -/
def splitSign : List Char → Bool × List Char
  | '-' :: cs => (true, cs)
  | '+' :: cs => (false, cs)
  | cs => (false, cs)

/-- A whole number. -/
def int? (s : List Char) : Option Int := do
  let (negative, body) := splitSign (← joinDigits? false (plain s))
  if body.isEmpty || !body.all isAsciiDigit || decide (digitLimit < body.length) then none
  else if negative then some (-(natOf body : Int)) else some (natOf body)

/-- The digits of an exponent with its sign, up to the end. -/
def exponent? (s : List Char) : Option Int :=
  let (negative, body) := splitSign s
  if body.isEmpty || !body.all isAsciiDigit then none
  else if negative then some (-(natOf body : Int)) else some (natOf body)

/-- Digits with an optional point and an optional exponent, up to the end. -/
def decimal? (negative : Bool) (s : List Char) : Option Double := do
  let whole := s.takeWhile isAsciiDigit
  let rest := s.dropWhile isAsciiDigit
  let (places, rest) := match rest with
    | '.' :: cs => (cs.takeWhile isAsciiDigit, cs.dropWhile isAsciiDigit)
    | cs => ([], cs)
  if whole.isEmpty && places.isEmpty then none
  let exponent ← match rest with
    | [] => some 0
    | c :: cs => if c = 'e' ∨ c = 'E' then exponent? cs else none
  return .ofDecimal negative (natOf (whole ++ places)) (exponent - places.length)

/-- A decimal, or a name of infinity or of not a number in any case. -/
def double? (s : List Char) : Option Double := do
  let (negative, body) := splitSign (← joinDigits? false (plain s))
  let name := String.ofList (body.map Char.toLower)
  if name = "inf" ∨ name = "infinity" then some (.infinity negative)
  else if name = "nan" then some .nan
  else decimal? negative body

end Literal

end Bookmarks
