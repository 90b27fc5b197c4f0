import Bookmarks.Number.Double

/-! Decimal notation of doubles. A decimal `digits * 10 ^ exponent` is read as the nearest double.
A double is written with the fewest digits that are read back as it, positionally while the leading
digit stands between the fourth place after the point and the sixteenth before it. -/

namespace Bookmarks.Double

def digitCount (n : Nat) : Nat := (Nat.toDigits 10 n).length

/-- The rank of a decimal; decimals past the largest or below the smallest magnitude need no
arithmetic. -/
def decimalRank (digits : Nat) (exponent : Int) : Nat :=
  if digits = 0 then 0
  else if 310 ≤ exponent + digitCount digits then infinityRank
  else if exponent + digitCount digits ≤ -330 then 0
  else if 0 ≤ exponent then rankOf (digits * 10 ^ exponent.toNat) 1
  else rankOf digits (10 ^ (-exponent).toNat)

theorem decimalRank_le (digits : Nat) (exponent : Int) :
    decimalRank digits exponent ≤ infinityRank := by
  unfold decimalRank
  split
  · exact Nat.zero_le _
  · split
    · exact Nat.le_refl _
    · split
      · exact Nat.zero_le _
      · split <;> exact rankOf_le _ _

def ofDecimal (negative : Bool) (digits : Nat) (exponent : Int) : Double :=
  ranked negative (decimalRank digits exponent) (decimalRank_le digits exponent)

/-- The exponent `p` for which a positive magnitude lies from `10 ^ (p - 1)` to below `10 ^ p`. -/
def pointOf (rank : Nat) : Int := digitCount (grid rank * 10 ^ 400 / unit) - 400

/-- The nearer of the two multiples of `10 ^ exponent` around a magnitude, among those that are
read back as it; of two equally near ones the even one. -/
def multipleNear? (rank : Nat) (exponent : Int) : Option Nat :=
  let num := grid rank * 10 ^ (-exponent).toNat
  let den := unit * 10 ^ exponent.toNat
  let below := num / den
  let readsBack (digits : Nat) : Bool := decimalRank digits exponent == rank
  match readsBack below, readsBack (below + 1) with
  | true, true => some (nearestEven num den)
  | true, false => some below
  | false, true => some (below + 1)
  | false, false => none

/-- Tries `count` more digits than `used`, the first of which stands right behind the point moved by
`point` places. -/
def fewestDigits? (rank : Nat) (point : Int) : Nat → Nat → Option (Nat × Int)
  | _, 0 => none
  | used, count + 1 =>
    match multipleNear? rank (point - (used + 1)) with
    | some digits => some (digits, point - (used + 1))
    | none => fewestDigits? rank point (used + 1) count

/-- The shortest decimal that is read back; the exact one would do if seventeen digits did not. -/
def shortest (rank : Nat) : Nat × Int :=
  (fewestDigits? rank (pointOf rank) 0 17).getD (grid rank * 5 ^ 1074, -1074)

/-- The digits without closing zeros, and the exponent of the leading one. -/
def leadingForm (digits : Nat) (exponent : Int) : List Char × Int :=
  let all := Nat.toDigits 10 digits
  ((all.reverse.dropWhile (· == '0')).reverse, exponent + all.length - 1)

def exponentText (exponent : Int) : List Char :=
  let digits := Nat.toDigits 10 exponent.natAbs
  (if exponent < 0 then '-' else '+') :: (List.replicate (2 - digits.length) '0' ++ digits)

/-- Lays out digits whose leading one has the given exponent. -/
def layOut (digits : List Char) (exponent : Int) : List Char :=
  if -4 ≤ exponent ∧ exponent < 16 then
    if exponent < 0 then
      '0' :: '.' :: (List.replicate (-exponent - 1).toNat '0' ++ digits)
    else
      let whole := exponent.toNat + 1
      if digits.length ≤ whole then
        digits ++ List.replicate (whole - digits.length) '0' ++ ['.', '0']
      else digits.take whole ++ '.' :: digits.drop whole
  else
    match digits with
    | [] => []
    | [d] => d :: 'e' :: exponentText exponent
    | d :: rest => d :: '.' :: (rest ++ 'e' :: exponentText exponent)

def decimalText (decimal : Nat × Int) : List Char :=
  let form := leadingForm decimal.1 decimal.2
  layOut form.1 form.2

/-- The text of a finite magnitude. -/
def magnitudeText (rank : Nat) : List Char :=
  if rank = 0 then ['0', '.', '0'] else decimalText (shortest rank)

/-- The text of a number, `nanText` and `infinityText` standing for what has no digits. -/
def text (nanText infinityText : List Char) : Double → List Char
  | nan => nanText
  | ranked negative rank _ =>
    (if negative then ['-'] else []) ++
      (if rank < infinityRank then magnitudeText rank else infinityText)

end Bookmarks.Double
