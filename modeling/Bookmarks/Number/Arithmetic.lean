import Bookmarks.Number.Double

/-! Arithmetic on doubles: each operation is the exact result, rounded once. -/

namespace Bookmarks.Double

def neg : Double → Double
  | nan => nan
  | ranked negative rank h => ranked (!negative) rank h

/-- A multiple `value / den` of the smallest magnitude, with the given sign when it is zero. -/
def ofScaled (zeroSign : Bool) (value : Int) (den : Nat) : Double :=
  if value = 0 then ranked zeroSign 0 (Nat.zero_le _)
  else ofRatio (decide (value < 0)) value.natAbs (den * unit)

def add : Double → Double → Double
  | ranked s a ha, ranked t b hb =>
    match (ranked s a ha).scaled?, (ranked t b hb).scaled? with
    | some x, some y => ofScaled (s && t) (x + y) 1
    | some _, none => ranked t b hb
    | none, some _ => ranked s a ha
    | none, none => if s = t then ranked s a ha else nan
  | _, _ => nan

def sub (x y : Double) : Double := add x (neg y)

def mul : Double → Double → Double
  | ranked s a _, ranked t b _ =>
    if a < infinityRank ∧ b < infinityRank then
      ofRatio (s != t) (grid a * grid b) (unit * unit)
    else if a = 0 ∨ b = 0 then nan
    else infinity (s != t)
  | _, _ => nan

def div : Double → Double → Double
  | ranked s a _, ranked t b _ =>
    if a = infinityRank then if b = infinityRank then nan else infinity (s != t)
    else if b = infinityRank then ranked (s != t) 0 (Nat.zero_le _)
    else if b = 0 then if a = 0 then nan else infinity (s != t)
    else ofRatio (s != t) (grid a) (grid b)
  | _, _ => nan

/-- The nearest multiple of `1 / parts`, a half going to the even one. -/
def roundTo (parts : Nat) : Double → Double
  | nan => nan
  | ranked negative rank h =>
    if rank < infinityRank then ofRatio negative (nearestEven (grid rank * parts) unit) parts
    else ranked negative rank h

end Bookmarks.Double
