import Bookmarks.Json.Basic
import Bookmarks.Number.Arithmetic

/-! Reckoning with JSON numbers. A truth value counts as zero or one. Comparisons are exact between
whole numbers and doubles; reckoning goes over to doubles as soon as one of them is a double. -/

namespace Bookmarks

inductive Number where
  | whole (i : Int)
  | double (d : Double)

namespace Number

def lt : Number → Number → Bool
  | whole i, whole j => decide (i < j)
  | double x, double y => x.lt y
  | whole i, double y => match y.scaled? with
    | some v => decide (i * Double.unit < v)
    | none => y == .infinity false
  | double x, whole j => match x.scaled? with
    | some v => decide (v < j * Double.unit)
    | none => x == .infinity true

def same : Number → Number → Bool
  | whole i, whole j => i == j
  | double x, double y => x.same y
  | whole i, double y | double y, whole i => y.scaled? == some (i * Double.unit)

/-- The value as a double; a whole number past the largest one has none. -/
def toDouble : Number → Except Fault Double
  | whole i => match Double.ofInt? i with
    | some d => .ok d
    | none => .error .outOfRange
  | double d => .ok d

def toJson : Number → Json
  | whole i => .int i
  | double d => .double d

def add : Number → Number → Except Fault Number
  | whole i, whole j => .ok (.whole (i + j))
  | a, b => do return .double ((← a.toDouble).add (← b.toDouble))

def sub : Number → Number → Except Fault Number
  | whole i, whole j => .ok (.whole (i - j))
  | a, b => do return .double ((← a.toDouble).sub (← b.toDouble))

/-- The quotient by a positive number; that of whole numbers is rounded once. -/
def div : Number → Number → Except Fault Double
  | whole i, whole j =>
    let quotient := Double.ofRatio (decide (i < 0)) i.natAbs j.natAbs
    if quotient.isFinite then .ok quotient else .error .outOfRange
  | a, b => do return (← a.toDouble).div (← b.toDouble)

end Number

def Json.number? : Json → Option Number
  | .bool b => some (.whole (if b then 1 else 0))
  | .int i => some (.whole i)
  | .double d => some (.double d)
  | _ => none

def Json.number (value : Json) : Except Fault Number :=
  match value.number? with
  | some n => .ok n
  | none => .error .unsuitable

end Bookmarks
