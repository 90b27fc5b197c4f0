import Bookmarks.Json.Number

/-! Equality and order of JSON values. Numbers are equal by value, objects regardless of the order
of their fields. Not a number equals nothing, but as a part of a value or a member of a set it is
one with itself. Only numbers, texts and lists of such are ordered. -/

namespace Bookmarks.Json

def isNan : Json → Bool
  | double .nan => true
  | _ => false

mutual

def same : Json → Json → Bool
  | null, null => true
  | str s, str t => s == t
  | arr xs, arr ys => sameItems xs ys
  | obj xs, obj ys => xs.length == ys.length && sameFields xs ys
  | x, y => match x.number?, y.number? with
    | some a, some b => a.same b
    | _, _ => false

def sameItems : List Json → List Json → Bool
  | [], [] => true
  | x :: xs, y :: ys => (same x y || x.isNan && y.isNan) && sameItems xs ys
  | _, _ => false

/-- Whether every field has an equal one in the other object. -/
def sameFields : List (String × Json) → List (String × Json) → Bool
  | [], _ => true
  | (key, value) :: rest, others =>
    (match others.lookup key with
      | some other => same value other || value.isNan && other.isNan
      | none => false) && sameFields rest others

end

/-- Whether two values are one as parts of a value, as members of a set or as keys. -/
def alike (x y : Json) : Bool := same x y || x.isNan && y.isNan

theorem same_str (s t : String) : same (str s) (str t) = (s == t) := by simp [same]

mutual

/-- Whether the first value is the smaller one; none for values that have no order. -/
def lt? : Json → Json → Option Bool
  | str s, str t => some (decide (s < t))
  | arr xs, arr ys => ltItems? xs ys
  | x, y => match x.number?, y.number? with
    | some a, some b => some (a.lt b)
    | _, _ => none

def ltItems? : List Json → List Json → Option Bool
  | [], ys => some (!ys.isEmpty)
  | _ :: _, [] => some false
  | x :: xs, y :: ys => if alike x y then ltItems? xs ys else lt? x y

end

/-- Whether two lists have the same members. -/
def sameMembers (xs ys : List Json) : Bool :=
  xs.all (fun x => ys.any (alike x)) && ys.all (fun y => xs.any (alike y))

end Bookmarks.Json
