import Bookmarks.Entries
import Bookmarks.Fault
import Bookmarks.Number.Double

/-! JSON values. Whole numbers and doubles are apart, and objects keep the order of their fields. A
value that comes from outside may be of any kind; the accessors here say what happens when it is
not of the kind that is needed. -/

namespace Bookmarks

inductive Json where
  | null
  | bool (b : Bool)
  | int (i : Int)
  | double (d : Double)
  | str (s : String)
  | arr (items : List Json)
  | obj (fields : List (String × Json))

namespace Json

instance : Inhabited Json := ⟨null⟩

abbrev Fields := Entries String Json

/-- Null, false, zero and whatever has no parts: such a value counts as not given. -/
def isVoid : Json → Bool
  | null => true
  | bool b => !b
  | int i => i == 0
  | double d => d.isZero
  | str s => s.isEmpty
  | arr items => items.isEmpty
  | obj fields => fields.isEmpty

def isNull : Json → Bool
  | null => true
  | _ => false

def text? : Json → Option String
  | str s => some s
  | _ => none

theorem filterMap_text? (texts : List String) : (texts.map str).filterMap text? = texts := by
  rw [List.filterMap_map]
  exact List.filterMap_some

/-- A text, or the empty one for a value of another kind. -/
def textOrEmpty (value : Json) : String := value.text?.getD ""

def ofText? (text : Option String) : Json := text.elim null str

def fields : Json → Except Fault Fields
  | obj fields => .ok fields
  | _ => .error .notObject

def text : Json → Except Fault String
  | str s => .ok s
  | _ => .error .notText

/-- The parts of a value one by one: items, keys, or characters. -/
def parts : Json → Except Fault (List Json)
  | arr items => .ok items
  | obj fields => .ok (fields.map fun field => str field.1)
  | str s => .ok (s.toList.map fun c => str (String.singleton c))
  | _ => .error .unsuitable

theorem isVoid_of_parts {value : Json} {items : List Json} (h : value.parts = .ok items) :
    value.isVoid = items.isEmpty := by
  cases value with
  | arr =>
    cases h
    rfl
  | obj =>
    cases h
    exact List.isEmpty_map.symm
  | str =>
    cases h
    rw [List.isEmpty_map, Bool.eq_iff_iff, List.isEmpty_iff, String.toList_eq_nil_iff]
    exact String.isEmpty_iff
  | _ => cases h

/-- How many parts a value has. -/
def size (value : Json) : Except Fault Nat := value.parts.map List.length

/-- Values in which more arrays and objects lie one inside the other are neither read nor written. -/
def depthLimit : Nat := 980

mutual

/-- How many arrays and objects lie one inside the other. -/
def depth : Json → Nat
  | arr items => itemsDepth items + 1
  | obj fields => fieldsDepth fields + 1
  | _ => 0

def itemsDepth : List Json → Nat
  | [] => 0
  | x :: rest => max (depth x) (itemsDepth rest)

def fieldsDepth : List (String × Json) → Nat
  | [] => 0
  | (_, value) :: rest => max (depth value) (fieldsDepth rest)

end

/-- Lists and objects cannot be members of a set or keys. -/
def isPlain : Json → Bool
  | arr _ => false
  | obj _ => false
  | _ => true

/-- The value under a key, null when there is none. -/
def Fields.at (fields : Fields) (key : String) : Json := (fields.lookup key).getD null

end Json

end Bookmarks
