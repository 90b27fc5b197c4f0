import Bookmarks.Json.Basic
import Bookmarks.Number.Literal

/-! Reading JSON text. Beside the standard form, the names of not a number and of the infinities are
read; of fields with one key the last counts, in the place of the first. A whole number with too
many digits stops the reading, and so does an array or object inside too many others. -/

namespace Bookmarks.Json

/-- Why a text is no JSON value. -/
inductive Damage where
  | malformed
  | longNumber
  | tooDeep
  deriving DecidableEq

/-- How much is read: the digits of a whole number, and the arrays and objects that lie one inside
the other. -/
structure Limits where
  digits : Nat
  depth : Nat

/-- The limits within the array or object that begins here. -/
def Limits.inside (limits : Limits) : Except Damage Limits :=
  if limits.depth = 0 then .error .tooDeep else .ok { limits with depth := limits.depth - 1 }

/-- The limits for texts from a backend. -/
def Limits.standard : Limits := ⟨digitLimit, depthLimit⟩

def isSpace (c : Char) : Bool := c == ' ' || c == '\t' || c == '\n' || c == '\r'

def skipSpace (s : List Char) : List Char := s.dropWhile isSpace

def hexValue? (c : Char) : Option Nat :=
  if '0' ≤ c ∧ c ≤ '9' then some (c.toNat - 48)
  else if 'a' ≤ c ∧ c ≤ 'f' then some (c.toNat - 87)
  else if 'A' ≤ c ∧ c ≤ 'F' then some (c.toNat - 55)
  else none

def hexValue4? (a b c d : Char) : Option Nat := do
  return (((← hexValue? a) * 16 + (← hexValue? b)) * 16 + (← hexValue? c)) * 16 + (← hexValue? d)

/-- What the letter after a backslash stands for. -/
def unescape? (c : Char) : Option Nat :=
  match c with
  | '"' => some 34
  | '\\' => some 92
  | '/' => some 47
  | 'b' => some 8
  | 'f' => some 12
  | 'n' => some 10
  | 'r' => some 13
  | 't' => some 9
  | _ => none

/-- The code units of a quoted text after its opening quote, and what follows the closing one. -/
def readUnits : List Char → Option (List Nat × List Char)
  | [] => none
  | '"' :: rest => some ([], rest)
  | '\\' :: 'u' :: a :: b :: c :: d :: rest => do
    let unit ← hexValue4? a b c d
    let (units, rest) ← readUnits rest
    return (unit :: units, rest)
  | '\\' :: c :: rest => do
    let unit ← unescape? c
    let (units, rest) ← readUnits rest
    return (unit :: units, rest)
  | c :: rest => do
    if c.toNat < 0x20 ∨ c = '\\' then none
    let (units, rest) ← readUnits rest
    return (c.toNat :: units, rest)

/-- Joins the two halves of a character past the first plane; a half that is alone stands for no
character and becomes the replacement character. -/
def joinHalves : List Nat → List Char
  | [] => []
  | high :: low :: rest =>
    if 0xD800 ≤ high ∧ high < 0xDC00 ∧ 0xDC00 ≤ low ∧ low < 0xE000 then
      Char.ofNat (0x10000 + (high - 0xD800) * 1024 + (low - 0xDC00)) :: joinHalves rest
    else lone high :: joinHalves (low :: rest)
  | [unit] => [lone unit]
where
  lone (unit : Nat) : Char :=
    if 0xD800 ≤ unit ∧ unit < 0xE000 then '\uFFFD' else Char.ofNat unit

def readText (s : List Char) : Except Damage (String × List Char) :=
  match readUnits s with
  | some (units, rest) => .ok (String.ofList (joinHalves units), rest)
  | none => .error .malformed

/-- The digits of a whole part: a lone zero, or digits that begin with another one. -/
def splitWhole (s : List Char) : List Char × List Char :=
  match s with
  | '0' :: rest => (['0'], rest)
  | _ => s.span Literal.isAsciiDigit

/-- The places after the point, if a point with a digit after it comes next. -/
def splitPlaces (s : List Char) : List Char × List Char :=
  match s with
  | '.' :: rest =>
    let (places, after) := rest.span Literal.isAsciiDigit
    if places.isEmpty then ([], s) else (places, after)
  | _ => ([], s)

/-- The exponent, if there is one with a digit. -/
def splitExponent (s : List Char) : Option Int × List Char :=
  match s with
  | c :: rest =>
    if c = 'e' ∨ c = 'E' then
      let (negative, body) := Literal.splitSign rest
      let (digits, after) := body.span Literal.isAsciiDigit
      if digits.isEmpty then (none, s)
      else
        let size : Int := Literal.natOf digits
        (some (if negative then -size else size), after)
    else (none, s)
  | [] => (none, s)

/-- A number without its sign. -/
def readMagnitude (limits : Limits) (negative : Bool) (s : List Char) :
    Except Damage (Json × List Char) :=
  let (whole, afterWhole) := splitWhole s
  let (places, afterPlaces) := splitPlaces afterWhole
  let (exponent, rest) := splitExponent afterPlaces
  if whole.isEmpty then .error .malformed
  else if places.isEmpty && exponent.isNone then
    if limits.digits < whole.length then .error .longNumber
    else
      let size : Int := Literal.natOf whole
      .ok (int (if negative then -size else size), rest)
  else
    let digits := Literal.natOf (whole ++ places)
    .ok (double (.ofDecimal negative digits (exponent.getD 0 - places.length)), rest)

/-- A name, or a number. -/
def readScalar (limits : Limits) : List Char → Except Damage (Json × List Char)
  | 'n' :: 'u' :: 'l' :: 'l' :: rest => .ok (null, rest)
  | 't' :: 'r' :: 'u' :: 'e' :: rest => .ok (bool true, rest)
  | 'f' :: 'a' :: 'l' :: 's' :: 'e' :: rest => .ok (bool false, rest)
  | 'N' :: 'a' :: 'N' :: rest => .ok (double .nan, rest)
  | 'I' :: 'n' :: 'f' :: 'i' :: 'n' :: 'i' :: 't' :: 'y' :: rest =>
    .ok (double (.infinity false), rest)
  | '-' :: 'I' :: 'n' :: 'f' :: 'i' :: 'n' :: 'i' :: 't' :: 'y' :: rest =>
    .ok (double (.infinity true), rest)
  | '-' :: rest => readMagnitude limits true rest
  | s => readMagnitude limits false s

mutual

/-- A value at the start of the text, and what follows it. Every step inward uses up fuel. -/
def readValue : Limits → Nat → List Char → Except Damage (Json × List Char)
  | _, 0, _ => .error .malformed
  | limits, fuel + 1, s =>
    match s with
    | '"' :: rest => (readText rest).map fun (text, rest) => (str text, rest)
    | '[' :: rest => do
      let limits ← limits.inside
      match skipSpace rest with
      | ']' :: rest => return (arr [], rest)
      | rest =>
        let (items, rest) ← readItems limits fuel rest
        return (arr items, rest)
    | '{' :: rest => do
      let limits ← limits.inside
      match skipSpace rest with
      | '}' :: rest => return (obj [], rest)
      | rest =>
        let (fields, rest) ← readFields limits fuel rest
        return (obj (Entries.ofPairs fields), rest)
    | s => readScalar limits s

/-- Items up to the closing bracket, the first one standing at the start. -/
def readItems : Limits → Nat → List Char → Except Damage (List Json × List Char)
  | _, 0, _ => .error .malformed
  | limits, fuel + 1, s => do
    let (item, rest) ← readValue limits fuel s
    match skipSpace rest with
    | ',' :: rest =>
      let (items, rest) ← readItems limits fuel (skipSpace rest)
      return (item :: items, rest)
    | ']' :: rest => return ([item], rest)
    | _ => .error .malformed

/-- Fields up to the closing brace, the first key standing at the start. -/
def readFields : Limits → Nat → List Char → Except Damage (List (String × Json) × List Char)
  | _, 0, _ => .error .malformed
  | limits, fuel + 1, s =>
    match s with
    | '"' :: rest => do
      let (key, rest) ← readText rest
      match skipSpace rest with
      | ':' :: rest =>
        let (value, rest) ← readValue limits fuel (skipSpace rest)
        match skipSpace rest with
        | ',' :: rest =>
          let (fields, rest) ← readFields limits fuel (skipSpace rest)
          return ((key, value) :: fields, rest)
        | '}' :: rest => return ([(key, value)], rest)
        | _ => .error .malformed
      | _ => .error .malformed
    | _ => .error .malformed

end

/-- The value that a whole text holds. -/
def read (limits : Limits) (s : List Char) : Except Damage Json := do
  let (value, rest) ← readValue limits (2 * s.length + 2) (skipSpace s)
  if (skipSpace rest).isEmpty then return value else .error .malformed

def decode (text : String) : Except Damage Json := read .standard text.toList

end Bookmarks.Json
