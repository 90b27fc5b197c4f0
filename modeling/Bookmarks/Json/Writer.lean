import Bookmarks.Json.Basic
import Bookmarks.Number.Literal

/-! JSON text. Fields and items are parted by a comma and a space, and every character outside the
printable ASCII ones is escaped. -/

namespace Bookmarks.Json

def hexDigits (n : Nat) : List Char :=
  [Nat.digitChar (n / 4096 % 16), Nat.digitChar (n / 256 % 16), Nat.digitChar (n / 16 % 16),
    Nat.digitChar (n % 16)]

def escapeUnit (n : Nat) : List Char := '\\' :: 'u' :: hexDigits n

/-- A character inside a quoted text; one past the first plane is written as two halves. -/
def escapeChar (c : Char) : List Char :=
  if c = '"' then ['\\', '"']
  else if c = '\\' then ['\\', '\\']
  else if c = '\n' then ['\\', 'n']
  else if c = '\r' then ['\\', 'r']
  else if c = '\t' then ['\\', 't']
  else if c.toNat = 12 then ['\\', 'f']
  else if c.toNat = 8 then ['\\', 'b']
  else if 0x20 ≤ c.toNat ∧ c.toNat ≤ 0x7E then [c]
  else if c.toNat < 0x10000 then escapeUnit c.toNat
  else escapeUnit (0xD800 + (c.toNat - 0x10000) / 1024) ++
    escapeUnit (0xDC00 + (c.toNat - 0x10000) % 1024)

def quote (s : List Char) : List Char := '"' :: (s.flatMap escapeChar ++ ['"'])

def intText (i : Int) : List Char :=
  if i < 0 then '-' :: Nat.toDigits 10 i.natAbs else Nat.toDigits 10 i.natAbs

def doubleText (d : Double) : List Char := d.text "NaN".toList "Infinity".toList

mutual

def write : Json → List Char
  | null => "null".toList
  | bool b => if b then "true".toList else "false".toList
  | int i => intText i
  | double d => doubleText d
  | str s => quote s.toList
  | arr [] => ['[', ']']
  | arr (x :: rest) => '[' :: (write x ++ writeItems rest)
  | obj [] => ['{', '}']
  | obj ((key, value) :: rest) =>
    '{' :: (quote key.toList ++ ':' :: ' ' :: (write value ++ writeFields rest))

/-- The items after the first, and the closing bracket. -/
def writeItems : List Json → List Char
  | [] => [']']
  | x :: rest => ',' :: ' ' :: (write x ++ writeItems rest)

/-- The fields after the first, and the closing brace. -/
def writeFields : List (String × Json) → List Char
  | [] => ['}']
  | (key, value) :: rest =>
    ',' :: ' ' :: (quote key.toList ++ ':' :: ' ' :: (write value ++ writeFields rest))

end

def fitsLimit (i : Int) : Bool := decide ((Nat.toDigits 10 i.natAbs).length ≤ digitLimit)

mutual

/-- Whether every whole number in a value has few enough digits to be written. -/
def isWritable : Json → Bool
  | int i => fitsLimit i
  | arr items => areWritable items
  | obj fields => areWritableFields fields
  | _ => true

def areWritable : List Json → Bool
  | [] => true
  | x :: rest => isWritable x && areWritable rest

def areWritableFields : List (String × Json) → Bool
  | [] => true
  | (_, value) :: rest => isWritable value && areWritableFields rest

end

def encode (value : Json) : Except Fault String :=
  if depthLimit < value.depth then .error .tooDeep
  else if value.isWritable then .ok (String.ofList value.write) else .error .badNumber

end Bookmarks.Json
