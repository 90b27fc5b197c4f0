import Bookmarks.Json.Writer

/-! How a value is shown when it is used as a text: a text as it is, anything else in a notation
with capitalised names and quoted texts. Quotes are single unless the text has single ones only. -/

namespace Bookmarks.Json

/-- Lowercase hexadecimal digits, at least `width` of them. -/
def paddedHex (width n : Nat) : List Char :=
  let digits := Nat.toDigits 16 n
  List.replicate (width - digits.length) '0' ++ digits

def showChar (mark c : Char) : List Char :=
  if c = mark ∨ c = '\\' then ['\\', c]
  else if c = '\t' then ['\\', 't']
  else if c = '\n' then ['\\', 'n']
  else if c = '\r' then ['\\', 'r']
  else if Text.isPrintable c then [c]
  else if c.toNat < 0x100 then '\\' :: 'x' :: paddedHex 2 c.toNat
  else if c.toNat < 0x10000 then '\\' :: 'u' :: paddedHex 4 c.toNat
  else '\\' :: 'U' :: paddedHex 8 c.toNat

def showText (s : List Char) : List Char :=
  let mark := if s.contains '\'' && !s.contains '"' then '"' else '\''
  mark :: (s.flatMap (showChar mark) ++ [mark])

mutual

def showValue : Json → List Char
  | null => "None".toList
  | bool b => if b then "True".toList else "False".toList
  | int i => intText i
  | double d => d.text "nan".toList "inf".toList
  | str s => showText s.toList
  | arr [] => ['[', ']']
  | arr (x :: rest) => '[' :: (showValue x ++ showItems rest)
  | obj [] => ['{', '}']
  | obj ((key, value) :: rest) =>
    '{' :: (showText key.toList ++ ':' :: ' ' :: (showValue value ++ showFields rest))

def showItems : List Json → List Char
  | [] => [']']
  | x :: rest => ',' :: ' ' :: (showValue x ++ showItems rest)

def showFields : List (String × Json) → List Char
  | [] => ['}']
  | (key, value) :: rest =>
    ',' :: ' ' :: (showText key.toList ++ ':' :: ' ' :: (showValue value ++ showFields rest))

end

/-- The text that a value is taken as. -/
def display (value : Json) : Except Fault String :=
  match value with
  | str s => .ok s
  | other =>
    if other.isWritable then .ok (String.ofList other.showValue) else .error .badNumber

end Bookmarks.Json
