import Bookmarks.Text.Table.Lowercase
import Bookmarks.Text.Table.Uppercase
import Bookmarks.Text.Table.Cased

/-! Lowercase, uppercase and swapped case. A capital sigma at the end of a word has a lowercase form
of its own, so lowering reads the letters around it: the nearest character on each side that is not
passed over decides whether the sigma ends a word. -/

namespace Bookmarks.Text

def isCased (c : Char) : Bool := casedRanges.has c.toNat

def isPassedOver (c : Char) : Bool := caseIgnorableRanges.has c.toNat

def isTitlecase (c : Char) : Bool := titlecaseRanges.has c.toNat

/-- Whether the nearest character that counts is cased. -/
def startsCased (s : List Char) : Bool :=
  match s.dropWhile isPassedOver with
  | [] => false
  | c :: _ => isCased c

/-- Whether a letter with case stands before the next character, `before` telling it for `c`. -/
def casedAfter (before : Bool) (c : Char) : Bool := if isPassedOver c then before else isCased c

def lowerAt (before : Bool) (rest : List Char) (c : Char) : List Char :=
  if c = 'Σ' then [if before && !startsCased rest then 'ς' else 'σ']
  else imageOf lowercaseSegments lowercaseShifts c

def lowerFrom : Bool → List Char → List Char
  | _, [] => []
  | before, c :: cs => lowerAt before cs c ++ lowerFrom (casedAfter before c) cs

def lower (s : List Char) : List Char := lowerFrom false s

theorem lower_nil : lower [] = [] := rfl

def upperChar (c : Char) : List Char := imageOf uppercaseSegments uppercaseShifts c

def upper (s : List Char) : List Char := s.flatMap upperChar

/-- Small letters become capital and capital letters small; titlecase digraphs stay. -/
def swapAt (before : Bool) (rest : List Char) (c : Char) : List Char :=
  if isTitlecase c then [c]
  else if lowerAt before rest c = [c] then upperChar c
  else lowerAt before rest c

def swapFrom : Bool → List Char → List Char
  | _, [] => []
  | before, c :: cs => swapAt before cs c ++ swapFrom (casedAfter before c) cs

def swapCase (s : List Char) : List Char := swapFrom false s

end Bookmarks.Text
