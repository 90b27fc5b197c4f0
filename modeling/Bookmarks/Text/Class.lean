import Bookmarks.Text.Table.Word
import Bookmarks.Text.Table.Digit
import Bookmarks.Text.Table.Printable

/-! Classes of characters: word characters, decimal digits of any script, printable characters. -/

namespace Bookmarks.Text

def isWord (c : Char) : Bool := wordRanges.has c.toNat

theorem isWord_space : isWord ' ' = false := by decide

def isPrintable (c : Char) : Bool := printableRanges.has c.toNat

/-- The value of a decimal digit of any script. -/
def digitValue? (c : Char) : Option Nat :=
  digitZeros.findSome? fun start =>
    if start ≤ c.toNat ∧ c.toNat < start + 10 then some (c.toNat - start) else none

def isDigit (c : Char) : Bool := (digitValue? c).isSome

/-- The value of one of the digits `0` to `9`. -/
def asciiDigit? (c : Char) : Option Nat :=
  if '0' ≤ c ∧ c ≤ '9' then some (c.toNat - 48) else none

end Bookmarks.Text
