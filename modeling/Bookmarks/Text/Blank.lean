import Bookmarks.Text.Range

/-! Blank characters: trimming, the tidy form of a text, and the word at its end. A tidy text has
single spaces between its words and no other blank. -/

namespace Bookmarks.Text

def blankRanges : Ranges := [
  (0x9, 0xD), (0x1C, 0x20), (0x85, 0x85), (0xA0, 0xA0), (0x1680, 0x1680), (0x2000, 0x200A),
  (0x2028, 0x2029), (0x202F, 0x202F), (0x205F, 0x205F), (0x3000, 0x3000)]

def isBlank (c : Char) : Bool := blankRanges.has c.toNat

theorem isBlank_space : isBlank ' ' = true := by decide

/-- The text without the blanks at both ends. -/
def trim (s : List Char) : List Char :=
  ((s.dropWhile isBlank).reverse.dropWhile isBlank).reverse

theorem trim_nil : trim [] = [] := rfl

/-- Writes a space before a word only when a blank came since the word before it. -/
def tidyFrom : Bool → List Char → List Char
  | _, [] => []
  | gap, c :: cs =>
    if isBlank c then tidyFrom true cs
    else if gap then ' ' :: c :: tidyFrom false cs
    else c :: tidyFrom false cs

/-- The words of a text with one space between any two. -/
def tidy (s : List Char) : List Char := tidyFrom false (s.dropWhile isBlank)

theorem tidy_nil : tidy [] = [] := rfl

/-- The part after the last blank. -/
def lastWord (s : List Char) : List Char := (s.reverse.takeWhile (!isBlank ·)).reverse

theorem lastWord_nil : lastWord [] = [] := rfl

end Bookmarks.Text
