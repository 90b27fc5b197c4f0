import Bookmarks.Text.Table.Folding
import Bookmarks.Text.Table.Skeleton

/-! The folded form of a text, in which letters that differ by accents, case or typographic variant
are the same: each character gives way to its compatibility decomposition without combining marks,
and what is left is case folded. Every character folds on its own. -/

namespace Bookmarks.Text

/-- The letters of a Hangul syllable, numbered from the first syllable on. -/
def hangulLetters (n : Nat) : List Nat :=
  let lead := 0x1100 + n / 588
  let vowel := 0x1161 + n % 588 / 28
  if n % 28 = 0 then [lead, vowel] else [lead, vowel, 0x11A7 + n % 28]

/-- What is left of a character when it is decomposed and its marks are dropped. -/
def skeleton (c : Char) : List Char :=
  if 0xAC00 ≤ c.toNat ∧ c.toNat ≤ 0xD7A3 then
    (hangulLetters (c.toNat - 0xAC00)).map Char.ofNat
  else if markRanges.has c.toNat then []
  else imageOf skeletonSegments [] c

def foldCase (c : Char) : List Char := imageOf foldingSegments foldingShifts c

def foldChar (c : Char) : List Char := (skeleton c).flatMap foldCase

def fold (s : List Char) : List Char := s.flatMap foldChar

theorem fold_append (s t : List Char) : fold (s ++ t) = fold s ++ fold t := List.flatMap_append

end Bookmarks.Text
