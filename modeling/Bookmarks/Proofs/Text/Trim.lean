import Bookmarks.Text.Blank
import Mathlib.Data.List.DropRight
import Mathlib.Data.List.TakeWhile

/-! Runs of characters at the ends of a text. A run at its beginning does not go past a character
that stops it; and trimming a text that is trimmed, or neither begins nor ends with a blank, changes
nothing. -/

namespace Bookmarks

namespace Text

section Run

variable {p : Char → Bool} {c : Char}

theorem takeWhile_append_stop (stop : p c = false) (s t : List Char) :
    (s ++ c :: t).takeWhile p = s.takeWhile p := by
  have stopped : (c :: t).takeWhile p = [] := List.takeWhile_cons_of_neg (by simp [stop])
  rw [List.takeWhile_append]
  split
  · next all => rw [stopped, List.append_nil, (List.takeWhile_prefix p).eq_of_length all]
  · rfl

theorem dropWhile_append_stop (stop : p c = false) (s t : List Char) :
    (s ++ c :: t).dropWhile p = s.dropWhile p ++ c :: t := by
  have stopped : (c :: t).dropWhile p = c :: t := List.dropWhile_cons_of_neg (by simp [stop])
  rw [List.dropWhile_append]
  split
  · next none_left => rw [stopped, List.isEmpty_iff.1 none_left, List.nil_append]
  · rfl

end Run

theorem trim_eq_rdropWhile (s : List Char) :
    trim s = (s.dropWhile isBlank).rdropWhile isBlank := rfl

theorem trim_trim (s : List Char) : trim (trim s) = trim s := by
  have start : (trim s).dropWhile isBlank = trim s := by
    rw [List.dropWhile_eq_self_iff]
    intro some_char blank
    -- what is left begins as the text does after its leading blanks
    have part : trim s <+: s.dropWhile isBlank := List.rdropWhile_prefix isBlank _
    have dropped : (s.dropWhile isBlank).dropWhile isBlank = s.dropWhile isBlank :=
      List.dropWhile_idempotent isBlank s
    rw [List.dropWhile_eq_self_iff] at dropped
    have inside : 0 < (s.dropWhile isBlank).length := Nat.lt_of_lt_of_le some_char part.length_le
    apply dropped inside
    rwa [← part.getElem some_char]
  rw [trim_eq_rdropWhile, start, trim_eq_rdropWhile, List.rdropWhile_idempotent]

theorem trim_eq_self {s : List Char} (start : ∀ c ∈ s.head?, isBlank c = false)
    (ends : ∀ c ∈ s.getLast?, isBlank c = false) : trim s = s := by
  have front : s.dropWhile isBlank = s := by
    cases s with
    | nil => rfl
    | cons c s => rw [List.dropWhile_cons_of_neg (by simp [start c rfl])]
  rw [trim_eq_rdropWhile, front, List.rdropWhile_eq_self_iff]
  intro some_char
  simp [ends _ (List.getLast_mem_getLast? some_char)]

end Text

/-- Whether a text is neither empty nor begins or ends with a blank. -/
def IsTrimmed (s : String) : Prop := s ≠ "" ∧ Text.trim s.toList = s.toList

theorem isTrimmed_trim {s : String} (h : String.ofList (Text.trim s.toList) ≠ "") :
    IsTrimmed (String.ofList (Text.trim s.toList)) := by
  refine ⟨h, ?_⟩
  rw [String.toList_ofList, Text.trim_trim]

end Bookmarks
