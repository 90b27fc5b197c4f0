import Bookmarks.Match
import Bookmarks.Proofs.Text.Lower

/-! Terms that are parts of a bookmark. A part of a title, a description, a path or a tag is found,
except where it cuts a word so that a capital sigma is lowered in two ways. -/

namespace Bookmarks.Bookmark

open Text

/-- The texts in which terms are sought. -/
def texts (b : Bookmark) : List String := b.title :: b.descriptionText :: b.filepath :: b.tags

theorem mentions_iff {b : Bookmark} {term : String} :
    b.mentions term = true ↔ ∃ text ∈ b.texts, containsTerm text term = true := by
  simp [mentions, hasTagLike, texts, or_assoc]

/-- A part of a text of a bookmark is found if each capital sigma in it ends a word of the text
just when it ends a word of the part. -/
theorem mentions_part {b : Bookmark} {text term : String} (field : text ∈ b.texts)
    {u v : List Char} (part : text.toList = u ++ term.toList ++ v)
    (keeps : KeepsSigmas u term.toList v) : b.mentions term = true := by
  have found : containsTerm text term = true := by
    rw [containsTerm, part]
    exact occurs_lower keeps
  exact mentions_iff.2 ⟨text, field, found⟩

/-- One sigma ends a word and the other does not, in the tag as in the part of it. -/
theorem mentions_part_street :
    let b : Bookmark := { id := "7", title := "", timestamp := .zero, filepath := "/a.mp4"
                          createdAt := "", description := none, tags := ["x", "ΟΔΟΣ ΜΟΥΣΕΙΟΥ"] }
    "ΟΔΟΣ ΜΟΥΣΕΙΟΥ" ∈ b.texts ∧
      "ΟΔΟΣ ΜΟΥΣΕΙΟΥ".toList = ['Ο'] ++ "ΔΟΣ ΜΟΥΣΕΙ".toList ++ ['Ο', 'Υ'] ∧
      KeepsSigmas ['Ο'] "ΔΟΣ ΜΟΥΣΕΙ".toList ['Ο', 'Υ'] ∧ b.mentions "ΔΟΣ ΜΟΥΣΕΙ" = true := by
  intro b
  have field : "ΟΔΟΣ ΜΟΥΣΕΙΟΥ" ∈ b.texts := by decide
  have part : "ΟΔΟΣ ΜΟΥΣΕΙΟΥ".toList = ['Ο'] ++ "ΔΟΣ ΜΟΥΣΕΙ".toList ++ ['Ο', 'Υ'] := by decide
  have keeps : KeepsSigmas ['Ο'] "ΔΟΣ ΜΟΥΣΕΙ".toList ['Ο', 'Υ'] := by decide +kernel
  exact ⟨field, part, keeps, mentions_part field part keeps⟩

/-- The first letters of a word are not found in it when they end in a capital sigma. -/
theorem not_mentions_beginning :
    let b : Bookmark := { id := "a", title := "ΜΟΥΣΕΙΟ", timestamp := .zero, filepath := ""
                          createdAt := "", description := none, tags := [] }
    "ΜΟΥΣ".toList <:+: b.title.toList ∧ b.mentions "ΜΟΥΣ" = false := by
  decide +kernel

end Bookmarks.Bookmark
