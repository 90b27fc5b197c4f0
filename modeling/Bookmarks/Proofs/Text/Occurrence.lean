import Bookmarks.Text.Blank
import Bookmarks.Text.Occurrence
import Mathlib.Data.List.DropRight
import Mathlib.Data.List.Infix
import Mathlib.Data.List.TakeWhile

/-! The last word of a text, its end from the last place on at which a part stands, and what it
keeps without a part: each character that the part does not have. -/

namespace Bookmarks.Text

variable {part s t : List Char}

/-! ### The last word -/

theorem lastWord_suffix (s : List Char) : lastWord s <:+ s := List.rtakeWhile_suffix _ s

theorem not_blank_of_mem_lastWord {c : Char} (mem : c ∈ lastWord s) : isBlank c = false := by
  have not_blank : (!isBlank c) = true := List.mem_rtakeWhile_imp (p := (!isBlank ·)) mem
  simpa using not_blank

/-- An end of a text without blanks is an end of the last word. -/
theorem suffix_lastWord (ends : t <:+ s) (no_blank : ∀ c ∈ t, isBlank c = false) :
    t <:+ lastWord s := by
  obtain ⟨front, rfl⟩ := ends
  have word : ∀ c ∈ t.reverse, (!isBlank c) = true := fun c mem => by
    simp [no_blank c (List.mem_reverse.1 mem)]
  rw [lastWord, List.reverse_append, List.takeWhile_append_of_pos word, List.reverse_append,
    List.reverse_reverse]
  exact List.suffix_append _ _

/-! ### The last place of a part -/

theorem fromLast?_eq_some (h : fromLast? part s = some t) : part <+: t ∧ t <:+ s := by
  induction s with
  | nil =>
    simp only [fromLast?, Option.ite_none_right_eq_some, Option.some.injEq] at h
    obtain ⟨no_part, rfl⟩ := h
    exact ⟨by rw [List.isEmpty_iff.1 no_part], List.suffix_rfl⟩
  | cons c s ih =>
    rw [fromLast?] at h
    split at h
    · next later =>
      cases h
      obtain ⟨begins, ends⟩ := ih later
      exact ⟨begins, ends.trans (List.suffix_cons c s)⟩
    · simp only [Option.ite_none_right_eq_some, Option.some.injEq] at h
      obtain ⟨begins, rfl⟩ := h
      exact ⟨List.isPrefixOf_iff_prefix.1 begins, List.suffix_rfl⟩

/-- No place at which the part stands comes after the last one. -/
theorem exists_fromLast? (begins : part <+: t) (ends : t <:+ s) :
    ∃ rest, fromLast? part s = some rest ∧ rest <:+ t := by
  induction s with
  | nil =>
    obtain rfl := List.suffix_nil.1 ends
    obtain rfl := List.prefix_nil.1 begins
    exact ⟨[], rfl, List.suffix_rfl⟩
  | cons c s ih =>
    rw [fromLast?]
    split
    · next rest later =>
      refine ⟨rest, rfl, ?_⟩
      rcases List.suffix_cons_iff.1 ends with rfl | ends
      · exact (fromLast?_eq_some later).2.trans (List.suffix_cons c s)
      · obtain ⟨_, same, within⟩ := ih ends
        cases later.symm.trans same
        exact within
    · next no_later =>
      rcases List.suffix_cons_iff.1 ends with rfl | ends
      · exact ⟨c :: s, if_pos (List.isPrefixOf_iff_prefix.2 begins), List.suffix_rfl⟩
      · obtain ⟨_, some_later, _⟩ := ih ends
        rw [no_later] at some_later
        cases some_later

/-! ### A text without a part -/

theorem mem_withoutFrom {c : Char} (some_part : part ≠ []) (other : c ∉ part) {skip : Nat}
    (passed : ∀ d ∈ s.take skip, d ∈ part) (mem : c ∈ s) : c ∈ withoutFrom part skip s := by
  induction s generalizing skip with
  | nil => cases mem
  | cons d s ih =>
    have later (inside : d ∈ part) : c ∈ s := by
      rcases List.mem_cons.1 mem with rfl | later
      · exact absurd inside other
      · exact later
    cases skip with
    | succ skip =>
      rw [List.take_succ_cons, List.forall_mem_cons] at passed
      exact ih passed.2 (later passed.1)
    | zero =>
      rw [withoutFrom]
      split
      · next begins =>
        -- the characters to be passed over are the part
        obtain ⟨e, part, rfl⟩ := List.exists_cons_of_ne_nil some_part
        have same := List.prefix_iff_eq_take.1 (List.isPrefixOf_iff_prefix.1 begins)
        rw [List.length_cons, List.take_succ_cons, List.cons.injEq] at same
        refine ih (fun f hf => ?_) (later (same.1 ▸ List.mem_cons_self))
        rw [List.length_cons, Nat.add_sub_cancel, ← same.2] at hf
        exact List.mem_cons_of_mem e hf
      · rcases List.mem_cons.1 mem with rfl | mem
        · exact List.mem_cons_self
        · exact List.mem_cons_of_mem d (ih (by simp) mem)

theorem mem_without {c : Char} (some_part : part ≠ []) (other : c ∉ part) (mem : c ∈ s) :
    c ∈ without part s :=
  mem_withoutFrom some_part other (by simp) mem

end Bookmarks.Text
