import Bookmarks.Text.Blank
import Bookmarks.Text.Class
import Mathlib.Data.List.Chain
import Mathlib.Data.List.TakeWhile

/-! Tidy texts: the only blanks are single spaces, and none stands at an end. Tidying gives such a
text, keeps one that is, and joins two texts with a blank between them by a single space. -/

namespace Bookmarks.Text

theorem Ranges.exists_of_has {ranges : Ranges} {n : Nat} (h : ranges.has n = true) :
    ∃ range ∈ ranges, range.1 ≤ n ∧ n ≤ range.2 := by
  induction ranges with
  | nil => simp [Ranges.has] at h
  | cons range ranges ih =>
    simp only [Ranges.has, Bool.and_eq_true, Bool.or_eq_true, Bool.not_eq_true',
      decide_eq_false_iff_not, decide_eq_true_eq] at h
    rcases h.2 with last | later
    · exact ⟨range, by simp, by omega, last⟩
    · obtain ⟨other, mem, bounds⟩ := ih later
      exact ⟨other, by simp [mem], bounds⟩

theorem isWord_of_isBlank {c : Char} (h : isBlank c = true) : isWord c = false := by
  have apart : ∀ blank ∈ blankRanges, ∀ word ∈ wordRanges,
      blank.2 < word.1 ∨ word.2 < blank.1 := by decide +kernel
  by_contra word
  obtain ⟨b, hb, bounds⟩ := Ranges.exists_of_has h
  obtain ⟨w, hw, bounds'⟩ := Ranges.exists_of_has (Bool.not_eq_false _ ▸ word : isWord c = true)
  have := apart b hb w hw
  omega

/-- No blank but spaces, and no two of them side by side. -/
def IsSpaced (s : List Char) : Prop :=
  (∀ c ∈ s, isBlank c = true → c = ' ') ∧
    s.IsChain fun a b => isBlank a = true → isBlank b = false

structure IsTidy (s : List Char) : Prop where
  spaced : IsSpaced s
  head : ∀ c ∈ s.head?, isBlank c = false
  last : ∀ c ∈ s.getLast?, isBlank c = false

theorem IsSpaced.of_part {s t : List Char} (h : IsSpaced t) (inside : s <:+: t) : IsSpaced s := by
  refine ⟨fun c hc => h.1 c (inside.subset hc), ?_⟩
  exact List.IsChain.infix h.2 inside

theorem isSpaced_nil : IsSpaced [] := ⟨by simp, List.IsChain.nil⟩

theorem isSpaced_cons_of_not_blank {c : Char} {s : List Char} (hc : isBlank c = false) :
    IsSpaced (c :: s) ↔ IsSpaced s := by
  constructor
  · intro h
    exact h.of_part (List.suffix_cons c s).isInfix
  · intro h
    refine ⟨fun d hd blank => ?_, List.IsChain.cons h.2 fun d _ blank => ?_⟩
    · rcases List.mem_cons.1 hd with rfl | hd
      · simp [hc] at blank
      · exact h.1 d hd blank
    · simp [hc] at blank

theorem isSpaced_space_cons {s : List Char} (h : IsSpaced s)
    (head : ∀ c ∈ s.head?, isBlank c = false) : IsSpaced (' ' :: s) := by
  refine ⟨fun d hd blank => ?_, List.IsChain.cons h.2 fun d hd _ => head d hd⟩
  rcases List.mem_cons.1 hd with rfl | hd
  · rfl
  · exact h.1 d hd blank

theorem isSpaced_of_no_blank {s : List Char} (h : ∀ c ∈ s, isBlank c = false) : IsSpaced s := by
  induction s with
  | nil => exact isSpaced_nil
  | cons c s ih =>
    obtain ⟨hc, hs⟩ := List.forall_mem_cons.1 h
    exact (isSpaced_cons_of_not_blank hc).2 (ih hs)

theorem isSpaced_append {s t : List Char} (hs : IsSpaced s) (ht : IsSpaced t)
    (head : ∀ c ∈ t.head?, isBlank c = false) : IsSpaced (s ++ t) := by
  refine ⟨fun c hc => ?_, List.isChain_append.2 ⟨hs.2, ht.2, fun a _ b hb _ => head b hb⟩⟩
  rcases List.mem_append.1 hc with hc | hc
  · exact hs.1 c hc
  · exact ht.1 c hc

theorem isTidy_nil : IsTidy [] := ⟨isSpaced_nil, by simp, by simp⟩

theorem isTidy_of_no_blank {s : List Char} (h : ∀ c ∈ s, isBlank c = false) : IsTidy s :=
  ⟨isSpaced_of_no_blank h, fun c hc => h c (List.mem_of_mem_head? hc),
    fun c hc => h c (List.mem_of_mem_getLast? hc)⟩

/-- Two tidy texts with a space between them. -/
theorem IsTidy.join {s t : List Char} (hs : IsTidy s) (ht : IsTidy t) (some_s : s ≠ [])
    (some_t : t ≠ []) : IsTidy (s ++ ' ' :: t) := by
  refine ⟨?_, ?_, ?_⟩
  · refine ⟨fun c hc => ?_, List.isChain_append.2 ⟨hs.spaced.2, ?_, fun a ha b _ blank => ?_⟩⟩
    · rcases List.mem_append.1 hc with hc | hc
      · exact hs.spaced.1 c hc
      · exact (isSpaced_space_cons ht.spaced ht.head).1 c hc
    · exact (isSpaced_space_cons ht.spaced ht.head).2
    · simp [hs.last a ha] at blank
  · intro c hc
    rw [List.head?_append_of_ne_nil s some_s] at hc
    exact hs.head c hc
  · intro c hc
    rw [List.getLast?_append_cons, List.getLast?_cons_of_ne_nil some_t] at hc
    exact ht.last c hc

theorem IsTidy.last_of_suffix {s t : List Char} (h : IsTidy t) (part : s <:+ t) :
    ∀ c ∈ s.getLast?, isBlank c = false := by
  obtain ⟨u, rfl⟩ := part
  cases s with
  | nil => simp
  | cons c s =>
    intro d hd
    exact h.last d (by rwa [List.getLast?_append_cons])

theorem tidyFrom_blank {gap : Bool} {c : Char} (s : List Char) (hc : isBlank c = true) :
    tidyFrom gap (c :: s) = tidyFrom true s := by simp [tidyFrom, hc]

theorem tidyFrom_false_cons {c : Char} (s : List Char) (hc : isBlank c = false) :
    tidyFrom false (c :: s) = c :: tidyFrom false s := by simp [tidyFrom, hc]

theorem tidyFrom_true_cons {c : Char} (s : List Char) (hc : isBlank c = false) :
    tidyFrom true (c :: s) = ' ' :: c :: tidyFrom false s := by simp [tidyFrom, hc]

theorem head_tidyFrom_true (s : List Char) : ∀ c ∈ (tidyFrom true s).head?, c = ' ' := by
  induction s with
  | nil => simp [tidyFrom]
  | cons d s ih =>
    by_cases hd : isBlank d
    · rwa [tidyFrom_blank s hd]
    · simp [tidyFrom, hd]

theorem tidyFrom_eq_self {s : List Char} (h : IsSpaced s)
    (last : ∀ c ∈ s.getLast?, isBlank c = false) : tidyFrom false s = s := by
  -- A space that is met stands before a word, and is written again before that word.
  induction s using List.twoStepInduction with
  | nil => rfl
  | singleton c =>
    have hc : isBlank c = false := last c (by simp)
    simp [tidyFrom, hc]
  | cons_cons c d s ih ih' =>
    have tail := h.of_part (List.suffix_cons c (d :: s)).isInfix
    have last' : ∀ e ∈ (d :: s).getLast?, isBlank e = false := by
      intro e he
      exact last e (by rwa [List.getLast?_cons_cons])
    by_cases hc : isBlank c
    · have hd : isBlank d = false := (List.isChain_cons_cons.1 h.2).1 hc
      have same := h.1 c (by simp) hc
      have rest := ih' d tail last'
      rw [tidyFrom_false_cons s hd] at rest
      rw [tidyFrom_blank _ hc, tidyFrom_true_cons s hd, rest, same]
    · rw [tidyFrom_false_cons _ (by simpa using hc), ih' d tail last']

theorem IsTidy.tidy_eq {s : List Char} (h : IsTidy s) : tidy s = s := by
  have same : s.dropWhile isBlank = s := by
    cases s with
    | nil => rfl
    | cons c s => simp [h.head c (by simp)]
  rw [tidy, same, tidyFrom_eq_self h.spaced h.last]

theorem isSpaced_tidyFrom (gap : Bool) (s : List Char) : IsSpaced (tidyFrom gap s) := by
  induction s generalizing gap with
  | nil => exact isSpaced_nil
  | cons c s ih =>
    by_cases hc : isBlank c
    · rw [tidyFrom_blank s hc]
      exact ih true
    · have hc : isBlank c = false := by simpa using hc
      have word : IsSpaced (c :: tidyFrom false s) := (isSpaced_cons_of_not_blank hc).2 (ih false)
      cases gap with
      | false => rwa [tidyFrom_false_cons s hc]
      | true =>
        rw [tidyFrom_true_cons s hc]
        exact isSpaced_space_cons word (by simpa using hc)

theorem getLast_tidyFrom (gap : Bool) (s : List Char) :
    ∀ c ∈ (tidyFrom gap s).getLast?, isBlank c = false := by
  induction s generalizing gap with
  | nil => simp [tidyFrom]
  | cons c s ih =>
    by_cases hc : isBlank c
    · rw [tidyFrom_blank s hc]
      exact ih true
    · have hc : isBlank c = false := by simpa using hc
      have word : ∀ e ∈ (c :: tidyFrom false s).getLast?, isBlank e = false := by
        intro e he
        by_cases none_left : tidyFrom false s = []
        · simp only [none_left, List.getLast?_singleton, Option.mem_some_iff] at he
          exact he ▸ hc
        · rw [List.getLast?_cons_of_ne_nil none_left] at he
          exact ih false e he
      cases gap with
      | false => rwa [tidyFrom_false_cons s hc]
      | true => rwa [tidyFrom_true_cons s hc, List.getLast?_cons_cons]

theorem isTidy_tidy (s : List Char) : IsTidy (tidy s) := by
  refine ⟨isSpaced_tidyFrom false _, ?_, getLast_tidyFrom false _⟩
  intro c hc
  have head : ∀ d ∈ (s.dropWhile isBlank).head?, isBlank d = false := by
    intro d hd
    simpa [Option.mem_def.1 hd] using List.head?_dropWhile_not isBlank s
  rw [tidy] at hc
  cases words : s.dropWhile isBlank with
  | nil => simp [words, tidyFrom] at hc
  | cons d t =>
    have hd : isBlank d = false := head d (by simp [words])
    rw [words, tidyFrom_false_cons t hd] at hc
    simp only [List.head?_cons, Option.mem_some_iff] at hc
    exact hc ▸ hd

/-! ### Words at an end -/

/-- A word at the beginning of a text does not reach over a blank. -/
theorem exists_of_append_blank {s t w u : List Char} {b : Char} (hb : isBlank b = true)
    (hw : ∀ c ∈ w, isBlank c = false) (h : s ++ b :: t = w ++ u) : ∃ v, s = w ++ v := by
  obtain ⟨v, front, back⟩ | ⟨v, front, _⟩ := List.append_eq_append_iff.1 h
  · cases v with
    | nil => exact ⟨[], by simpa using front.symm⟩
    | cons d v =>
      obtain ⟨rfl, _⟩ := List.cons.inj back
      have word := hw b (by simp [front])
      simp [hb] at word
  · exact ⟨v, front⟩

theorem tidyFrom_append_word {w : List Char} (hw : ∀ c ∈ w, isBlank c = false) (some_w : w ≠ [])
    (gap : Bool) (u : List Char) : ∃ v, tidyFrom gap (u ++ w) = v ++ w := by
  induction u generalizing gap with
  | nil =>
    have same : tidyFrom false w = w := tidyFrom_eq_self (isSpaced_of_no_blank hw)
      fun c hc => hw c (List.mem_of_mem_getLast? hc)
    cases gap with
    | false => exact ⟨[], by simpa using same⟩
    | true =>
      obtain ⟨c, t, rfl⟩ := List.exists_cons_of_ne_nil some_w
      have hc := hw c (by simp)
      rw [tidyFrom_false_cons t hc] at same
      exact ⟨[' '], by simp [tidyFrom_true_cons t hc, same]⟩
  | cons c u ih =>
    by_cases hc : isBlank c
    · obtain ⟨v, same⟩ := ih true
      exact ⟨v, by rw [List.cons_append, tidyFrom_blank _ hc, same]⟩
    · have hc : isBlank c = false := by simpa using hc
      obtain ⟨v, same⟩ := ih false
      cases gap with
      | false => exact ⟨c :: v, by simp [tidyFrom_false_cons _ hc, same]⟩
      | true => exact ⟨' ' :: c :: v, by simp [tidyFrom_true_cons _ hc, same]⟩

theorem tidy_append_word {w : List Char} (hw : ∀ c ∈ w, isBlank c = false) (some_w : w ≠ [])
    (u : List Char) : ∃ v, tidy (u ++ w) = v ++ w := by
  induction u with
  | nil => exact ⟨[], (isTidy_of_no_blank hw).tidy_eq⟩
  | cons c u ih =>
    by_cases hc : isBlank c
    · simpa [tidy, hc] using ih
    · simpa [tidy, hc] using tidyFrom_append_word hw some_w false (c :: u)

/-! ### Two texts side by side -/

/-- Two texts with a space between them, or the one that is not empty. -/
def joined (s t : List Char) : List Char :=
  if s = [] then t else if t = [] then s else s ++ ' ' :: t

@[simp] theorem joined_nil_left (t : List Char) : joined [] t = t := rfl

@[simp] theorem joined_nil_right (s : List Char) : joined s [] = s := by
  by_cases h : s = [] <;> simp [joined, h]

theorem joined_of_ne_nil {s t : List Char} (some_s : s ≠ []) (some_t : t ≠ []) :
    joined s t = s ++ ' ' :: t := by simp [joined, some_s, some_t]

theorem tidy_eq_nil_iff {s : List Char} : tidy s = [] ↔ ∀ c ∈ s, isBlank c = true := by
  rw [← List.dropWhile_eq_nil_iff, tidy]
  cases words : s.dropWhile isBlank with
  | nil => simp [tidyFrom]
  | cons c t =>
    have hc : isBlank c = false := by simpa [words] using List.head?_dropWhile_not isBlank s
    simp [tidyFrom_false_cons t hc]

theorem tidyFrom_true (s : List Char) :
    tidyFrom true s = if tidy s = [] then [] else ' ' :: tidy s := by
  induction s with
  | nil => rfl
  | cons c s ih =>
    by_cases hc : isBlank c
    · have same : tidy (c :: s) = tidy s := by simp [tidy, hc]
      rw [tidyFrom_blank s hc, ih, same]
    · have hc : isBlank c = false := by simpa using hc
      simp [tidyFrom_true_cons s hc, tidyFrom_false_cons s hc, tidy, hc]

theorem tidyFrom_append_blank (gap : Bool) (s : List Char) {b : Char} (hb : isBlank b = true)
    (t : List Char) : tidyFrom gap (s ++ b :: t) = tidyFrom gap s ++ tidyFrom true t := by
  induction s generalizing gap with
  | nil => simp [tidyFrom, hb]
  | cons c s ih => by_cases hc : isBlank c <;> cases gap <;> simp [tidyFrom, hc, ih]

/-- The words of two texts that a blank parts. -/
theorem tidy_append_blank (s : List Char) {b : Char} (hb : isBlank b = true) (t : List Char) :
    tidy (s ++ b :: t) = joined (tidy s) (tidy t) := by
  by_cases blanks : ∀ c ∈ s, isBlank c = true
  · rw [tidy_eq_nil_iff.2 blanks, joined_nil_left, tidy, List.dropWhile_append_of_pos blanks,
      List.dropWhile_cons_of_pos hb, tidy]
  · have words : s.dropWhile isBlank ≠ [] := by rwa [Ne, List.dropWhile_eq_nil_iff]
    have some_s : tidy s ≠ [] := by rwa [Ne, tidy_eq_nil_iff]
    have kept : (s ++ b :: t).dropWhile isBlank = s.dropWhile isBlank ++ b :: t := by
      rw [List.dropWhile_append, if_neg (by simpa using words)]
    rw [tidy, kept, tidyFrom_append_blank false _ hb, tidyFrom_true, ← tidy]
    by_cases none_t : tidy t = []
    · simp [none_t]
    · rw [if_neg none_t, joined_of_ne_nil some_s none_t]

end Bookmarks.Text
