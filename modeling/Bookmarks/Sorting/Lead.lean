import Bookmarks.Sorting.Merge

/-! Seeking in leaps and halving finds all elements that pass a test, if they stand first. -/

namespace Bookmarks.Sorting

variable {α : Type}

/-- Whether no element that passes a test stands behind one that does not. -/
def PassFirst (test : α → Bool) (xs : List α) : Prop :=
  xs.Pairwise fun a b => test b = true → test a = true

theorem PassFirst.test_of_le {test : α → Bool} {xs : List α} (h : PassFirst test xs) {i j : Nat}
    (hij : i ≤ j) (hj : j < xs.length) (passes : test xs[j] = true) : test xs[i] = true := by
  rcases Nat.lt_or_eq_of_le hij with lt | rfl
  · exact List.pairwise_iff_getElem.1 h i j (by omega) hj lt passes
  · exact passes

/-- Whether all elements before `low` pass a test and none from `high` on does. -/
structure IsGap (test : α → Bool) (xs : List α) (low high : Nat) : Prop where
  low_le : low ≤ high
  high_le : high ≤ xs.length
  passes : ∀ {i} (_ : i < low) (h : i < xs.length), test xs[i] = true
  fails : ∀ {i} (_ : high ≤ i) (h : i < xs.length), test xs[i] = false

theorem isGap_widen {test : α → Bool} {xs : List α} (first : PassFirst test xs) {last next : Nat}
    (hlast : last < next) (hnext : last < xs.length) (passes : test xs[last] = true) :
    IsGap test xs ((widen test xs last next).1 + 1) (widen test xs last next).2 := by
  fun_induction widen test xs last next with
  | case1 last next h hpass ih => exact ih (by omega) h hpass
  | case2 last next h hpass =>
    refine ⟨by omega, by omega, fun hi h => first.test_of_le (by omega) hnext passes, ?_⟩
    intro i hi h'
    cases hti : test xs[i]
    · rfl
    · exact absurd (first.test_of_le hi h' hti) hpass
  | case3 last next h =>
    exact ⟨by omega, by omega, fun hi h => first.test_of_le (by omega) hnext passes,
      fun hi h => by omega⟩

theorem isGap_narrow {test : α → Bool} {xs : List α} (first : PassFirst test xs) (early : Bool)
    {low high : Nat} (gap : IsGap test xs low high) :
    IsGap test xs (narrow early test xs low high) (narrow early test xs low high) := by
  fun_induction narrow early test xs low high with
  | case1 low high h middle hpass ih =>
    have hm : middle < high := by
      simp only [middle]
      split <;> omega
    have := gap.high_le
    rw [List.getElem?_eq_getElem (by omega)] at hpass
    refine ih ⟨by omega, gap.high_le, fun hi h => ?_, gap.fails⟩
    exact first.test_of_le (by omega) (by omega) hpass
  | case2 low high h middle hfail ih =>
    have hm : middle < high := by
      simp only [middle]
      split <;> omega
    have := gap.high_le
    rw [List.getElem?_eq_getElem (by omega)] at hfail
    refine ih ⟨by omega, by omega, gap.passes, fun {i} hi h => ?_⟩
    cases hti : test xs[i]
    · rfl
    · exact absurd (first.test_of_le hi h hti) hfail
  | case3 low high h =>
    have : low = high := by have := gap.low_le; omega
    subst this
    exact gap

theorem isGap_lead {test : α → Bool} {xs : List α} (first : PassFirst test xs) (early : Bool) :
    IsGap test xs (lead early test xs) (lead early test xs) := by
  unfold lead
  split
  · exact ⟨by simp, by simp, fun hi h => by simp at h, fun hi h => by simp at h⟩
  · next x xs =>
    split
    · next hx => exact isGap_narrow first early (isGap_widen first Nat.one_pos (by simp) hx)
    · next hx =>
      refine ⟨by simp, by simp, fun hi h => by omega, fun {i} hi h => ?_⟩
      cases hti : test (x :: xs)[i]
      · rfl
      · exact absurd (first.test_of_le hi h hti) hx

theorem test_of_mem_take_lead {test : α → Bool} {xs : List α} (first : PassFirst test xs)
    (early : Bool) {x : α} (h : x ∈ xs.take (lead early test xs)) : test x = true := by
  obtain ⟨i, hi, rfl⟩ := List.mem_iff_getElem.1 h
  rw [List.length_take] at hi
  rw [List.getElem_take]
  exact (isGap_lead first early).passes (by omega) (by omega)

theorem test_of_mem_drop_lead {test : α → Bool} {xs : List α} (first : PassFirst test xs)
    (early : Bool) {x : α} (h : x ∈ xs.drop (lead early test xs)) : test x = false := by
  obtain ⟨i, hi, rfl⟩ := List.mem_iff_getElem.1 h
  rw [List.length_drop] at hi
  rw [List.getElem_drop]
  exact (isGap_lead first early).fails (by omega) (by omega)

end Bookmarks.Sorting
