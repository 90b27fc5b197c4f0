import Bookmarks.Sorting.Interleave
import Bookmarks.Sorting.Lead

/-! Merging in leaps interleaves two runs. -/

namespace Bookmarks.Sorting

variable {α : Type}

namespace Merging

/-- Whether both runs are in order and the last element of the left one comes last. -/
structure Fits (less : α → α → Bool) (m : Merging α) : Prop where
  left : InOrder less m.left
  right : InOrder less m.right
  last : ∀ x ∈ m.left.getLast?, ∀ y ∈ m.right, less y x = true

def outcome (less : α → α → Bool) (m : Merging α) : List α :=
  m.merged.reverse ++ interleave less m.left m.right

theorem result_eq {less : α → α → Bool} {m : Merging α} (fits : m.Fits less)
    (h : m.isOver = true) : m.result = m.outcome less := by
  obtain ⟨merged, left, right⟩ := m
  rcases left with _ | ⟨x, _ | ⟨x', xs⟩⟩
  · simp [result, outcome, interleave_nil_left]
  · have whole := interleave_take_right less right.length [x] right fun y hy x' hx' => by
      refine fits.last x' ?_ y (List.mem_of_mem_take hy)
      simpa using hx'
    simp [result, outcome, whole, interleave_nil_right]
  · rcases right with _ | ⟨y, ys⟩
    · simp [result, outcome, interleave_nil_right]
    · simp [isOver] at h

theorem fits_takeLeft {less : α → α → Bool} {m : Merging α} (fits : m.Fits less) (count : Nat) :
    (m.takeLeft count).Fits less := by
  unfold takeLeft
  split
  · exact fits
  · refine ⟨fits.left.sublist (List.drop_sublist _ _), fits.right, fun x hx y hy => ?_⟩
    rw [List.getLast?_drop] at hx
    split at hx
    · simp at hx
    · exact fits.last x hx y hy

theorem fits_takeRight {less : α → α → Bool} {m : Merging α} (fits : m.Fits less) (count : Nat) :
    (m.takeRight count).Fits less := by
  unfold takeRight
  split
  · exact fits
  · exact ⟨fits.left, fits.right.sublist (List.drop_sublist _ _),
      fun x hx y hy => fits.last x hx y (List.mem_of_mem_drop hy)⟩

theorem outcome_takeLeft {less : α → α → Bool} {count : Nat} {m : Merging α}
    (h : m.isOver = false → ∀ x ∈ m.left.take count, ∀ y ∈ m.right.head?, less y x = false) :
    (m.takeLeft count).outcome less = m.outcome less := by
  unfold takeLeft
  split
  · rfl
  · next ended =>
    have := interleave_take_left less count m.left m.right (h (by simpa using ended))
    simp [outcome, this]

theorem outcome_takeRight {less : α → α → Bool} {count : Nat} {m : Merging α}
    (h : m.isOver = false → ∀ y ∈ m.right.take count, ∀ x ∈ m.left.head?, less y x = true) :
    (m.takeRight count).outcome less = m.outcome less := by
  unfold takeRight
  split
  · rfl
  · next ended =>
    have := interleave_take_right less count m.left m.right (h (by simpa using ended))
    simp [outcome, this]

theorem passFirst_left {less : α → α → Bool} (order : IsWeakOrder less) (y : α) {xs : List α}
    (h : InOrder less xs) : PassFirst (fun x => !less y x) xs :=
  h.imp fun {a b} hba hyb => by
    simp only [Bool.not_eq_true'] at hyb ⊢
    exact order.trans hba hyb

theorem passFirst_right {less : α → α → Bool} (order : IsWeakOrder less) (x : α) {ys : List α}
    (h : InOrder less ys) : PassFirst (fun y => less y x) ys :=
  h.imp fun hba hbx => order.less_of_not_less_of_less hba hbx

theorem outcome_leapLeft {less : α → α → Bool} (order : IsWeakOrder less) (early : Bool)
    {m : Merging α} (fits : m.Fits less) :
    (m.leapLeft less early).outcome less = m.outcome less := by
  obtain ⟨merged, left, right⟩ := m
  cases right with
  | nil => simp [leapLeft, takeLeft, takeRight, isOver]
  | cons y ys =>
    have first := passFirst_left order y fits.left
    rw [leapLeft, outcome_takeRight, outcome_takeLeft]
    · intro _ x hx y' hy'
      obtain rfl : y = y' := by simpa using hy'
      simpa using test_of_mem_take_lead first early hx
    · intro ended y' hy' x hx
      unfold takeLeft at ended hy' hx
      split at ended
      · next h => simp [h] at ended
      · next h =>
        simp only [h, Bool.false_eq_true, if_false] at hy' hx
        obtain rfl : y' = y := by simpa using hy'
        simpa using test_of_mem_drop_lead first early (List.mem_of_head? hx)

theorem outcome_leapRight {less : α → α → Bool} (order : IsWeakOrder less) (early : Bool)
    {m : Merging α} (fits : m.Fits less) :
    (m.leapRight less early).outcome less = m.outcome less := by
  obtain ⟨merged, left, right⟩ := m
  cases left with
  | nil => simp [leapRight, takeLeft, takeRight, isOver]
  | cons x xs =>
    have first := passFirst_right order x fits.right
    rw [leapRight, outcome_takeLeft, outcome_takeRight]
    · intro _ y hy x' hx'
      obtain rfl : x = x' := by simpa using hx'
      exact test_of_mem_take_lead first early hy
    · intro ended x' hx' y hy
      unfold takeRight at ended hy hx'
      split at ended
      · next h => simp [h] at ended
      · next h =>
        simp only [h, Bool.false_eq_true, if_false] at hy hx'
        obtain rfl : x' = x := by simpa using hx'
        exact test_of_mem_drop_lead first early (List.mem_of_head? hy)

theorem fits_leap {less : α → α → Bool} (backwards : Bool) {m : Merging α} (fits : m.Fits less) :
    (m.leap less backwards).Fits less := by
  unfold leap
  split
  · exact fits_takeRight (fits_takeLeft (fits_takeLeft (fits_takeRight fits _) _) _) _
  · exact fits_takeLeft (fits_takeRight (fits_takeRight (fits_takeLeft fits _) _) _) _

theorem outcome_leap {less : α → α → Bool} (order : IsWeakOrder less) (backwards : Bool)
    {m : Merging α} (fits : m.Fits less) :
    (m.leap less backwards).outcome less = m.outcome less := by
  unfold leap
  split
  · rw [outcome_leapLeft order, outcome_leapRight order _ fits]
    exact fits_takeLeft (fits_takeRight fits _) _
  · rw [outcome_leapRight order, outcome_leapLeft order _ fits]
    exact fits_takeRight (fits_takeLeft fits _) _

theorem run_eq {less : α → α → Bool} (order : IsWeakOrder less) (backwards : Bool)
    (threshold : Nat) (pace : Pace) {m : Merging α} (fits : m.Fits less) :
    (m.run less backwards threshold pace).1 = m.outcome less := by
  fun_induction run less backwards threshold pace m with
  | case1 _ _ m ended => exact result_eq fits ended
  | case2 _ m _ ended leftWins rightWins first ih =>
    rw [ih (fits_takeRight fits 1), outcome_takeRight]
    obtain ⟨merged, left, right⟩ := m
    intro _ y hy x hx
    cases left <;> cases right <;> simp_all [isRightFirst]
  | case3 _ m _ ended leftWins rightWins first ih =>
    rw [ih (fits_takeLeft fits 1), outcome_takeLeft]
    obtain ⟨merged, left, right⟩ := m
    intro _ x hx y hy
    cases left <;> cases right <;> simp_all [isRightFirst]
  | case4 _ m _ ended isFirst next pace after ih =>
    rw [ih (fits_leap backwards fits), outcome_leap order backwards fits]

end Merging

/-- A merge that begins with an element of the right run. -/
theorem run_start_eq {less : α → α → Bool} (order : IsWeakOrder less) (backwards : Bool)
    (threshold : Nat) {left right : List α} (hleft : InOrder less left)
    (hright : InOrder less right)
    (first : ∀ x ∈ left.head?, ∀ y ∈ right.head?, less y x = true)
    (last : ∀ x ∈ left.getLast?, ∀ y ∈ right, less y x = true) :
    (Merging.run less backwards threshold (.singly 0 0) ⟨right.take 1, left, right.drop 1⟩).1 =
      interleave less left right := by
  rw [Merging.run_eq order backwards threshold (.singly 0 0) ⟨hleft,
    hright.sublist (List.drop_sublist _ _), fun x hx y hy => last x hx y (List.mem_of_mem_drop hy)⟩,
    interleave_take_right less 1]
  · cases right <;> rfl
  · intro y hy x hx
    cases right with
    | nil => simp at hy
    | cons y' ys =>
      obtain rfl : y = y' := by simpa using hy
      exact first x hx y rfl

theorem mergeForwards_eq {less : α → α → Bool} (order : IsWeakOrder less) (threshold : Nat)
    {left right : List α} (hleft : InOrder less left) (hright : InOrder less right)
    (first : ∀ x ∈ left.head?, ∀ y ∈ right.head?, less y x = true)
    (last : ∀ x ∈ left.getLast?, ∀ y ∈ right, less y x = true) :
    (mergeForwards less threshold left right).1 = interleave less left right :=
  run_start_eq order false threshold hleft hright first last

theorem mergeBackwards_eq {less : α → α → Bool} (order : IsWeakOrder less) (threshold : Nat)
    {left right : List α} (hleft : InOrder less left) (hright : InOrder less right)
    (first : ∀ x ∈ left, ∀ y ∈ right.head?, less y x = true)
    (last : ∀ x ∈ left.getLast?, ∀ y ∈ right.getLast?, less y x = true) :
    (mergeBackwards less threshold left right).1 = interleave less left right := by
  have hleft' : InOrder (fun a b => less b a) left.reverse := inOrder_reverse.2 hleft
  have hright' : InOrder (fun a b => less b a) right.reverse := inOrder_reverse.2 hright
  have run := run_start_eq order.swap true threshold hright' hleft'
    (fun y hy x hx => last x (by simpa using hx) y (by simpa using hy))
    (fun y hy x hx => first x (by simpa using hx) y (by simpa using hy))
  refine (congrArg List.reverse run).trans (eq_of_inOrder order ?_ ?_ fun z => ?_)
  · rw [← inOrder_reverse, List.reverse_reverse]
    exact inOrder_interleave order.swap hright' hleft'
  · exact inOrder_interleave order hleft hright
  · have merged := filter_level_interleave order.swap z hright' left.reverse
    rw [level_swap] at merged
    rw [List.filter_reverse, merged, ← List.reverse_append, List.filter_reverse,
      List.reverse_reverse, filter_level_interleave order z hleft]

theorem mergeOverlap_eq {less : α → α → Bool} (order : IsWeakOrder less) (threshold : Nat)
    {left right : List α} (hleft : InOrder less left) (hright : InOrder less right)
    (first : ∀ x ∈ left, ∀ y ∈ right.head?, less y x = true)
    (last : ∀ x ∈ left.getLast?, ∀ y ∈ right, less y x = true) :
    (mergeOverlap less threshold left right).1 = interleave less left right := by
  unfold mergeOverlap
  split
  · exact mergeForwards_eq order threshold hleft hright
      (fun x hx => first x (List.mem_of_head? hx)) last
  · exact mergeBackwards_eq order threshold hleft hright first
      fun x hx y hy => last x hx y (List.mem_of_getLast? hy)

theorem merge_eq {less : α → α → Bool} (order : IsWeakOrder less) (threshold : Nat)
    {left right : List α} (hleft : InOrder less left) (hright : InOrder less right) :
    (merge less threshold left right).1 = interleave less left right := by
  unfold merge
  split
  · next h => rw [List.head?_eq_none_iff.1 h, interleave_nil_right]
  · next y hy =>
    dsimp only
    have before := Merging.passFirst_left order y hleft
    have kept := interleave_take_left less (lead false (fun x => !less y x) left) left right
      fun x hx y' hy' => by
        obtain rfl : y = y' := Option.some.inj (hy.symm.trans hy')
        simpa using test_of_mem_take_lead before false hx
    have first : ∀ x ∈ left.drop (lead false (fun x => !less y x) left), less y x = true :=
      fun x hx => by simpa using test_of_mem_drop_lead before false hx
    generalize lead false (fun x => !less y x) left = k at *
    have hrest : InOrder less (left.drop k) := hleft.sublist (List.drop_sublist _ _)
    rw [kept]
    split
    · next h =>
      have empty := List.getLast?_eq_none_iff.1 h
      have whole := List.take_append_drop k left
      rw [empty, List.append_nil] at whole
      rw [empty, interleave_nil_left, whole]
    · next x hx =>
      have behind : PassFirst (fun y => !less y x) right.reverse :=
        List.pairwise_reverse.2 (hright.imp fun {a b} hba hax => by
          simp only [Bool.not_eq_true'] at hax ⊢
          exact order.trans hax hba)
      have last : ∀ z ∈ left.drop k, less x z = false := by
        obtain ⟨init, whole⟩ := List.getLast?_eq_some_iff.1 hx
        intro z hz
        rw [whole] at hrest hz
        rcases List.mem_append.1 hz with hz | hz
        · exact (List.pairwise_append.1 hrest).2.2 z hz x (by simp)
        · obtain rfl : z = x := by simpa using hz
          exact order.irrefl z
      have after : ∀ z ∈ right.drop (right.length - lead true (fun y => !less y x) right.reverse),
          less z x = false := fun z hz => by
        have found : z ∈ right.reverse.take (lead true (fun y => !less y x) right.reverse) := by
          simpa [List.take_reverse] using hz
        simpa using test_of_mem_take_lead behind true found
      have moved : ∀ z ∈ right.take (right.length - lead true (fun y => !less y x) right.reverse),
          less z x = true := fun z hz => by
        have found : z ∈ right.reverse.drop (lead true (fun y => !less y x) right.reverse) := by
          simpa [List.drop_reverse] using hz
        simpa using test_of_mem_drop_lead behind true found
      generalize right.length - lead true (fun y => !less y x) right.reverse = n at *
      have split := interleave_append_right less (left.drop k) (right.take n) (right.drop n)
        fun z hz w hw => order.trans (last z hz) (after w hw)
      rw [List.take_append_drop] at split
      rw [split]
      split
      · next h =>
        subst h
        rw [List.take_zero, List.drop_zero, interleave_nil_right, ← List.append_assoc,
          List.take_append_drop]
      · next h =>
        dsimp only
        rw [mergeOverlap_eq order threshold hrest (hright.sublist (List.take_sublist _ _))]
        · intro z hz w hw
          rw [List.head?_take, if_neg h] at hw
          obtain rfl : y = w := Option.some.inj (hy.symm.trans hw)
          exact first z hz
        · intro z hz w hw
          obtain rfl : z = x := Option.some.inj (hz.symm.trans hx)
          exact moved w hw

end Bookmarks.Sorting
