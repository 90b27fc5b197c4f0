import Bookmarks.Sorting.WeakOrder

/-! Two lists in order, interleaved: the result is in order, and of level elements those of the left
list come first. -/

namespace Bookmarks.Sorting

variable {α : Type}

/-- The elements of two lists, one by one: of the first elements that of the right list if it is
less, and else that of the left list. -/
def interleave (less : α → α → Bool) (left right : List α) : List α :=
  left.merge right fun x y => !less y x

theorem interleave_nil_left (less : α → α → Bool) (right : List α) :
    interleave less [] right = right := by simp [interleave]

theorem interleave_nil_right (less : α → α → Bool) (left : List α) :
    interleave less left [] = left := by simp [interleave]

theorem interleave_cons_cons (less : α → α → Bool) (x y : α) (xs ys : List α) :
    interleave less (x :: xs) (y :: ys) =
      if less y x then y :: interleave less (x :: xs) ys
      else x :: interleave less xs (y :: ys) := by
  rw [interleave, List.cons_merge_cons]
  cases less y x <;> rfl

/-- What is not behind the right list can be taken from the left list. -/
theorem interleave_take_left (less : α → α → Bool) (count : Nat) (left right : List α)
    (h : ∀ x ∈ left.take count, ∀ y ∈ right.head?, less y x = false) :
    interleave less left right =
      left.take count ++ interleave less (left.drop count) right := by
  induction count generalizing left with
  | zero => rfl
  | succ count ih =>
    cases left with
    | nil => rfl
    | cons x xs =>
      cases right with
      | nil => simp [interleave_nil_right]
      | cons y ys =>
        have hyx : less y x = false := h x (by simp) y rfl
        rw [interleave_cons_cons, hyx, List.take_succ_cons, List.drop_succ_cons, List.cons_append,
          ← ih xs fun z hz => h z (by simp [hz])]
        rfl

/-- What is before the left list can be taken from the right list. -/
theorem interleave_take_right (less : α → α → Bool) (count : Nat) (left right : List α)
    (h : ∀ y ∈ right.take count, ∀ x ∈ left.head?, less y x = true) :
    interleave less left right =
      right.take count ++ interleave less left (right.drop count) := by
  induction count generalizing right with
  | zero => rfl
  | succ count ih =>
    cases right with
    | nil => rfl
    | cons y ys =>
      cases left with
      | nil => simp [interleave_nil_left]
      | cons x xs =>
        have hyx : less y x = true := h y (by simp) x rfl
        rw [interleave_cons_cons, hyx, List.take_succ_cons, List.drop_succ_cons, List.cons_append,
          ← ih ys fun z hz => h z (by simp [hz])]
        rfl

theorem mem_interleave {less : α → α → Bool} {left right : List α} {z : α} :
    z ∈ interleave less left right ↔ z ∈ left ∨ z ∈ right := List.mem_merge

/-- What is before nothing of the left list stays behind. -/
theorem interleave_append_right (less : α → α → Bool) (left right after : List α)
    (h : ∀ x ∈ left, ∀ y ∈ after, less y x = false) :
    interleave less left (right ++ after) = interleave less left right ++ after := by
  induction left generalizing right with
  | nil => simp [interleave_nil_left]
  | cons x xs ihl =>
    have tail := fun right => ihl right fun z hz => h z (by simp [hz])
    induction right with
    | nil =>
      cases after with
      | nil => simp
      | cons y ys =>
        have := tail []
        rw [List.nil_append, interleave_nil_right] at this
        rw [List.nil_append, interleave_nil_right, interleave_cons_cons, h x (by simp) y (by simp),
          this]
        rfl
    | cons y ys ihr =>
      have behind := tail (y :: ys)
      rw [List.cons_append] at behind ⊢
      rw [interleave_cons_cons, interleave_cons_cons, ihr, behind]
      split <;> rfl

theorem inOrder_interleave {less : α → α → Bool} (order : IsWeakOrder less) {left right : List α}
    (hleft : InOrder less left) (hright : InOrder less right) :
    InOrder less (interleave less left right) := by
  induction left generalizing right with
  | nil => rwa [interleave_nil_left]
  | cons x xs ihl =>
    obtain ⟨hx, hxs⟩ := List.pairwise_cons.1 hleft
    induction right with
    | nil => rwa [interleave_nil_right]
    | cons y ys ihr =>
      obtain ⟨hy, hys⟩ := List.pairwise_cons.1 hright
      rw [interleave_cons_cons]
      split
      · next hyx =>
        refine List.pairwise_cons.2 ⟨fun z hz => ?_, ihr hys⟩
        rcases mem_interleave.1 hz with hz | hz
        · rcases List.mem_cons.1 hz with rfl | hz
          · exact order.asymm hyx
          · exact order.asymm (order.less_of_less_of_not_less hyx (hx z hz))
        · exact hy z hz
      · next hyx =>
        have hyx : less y x = false := by simpa using hyx
        refine List.pairwise_cons.2 ⟨fun z hz => ?_, ihl hxs hright⟩
        rcases mem_interleave.1 hz with hz | hz
        · exact hx z hz
        · rcases List.mem_cons.1 hz with rfl | hz
          · exact hyx
          · exact order.trans hyx (hy z hz)

theorem filter_level_interleave {less : α → α → Bool} (order : IsWeakOrder less) (z : α)
    {left : List α} (hleft : InOrder less left) (right : List α) :
    (interleave less left right).filter (level less z) =
      (left ++ right).filter (level less z) := by
  induction left generalizing right with
  | nil => rw [interleave_nil_left, List.nil_append]
  | cons x xs ihl =>
    obtain ⟨hx, hxs⟩ := List.pairwise_cons.1 hleft
    induction right with
    | nil => rw [interleave_nil_right, List.append_nil]
    | cons y ys ihr =>
      rw [interleave_cons_cons]
      split
      · next hyx =>
        rw [List.filter_cons, ihr, List.filter_append, List.filter_append (x :: xs)]
        cases hzy : level less z y
        · simp [hzy]
        · have hnone : (x :: xs).filter (level less z) = [] := by
            refine List.filter_eq_nil_iff.2 fun w hw => ?_
            have hyw : less y w = true := by
              rcases List.mem_cons.1 hw with rfl | hw
              · exact hyx
              · exact order.less_of_less_of_not_less hyx (hx w hw)
            have hzw : less z w = true :=
              order.less_of_not_less_of_less (level_eq_true.1 hzy).2 hyw
            simp [level, hzw]
          simp [hzy, hnone]
      · rw [List.filter_cons, ihl hxs, List.cons_append, List.filter_cons]

end Bookmarks.Sorting
