import Bookmarks.Sorting.Run
import Bookmarks.Sorting.WeakOrder

/-! Runs are in order, and taking them keeps the order of level elements. -/

namespace Bookmarks.Sorting

variable {α : Type}

/-- In a list that is in order the new element comes behind those that it is not less than. -/
theorem place_eq {less : α → α → Bool} (order : IsWeakOrder less) (x : α) {xs : List α}
    (h : InOrder less xs) :
    place less x xs = xs.filter (!less x ·) ++ x :: xs.filter (less x ·) := by
  induction size : xs.length using Nat.strongRecOn generalizing xs with
  | ind n ih =>
    subst size
    have parts := List.take_append_drop (xs.length / 2) xs
    rw [place]
    split
    · next empty =>
      rw [List.drop_eq_nil_iff] at empty
      have : xs = [] := List.eq_nil_of_length_eq_zero (by omega)
      simp [this]
    · next y after found =>
      have size := congrArg List.length found
      simp only [List.length_drop, List.length_cons] at size
      rw [found] at parts
      rw [InOrder, ← parts, List.pairwise_append, List.pairwise_cons] at h
      obtain ⟨hbefore, ⟨hy, hafter⟩, hcross⟩ := h
      split
      · next hxy =>
        have hall : ∀ z ∈ y :: after, less x z = true := by
          intro z hz
          rcases List.mem_cons.1 hz with rfl | hz
          · exact hxy
          · exact order.less_of_less_of_not_less hxy (hy z hz)
        have hnone : (y :: after).filter (!less x ·) = [] :=
          List.filter_eq_nil_iff.2 fun z hz => by simp [hall z hz]
        rw [ih _ (by simp only [List.length_take]; omega) hbefore rfl]
        conv => rhs; rw [← parts]
        rw [List.filter_append, List.filter_append, hnone, List.filter_eq_self.2 hall]
        simp
      · next hxy =>
        have hxy : less x y = false := by simpa using hxy
        have hall : ∀ z ∈ xs.take (xs.length / 2), less x z = false := fun z hz =>
          order.trans (hcross z hz y List.mem_cons_self) hxy
        have hnone : (xs.take (xs.length / 2)).filter (less x ·) = [] :=
          List.filter_eq_nil_iff.2 fun z hz => by simp [hall z hz]
        have hself : (xs.take (xs.length / 2)).filter (!less x ·) = xs.take (xs.length / 2) :=
          List.filter_eq_self.2 fun z hz => by simp [hall z hz]
        rw [ih after.length (by omega) hafter rfl]
        conv => rhs; rw [← parts]
        rw [List.filter_append, List.filter_append, hnone, hself]
        simp [hxy]

theorem inOrder_place {less : α → α → Bool} (order : IsWeakOrder less) (x : α) {xs : List α}
    (h : InOrder less xs) : InOrder less (place less x xs) := by
  rw [place_eq order x h, InOrder, List.pairwise_append, List.pairwise_cons]
  refine ⟨List.Pairwise.filter _ h, ⟨fun z hz => ?_, List.Pairwise.filter _ h⟩, fun y hy z hz => ?_⟩
  · exact order.asymm (List.mem_filter.1 hz).2
  · have hxy : less x y = false := by simpa using (List.mem_filter.1 hy).2
    rcases List.mem_cons.1 hz with rfl | hz
    · exact hxy
    · exact order.asymm (order.less_of_not_less_of_less hxy (List.mem_filter.1 hz).2)

/-- The new element comes behind those that are level with it, and the others keep their order. -/
theorem filter_level_place {less : α → α → Bool} (order : IsWeakOrder less) (x z : α) {xs : List α}
    (h : InOrder less xs) :
    (place less x xs).filter (level less z) = (xs ++ [x]).filter (level less z) := by
  rw [place_eq order x h, List.filter_append, List.filter_append, List.filter_cons,
    List.filter_filter, List.filter_filter, filter_level_and order x z (!·) xs,
    filter_level_and order x z (·) xs]
  cases hxz : less x z
  · by_cases hx : level less z x = true <;> simp [hx]
  · have hx : level less z x = false := by simp [level, hxz]
    simp [hx]

theorem inOrder_placeAll {less : α → α → Bool} (order : IsWeakOrder less) (xs : List α)
    {start : List α} (h : InOrder less start) :
    InOrder less (placeAll less start xs) := by
  induction xs generalizing start with
  | nil => exact h
  | cons y ys ih => exact ih (inOrder_place order y h)

theorem filter_level_placeAll {less : α → α → Bool} (order : IsWeakOrder less) (z : α)
    (xs : List α) {start : List α} (h : InOrder less start) :
    (placeAll less start xs).filter (level less z) =
      (start ++ xs).filter (level less z) := by
  induction xs generalizing start with
  | nil => simp [placeAll]
  | cons y ys ih =>
    rw [placeAll, List.foldl_cons, ← placeAll, ih (inOrder_place order y h), List.filter_append,
      filter_level_place order y z h, ← List.filter_append]
    simp

/-- A run of which each element is not less than the one before is in order. -/
theorem inOrder_splitRun {less : α → α → Bool} (order : IsWeakOrder less) (x : α) (xs : List α) :
    InOrder less (x :: (splitRun (fun a b => less b a == false) x xs).1) := by
  induction xs generalizing x with
  | nil => simp [InOrder, splitRun]
  | cons y ys ih =>
    unfold splitRun
    split
    · next hyx =>
      have hyx : less y x = false := by simpa using hyx
      have tail := ih y
      refine List.pairwise_cons.2 ⟨fun z hz => ?_, tail⟩
      rcases List.mem_cons.1 hz with rfl | hz
      · exact hyx
      · exact order.trans hyx ((List.pairwise_cons.1 tail).1 z hz)
    · simp [InOrder]

/-- In a run of which each element is less than the one before, each one is less than all before. -/
theorem falling_splitRun {less : α → α → Bool} (order : IsWeakOrder less) (x : α) (xs : List α) :
    (x :: (splitRun (fun a b => less b a == true) x xs).1).Pairwise fun a b => less b a = true := by
  induction xs generalizing x with
  | nil => simp [splitRun]
  | cons y ys ih =>
    unfold splitRun
    split
    · next hyx =>
      have hyx : less y x = true := by simpa using hyx
      have tail := ih y
      refine List.pairwise_cons.2 ⟨fun z hz => ?_, tail⟩
      rcases List.mem_cons.1 hz with rfl | hz
      · exact hyx
      · exact order.less_trans ((List.pairwise_cons.1 tail).1 z hz) hyx
    · simp

/-- No two elements of a falling list are level, so turning it round changes no class. -/
theorem filter_level_reverse {less : α → α → Bool} (order : IsWeakOrder less) (z : α) {xs : List α}
    (h : xs.Pairwise fun a b => less b a = true) :
    xs.reverse.filter (level less z) = xs.filter (level less z) := by
  induction xs with
  | nil => rfl
  | cons x xs ih =>
    obtain ⟨hx, hxs⟩ := List.pairwise_cons.1 h
    rw [List.reverse_cons, List.filter_append, ih hxs]
    by_cases hzx : level less z x = true
    · have hnone : xs.filter (level less z) = [] := List.filter_eq_nil_iff.2 fun y hy => by
        have hyz : less y z = true := by
          rw [← less_congr order y hzx]
          exact hx y hy
        simp [level, hyz]
      simp [hzx, hnone]
    · simp [hzx]

theorem inOrder_naturalRun {less : α → α → Bool} (order : IsWeakOrder less) (x : α)
    (xs : List α) : InOrder less (naturalRun less x xs).1 := by
  unfold naturalRun
  cases falls less x xs
  · exact inOrder_splitRun order x xs
  · refine List.pairwise_reverse.2 ?_
    exact (falling_splitRun order x xs).imp fun h => order.asymm h

theorem filter_level_naturalRun {less : α → α → Bool} (order : IsWeakOrder less) (x z : α)
    (xs : List α) :
    ((naturalRun less x xs).1 ++ (naturalRun less x xs).2).filter (level less z) =
      (x :: xs).filter (level less z) := by
  unfold naturalRun
  cases falls less x xs
  · exact congrArg _ (congrArg (x :: ·) (splitRun_append _ x xs))
  · refine List.filter_append .. |>.trans ?_
    refine (congrArg (· ++ _) (filter_level_reverse order z (falling_splitRun order x xs))).trans ?_
    rw [← List.filter_append, List.cons_append]
    exact congrArg _ (congrArg (x :: ·) (splitRun_append _ x xs))

theorem inOrder_takeRun {less : α → α → Bool} (order : IsWeakOrder less) (shortest : Nat) (x : α)
    (xs : List α) : InOrder less (takeRun less shortest x xs).1 :=
  inOrder_placeAll order _ (inOrder_naturalRun order x xs)

theorem filter_level_takeRun {less : α → α → Bool} (order : IsWeakOrder less) (shortest : Nat)
    (x z : α) (xs : List α) :
    ((takeRun less shortest x xs).1 ++ (takeRun less shortest x xs).2).filter (level less z) =
      (x :: xs).filter (level less z) := by
  rw [← filter_level_naturalRun order x z xs, takeRun, List.filter_append,
    filter_level_placeAll order z _ (inOrder_naturalRun order x xs), ← List.filter_append,
    List.append_assoc, List.take_append_drop]

theorem inOrder_of_mem_runs {less : α → α → Bool} (order : IsWeakOrder less) (shortest : Nat)
    {xs run : List α} (h : run ∈ runs less shortest xs) : InOrder less run := by
  fun_induction runs less shortest xs with
  | case1 => simp at h
  | case2 x xs ih =>
    rcases List.mem_cons.1 h with rfl | h
    · exact inOrder_takeRun order shortest x xs
    · exact ih h

theorem filter_level_runs {less : α → α → Bool} (order : IsWeakOrder less) (shortest : Nat) (z : α)
    (xs : List α) :
    (runs less shortest xs).flatten.filter (level less z) = xs.filter (level less z) := by
  fun_induction runs less shortest xs with
  | case1 => rfl
  | case2 x xs ih =>
    rw [List.flatten_cons, List.filter_append, ih, ← List.filter_append]
    exact filter_level_takeRun order shortest x z xs

end Bookmarks.Sorting
