import Bookmarks.Sorting.Basic

/-! Sorting loses nothing and adds nothing, whatever the order is. -/

namespace Bookmarks.Sorting

variable {α : Type}

namespace Merging

/-- All elements, those that are merged already first. -/
def content (m : Merging α) : List α := m.merged.reverse ++ (m.left ++ m.right)

theorem result_perm (m : Merging α) : m.result.Perm m.content :=
  List.perm_append_comm.append_left _

theorem takeLeft_content (count : Nat) (m : Merging α) :
    (m.takeLeft count).content = m.content := by
  unfold takeLeft
  split
  · rfl
  · simp [content, ← List.append_assoc (m.left.take count)]

theorem takeRight_perm (count : Nat) (m : Merging α) :
    (m.takeRight count).content.Perm m.content := by
  unfold takeRight
  split
  · rfl
  · simp only [content, List.reverse_append, List.reverse_reverse, List.append_assoc]
    refine List.Perm.append_left _ ?_
    rw [← List.append_assoc]
    refine (List.perm_append_comm.append_right _).trans ?_
    rw [List.append_assoc, List.take_append_drop]

theorem leap_perm (less : α → α → Bool) (backwards : Bool) (m : Merging α) :
    (m.leap less backwards).content.Perm m.content := by
  unfold leap
  split
  · simp only [leapLeft, leapRight]
    refine (takeRight_perm 1 _).trans ?_
    simp only [takeLeft_content]
    exact takeRight_perm ..
  · simp only [leapLeft, leapRight, takeLeft_content]
    refine (takeRight_perm _ _).trans ((takeRight_perm 1 _).trans ?_)
    rw [takeLeft_content]

theorem run_perm (less : α → α → Bool) (backwards : Bool) (threshold : Nat) (pace : Pace)
    (m : Merging α) : (m.run less backwards threshold pace).1.Perm m.content := by
  fun_induction run less backwards threshold pace m with
  | case1 => exact result_perm _
  | case2 _ _ _ _ _ _ _ ih => exact ih.trans (takeRight_perm ..)
  | case3 _ _ _ _ _ _ _ ih => exact ih.trans (by rw [takeLeft_content])
  | case4 _ _ _ _ _ _ _ _ ih => exact ih.trans (leap_perm ..)

end Merging

theorem mergeForwards_perm (less : α → α → Bool) (threshold : Nat) (left right : List α) :
    (mergeForwards less threshold left right).1.Perm (left ++ right) := by
  refine (Merging.run_perm ..).trans ?_
  refine ((List.reverse_perm _).append_right _).trans ?_
  refine (List.perm_append_comm_assoc _ _ _).trans ?_
  rw [List.take_append_drop]

theorem mergeBackwards_perm (less : α → α → Bool) (threshold : Nat) (left right : List α) :
    (mergeBackwards less threshold left right).1.Perm (left ++ right) := by
  refine (List.reverse_perm _).trans ((Merging.run_perm ..).trans ?_)
  refine ((List.reverse_perm _).append_right _).trans ?_
  refine (List.perm_append_comm_assoc _ _ _).trans ?_
  rw [List.take_append_drop]
  exact ((List.reverse_perm _).append (List.reverse_perm _)).trans List.perm_append_comm

theorem mergeOverlap_perm (less : α → α → Bool) (threshold : Nat) (left right : List α) :
    (mergeOverlap less threshold left right).1.Perm (left ++ right) := by
  unfold mergeOverlap
  split
  · exact mergeForwards_perm ..
  · exact mergeBackwards_perm ..

theorem merge_perm (less : α → α → Bool) (threshold : Nat) (left right : List α) :
    (merge less threshold left right).1.Perm (left ++ right) := by
  unfold merge
  split
  · next h => simp [List.head?_eq_none_iff.1 h]
  · dsimp only
    split
    · rfl
    · split
      · rfl
      · dsimp only
        refine (((mergeOverlap_perm ..).append_right _).append_left _).trans ?_
        simp only [List.append_assoc, List.take_append_drop]
        rw [← List.append_assoc, List.take_append_drop]

/-- The elements of runs, of which the last one stands first. -/
def elements (runs : List (List α)) : List α := runs.reverse.flatten

theorem elements_cons (run : List α) (runs : List (List α)) :
    elements (run :: runs) = elements runs ++ run := by simp [elements]

theorem absorb_perm (less : α → α → Bool) (depth threshold : Nat) (last : Waiting α)
    (waiting : List (Waiting α)) :
    (elements ((absorb less depth threshold last waiting).1.map (·.run))).Perm
      (elements (waiting.map (·.run)) ++ last.run) := by
  induction waiting generalizing last threshold with
  | nil => simp [absorb, elements]
  | cons before rest ih =>
    unfold absorb
    split
    · refine (ih _ _).trans ?_
      rw [List.map_cons, elements_cons, List.append_assoc]
      exact (merge_perm ..).append_left _
    · simp [elements_cons]

theorem add_perm (less : α → α → Bool) (total : Nat) (state : List (Waiting α) × Nat)
    (run : List α) :
    (elements ((add less total state run).1.map (·.run))).Perm
      (elements (state.1.map (·.run)) ++ run) := by
  unfold add
  split
  · simp [elements]
  · simp only [List.map_cons, elements_cons]
    exact (absorb_perm ..).append_right _

theorem mergeAll_perm (less : α → α → Bool) (threshold : Nat) (runs : List (List α)) :
    (mergeAll less threshold runs).Perm (elements runs) := by
  fun_induction mergeAll less threshold runs with
  | case1 => rfl
  | case2 => simp [elements]
  | case3 => simpa [elements] using merge_perm ..
  | case4 threshold last before first rest _ run _ merged ih =>
    have pair := merge_perm less threshold first before
    rw [merged] at pair
    refine ih.trans ?_
    simp only [elements_cons, List.append_assoc]
    refine List.Perm.append_left _ ?_
    rw [← List.append_assoc]
    exact pair.append_right _
  | case5 threshold last before first rest _ run _ merged ih =>
    have pair := merge_perm less threshold before last
    rw [merged] at pair
    refine ih.trans ?_
    simp only [elements_cons, List.append_assoc]
    exact (pair.append_left _).append_left _

theorem foldl_add_perm (less : α → α → Bool) (total : Nat) (runs : List (List α))
    (state : List (Waiting α) × Nat) :
    (elements ((runs.foldl (add less total) state).1.map (·.run))).Perm
      (elements (state.1.map (·.run)) ++ runs.flatten) := by
  induction runs generalizing state with
  | nil => simp
  | cons run runs ih =>
    refine (ih _).trans (((add_perm ..).append_right _).trans ?_)
    simp

theorem sort_perm (less : α → α → Bool) (xs : List α) : (sort less xs).Perm xs := by
  refine (mergeAll_perm ..).trans ((foldl_add_perm ..).trans ?_)
  exact runs_perm less _ xs

theorem mem_sort {less : α → α → Bool} {xs : List α} {x : α} : x ∈ sort less xs ↔ x ∈ xs :=
  (sort_perm less xs).mem_iff

end Bookmarks.Sorting
