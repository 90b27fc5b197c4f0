import Bookmarks.Sorting.Basic

/-! Elements are told apart by the order only: to sort images is to sort by the order of the images.
-/

namespace Bookmarks.Sorting

variable {α β : Type}

/-- The order of elements by that of their images. -/
abbrev along (f : β → α) (less : α → α → Bool) (a b : β) : Bool := less (f a) (f b)

variable (f : β → α) (less : α → α → Bool)

theorem place_map (x : β) (xs : List β) :
    place less (f x) (xs.map f) = (place (along f less) x xs).map f := by
  induction size : xs.length using Nat.strongRecOn generalizing xs with
  | ind n ih =>
    subst size
    cases found : xs.drop (xs.length / 2) with
    | nil =>
      have mapped : (xs.map f).drop ((xs.map f).length / 2) = [] := by simp [← List.map_drop, found]
      rw [place_of_drop_eq_nil _ _ found, place_of_drop_eq_nil _ _ mapped]
      rfl
    | cons y after =>
      have size := congrArg List.length found
      simp only [List.length_drop, List.length_cons] at size
      have mapped : (xs.map f).drop ((xs.map f).length / 2) = f y :: after.map f := by
        simp [← List.map_drop, found]
      rw [place_of_drop_eq_cons _ _ found, place_of_drop_eq_cons _ _ mapped, List.length_map,
        ← List.map_take, along]
      split
      · rw [ih _ (by simp only [List.length_take]; omega) _ rfl, List.map_append, List.map_cons]
      · rw [ih _ (by omega) _ rfl, List.map_append, List.map_cons]

theorem placeAll_map (sorted xs : List β) :
    placeAll less (sorted.map f) (xs.map f) = (placeAll (along f less) sorted xs).map f := by
  induction xs generalizing sorted with
  | nil => rfl
  | cons x xs ih =>
    simp only [placeAll, List.map_cons, List.foldl_cons] at ih ⊢
    rw [place_map, ih]

theorem splitRun_map (related : α → α → Bool) (x : β) (xs : List β) :
    splitRun related (f x) (xs.map f) =
      (splitRun (along f related) x xs).map (List.map f) (List.map f) := by
  induction xs generalizing x with
  | nil => rfl
  | cons y ys ih =>
    simp only [splitRun, List.map_cons, ih, along]
    by_cases h : related (f x) (f y) <;> simp [h]

theorem falls_map (x : β) (xs : List β) :
    falls less (f x) (xs.map f) = falls (along f less) x xs := by
  cases xs <;> rfl

theorem naturalRun_map (x : β) (xs : List β) :
    naturalRun less (f x) (xs.map f) =
      (naturalRun (along f less) x xs).map (List.map f) (List.map f) := by
  simp only [naturalRun, falls_map]
  rw [splitRun_map f (fun a b => less b a == falls (along f less) x xs)]
  by_cases h : falls (along f less) x xs <;> simp [h]

theorem takeRun_map (shortest : Nat) (x : β) (xs : List β) :
    takeRun less shortest (f x) (xs.map f) =
      (takeRun (along f less) shortest x xs).map (List.map f) (List.map f) := by
  simp [takeRun, naturalRun_map, ← List.map_take, placeAll_map]

theorem runs_map (shortest : Nat) (xs : List β) :
    runs less shortest (xs.map f) = (runs (along f less) shortest xs).map (List.map f) := by
  fun_induction runs (along f less) shortest xs with
  | case1 => simp [runs]
  | case2 x xs ih => rw [List.map_cons, runs, takeRun_map]; simp [ih]

theorem widen_map (test : α → Bool) (xs : List β) (last next : Nat) :
    widen test (xs.map f) last next = widen (fun x => test (f x)) xs last next := by
  fun_induction widen (fun x => test (f x)) xs last next with
  | case1 last next h passes ih => rw [widen]; simp [h, passes, ih]
  | case2 last next h passes => rw [widen]; simp [h, passes]
  | case3 last next h => rw [widen]; simp [h]

theorem narrow_map (early : Bool) (test : α → Bool) (xs : List β) (low high : Nat) :
    narrow early test (xs.map f) low high = narrow early (fun x => test (f x)) xs low high := by
  fun_induction narrow early (fun x => test (f x)) xs low high with
  | case1 low high h middle passes ih =>
    rw [narrow]
    simp only [h, if_true, List.getElem?_map, Option.any_map]
    rw [if_pos (by simpa [middle, Function.comp_def] using passes)]
    exact ih
  | case2 low high h middle fails ih =>
    rw [narrow]
    simp only [h, if_true, List.getElem?_map, Option.any_map]
    rw [if_neg (by simpa [middle, Function.comp_def] using fails)]
    exact ih
  | case3 low high h => rw [narrow, if_neg h]

theorem lead_map (early : Bool) (test : α → Bool) (xs : List β) :
    lead early test (xs.map f) = lead early (fun x => test (f x)) xs := by
  cases xs with
  | nil => rfl
  | cons x xs =>
    simp only [lead, List.map_cons]
    rw [← List.map_cons, widen_map, narrow_map]

namespace Merging

def map (f : β → α) (m : Merging β) : Merging α := ⟨m.merged.map f, m.left.map f, m.right.map f⟩

theorem isOver_map (m : Merging β) : (m.map f).isOver = m.isOver := by
  simp [isOver, map, ← List.map_tail]

theorem result_map (m : Merging β) : (m.map f).result = m.result.map f := by
  simp [result, map]

theorem takeLeft_map (count : Nat) (m : Merging β) :
    (m.map f).takeLeft count = (m.takeLeft count).map f := by
  unfold takeLeft
  rw [isOver_map]
  split
  · rfl
  · simp [map]

theorem takeRight_map (count : Nat) (m : Merging β) :
    (m.map f).takeRight count = (m.takeRight count).map f := by
  unfold takeRight
  rw [isOver_map]
  split
  · rfl
  · simp [map]

theorem isRightFirst_map (m : Merging β) :
    (m.map f).isRightFirst less = m.isRightFirst (along f less) := by
  obtain ⟨_, left, right⟩ := m
  cases left <;> cases right <;> rfl

theorem leftLead_map (early : Bool) (m : Merging β) :
    (m.map f).leftLead less early = m.leftLead (along f less) early := by
  obtain ⟨_, _, right⟩ := m
  cases right with
  | nil => rfl
  | cons y ys => exact lead_map ..

theorem rightLead_map (early : Bool) (m : Merging β) :
    (m.map f).rightLead less early = m.rightLead (along f less) early := by
  obtain ⟨_, left, _⟩ := m
  cases left with
  | nil => rfl
  | cons x xs => exact lead_map ..

theorem leapLeft_map (early : Bool) (m : Merging β) :
    (m.map f).leapLeft less early = (m.leapLeft (along f less) early).map f := by
  simp only [leapLeft, leftLead_map, takeLeft_map, takeRight_map]

theorem leapRight_map (early : Bool) (m : Merging β) :
    (m.map f).leapRight less early = (m.leapRight (along f less) early).map f := by
  simp only [leapRight, rightLead_map, takeLeft_map, takeRight_map]

theorem leap_map (backwards : Bool) (m : Merging β) :
    (m.map f).leap less backwards = (m.leap (along f less) backwards).map f := by
  unfold leap
  split <;> simp only [leapLeft_map, leapRight_map]

theorem isLeapLong_map (backwards : Bool) (m : Merging β) :
    (m.map f).isLeapLong less backwards = m.isLeapLong (along f less) backwards := by
  unfold isLeapLong
  split <;> simp only [leapLeft_map, leapRight_map, leftLead_map, rightLead_map]

theorem afterLeap_map (backwards : Bool) (threshold : Nat) (isFirst : Bool) (m : Merging β) :
    (m.map f).afterLeap less backwards threshold isFirst =
      m.afterLeap (along f less) backwards threshold isFirst := by
  simp only [afterLeap, isLeapLong_map, leap_map, isOver_map]

theorem run_map (backwards : Bool) (threshold : Nat) (pace : Pace) (m : Merging β) :
    (m.map f).run less backwards threshold pace =
      (m.run (along f less) backwards threshold pace).map (List.map f) id := by
  fun_induction run (along f less) backwards threshold pace m with
  | case1 threshold pace m ended =>
    rw [run_of_isOver _ _ _ _ (by rw [isOver_map, ended]), result_map]
    rfl
  | case2 threshold m _ ended leftWins rightWins first ih =>
    rw [run_singly _ _ _ _ _ (by rw [isOver_map, ended]), isRightFirst_map, if_pos first,
      takeRight_map, ih]
  | case3 threshold m _ ended leftWins rightWins first ih =>
    rw [run_singly _ _ _ _ _ (by rw [isOver_map, ended]), isRightFirst_map, if_neg first,
      takeLeft_map, ih]
  | case4 threshold m _ ended isFirst next pace after ih =>
    rw [run_leaping _ _ _ _ (by rw [isOver_map, ended]), leap_map, afterLeap_map, after, ih]

end Merging

theorem mergeForwards_map (threshold : Nat) (left right : List β) :
    mergeForwards less threshold (left.map f) (right.map f) =
      (mergeForwards (along f less) threshold left right).map (List.map f) id := by
  unfold mergeForwards
  rw [← Merging.run_map]
  simp [Merging.map]

theorem mergeBackwards_map (threshold : Nat) (left right : List β) :
    mergeBackwards less threshold (left.map f) (right.map f) =
      (mergeBackwards (along f less) threshold left right).map (List.map f) id := by
  have runs := Merging.run_map f (fun a b => less b a) true threshold (.singly 0 0)
    ⟨left.reverse.take 1, right.reverse, left.reverse.drop 1⟩
  simp only [Merging.map] at runs
  simp only [mergeBackwards, ← List.map_reverse, ← List.map_take, ← List.map_drop, runs]
  simp only [Prod.map, List.map_reverse]

theorem mergeOverlap_map (threshold : Nat) (left right : List β) :
    mergeOverlap less threshold (left.map f) (right.map f) =
      (mergeOverlap (along f less) threshold left right).map (List.map f) id := by
  unfold mergeOverlap
  rw [List.length_map, List.length_map]
  split
  · exact mergeForwards_map ..
  · exact mergeBackwards_map ..

theorem merge_map (threshold : Nat) (left right : List β) :
    merge less threshold (left.map f) (right.map f) =
      (merge (along f less) threshold left right).map (List.map f) id := by
  unfold merge
  cases right with
  | nil => rfl
  | cons y ys =>
    simp only [List.map_cons, List.head?_cons]
    rw [← List.map_cons]
    simp only [lead_map, ← List.map_drop, ← List.map_take, ← List.map_reverse, List.getLast?_map,
      List.length_map]
    split
    · next h =>
      simp only [Option.map_eq_none_iff] at h
      simp [h]
    · next x' h =>
      obtain ⟨x, hx, rfl⟩ := Option.map_eq_some_iff.1 h
      simp only [hx]
      split
      · simp
      · simp only [mergeOverlap_map]
        simp only [Prod.map, List.map_append, id]

def Waiting.map (f : β → α) (w : Waiting β) : Waiting α := ⟨w.start, w.run.map f, w.depth⟩

theorem absorb_map (depth threshold : Nat) (last : Waiting β) (waiting : List (Waiting β)) :
    absorb less depth threshold (last.map f) (waiting.map (Waiting.map f)) =
      (absorb (along f less) depth threshold last waiting).map (List.map (Waiting.map f)) id := by
  induction waiting generalizing last threshold with
  | nil => rfl
  | cons before rest ih =>
    simp only [absorb, List.map_cons, Waiting.map, merge_map]
    split
    · exact ih (merge (along f less) threshold before.run last.run).2
        { before with run := (merge (along f less) threshold before.run last.run).1 }
    · rfl

theorem add_map (total : Nat) (state : List (Waiting β) × Nat) (run : List β) :
    add less total (state.map (List.map (Waiting.map f)) id) (run.map f) =
      (add (along f less) total state run).map (List.map (Waiting.map f)) id := by
  obtain ⟨waiting, threshold⟩ := state
  cases waiting with
  | nil => rfl
  | cons last rest =>
    simp only [add, Prod.map, List.map_cons, Waiting.map, List.length_map]
    have absorbed := absorb_map f less (boundaryDepth total last.start last.run.length run.length)
      threshold last rest
    simp only [Waiting.map] at absorbed
    simp [absorbed]

theorem mergeAll_map (threshold : Nat) (runs : List (List β)) :
    mergeAll less threshold (runs.map (List.map f)) =
      (mergeAll (along f less) threshold runs).map f := by
  fun_induction mergeAll (along f less) threshold runs with
  | case1 => simp [mergeAll]
  | case2 => simp [mergeAll]
  | case3 => simp [mergeAll, merge_map]
  | case4 threshold last before first rest h run _ merged ih =>
    simp [mergeAll, merge_map, h, merged, ← ih]
  | case5 threshold last before first rest h run _ merged ih =>
    simp [mergeAll, merge_map, h, merged, ← ih]

theorem foldl_add_map (total : Nat) (runs : List (List β)) (state : List (Waiting β) × Nat) :
    (runs.map (List.map f)).foldl (add less total) (state.map (List.map (Waiting.map f)) id) =
      (runs.foldl (add (along f less) total) state).map (List.map (Waiting.map f)) id := by
  induction runs generalizing state with
  | nil => rfl
  | cons run runs ih => rw [List.map_cons, List.foldl_cons, add_map, ih, List.foldl_cons]

theorem sort_map (xs : List β) : sort less (xs.map f) = (sort (along f less) xs).map f := by
  have added := foldl_add_map f less xs.length
    (runs (along f less) (shortestRun xs.length) xs) ([], 7)
  simp only [Prod.map, List.map_nil, id] at added
  simp only [sort, List.length_map, runs_map, added, ← mergeAll_map]
  simp [Waiting.map, Function.comp_def]

end Bookmarks.Sorting
