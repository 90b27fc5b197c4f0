import Bookmarks.Sorting.Map
import Bookmarks.Sorting.MergeOrder
import Bookmarks.Sorting.Perm
import Bookmarks.Sorting.RunOrder

/-! Sorting by a weak order: the result is in order, level elements keep their order, and so it is
what any other stable way of sorting gives. The order has to be weak on the elements of the list
only. -/

namespace Bookmarks.Sorting

variable {α : Type} {less : α → α → Bool}

theorem inOrder_merge (order : IsWeakOrder less) (threshold : Nat) {left right : List α}
    (hleft : InOrder less left) (hright : InOrder less right) :
    InOrder less (merge less threshold left right).1 := by
  rw [merge_eq order threshold hleft hright]
  exact inOrder_interleave order hleft hright

theorem filter_level_merge (order : IsWeakOrder less) (threshold : Nat) (z : α)
    {left right : List α} (hleft : InOrder less left) (hright : InOrder less right) :
    (merge less threshold left right).1.filter (level less z) =
      left.filter (level less z) ++ right.filter (level less z) := by
  rw [merge_eq order threshold hleft hright, filter_level_interleave order z hleft,
    List.filter_append]

theorem inOrder_absorb (order : IsWeakOrder less) (depth threshold : Nat) {last : Waiting α}
    {waiting : List (Waiting α)} (hlast : InOrder less last.run)
    (h : ∀ w ∈ waiting, InOrder less w.run) :
    ∀ w ∈ (absorb less depth threshold last waiting).1, InOrder less w.run := by
  induction waiting generalizing last threshold with
  | nil => simpa [absorb] using hlast
  | cons before rest ih =>
    obtain ⟨hbefore, hrest⟩ := List.forall_mem_cons.1 h
    unfold absorb
    split
    · exact ih _ (inOrder_merge order threshold hbefore hlast) hrest
    · exact List.forall_mem_cons.2 ⟨hlast, h⟩

theorem filter_level_absorb (order : IsWeakOrder less) (depth threshold : Nat) (z : α)
    {last : Waiting α} {waiting : List (Waiting α)} (hlast : InOrder less last.run)
    (h : ∀ w ∈ waiting, InOrder less w.run) :
    (elements ((absorb less depth threshold last waiting).1.map (·.run))).filter (level less z) =
      (elements (waiting.map (·.run))).filter (level less z) ++ last.run.filter (level less z) := by
  induction waiting generalizing last threshold with
  | nil => simp [absorb, elements]
  | cons before rest ih =>
    obtain ⟨hbefore, hrest⟩ := List.forall_mem_cons.1 h
    unfold absorb
    split
    · rw [ih]
      · rw [List.map_cons, elements_cons, List.filter_append, List.append_assoc]
        exact congrArg _ (filter_level_merge order threshold z hbefore hlast)
      · exact inOrder_merge order threshold hbefore hlast
      · exact hrest
    · simp [elements_cons]

theorem inOrder_add (order : IsWeakOrder less) (total : Nat) {state : List (Waiting α) × Nat}
    {run : List α} (h : ∀ w ∈ state.1, InOrder less w.run) (hrun : InOrder less run) :
    ∀ w ∈ (add less total state run).1, InOrder less w.run := by
  unfold add
  split
  · simpa using hrun
  · obtain ⟨hlast, hrest⟩ := List.forall_mem_cons.1 h
    exact List.forall_mem_cons.2 ⟨hrun, inOrder_absorb order _ _ hlast hrest⟩

theorem filter_level_add (order : IsWeakOrder less) (total : Nat) (z : α)
    {state : List (Waiting α) × Nat} (run : List α) (h : ∀ w ∈ state.1, InOrder less w.run) :
    (elements ((add less total state run).1.map (·.run))).filter (level less z) =
      (elements (state.1.map (·.run)) ++ run).filter (level less z) := by
  unfold add
  split
  · simp [elements]
  · obtain ⟨hlast, hrest⟩ := List.forall_mem_cons.1 h
    rw [List.map_cons, elements_cons, List.filter_append, List.filter_append,
      filter_level_absorb order _ _ z hlast hrest, List.map_cons, elements_cons,
      List.filter_append]

theorem inOrder_foldl_add (order : IsWeakOrder less) (total : Nat) {runs : List (List α)}
    {state : List (Waiting α) × Nat} (h : ∀ w ∈ state.1, InOrder less w.run)
    (hruns : ∀ run ∈ runs, InOrder less run) :
    ∀ w ∈ (runs.foldl (add less total) state).1, InOrder less w.run := by
  induction runs generalizing state with
  | nil => exact h
  | cons run runs ih =>
    obtain ⟨hrun, hruns⟩ := List.forall_mem_cons.1 hruns
    exact ih (inOrder_add order total h hrun) hruns

theorem filter_level_foldl_add (order : IsWeakOrder less) (total : Nat) (z : α)
    {runs : List (List α)} {state : List (Waiting α) × Nat}
    (h : ∀ w ∈ state.1, InOrder less w.run) (hruns : ∀ run ∈ runs, InOrder less run) :
    (elements ((runs.foldl (add less total) state).1.map (·.run))).filter (level less z) =
      (elements (state.1.map (·.run)) ++ runs.flatten).filter (level less z) := by
  induction runs generalizing state with
  | nil => simp
  | cons run runs ih =>
    obtain ⟨hrun, hruns⟩ := List.forall_mem_cons.1 hruns
    refine (ih (inOrder_add order total h hrun) hruns).trans ?_
    rw [List.filter_append, filter_level_add order total z run h, ← List.filter_append,
      List.append_assoc, List.flatten_cons]

theorem inOrder_mergeAll (order : IsWeakOrder less) (threshold : Nat) {runs : List (List α)}
    (h : ∀ run ∈ runs, InOrder less run) : InOrder less (mergeAll less threshold runs) := by
  fun_induction mergeAll less threshold runs with
  | case1 => exact List.Pairwise.nil
  | case2 _ run => exact h run (by simp)
  | case3 threshold last before =>
    exact inOrder_merge order threshold (h before (by simp)) (h last (by simp))
  | case4 threshold last before first rest _ run _ merged ih =>
    have hrun := inOrder_merge order threshold (h first (by simp)) (h before (by simp))
    rw [merged] at hrun
    exact ih (by simp_all)
  | case5 threshold last before first rest _ run _ merged ih =>
    have hrun := inOrder_merge order threshold (h before (by simp)) (h last (by simp))
    rw [merged] at hrun
    exact ih (by simp_all)

theorem filter_level_mergeAll (order : IsWeakOrder less) (threshold : Nat) (z : α)
    {runs : List (List α)} (h : ∀ run ∈ runs, InOrder less run) :
    (mergeAll less threshold runs).filter (level less z) =
      (elements runs).filter (level less z) := by
  fun_induction mergeAll less threshold runs with
  | case1 => rfl
  | case2 => simp [elements]
  | case3 threshold last before =>
    simp [elements, filter_level_merge order threshold z (h before (by simp)) (h last (by simp))]
  | case4 threshold last before first rest _ run _ merged ih =>
    have hfirst := h first (by simp)
    have hbefore := h before (by simp)
    have hrun := inOrder_merge order threshold hfirst hbefore
    have same := filter_level_merge order threshold z hfirst hbefore
    rw [merged] at hrun same
    rw [ih (by simp_all)]
    simp [elements_cons, same]
  | case5 threshold last before first rest _ run _ merged ih =>
    have hbefore := h before (by simp)
    have hlast := h last (by simp)
    have hrun := inOrder_merge order threshold hbefore hlast
    have same := filter_level_merge order threshold z hbefore hlast
    rw [merged] at hrun same
    rw [ih (by simp_all)]
    simp [elements_cons, same]

theorem inOrder_sort (order : IsWeakOrder less) (xs : List α) : InOrder less (sort less xs) := by
  refine inOrder_mergeAll order _ ?_
  rw [List.forall_mem_map]
  exact inOrder_foldl_add order _ (by simp) fun run h => inOrder_of_mem_runs order _ h

/-- Elements that are level keep their order. -/
theorem filter_level_sort (order : IsWeakOrder less) (z : α) (xs : List α) :
    (sort less xs).filter (level less z) = xs.filter (level less z) := by
  have ordered : ∀ run ∈ runs less (shortestRun xs.length) xs, InOrder less run :=
    fun run h => inOrder_of_mem_runs order _ h
  refine (filter_level_mergeAll order _ z ?_).trans ?_
  · rw [List.forall_mem_map]
    exact inOrder_foldl_add order _ (by simp) ordered
  · refine (filter_level_foldl_add order _ z (by simp) ordered).trans ?_
    exact filter_level_runs order _ z xs

/-- Every way of sorting that is stable gives the same. -/
theorem sort_eq_mergeSort (order : IsWeakOrder less) (xs : List α) :
    sort less xs = xs.mergeSort fun a b => !less b a := by
  have trans : ∀ a b c : α, (!less b a) = true → (!less c b) = true → (!less c a) = true := by
    simpa using fun a b c => order.trans
  have total : ∀ a b : α, (!less b a || !less a b) = true := fun a b => by
    cases h : less b a
    · rfl
    · simp [order.asymm h]
  refine eq_of_inOrder order (inOrder_sort order xs) ?_ fun z => ?_
  · exact (List.pairwise_mergeSort trans total xs).imp fun h => by simpa using h
  · rw [filter_level_sort order z xs]
    have levels : (xs.filter (level less z)).Pairwise fun a b => (!less b a) = true := by
      refine List.pairwise_iff_getElem.2 fun i j hi hj _ => ?_
      have left := level_eq_true.1 (List.mem_filter.1 (List.getElem_mem hi)).2
      have right := level_eq_true.1 (List.mem_filter.1 (List.getElem_mem hj)).2
      simpa using order.trans left.1 right.2
    have kept := (List.sublist_mergeSort trans total levels List.filter_sublist).filter
      (level less z)
    simp only [List.filter_filter, Bool.and_self] at kept
    exact kept.eq_of_length ((List.mergeSort_perm xs _).filter _).length_eq.symm

/-- Whether an order is weak on the elements of a list. -/
def IsWeakOrderOn (less : α → α → Bool) (xs : List α) : Prop :=
  IsWeakOrder (along (Subtype.val : { x // x ∈ xs } → α) less)

theorem isWeakOrderOn_iff {xs : List α} : IsWeakOrderOn less xs ↔
    (∀ a ∈ xs, ∀ b ∈ xs, less a b = true → less b a = false) ∧
      ∀ a ∈ xs, ∀ b ∈ xs, ∀ c ∈ xs, less b a = false → less c b = false → less c a = false :=
  ⟨fun order => ⟨fun a ha b hb => order.asymm (a := ⟨a, ha⟩) (b := ⟨b, hb⟩),
      fun a ha b hb c hc => order.trans (a := ⟨a, ha⟩) (b := ⟨b, hb⟩) (c := ⟨c, hc⟩)⟩,
    fun h => ⟨fun {a b} => h.1 a a.2 b b.2, fun {a b c} => h.2 a a.2 b b.2 c c.2⟩⟩

/-- The order of elements that are not in the list does not count. -/
theorem sort_eq_mergeSort_of_mem {xs : List α} (order : IsWeakOrderOn less xs) :
    sort less xs = xs.mergeSort fun a b => !less b a := by
  conv => lhs; rw [← List.attach_map_subtype_val xs]
  rw [sort_map, sort_eq_mergeSort order, List.map_mergeSort (s := fun a b => !less b a)]
  · rw [List.attach_map_subtype_val]
  · exact fun a _ b _ => rfl

end Bookmarks.Sorting
