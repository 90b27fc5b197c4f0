import Bookmarks.Proofs.Number.Value
import Bookmarks.Proofs.Order.Arrange
import Mathlib.Data.List.Pairwise

/-! Sorting by several fields comes to sorting by each of them alone, the one that counts least
first. Which of them counts first is told by their priorities; when no two of these are the same,
the order in which the criteria are given does not count. -/

namespace Bookmarks

namespace Sorting

variable {α : Type} {less less' : α → α → Bool}

/-- The order by which elements are told apart that another order leaves level. -/
def thenBy (less less' : α → α → Bool) (a b : α) : Bool := less a b || !less b a && less' a b

theorem level_thenBy (a b : α) :
    level (thenBy less less') a b = (level less a b && level less' a b) := by
  unfold level thenBy
  cases less a b <;> cases less b a <;> rfl

theorem isWeakOrder_thenBy (order : IsWeakOrder less) (order' : IsWeakOrder less') :
    IsWeakOrder (thenBy less less') where
  asymm {a b} less_ab := by
    unfold thenBy at *
    cases hab : less a b with
    | true => simp [order.asymm hab]
    | false =>
      simp only [hab, Bool.false_or, Bool.and_eq_true, Bool.not_eq_true'] at less_ab
      simp [less_ab.1, order'.asymm less_ab.2]
  trans {a b c} hba hcb := by
    simp only [thenBy, Bool.or_eq_false_iff, Bool.and_eq_false_imp, Bool.not_eq_true'] at *
    refine ⟨order.trans hba.1 hcb.1, ?_⟩
    intro hac
    have hab : less a b = false := order.trans hcb.1 hac
    have hbc : less b c = false := order.trans hac hba.1
    exact order'.trans (hba.2 hab) (hcb.2 hbc)

/-- Elements that pass a test stay as they stand if all of them are level. -/
theorem filter_sort_of_level (order : IsWeakOrder less) {test : α → Bool} {z : α}
    (levels : ∀ a, test a = true → level less z a = true) (xs : List α) :
    (sort less xs).filter test = xs.filter test := by
  have through (ys : List α) : ys.filter test = (ys.filter (level less z)).filter test := by
    rw [List.filter_filter]
    refine List.filter_congr fun a _ => ?_
    cases passes : test a with
    | true => rw [levels a passes]; rfl
    | false => rfl
  rw [through, filter_level_sort order, ← through]

/-- To sort by two orders at once is to sort by the one that decides last and then by the other. -/
theorem sort_thenBy (order : IsWeakOrder less) (order' : IsWeakOrder less') (xs : List α) :
    sort (thenBy less less') xs = sort less (sort less' xs) := by
  have both := isWeakOrder_thenBy order order'
  refine eq_of_inOrder both (inOrder_sort both xs) ?_ ?_
  · -- what the first order leaves level stands as the other one has put it
    have placed := (inOrder_sort order _).and
      (pairwise_sort_of_pairwise order (inOrder_sort order' xs))
    refine placed.imp ?_
    intro a b ⟨hba, of_level⟩
    unfold thenBy
    cases hab : less a b with
    | true => simp [hba]
    | false => simp [hba, of_level (level_eq_true.2 ⟨hab, hba⟩)]
  · -- a class of both orders lies in one of either, and so each sort leaves it as it is
    intro z
    have in_both {a : α} (levels : level (thenBy less less') z a = true) :
        level less z a = true ∧ level less' z a = true := by
      rwa [level_thenBy, Bool.and_eq_true] at levels
    rw [filter_level_sort both, filter_sort_of_level order fun a h => (in_both h).1,
      filter_sort_of_level order' fun a h => (in_both h).2]

/-- How elements that are not in a list compare does not count. -/
theorem sort_congr {xs : List α}
    (same : ∀ a ∈ xs, ∀ b ∈ xs, less a b = less' a b) : sort less xs = sort less' xs := by
  have along_eq : along (Subtype.val : { x // x ∈ xs } → α) less = along Subtype.val less' := by
    funext a b
    exact same a a.2 b b.2
  rw [← List.attach_map_subtype_val xs, sort_map, sort_map, along_eq]

end Sorting

section Arrange

variable {zone : Int} {bs : List Bookmark}

theorem compareBy_append (first rest : List CriterionForm) (a b : Bookmark) :
    compareBy zone (first ++ rest) a b =
      (compareBy zone first a b).then (compareBy zone rest a b) := by
  induction first with
  | nil => rfl
  | cons c first ih => rw [List.cons_append, compareBy, compareBy, ih, Ordering.then_assoc]

theorem TimedBookmark.before_append (first rest : List CriterionForm) :
    before zone (first ++ rest) = Sorting.thenBy (before zone first) (before zone rest) := by
  funext a b
  unfold Sorting.thenBy before
  rw [compareBy_append, compareBy_swap a.property b.property]
  cases compareBy zone first a.val b.val <;> simp

/-- To arrange by some criteria and then by others is to arrange by the last ones first. -/
theorem arrange_append (first rest : List CriterionForm) (timed : ∀ b ∈ bs, b.timestamp ≠ .nan) :
    arrange zone (first ++ rest) bs = arrange zone first (arrange zone rest bs) := by
  obtain ⟨ts, rfl⟩ := exists_timed timed
  rw [TimedBookmark.arrange_val, TimedBookmark.before_append,
    Sorting.sort_thenBy (TimedBookmark.isWeakOrder_before zone first)
      (TimedBookmark.isWeakOrder_before zone rest),
    TimedBookmark.arrange_val, TimedBookmark.arrange_val]

/-- Arranging by criteria is arranging by each of them, the last one first. -/
theorem arrange_eq_foldr (criteria : List CriterionForm) (timed : ∀ b ∈ bs, b.timestamp ≠ .nan) :
    arrange zone criteria bs = criteria.foldr (fun c bs => arrange zone [c] bs) bs := by
  induction criteria with
  | nil => exact arrange_nil zone bs
  | cons c rest ih => rw [← List.singleton_append, arrange_append [c] rest timed, ih]; rfl

end Arrange

section Priority

/-- Whether criteria are some given ones in the order of their priorities, those of one priority
being in the order in which they are given. -/
structure IsByPriority (given sorted : List CriterionForm) : Prop where
  perm : sorted.Perm given
  ascending : sorted.Pairwise fun c d => d.priority.lt? c.priority = some false
  stable : ∀ c ∈ given, sorted.filter (·.priority.same c.priority) =
    given.filter (·.priority.same c.priority)

namespace CriterionForm

def precedes (c d : CriterionForm) : Bool := decide (c.priority.value < d.priority.value)

theorem isWeakOrder_precedes : Sorting.IsWeakOrder precedes where
  asymm h := decide_eq_false (lt_asymm (of_decide_eq_true h))
  trans hba hcb := decide_eq_false <|
    not_lt.2 ((not_lt.1 (of_decide_eq_false hba)).trans (not_lt.1 (of_decide_eq_false hcb)))

theorem level_precedes {c d : CriterionForm} :
    Sorting.level precedes c d = true ↔ d.priority.value = c.priority.value := by
  rw [Sorting.level_eq_true, precedes, precedes, decide_eq_false_iff_not, decide_eq_false_iff_not,
    not_lt, not_lt, ← le_antisymm_iff]

end CriterionForm

open CriterionForm (precedes isWeakOrder_precedes level_precedes)

variable {given : List CriterionForm} (valued : ∀ c ∈ given, c.priority.IsValued)

include valued

theorem byPriority_eq : byPriority given = .ok (Sorting.sort precedes given) := by
  have ordered : areOrdered (given.map (·.priority)) = true := by
    apply areOrdered_of_number
    rw [List.forall_mem_map]
    intro c hc
    have ⟨n, number, _⟩ := valued c hc
    rw [number]
    rfl
  rw [byPriority, if_pos ordered]
  apply congrArg
  apply Sorting.sort_congr
  intro c hc d hd
  rw [Json.lt?_eq_decide (valued c hc) (valued d hd), precedes]
  simp

theorem isByPriority_sort : IsByPriority given (Sorting.sort precedes given) where
  perm := Sorting.sort_perm _ given
  ascending := by
    refine (Sorting.inOrder_sort isWeakOrder_precedes given).imp_of_mem ?_
    intro c d hc hd not_before
    have hc := valued c (Sorting.mem_sort.1 hc)
    have hd := valued d (Sorting.mem_sort.1 hd)
    rw [Json.lt?_eq_decide hd hc]
    exact congrArg some not_before
  stable := by
    intro c hc
    have same_level {d : CriterionForm} (hd : d ∈ given) :
        d.priority.same c.priority = Sorting.level precedes c d := by
      rw [Bool.eq_iff_iff, Json.same_iff_value (valued d hd) (valued c hc), level_precedes]
    rw [List.filter_congr fun d hd => same_level (Sorting.mem_sort.1 hd),
      List.filter_congr fun d hd => same_level hd]
    exact Sorting.filter_level_sort isWeakOrder_precedes c given

/-- When no two priorities are the same, criteria are put into one order however they are given. -/
theorem byPriority_eq_of_perm {others : List CriterionForm} (same : given.Perm others)
    (apart : given.Pairwise fun c d => c.priority.same d.priority = false) :
    byPriority others = byPriority given := by
  have valued' : ∀ c ∈ others, c.priority.IsValued := fun c hc => valued c (same.mem_iff.2 hc)
  have differ : given.Pairwise fun c d => c.priority.value ≠ d.priority.value := by
    refine apart.imp_of_mem fun hc hd differ same_value => ?_
    rw [(Json.same_iff_value (valued _ hc) (valued _ hd)).2 same_value] at differ
    cases differ
  have : Std.Symm fun c d : CriterionForm => c.priority.value ≠ d.priority.value :=
    ⟨fun _ _ => Ne.symm⟩
  rw [byPriority_eq valued, byPriority_eq valued']
  apply congrArg
  refine List.Perm.eq_of_pairwise ?_ (Sorting.inOrder_sort isWeakOrder_precedes others)
    (Sorting.inOrder_sort isWeakOrder_precedes given)
    ((Sorting.sort_perm _ others).trans (same.symm.trans (Sorting.sort_perm _ given).symm))
  intro c d hc hd not_after not_before
  have hc : c ∈ given := same.mem_iff.2 (Sorting.mem_sort.1 hc)
  have hd : d ∈ given := Sorting.mem_sort.1 hd
  by_contra different
  exact differ.forall hc hd different
    (level_precedes.1 (Sorting.level_eq_true.2 ⟨not_before, not_after⟩)).symm

end Priority

namespace SettingsForm

/-- The settings that sort by the field of a criterion alone. -/
def byOne (s : SettingsForm) (c : CriterionForm) : SettingsForm :=
  { s with multiSort := .bool false, sortBy := c.field, direction := c.direction }

theorem sort_byOne (s : SettingsForm) (c : CriterionForm) (zone : Int) (bs : List Bookmark) :
    (s.byOne c).sort zone bs = .ok (arrange zone [c] bs) := rfl

/-- Sorting by several fields is sorting by each alone, from the one whose priority is last to the
one whose priority is first. -/
theorem sort_eq_foldrM (s : SettingsForm) (zone : Int) (bs : List Bookmark)
    (several : s.multiSort.isVoid = false) (valued : ∀ c ∈ s.criteria, c.priority.IsValued)
    (timed : ∀ b ∈ bs, b.timestamp ≠ .nan) :
    ∃ criteria sorted, s.activeCriteria = .ok criteria ∧ IsByPriority s.criteria criteria ∧
      s.sort zone bs = .ok sorted ∧
      criteria.foldrM (fun c bs => (s.byOne c).sort zone bs) bs = .ok sorted ∧
      ((s.criteria.Pairwise fun c d => c.priority.same d.priority = false) →
        ∀ others, s.criteria.Perm others →
          { s with criteria := others }.sort zone bs = .ok sorted) := by
  let criteria := Sorting.sort CriterionForm.precedes s.criteria
  have active {given : List CriterionForm} (by_priority : byPriority given = .ok criteria) :
      activeCriteria { s with criteria := given } = .ok criteria :=
    (if_neg (by simp [several])).trans by_priority
  have arranged {given : List CriterionForm} (by_priority : byPriority given = .ok criteria) :
      { s with criteria := given }.sort zone bs = .ok (arrange zone criteria bs) :=
    sort_eq_of_active (active by_priority) zone bs
  have own : byPriority s.criteria = .ok criteria := byPriority_eq valued
  refine ⟨criteria, arrange zone criteria bs, active own, isByPriority_sort valued, arranged own,
    ?_, ?_⟩
  · simp only [sort_byOne]
    rw [arrange_eq_foldr criteria timed]
    exact List.foldrM_pure
  · intro apart others same
    exact arranged ((byPriority_eq_of_perm valued same apart).trans own)

/-- Three criteria, two of one priority and one of an infinite one. -/
theorem sort_eq_foldrM_titles :
    let s : SettingsForm := { multiSort := .bool true, criteria := [
      { field := .str "timestamp", direction := .str "desc", priority := .int 2 },
      { field := .str "title", priority := .double (.infinity true) },
      { field := .str "tags", priority := .int 2 }] }
    let bs : List Bookmark := [⟨"1", "b", .zero, "", "", none, ["y"]⟩,
      ⟨"2", "b", .ofInt 3, "", "", none, ["x"]⟩, ⟨"3", "a", .zero, "", "", none, []⟩]
    s.multiSort.isVoid = false ∧ (∀ c ∈ s.criteria, c.priority.IsValued) ∧
    (∀ b ∈ bs, b.timestamp ≠ .nan) ∧
    ∃ criteria sorted, s.activeCriteria = .ok criteria ∧ IsByPriority s.criteria criteria ∧
      s.sort 0 bs = .ok sorted ∧
      criteria.foldrM (fun c bs => (s.byOne c).sort 0 bs) bs = .ok sorted ∧
      ((s.criteria.Pairwise fun c d => c.priority.same d.priority = false) →
        ∀ others, s.criteria.Perm others →
          { s with criteria := others }.sort 0 bs = .ok sorted) := by
  intro s bs
  have valued : ∀ c ∈ s.criteria, c.priority.IsValued := by
    have infinite : Json.IsValued (.double (.infinity true)) := ⟨_, rfl, nofun⟩
    simp [s, Json.isValued_int, infinite]
  have timed : ∀ b ∈ bs, b.timestamp ≠ .nan := by
    simp [bs, Double.zero, Double.ofInt, Double.ofRatio]
  exact ⟨rfl, valued, timed, sort_eq_foldrM s 0 bs rfl valued timed⟩

end SettingsForm

end Bookmarks
