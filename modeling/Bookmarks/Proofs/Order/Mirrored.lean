import Bookmarks.Proofs.Order.Arrange

/-! Descending order is the mirror image of ascending order, although it is not made by reversing:
turning every criterion, and the list before and after sorting, changes nothing. Bookmarks that no
criterion tells apart keep their order in both directions. -/

namespace Bookmarks

namespace Sorting

variable {α : Type} {less : α → α → Bool}

theorem reverse_sort_reverse (order : IsWeakOrder less) (xs : List α) :
    (sort (fun a b => less b a) xs.reverse).reverse = sort less xs := by
  apply eq_of_inOrder order _ (inOrder_sort order xs)
  · -- the class of any element is reversed twice, and each sort leaves it as it stands
    intro z
    have kept := filter_level_sort order.swap z xs.reverse
    rw [level_swap] at kept
    rw [List.filter_reverse, kept, List.filter_reverse, List.reverse_reverse,
      filter_level_sort order]
  · exact inOrder_reverse.1 (by simpa using inOrder_sort order.swap xs.reverse)

end Sorting

def Direction.opposite : Direction → Direction
  | ascending => descending
  | descending => ascending

theorem compareField_opposite (zone : Int) (field : SortField) (direction : Direction)
    (a b : Bookmark) : compareField zone field direction.opposite a b =
      (compareField zone field direction a b).swap := by
  cases direction with
  | ascending => rfl
  | descending => exact Ordering.swap_swap.symm

/-- The opposite of a direction of any kind; what is none counts as ascending. -/
def Direction.turned (direction : Json) : Json :=
  .str ((ofJson? direction).getD .ascending).opposite.name

namespace CriterionForm

def mirrored (c : CriterionForm) : CriterionForm :=
  { c with direction := Direction.turned c.direction }

theorem sortDirection_mirrored (c : CriterionForm) :
    c.mirrored.sortDirection = c.sortDirection.opposite :=
  congrArg (·.getD .ascending) (Direction.ofJson?_name c.sortDirection.opposite)

theorem compare_mirrored (c : CriterionForm) (zone : Int) (a b : Bookmark) :
    c.mirrored.compare zone a b = (c.compare zone a b).swap := by
  rw [compare, sortDirection_mirrored]
  exact compareField_opposite ..

end CriterionForm

theorem compareBy_mirrored (zone : Int) (criteria : List CriterionForm) (a b : Bookmark) :
    compareBy zone (criteria.map .mirrored) a b = (compareBy zone criteria a b).swap := by
  induction criteria with
  | nil => rfl
  | cons c rest ih =>
    rw [List.map_cons, compareBy, compareBy, c.compare_mirrored, ih, Ordering.swap_then]

/-- Whether no criterion tells two bookmarks apart. -/
def areTied (zone : Int) (criteria : List CriterionForm) (a b : Bookmark) : Bool :=
  (firstDecision zone criteria a b).isNone

theorem areTied_eq (zone : Int) (criteria : List CriterionForm) (a b : Bookmark) :
    areTied zone criteria a b = (compareBy zone criteria a b == .eq) := by
  rw [areTied, Bool.eq_iff_iff, Option.isNone_iff_eq_none, ← compareBy_eq_eq, beq_iff_eq]

theorem areTied_mirrored (zone : Int) (criteria : List CriterionForm) (a : Bookmark) :
    areTied zone (criteria.map .mirrored) a = areTied zone criteria a := by
  funext b
  rw [areTied_eq, areTied_eq, compareBy_mirrored]
  cases compareBy zone criteria a b <;> rfl

section Arrange

variable (zone : Int) (criteria : List CriterionForm)

namespace TimedBookmark

theorem before_mirrored :
    before zone (criteria.map .mirrored) = fun a b => before zone criteria b a := by
  funext a b
  rw [before, compareBy_mirrored, ← compareBy_swap a.property b.property]
  rfl

theorem level_before (a b : TimedBookmark) :
    Sorting.level (before zone criteria) a b = areTied zone criteria a.val b.val := by
  rw [areTied_eq, Sorting.level, before, before, compareBy_swap a.property b.property]
  cases compareBy zone criteria a.val b.val <;> rfl

end TimedBookmark

variable {bs : List Bookmark} (timed : ∀ b ∈ bs, b.timestamp ≠ .nan)

include timed

theorem arrange_mirrored :
    (arrange zone (criteria.map .mirrored) bs.reverse).reverse = arrange zone criteria bs := by
  obtain ⟨ts, rfl⟩ := exists_timed timed
  rw [← List.map_reverse, TimedBookmark.arrange_val, TimedBookmark.arrange_val,
    TimedBookmark.before_mirrored, ← List.map_reverse,
    Sorting.reverse_sort_reverse (TimedBookmark.isWeakOrder_before zone criteria)]

theorem filter_areTied_arrange {b : Bookmark} (hb : b ∈ bs) :
    (arrange zone criteria bs).filter (areTied zone criteria b) =
      bs.filter (areTied zone criteria b) := by
  have ranked : b.timestamp ≠ .nan := timed b hb
  obtain ⟨ts, rfl⟩ := exists_timed timed
  have tied : areTied zone criteria b ∘ Subtype.val =
      Sorting.level (TimedBookmark.before zone criteria) ⟨b, ranked⟩ := by
    funext a
    exact (TimedBookmark.level_before zone criteria ⟨b, ranked⟩ a).symm
  rw [TimedBookmark.arrange_val, List.filter_map, List.filter_map, tied,
    Sorting.filter_level_sort (TimedBookmark.isWeakOrder_before zone criteria)]

end Arrange

theorem byPriority_mirrored (criteria : List CriterionForm) :
    byPriority (criteria.map .mirrored) = (byPriority criteria).map (List.map .mirrored) := by
  have priorities : (criteria.map CriterionForm.mirrored).map (·.priority) =
      criteria.map (·.priority) := List.map_map
  unfold byPriority
  rw [priorities]
  split
  · exact congrArg Except.ok (Sorting.sort_map CriterionForm.mirrored _ criteria)
  · rfl

namespace SettingsForm

/-- The settings with every direction turned. -/
def mirrored (s : SettingsForm) : SettingsForm :=
  { s with direction := Direction.turned s.direction, criteria := s.criteria.map .mirrored }

theorem activeCriteria_mirrored (s : SettingsForm) :
    s.mirrored.activeCriteria = s.activeCriteria.map (List.map .mirrored) := by
  unfold activeCriteria
  rw [show s.mirrored.multiSort = s.multiSort from rfl]
  split
  · rfl
  · exact byPriority_mirrored s.criteria

/-- Turning all directions, the list that is sorted and the outcome gives what sorting gives; and
bookmarks that are tied keep their order in either direction. -/
theorem sort_mirrored (s : SettingsForm) (zone : Int) (bs : List Bookmark)
    (timed : ∀ b ∈ bs, b.timestamp ≠ .nan) :
    s.mirrored.activeCriteria = s.activeCriteria.map (List.map .mirrored) ∧
    (s.mirrored.sort zone bs.reverse).map List.reverse = s.sort zone bs ∧
    ((∀ c ∈ s.criteria, c.priority.number?.isSome) →
      ∃ criteria sorted opposite, s.activeCriteria = .ok criteria ∧ s.sort zone bs = .ok sorted ∧
        s.mirrored.sort zone bs = .ok opposite ∧
        ∀ b ∈ bs,
          sorted.filter (areTied zone criteria b) = bs.filter (areTied zone criteria b) ∧
          opposite.filter (areTied zone criteria b) = bs.filter (areTied zone criteria b)) := by
  refine ⟨s.activeCriteria_mirrored, ?_, ?_⟩
  · rw [sort, sort, activeCriteria_mirrored]
    cases s.activeCriteria with
    | error fault => rfl
    | ok criteria => exact congrArg Except.ok (arrange_mirrored zone criteria timed)
  · intro numbered
    obtain ⟨criteria, active⟩ := s.exists_activeCriteria numbered
    have active' : s.mirrored.activeCriteria = .ok (criteria.map .mirrored) := by
      rw [activeCriteria_mirrored, active]
      rfl
    refine ⟨criteria, _, _, active, sort_eq_of_active active zone bs,
      sort_eq_of_active active' zone bs, ?_⟩
    intro b hb
    have kept := filter_areTied_arrange zone (criteria.map .mirrored) timed hb
    rw [areTied_mirrored] at kept
    exact ⟨filter_areTied_arrange zone criteria timed hb, kept⟩

/-- Two bookmarks that are tied by both criteria, and one with the same title. -/
theorem sort_mirrored_titles :
    let s : SettingsForm := { multiSort := .bool true, criteria := [
      { field := .str "timestamp", direction := .str "desc", priority := .int 2 },
      { field := .str "title" }] }
    let bs : List Bookmark := [⟨"1", "b", .zero, "", "", none, []⟩,
      ⟨"2", "b", .ofInt 3, "", "", none, []⟩, ⟨"3", "b", .zero, "x", "", none, []⟩]
    (∀ b ∈ bs, b.timestamp ≠ .nan) ∧
    s.mirrored.activeCriteria = s.activeCriteria.map (List.map .mirrored) ∧
    (s.mirrored.sort 0 bs.reverse).map List.reverse = s.sort 0 bs ∧
    ∃ criteria sorted opposite, s.activeCriteria = .ok criteria ∧ s.sort 0 bs = .ok sorted ∧
      s.mirrored.sort 0 bs = .ok opposite ∧
      ∀ b ∈ bs,
        sorted.filter (areTied 0 criteria b) = bs.filter (areTied 0 criteria b) ∧
        opposite.filter (areTied 0 criteria b) = bs.filter (areTied 0 criteria b) := by
  intro s bs
  have timed : ∀ b ∈ bs, b.timestamp ≠ .nan := by
    simp [bs, Double.zero, Double.ofInt, Double.ofRatio]
  obtain ⟨active, same, tied⟩ := sort_mirrored s 0 bs timed
  exact ⟨timed, active, same, tied (by decide)⟩

end SettingsForm

end Bookmarks
