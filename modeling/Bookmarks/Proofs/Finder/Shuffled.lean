import Bookmarks.Proofs.Finder.Facets
import Bookmarks.Proofs.Order.Arrange
import Mathlib.Data.List.Pairwise

/-! Collections in another order. The same bookmarks are found, with the same values to choose from
and the same figures, and they are found in the same order if the criteria tell any two apart. -/

namespace Bookmarks

section Arrangement

variable {zone : Int} {criteria : List CriterionForm} {bs others : List Bookmark}

theorem pairwise_arrange (timed : ∀ b ∈ bs, b.timestamp ≠ .nan) :
    (arrange zone criteria bs).Pairwise fun a b => compareBy zone criteria a b ≠ .gt := by
  obtain ⟨placed, _, same, standing⟩ := isArrangement_arrange zone criteria timed
  rw [← same, List.pairwise_map]
  refine standing.imp fun before => ?_
  rcases standsBefore_iff.1 before with less | ⟨level, _⟩
  · simp [less]
  · simp [level]

/-- There is one arrangement only of bookmarks of which the criteria tell any two apart. -/
theorem arrange_eq_of_perm (same : bs.Perm others) (timed : ∀ b ∈ bs, b.timestamp ≠ .nan)
    (apart : bs.Pairwise fun a b => compareBy zone criteria a b ≠ .eq) :
    arrange zone criteria others = arrange zone criteria bs := by
  have timed' : ∀ b ∈ others, b.timestamp ≠ .nan := fun b hb => timed b (same.mem_iff.2 hb)
  have both : bs.Pairwise fun a b =>
      compareBy zone criteria a b ≠ .eq ∧ compareBy zone criteria b a ≠ .eq := by
    refine apart.imp_of_mem fun ha hb h => ⟨h, ?_⟩
    rw [compareBy_swap (timed _ ha) (timed _ hb)]
    simpa using h
  have : Std.Symm fun a b : Bookmark =>
      compareBy zone criteria a b ≠ .eq ∧ compareBy zone criteria b a ≠ .eq := ⟨fun _ _ => And.symm⟩
  refine List.Perm.eq_of_pairwise ?_ (pairwise_arrange timed') (pairwise_arrange timed)
    ((arrange_perm _ _ _).trans (same.symm.trans (arrange_perm _ _ _).symm))
  intro a b ha hb hab hba
  have ha := same.mem_iff.2 ((arrange_perm _ _ _).mem_iff.1 ha)
  have hb := (arrange_perm _ _ _).mem_iff.1 hb
  rw [compareBy_swap (timed a ha) (timed b hb)] at hba
  have level : compareBy zone criteria a b = .eq := by
    cases order : compareBy zone criteria a b <;> simp_all
  by_contra different
  exact (both.forall ha hb different).1 level

end Arrangement

variable {moment : Moment} {s : SettingsForm} {query : Option QueryForm} {bs others : List Bookmark}

theorem SettingsForm.exists_filter_perm {kept : List Bookmark} (same : bs.Perm others)
    (filtered : s.filter query moment bs = .ok kept) :
    ∃ kept', s.filter query moment others = .ok kept' ∧ kept'.Perm kept := by
  obtain ⟨passed, first, filtered⟩ := exists_of_bind filtered
  obtain ⟨required, tags, filtered⟩ := exists_of_bind filtered
  obtain ⟨passed', first', same⟩ := Verdict.exists_keep_perm same first
  have same := (same.symm.filter s.passesFile).filter (passesTags required)
  obtain ⟨kept', last, same⟩ := Verdict.exists_keep_perm same filtered
  exact ⟨kept', by rw [filter, bind_of_ok first', bind_of_ok tags, last], same⟩

theorem availableFiles_perm (same : bs.Perm others) : availableFiles others = availableFiles bs :=
  distinctSorted_congr fun _ => (same.map _).mem_iff.symm

theorem availableTags_perm (same : bs.Perm others) : availableTags others = availableTags bs :=
  distinctSorted_congr fun _ => (same.flatMap_right _).mem_iff.symm

/-- When something is found in a collection, the same is found in it in any other order, up to the
order of bookmarks that no criterion tells apart. -/
theorem exists_find_perm {found : Findings} (same : bs.Perm others)
    (timed : ∀ b ∈ bs, b.timestamp ≠ .nan) (finds : find moment s query bs = .ok found) :
    ∃ kept criteria found', s.filter query moment bs = .ok kept ∧
      s.activeCriteria = .ok criteria ∧ find moment s query others = .ok found' ∧
      found'.files = found.files ∧ found'.tags = found.tags ∧ found'.analytics = found.analytics ∧
      found'.bookmarks.Perm found.bookmarks ∧
      ((kept.Pairwise fun a b => compareBy moment.zone criteria a b ≠ .eq) →
        found'.bookmarks = found.bookmarks) := by
  obtain ⟨kept, criteria, analytics, filtered, active, counted, rfl⟩ := find_eq_ok_iff.1 finds
  obtain ⟨kept', filtered', moved⟩ := SettingsForm.exists_filter_perm same filtered
  rw [same.length_eq, ← moved.length_eq] at counted
  have finds' := find_eq_ok_iff.2 ⟨kept', criteria, analytics, filtered', active, counted, rfl⟩
  refine ⟨kept, criteria, _, filtered, active, finds', availableFiles_perm same,
    availableTags_perm same, rfl, ?_, ?_⟩
  · exact (arrange_perm _ _ _).trans (moved.trans (arrange_perm _ _ _).symm)
  · intro apart
    have among := (SettingsForm.sublist_of_filter filtered).subset
    exact arrange_eq_of_perm moved.symm (fun b hb => timed b (among hb)) apart

/-- Titles that fold alike and a bookmark that lacks the tag, from the last to the first. -/
theorem exists_find_perm_reversed :
    let bookmark (title : String) (second : Int) (tags : List String) : Bookmark :=
      { id := "", title, timestamp := .ofInt second, filepath := title, createdAt := "",
        description := none, tags }
    let bs := [bookmark "b" 3 ["x"], bookmark "É" 1 ["y", "x"], bookmark "a" 2 [],
      bookmark "e" 4 ["x"]]
    let moment : Moment := ⟨0, ⟨.first, none⟩⟩
    let s : SettingsForm := {
      tags := .arr [.str "x"], multiSort := .bool true
      criteria := [{ field := .str "title" },
        { field := .str "timestamp", direction := .str "desc" }] }
    bs.Perm bs.reverse ∧ (∀ b ∈ bs, b.timestamp ≠ .nan) ∧ ∃ found,
      find moment s none bs = .ok found ∧
      ∃ kept criteria found', s.filter none moment bs = .ok kept ∧
        s.activeCriteria = .ok criteria ∧ find moment s none bs.reverse = .ok found' ∧
        found'.files = found.files ∧ found'.tags = found.tags ∧
        found'.analytics = found.analytics ∧ found'.bookmarks.Perm found.bookmarks ∧
        ((kept.Pairwise fun a b => compareBy moment.zone criteria a b ≠ .eq) →
          found'.bookmarks = found.bookmarks) := by
  intro bookmark bs moment s
  have same : bs.Perm bs.reverse := bs.reverse_perm.symm
  have timed : ∀ b ∈ bs, b.timestamp ≠ .nan := by decide +kernel
  have finds : (find moment s none bs).isOk = true := by decide +kernel
  cases result : find moment s none bs with
  | error fault =>
    rw [result] at finds
    exact absurd finds Bool.false_ne_true
  | ok found => exact ⟨same, timed, found, rfl, exists_find_perm same timed result⟩

end Bookmarks
