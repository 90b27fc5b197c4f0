import Bookmarks.Finder
import Bookmarks.Proofs.Distinct
import Bookmarks.Proofs.Outcome
import Bookmarks.Sorting.Perm
import Mathlib.Data.String.Basic
import Mathlib.Data.List.Sort

/-! The values to choose from. Paths and tags of a collection are given in ascending order and each
once. They are the ones by which something is found, and every bookmark that is found has its own
among them. -/

namespace Bookmarks

section DistinctSorted

variable {text : String} {texts others : List String}

@[simp] theorem mem_distinctSorted : text ∈ distinctSorted texts ↔ text ∈ texts := by
  rw [distinctSorted, List.mem_mergeSort, List.mem_eraseDups]

theorem pairwise_distinctSorted (texts : List String) :
    (distinctSorted texts).Pairwise (· < ·) := by
  have isLE (a b : String) : (compare a b != .gt) = true ↔ a ≤ b := by
    rw [bne_iff_ne, compare_le_iff_le]
  have sorted : (distinctSorted texts).Pairwise fun a b => (compare a b != .gt) = true := by
    refine List.pairwise_mergeSort ?_ ?_ _
    · intro a b c
      simp only [isLE]
      exact le_trans
    · intro a b
      rw [Bool.or_eq_true, isLE, isLE]
      exact le_total a b
  have distinct : (distinctSorted texts).Nodup :=
    (List.mergeSort_perm _ _).nodup_iff.2 (nodup_eraseDups texts)
  refine (sorted.and distinct).imp ?_
  intro a b h
  exact lt_of_le_of_ne ((isLE a b).1 h.1) h.2

/-- Only which texts there are counts, not where and how often. -/
theorem distinctSorted_congr (h : ∀ text, text ∈ texts ↔ text ∈ others) :
    distinctSorted texts = distinctSorted others := by
  refine List.Pairwise.eq_of_mem_iff (pairwise_distinctSorted texts)
    (pairwise_distinctSorted others) ?_
  simpa using h

end DistinctSorted

section Collection

variable {f t : String} {bs : List Bookmark}

theorem mem_availableFiles : f ∈ availableFiles bs ↔ ∃ b ∈ bs, b.filepath = f := by
  rw [availableFiles, mem_distinctSorted, List.mem_map]

theorem mem_availableTags : t ∈ availableTags bs ↔ ∃ b ∈ bs, t ∈ b.tags := by
  rw [availableTags, mem_distinctSorted, List.mem_flatMap]

namespace SettingsForm

variable {s : SettingsForm} {query : Option QueryForm} {moment : Moment}

/-- Without a search term and a range, only file and tags count. -/
theorem filter_of_blank (term : s.searchTerm.isVoid = true) (range : s.hasRange = false)
    {required : List Json} (tags : s.requiredTags = .ok required) (bs : List Bookmark) :
    s.filter none moment bs = .ok ((bs.filter s.passesFile).filter (passesTags required)) := by
  have first : s.passesQuery none moment = fun _ => .ok true := by
    funext b
    exact if_pos term
  have last : s.passesRange moment.zone = fun _ => .ok true := by
    funext b
    exact if_neg (by simp [range])
  rw [filter, first, last, bind_of_ok (Verdict.keep_ok _ bs), bind_of_ok tags, Verdict.keep_ok]
  simp

theorem filter_file (given : f ≠ "") (moment : Moment) (bs : List Bookmark) :
    SettingsForm.filter { file := .str f } none moment bs = .ok (bs.filter (·.filepath == f)) := by
  rw [filter_of_blank rfl rfl (show requiredTags _ = .ok [] from rfl)]
  have passes (b : Bookmark) : passesFile { file := .str f } b = (b.filepath == f) := by
    rw [passesFile, Json.isVoid, String.isEmpty_eq_false_iff.2 given, Bool.false_or, Json.same_str,
      BEq.comm]
  simp [passesTags, passes]

theorem filter_tag (t : String) (moment : Moment) (bs : List Bookmark) :
    SettingsForm.filter { tags := .arr [.str t] } none moment bs =
      .ok (bs.filter (·.tags.contains t)) := by
  rw [filter_of_blank rfl rfl (show requiredTags _ = .ok [.str t] from rfl)]
  have passes (b : Bookmark) : passesFile { tags := .arr [.str t] } b = true := rfl
  simp [passesTags, passes, Json.text?]

theorem sublist_of_filter {found : List Bookmark} (h : s.filter query moment bs = .ok found) :
    found.Sublist bs := by
  obtain ⟨kept, first, h⟩ := exists_of_bind h
  obtain ⟨required, _, h⟩ := exists_of_bind h
  have last := (Verdict.sublist_of_keep h).trans (List.filter_sublist.trans List.filter_sublist)
  exact last.trans (Verdict.sublist_of_keep first)

end SettingsForm

theorem arrange_perm (zone : Int) (criteria : List CriterionForm) (bs : List Bookmark) :
    (arrange zone criteria bs).Perm bs := Sorting.sort_perm _ _

/-- What is found is what passes, arranged; the values to choose from are those of all. -/
theorem find_eq_ok_iff {moment : Moment} {s : SettingsForm} {query : Option QueryForm}
    {found : Findings} : find moment s query bs = .ok found ↔
      ∃ kept criteria analytics, s.filter query moment bs = .ok kept ∧
        s.activeCriteria = .ok criteria ∧
        Analytics.ofCounts (.int bs.length) (.int kept.length) = .ok analytics ∧
        found = {
          bookmarks := arrange moment.zone criteria kept
          files := availableFiles bs
          tags := availableTags bs
          analytics } := by
  constructor
  · intro h
    obtain ⟨kept, filtered, h⟩ := exists_of_bind h
    obtain ⟨sorted, arranged, h⟩ := exists_of_bind h
    obtain ⟨analytics, counted, h⟩ := exists_of_bind h
    obtain ⟨criteria, active, rfl⟩ := exists_of_map arranged
    rw [(arrange_perm _ _ _).length_eq] at counted
    cases h
    exact ⟨kept, criteria, analytics, filtered, active, counted, rfl⟩
  · rintro ⟨kept, criteria, analytics, filtered, active, counted, rfl⟩
    have arranged : s.sort moment.zone kept = .ok (arrange moment.zone criteria kept) := by
      rw [SettingsForm.sort, active]
      rfl
    have same : (arrange moment.zone criteria kept).length = kept.length :=
      (arrange_perm _ _ _).length_eq
    rw [find, bind_of_ok filtered, bind_of_ok arranged, same, bind_of_ok counted]
    rfl

/-- The paths and tags to choose from ascend, each is one by which something is found and there are
no others, and every bookmark that is found has its path and its tags among them. -/
theorem facets_iff_found (bs : List Bookmark) :
    (availableFiles bs).Pairwise (· < ·) ∧ (availableTags bs).Pairwise (· < ·) ∧
    (∀ (moment : Moment) (f : String), f ≠ "" → ∃ found,
      SettingsForm.filter { file := .str f } none moment bs = .ok found ∧
        (f ∈ availableFiles bs ↔ found ≠ [])) ∧
    (∀ (moment : Moment) (t : String), ∃ found,
      SettingsForm.filter { tags := .arr [.str t] } none moment bs = .ok found ∧
        (t ∈ availableTags bs ↔ found ≠ [])) ∧
    ∀ (moment : Moment) (s : SettingsForm) (query : Option QueryForm) (found : Findings),
      find moment s query bs = .ok found → ∀ b ∈ found.bookmarks,
        b.filepath ∈ found.files ∧ ∀ t ∈ b.tags, t ∈ found.tags := by
  refine ⟨pairwise_distinctSorted _, pairwise_distinctSorted _, ?files, ?tags, ?found⟩
  case files =>
    intro moment f given
    refine ⟨_, SettingsForm.filter_file given moment bs, ?_⟩
    simp [mem_availableFiles]
  case tags =>
    intro moment t
    refine ⟨_, SettingsForm.filter_tag t moment bs, ?_⟩
    simp [mem_availableTags]
  case found =>
    intro moment s query found finds b hb
    obtain ⟨kept, criteria, analytics, filtered, _, _, rfl⟩ := find_eq_ok_iff.1 finds
    have among : b ∈ bs :=
      (SettingsForm.sublist_of_filter filtered).subset ((arrange_perm _ _ _).mem_iff.1 hb)
    exact ⟨mem_availableFiles.2 ⟨b, among, rfl⟩, fun t ht => mem_availableTags.2 ⟨b, among, ht⟩⟩

/-- One path twice, an empty path, an empty tag, and a term that is in one title only. -/
theorem facets_iff_found_empty_tag :
    let bookmark (title filepath : String) (tags : List String) : Bookmark :=
      { id := "", title, timestamp := .zero, filepath, createdAt := "", description := none, tags }
    let bs := [bookmark "one" "/b" ["x", ""], bookmark "two" "/b" [], bookmark "" "" ["X"]]
    let moment : Moment := ⟨0, ⟨.first, none⟩⟩
    ("/b" ≠ "" ∧ ∃ found, SettingsForm.filter { file := .str "/b" } none moment bs = .ok found ∧
      ("/b" ∈ availableFiles bs ↔ found ≠ [])) ∧
    ∃ found, find moment { searchTerm := .str "ONE" } none bs = .ok found ∧
      ∀ b ∈ found.bookmarks, b.filepath ∈ found.files ∧ ∀ t ∈ b.tags, t ∈ found.tags := by
  intro bookmark bs moment
  obtain ⟨_, _, files, _, own⟩ := facets_iff_found bs
  have given : "/b" ≠ "" := by decide
  have finds : (find moment { searchTerm := .str "ONE" } none bs).isOk = true := by
    decide +kernel
  refine ⟨⟨given, files moment "/b" given⟩, ?_⟩
  cases result : find moment { searchTerm := .str "ONE" } none bs with
  | error fault =>
    rw [result] at finds
    exact absurd finds Bool.false_ne_true
  | ok found => exact ⟨found, rfl, own moment _ none found result⟩

end Collection

end Bookmarks
