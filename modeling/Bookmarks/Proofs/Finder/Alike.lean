import Bookmarks.Preset
import Bookmarks.Proofs.Finder.Bar
import Bookmarks.Proofs.Finder.Total

/-! Searches that come to the same. What is found depends on the settings only through the stages of
the filter and the criteria of the sort. So a search text without clauses finds what it finds as a
plain search term, and settings that do not deviate find what the usual ones find, whatever criteria
they keep for a sort by several fields. -/

namespace Bookmarks

variable {s t : SettingsForm} {moment : Moment}

/-- What is found depends on the stages of the filter and on the criteria of the sort only. -/
theorem find_congr {query query' : Option QueryForm}
    (inQuery : ∀ b, s.passesQuery query moment b = t.passesQuery query' moment b)
    (inFile : s.passesFile = t.passesFile) (inTags : s.requiredTags = t.requiredTags)
    (inRange : s.passesRange = t.passesRange) (active : s.activeCriteria = t.activeCriteria) :
    find moment s query = find moment t query' := by
  have passes : s.passesQuery query moment = t.passesQuery query' moment := funext inQuery
  have filtered : s.filter query moment = t.filter query' moment := by
    funext bs
    rw [SettingsForm.filter, SettingsForm.filter, passes, inFile, inTags, inRange]
  have sorted : s.sort moment.zone = t.sort moment.zone := by
    funext bs
    rw [SettingsForm.sort, SettingsForm.sort, active]
  funext bs
  rw [find, find, filtered, sorted]

/-! ### Search texts without clauses -/

theorem typedQuery?_of_never {text : String} (some_text : text ≠ "")
    (tidy : Text.IsTidy text.toList) (no_field : Query.Never Query.StartsField true text.toList)
    (no_term : Query.Never Query.StartsTerm true text.toList) :
    typedQuery? text = some { text } := by
  rw [typedQuery?, Text.trim_eq_self tidy.head tidy.last,
    Query.parse_of_never tidy no_field no_term]
  simpa using some_text

/-- A query that is free text alone asks for what a search term asks for. -/
theorem accepts_text {text : String} (some_text : text ≠ "") (b : Bookmark) :
    (QueryForm.ofQuery { text }).accepts moment b = .ok (b.mentions text) := by
  rw [QueryForm.accepts_of_given rfl (by simp) (by simp)]
  simp [some_text]

/-- A search text that is tidy and in which neither a field with a value nor an operator with a term
begins finds what it finds as the search term of the settings, among any collection. -/
theorem search_free_text {text : String} (some_text : text ≠ "") (tidy : Text.IsTidy text.toList)
    (no_field : Query.Never Query.StartsField true text.toList)
    (no_term : Query.Never Query.StartsTerm true text.toList) (moment : Moment) (s : SettingsForm)
    (collection : Json) :
    search moment s (.str text) collection =
      Bookmark.listOfJson collection >>= find moment { s with searchTerm := .str text } none := by
  have same : find moment s (some (.ofQuery { text })) =
      find moment { s with searchTerm := .str text } none := by
    refine find_congr (fun b => ?_) rfl rfl rfl rfl
    have given : (Json.str text).isVoid = false := by simpa [Json.isVoid] using some_text
    simp only [SettingsForm.passesQuery, accepts_text some_text, given]
    rfl
  rw [search, bind_of_ok (queryOfText_str text),
    typedQuery?_of_never some_text tidy no_field no_term, Option.map_some, same]

/-- A field behind a letter, one without a value, an operator within a word and one at the end. -/
theorem search_free_text_dangling :
    let text := "xtag:y title: NOTE to be-AND"
    let collection := Json.arr [.obj [("title", .str "XTAG:Y title: note to be-and not")], .null]
    let s : SettingsForm := { searchTerm := .str "z", sortBy := .str "title" }
    let moment : Moment := ⟨0, ⟨.first, none⟩⟩
    text ≠ "" ∧ Text.IsTidy text.toList ∧ Query.Never Query.StartsField true text.toList ∧
      Query.Never Query.StartsTerm true text.toList ∧
      search moment s (.str text) collection =
        Bookmark.listOfJson collection >>= find moment { s with searchTerm := .str text } none := by
  intro text collection s moment
  have some_text : text ≠ "" := by decide
  have tidy : Text.tidy text.toList = text.toList := by decide +kernel
  have tidy : Text.IsTidy text.toList := tidy ▸ Text.isTidy_tidy _
  have no_field : Query.Never Query.StartsField true text.toList := by decide +kernel
  have no_term : Query.Never Query.StartsTerm true text.toList := by decide +kernel
  exact ⟨some_text, tidy, no_field, no_term,
    search_free_text some_text tidy no_field no_term moment s collection⟩

/-! ### Settings that do not deviate -/

theorem Json.eq_str_of_same {value : Json} {text : String} (same : value.same (.str text) = true) :
    value = .str text := by
  cases value <;> simp_all [Json.same, Json.number?]

namespace SettingsForm

/-- Settings do not deviate if they narrow nothing and sort as usual. The criteria for a sort by
several fields are not looked at. -/
theorem deviates_isVoid_iff : (∃ answer, s.deviates = .ok answer ∧ answer.isVoid = true) ↔
    s.searchTerm = .str "" ∧ s.hasRange = false ∧ s.tags.size = .ok 0 ∧ s.file = .str "" ∧
      s.sortBy = .str "createdAt" ∧ s.direction = .str "desc" ∧ s.multiSort.isVoid = true := by
  constructor
  · rintro ⟨answer, asked, no⟩
    -- an answer that comes before the last is yes
    have later {c : Prop} [Decidable c] {rest : Except Fault Json}
        (h : (if c then .ok (.bool true) else rest) = .ok answer) : ¬c ∧ rest = .ok answer := by
      split at h
      · cases h
        cases no
      · next passed => exact ⟨passed, h⟩
    obtain ⟨narrowed, asked⟩ := later asked
    obtain ⟨count, counted, asked⟩ := exists_of_bind asked
    obtain ⟨tagged, asked⟩ := later asked
    obtain ⟨changed, asked⟩ := later asked
    cases asked
    simp only [Bool.or_eq_true, Bool.not_eq_true', not_or, Bool.not_eq_true, Bool.not_eq_false,
      Nat.not_lt, Nat.le_zero] at narrowed tagged changed
    exact ⟨Json.eq_str_of_same narrowed.1, narrowed.2, tagged ▸ counted,
      Json.eq_str_of_same changed.1.1, Json.eq_str_of_same changed.1.2,
      Json.eq_str_of_same changed.2, no⟩
  · rintro ⟨term, range, tags, file, sortBy, direction, multi⟩
    refine ⟨s.multiSort, ?_, multi⟩
    rw [deviates, term, range, tags, file, sortBy, direction]
    simp only [Json.same_str]
    rfl

end SettingsForm

/-- Settings that do not deviate find, in any collection and with any query, what the usual ones
find. -/
theorem find_of_not_deviates {answer : Json} (asked : s.deviates = .ok answer)
    (no : answer.isVoid = true) (moment : Moment) (query : Option QueryForm) (bs : List Bookmark) :
    find moment s query bs = find moment {} query bs := by
  obtain ⟨term, range, tags, file, sortBy, direction, multi⟩ :=
    SettingsForm.deviates_isVoid_iff.1 ⟨answer, asked, no⟩
  refine congrFun (find_congr (fun b => ?_) ?_ ?_ ?_ ?_) bs
  · cases query with
    | some query => rfl
    | none => rw [SettingsForm.passesQuery, SettingsForm.passesQuery, term]
  · funext b
    rw [SettingsForm.passesFile, SettingsForm.passesFile, file]
  · obtain ⟨items, listed, none_left⟩ := exists_of_map tags
    have no_tags : s.tags.isVoid = true := by
      rw [Json.isVoid_of_parts listed, List.isEmpty_iff, List.length_eq_zero_iff.1 none_left]
    rw [SettingsForm.requiredTags, SettingsForm.requiredTags, if_pos no_tags]
    rfl
  · funext zone b
    rw [SettingsForm.passesRange, SettingsForm.passesRange, range]
    rfl
  · rw [SettingsForm.activeCriteria, SettingsForm.activeCriteria, if_pos multi, sortBy, direction]
    rfl

/-- Criteria that are kept for later, an open range, and the usual order spelled out. -/
theorem find_of_not_deviates_criteria :
    let s : SettingsForm := {
      rangeStart := .null, sortBy := .str "createdAt"
      criteria := [{ field := .str "title", priority := .str "first" }, { field := .int 3 }] }
    let bookmark (title createdAt : String) : Bookmark :=
      { id := "", title, timestamp := .zero, filepath := "", createdAt, description := none,
        tags := [] }
    let bs := [bookmark "b" "2024-01-01", bookmark "a" "2024-02-01"]
    let query := some (QueryForm.ofQuery { text := "b" })
    s.deviates = .ok (.bool false) ∧ (Json.bool false).isVoid = true ∧
      find ⟨0, ⟨.first, none⟩⟩ s query bs = find ⟨0, ⟨.first, none⟩⟩ {} query bs := by
  intro s bookmark bs query
  have asked : s.deviates = .ok (.bool false) := rfl
  exact ⟨asked, rfl, find_of_not_deviates asked rfl _ query bs⟩

end Bookmarks
