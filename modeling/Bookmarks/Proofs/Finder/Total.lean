import Bookmarks.Proofs.Finder.Reading
import Bookmarks.Proofs.Finder.Accept
import Bookmarks.Proofs.Finder.Facets
import Bookmarks.Proofs.Order.Arrange
import Bookmarks.Proofs.Number.Finite

/-! When a search comes to findings. Filtering, sorting and the figures always come to a result over
well-formed settings, so it depends on reading the records and on the date condition of the query:
the main statement says for each record what can stand in the way. -/

namespace Bookmarks

theorem Number.exists_div {i j : Int} (le : i.natAbs ≤ j.natAbs) :
    ∃ quotient, (Number.whole i).div (.whole j) = .ok quotient := by
  have finite : (Double.ofRatio (decide (i < 0)) i.natAbs j.natAbs).isFinite = true := by
    rw [Double.ofRatio, Double.isFinite, decide_eq_true_eq]
    exact Double.rankOf_lt_of_le le
  exact ⟨_, if_pos finite⟩

namespace Analytics

theorem exists_percentage {total found : Nat} (le : found ≤ total) :
    ∃ p, percentage (.whole total) (.whole found) = .ok p := by
  have less : ((total : Int) - found).natAbs ≤ (total : Int).natAbs := by omega
  have ⟨quotient, divided⟩ := Number.exists_div less
  refine ⟨(quotient.mul (.ofInt 100)).roundTo 10, ?_⟩
  have difference : (Number.whole total).sub (.whole found) = .ok (.whole (total - found)) := rfl
  rw [percentage, bind_of_ok difference, bind_of_ok divided]
  rfl

/-- There are figures when no more were found than there are. -/
theorem exists_ofCounts {total found : Nat} (le : found ≤ total) :
    ∃ a, ofCounts (.int total) (.int found) = .ok a := by
  have ⟨p, percent⟩ := exists_percentage le
  have count : (Json.int total).number = .ok (.whole total) := rfl
  have part : (Json.int found).number = .ok (.whole found) := rfl
  rw [ofCounts, bind_of_ok count]
  have reduction : Json.double <$> percentage (.whole total) (.whole found) = .ok (.double p) := by
    rw [percent]
    rfl
  split
  · rw [bind_of_ok part, bind_of_ok reduction]
    exact ⟨_, rfl⟩
  · exact ⟨_, rfl⟩

end Analytics

namespace SettingsForm

variable (s : ViewSettings)

theorem exists_requiredTags : ∃ required, (ofSettings s).requiredTags = .ok required := by
  unfold requiredTags
  split
  · exact ⟨[], rfl⟩
  · have plain : (s.tags.map Json.str).all Json.isPlain = true := by simp [Json.isPlain]
    show ∃ required, (if (s.tags.map Json.str).all Json.isPlain then
      Except.ok (s.tags.map Json.str) else .error Fault.unsuitable) = .ok required
    rw [if_pos plain]
    exact ⟨_, rfl⟩

theorem exists_passesRange (zone : Int) (b : Bookmark) :
    ∃ v, (ofSettings s).passesRange zone b = .ok v := by
  unfold passesRange inDateRange
  split
  · split
    · exact ⟨true, rfl⟩
    · split
      · exact ⟨false, rfl⟩
      · split
        · exact ⟨false, rfl⟩
        · split <;> exact ⟨_, rfl⟩
  · exact ⟨true, rfl⟩

/-- Filtering comes to a result if the stage of the query does on each bookmark. -/
theorem exists_filter_iff (query : Option QueryForm) (moment : Moment) (bs : List Bookmark) :
    (∃ found, (ofSettings s).filter query moment bs = .ok found) ↔
      ∀ b ∈ bs, ∃ v, (ofSettings s).passesQuery query moment b = .ok v := by
  obtain ⟨required, tags⟩ := exists_requiredTags s
  rw [← Verdict.exists_keep_iff, filter, tags]
  constructor
  · rintro ⟨found, h⟩
    obtain ⟨kept, h, _⟩ := exists_of_bind h
    exact ⟨kept, h⟩
  · rintro ⟨kept, h⟩
    rw [h]
    exact Verdict.exists_keep_iff.2 fun b _ => exists_passesRange s moment.zone b

theorem exists_sort (zone : Int) (bs : List Bookmark) :
    ∃ sorted, (ofSettings s).sort zone bs = .ok sorted ∧ sorted.length = bs.length := by
  have numbered : ∀ c ∈ (ofSettings s).criteria, c.priority.number?.isSome := by
    intro c hc
    have ⟨criterion, _, same⟩ := List.mem_map.1 hc
    rw [← same]
    rfl
  have ⟨criteria, active⟩ := (ofSettings s).exists_activeCriteria numbered
  refine ⟨arrange zone criteria bs, ?_, (Sorting.sort_perm _ _).length_eq⟩
  rw [sort, active]
  rfl

end SettingsForm

/-- Finding comes to a result if the stage of the query does on each bookmark. -/
theorem exists_find_iff (moment : Moment) (s : ViewSettings) (query : Option QueryForm)
    (bs : List Bookmark) :
    (∃ findings, find moment (.ofSettings s) query bs = .ok findings) ↔
      ∀ b ∈ bs, ∃ v, (SettingsForm.ofSettings s).passesQuery query moment b = .ok v := by
  rw [← SettingsForm.exists_filter_iff, find]
  constructor
  · rintro ⟨findings, h⟩
    obtain ⟨found, filtered, _⟩ := exists_of_bind h
    exact ⟨found, filtered⟩
  · rintro ⟨found, filtered⟩
    obtain ⟨sorted, arranged, same⟩ := SettingsForm.exists_sort s moment.zone found
    have fewer : sorted.length ≤ bs.length := by
      rw [same]
      exact (SettingsForm.sublist_of_filter filtered).length_le
    obtain ⟨analytics, figures⟩ := Analytics.exists_ofCounts fewer
    rw [bind_of_ok filtered, bind_of_ok arranged, bind_of_ok figures]
    exact ⟨_, rfl⟩

/-- The query of a search text, if the text is not blank. -/
def typedQuery? (text : String) : Option Query :=
  if (Text.trim text.toList).isEmpty then none else some (Query.parse text).1

theorem queryOfText_str (text : String) :
    queryOfText (.str text) = .ok ((typedQuery? text).map .ofQuery) := by
  unfold queryOfText typedQuery?
  split
  · next void =>
    have blank : text = "" := by simpa [Json.isVoid] using void
    rw [blank]
    rfl
  · show Except.ok (if (Text.trim text.toList).isEmpty then none
      else some (QueryForm.ofQuery (Query.parse text).1)) = _
    split <;> rfl

/-- Whether a date on which a query reaches back from now is asked of a bookmark. -/
def ReachesPast (now : Instant) (query : Query) (b : Bookmark) : Prop :=
  (TermsForm.ofTerms query.required).allHold b = .ok true ∧
    ∃ shortcut, query.created = some (.within shortcut) ∧ now.micros < shortcut.reach

theorem exists_passesQuery_iff (s : ViewSettings) (zone : Int) (now : Instant)
    (query : Option Query) (b : Bookmark) :
    (∃ v, (SettingsForm.ofSettings s).passesQuery (query.map .ofQuery) ⟨zone, ⟨now, none⟩⟩ b =
      .ok v) ↔ ∀ q ∈ query, ¬ReachesPast now q b := by
  cases query with
  | none =>
    refine ⟨fun _ => nofun, fun _ => ?_⟩
    simp only [Option.map_none, SettingsForm.passesQuery]
    split <;> exact ⟨_, rfl⟩
  | some q =>
    refine (QueryForm.exists_accepts_iff b q zone now).trans ?_
    simp [ReachesPast]

/-- Whether nothing in a record stands in the way of a search: its timestamp is no whole number
past the largest double, and if its date is looked at, the time that is asked for has begun after
the first day that there is. -/
structure IsSearchable (now : Instant) (query : Option Query) (record : Json.Fields) : Prop where
  timed : (record.at "timestamp").FitsDouble
  dated : ∀ b, Bookmark.ofFields record = .ok b → ∀ q ∈ query, ¬ReachesPast now q b

/-- A search over well-formed settings, at a local time and among records that can be read from a
text, comes to findings just when every record allows it. -/
theorem exists_search_iff (zone : Int) (now : Instant) (s : ViewSettings) (text : String)
    (records : List Json.Fields) (within : ∀ r ∈ records, (Json.obj r).IsWithin Json.depthLimit) :
    (∃ findings, search ⟨zone, ⟨now, none⟩⟩ (.ofSettings s) (.str text)
      (.arr (records.map .obj)) = .ok findings) ↔
      ∀ r ∈ records, IsSearchable now (typedQuery? text) r := by
  have all_read := Bookmark.exists_listOfJson_iff fun r hr => (within r hr).isWritable
  rw [search, bind_of_ok (queryOfText_str text)]
  constructor
  · intro ⟨findings, h⟩ r hr
    have ⟨bookmarks, read, found⟩ := exists_of_bind h
    have passes := (exists_find_iff _ s _ bookmarks).1 ⟨findings, found⟩
    refine ⟨all_read.1 ⟨bookmarks, read⟩ r hr, fun b made => ?_⟩
    have member := (Bookmark.mem_listOfJson_iff read).2 ⟨r, hr, made⟩
    exact (exists_passesQuery_iff s zone now _ b).1 (passes b member)
  · intro searchable
    have ⟨bookmarks, read⟩ := all_read.2 fun r hr => (searchable r hr).timed
    rw [bind_of_ok read, exists_find_iff]
    intro b member
    have ⟨r, hr, made⟩ := (Bookmark.mem_listOfJson_iff read).1 member
    exact (exists_passesQuery_iff s zone now _ b).2 ((searchable r hr).dated b made)

/-- Yesterday is asked for as the second day that there is begins. -/
theorem exists_search_second_day :
    let now : Instant := (Instant.ofDayNumber? 1).getD .first
    let records : List Json.Fields := [[("id", .int 7), ("timestamp", .int (10 ^ 308 : Nat)),
      ("createdAt", .str "0001-01-01"), ("tags", .arr [.null])]]
    (∃ findings, search ⟨0, ⟨now, none⟩⟩ (.ofSettings {}) (.str "created:yesterday")
      (.arr (records.map .obj)) = .ok findings) ↔
      ∀ r ∈ records, IsSearchable now (typedQuery? "created:yesterday") r := by
  intro now records
  apply exists_search_iff 0 now {} "created:yesterday" records
  intro r hr
  rw [List.mem_singleton.1 hr]
  exact ⟨by decide +kernel, by decide⟩

/-- A timestamp past the largest double stops a search, and so does yesterday on the first day. -/
theorem search_given_up :
    (search ⟨0, ⟨.first, none⟩⟩ (.ofSettings {}) (.str "")
      (.arr [.obj [("timestamp", .int (10 ^ 309 : Nat))]])).isOk = false ∧
    (search ⟨0, ⟨.first, none⟩⟩ (.ofSettings {}) (.str "created:yesterday")
      (.arr [.obj [("createdAt", .str "2024-01-15T10:00:00")]])).isOk = false := by
  decide +kernel

end Bookmarks
