import Bookmarks.Finder
import Bookmarks.Proofs.Json.Coercion
import Bookmarks.Proofs.Number.Reckoning

/-! Which values are read as bookmarks. The only thing that stands in the way of an object without
long numbers is a timestamp that is a whole number past the largest double. -/

namespace Bookmarks

/-- Whether a value is no whole number past the largest double. -/
def Json.FitsDouble (value : Json) : Prop := ∀ i, value = .int i → i.natAbs < Double.overflow

theorem Json.exists_seconds_iff {value : Json} :
    (∃ d, value.seconds = .ok d) ↔ value.FitsDouble := by
  unfold FitsDouble
  cases value with
  | int i =>
    by_cases zero : i = 0
    · rw [zero]
      exact ⟨fun _ j same => by cases same; decide +kernel, fun _ => ⟨.zero, rfl⟩⟩
    · have given : (Json.int i).isVoid = false := by simpa [isVoid] using zero
      have value : (Json.int i).seconds = (Number.whole i).toDouble := by
        simp [seconds, given, number?]
      rw [value, Number.exists_toDouble_iff]
      simp
  | bool b =>
    refine ⟨fun _ => nofun, fun _ => ?_⟩
    cases b with
    | false => exact ⟨.zero, rfl⟩
    | true =>
      have one : Int.natAbs 1 < Double.overflow := by decide +kernel
      have value : (Json.bool true).seconds = (Number.whole 1).toDouble := by
        simp [seconds, isVoid, number?]
      rw [value, Number.exists_toDouble_iff]
      intro i same
      cases same
      exact one
  | double d =>
    refine ⟨fun _ => nofun, fun _ => ?_⟩
    unfold seconds
    split
    · exact ⟨_, rfl⟩
    · exact ⟨d, rfl⟩
  | _ =>
    refine ⟨fun _ => nofun, fun _ => ?_⟩
    unfold seconds
    split <;> exact ⟨_, rfl⟩

namespace Bookmark

theorem exists_ofFields_iff {fields : Json.Fields}
    (writable : ∀ f ∈ fields, f.2.isWritable = true) :
    (∃ b, ofFields fields = .ok b) ↔ (fields.at "timestamp").FitsDouble := by
  have ⟨id, shown⟩ := Json.exists_display_lookup writable "id" ""
  have ⟨tags, listed⟩ := Json.exists_texts (Json.isWritable_at writable "tags")
  rw [← Json.exists_seconds_iff, ofFields, shown, listed]
  constructor
  · intro ⟨b, h⟩
    have ⟨timestamp, h, _⟩ := exists_of_bind h
    exact ⟨timestamp, h⟩
  · intro ⟨timestamp, h⟩
    rw [h]
    exact ⟨_, rfl⟩

/-- The bookmarks that are read from objects are those read from each. -/
theorem mem_listOfJson_iff {records : List Json.Fields} {bookmarks : List Bookmark}
    (h : listOfJson (.arr (records.map .obj)) = .ok bookmarks) {b : Bookmark} :
    b ∈ bookmarks ↔ ∃ r ∈ records, ofFields r = .ok b := by
  refine Iff.trans (mem_mapM_iff h) ?_
  constructor
  · intro ⟨value, member, read⟩
    have ⟨r, found, same⟩ := List.mem_map.1 member
    rw [← same] at read
    exact ⟨r, found, read⟩
  · intro ⟨r, found, read⟩
    exact ⟨.obj r, List.mem_map_of_mem found, read⟩

theorem exists_listOfJson_iff {records : List Json.Fields}
    (writable : ∀ r ∈ records, (Json.obj r).isWritable = true) :
    (∃ bookmarks, listOfJson (.arr (records.map .obj)) = .ok bookmarks) ↔
      ∀ r ∈ records, (r.at "timestamp").FitsDouble := by
  refine Iff.trans exists_mapM_iff ?_
  rw [List.forall_mem_map]
  refine forall₂_congr fun r hr => ?_
  exact exists_ofFields_iff (Json.areWritableFields_iff.1 (writable r hr))

end Bookmark

end Bookmarks
