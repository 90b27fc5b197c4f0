import Bookmarks.ViewStore
import Bookmarks.Proofs.View.Settings

/-! What is loaded for a view, whatever the backend says and whatever text it holds. Any outcome but
a text with too long a number or too many arrays and objects inside each other gives settings, and
any that is no object gives the defaults. -/

namespace Bookmarks

namespace ViewStore

/-- What is loaded for an outcome of reading the backend. -/
def loaded (view : String) (defaults : SettingsForm) (outcome : Except Fault (Option String)) :
    Except Fault (SettingsForm × List ViewNotice) :=
  match outcome with
  | .error fault => .ok (defaults, [.unread view fault])
  | .ok none => .ok (defaults, [])
  | .ok (some text) => readText view defaults text

theorem load_eq_loaded (store : ViewStore) (view : String) (defaults : SettingsForm) :
    store.load view defaults =
      loaded view defaults (store.backend.read (store.keyOf view)) := by
  unfold load loaded
  split <;> simp_all

/-- Whether what was read is a text that holds an object. -/
def HoldsObject (outcome : Except Fault (Option String)) : Prop :=
  ∃ text fields, outcome = .ok (some text) ∧ Json.decode text = .ok (.obj fields)

/-- Whether what was read is no text that the reader of JSON gives up. -/
def IsReadable (outcome : Except Fault (Option String)) : Prop :=
  ∀ text, outcome = .ok (some text) →
    Json.decode text ≠ .error .longNumber ∧ Json.decode text ≠ .error .tooDeep

section Text

variable {text : String} (view : String) (d : ViewSettings)

theorem readText_object {fields : Json.Fields} (holds : Json.decode text = .ok (.obj fields)) :
    ∃ s : ViewSettings, readText view (.ofSettings d) text = .ok (.ofSettings s, []) ∧
      (d.IsStorable → s.IsStorable) := by
  have ⟨s, merged, storable⟩ := d.exists_merged (Json.isWithin_decode holds).isWritable
  refine ⟨s, ?_, storable⟩
  simp only [readText, holds, merged]

theorem readText_other (readable : Json.decode text ≠ .error .longNumber ∧
    Json.decode text ≠ .error .tooDeep) (other : ∀ fields, Json.decode text ≠ .ok (.obj fields)) :
    ∃ notices, readText view (.ofSettings d) text = .ok (.ofSettings d, notices) := by
  unfold readText
  split
  · next long => exact absurd long readable.1
  · next deep => exact absurd deep readable.2
  · exact ⟨_, rfl⟩
  · next value decoded =>
    split
    · exact absurd decoded (other _)
    · exact ⟨_, rfl⟩

theorem readable_of_readText {answer : SettingsForm × List ViewNotice}
    (h : readText view (.ofSettings d) text = .ok answer) :
    Json.decode text ≠ .error .longNumber ∧ Json.decode text ≠ .error .tooDeep := by
  constructor
  all_goals
    intro damaged
    rw [readText, damaged] at h
    cases h

end Text

section Loaded

variable (view : String) (d : ViewSettings) {outcome : Except Fault (Option String)}

theorem exists_loaded (readable : IsReadable outcome) :
    ∃ answer, loaded view (.ofSettings d) outcome = .ok answer := by
  unfold loaded
  split
  · exact ⟨_, rfl⟩
  · exact ⟨_, rfl⟩
  · next text =>
    by_cases object : ∃ fields, Json.decode text = .ok (.obj fields)
    · have ⟨fields, holds⟩ := object
      have ⟨s, read, _⟩ := readText_object view d holds
      exact ⟨_, read⟩
    · have ⟨notices, read⟩ := readText_other view d (readable text rfl)
        fun fields holds => object ⟨fields, holds⟩
      exact ⟨_, read⟩

theorem loaded_default (other : ¬HoldsObject outcome) {answer : SettingsForm × List ViewNotice}
    (h : loaded view (.ofSettings d) outcome = .ok answer) : answer.1 = .ofSettings d := by
  unfold loaded at h
  split at h
  · cases h
    rfl
  · cases h
    rfl
  · next text =>
    have ⟨notices, read⟩ := readText_other view d (readable_of_readText view d h)
      fun fields holds => other ⟨text, fields, rfl, holds⟩
    rw [read] at h
    cases h
    rfl

theorem loaded_settings {answer : SettingsForm × List ViewNotice}
    (h : loaded view (.ofSettings d) outcome = .ok answer) :
    ∃ s : ViewSettings, answer.1 = .ofSettings s ∧ (d.IsStorable → s.IsStorable) := by
  by_cases object : HoldsObject outcome
  · have ⟨text, fields, found, holds⟩ := object
    have ⟨s, read, storable⟩ := readText_object view d holds
    rw [found, loaded, read] at h
    cases h
    exact ⟨s, rfl, storable⟩
  · exact ⟨d, loaded_default view d object h, id⟩

end Loaded

/-- Whatever the backend answers, loading over well-formed settings comes to a result unless the
text is one that the reader of JSON gives up. The result is well formed, can be written if the
defaults can, and is the defaults when no object was read. -/
theorem load_usable (view : String) (d : ViewSettings) (outcome : Except Fault (Option String)) :
    (∀ store : ViewStore, store.load view (.ofSettings d) =
      loaded view (.ofSettings d) (store.backend.read (store.keyOf view))) ∧
    ((∃ answer, loaded view (.ofSettings d) outcome = .ok answer) ↔ IsReadable outcome) ∧
    ∀ answer, loaded view (.ofSettings d) outcome = .ok answer →
      (∃ s : ViewSettings, answer.1 = .ofSettings s ∧ (d.IsStorable → s.IsStorable)) ∧
      (¬HoldsObject outcome → answer.1 = .ofSettings d) := by
  refine ⟨fun store => store.load_eq_loaded view _, ⟨?_, exists_loaded view d⟩, ?_⟩
  · intro ⟨answer, h⟩ text found
    rw [found] at h
    exact readable_of_readText view d h
  · intro answer h
    exact ⟨loaded_settings view d h, fun other => loaded_default view d other h⟩

/-- A stored whole number of 4301 digits stops the loading. -/
theorem load_given_up :
    let text := String.ofList (List.replicate 4301 '1')
    let store : ViewStore :=
      { backend := { entries := [("bookmark-filters-v", text)] }, keyStart := "bookmark-filters-" }
    store.load "v" {} = .error .badNumber := by
  intro text store
  have leading : Double.IsLeading (List.replicate 4301 '1') := by
    refine ⟨?_, nofun, ?_⟩
    · intro c hc
      rw [List.eq_of_mem_replicate hc]
      decide
    · rw [List.head?_replicate]
      decide
  have long : Json.decode text = .error .longNumber :=
    Json.decode_long leading (by rw [List.length_replicate]; decide)
  have found : store.backend.read (store.keyOf "v") = .ok (some text) := rfl
  rw [load_eq_loaded, found, loaded, readText, long]

end ViewStore

end Bookmarks
