import Bookmarks.Proofs.View.Layered
import Bookmarks.Proofs.View.Load

/-! Where the settings of a view come from when an object is stored for it. What the object does not
name is taken from the defaults of the view, and what can be taken for a setting is read. Any other
value gives the default that is the same for all views: those of the view come back only where they
do not differ from it. -/

namespace Bookmarks

/-- What is found by its name in a list is found from this name as a text alone. -/
theorem Json.eq_str_of_find? {α : Type} {choices : List α} {nameOf : α → String} {value : Json}
    {choice : α}
    (found : (value.text?.bind fun text => choices.find? (nameOf · == text)) = some choice) :
    value = .str (nameOf choice) := by
  have ⟨text, is_text, found⟩ := Option.bind_eq_some_iff.1 found
  have named : nameOf choice = text := by simpa using List.find?_some found
  cases value <;> cases is_text
  rw [named]

namespace Setting

/-- Whether a value can be taken for a setting; what lies inside it is not looked at. -/
def Accepts (value : Json) : Setting → Prop
  | searchTerm => ∃ text, value = .str text
  | dateRange => ∃ range, value = .obj range
  | tags => (∃ items, value = .arr items) ∨ ∃ tag, value = .str tag
  | sortBy => ∃ field : SortField, value = .str field.name
  | direction => ∃ direction : Direction, value = .str direction.name
  | file => ∃ path, value = .str path
  | criteria => ∃ items, value = .arr items
  | multiSort => ∃ b, value = .bool b

/-- The default of a setting that all views share. -/
def common (k : Setting) : k.Part := ({} : ViewSettings).part k

/-- What cannot be taken for a setting is read as the common default. -/
theorem read_of_not_accepts {k : Setting} {value : Json} (unfit : ¬k.Accepts value) :
    k.read value = .ok k.common := by
  cases k with
  | sortBy =>
    have unknown : SortField.ofJson? value = none :=
      Option.eq_none_iff_forall_ne_some.2 fun field h =>
        unfit ⟨field, Json.eq_str_of_find? h⟩
    show Except.ok ((SortField.ofJson? value).getD .createdAt) = _
    rw [unknown]
    rfl
  | direction =>
    have unknown : Direction.ofJson? value = none :=
      Option.eq_none_iff_forall_ne_some.2 fun direction h =>
        unfit ⟨direction, Json.eq_str_of_find? h⟩
    show Except.ok ((Direction.ofJson? value).getD .descending) = _
    rw [unknown]
    rfl
  | tags =>
    cases value with
    | arr items => exact absurd (.inl ⟨items, rfl⟩) unfit
    | str tag => exact absurd (.inr ⟨tag, rfl⟩) unfit
    | _ => rfl
  | searchTerm | file =>
    cases value with
    | str text => exact absurd ⟨text, rfl⟩ unfit
    | _ => rfl
  | dateRange =>
    cases value with
    | obj range => exact absurd ⟨range, rfl⟩ unfit
    | _ => rfl
  | criteria =>
    cases value with
    | arr items => exact absurd ⟨items, rfl⟩ unfit
    | _ => rfl
  | multiSort =>
    cases value with
    | bool b => exact absurd ⟨b, rfl⟩ unfit
    | _ => rfl

/-- Whether the value under the key of a setting can be taken for it. -/
def IsGiven (fields : Json.Fields) (k : Setting) : Prop :=
  ∃ value, fields.lookup k.key = some value ∧ k.Accepts value

/-- Whether there is a value under the key of a setting that cannot be taken for it. -/
def IsMarred (fields : Json.Fields) (k : Setting) : Prop :=
  ∃ value, fields.lookup k.key = some value ∧ ¬k.Accepts value

end Setting

namespace ViewSettings

/-- Where the settings that fields make of others come from, one by one. -/
structure IsFilledFrom (s d : ViewSettings) (fields : Json.Fields) : Prop where
  absent : ∀ k : Setting, fields.lookup k.key = none → s.part k = d.part k
  given : ∀ (k : Setting) value, fields.lookup k.key = some value → k.Accepts value →
    k.read value = .ok (s.part k)
  marred : ∀ k : Setting, k.IsMarred fields → s.part k = k.common

theorem isFilledFrom_of_merged {d s : ViewSettings} {fields : Json.Fields}
    (distinct : (fields.map Prod.fst).Nodup)
    (merged : (SettingsForm.ofSettings d).merged (.obj fields) = .ok s) :
    s.IsFilledFrom d fields := by
  rw [SettingsForm.merged_of_toFields d.toFields_ofSettings] at merged
  have laid := read_of_ofFields merged
  simp only [at_putAll distinct] at laid
  have named (k : Setting) value (found : fields.lookup k.key = some value) :
      k.read value = .ok (s.part k) := by
    have read := laid k
    rwa [found] at read
  refine ⟨?_, fun k value found _ => named k value found, ?_⟩
  · intro k missing
    have read := laid k
    rw [missing, Option.none_or] at read
    exact Except.ok.inj (read.symm.trans (read_of_ofFields d.ofFields_form k))
  · intro k ⟨value, found, unfit⟩
    exact Except.ok.inj ((named k value found).symm.trans (Setting.read_of_not_accepts unfit))

/-- Whether settings have the defaults of a view wherever fields give nothing for a setting. -/
def KeepsDefaults (s d : ViewSettings) (fields : Json.Fields) : Prop :=
  ∀ k : Setting, ¬k.IsGiven fields → s.part k = d.part k

theorem IsFilledFrom.keepsDefaults_iff {s d : ViewSettings} {fields : Json.Fields}
    (filled : s.IsFilledFrom d fields) :
    s.KeepsDefaults d fields ↔ ∀ k : Setting, k.IsMarred fields → d.part k = k.common := by
  constructor
  · intro keeps k marred
    have ⟨value, found, unfit⟩ := marred
    have not_given : ¬k.IsGiven fields := by
      intro ⟨other, found', fits⟩
      cases found.symm.trans found'
      exact unfit fits
    exact (keeps k not_given).symm.trans (filled.marred k marred)
  · intro same k not_given
    cases found : fields.lookup k.key with
    | none => exact filled.absent k found
    | some value =>
      have marred : k.IsMarred fields := ⟨value, found, fun fits => not_given ⟨value, found, fits⟩⟩
      rw [filled.marred k marred, same k marred]

end ViewSettings

namespace ViewStore

/-- Any object that is stored for a view is loaded. It leaves the settings that it does not name as
the view has them; and a view has its own default for one that is named with an unfit value only if
that is the common default. -/
theorem load_isFilledFrom {store : ViewStore} {view text : String} {fields : Json.Fields}
    (stored : store.backend.read (store.keyOf view) = .ok (some text))
    (holds : Json.decode text = .ok (.obj fields)) (d : ViewSettings) :
    ∃ s : ViewSettings, store.load view (.ofSettings d) = .ok (.ofSettings s, []) ∧
      s.IsFilledFrom d fields ∧
      (s.KeepsDefaults d fields ↔ ∀ k : Setting, k.IsMarred fields → d.part k = k.common) := by
  have ⟨s, merged, _⟩ := d.exists_merged (Json.isWithin_decode holds).isWritable
  have distinct := (Json.isProper_obj.1 (Json.isReadable_isProper.of_read holds)).1
  have filled := ViewSettings.isFilledFrom_of_merged distinct merged
  refine ⟨s, ?_, filled, filled.keepsDefaults_iff⟩
  rw [load_eq_loaded, stored, loaded, readText, holds]
  simp only [merged]

/-- A number for the search term, an unknown field, and a tag alone. -/
theorem load_isFilledFrom_marred :
    let fields : Json.Fields :=
      [("searchTerm", .int 5), ("sortBy", .str "rating"), ("tags", .str "a")]
    let d : ViewSettings := { sortBy := .title, tags := ["b"], file := "/a" }
    ∃ (store : ViewStore) (text : String),
      store.backend.read (store.keyOf "v") = .ok (some text) ∧
      Json.decode text = .ok (.obj fields) ∧
      ∃ s : ViewSettings, store.load "v" (.ofSettings d) = .ok (.ofSettings s, []) ∧
        s.IsFilledFrom d fields ∧
        (s.KeepsDefaults d fields ↔ ∀ k : Setting, k.IsMarred fields → d.part k = k.common) := by
  intro fields d
  have ⟨text, _, holds⟩ := Json.exists_decode (v := .obj fields) (by decide) (by decide) (by decide)
  let store : ViewStore :=
    { backend := { entries := [("bookmark-filters-v", text)] }, keyStart := "bookmark-filters-" }
  have stored : store.backend.read (store.keyOf "v") = .ok (some text) := rfl
  exact ⟨store, text, stored, holds, load_isFilledFrom stored holds d⟩

/-- A number for the search term loses the search term of the view. -/
theorem not_keepsDefaults_load : ¬∀ (store : ViewStore) (view text : String) (fields : Json.Fields)
    (d s : ViewSettings), store.backend.read (store.keyOf view) = .ok (some text) →
    Json.decode text = .ok (.obj fields) →
    store.load view (.ofSettings d) = .ok (.ofSettings s, []) → s.KeepsDefaults d fields := by
  intro keeps
  let fields : Json.Fields := [("searchTerm", .int 5)]
  let d : ViewSettings := { searchTerm := "x" }
  have ⟨text, _, holds⟩ := Json.exists_decode (v := .obj fields) (by decide) (by decide) (by decide)
  let store : ViewStore :=
    { backend := { entries := [("bookmark-filters-v", text)] }, keyStart := "bookmark-filters-" }
  have stored : store.backend.read (store.keyOf "v") = .ok (some text) := rfl
  have merged : (SettingsForm.ofSettings d).merged (.obj fields) = .ok {} := rfl
  have loads : store.load "v" (.ofSettings d) = .ok (.ofSettings {}, []) := by
    rw [load_eq_loaded, stored, loaded, readText, holds]
    simp only [merged]
  have not_given : ¬Setting.searchTerm.IsGiven fields := by
    rintro ⟨value, found, text, is_text⟩
    rw [is_text] at found
    cases found
  have same : "" = "x" := keeps store "v" text fields d {} stored holds loads .searchTerm not_given
  exact absurd same (by decide)

end ViewStore

end Bookmarks
