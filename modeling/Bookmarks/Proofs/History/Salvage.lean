import Bookmarks.Proofs.History.Text
import Bookmarks.Proofs.Json.Coercion

/-! What is saved of a history that was damaged. What is no text among the searches and no object
among the presets is passed over, and the parts of a preset are read one by one. But a section is
taken for a list whatever it is: a text gives its characters, an object its keys, and a scalar that
counts as given costs the whole history. So does an infinite number of uses. -/

namespace Bookmarks

namespace Json

/-- Whether a value can stand in place of a list. -/
def isSection (value : Json) : Bool :=
  match value with
  | arr _ | str _ | obj _ => true
  | scalar => scalar.isVoid

/-- The items of a list, and what stands in place of them in a value of another kind. -/
def sectionItems (value : Json) : List Json :=
  match value with
  | arr items => items
  | str s => s.toList.map fun c => str (String.singleton c)
  | obj fields => fields.map fun field => str field.1
  | _ => []

/-- The items of a list, none of any other value. -/
def itemsOrNone (value : Json) : List Json :=
  match value with
  | arr items => items
  | _ => []

theorem optionalParts_eq_ok_iff {value : Json} {items : List Json} :
    History.optionalParts value = .ok items ↔
      value.isSection = true ∧ value.sectionItems = items := by
  unfold History.optionalParts isSection sectionItems parts
  cases value with
  | arr items => cases items <;> simp [isVoid]
  | obj fields => cases fields <;> simp [isVoid]
  | str s => by_cases empty : s = "" <;> simp [isVoid, empty]
  | _ =>
    simp only
    split <;> simp [*]

/-- The objects among some values. -/
def objectsOf (values : List Json) : List Fields :=
  values.filterMap fun
    | obj fields => some fields
    | _ => none

theorem mem_objectsOf {values : List Json} {fields : Fields} :
    fields ∈ objectsOf values ↔ obj fields ∈ values := by
  rw [objectsOf, List.mem_filterMap]
  constructor
  · intro ⟨value, member, same⟩
    split at same
    · cases same
      exact member
    · cases same
  · intro member
    exact ⟨_, member, rfl⟩

/-- Only a list has objects in it. -/
theorem exists_arr_of_mem {value : Json} {fields : Fields}
    (member : fields ∈ objectsOf value.sectionItems) :
    ∃ items, value = .arr items ∧ obj fields ∈ items := by
  have within := mem_objectsOf.1 member
  unfold sectionItems at within
  split at within
  · exact ⟨_, rfl, within⟩
  · have ⟨c, _, same⟩ := List.mem_map.1 within
    cases same
  · have ⟨f, _, same⟩ := List.mem_map.1 within
    cases same
  · cases within

/-- Whether a value is no infinite number. -/
def IsCountable (value : Json) : Prop := ∀ negative, value ≠ .double (.infinity negative)

theorem count_eq_ok_iff {value : Json} {n : Nat} :
    value.count = .ok n ↔ value.IsCountable ∧ n = (value.whole?.getD 0).toNat := by
  unfold count IsCountable
  split
  · next negative rank bounded =>
    by_cases finite : rank < infinityRank
    · rw [if_pos finite]
      have countable : ∀ sign, Json.double (.ranked negative rank bounded) ≠
          .double (.infinity sign) := by
        intro sign same
        cases same
        exact Nat.lt_irrefl _ finite
      simp [countable, eq_comm]
    · have last : rank = infinityRank := by omega
      simp [last, Double.infinity]
  · next other =>
    have countable : ∀ sign, value ≠ .double (.infinity sign) := by
      intro sign same
      exact other _ _ _ same
    simp [countable, eq_comm]

end Json

/-- Whether a preset is what stands under the keys of an object. -/
structure Preset.IsReadFrom (p : Preset) (fields : Json.Fields) : Prop where
  id : ((fields.lookup "id").getD (.str "")).display = .ok p.id
  name : p.name = (fields.at "name").textOrEmpty
  description : p.description = (fields.at "description").textOrEmpty
  filters : p.filters = ViewSettings.fieldsOrNone (fields.at "filters")
  createdAt : p.createdAt = (fields.at "createdAt").textOrEmpty
  usageCount : p.usageCount = ((fields.at "usageCount").whole?.getD 0).toNat

theorem Preset.isReadFrom_of_ofFields {p : Preset} {fields : Json.Fields}
    (read : ofFields fields = .ok p) : p.IsReadFrom fields := by
  have ⟨count, counted, read⟩ := exists_of_bind read
  have ⟨id, shown, read⟩ := exists_of_bind read
  cases read
  exact ⟨shown, rfl, rfl, by simp only; cases fields.at "filters" <;> rfl, rfl,
    (Json.count_eq_ok_iff.1 counted).2⟩

theorem Preset.exists_ofFields_iff {fields : Json.Fields}
    (writable : ∀ f ∈ fields, f.2.isWritable = true) :
    (∃ p, ofFields fields = .ok p) ↔ (fields.at "usageCount").IsCountable := by
  constructor
  · intro ⟨p, read⟩
    have ⟨count, counted, _⟩ := exists_of_bind read
    exact (Json.count_eq_ok_iff.1 counted).1
  · intro countable
    have counted := Json.count_eq_ok_iff.2 ⟨countable, rfl⟩
    have ⟨id, shown⟩ := Json.exists_display_lookup writable "id" ""
    exact ⟨_, by rw [ofFields, counted, shown]; rfl⟩

namespace History

variable {fields : Json.Fields}

/-- What a history has of a document whose sections are read through some items: the texts among
the searches, a preset for each object among the presets, and the counters as they stand. -/
structure IsSavedFrom (items : Json → List Json) (h : History) (fields : Json.Fields) : Prop where
  recent : h.recent = (items (fields.at "recentSearches")).filterMap Json.text?
  presets : List.Forall₂ Preset.IsReadFrom h.presets
    (Json.objectsOf (items (fields.at "customPresets")))
  usage : h.usage = named (ViewSettings.fieldsOrNone (fields.at "filterUsageStats"))

theorem ofFields_eq_ok_iff {h : History} : ofFields fields = .ok h ↔
    ((fields.at "recentSearches").isSection = true ∧
      (fields.at "customPresets").isSection = true ∧
      presetsOf (fields.at "customPresets").sectionItems = .ok h.presets) ∧
    h.recent = (fields.at "recentSearches").sectionItems.filterMap Json.text? ∧
    h.usage = named (ViewSettings.fieldsOrNone (fields.at "filterUsageStats")) := by
  constructor
  · intro read
    have ⟨searches, has_searches, read⟩ := exists_of_bind read
    have ⟨values, has_values, read⟩ := exists_of_bind read
    have ⟨presets, has_presets, read⟩ := exists_of_bind read
    cases read
    obtain ⟨searches_section, rfl⟩ := Json.optionalParts_eq_ok_iff.1 has_searches
    obtain ⟨presets_section, rfl⟩ := Json.optionalParts_eq_ok_iff.1 has_values
    exact ⟨⟨searches_section, presets_section, has_presets⟩, rfl, usageOf_eq_named _⟩
  · intro ⟨⟨searches_section, presets_section, has_presets⟩, recent, usage⟩
    have searches := Json.optionalParts_eq_ok_iff.2 ⟨searches_section, rfl⟩
    have values := Json.optionalParts_eq_ok_iff.2 ⟨presets_section, rfl⟩
    simp only [ofFields, searches, values, bind, Except.bind, has_presets, usageOf_eq_named, ← usage,
      ← recent]
    rfl

theorem isSavedFrom_of_ofFields {h : History} (read : ofFields fields = .ok h) :
    h.IsSavedFrom Json.sectionItems fields := by
  have ⟨⟨_, _, has_presets⟩, recent, usage⟩ := ofFields_eq_ok_iff.1 read
  exact ⟨recent, (forall₂_of_mapM has_presets).imp fun _ _ => Preset.isReadFrom_of_ofFields, usage⟩

theorem exists_presetsOf_iff {value : Json} (writable : value.isWritable = true) :
    (∃ presets, presetsOf value.sectionItems = .ok presets) ↔
      ∀ preset ∈ Json.objectsOf value.sectionItems, (preset.at "usageCount").IsCountable := by
  have each : (∃ presets, presetsOf value.sectionItems = .ok presets) ↔
      ∀ preset ∈ Json.objectsOf value.sectionItems, ∃ p, Preset.ofFields preset = .ok p :=
    exists_mapM_iff
  rw [each]
  apply forall₂_congr
  intro preset member
  have ⟨items, same, within⟩ := Json.exists_arr_of_mem member
  rw [same] at writable
  apply Preset.exists_ofFields_iff
  exact Json.areWritableFields_iff.1 (Json.areWritable_iff.1 writable _ within)

/-- A preset is read from an object in a list. -/
theorem exists_preset_of_ofFields {h : History} {p : Preset} (read : ofFields fields = .ok h)
    (member : p ∈ h.presets) : ∃ items preset, fields.at "customPresets" = .arr items ∧
      .obj preset ∈ items ∧ Preset.ofFields preset = .ok p := by
  have ⟨⟨_, _, has_presets⟩, _⟩ := ofFields_eq_ok_iff.1 read
  have ⟨preset, object, made⟩ := (mem_mapM_iff has_presets).1 member
  have ⟨items, same, within⟩ := Json.exists_arr_of_mem object
  exact ⟨items, preset, same, within, made⟩

/-- Whether nothing in a document keeps all of it from being read. -/
structure IsSalvageable (fields : Json.Fields) : Prop where
  searches : (fields.at "recentSearches").isSection = true
  presets : (fields.at "customPresets").isSection = true
  counts : ∀ preset ∈ Json.objectsOf (fields.at "customPresets").sectionItems,
    (preset.at "usageCount").IsCountable

theorem exists_ofFields_iff (writable : ∀ f ∈ fields, f.2.isWritable = true) :
    (∃ h, ofFields fields = .ok h) ↔ IsSalvageable fields := by
  have presets_iff := exists_presetsOf_iff (Json.isWritable_at writable "customPresets")
  constructor
  · intro ⟨h, read⟩
    have ⟨⟨searches, values, has_presets⟩, _⟩ := ofFields_eq_ok_iff.1 read
    exact ⟨searches, values, presets_iff.1 ⟨h.presets, has_presets⟩⟩
  · intro ⟨searches, values, counts⟩
    have ⟨presets, has_presets⟩ := presets_iff.2 counts
    exact ⟨⟨_, presets, _⟩, ofFields_eq_ok_iff.2 ⟨⟨searches, values, has_presets⟩, rfl, rfl⟩⟩

/-- When the document that a text holds is read, and what is saved of it. -/
theorem isSavedFrom_decode {depth : Nat} {text : List Char}
    (decoded : Json.read ⟨digitLimit, depth⟩ text = .ok (.obj fields)) :
    ((∃ h, ofFields fields = .ok h) ↔ IsSalvageable fields) ∧
      ∀ h, ofFields fields = .ok h → h.IsSavedFrom Json.sectionItems fields := by
  have within := Json.isReadable_isWithin.of_read decoded
  have writable := Json.areWritableFields_iff.1 within.isWritable
  exact ⟨exists_ofFields_iff writable, fun _ => isSavedFrom_of_ofFields⟩

/-- A text in place of the searches is read by its characters, and what is no object among the
presets is passed over. -/
theorem isSavedFrom_decode_text :
    let fields : Json.Fields := [("recentSearches", .str "ab"),
      ("customPresets", .arr [.int 1, .obj [("name", .str "n"), ("usageCount", .str "x")]])]
    ∃ h, ofFields fields = .ok h ∧ h.IsSavedFrom Json.sectionItems fields ∧
      h.recent = ["a", "b"] := by
  intro fields
  have ⟨text, _, decoded⟩ :=
    Json.exists_decode (v := .obj fields) (by decide) (by decide) (by decide)
  have ⟨readable, saved⟩ := isSavedFrom_decode decoded
  have salvageable : IsSalvageable fields := by
    refine ⟨rfl, rfl, ?_⟩
    intro preset member
    cases List.mem_singleton.1 member
    nofun
  have ⟨h, read⟩ := readable.2 salvageable
  exact ⟨h, read, saved h read, (saved h read).recent⟩

/-- Damage does not stay where it is: an infinite number of uses costs the searches too. -/
theorem not_isSavedFrom_decode : ¬∀ text fields, Json.decode text = .ok (.obj fields) →
    ∃ h, ofFields fields = .ok h ∧ h.IsSavedFrom Json.itemsOrNone fields := by
  intro stays
  let fields : Json.Fields := [("recentSearches", .arr [.str "a"]),
    ("customPresets", .arr [.obj [("name", .str "n"), ("usageCount", .double (.infinity false))]])]
  have ⟨text, _, decoded⟩ :=
    Json.exists_decode (v := .obj fields) (by decide) (by decide) (by decide)
  have ⟨h, read, _⟩ := stays text fields decoded
  have refused : ofFields fields = .error .outOfRange := rfl
  rw [refused] at read
  cases read

end History

end Bookmarks
