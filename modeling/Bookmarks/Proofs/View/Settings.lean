import Bookmarks.Proofs.Json.Coercion

/-! Settings laid over others. Entries that name all the fields of some settings bring back these,
whatever they are laid over. Any other entries that were read from a text make settings too, which
can be written if those they are laid over can. -/

namespace Bookmarks

namespace SortCriterion

def toJson (c : SortCriterion) : Json := (CriterionForm.ofCriterion c).toJson

theorem ofFields?_toJson (c : SortCriterion) :
    ∃ fields, c.toJson = .obj fields ∧ ofFields? fields = some c := by
  refine ⟨_, rfl, ?_⟩
  simp [ofFields?, Json.Fields.at, List.lookup_cons, CriterionForm.ofCriterion,
    SortField.ofJson?_name, Direction.ofJson?_name, Json.whole?]

theorem listOfJson_toJson (criteria : List SortCriterion) :
    listOfJson (.arr (criteria.map toJson)) = criteria := by
  induction criteria with
  | nil => rfl
  | cons c rest ih =>
    have ⟨fields, object, read⟩ := c.ofFields?_toJson
    simp only [listOfJson, List.map_cons, object, List.filterMap_cons, read]
    exact congrArg (c :: ·) ih

end SortCriterion

namespace ViewSettings

/-- The fields of settings. -/
def form (s : ViewSettings) : Json.Fields :=
  [("searchTerm", .str s.searchTerm),
    ("dateRange", .obj [("start", .str s.rangeStart), ("end", .str s.rangeStop)]),
    ("tags", .arr (s.tags.map .str)), ("sortBy", .str s.sortBy.name),
    ("sortDirection", .str s.direction.name), ("fileFilter", .str s.file),
    ("sortCriteria", .arr (s.criteria.map SortCriterion.toJson)),
    ("enableMultiSort", .bool s.multiSort)]

theorem nodup_form (s : ViewSettings) : (s.form.map Prod.fst).Nodup := by
  show ["searchTerm", "dateRange", "tags", "sortBy", "sortDirection", "fileFilter",
    "sortCriteria", "enableMultiSort"].Nodup
  decide

theorem toFields_ofSettings (s : ViewSettings) :
    (SettingsForm.ofSettings s).toFields = .ok s.form := by
  simp [SettingsForm.toFields, SettingsForm.ofSettings, form, Json.parts, bind, Except.bind, pure,
    Except.pure, SortCriterion.toJson]

theorem ofFields_form (s : ViewSettings) : ofFields s.form = .ok s := by
  simp [ofFields, form, Json.Fields.at, List.lookup_cons, Json.texts_strs, fieldsOrNone,
    Json.textOrEmpty, Json.text?, SortField.ofJson?_name, Direction.ofJson?_name,
    SortCriterion.listOfJson_toJson, bind, Except.bind, pure, Except.pure]

/-- All the fields of settings, laid over any others, are these settings. -/
theorem merged_form (s d : ViewSettings) :
    (SettingsForm.ofSettings d).merged (.obj s.form) = .ok s := by
  have same_keys : d.form.map Prod.fst = s.form.map Prod.fst := rfl
  have laid : Entries.putAll ([] ++ d.form) s.form = [] ++ s.form :=
    Entries.putAll_of_same_keys same_keys s.nodup_form
  rw [List.nil_append, List.nil_append] at laid
  simp only [SettingsForm.merged, toFields_ofSettings, Json.entries, bind, Except.bind]
  rw [laid, ofFields_form]

end ViewSettings

namespace SortCriterion

theorem fitsLimit_ofFields? {fields : Json.Fields} (writable : ∀ f ∈ fields, f.2.isWritable = true)
    {c : SortCriterion} (h : ofFields? fields = some c) : Json.fitsLimit c.priority = true := by
  have ⟨field, _, same⟩ := Option.map_eq_some_iff.1 h
  rw [← same]
  simp only
  cases whole : ((fields.lookup "priority").getD (.int 1)).whole? with
  | none => decide
  | some i =>
    refine Json.fitsLimit_whole? ?_ whole
    cases found : fields.lookup "priority" with
    | none => decide
    | some value => exact writable _ (Entries.mem_of_lookup found)

theorem fitsLimit_listOfJson {value : Json} (writable : value.isWritable = true) :
    ∀ c ∈ listOfJson value, Json.fitsLimit c.priority = true := by
  intro c hc
  unfold listOfJson at hc
  split at hc
  · have ⟨item, member, read⟩ := List.mem_filterMap.1 hc
    have inner := Json.areWritable_iff.1 writable item member
    split at read
    · exact fitsLimit_ofFields? (Json.areWritableFields_iff.1 inner) read
    · cases read
  · cases hc

end SortCriterion

namespace ViewSettings

/-- Whether settings can be written: no priority in them is too long a number. -/
def IsStorable (s : ViewSettings) : Prop :=
  ∀ c ∈ s.criteria, Json.fitsLimit c.priority = true

/-- Entries without long numbers can be laid over any fields whose tags are read. -/
theorem exists_ofFields_putAll {base fields : Json.Fields} {tags : List String}
    (own : (base.at "tags").texts = .ok tags) (writable : (Json.obj fields).isWritable = true) :
    ∃ s, ofFields (base.putAll fields) = .ok s ∧
      s.criteria = SortCriterion.listOfJson (Json.Fields.at (base.putAll fields) "sortCriteria") := by
  have texts : ∃ texts, (Json.Fields.at (base.putAll fields) "tags").texts = .ok texts := by
    unfold Json.Fields.at at own ⊢
    cases found : (base.putAll fields).lookup "tags" with
    | none => exact ⟨[], rfl⟩
    | some value =>
      cases Entries.lookup_putAll_cases found with
      | inl laid => exact Json.exists_texts (Json.areWritableFields_iff.1 writable _ laid)
      | inr before =>
        rw [before] at own
        exact ⟨tags, own⟩
  have ⟨texts, listed⟩ := texts
  exact ⟨_, by rw [ofFields, listed]; rfl, rfl⟩

theorem isWritable_form {s : ViewSettings} (storable : s.IsStorable) :
    ∀ f ∈ s.form, f.2.isWritable = true := by
  have tags : (Json.arr (s.tags.map .str)).isWritable = true := by
    rw [Json.isWritable, Json.areWritable_iff, List.forall_mem_map]
    exact fun tag _ => Json.isWritable_str tag
  have criteria : (Json.arr (s.criteria.map SortCriterion.toJson)).isWritable = true := by
    rw [Json.isWritable, Json.areWritable_iff, List.forall_mem_map]
    intro c member
    rw [SortCriterion.toJson, CriterionForm.toJson, Json.isWritable, Json.areWritableFields_iff]
    simpa [CriterionForm.ofCriterion, Json.isWritable] using storable c member
  simp only [form, List.forall_mem_cons]
  exact ⟨rfl, rfl, tags, rfl, rfl, rfl, criteria, rfl, List.forall_mem_nil _⟩

/-- Entries without long numbers can be laid over any settings. -/
theorem exists_merged (d : ViewSettings) {fields : Json.Fields}
    (writable : (Json.obj fields).isWritable = true) :
    ∃ s, (SettingsForm.ofSettings d).merged (.obj fields) = .ok s ∧
      (d.IsStorable → s.IsStorable) := by
  have tags : (Json.Fields.at d.form "tags").texts = .ok d.tags := Json.texts_strs d.tags
  have ⟨s, read, criteria⟩ := exists_ofFields_putAll tags writable
  refine ⟨s, ?_, ?_⟩
  · simp only [SettingsForm.merged, toFields_ofSettings, Json.entries, bind, Except.bind]
    exact read
  · intro storable c hc
    rw [criteria] at hc
    refine SortCriterion.fitsLimit_listOfJson (Json.isWritable_at ?_ _) c hc
    intro f hf
    cases Entries.mem_putAll hf with
    | inl laid => exact Json.areWritableFields_iff.1 writable f laid
    | inr before => exact isWritable_form storable f before

end ViewSettings

end Bookmarks
