import Bookmarks.HistoryStore
import Bookmarks.Proofs.Json.RoundTrip
import Bookmarks.Proofs.Outcome

/-! A history is read back from its text, if its counters are each under a text of its own, and no
object in it has a key twice. Histories whose counters are whole numbers are a case of it. -/

namespace Bookmarks

theorem Preset.ofFields_toJson (p : Preset) :
    ∃ fields, p.toJson = .obj fields ∧ Preset.ofFields fields = .ok p := by
  refine ⟨_, rfl, ?_⟩
  simp [ofFields, Json.Fields.at, List.lookup_cons, Json.count, Json.whole?, Json.display,
    Json.textOrEmpty, Json.text?, bind, Except.bind, pure, Except.pure]

namespace History

/-- Counters of kinds that are texts, of any kind themselves. -/
def named (counters : Json.Fields) : Entries Json Json := counters.map fun c => (.str c.1, c.2)

theorem usageOf_eq_named (value : Json) : usageOf value = named (ViewSettings.fieldsOrNone value) := by
  cases value <;> rfl

/-- The JSON value of a history with counters of kinds that are texts. -/
def document (h : History) (counters : Json.Fields) : Json.Fields :=
  [("recentSearches", .arr (h.recent.map .str)),
    ("customPresets", .arr (h.presets.map Preset.toJson)), ("filterUsageStats", .obj counters)]

theorem usageFields_named {h : History} {counters : Json.Fields} (usage : h.usage = named counters) :
    h.usageFields = .ok counters := by
  rw [usageFields, usage, named]
  refine mapM_map (fun c => ?_) counters
  rfl

theorem toJson_named {h : History} {counters : Json.Fields} (usage : h.usage = named counters) :
    h.toJson = .ok (.obj (h.document counters)) := by
  rw [toJson, usageFields_named usage]
  rfl

theorem presetsOf_toJson (presets : List Preset) :
    presetsOf (presets.map Preset.toJson) = .ok presets := by
  induction presets with
  | nil => rfl
  | cons p rest ih =>
    have ⟨fields, json, back⟩ := Preset.ofFields_toJson p
    unfold presetsOf at ih ⊢
    rw [List.map_cons, json]
    simp only [List.filterMap_cons, List.mapM_cons, back, ih]
    rfl

theorem optionalParts_arr (items : List Json) : optionalParts (.arr items) = .ok items := by
  cases items <;> rfl

theorem ofFields_document {h : History} {counters : Json.Fields}
    (usage : h.usage = named counters) : ofFields (h.document counters) = .ok h := by
  have recent : Json.Fields.at (h.document counters) "recentSearches" =
      .arr (h.recent.map .str) := rfl
  have presets : Json.Fields.at (h.document counters) "customPresets" =
      .arr (h.presets.map Preset.toJson) := rfl
  have counts : Json.Fields.at (h.document counters) "filterUsageStats" = .obj counters := rfl
  have read : usageOf (.obj counters) = h.usage := usage.symm
  simp only [ofFields, recent, presets, counts, optionalParts_arr, presetsOf_toJson, bind,
    Except.bind, Json.filterMap_text?, read]
  rfl

theorem isProper_preset {p : Preset} (filters : (Json.obj p.filters).isProper = true) :
    p.toJson.isProper = true := by
  refine Json.isProper_obj.2 ⟨by simp, ?_⟩
  simp [filters]

theorem isProper_document {h : History} {counters : Json.Fields}
    (filters : ∀ p ∈ h.presets, (Json.obj p.filters).isProper = true)
    (counts : (Json.obj counters).isProper = true) :
    (Json.obj (h.document counters)).isProper = true := by
  have terms : (Json.arr (h.recent.map .str)).isProper = true := by
    rw [Json.isProper_arr, List.forall_mem_map]
    exact fun term _ => Json.isProper_str term
  have presets : (Json.arr (h.presets.map Preset.toJson)).isProper = true := by
    rw [Json.isProper_arr, List.forall_mem_map]
    exact fun p member => isProper_preset (filters p member)
  refine Json.isProper_obj.2 ⟨by simp [document], ?_⟩
  simp [document, terms, presets, counts]

/-- The text of a history that is written, if it can be. -/
def text (h : History) : Except Fault String := do (← h.toJson).encode

theorem text_named {h : History} {counters : Json.Fields} (usage : h.usage = named counters) :
    h.text = (Json.obj (h.document counters)).encode := by
  rw [text, toJson_named usage]
  rfl

/-- What was written of a history is read as it. -/
theorem readText_named {h : History} {counters : Json.Fields} (usage : h.usage = named counters)
    (filters : ∀ p ∈ h.presets, (Json.obj p.filters).isProper = true)
    (counts : (Json.obj counters).isProper = true) {text : String} (written : h.text = .ok text) :
    HistorySession.readText text = .ok h := by
  rw [text_named usage] at written
  have decoded := Json.decode_encode (isProper_document filters counts) written
  rw [HistorySession.readText, decoded]
  simp only [ofFields_document usage]
  rfl

section Counted

/-- Counters of kinds that are texts. -/
def counted (counters : Entries String Int) : Entries Json Json :=
  counters.map fun c => (.str c.1, .int c.2)

theorem counted_inj {counters others : Entries String Int} (h : counted counters = counted others) :
    counters = others := by
  have inj : ∀ c d : String × Int, (Json.str c.1, Json.int c.2) = (Json.str d.1, Json.int d.2) →
      c = d := by
    intro c d same
    grind
  exact (List.map_inj_right inj).1 h

/-- Whether a history has a text that it can be read back from. -/
structure IsProper (h : History) : Prop where
  filters : ∀ p ∈ h.presets, (Json.obj p.filters).isProper = true
  usage : ∃ counters, h.usage = counted counters ∧ (counters.map Prod.fst).Nodup

/-- The counters as they stand in the text. -/
def counterFields (counters : Entries String Int) : Json.Fields :=
  counters.map fun c => (c.1, .int c.2)

/-- The JSON value of a history with given counters. -/
def form (h : History) (counters : Entries String Int) : Json.Fields :=
  [("recentSearches", .arr (h.recent.map .str)),
    ("customPresets", .arr (h.presets.map Preset.toJson)),
    ("filterUsageStats", .obj (counterFields counters))]

theorem counted_eq_named (counters : Entries String Int) :
    counted counters = named (counterFields counters) := by
  simp [counted, named, counterFields]

theorem toJson_counted {h : History} {counters : Entries String Int}
    (usage : h.usage = counted counters) : h.toJson = .ok (.obj (h.form counters)) :=
  toJson_named (usage.trans (counted_eq_named counters))

theorem isProper_counterFields {counters : Entries String Int}
    (distinct : (counters.map Prod.fst).Nodup) :
    (Json.obj (counterFields counters)).isProper = true := by
  refine Json.isProper_obj.2 ⟨?_, ?_⟩
  · rw [counterFields, List.map_map]
    exact distinct
  · intro f hf
    have ⟨c, _, same⟩ := List.mem_map.1 hf
    rw [← same, Json.isProper_int]

theorem readText_text {h : History} (proper : h.IsProper) {text : String}
    (written : h.text = .ok text) : HistorySession.readText text = .ok h := by
  have ⟨counters, usage, distinct⟩ := proper.usage
  exact readText_named (usage.trans (counted_eq_named counters)) proper.filters
    (isProper_counterFields distinct) written

end Counted

end History

end Bookmarks
