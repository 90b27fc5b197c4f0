import Bookmarks.Proofs.History.Session
import Bookmarks.Proofs.Outcome

/-! What loading makes of a stored text. It takes over what the text says as it stands, and neither
drops what stands there twice, nor cuts what there is no room for, nor looks at the counters: so the
history that is loaded is in order just when the one in the text is. -/

namespace Bookmarks

theorem Preset.name_of_ofFields {fields : Json.Fields} {p : Preset} (h : ofFields fields = .ok p) :
    p.name = (fields.at "name").textOrEmpty := by
  have ⟨count, _, h⟩ := exists_of_bind h
  have ⟨id, _, h⟩ := exists_of_bind h
  cases h
  rfl

namespace History

variable {τ : Type} {config : StoreConfig τ} {fields : Json.Fields} {h : History}

/-- Whether a history has each search and each name of a preset once, no more of them than there is
room for, and counts that are natural numbers. -/
structure IsOrderly (config : StoreConfig τ) (h : History) : Prop where
  recent_nodup : h.recent.Nodup
  recent_fit : (h.recent.length : Int) ≤ config.maxRecent
  names_nodup : (h.presets.map (·.name)).Nodup
  presets_fit : (h.presets.length : Int) ≤ config.maxPresets
  counters : ∀ c ∈ h.usage, ∃ n : Nat, c.2 = .int n

theorem isOrderly_empty (recent : 0 ≤ config.maxRecent) (presets : 0 ≤ config.maxPresets) :
    IsOrderly config {} :=
  ⟨List.nodup_nil, recent, List.nodup_nil, presets, fun _ h => absurd h List.not_mem_nil⟩

/-- The parts of a field, if it has any. -/
def partsAt (fields : Json.Fields) (key : String) : List Json :=
  match optionalParts (fields.at key) with
  | .ok parts => parts
  | .error _ => []

/-- The searches of a stored history. -/
def storedSearches (fields : Json.Fields) : List String :=
  (partsAt fields "recentSearches").filterMap Json.text?

/-- The names of the presets of a stored history. -/
def storedNames (fields : Json.Fields) : List String :=
  (partsAt fields "customPresets").filterMap fun
    | .obj preset => some (Json.Fields.at preset "name").textOrEmpty
    | _ => none

/-- The counts of a stored history. -/
def storedCounts (fields : Json.Fields) : List Json :=
  match fields.at "filterUsageStats" with
  | .obj counters => counters.map Prod.snd
  | _ => []

/-- Whether the history in a document is in order. -/
structure IsOrderlyDocument (config : StoreConfig τ) (fields : Json.Fields) : Prop where
  searches_nodup : (storedSearches fields).Nodup
  searches_fit : ((storedSearches fields).length : Int) ≤ config.maxRecent
  names_nodup : (storedNames fields).Nodup
  names_fit : ((storedNames fields).length : Int) ≤ config.maxPresets
  counts : ∀ c ∈ storedCounts fields, ∃ n : Nat, c = .int n

theorem map_name_of_presetsOf {values : List Json} {presets : List Preset}
    (h : presetsOf values = .ok presets) : presets.map (·.name) = values.filterMap fun
      | .obj preset => some (Json.Fields.at preset "name").textOrEmpty
      | _ => none := by
  rw [map_of_mapM (fun _ _ => Preset.name_of_ofFields) h, List.map_filterMap]
  congr 1
  funext value
  cases value <;> rfl

theorem map_snd_usageOf (value : Json) : (usageOf value).map Prod.snd = match value with
    | .obj counters => counters.map Prod.snd
    | _ => [] := by
  cases value <;> simp [usageOf]

/-- Everything is taken over as it stands. -/
theorem views_of_ofFields (read : ofFields fields = .ok h) :
    h.recent = storedSearches fields ∧ h.presets.map (·.name) = storedNames fields ∧
      h.usage.map Prod.snd = storedCounts fields := by
  have ⟨searches, has_searches, read⟩ := exists_of_bind read
  have ⟨values, has_values, read⟩ := exists_of_bind read
  have ⟨presets, has_presets, read⟩ := exists_of_bind read
  cases read
  refine ⟨?_, ?_, map_snd_usageOf _⟩
  · rw [storedSearches, partsAt, has_searches]
  · rw [storedNames, partsAt, has_values, map_name_of_presetsOf has_presets]

theorem isOrderly_iff_document (read : ofFields fields = .ok h) :
    h.IsOrderly config ↔ IsOrderlyDocument config fields := by
  have ⟨searches, names, counts⟩ := views_of_ofFields read
  have size : h.presets.length = (storedNames fields).length := by
    rw [← names, List.length_map]
  have counters : (∀ c ∈ h.usage, ∃ n : Nat, c.2 = .int n) ↔
      ∀ c ∈ storedCounts fields, ∃ n : Nat, c = .int n := by
    rw [← counts, List.forall_mem_map]
  constructor
  · intro orderly
    exact ⟨searches ▸ orderly.recent_nodup, searches ▸ orderly.recent_fit,
      names ▸ orderly.names_nodup, size ▸ orderly.presets_fit, counters.1 orderly.counters⟩
  · intro orderly
    exact ⟨searches ▸ orderly.searches_nodup, searches ▸ orderly.searches_fit,
      names ▸ orderly.names_nodup, size ▸ orderly.names_fit, counters.2 orderly.counts⟩

end History

namespace HistorySession

variable {τ : Type}

theorem readText_eq_ok {text : String} {h : History} : readText text = .ok h ↔
    ∃ fields, Json.decode text = .ok (.obj fields) ∧ History.ofFields fields = .ok h := by
  unfold readText
  split
  · next malformed => simp [malformed]
  · next fields decoded =>
    rw [decoded]
    cases read : History.ofFields fields <;> simp [Except.mapError, read]
  · next value other decoded =>
    rw [decoded]
    simp only [Except.ok.injEq, reduceCtorEq, false_iff, not_exists, not_and]
    intro fields same
    exact absurd same (other fields)

/-- A new store that loads has a history in order just when the stored one, if it can be read, is in
order. -/
theorem isOrderly_load_iff (config : StoreConfig τ) (recent : 0 ≤ config.maxRecent)
    (presets : 0 ≤ config.maxPresets) {backend : Backend} {text : String}
    (found : backend.read config.historyKey = .ok (some text)) (now : τ) (today : String) :
    let s : HistorySession τ := { config, backend, now, today }
    s.load.store.history.IsOrderly config ↔
      ∀ fields h, Json.decode text = .ok (.obj fields) → History.ofFields fields = .ok h →
        History.IsOrderlyDocument config fields := by
  intro s
  have reads : s.backend.read s.config.historyKey = .ok (some text) := found
  cases read : readText text with
  | ok h =>
    have ⟨fields, decoded, taken⟩ := readText_eq_ok.1 read
    have loaded : s.load.store.history = h := by simp only [load, reads, read]
    rw [loaded, History.isOrderly_iff_document taken]
    constructor
    · intro orderly others made same _
      rw [decoded] at same
      cases same
      exact orderly
    · intro all
      exact all fields h decoded taken
  | error notice =>
    have loaded : s.load.store.history = {} := by
      simp only [load, reads, read]
      rfl
    rw [loaded]
    refine ⟨fun _ fields h decoded taken => ?_, fun _ => History.isOrderly_empty recent presets⟩
    rw [readText_eq_ok.2 ⟨fields, decoded, taken⟩] at read
    cases read

/-- A text with room for all that it holds, and a counter. -/
theorem isOrderly_load_two :
    let config : StoreConfig Int := { debounce := 5, maxRecent := 2, maxPresets := 0 }
    let text := "\x7b\"recentSearches\": [\"a\", 3, \"b\"], " ++
      "\"filterUsageStats\": \x7b\"tag\": 2\x7d\x7d"
    let backend : Backend := { entries := [(config.historyKey, text)] }
    let s : HistorySession Int := { config, backend, now := 0, today := "2024-01-01" }
    0 ≤ config.maxRecent ∧ 0 ≤ config.maxPresets ∧
    backend.read config.historyKey = .ok (some text) ∧
    (s.load.store.history.IsOrderly config ↔
      ∀ fields h, Json.decode text = .ok (.obj fields) → History.ofFields fields = .ok h →
        History.IsOrderlyDocument config fields) := by
  intro config text backend s
  have recent : 0 ≤ config.maxRecent := by decide
  have presets : 0 ≤ config.maxPresets := by decide
  exact ⟨recent, presets, rfl, isOrderly_load_iff config recent presets rfl 0 "2024-01-01"⟩

/-- A search and a name that stand twice, both more than there is room for, and counters that are a
text and a negative number. -/
theorem not_isOrderly_load :
    let config : StoreConfig Int := { debounce := 5, maxRecent := 1, maxPresets := 1 }
    let text := "\x7b\"recentSearches\": [\"a\", \"a\"], " ++
      "\"customPresets\": [\x7b\"name\": \"p\"\x7d, \x7b\"name\": \"p\"\x7d], " ++
      "\"filterUsageStats\": \x7b\"tag\": \"x\", \"day\": -1\x7d\x7d"
    let backend : Backend := { entries := [(config.historyKey, text)] }
    let s : HistorySession Int := { config, backend, now := 0, today := "2024-01-01" }
    let h := s.load.store.history
    ¬h.recent.Nodup ∧ config.maxRecent < h.recent.length ∧
    ¬(h.presets.map (·.name)).Nodup ∧ config.maxPresets < h.presets.length ∧
    (h.usage.any fun c => c.2.text? == some "x") = true ∧ ¬h.IsOrderly config := by
  intro config text backend s h
  have disorder : ¬h.recent.Nodup ∧ config.maxRecent < h.recent.length ∧
      ¬(h.presets.map (·.name)).Nodup ∧ config.maxPresets < h.presets.length ∧
      (h.usage.any fun c => c.2.text? == some "x") = true := by
    decide +kernel
  have ⟨twice, many, names, presets, counters⟩ := disorder
  exact ⟨twice, many, names, presets, counters, fun orderly => twice orderly.recent_nodup⟩

end HistorySession

end Bookmarks
