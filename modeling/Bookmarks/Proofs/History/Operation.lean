import Bookmarks.Proofs.History.Text
import Bookmarks.Proofs.Text.Trim

/-! What a call can make of a history, said once for all calls, so that a property of histories
needs to be looked at for seven outcomes only. A history that has a text it can be read back from
keeps one. -/

namespace Bookmarks

theorem mem_of_mem_upTo {α : Type} {room : Int} {xs : List α} {x : α} (h : x ∈ upTo room xs) :
    x ∈ xs := (upTo_sublist room xs).mem h

/-- One more than fit are cut down to as many as fit, also if there is no room at all. -/
theorem length_upTo_le {α : Type} {room : Int} {xs : List α}
    (h : (xs.length : Int) ≤ max 0 room + 1) : ((upTo room xs).length : Int) ≤ max 0 room := by
  unfold upTo
  split <;> simp only [List.length_take] <;> omega

/-- What a preset carries are settings of presets, each once. -/
theorem Preset.isProper_carried {fields : Json.Fields} (h : (Json.obj fields).isProper = true) :
    (Json.obj (carried fields)).isProper = true := by
  rw [Json.isProper_obj] at h ⊢
  refine ⟨?_, ?_⟩
  · have keys : ∀ names : List String, ((names.filterMap fun key => (fields.lookup key).map
        fun value => (key, value)).map Prod.fst).Sublist names := by
      intro names
      induction names with
      | nil => exact List.Sublist.slnil
      | cons name rest ih =>
        rw [List.filterMap_cons]
        cases fields.lookup name with
        | none => exact ih.cons name
        | some value => exact ih.cons_cons name
    exact (keys filterKeys).nodup (by decide)
  · intro f hf
    have ⟨key, _, found⟩ := List.mem_filterMap.1 hf
    have ⟨value, lookup, same⟩ := Option.map_eq_some_iff.1 found
    rw [← same]
    exact h.2 (key, value) (Entries.mem_of_lookup lookup)

namespace History

theorem mem_putPreset {h : History} {room : Int} {p q : Preset}
    (member : q ∈ (h.putPreset room p).presets) : q = p ∨ q ∈ h.presets ∧ q.name ≠ p.name := by
  cases List.mem_cons.1 (mem_of_mem_upTo member) with
  | inl same => exact .inl same
  | inr kept =>
    have ⟨others, named⟩ := List.mem_filter.1 kept
    exact .inr ⟨others, by simpa using named⟩

/-- Counting a use changes nothing of a preset but the number of its uses. -/
theorem map_countFirst {α : Type} (f : Preset → α)
    (same : ∀ (p : Preset) (n : Nat), f { p with usageCount := n } = f p) (test : Preset → Bool)
    (presets : List Preset) : (countFirst test presets).map f = presets.map f := by
  induction presets with
  | nil => rfl
  | cons p rest ih =>
    rw [countFirst]
    split
    · rw [List.map_cons, same, List.map_cons]
    · rw [List.map_cons, ih, List.map_cons]

theorem mem_countFirst {test : Preset → Bool} {presets : List Preset} {p : Preset}
    (h : p ∈ countFirst test presets) :
    ∃ q ∈ presets, p = q ∨ p = { q with usageCount := q.usageCount + 1 } := by
  induction presets with
  | nil => cases h
  | cons q rest ih =>
    rw [countFirst] at h
    split at h
    · cases List.mem_cons.1 h with
      | inl same => exact ⟨q, List.mem_cons_self, .inr same⟩
      | inr later => exact ⟨p, List.mem_cons_of_mem q later, .inl rfl⟩
    · cases List.mem_cons.1 h with
      | inl same => exact ⟨q, List.mem_cons_self, .inl same⟩
      | inr later =>
        have ⟨r, member, same⟩ := ih later
        exact ⟨r, List.mem_cons_of_mem q member, same⟩

theorem isProper_putPreset {h : History} {room : Int} {p : Preset}
    (filters : ∀ q ∈ h.presets, (Json.obj q.filters).isProper = true)
    (own : (Json.obj p.filters).isProper = true) :
    ∀ q ∈ (h.putPreset room p).presets, (Json.obj q.filters).isProper = true := by
  intro q hq
  cases mem_putPreset hq with
  | inl same => exact same ▸ own
  | inr kept => exact filters q kept.1

theorem isProper_countFirst {test : Preset → Bool} {presets : List Preset}
    (filters : ∀ q ∈ presets, (Json.obj q.filters).isProper = true) :
    ∀ q ∈ countFirst test presets, (Json.obj q.filters).isProper = true := by
  intro p hp
  have ⟨q, member, same⟩ := mem_countFirst hp
  cases same with
  | inl same => exact same ▸ filters q member
  | inr same => exact same ▸ filters q member

theorem alike_str (s t : String) : (Json.str s == Json.str t) = (s == t) := by
  show Json.alike (.str s) (.str t) = (s == t)
  simp [Json.alike, Json.same_str, Json.isNan]

/-- What stands under a text in entries that are mapped value by value. -/
theorem lookup_keyed {α : Type} (f : α → Json) (entries : Entries String α) (kind : String) :
    (entries.map fun e => (Json.str e.1, f e.2)).lookup (.str kind) =
      (entries.lookup kind).map f := by
  induction entries with
  | nil => rfl
  | cons e rest ih =>
    rw [List.map_cons, List.lookup_cons, List.lookup_cons, alike_str, ih]
    cases kind == e.1 <;> rfl

theorem put_keyed {α : Type} (f : α → Json) (entries : Entries String α) (kind : String)
    (value : α) : Entries.put (entries.map fun e => (Json.str e.1, f e.2)) (.str kind) (f value) =
      (entries.put kind value).map fun e => (Json.str e.1, f e.2) := by
  induction entries with
  | nil => rfl
  | cons e rest ih =>
    rw [List.map_cons, Entries.put, Entries.put, alike_str, ih]
    cases kind == e.1 <;> rfl

theorem lookup_counted (counters : Entries String Int) (kind : String) :
    (counted counters).lookup (.str kind) = (counters.lookup kind).map .int :=
  lookup_keyed .int counters kind

theorem put_counted (counters : Entries String Int) (kind : String) (n : Int) :
    (counted counters).put (.str kind) (.int n) = counted (counters.put kind n) :=
  put_keyed .int counters kind n

theorem put_named (counters : Json.Fields) (kind : String) (value : Json) :
    (named counters).put (.str kind) value = named (counters.put kind value) :=
  put_keyed id counters kind value

/-- A counter goes up by one; a kind that was not counted before begins with one. -/
theorem countUsage_counted {h : History} {counters : Entries String Int}
    (usage : h.usage = counted counters) (kind : String) :
    h.countUsage (.str kind) = .ok ({ h with
      usage := counted (counters.put kind ((counters.lookup kind).getD 0 + 1)) },
      .int ((counters.lookup kind).getD 0 + 1)) := by
  have found := lookup_counted counters kind
  rw [← usage] at found
  have put_eq := put_counted counters kind
  rw [← usage] at put_eq
  unfold countUsage
  rw [found]
  cases counters.lookup kind with
  | none =>
    have next := put_eq 1
    simp [Json.isPlain, Json.number, Json.number?, Number.add, Number.toJson, bind, Except.bind,
      pure, Except.pure, next]
  | some n =>
    have next := put_eq (n + 1)
    simp [Json.isPlain, Json.number, Json.number?, Number.add, Number.toJson, bind, Except.bind,
      pure, Except.pure, next]

theorem trimmed_str (s : String) :
    trimmed (.str s) = .ok (String.ofList (Text.trim s.toList)) := by
  unfold trimmed
  split
  · next void =>
    have : s = "" := by simpa [Json.isVoid] using void
    rw [this]
    rfl
  · rfl

end History

/-- Whether the texts of a call are texts, and no object among its filters has a key twice. -/
def HistoryCall.IsTyped : HistoryCall → Prop
  | .addRecent term => ∃ s, term = .str s
  | .savePreset name description filters => (∃ s, name = .str s) ∧ (∃ s, description = .str s) ∧
      ∀ fields, filters.fields = .ok fields → (Json.obj fields).isProper = true
  | .countUsage kind => ∃ s, kind = .str s
  | _ => True

namespace History

variable {τ : Type} {config : StoreConfig τ} {ids : Nat} {h : History} {call : HistoryCall}

/-- How many ids are given out and what history there is after a call that makes a new one. -/
inductive Outcome (config : StoreConfig τ) (ids : Nat) (h : History) (call : HistoryCall) :
    Nat → History → Prop where
  | search {term : String} (trimmed : IsTrimmed term) : Outcome config ids h call ids
      { h with recent := upTo config.maxRecent (term :: h.recent.filter (· != term)) }
  | clearRecent : Outcome config ids h call ids { h with recent := [] }
  | clearAll : Outcome config ids h call ids {}
  | save {p : Preset} {name description : Json} {filters : FilterSource} {fields : Json.Fields}
      (is_save : call = .savePreset name description filters) (given : filters.fields = .ok fields)
      (id : p.id = HistorySession.idOf (ids + 1)) (trimmed : IsTrimmed p.name)
      (carried : p.filters = Preset.carried fields) (unused : p.usageCount = 0) :
      Outcome config ids h call (ids + 1) (h.putPreset config.maxPresets p)
  | delete (test : Preset → Bool) : Outcome config ids h call ids
      { h with presets := h.presets.filter test }
  | countPreset (test : Preset → Bool) : Outcome config ids h call ids
      { h with presets := countFirst test h.presets }
  | countUsage {counters : Entries String Int} (kind : String)
      (usage : h.usage = counted counters) (distinct : (counters.map Prod.fst).Nodup) :
      Outcome config ids h call ids
      { h with usage := counted (counters.put kind ((counters.lookup kind).getD 0 + 1)) }

theorem Outcome.ids_le {next : Nat} {made : History}
    (outcome : Outcome config ids h call next made) : ids ≤ next := by
  cases outcome <;> omega

theorem outcome_addRecent {s : String} {made : History}
    (added : h.addRecent config.maxRecent (.str s) = .ok (some made)) :
    Outcome config ids h call ids made := by
  rw [addRecent, trimmed_str] at added
  simp only [bind, Except.bind, pure, Except.pure] at added
  split at added
  · cases added
  · next some_char =>
    cases added
    exact .search (isTrimmed_trim (by simpa using some_char))

theorem isTrimmed_of_nameOf {s name : String} (named : HistorySession.nameOf (.str s) = .ok name) :
    IsTrimmed name := by
  rw [HistorySession.nameOf, trimmed_str] at named
  simp only [bind, Except.bind, pure, Except.pure] at named
  split at named
  · cases named
  · next some_char =>
    cases named
    exact isTrimmed_trim (by simpa using some_char)

theorem outcome_deletePreset {id : Json} {made : History}
    (deleted : h.deletePreset id = some made) : Outcome config ids h call ids made := by
  rw [deletePreset] at deleted
  split at deleted
  · cases deleted
    exact .delete _
  · cases deleted

theorem outcome_countPreset {id : Json} {made : History} (counted : h.countPreset id = some made) :
    Outcome config ids h call ids made := by
  rw [History.countPreset] at counted
  split at counted
  · cases counted
    exact .countPreset _
  · cases counted

theorem outcome_countUsage (proper : h.IsProper) {kind : String} {count : Json} {made : History}
    (counted : h.countUsage (.str kind) = .ok (made, count)) :
    Outcome config ids h call ids made := by
  have ⟨counters, usage, distinct⟩ := proper.usage
  rw [countUsage_counted usage] at counted
  cases counted
  exact .countUsage kind usage distinct

/-- A history that has a text it can be read back from keeps one. -/
theorem Outcome.isProper {next : Nat} {made : History}
    (outcome : Outcome config ids h call next made) (typed : call.IsTyped) (proper : h.IsProper) :
    made.IsProper := by
  cases outcome with
  | search trimmed => exact ⟨proper.filters, proper.usage⟩
  | clearRecent => exact ⟨proper.filters, proper.usage⟩
  | clearAll => exact ⟨fun p hp => absurd hp List.not_mem_nil, [], rfl, List.nodup_nil⟩
  | save is_save given id trimmed carried unused =>
    rw [is_save] at typed
    have own : (Json.obj (Preset.carried _)).isProper = true :=
      Preset.isProper_carried (typed.2.2 _ given)
    rw [← carried] at own
    exact ⟨isProper_putPreset proper.filters own, proper.usage⟩
  | delete test => exact ⟨fun p hp => proper.filters p (List.mem_filter.1 hp).1, proper.usage⟩
  | countPreset test => exact ⟨isProper_countFirst proper.filters, proper.usage⟩
  | countUsage kind usage distinct =>
    exact ⟨proper.filters, _, rfl, Entries.nodup_put distinct _ _⟩

end History

end Bookmarks
