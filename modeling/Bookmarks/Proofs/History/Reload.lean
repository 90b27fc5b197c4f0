import Bookmarks.Proofs.History.Durable

/-! Loading while changes wait to be written. A stored history takes the place of the one in memory,
so that the write that was pending writes it back: until the next change, what is stored reads as it
did when it was loaded. -/

namespace Bookmarks

/-- Whether an event is no change: a load, a flush, a close, a look at the history or at the
backend, or time that passes. -/
def HistoryEvent.IsQuiet {τ : Type} : HistoryEvent τ → Prop
  | .call .load | .call .flush | .call .close | .call (.preset _) | .advance _ | .read _ => True
  | _ => False

namespace HistorySession

variable {τ : Type} {config : StoreConfig τ} {P : History → Prop} {s : HistorySession τ}

/-- Whether there is one store only, and a property holds of its history and of the one that is
stored. -/
structure IsStocked (config : StoreConfig τ) (P : History → Prop) (s : HistorySession τ) :
    Prop where
  config_eq : s.config = config
  former : s.former = []
  memory : P s.store.history
  stored : ∃ text h, s.backend.read config.historyKey = .ok (some text) ∧
    readText text = .ok h ∧ P h

namespace IsStocked

variable (stocked : s.IsStocked config P)

include stocked

/-- Loading takes over what is stored. -/
theorem load_eq : ∃ text h, s.backend.read config.historyKey = .ok (some text) ∧
    readText text = .ok h ∧ P h ∧ s.load = { s with store := { s.store with history := h } } := by
  have ⟨text, h, found, read, holds⟩ := stocked.stored
  refine ⟨text, h, found, read, holds, ?_⟩
  simp only [HistorySession.load, stocked.config_eq, found, read]

theorem load : s.load.IsStocked config P := by
  have ⟨text, h, _, _, holds, loaded⟩ := stocked.load_eq
  rw [loaded]
  exact ⟨stocked.config_eq, stocked.former, holds, stocked.stored⟩

variable (proper : ∀ h, P h → h.IsProper)

include proper

/-- What is written reads back as what was in memory. -/
theorem write : (s.write s.store.history).IsStocked config P := by
  cases s.write_cases s.store.history with
  | inl unsaved =>
    have ⟨notice, same, _⟩ := unsaved
    rw [same]
    exact ⟨stocked.config_eq, stocked.former, stocked.memory, stocked.stored⟩
  | inr wrote =>
    have ⟨text, made, working, same⟩ := wrote
    rw [same]
    refine ⟨stocked.config_eq, stocked.former, stocked.memory, text, s.store.history, ?_, ?_,
      stocked.memory⟩
    · rw [← stocked.config_eq, Backend.read_of_working, Entries.lookup_put_self]
      exact working
    · exact History.readText_text (proper _ stocked.memory) made

theorem flush : s.flush.IsStocked config P := by
  have ⟨agenda, _, called⟩ := s.callOff_cases
  have idle : s.callOff.IsStocked config P := by
    rw [called]
    exact ⟨stocked.config_eq, stocked.former, stocked.memory, stocked.stored⟩
  have held : s.callOff.store.history = s.store.history := by rw [called]
  rw [HistorySession.flush, ← held]
  exact idle.write proper

theorem close : s.close.IsStocked config P := by
  unfold HistorySession.close
  split
  · exact stocked.flush proper
  · exact stocked

variable [Timeline τ]

theorem settle : s.settle.IsStocked config P := by
  have ⟨agenda, same⟩ := settle_single stocked.former
  rw [same]
  split
  · have idle : { s with store := { s.store with pending := none }, agenda }.IsStocked config P :=
      ⟨stocked.config_eq, stocked.former, stocked.memory, stocked.stored⟩
    exact idle.write proper
  · exact ⟨stocked.config_eq, stocked.former, stocked.memory, stocked.stored⟩

omit proper in
theorem change (ids : Nat) {h : History} (holds : P h) :
    ({ s with idCount := ids }.change h).IsStocked config P := by
  have ⟨alarm, agenda, _, changed⟩ := { s with idCount := ids }.change_cases h
  rw [changed]
  exact ⟨stocked.config_eq, stocked.former, holds, stocked.stored⟩

theorem step_quiet {event : HistoryEvent τ} (quiet : event.IsQuiet) :
    (s.step event).1.IsStocked config P := by
  have passed : (s.happen event).1.IsStocked config P := by
    cases event with
    | call call =>
      cases call with
      | load => exact stocked.load
      | flush => exact stocked.flush proper
      | close => exact stocked.close proper
      | preset id => exact stocked
      | _ => exact absurd quiet id
    | advance delay => exact ⟨stocked.config_eq, stocked.former, stocked.memory, stocked.stored⟩
    | read key => exact stocked
    | _ => exact absurd quiet id
  exact passed.settle proper

theorem run_quiet {events : List (HistoryEvent τ)} (quiet : ∀ e ∈ events, e.IsQuiet) :
    (s.run events).IsStocked config P := by
  induction events generalizing s with
  | nil => exact stocked
  | cons event rest ih =>
    have ⟨first, others⟩ := List.forall_mem_cons.1 quiet
    exact ih (stocked.step_quiet proper first) others

end IsStocked

variable [Timeline τ]

theorem isStocked_step (stocked : s.IsStocked config History.IsProper) {event : HistoryEvent τ}
    (own : event.IsOwn HistoryCall.IsTyped) :
    (s.step event).1.IsStocked config History.IsProper := by
  have passed : (s.happen event).1.IsStocked config History.IsProper := by
    cases event with
    | call call =>
      have moves := s.moves_perform own stocked.memory
      show (s.perform call).1.IsStocked config History.IsProper
      generalize (s.perform call).1 = after at moves
      cases moves with
      | stay => exact stocked
      | load => exact stocked.load
      | flush => exact stocked.flush fun _ => id
      | change outcome => exact stocked.change _ (outcome.isProper own stocked.memory)
    | advance delay => exact ⟨stocked.config_eq, stocked.former, stocked.memory, stocked.stored⟩
    | read key => exact stocked
    | _ => exact absurd own id
  exact passed.settle fun _ => id

theorem isStocked_run (stocked : s.IsStocked config History.IsProper)
    {events : List (HistoryEvent τ)} (own : ∀ e ∈ events, e.IsOwn HistoryCall.IsTyped) :
    (s.run events).IsStocked config History.IsProper := by
  induction events generalizing s with
  | nil => exact stocked
  | cons event rest ih =>
    have ⟨first, others⟩ := List.forall_mem_cons.1 own
    exact ih (isStocked_step stocked first) others

/-- Whatever a store over a stored history did, and whatever of it waits to be written: once it
loads, it has the history that is stored, and until the next change this is what stays stored. -/
theorem stored_run_load (config : StoreConfig τ) {backend : Backend} (now : τ) (today : String)
    {earlier : History} (proper : earlier.IsProper) {text : String}
    (written : earlier.text = .ok text)
    (stored : backend.read config.historyKey = .ok (some text)) {events : List (HistoryEvent τ)}
    (own : ∀ e ∈ events, e.IsOwn HistoryCall.IsTyped) {quiet : List (HistoryEvent τ)}
    (calm : ∀ e ∈ quiet, e.IsQuiet) :
    let s := run { config, backend, now, today } events
    let after := s.run (.call .load :: quiet)
    ∃ h before later, s.backend.read config.historyKey = .ok (some before) ∧
      readText before = .ok h ∧ after.store.history = h ∧
      after.backend.read config.historyKey = .ok (some later) ∧ readText later = .ok h := by
  intro s after
  have start : IsStocked config History.IsProper { config, backend, now, today } :=
    ⟨rfl, rfl, (History.isKept_isProper config).empty 0 0, text, earlier, stored,
      History.readText_text proper written, proper⟩
  have stocked : s.IsStocked config History.IsProper := isStocked_run start own
  obtain ⟨before, h, found, read, proper_h, load_eq⟩ := stocked.load_eq
  have only : ∀ other : History, other = h → other.IsProper := by
    rintro _ rfl
    exact proper_h
  have loaded : s.load.IsStocked config (· = h) := by
    rw [load_eq]
    exact ⟨stocked.config_eq, stocked.former, rfl, before, h, found, read, rfl⟩
  have settled : after.IsStocked config (· = h) := (loaded.settle only).run_quiet only calm
  obtain ⟨later, _, found_later, read_later, rfl⟩ := settled.stored
  exact ⟨_, before, later, found, read, settled.memory, found_later, read_later⟩

/-- A search that waits while the store loads is not in what its write stores. -/
theorem stored_run_load_pending :
    let config : StoreConfig Int := { debounce := 5 }
    let earlier : History := { recent := ["old"] }
    let text := "\x7b\"recentSearches\": [\"old\"], \"customPresets\": [], " ++
      "\"filterUsageStats\": \x7b\x7d\x7d"
    let backend : Backend := { entries := [(config.historyKey, text)] }
    let events : List (HistoryEvent Int) := [.call (.addRecent (.str "new"))]
    let s := run { config, backend, now := 0, today := "2024-01-01" } events
    let after := s.run [.call .load, .advance 5]
    earlier.IsProper ∧ earlier.text = .ok text ∧ s.store.pending.isSome = true ∧
    ∃ h before later, s.backend.read config.historyKey = .ok (some before) ∧
      readText before = .ok h ∧ after.store.history = h ∧
      after.backend.read config.historyKey = .ok (some later) ∧ readText later = .ok h := by
  intro config earlier text backend events s after
  have proper : earlier.IsProper :=
    ⟨fun p hp => absurd hp List.not_mem_nil, [], rfl, List.nodup_nil⟩
  have written : earlier.text = .ok text := by rfl
  have waits : s.store.pending.isSome = true := by decide +kernel
  have own : ∀ e ∈ events, e.IsOwn HistoryCall.IsTyped := by
    simp [events, HistoryEvent.IsOwn, HistoryCall.IsTyped]
  have calm : ∀ e ∈ [(.advance 5 : HistoryEvent Int)], e.IsQuiet := by
    simp [HistoryEvent.IsQuiet]
  exact ⟨proper, written, waits,
    stored_run_load config 0 "2024-01-01" proper written rfl own calm⟩

/-- A search, a preset and a counter wait to be written when the store loads what was written before
with the same configuration; the write that was pending stores none of them. -/
theorem not_stored_run_load :
    let config : StoreConfig Int := { debounce := 5 }
    let text := "\x7b\"recentSearches\": [\"old\"], \"customPresets\": [], " ++
      "\"filterUsageStats\": \x7b\x7d\x7d"
    let earlier := run { config, backend := {}, now := 0, today := "2024-01-01" }
      [.call (.addRecent (.str "old")), .call .close]
    let s := run { config, backend := earlier.backend, now := 0, today := "2024-01-01" }
      [.call (.addRecent (.str "new")),
        .call (.savePreset (.str "p") (.str "") (.value (.obj [("tags", .arr [.str "x"])]))),
        .call (.countUsage (.str "tag"))]
    let after := s.run [.call .load, .advance 5]
    s.store.pending.isSome = true ∧ s.store.history.recent = ["new"] ∧
    s.store.history.presets.length = 1 ∧ s.store.history.usage.length = 1 ∧
    after.store.pending.isSome = false ∧
    earlier.backend.entries = [(config.historyKey, text)] ∧
    after.backend.writes = earlier.backend.writes + 1 ∧
    after.backend.entries = [(config.historyKey, text)] := by
  decide +kernel

end HistorySession

end Bookmarks
