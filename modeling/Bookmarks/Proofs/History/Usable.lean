import Bookmarks.Proofs.History.Loaded
import Bookmarks.Proofs.History.Reply
import Bookmarks.Proofs.History.Salvage

/-! Which calls fail on a history that was loaded, when their arguments are what they should be. A
blank name is refused, and else only a counter that is no number: such a counter stood in the text
that was stored at first, from which it was taken over. -/

namespace Bookmarks

/-- Whether the texts of a call are texts, and its filters have fields. -/
def HistoryCall.IsSupplied (call : HistoryCall) : Prop :=
  call.IsTyped ∧ ∀ name description filters, call = .savePreset name description filters →
    ∃ fields, filters.fields = .ok fields

theorem HistoryCall.isSupplied_savePreset {name description : String} {fields : Json.Fields}
    (proper : (Json.obj fields).isProper = true) :
    (savePreset (.str name) (.str description) (.value (.obj fields))).IsSupplied := by
  refine ⟨⟨⟨name, rfl⟩, ⟨description, rfl⟩, ?_⟩, ?_⟩
  · intro others given
    cases given
    exact proper
  · intro _ _ filters same
    cases same
    exact ⟨fields, rfl⟩

/-- What a call with such arguments fails with. -/
inductive HistoryCall.FailsWith (h : History) : HistoryCall → Fault → Prop where
  | blank {name description : Json} {filters : FilterSource}
      (blank : History.trimmed name = .ok "") :
      FailsWith h (.savePreset name description filters) .blankName
  | counter {kind : String} {count : Json} (found : h.usage.lookup (.str kind) = some count)
      (no_number : count.number? = none) : FailsWith h (.countUsage (.str kind)) .unsuitable

theorem HistoryCall.failsWith_savePreset_iff {h : History} {fault : Fault}
    {name description : Json} {filters : FilterSource} :
    (savePreset name description filters).FailsWith h fault ↔
      fault = .blankName ∧ History.trimmed name = .ok "" := by
  constructor
  · rintro ⟨blank⟩
    exact ⟨rfl, blank⟩
  · rintro ⟨rfl, blank⟩
    exact .blank blank

theorem Number.number?_toJson (n : Number) : n.toJson.number? = some n := by cases n <;> rfl

theorem Number.isProper_toJson (n : Number) : n.toJson.isProper = true := by cases n <;> rfl

namespace History

variable {h made : History} {fault : Fault}

theorem countUsage_str (kind : String) : h.countUsage (.str kind) = (do
    let count ← ((h.usage.lookup (.str kind)).getD (.int 0)).number
    let next ← count.add (.whole 1)
    return ({ h with usage := h.usage.put (.str kind) next.toJson }, next.toJson)) := rfl

/-- A counter that goes up becomes another number. -/
theorem countUsage_eq_ok {kind : String} {count : Json}
    (counted : h.countUsage (.str kind) = .ok (made, count)) : ∃ next : Number,
      count = next.toJson ∧ made = { h with usage := h.usage.put (.str kind) next.toJson } := by
  rw [countUsage_str] at counted
  have ⟨before, _, counted⟩ := exists_of_bind counted
  have ⟨next, _, counted⟩ := exists_of_bind counted
  cases counted
  exact ⟨next, rfl, rfl⟩

theorem countUsage_eq_error_iff {kind : String} : h.countUsage (.str kind) = .error fault ↔
    (HistoryCall.countUsage (.str kind)).FailsWith h fault := by
  have goes_up : ∀ n : Number, ((h.usage.lookup (.str kind)).getD (.int 0)).number? = some n →
      h.countUsage (.str kind) ≠ .error fault := by
    intro n number
    obtain ⟨next, added⟩ := n.exists_add_one
    simp [countUsage_str, Json.number, number, bind, Except.bind, pure, Except.pure, added]
  constructor
  · intro fails
    cases found : h.usage.lookup (.str kind) with
    | none => exact absurd fails (goes_up (.whole 0) (by rw [found]; rfl))
    | some count =>
      cases number : count.number? with
      | some n => exact absurd fails (goes_up n (by rw [found]; exact number))
      | none =>
        simp only [countUsage_str, found, Option.getD_some, Json.number, number] at fails
        cases fails
        exact .counter found number
  · intro fails
    cases fails with
    | counter found no_number =>
      simp only [countUsage_str, found, Option.getD_some, Json.number, no_number]
      rfl

/-- Whether a history can be read back from its text, and has no counters but numbers and those
that were found. -/
structure IsSupported (found : Json × Json → Prop) (h : History) : Prop where
  filters : ∀ p ∈ h.presets, (Json.obj p.filters).isProper = true
  usage : ∃ counters, h.usage = named counters ∧ (Json.obj counters).isProper = true
  counts : ∀ c ∈ h.usage, c.2.number? = none → found c

namespace IsSupported

variable {found : Json × Json → Prop}

theorem empty : IsSupported found {} where
  filters _ h := absurd h List.not_mem_nil
  usage := ⟨[], rfl, rfl⟩
  counts _ h := absurd h List.not_mem_nil

theorem isSteady : IsSteady fun _ _ h => IsSupported found h where
  empty _ _ := empty
  mono _ _ supported := supported
  legible supported written := by
    have ⟨counters, usage, proper⟩ := supported.usage
    exact readText_named usage supported.filters proper written

/-- What is read from a text has such counters as stand there. -/
theorem of_readText {text : String} (read : HistorySession.readText text = .ok h) :
    h.IsSupported (· ∈ h.usage) := by
  have ⟨fields, decoded, read⟩ := HistorySession.readText_eq_ok.1 read
  have proper : (Json.obj fields).isProper = true := Json.isReadable_isProper.of_read decoded
  refine ⟨?_, ?_, fun c member _ => member⟩
  · intro p member
    have ⟨items, preset, listed, within, made⟩ := exists_preset_of_ofFields read member
    have items_proper := Json.isProper_at proper "customPresets"
    rw [listed] at items_proper
    have preset_proper := Json.isProper_arr.1 items_proper _ within
    rw [(Preset.isReadFrom_of_ofFields made).filters]
    exact Json.isProper_fieldsOrNone (Json.isProper_at preset_proper "filters")
  · exact ⟨_, (isSavedFrom_of_ofFields read).usage,
      Json.isProper_fieldsOrNone (Json.isProper_at proper "filterUsageStats")⟩

theorem mono {others : Json × Json → Prop} (more : ∀ c, found c → others c)
    (supported : h.IsSupported found) : h.IsSupported others :=
  ⟨supported.filters, supported.usage, fun c member missing =>
    more c (supported.counts c member missing)⟩

theorem countUsage (supported : h.IsSupported found) {kind : String} {count : Json}
    (counted : h.countUsage (.str kind) = .ok (made, count)) : made.IsSupported found := by
  have ⟨next, _, same⟩ := countUsage_eq_ok counted
  have ⟨counters, usage, proper⟩ := supported.usage
  have ⟨distinct, each⟩ := Json.isProper_obj.1 proper
  have named_eq : made.usage = named (counters.put kind next.toJson) := by
    rw [same, usage, put_named]
  rw [same] at named_eq ⊢
  refine ⟨supported.filters, ⟨_, named_eq, ?_⟩, ?_⟩
  · refine Json.isProper_obj.2 ⟨Entries.nodup_put distinct _ _, ?_⟩
    intro f member
    cases Entries.mem_put member with
    | inl same => exact same ▸ next.isProper_toJson
    | inr before => exact each f before
  · intro c member no_number
    rw [named_eq] at member
    have ⟨f, within, shown⟩ := List.mem_map.1 member
    rw [← shown] at no_number ⊢
    cases Entries.mem_put within with
    | inl same =>
      rw [same, next.number?_toJson] at no_number
      cases no_number
    | inr before =>
      apply supported.counts _ _ no_number
      rw [usage]
      exact List.mem_map_of_mem before

end IsSupported

end History

namespace HistorySession

variable {τ : Type} [Timeline τ] {s after : HistorySession τ} {call : HistoryCall}
  {answer : Except Fault Json} {found : Json × Json → Prop}

theorem Reply.isSupported (reply : s.Reply call answer after) (supplied : call.IsSupplied)
    (supported : s.store.history.IsSupported found) :
    after.store.history.IsSupported found := by
  cases reply with
  | flush =>
    have ⟨_, _, _, same⟩ := s.flush_frame
    rw [same]
    exact supported
  | close =>
    have ⟨_, _, _, same⟩ := s.close_frame
    rw [same]
    exact supported
  | preset | refused | blank | absent => exact supported
  | search | clearRecent => exact ⟨supported.filters, supported.usage, supported.counts⟩
  | clearAll => exact .empty
  | save named given described =>
    have own := Preset.isProper_carried (supplied.1.2.2 _ given)
    exact ⟨History.isProper_putPreset supported.filters own, supported.usage, supported.counts⟩
  | delete =>
    exact ⟨fun p member => supported.filters p (List.mem_filter.1 member).1, supported.usage,
      supported.counts⟩
  | count =>
    exact ⟨History.isProper_countFirst supported.filters, supported.usage, supported.counts⟩
  | usage counted =>
    have ⟨kind, is_text⟩ := supplied.1
    rw [is_text] at counted
    exact supported.countUsage counted

variable {config : StoreConfig τ}

theorem Holds.of_reply (holds : s.Holds config fun _ _ h => h.IsSupported found)
    (reply : s.Reply call answer after) (supplied : call.IsSupplied) :
    after.Holds config fun _ _ h => h.IsSupported found := by
  have makes := reply.isSupported supplied holds.store
  have steady : IsSteady fun _ _ h => History.IsSupported found h := History.IsSupported.isSteady
  cases reply with
  | flush => exact holds.flush steady
  | close =>
    unfold close
    split
    · exact holds.flush steady
    · exact holds
  | preset | blank | absent => exact holds
  | refused => exact ⟨holds.config_eq, makes, holds.former, holds.stored⟩
  | save => exact holds.change steady (Nat.le_succ _) makes
  | _ => exact holds.change steady (Nat.le_refl _) makes

theorem Holds.perform_supplied (holds : s.Holds config fun _ _ h => h.IsSupported found)
    (supplied : call.IsSupplied) :
    (s.perform call).1.Holds config fun _ _ h => h.IsSupported found := by
  by_cases loads : call = .load
  · rw [loads]
    exact holds.load
  · exact holds.of_reply (s.reply_perform loads) supplied

omit [Timeline τ] in
theorem nameOf_eq_error_iff {name : String} {fault : Fault} : nameOf (.str name) = .error fault ↔
    fault = .blankName ∧ History.trimmed (.str name) = .ok "" := by
  unfold nameOf
  rw [History.trimmed_str]
  simp only [bind, Except.bind]
  split
  · next blank =>
    have is_blank := String.isEmpty_iff.1 blank
    rw [is_blank]
    constructor
    · intro fails
      cases fails
      exact ⟨rfl, rfl⟩
    · rintro ⟨rfl, _⟩
      rfl
  · next some_char =>
    constructor
    · nofun
    · rintro ⟨_, blank⟩
      rw [Except.ok.inj blank] at some_char
      exact absurd rfl some_char

theorem savePreset_eq_error_iff {name description : String} {filters : FilterSource}
    {fields : Json.Fields} (given : filters.fields = .ok fields) {fault : Fault} :
    (s.savePreset (.str name) (.str description) filters).2 = .error fault ↔
      (HistoryCall.savePreset (.str name) (.str description) filters).FailsWith
        s.store.history fault := by
  rw [HistoryCall.failsWith_savePreset_iff, ← nameOf_eq_error_iff, savePreset, given]
  cases nameOf (.str name) with
  | error other => simp
  | ok title => simp [History.trimmed_str]

/-- Loading does not fail, and other calls do when they are refused. -/
theorem Holds.perform_eq_error_iff (holds : s.Holds config fun _ _ h => h.IsSupported found)
    (supplied : call.IsSupplied) {fault : Fault} :
    (s.perform call).2 = .error fault ↔ call.FailsWith s.store.history fault := by
  by_cases loads : call = .load
  · have ⟨counters, usage, _⟩ := holds.load.store.usage
    have answers : (s.perform .load).2 = _ := History.toJson_named usage
    rw [loads, answers]
    constructor
    · intro fails
      cases fails
    · intro fails
      cases fails
  · have refused : (s.perform call).2 = .error fault → call.IsRefused s.store.history :=
      fun fails => (s.reply_perform loads).isRefused_iff.1 ⟨fault, fails⟩
    cases call with
    | load => exact absurd rfl loads
    | savePreset name description filters =>
      have ⟨⟨⟨name, is_name⟩, ⟨description, is_text⟩, _⟩, fielded⟩ := supplied
      have ⟨fields, given⟩ := fielded _ _ _ rfl
      rw [is_name, is_text]
      exact savePreset_eq_error_iff given
    | countUsage kind =>
      have ⟨kind, is_text⟩ := supplied.1
      rw [is_text, ← History.countUsage_eq_error_iff]
      simp only [HistorySession.perform]
      cases s.store.history.countUsage (.str kind) <;> simp
    | addRecent term =>
      constructor
      · intro fails
        exact absurd (.inr supplied.1) (refused fails)
      · intro fails
        cases fails
    | _ =>
      constructor
      · intro fails
        exact absurd (refused fails) id
      · intro fails
        cases fails

/-- Whatever was stored, and whatever was loaded and called since: a call with suitable arguments
fails on a blank name only, or when it is to raise a counter that is no number; and such a counter
stood in the text that was stored at first. -/
theorem step_eq_error_iff (config : StoreConfig τ) (backend : Backend) (now : τ) (today : String)
    {events : List (HistoryEvent τ)}
    (allowed : ∀ e ∈ events, e.IsAllowed config HistoryCall.IsSupplied)
    (supplied : call.IsSupplied) :
    let s := run { config, backend, now, today } events
    (∀ fault, (s.step (.call call)).2 = .error fault ↔ call.FailsWith s.store.history fault) ∧
    ∀ c ∈ s.store.history.usage, c.2.number? = none →
      ∃ text h, backend.entries.lookup config.historyKey = some text ∧ readText text = .ok h ∧
        c ∈ h.usage := by
  intro s
  have start : Holds config (fun _ _ h => h.IsSupported fun c => ∃ text h,
      backend.entries.lookup config.historyKey = some text ∧ readText text = .ok h ∧
        c ∈ h.usage) { config, backend, now, today } := by
    refine ⟨rfl, .empty, fun f hf => absurd hf List.not_mem_nil, ?_⟩
    intro text h lookup read
    exact (History.IsSupported.of_readText read).mono fun c member =>
      ⟨text, h, lookup, read, member⟩
  have holds := start.run_of_calls History.IsSupported.isSteady
    (fun holds supplied => holds.perform_supplied supplied) allowed
  exact ⟨fun fault => holds.perform_eq_error_iff supplied, holds.store.counts⟩

/-- A blank name, after a counter that is no number was loaded and another one was raised. -/
theorem step_eq_error_iff_blank :
    let config : StoreConfig Int := { debounce := 5 }
    let text := "\x7b\"filterUsageStats\": \x7b\"tag\": \"x\"\x7d\x7d"
    let backend : Backend := { entries := [(config.historyKey, text)] }
    let events : List (HistoryEvent Int) :=
      [.call .load, .call (.countUsage (.str "day")), .advance 9, .call .load]
    let call : HistoryCall :=
      .savePreset (.str " ") (.str "d") (.value (.obj [("tags", .str "x")]))
    let s := run { config, backend, now := 0, today := "2024-01-01" } events
    (∀ e ∈ events, e.IsAllowed config HistoryCall.IsSupplied) ∧ call.IsSupplied ∧
    (∀ fault, (s.step (.call call)).2 = .error fault ↔ fault = .blankName) ∧
    ∀ c ∈ s.store.history.usage, c.2.number? = none →
      ∃ text h, backend.entries.lookup config.historyKey = some text ∧ readText text = .ok h ∧
        c ∈ h.usage := by
  intro config text backend events call s
  have allowed : ∀ e ∈ events, e.IsAllowed config HistoryCall.IsSupplied := by
    simp [events, HistoryEvent.IsAllowed, HistoryCall.IsSupplied, HistoryCall.IsTyped]
  have supplied : call.IsSupplied := HistoryCall.isSupplied_savePreset (by decide)
  have ⟨fails, stood⟩ := step_eq_error_iff config backend 0 "2024-01-01" allowed supplied
  have only_blank (fault : Fault) : call.FailsWith s.store.history fault ↔ fault = .blankName :=
    HistoryCall.failsWith_savePreset_iff.trans (and_iff_left rfl)
  exact ⟨allowed, supplied, fun fault => (fails fault).trans (only_blank fault), stood⟩

/-- A counter that is loaded as a text cannot be raised. -/
theorem not_step_eq_error_iff :
    let config : StoreConfig Int := { debounce := 5 }
    ¬∀ (text : String) (events : List (HistoryEvent Int)) (call : HistoryCall),
      (∀ e ∈ events, e.IsAllowed config HistoryCall.IsSupplied) → call.IsSupplied →
        let backend : Backend := { entries := [(config.historyKey, text)] }
        let s := run { config, backend, now := 0, today := "2024-01-01" } (.call .load :: events)
        ∀ fault, (s.step (.call call)).2 = .error fault → fault = .blankName := by
  intro config usable
  let text := "\x7b\"filterUsageStats\": \x7b\"tag\": \"x\"\x7d\x7d"
  let backend : Backend := { entries := [(config.historyKey, text)] }
  let s := run { config, backend, now := 0, today := "2024-01-01" } [.call .load]
  let call : HistoryCall := .countUsage (.str "tag")
  have refused : (s.step (.call call)).2.map (fun _ => ()) = .error .unsuitable := by
    decide +kernel
  cases answer : (s.step (.call call)).2 with
  | ok count =>
    rw [answer] at refused
    cases refused
  | error fault =>
    have supplied : call.IsSupplied := ⟨⟨"tag", rfl⟩, nofun⟩
    have is_blank := usable text [] call (List.forall_mem_nil _) supplied fault answer
    rw [answer, is_blank] at refused
    cases refused

end HistorySession

end Bookmarks
