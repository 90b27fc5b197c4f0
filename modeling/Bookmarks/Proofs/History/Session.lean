import Bookmarks.Proofs.History.Operation

/-! What one event does to a session, and what holds of every history in it: the one in memory,
those of former stores, and the one that is stored, if it can be read. A property that calls keep
holds of all of them along a run, since what is written was in memory and is read back as it was. -/

namespace Bookmarks

namespace Agenda

variable {τ : Type} [Timeline τ]

theorem count_removeFirst (isSet : Alarm τ → Bool) (agenda : Agenda τ) :
    (agenda.removeFirst isSet).count = agenda.count := by
  fun_induction removeFirst isSet agenda with
  | case1 => rfl
  | case2 agenda _ _ ih => exact ih
  | case3 => rfl

theorem count_tidy (isSet : Alarm τ → Bool) (agenda : Agenda τ) :
    (agenda.tidy isSet).count = agenda.count := by
  unfold tidy
  split
  · rfl
  · exact count_removeFirst isSet agenda

theorem count_ring (now : τ) (agenda : Agenda τ) : (agenda.ring now).2.count = agenda.count := by
  fun_induction ring now agenda with
  | case1 agenda _ _ rest left rung ih => rwa [rung] at ih
  | case2 => rfl
  | case3 => rfl

end Agenda

theorem Backend.lookup_of_read {b : Backend} {key text : String}
    (found : b.read key = .ok (some text)) : b.entries.lookup key = some text := by
  unfold read at found
  split at found
  · cases found
  · exact Except.ok.inj found

theorem Backend.read_of_working {b : Backend} (working : b.health = .working) (key : String) :
    b.read key = .ok (b.entries.lookup key) := by
  rw [read, working]

namespace HistorySession

variable {τ : Type}

section Write

variable (s : HistorySession τ) (h : History)

theorem written_eq : s.written h = h.text.bind (s.backend.write s.config.historyKey) := by
  unfold written History.text
  cases h.toJson <;> rfl

/-- A history is written, or nothing but a notice comes of it; when the backend is in order, that is
because the history has no text. -/
theorem write_cases :
    (∃ notice, s.write h = s.noticing notice ∧
        (s.backend.health = .working → ∃ fault, h.text = .error fault)) ∨
      ∃ text, h.text = .ok text ∧ s.backend.health = .working ∧ s.write h = { s with backend :=
        { s.backend with
          entries := s.backend.entries.put s.config.historyKey text
          writes := s.backend.writes + 1 } } := by
  unfold write
  rw [written_eq]
  cases made : h.text with
  | error fault => exact .inl ⟨_, rfl, fun _ => ⟨fault, rfl⟩⟩
  | ok text =>
    cases health : s.backend.health with
    | working =>
      refine .inr ⟨text, rfl, rfl, ?_⟩
      simp only [Except.bind, Backend.write, health]
    | readOnly =>
      refine .inl ⟨.unsaved Backend.full, ?_, fun working => by cases working⟩
      simp only [Except.bind, Backend.write, health]
    | broken =>
      refine .inl ⟨.unsaved Backend.gone, ?_, fun working => by cases working⟩
      simp only [Except.bind, Backend.write, health]

@[simp] theorem write_idCount : (s.write h).idCount = s.idCount := by
  unfold write; split <;> rfl

@[simp] theorem write_agenda : (s.write h).agenda = s.agenda := by
  unfold write; split <;> rfl

/-- Writing concerns the backend, and nothing else in the session but the notices. -/
theorem write_frame : ∃ backend notices, s.write h = { s with backend, notices } := by
  unfold write
  split
  · exact ⟨_, s.notices, rfl⟩
  · exact ⟨s.backend, _, rfl⟩

theorem writes_frame (stores : List (HistoryStore τ)) :
    ∃ backend notices, stores.foldl (fun s store => s.write store.history) s =
      { s with backend, notices } := by
  induction stores generalizing s with
  | nil => exact ⟨s.backend, s.notices, rfl⟩
  | cons store rest ih =>
    have ⟨_, _, first⟩ := s.write_frame store.history
    have ⟨backend, notices, others⟩ := ih (s.write store.history)
    refine ⟨backend, notices, ?_⟩
    rw [List.foldl_cons, others, first]

end Write

/-- Loading concerns the history in memory, and nothing else in the session but the notices. -/
theorem load_cases (s : HistorySession τ) :
    ∃ h notices, s.load = { s with store := { s.store with history := h }, notices } := by
  unfold load
  split
  · exact ⟨s.store.history, _, rfl⟩
  · exact ⟨s.store.history, s.notices, rfl⟩
  · split
    · next h _ => exact ⟨h, s.notices, rfl⟩
    · exact ⟨s.store.history, _, rfl⟩

/-- Calling off leaves no write pending, and all else but the agenda as it is. -/
theorem callOff_cases (s : HistorySession τ) :
    ∃ agenda : Agenda τ, agenda.count = s.agenda.count ∧
      s.callOff = { s with store := { s.store with pending := none }, agenda } := by
  unfold callOff
  split
  · next none =>
    refine ⟨s.agenda, rfl, ?_⟩
    rw [← none]
  · exact ⟨s.agenda.callOff, rfl, rfl⟩

/-- After flushing, no write is pending and the history is the same. -/
theorem flush_frame (s : HistorySession τ) :
    ∃ agenda backend notices, s.flush = { s with
      store := { s.store with pending := none }
      agenda, backend, notices } := by
  have ⟨agenda, _, called⟩ := s.callOff_cases
  have ⟨backend, notices, wrote⟩ := s.callOff.write_frame s.store.history
  refine ⟨agenda, backend, notices, ?_⟩
  rw [flush, wrote, called]

theorem close_frame (s : HistorySession τ) :
    ∃ agenda backend notices, s.close = { s with
      store := { s.store with pending := none }
      agenda, backend, notices } := by
  unfold close
  split
  · exact s.flush_frame
  · next idle =>
    rw [Option.not_isSome_iff_eq_none] at idle
    refine ⟨s.agenda, s.backend, s.notices, ?_⟩
    rw [← idle]

variable [Timeline τ]

/-- A change leaves a write pending. -/
theorem change_cases (s : HistorySession τ) (h : History) :
    ∃ (alarm : Alarm τ) (agenda : Agenda τ), agenda.count = s.agenda.count + 1 ∧
      s.change h = { s with store := ⟨h, some alarm⟩, agenda } := by
  have ⟨agenda, count, called⟩ := s.callOff_cases
  refine ⟨agenda.next (Timeline.add s.now s.config.debounce),
    agenda.set (Timeline.add s.now s.config.debounce), ?_, ?_⟩
  · rw [← count]
    rfl
  · rw [change, called]

/-- What a call can do before what is due is written. -/
inductive Moves (s : HistorySession τ) (call : HistoryCall) : HistorySession τ → Prop where
  | stay : Moves s call s
  | load : Moves s call s.load
  | flush : Moves s call s.flush
  | change {ids : Nat} {h : History}
      (outcome : History.Outcome s.config s.idCount s.store.history call ids h) :
      Moves s call ({ s with idCount := ids }.change h)

theorem moves_savePreset (s : HistorySession τ) {name description : String}
    {filters : FilterSource} :
    s.Moves (.savePreset (.str name) (.str description) filters)
      (s.savePreset (.str name) (.str description) filters).1 := by
  simp only [savePreset, History.trimmed_str]
  split
  · exact .stay
  · exact .stay
  · next named given =>
    exact .change (.save rfl given rfl (History.isTrimmed_of_nameOf named) rfl rfl)

theorem moves_perform (s : HistorySession τ) {call : HistoryCall} (typed : call.IsTyped)
    (proper : s.store.history.IsProper) : s.Moves call (s.perform call).1 := by
  cases call with
  | load => exact .load
  | flush => exact .flush
  | close =>
    simp only [perform, close]
    split
    · exact .flush
    · exact .stay
  | addRecent term =>
    have ⟨text, is_text⟩ := typed
    subst is_text
    simp only [perform]
    split
    · next made added => exact .change (History.outcome_addRecent added)
    · exact .stay
    · exact .stay
  | clearRecent => exact .change .clearRecent
  | clearAll => exact .change .clearAll
  | savePreset name description filters =>
    have ⟨⟨name_text, is_name⟩, ⟨text, is_text⟩, _⟩ := typed
    subst is_name is_text
    exact s.moves_savePreset
  | preset id => exact .stay
  | deletePreset id =>
    simp only [perform, changeIf]
    cases made : s.store.history.deletePreset id with
    | none => exact .stay
    | some next => exact .change (History.outcome_deletePreset made)
  | countPreset id =>
    simp only [perform, changeIf]
    cases made : s.store.history.countPreset id with
    | none => exact .stay
    | some next => exact .change (History.outcome_countPreset made)
  | countUsage kind =>
    have ⟨text, is_text⟩ := typed
    subst is_text
    simp only [perform]
    split
    · next made count counted => exact .change (History.outcome_countUsage proper counted)
    · exact .stay

/-- What is due is written, store by store, and no longer pending. -/
theorem settle_cases (s : HistorySession τ) :
    ∃ (due : List (HistoryStore τ)) (agenda : Agenda τ),
      due.Perm ((s.former ++ [s.store]).filter (isDue s.now)) ∧
      agenda.count = s.agenda.count ∧
      s.settle = due.foldl (fun s store => s.write store.history) { s with
        former := s.former.filter (!isDue s.now ·)
        store := if isDue s.now s.store then { s.store with pending := none } else s.store
        agenda } := by
  refine ⟨_, _, List.mergeSort_perm _ _, ?_, rfl⟩
  rw [Agenda.count_tidy, Agenda.count_ring, Agenda.count_tidy]

/-- What is due is no longer pending, and all but the backend, the notices and the order of the
alarms is as it was. -/
theorem settle_frame (s : HistorySession τ) :
    ∃ agenda backend notices, agenda.count = s.agenda.count ∧ s.settle = { s with
      former := s.former.filter (!isDue s.now ·)
      store := if isDue s.now s.store then { s.store with pending := none } else s.store
      agenda, backend, notices } := by
  have ⟨due, agenda, _, count, same⟩ := s.settle_cases
  have ⟨backend, notices, wrote⟩ := writes_frame { s with
    former := s.former.filter (!isDue s.now ·)
    store := if isDue s.now s.store then { s.store with pending := none } else s.store
    agenda } due
  exact ⟨agenda, backend, notices, count, same.trans wrote⟩

/-- Whether a property holds of every history in a session. It may depend on how many ids were
given out and how many changes were made. -/
structure Holds (config : StoreConfig τ) (P : Nat → Nat → History → Prop)
    (s : HistorySession τ) : Prop where
  config_eq : s.config = config
  store : P s.idCount s.agenda.count s.store.history
  former : ∀ f ∈ s.former, P s.idCount s.agenda.count f.history
  stored : ∀ text h, s.backend.entries.lookup s.config.historyKey = some text →
    readText text = .ok h → P s.idCount s.agenda.count h

end HistorySession

/-- Whether a property holds of the empty history, is not lost as ids are given out and changes are
made, and allows to read back what is written. -/
structure IsSteady (P : Nat → Nat → History → Prop) : Prop where
  empty : ∀ ids changes, P ids changes {}
  mono : ∀ {ids ids' changes changes' : Nat} {h : History}, ids ≤ ids' → changes ≤ changes' →
    P ids changes h → P ids' changes' h
  legible : ∀ {ids changes : Nat} {h : History} {text : String}, P ids changes h →
    h.text = .ok text → HistorySession.readText text = .ok h

/-- Whether calls of some kind keep a property of histories. -/
structure IsKept {τ : Type} (config : StoreConfig τ) (allowed : HistoryCall → Prop)
    (P : Nat → Nat → History → Prop) : Prop where
  empty : ∀ ids changes, P ids changes {}
  mono : ∀ {ids ids' changes changes' : Nat} {h : History}, ids ≤ ids' → changes ≤ changes' →
    P ids changes h → P ids' changes' h
  proper : ∀ {ids changes : Nat} {h : History}, P ids changes h → h.IsProper
  typed : ∀ {call : HistoryCall}, allowed call → call.IsTyped
  outcome : ∀ {call : HistoryCall} {ids next changes : Nat} {h made : History}, allowed call →
    h.Outcome config ids call next made → P ids changes h → P next (changes + 1) made

theorem IsKept.isSteady {τ : Type} {config : StoreConfig τ} {allowed : HistoryCall → Prop}
    {P : Nat → Nat → History → Prop} (kept : IsKept config allowed P) : IsSteady P :=
  ⟨kept.empty, kept.mono, fun holds written => History.readText_text (kept.proper holds) written⟩

namespace HistorySession.Holds

variable {τ : Type} {config : StoreConfig τ} {allowed : HistoryCall → Prop}
  {P : Nat → Nat → History → Prop} {s : HistorySession τ}

theorem load (holds : s.Holds config P) : s.load.Holds config P := by
  unfold HistorySession.load
  split
  · exact ⟨holds.config_eq, holds.store, holds.former, holds.stored⟩
  · exact holds
  · next text found =>
    split
    · next h read =>
      have holds_h := holds.stored text h (Backend.lookup_of_read found) read
      exact ⟨holds.config_eq, holds_h, holds.former, holds.stored⟩
    · exact ⟨holds.config_eq, holds.store, holds.former, holds.stored⟩

/-- A text under another key leaves the stored history as it is. -/
theorem put (holds : s.Holds config P) {key value : String} (other : key ≠ config.historyKey)
    {backend : Backend} (wrote : s.backend.write key value = .ok backend) :
    { s with backend }.Holds config P := by
  refine ⟨holds.config_eq, holds.store, holds.former, ?_⟩
  intro text h lookup
  apply holds.stored text h
  have entries : backend.entries = s.backend.entries.put key value := by
    unfold Backend.write at wrote
    split at wrote <;> cases wrote
    rfl
  have apart : s.config.historyKey ≠ key := by
    rw [holds.config_eq]
    exact other.symm
  rwa [entries, Entries.lookup_put_of_ne _ _ apart] at lookup

theorem callOff (holds : s.Holds config P) : s.callOff.Holds config P := by
  have ⟨agenda, count, called⟩ := s.callOff_cases
  rw [called]
  refine ⟨holds.config_eq, ?_, ?_, ?_⟩
  · rw [count]
    exact holds.store
  · rw [count]
    exact holds.former
  · rw [count]
    exact holds.stored

section Steady

variable (steady : IsSteady P)

include steady

theorem write (holds : s.Holds config P) {h : History} (holds_h : P s.idCount s.agenda.count h) :
    (s.write h).Holds config P := by
  cases s.write_cases h with
  | inl notice =>
    have ⟨notice, same, _⟩ := notice
    rw [same]
    exact ⟨holds.config_eq, holds.store, holds.former, holds.stored⟩
  | inr wrote =>
    have ⟨text, made, _, same⟩ := wrote
    rw [same]
    refine ⟨holds.config_eq, holds.store, holds.former, ?_⟩
    intro found g lookup read
    rw [Entries.lookup_put_self] at lookup
    rw [← Option.some.inj lookup, steady.legible holds_h made] at read
    exact Except.ok.inj read ▸ holds_h

theorem writes (holds : s.Holds config P) (stores : List (HistoryStore τ))
    (all : ∀ f ∈ stores, P s.idCount s.agenda.count f.history) :
    (stores.foldl (fun s store => s.write store.history) s).Holds config P := by
  induction stores generalizing s with
  | nil => exact holds
  | cons f rest ih =>
    have first := holds.write steady (all f List.mem_cons_self)
    apply ih first
    intro g hg
    rw [write_idCount, write_agenda]
    exact all g (List.mem_cons_of_mem f hg)

theorem flush (holds : s.Holds config P) : s.flush.Holds config P := by
  have ⟨agenda, count, called⟩ := s.callOff_cases
  have holds_store := holds.callOff.store
  rw [called] at holds_store
  apply holds.callOff.write steady
  rw [called]
  exact holds_store

theorem reopen (holds : s.Holds config P) : s.reopen.Holds config P := by
  refine ⟨holds.config_eq, steady.empty _ _, ?_, holds.stored⟩
  intro f hf
  simp only [HistorySession.reopen] at hf
  split at hf
  · cases List.mem_append.1 hf with
    | inl hf => exact holds.former f hf
    | inr hf => exact List.mem_singleton.1 hf ▸ holds.store
  · exact holds.former f hf

variable [Timeline τ]

theorem settle (holds : s.Holds config P) : s.settle.Holds config P := by
  have ⟨due, agenda, perm, count, same⟩ := s.settle_cases
  rw [same]
  have members : ∀ f ∈ due, P s.idCount agenda.count f.history := by
    intro f hf
    rw [count]
    have member := (List.mem_filter.1 (perm.mem_iff.1 hf)).1
    cases List.mem_append.1 member with
    | inl member => exact holds.former f member
    | inr member => exact List.mem_singleton.1 member ▸ holds.store
  apply writes steady _ due members
  refine ⟨holds.config_eq, ?_, ?_, ?_⟩
  · rw [count]
    split <;> exact holds.store
  · intro f hf
    rw [count]
    exact holds.former f (List.mem_filter.1 hf).1
  · rw [count]
    exact holds.stored

theorem change (holds : s.Holds config P) {ids : Nat} {h : History} (more : s.idCount ≤ ids)
    (holds_h : P ids (s.agenda.count + 1) h) :
    ({ s with idCount := ids }.change h).Holds config P := by
  have ⟨alarm, agenda, count, changed⟩ := { s with idCount := ids }.change_cases h
  have later : s.agenda.count ≤ agenda.count := by
    rw [count]
    exact Nat.le_succ _
  rw [changed]
  refine ⟨holds.config_eq, ?_, ?_, ?_⟩
  · rw [count]
    exact holds_h
  · intro f hf
    exact steady.mono more later (holds.former f hf)
  · intro text stored lookup read
    exact steady.mono more later (holds.stored text stored lookup read)

end Steady

theorem perform [Timeline τ] (kept : IsKept config allowed P) (holds : s.Holds config P)
    {call : HistoryCall} (allows : allowed call) : (s.perform call).1.Holds config P := by
  have moves := s.moves_perform (kept.typed allows) (kept.proper holds.store)
  generalize (s.perform call).1 = after at moves
  cases moves with
  | stay => exact holds
  | load => exact holds.load
  | flush => exact holds.flush kept.isSteady
  | change outcome =>
    apply holds.change kept.isSteady outcome.ids_le
    rw [holds.config_eq] at outcome
    exact kept.outcome allows outcome holds.store

end HistorySession.Holds

/-- Whether an event is an allowed call, or no call and no access to the stored history. -/
def HistoryEvent.IsAllowed {τ : Type} (config : StoreConfig τ) (allowed : HistoryCall → Prop) :
    HistoryEvent τ → Prop
  | .call c => allowed c
  | .write key _ => key ≠ config.historyKey
  | _ => True

namespace HistorySession

variable {τ : Type} {config : StoreConfig τ} {allowed : HistoryCall → Prop}
  {P : Nat → Nat → History → Prop} {s : HistorySession τ}

/-- A session with an empty store and no history stored. -/
theorem holds_start (kept : IsKept config allowed P) {backend : Backend}
    (none_stored : backend.entries.lookup config.historyKey = none) (now : τ) (today : String) :
    Holds config P { config, backend, now, today } := by
  refine ⟨rfl, kept.empty _ _, fun f hf => absurd hf List.not_mem_nil, ?_⟩
  intro text h lookup
  rw [none_stored] at lookup
  cases lookup

variable [Timeline τ]

/-- The session after some events, one after the other. -/
def run (s : HistorySession τ) (events : List (HistoryEvent τ)) : HistorySession τ :=
  events.foldl (fun s event => (s.step event).1) s

/-- A property that is kept by calls of some kind is kept by other events anyway. -/
theorem Holds.step_of_calls (steady : IsSteady P)
    (calls : ∀ {s : HistorySession τ} {call : HistoryCall}, s.Holds config P → allowed call →
      (s.perform call).1.Holds config P)
    (holds : s.Holds config P) {event : HistoryEvent τ} (allows : event.IsAllowed config allowed) :
    (s.step event).1.Holds config P := by
  apply Holds.settle steady
  cases event with
  | call call => exact calls holds allows
  | advance delay => exact ⟨holds.config_eq, holds.store, holds.former, holds.stored⟩
  | reopen => exact holds.reopen steady
  | write key value =>
    simp only
    cases wrote : s.backend.write key value with
    | ok backend => exact holds.put allows wrote
    | error fault => exact holds
  | read key => exact holds

theorem Holds.run_of_calls (steady : IsSteady P)
    (calls : ∀ {s : HistorySession τ} {call : HistoryCall}, s.Holds config P → allowed call →
      (s.perform call).1.Holds config P)
    (holds : s.Holds config P) {events : List (HistoryEvent τ)}
    (allows : ∀ e ∈ events, e.IsAllowed config allowed) : (s.run events).Holds config P := by
  induction events generalizing s with
  | nil => exact holds
  | cons event rest ih =>
    apply ih (holds.step_of_calls steady calls (allows event List.mem_cons_self))
    intro e he
    exact allows e (List.mem_cons_of_mem event he)

theorem Holds.step (kept : IsKept config allowed P) (holds : s.Holds config P)
    {event : HistoryEvent τ} (allows : event.IsAllowed config allowed) :
    (s.step event).1.Holds config P :=
  holds.step_of_calls kept.isSteady (fun holds allows => holds.perform kept allows) allows

theorem Holds.run (kept : IsKept config allowed P) (holds : s.Holds config P)
    {events : List (HistoryEvent τ)} (allows : ∀ e ∈ events, e.IsAllowed config allowed) :
    (s.run events).Holds config P :=
  holds.run_of_calls kept.isSteady (fun holds allows => holds.perform kept allows) allows

end HistorySession

end Bookmarks
