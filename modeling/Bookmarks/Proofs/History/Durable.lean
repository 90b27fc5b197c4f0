import Bookmarks.Proofs.History.Storable

/-! A store that is alone on a backend in order. Whenever no write is pending, what is stored is the
text of what is in memory, if that has a text; a new store that is loaded then has the same history.
-/

namespace Bookmarks

/-- Whether an event is an allowed call, the passing of time, or a look at the backend. -/
def HistoryEvent.IsOwn {τ : Type} (allowed : HistoryCall → Prop) : HistoryEvent τ → Prop
  | .call c => allowed c
  | .advance _ => True
  | .read _ => True
  | _ => False

theorem HistoryEvent.IsOwn.isAllowed {τ : Type} {allowed : HistoryCall → Prop}
    {event : HistoryEvent τ} (own : event.IsOwn allowed) (config : StoreConfig τ) :
    event.IsAllowed config allowed := by
  cases event with
  | call c => exact own
  | write key value => exact absurd own id
  | _ => trivial

/-- A history in memory is stored, unless it is the one at first or has no text. -/
inductive History.IsSaved (backend : Backend) (key : String) (h : History) : Prop where
  | unwritten (unused : backend.writes = 0) (absent : backend.entries.lookup key = none)
      (empty : h = {})
  | written {text : String} (stored : backend.entries.lookup key = some text)
      (made : h.text = .ok text)
  | unwritable {fault : Fault} (fails : h.text = .error fault)

theorem History.isKept_isProper {τ : Type} (config : StoreConfig τ) :
    IsKept config HistoryCall.IsTyped fun _ _ h => h.IsProper where
  empty _ _ := ⟨fun _ h => absurd h List.not_mem_nil, [], rfl, List.nodup_nil⟩
  mono _ _ proper := proper
  proper proper := proper
  typed typed := typed
  outcome typed outcome proper := outcome.isProper typed proper

namespace HistorySession

variable {τ : Type}

/-- Whether there is one store only, its backend is in order and holds a text of a history, if any,
under its key, and what is in memory is saved when no write is pending. -/
structure IsSingle (s : HistorySession τ) : Prop where
  former : s.former = []
  working : s.backend.health = .working
  stored : ∀ text, s.backend.entries.lookup s.config.historyKey = some text →
    ∃ h : History, h.IsProper ∧ h.text = .ok text
  saved : s.store.pending = none → s.store.history.IsSaved s.backend s.config.historyKey

namespace IsSingle

variable {s : HistorySession τ} (single : s.IsSingle)

include single

/-- The history is written in place of a write that is pending. -/
theorem write (proper : s.store.history.IsProper) (agenda : Agenda τ) :
    ({ s with store := { s.store with pending := none }, agenda }.write
      s.store.history).IsSingle := by
  have cases_of := { s with store := { s.store with pending := none }, agenda }.write_cases
    s.store.history
  cases cases_of with
  | inl unsaved =>
    have ⟨notice, same, reason⟩ := unsaved
    have ⟨fault, fails⟩ := reason single.working
    rw [same]
    exact ⟨single.former, single.working, single.stored, fun _ => .unwritable fails⟩
  | inr wrote =>
    have ⟨text, made, _, same⟩ := wrote
    rw [same]
    refine ⟨single.former, single.working, ?_, fun _ => .written (Entries.lookup_put_self ..) made⟩
    intro found lookup
    rw [Entries.lookup_put_self] at lookup
    cases lookup
    exact ⟨s.store.history, proper, made⟩

theorem flush (proper : s.store.history.IsProper) : s.flush.IsSingle := by
  have ⟨agenda, _, called⟩ := s.callOff_cases
  rw [HistorySession.flush, called]
  exact single.write proper agenda

theorem load : s.load.IsSingle := by
  unfold HistorySession.load
  split
  · exact ⟨single.former, single.working, single.stored, single.saved⟩
  · exact single
  · next text found =>
    have stored := Backend.lookup_of_read found
    have ⟨h, proper, made⟩ := single.stored text stored
    rw [History.readText_text proper made]
    exact ⟨single.former, single.working, single.stored, fun _ => .written stored made⟩

end IsSingle

theorem isSingle_start (config : StoreConfig τ) (now : τ) (today : String) :
    IsSingle { config, backend := {}, now, today } := by
  refine ⟨rfl, rfl, ?_, fun _ => .unwritten rfl rfl rfl⟩
  intro text lookup
  cases lookup

variable [Timeline τ] {s : HistorySession τ}

theorem isDue_idle {store : HistoryStore τ} (idle : store.pending = none) (now : τ) :
    isDue now store = false := by
  rw [isDue, idle]
  rfl

/-- Only the one store can have something to write. -/
theorem settle_single (single : s.former = []) :
    ∃ agenda : Agenda τ, s.settle = if isDue s.now s.store then
      { s with store := { s.store with pending := none }, agenda }.write s.store.history
      else { s with agenda } := by
  have ⟨due, agenda, perm, _, same⟩ := s.settle_cases
  refine ⟨agenda, ?_⟩
  rw [same]
  cases s with
  | mk config backend now today idCount store former old notices =>
    cases single
    cases is_due : isDue now store with
    | false =>
      have none_due : due = [] := by
        apply List.Perm.eq_nil
        simpa [is_due] using perm
      simp [none_due]
    | true =>
      have one_due : due = [store] := by
        apply List.perm_singleton.1
        simpa [is_due] using perm
      simp [one_due]

namespace IsSingle

variable (single : s.IsSingle)

include single

theorem settle (proper : s.store.history.IsProper) : s.settle.IsSingle := by
  have ⟨agenda, same⟩ := settle_single single.former
  rw [same]
  split
  · exact single.write proper agenda
  · exact ⟨single.former, single.working, single.stored, single.saved⟩

theorem change (ids : Nat) (h : History) : ({ s with idCount := ids }.change h).IsSingle := by
  have ⟨alarm, agenda, _, changed⟩ := { s with idCount := ids }.change_cases h
  rw [changed]
  refine ⟨single.former, single.working, single.stored, ?_⟩
  intro idle
  cases idle

theorem perform (proper : s.store.history.IsProper) {call : HistoryCall} (typed : call.IsTyped) :
    (s.perform call).1.IsSingle := by
  have moves := s.moves_perform typed proper
  generalize (s.perform call).1 = after at moves
  cases moves with
  | stay => exact single
  | load => exact single.load
  | flush => exact single.flush proper
  | change outcome => exact single.change _ _

variable {config : StoreConfig τ} {allowed : HistoryCall → Prop} {P : Nat → Nat → History → Prop}

theorem step (kept : IsKept config allowed P) (holds : s.Holds config P) {event : HistoryEvent τ}
    (own : event.IsOwn allowed) : (s.step event).1.IsSingle := by
  cases event with
  | call c =>
    have after := holds.perform kept own
    exact (single.perform (kept.proper holds.store) (kept.typed own)).settle
      (kept.proper after.store)
  | advance delay =>
    have later : (s.advance delay).IsSingle :=
      ⟨single.former, single.working, single.stored, single.saved⟩
    exact later.settle (kept.proper holds.store)
  | reopen => exact absurd own id
  | write key value => exact absurd own id
  | read key => exact single.settle (kept.proper holds.store)

theorem run (kept : IsKept config allowed P) (holds : s.Holds config P)
    {events : List (HistoryEvent τ)} (own : ∀ e ∈ events, e.IsOwn allowed) :
    (s.run events).IsSingle := by
  induction events generalizing s with
  | nil => exact single
  | cons event rest ih =>
    have first := own event List.mem_cons_self
    apply ih (single.step kept holds first) (holds.step kept (first.isAllowed config))
    intro e he
    exact own e (List.mem_cons_of_mem event he)

end IsSingle

/-- After any run of one store, what is in memory is stored if no write is pending. -/
theorem isSaved_run (config : StoreConfig τ) (now : τ) (today : String)
    {events : List (HistoryEvent τ)} (own : ∀ e ∈ events, e.IsOwn HistoryCall.IsTyped) :
    let s := run { config, backend := {}, now, today } events
    s.store.pending = none → s.store.history.IsSaved s.backend s.config.historyKey := by
  have kept := History.isKept_isProper config
  exact ((isSingle_start config now today).run kept (holds_start kept rfl now today) own).saved

section Count

end Count

section Reload

end Reload

end HistorySession

namespace Json

/-- An array in an array, and so on. -/
def nested : Nat → Json
  | 0 => .arr []
  | n + 1 => .arr [nested n]

end Json

namespace HistorySession

variable {τ : Type} [Timeline τ]

end HistorySession

end Bookmarks
