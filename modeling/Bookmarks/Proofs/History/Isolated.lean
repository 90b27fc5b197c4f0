import Bookmarks.Proofs.History.Session

/-! Sessions without their backends. Only loading and access past the store look at the backend; so
what all other events show, and when a write is pending, is the same over every backend, also over
one that refuses to read or write. -/

namespace Bookmarks

/-- Whether an event neither looks at the backend nor goes to it past the store. -/
def HistoryEvent.IsBlind {τ : Type} : HistoryEvent τ → Prop
  | .call .load | .write _ _ | .read _ => False
  | _ => True

namespace HistorySession

variable {τ : Type}

/-- The session without its backend and the notices about it. -/
def detached (s : HistorySession τ) : HistorySession τ := { s with backend := {}, notices := [] }

variable (s : HistorySession τ)

@[simp] theorem detached_config : s.detached.config = s.config := rfl

@[simp] theorem detached_store : s.detached.store = s.store := rfl

theorem detached_write (h : History) : (s.write h).detached = s.detached := by
  unfold write
  split <;> rfl

theorem detached_writes (stores : List (HistoryStore τ)) :
    (stores.foldl (fun s store => s.write store.history) s).detached = s.detached := by
  induction stores generalizing s with
  | nil => rfl
  | cons store rest ih => rw [List.foldl_cons, ih, detached_write]

theorem detached_callOff : s.callOff.detached = s.detached.callOff := by
  unfold callOff
  rw [detached_store]
  split <;> rfl

theorem detached_flush : s.flush.detached = s.detached.flush.detached := by
  rw [flush, flush, detached_write, detached_write, detached_callOff, detached_callOff]
  rfl

theorem detached_close : s.close.detached = s.detached.close.detached := by
  by_cases waits : s.store.pending.isSome = true
  · have flushes : s.close = s.flush := if_pos waits
    have flushes' : s.detached.close = s.detached.flush := if_pos waits
    rw [flushes, flushes', detached_flush]
  · have stays : s.close = s := if_neg waits
    have stays' : s.detached.close = s.detached := if_neg waits
    rw [stays, stays']
    rfl

variable [Timeline τ]

theorem detached_change (h : History) : (s.change h).detached = s.detached.change h := by
  unfold change
  rw [← detached_callOff]
  rfl

/-- What is due is the same over every backend, and no longer pending once it was written. -/
theorem detached_settle : s.settle.detached = s.detached.settle.detached := by
  unfold settle
  rw [detached_writes, detached_writes]
  rfl

/-- Whether two outcomes of a call differ at most in the backend. -/
def Alike (a b : HistorySession τ × Except Fault Json) : Prop :=
  a.1.detached = b.1.detached ∧ a.2 = b.2

theorem alike_change (h : History) (result : Except Fault Json) :
    Alike (s.change h, result) (s.detached.change h, result) := by
  refine ⟨?_, rfl⟩
  rw [detached_change, detached_change]
  rfl

theorem alike_changeIf (h : Option History) :
    Alike ((s.changeIf h).map (·) .ok) ((s.detached.changeIf h).map (·) .ok) := by
  cases h with
  | none => exact ⟨rfl, rfl⟩
  | some h => exact s.alike_change h _

theorem alike_savePreset (name description : Json) (filters : FilterSource) :
    Alike (s.savePreset name description filters)
      (s.detached.savePreset name description filters) := by
  unfold savePreset
  split
  · exact ⟨rfl, rfl⟩
  · exact ⟨rfl, rfl⟩
  · dsimp only
    cases History.trimmed description with
    | error fault => exact ⟨rfl, rfl⟩
    | ok text => exact { s with idCount := s.idCount + 1 }.alike_change _ _

theorem alike_perform {call : HistoryCall} (unread : call ≠ .load) :
    Alike (s.perform call) (s.detached.perform call) := by
  cases call with
  | load => exact absurd rfl unread
  | flush => exact ⟨s.detached_flush, rfl⟩
  | close => exact ⟨s.detached_close, rfl⟩
  | addRecent term =>
    simp only [perform, detached_store, detached_config]
    split
    · exact s.alike_change _ _
    · exact ⟨rfl, rfl⟩
    · exact ⟨rfl, rfl⟩
  | clearRecent => exact s.alike_change _ _
  | clearAll => exact s.alike_change _ _
  | savePreset name description filters => exact s.alike_savePreset name description filters
  | preset id => exact ⟨rfl, rfl⟩
  | deletePreset id => exact s.alike_changeIf _
  | countPreset id => exact s.alike_changeIf _
  | countUsage kind =>
    simp only [perform, detached_store]
    split
    · exact s.alike_change _ _
    · exact ⟨rfl, rfl⟩

theorem alike_step {event : HistoryEvent τ} (blind : event.IsBlind) :
    Alike (s.step event) (s.detached.step event) := by
  have happens : Alike (s.happen event) (s.detached.happen event) := by
    cases event with
    | call call =>
      refine s.alike_perform ?_
      rintro rfl
      exact blind
    | advance delay => exact ⟨rfl, rfl⟩
    | reopen => exact ⟨rfl, rfl⟩
    | write key value => exact absurd blind id
    | read key => exact absurd blind id
  refine ⟨?_, happens.2⟩
  calc (s.happen event).1.settle.detached
      = (s.happen event).1.detached.settle.detached := detached_settle _
    _ = (s.detached.happen event).1.detached.settle.detached := by rw [happens.1]
    _ = (s.detached.happen event).1.settle.detached := (detached_settle _).symm

/-- What events show one after the other: each its answer, and then the history in memory and
whether a write of it is pending. -/
def transcript (s : HistorySession τ) :
    List (HistoryEvent τ) → List (Except Fault Json × History × Bool)
  | [] => []
  | event :: rest =>
    let after := (s.step event).1
    ((s.step event).2, after.store.history, after.store.pending.isSome) :: after.transcript rest

theorem transcript_detached {events : List (HistoryEvent τ)} (blind : ∀ e ∈ events, e.IsBlind) :
    s.transcript events = s.detached.transcript events := by
  induction events generalizing s with
  | nil => rfl
  | cons event rest ih =>
    obtain ⟨first, others⟩ := List.forall_mem_cons.1 blind
    obtain ⟨same, answer⟩ := s.alike_step first
    have store : (s.step event).1.detached.store = (s.detached.step event).1.detached.store :=
      congrArg HistorySession.store same
    simp only [detached_store] at store
    rw [transcript, transcript, ih _ others, ih (s.detached.step event).1 others, same, answer,
      store]

/-- Nothing that is stored, and no failure to store, shows in what events answer that do not look at
the backend, nor in the history in memory or in whether a write of it is pending. -/
theorem transcript_eq (backend other : Backend) {events : List (HistoryEvent τ)}
    (blind : ∀ e ∈ events, e.IsBlind) :
    { s with backend }.transcript events = { s with backend := other }.transcript events := by
  rw [transcript_detached _ blind, transcript_detached { s with backend := other } blind]
  rfl

/-- Writes that are due, flushed and given up, over a backend in order and over a broken one. -/
theorem transcript_eq_broken :
    let s : HistorySession Int :=
      { config := { debounce := 5 }, backend := {}, now := 0, today := "" }
    let broken : Backend := { health := .broken }
    let events : List (HistoryEvent Int) := [.call (.addRecent (.str " x ")), .advance 5,
      .call (.savePreset (.int 3) .null (.value .null)), .call (.countUsage (.bool true)),
      .call .flush, .call (.savePreset (.str "p") (.arr []) (.value (.obj [("tags", .null)]))),
      .call .close, .call (.countUsage (.arr []))]
    (∀ e ∈ events, e.IsBlind) ∧
      { s with backend := {} }.transcript events =
        { s with backend := broken }.transcript events := by
  intro s broken events
  have blind : ∀ e ∈ events, e.IsBlind := by simp [events, HistoryEvent.IsBlind]
  exact ⟨blind, s.transcript_eq {} broken blind⟩

end HistorySession

end Bookmarks
