import Bookmarks.Proofs.History.Durable
import Mathlib.Algebra.Order.Group.Defs
import Mathlib.Algebra.Order.Group.Int
import Mathlib.Algebra.Order.Monoid.Unbundled.Basic

/-! What events do to the delayed writer of a history, on a timeline of exact times: calls are of
five kinds, and `Effect` says for each what becomes of the pending write and of the backend. What
holds of a run follows by induction along its effects. -/

namespace Bookmarks

/-- Whether times are exact: they add up and compare as in an ordered group, and a time has come
from itself on. -/
class Timeline.IsExact (τ : Type) [Timeline τ] [Add τ] [LE τ] : Prop where
  add_eq (a b : τ) : Timeline.add a b = a + b
  hasCome_iff {due now : τ} : Timeline.hasCome due now = true ↔ due ≤ now

instance : Timeline.IsExact Int where
  add_eq _ _ := rfl
  hasCome_iff := decide_eq_true_iff

/-- Whether a call changes the history, told by the call and by what it returned. -/
def HistoryCall.isChange (call : HistoryCall) (result : Except Fault Json) : Bool :=
  match call with
  | .addRecent term => term.text?.any fun text => !(Text.trim text.toList).isEmpty
  | .clearRecent | .clearAll => true
  | .savePreset _ _ _ | .countUsage _ => result.isOk
  | .deletePreset _ | .countPreset _ => match result with
    | .ok (.bool found) => found
    | _ => false
  | _ => false

/-- What a call is to the writer. -/
inductive CallKind where
  | change
  | load
  | flush
  | close (pending : Bool)
  | other
  deriving DecidableEq

/-- Whether a write that is pending is called off by a call of this kind. -/
def CallKind.endsWait : CallKind → Bool
  | .change | .flush | .close _ => true
  | .load | .other => false

/-- A call that was made, and the history in memory after it. -/
structure CallRecord (τ : Type) where
  time : τ
  kind : CallKind
  history : History

/-- Whether an event is a call, a look at the backend, or time that passes and does not go back. -/
def HistoryEvent.IsTimely {τ : Type} [LE τ] [Zero τ] : HistoryEvent τ → Prop
  | .call _ | .read _ => True
  | .advance delay => 0 ≤ delay
  | .reopen | .write _ _ => False

/-- The backend after a history was written, which one without a text is not. -/
def Backend.keep (key : String) (b : Backend) (history : History) : Backend :=
  match history.text with
  | .ok text => { b with entries := b.entries.put key text, writes := b.writes + 1 }
  | .error _ => b

/-- A search term is added if it is a text that is not blank. -/
theorem History.addRecent_some_iff {h : History} {room : Int} {term : Json} :
    (∃ made, h.addRecent room term = .ok (some made)) ↔
      (term.text?.any fun text => !(Text.trim text.toList).isEmpty) = true := by
  cases term with
  | str text =>
    rw [addRecent, trimmed_str]
    by_cases blank : String.ofList (Text.trim text.toList) = ""
    · have none_left : Text.trim text.toList = [] := by simpa using blank
      simp [bind, Except.bind, pure, Except.pure, Json.text?, none_left]
    · have some_left : Text.trim text.toList ≠ [] := by simpa using blank
      simp [bind, Except.bind, pure, Except.pure, Json.text?, some_left]
  | _ =>
    simp only [addRecent, trimmed, Json.text, Json.text?, bind, Except.bind, pure, Except.pure]
    split
    · next stopped => split at stopped <;> simp_all
    · next trimmed => split at trimmed <;> simp_all [Except.map]

namespace HistorySession

variable {τ : Type}

theorem write_keep {s : HistorySession τ} (working : s.backend.health = .working) (h : History) :
    ∃ notices, s.write h = { s with
      backend := s.backend.keep s.config.historyKey h
      notices } := by
  cases s.write_cases h with
  | inl unsaved =>
    have ⟨notice, same, reason⟩ := unsaved
    have ⟨fault, fails⟩ := reason working
    refine ⟨s.notices ++ [notice], ?_⟩
    rw [same, Backend.keep, fails]
    rfl
  | inr wrote =>
    have ⟨text, made, _, same⟩ := wrote
    refine ⟨s.notices, ?_⟩
    rw [same, Backend.keep, made]

theorem health_keep (key : String) (b : Backend) (h : History) :
    (b.keep key h).health = b.health := by
  unfold Backend.keep
  split <;> rfl

theorem flush_keep {s : HistorySession τ} (working : s.backend.health = .working) :
    ∃ agenda notices, s.flush = { s with
      store := { s.store with pending := none }
      backend := s.backend.keep s.config.historyKey s.store.history
      agenda, notices } := by
  have ⟨agenda, _, called⟩ := s.callOff_cases
  have ⟨notices, wrote⟩ := write_keep (s := s.callOff) (by rw [called]; exact working)
    s.store.history
  refine ⟨agenda, notices, ?_⟩
  rw [flush, wrote, called]

variable [Timeline τ]

def kindOf (s : HistorySession τ) (call : HistoryCall) : CallKind :=
  match call with
  | .load => .load
  | .flush => .flush
  | .close => .close s.store.pending.isSome
  | other => if other.isChange (s.perform other).2 then .change else .other

theorem idle_of_kindOf {s : HistorySession τ} {call : HistoryCall}
    (idle : s.kindOf call = .close false) : s.store.pending = none := by
  unfold kindOf at idle
  split at idle
  · cases idle
  · cases idle
  · simpa using idle
  · split at idle <;> cases idle

def record (s : HistorySession τ) (call : HistoryCall) : CallRecord τ where
  time := s.now
  kind := s.kindOf call
  history := (s.step (.call call)).1.store.history

/-- The calls of a run, in order. -/
def records (s : HistorySession τ) : List (HistoryEvent τ) → List (CallRecord τ)
  | [] => []
  | .call call :: rest => s.record call :: records (s.step (.call call)).1 rest
  | event :: rest => records (s.step event).1 rest

section Perform

variable (s : HistorySession τ) {call : HistoryCall}

/-- A call that changes the history leaves it to be written. Any other that is of no other kind may
use up an id, and leaves all else as it is. -/
theorem perform_cases (load : call ≠ .load) (flush : call ≠ .flush) (close : call ≠ .close) :
    call.isChange (s.perform call).2 = true ∧
      (∃ ids h, (s.perform call).1 = { s with idCount := ids }.change h) ∨
    call.isChange (s.perform call).2 = false ∧
      ∃ ids, (s.perform call).1 = { s with idCount := ids } := by
  cases call with
  | load => exact absurd rfl load
  | flush => exact absurd rfl flush
  | close => exact absurd rfl close
  | addRecent term =>
    by_cases added : ∃ made, s.store.history.addRecent s.config.maxRecent term = .ok (some made)
    · refine .inl ⟨History.addRecent_some_iff.1 added, ?_⟩
      obtain ⟨h, added⟩ := added
      exact ⟨s.idCount, h, by simp only [perform, added]⟩
    · have same : ¬HistoryCall.isChange (.addRecent term) (s.perform (.addRecent term)).2 = true :=
        fun changes => added (History.addRecent_some_iff.2 changes)
      refine .inr ⟨Bool.eq_false_iff.2 same, s.idCount, ?_⟩
      simp only [perform]
      split
      · next made found => exact absurd ⟨made, found⟩ added
      · rfl
      · rfl
  | clearRecent => exact .inl ⟨rfl, s.idCount, _, rfl⟩
  | clearAll => exact .inl ⟨rfl, s.idCount, _, rfl⟩
  | savePreset name description filters =>
    simp only [HistoryCall.isChange, perform, savePreset]
    split
    · exact .inr ⟨rfl, s.idCount, rfl⟩
    · exact .inr ⟨rfl, s.idCount, rfl⟩
    · split
      · exact .inr ⟨rfl, s.idCount + 1, rfl⟩
      · exact .inl ⟨rfl, s.idCount + 1, _, rfl⟩
  | preset id => exact .inr ⟨rfl, s.idCount, rfl⟩
  | deletePreset id =>
    simp only [HistoryCall.isChange, perform, changeIf]
    cases s.store.history.deletePreset id with
    | none => exact .inr ⟨rfl, s.idCount, rfl⟩
    | some h => exact .inl ⟨rfl, s.idCount, h, rfl⟩
  | countPreset id =>
    simp only [HistoryCall.isChange, perform, changeIf]
    cases s.store.history.countPreset id with
    | none => exact .inr ⟨rfl, s.idCount, rfl⟩
    | some h => exact .inl ⟨rfl, s.idCount, h, rfl⟩
  | countUsage kind =>
    simp only [HistoryCall.isChange, perform]
    split
    · exact .inl ⟨rfl, s.idCount, _, rfl⟩
    · exact .inr ⟨rfl, s.idCount, rfl⟩

/-- The kinds of calls, with what a call of each does. -/
theorem kindOf_cases (call : HistoryCall) :
    call = .load ∨ call = .flush ∨ call = .close ∨
      s.kindOf call = .change ∧ (∃ ids h, (s.perform call).1 = { s with idCount := ids }.change h) ∨
      s.kindOf call = .other ∧ ∃ ids, (s.perform call).1 = { s with idCount := ids } := by
  by_cases load : call = .load
  · exact .inl load
  by_cases flush : call = .flush
  · exact .inr (.inl flush)
  by_cases close : call = .close
  · exact .inr (.inr (.inl close))
  have kind : s.kindOf call =
      if call.isChange (s.perform call).2 then .change else .other := by
    unfold kindOf
    split
    · exact absurd rfl load
    · exact absurd rfl flush
    · exact absurd rfl close
    · rfl
  rcases s.perform_cases load flush close with ⟨changes, made⟩ | ⟨same, made⟩
  · rw [changes] at kind
    exact .inr (.inr (.inr (.inl ⟨kind, made⟩)))
  · rw [same] at kind
    exact .inr (.inr (.inr (.inr ⟨kind, made⟩)))

end Perform

/-- A change leaves a write pending for when the delay has passed. -/
theorem change_due (s : HistorySession τ) (h : History) :
    ∃ alarm agenda, alarm.due = Timeline.add s.now s.config.debounce ∧
      s.change h = { s with store := ⟨h, some alarm⟩, agenda } := by
  have ⟨agenda, _, called⟩ := s.callOff_cases
  refine ⟨agenda.next (Timeline.add s.now s.config.debounce),
    agenda.set (Timeline.add s.now s.config.debounce), rfl, ?_⟩
  rw [change, called]

/-- Whether there is one store only, on a backend in order, that delays its writes, and a write that
is pending is still to come. -/
structure IsPunctual [LT τ] [Zero τ] (s : HistorySession τ) : Prop where
  former : s.former = []
  working : s.backend.health = .working
  positive : 0 < s.config.debounce
  ahead : ∀ alarm, s.store.pending = some alarm → s.now < alarm.due

section Exact

variable [AddCommMonoid τ] [LinearOrder τ] [Timeline.IsExact τ] {s : HistorySession τ}

theorem settle_ahead (single : s.former = [])
    (ahead : ∀ alarm, s.store.pending = some alarm → s.now < alarm.due) :
    ∃ agenda, s.settle = { s with agenda } := by
  have ⟨agenda, same⟩ := settle_single single
  have early : isDue s.now s.store = false := by
    cases waits : s.store.pending with
    | none => exact isDue_idle waits s.now
    | some alarm =>
      have := ahead alarm waits
      rw [isDue, waits, Option.any_some, ← Bool.not_eq_true, Timeline.IsExact.hasCome_iff]
      exact not_le_of_gt this
  rw [early] at same
  exact ⟨agenda, same⟩

theorem settle_due (single : s.former = []) (working : s.backend.health = .working)
    {alarm : Alarm τ} (waits : s.store.pending = some alarm) (due : alarm.due ≤ s.now) :
    ∃ agenda notices, s.settle = { s with
      store := { s.store with pending := none }
      backend := s.backend.keep s.config.historyKey s.store.history
      agenda, notices } := by
  obtain ⟨agenda, same⟩ := settle_single single
  have come : isDue s.now s.store = true := by
    rw [isDue, waits, Option.any_some, Timeline.IsExact.hasCome_iff]
    exact due
  rw [come, if_pos rfl] at same
  obtain ⟨notices, wrote⟩ := write_keep
    (s := { s with store := { s.store with pending := none }, agenda }) working s.store.history
  exact ⟨agenda, notices, same.trans wrote⟩

/-- What an event does when time does not go back. -/
inductive Effect (s : HistorySession τ) : HistoryEvent τ → HistorySession τ → Prop where
  | pass {delay : τ} {agenda : Agenda τ}
      (ahead : ∀ alarm, s.store.pending = some alarm → s.now + delay < alarm.due) :
      Effect s (.advance delay) { s with now := s.now + delay, agenda }
  | come {delay : τ} {alarm : Alarm τ} {agenda : Agenda τ} {notices : List HistoryNotice}
      (waits : s.store.pending = some alarm) (due : alarm.due ≤ s.now + delay) :
      Effect s (.advance delay) { s with
        now := s.now + delay
        store := { s.store with pending := none }
        backend := s.backend.keep s.config.historyKey s.store.history
        agenda, notices }
  | read {key : String} {agenda : Agenda τ} : Effect s (.read key) { s with agenda }
  | change {call : HistoryCall} {ids : Nat} {h : History} {alarm : Alarm τ} {agenda : Agenda τ}
      (kind : s.kindOf call = .change) (due : alarm.due = s.now + s.config.debounce) :
      Effect s (.call call) { s with idCount := ids, store := ⟨h, some alarm⟩, agenda }
  | load {h : History} {agenda : Agenda τ} {notices : List HistoryNotice} :
      Effect s (.call .load) { s with store := { s.store with history := h }, agenda, notices }
  | write {call : HistoryCall} {agenda : Agenda τ} {notices : List HistoryNotice}
      (kind : s.kindOf call = .flush ∨ s.kindOf call = .close true) :
      Effect s (.call call) { s with
        store := { s.store with pending := none }
        backend := s.backend.keep s.config.historyKey s.store.history
        agenda, notices }
  | other {call : HistoryCall} {ids : Nat} {agenda : Agenda τ}
      (kind : s.kindOf call = .other ∨ s.kindOf call = .close false) :
      Effect s (.call call) { s with idCount := ids, agenda }

variable [IsOrderedCancelAddMonoid τ]

namespace IsPunctual

variable (punctual : s.IsPunctual)

include punctual

omit [IsOrderedCancelAddMonoid τ] in
theorem settle_flush :
    ∃ agenda notices, s.flush.settle = { s with
      store := { s.store with pending := none }
      backend := s.backend.keep s.config.historyKey s.store.history
      agenda, notices } := by
  obtain ⟨agenda, notices, flushed⟩ := flush_keep punctual.working
  have single : s.flush.former = [] := by
    rw [flushed]
    exact punctual.former
  have ⟨agenda', settled⟩ := settle_ahead single (by simp [flushed])
  refine ⟨agenda', notices, ?_⟩
  rw [settled, flushed]

theorem effect_call (call : HistoryCall) : s.Effect (.call call) (s.step (.call call)).1 := by
  show s.Effect (.call call) (s.perform call).1.settle
  rcases s.kindOf_cases call with is_load | is_flush | is_close | ⟨kind, ids, h, changed⟩ |
    ⟨kind, ids, same⟩
  · rw [is_load]
    obtain ⟨h, notices, loaded⟩ := s.load_cases
    obtain ⟨agenda, settled⟩ := settle_ahead (s := s.load) (by rw [loaded]; exact punctual.former)
      (by rw [loaded]; exact punctual.ahead)
    rw [perform, settled, loaded]
    exact .load
  · rw [is_flush]
    obtain ⟨agenda, notices, settled⟩ := punctual.settle_flush
    rw [perform, settled]
    exact .write (.inl rfl)
  · rw [is_close, perform, close]
    cases waits : s.store.pending with
    | none =>
      obtain ⟨agenda, settled⟩ := settle_ahead punctual.former punctual.ahead
      rw [Option.isSome_none, if_neg (by decide), settled]
      refine .other (.inr ?_)
      rw [kindOf, waits, Option.isSome_none]
    | some alarm =>
      obtain ⟨agenda, notices, settled⟩ := punctual.settle_flush
      rw [Option.isSome_some, if_pos rfl, settled]
      refine .write (.inr ?_)
      rw [kindOf, waits, Option.isSome_some]
  · obtain ⟨alarm, agenda, due, made⟩ := { s with idCount := ids }.change_due h
    rw [Timeline.IsExact.add_eq] at due
    have later : s.now < alarm.due := by
      rw [due]
      exact lt_add_of_pos_right s.now punctual.positive
    rw [changed, made]
    obtain ⟨agenda', settled⟩ := settle_ahead
      (s := { s with idCount := ids, store := ⟨h, some alarm⟩, agenda }) punctual.former
      (fun other waits => by cases waits; exact later)
    rw [settled]
    exact .change kind due
  · obtain ⟨agenda, settled⟩ := settle_ahead (s := { s with idCount := ids }) punctual.former
      punctual.ahead
    rw [same, settled]
    exact .other (.inl kind)

omit [IsOrderedCancelAddMonoid τ] in
theorem effect_advance (delay : τ) : s.Effect (.advance delay) (s.step (.advance delay)).1 := by
  show s.Effect (.advance delay) (s.advance delay).settle
  have later : s.advance delay = { s with now := s.now + delay } := by
    rw [advance, Timeline.IsExact.add_eq]
  rw [later]
  by_cases due : ∃ alarm, s.store.pending = some alarm ∧ alarm.due ≤ s.now + delay
  · have ⟨alarm, waits, due⟩ := due
    have ⟨agenda, notices, settled⟩ := settle_due (s := { s with now := s.now + delay })
      punctual.former punctual.working waits due
    rw [settled]
    exact .come waits due
  · have ahead : ∀ alarm, s.store.pending = some alarm → s.now + delay < alarm.due :=
      fun alarm waits => lt_of_not_ge fun come => due ⟨alarm, waits, come⟩
    have ⟨agenda, settled⟩ := settle_ahead (s := { s with now := s.now + delay })
      punctual.former ahead
    rw [settled]
    exact .pass ahead

theorem effect {event : HistoryEvent τ} (timely : event.IsTimely) :
    s.Effect event (s.step event).1 := by
  cases event with
  | call call => exact punctual.effect_call call
  | advance delay => exact punctual.effect_advance delay
  | reopen => exact absurd timely id
  | write key value => exact absurd timely id
  | read key =>
    have ⟨agenda, settled⟩ := settle_ahead punctual.former punctual.ahead
    show s.Effect (.read key) s.settle
    rw [settled]
    exact .read

end IsPunctual

namespace Effect

variable {event : HistoryEvent τ} {after : HistorySession τ}

omit [Timeline.IsExact τ] [IsOrderedCancelAddMonoid τ] in
theorem config_eq (effect : s.Effect event after) : after.config = s.config := by
  cases effect <;> rfl

omit [Timeline.IsExact τ] in
theorem isPunctual (effect : s.Effect event after) (punctual : s.IsPunctual) :
    after.IsPunctual := by
  have ⟨former, working, positive, waiting⟩ := punctual
  have kept := working
  rw [← health_keep s.config.historyKey _ s.store.history] at kept
  cases effect with
  | pass ahead => exact ⟨former, working, positive, ahead⟩
  | come waits due => exact ⟨former, kept, positive, nofun⟩
  | read => exact ⟨former, working, positive, waiting⟩
  | change kind due =>
    refine ⟨former, working, positive, ?_⟩
    intro other waits
    cases waits
    rw [due]
    exact lt_add_of_pos_right s.now positive
  | load => exact ⟨former, working, positive, waiting⟩
  | write kind => exact ⟨former, kept, positive, nofun⟩
  | other kind => exact ⟨former, working, positive, waiting⟩

omit [Timeline.IsExact τ] in
theorem now_le (effect : s.Effect event after) (timely : event.IsTimely) : s.now ≤ after.now := by
  cases effect with
  | pass ahead => exact le_add_of_nonneg_right timely
  | come waits due => exact le_add_of_nonneg_right timely
  | _ => exact le_rfl

end Effect

/-- What holds of a run by induction along its events, the session being punctual at each. -/
theorem run_induction {motive : HistorySession τ → List (HistoryEvent τ) → Prop}
    (nil : ∀ s : HistorySession τ, s.IsPunctual → motive s [])
    (cons : ∀ (s : HistorySession τ) event rest, s.IsPunctual → event.IsTimely →
      (∀ e ∈ rest, e.IsTimely) → s.Effect event (s.step event).1 → (s.step event).1.IsPunctual →
      motive (s.step event).1 rest → motive s (event :: rest))
    (punctual : s.IsPunctual) {events : List (HistoryEvent τ)}
    (timely : ∀ e ∈ events, e.IsTimely) : motive s events := by
  induction events generalizing s with
  | nil => exact nil s punctual
  | cons event rest ih =>
    have ⟨first, others⟩ := List.forall_mem_cons.1 timely
    have effect := punctual.effect first
    have next := effect.isPunctual punctual
    exact cons s event rest punctual first others effect next (ih next others)

theorem now_le_run (punctual : s.IsPunctual) {events : List (HistoryEvent τ)}
    (timely : ∀ e ∈ events, e.IsTimely) : s.now ≤ (s.run events).now := by
  refine run_induction (motive := fun s events => s.now ≤ (s.run events).now) ?_ ?_ punctual timely
  · intro s _
    exact le_rfl
  · intro s event rest _ first _ effect _ ih
    exact (effect.now_le first).trans ih

/-- No call of a run comes before its start. -/
theorem le_time_of_mem_records (punctual : s.IsPunctual) {events : List (HistoryEvent τ)}
    (timely : ∀ e ∈ events, e.IsTimely) : ∀ r ∈ s.records events, s.now ≤ r.time := by
  refine run_induction (motive := fun s events => ∀ r ∈ s.records events, s.now ≤ r.time) ?_ ?_
    punctual timely
  · intro s _ r hr
    cases hr
  · intro s event rest _ first _ effect _ ih r hr
    have later := effect.now_le first
    cases event with
    | call call =>
      cases List.mem_cons.1 hr with
      | inl same =>
        rw [same]
        exact le_rfl
      | inr hr => exact later.trans (ih r hr)
    | _ => exact later.trans (ih r hr)

end Exact

end HistorySession

end Bookmarks
