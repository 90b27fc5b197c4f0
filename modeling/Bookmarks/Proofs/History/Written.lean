import Bookmarks.Proofs.History.Delay

/-! When a history is written. A change is written once its delay has passed, unless a change, a
flush or a close comes before; a flush writes at once, and so does a close while a write is pending.
Nothing else is written. The main statement reads the backend after any run off the calls that were
made; since it holds after every run, each write is made when its time comes and no sooner. -/

namespace Bookmarks

structure HistoryWrite (τ : Type) where
  time : τ
  history : History

namespace HistorySession

variable {τ : Type} [LinearOrder τ]

/-- The history that is in memory when a time comes: the one that the last load before took over,
and without a load the one that was there. -/
def heldAt (time : τ) (held : History) (later : List (CallRecord τ)) : History :=
  ((later.takeWhile fun r => decide (r.time < time)).filter fun r => r.kind == .load).getLast?.elim
    held CallRecord.history

/-- The write for which a change waits, if its time has come and no call ended the wait before. -/
def waitWrites (now due : τ) (held : History) (later : List (CallRecord τ)) :
    List (HistoryWrite τ) :=
  if due ≤ now ∧ ∀ r ∈ later, r.kind.endsWait = true → due ≤ r.time then
    [⟨due, heldAt due held later⟩]
  else []

section Wait

variable {now due : τ} {held : History} {r : CallRecord τ} {later : List (CallRecord τ)}

theorem waitWrites_early (early : now < due) : waitWrites now due held later = [] :=
  if_neg fun come => absurd come.1 (not_le_of_gt early)

theorem waitWrites_due (come : due ≤ now) (after : ∀ r ∈ later, due ≤ r.time) :
    waitWrites now due held later = [⟨due, held⟩] := by
  have none_before : later.takeWhile (fun r => decide (r.time < due)) = [] := by
    cases later with
    | nil => rfl
    | cons r rest => simpa using after r List.mem_cons_self
  rw [waitWrites, if_pos ⟨come, fun r hr _ => after r hr⟩, heldAt, none_before]
  rfl

theorem waitWrites_ended (before : r.time < due) (ends : r.kind.endsWait = true) :
    waitWrites now due held (r :: later) = [] :=
  if_neg fun come => absurd (come.2 r List.mem_cons_self ends) (not_le_of_gt before)

theorem waitWrites_cons (before : r.time < due) (waits : r.kind.endsWait = false) :
    waitWrites now due held (r :: later) =
      waitWrites now due (if r.kind == .load then r.history else held) later := by
  have same : heldAt due held (r :: later) =
      heldAt due (if r.kind == .load then r.history else held) later := by
    rw [heldAt, List.takeWhile_cons_of_pos (by simpa using before), List.filter_cons]
    cases r.kind == .load with
    | true =>
      rw [if_pos rfl, List.getLast?_cons, heldAt, if_pos rfl]
      cases (List.filter _ _).getLast? <;> rfl
    | false => rfl
  simp [waitWrites, same, waits]

end Wait

variable [Add τ]

/-- The writes that a call leads to, given the calls after it. -/
def callWrites (delay now : τ) (r : CallRecord τ) (later : List (CallRecord τ)) :
    List (HistoryWrite τ) :=
  match r.kind with
  | .change => waitWrites now (r.time + delay) r.history later
  | .flush | .close true => [⟨r.time, r.history⟩]
  | _ => []

section Call

variable {delay now : τ} {r : CallRecord τ} {later : List (CallRecord τ)}

theorem callWrites_change (kind : r.kind = .change) :
    callWrites delay now r later = waitWrites now (r.time + delay) r.history later := by
  rw [callWrites, kind]

theorem callWrites_write (kind : r.kind = .flush ∨ r.kind = .close true) :
    callWrites delay now r later = [⟨r.time, r.history⟩] := by
  cases kind with
  | inl flush => rw [callWrites, flush]
  | inr close => rw [callWrites, close]

theorem callWrites_none (kind : r.kind = .load ∨ r.kind = .other ∨ r.kind = .close false) :
    callWrites delay now r later = [] := by
  rcases kind with load | other | close
  · rw [callWrites, load]
  · rw [callWrites, other]
  · rw [callWrites, close]

end Call

/-- The writes of a run up to now. -/
def expectedWrites (delay now : τ) : List (CallRecord τ) → List (HistoryWrite τ)
  | [] => []
  | r :: later => callWrites delay now r later ++ expectedWrites delay now later

/-- The time for which a write is pending after a call. -/
def dueAfter (delay : τ) (due : Option τ) (r : CallRecord τ) : Option τ :=
  match r.kind with
  | .change => some (r.time + delay)
  | .flush | .close _ => none
  | .load | .other => due

/-- Whether a write is pending now, after these calls. -/
def isWaiting (delay now : τ) (records : List (CallRecord τ)) : Bool :=
  (records.foldl (dueAfter delay) none).any fun due => decide (now < due)

theorem isWaiting_of_same {delay now : τ} {first second : Option τ}
    (same : first.any (now < ·) = second.any (now < ·)) (records : List (CallRecord τ)) :
    (records.foldl (dueAfter delay) first).any (now < ·) =
      (records.foldl (dueAfter delay) second).any (now < ·) := by
  induction records generalizing first second with
  | nil => exact same
  | cons r later ih =>
    apply ih
    cases kind : r.kind <;> simp only [dueAfter, kind]
    all_goals exact same

/-- The write that is pending, if it comes to it. -/
def pendingWrites (now : τ) (s : HistorySession τ) (records : List (CallRecord τ)) :
    List (HistoryWrite τ) :=
  s.store.pending.toList.flatMap fun alarm => waitWrites now alarm.due s.store.history records

/-- The backend after some writes. -/
def keepAll (key : String) (b : Backend) (writes : List (HistoryWrite τ)) : Backend :=
  writes.foldl (fun b w => b.keep key w.history) b

omit [LinearOrder τ] [Add τ] in
theorem writes_keepAll (key : String) (b : Backend) (writes : List (HistoryWrite τ)) :
    (keepAll key b writes).writes =
      b.writes + (writes.filter (·.history.text.isOk)).length := by
  induction writes generalizing b with
  | nil => rfl
  | cons w rest ih =>
    have first : (b.keep key w.history).writes =
        b.writes + ([w].filter (·.history.text.isOk)).length := by
      cases made : w.history.text <;> simp [Backend.keep, made, Except.isOk, Except.toBool]
    rw [← List.singleton_append, List.filter_append, List.length_append, ← Nat.add_assoc, ← first]
    exact ih _

section Pending

variable {s : HistorySession τ}

omit [Add τ]

theorem pendingWrites_none (idle : s.store.pending = none) (now : τ)
    (records : List (CallRecord τ)) : pendingWrites now s records = [] := by
  rw [pendingWrites, idle]
  rfl

theorem pendingWrites_some {alarm : Alarm τ} (waits : s.store.pending = some alarm) (now : τ)
    (records : List (CallRecord τ)) :
    pendingWrites now s records = waitWrites now alarm.due s.store.history records := by
  rw [pendingWrites, waits]
  exact List.append_nil _

variable [Zero τ]

theorem pendingWrites_nil (punctual : s.IsPunctual) : pendingWrites s.now s [] = [] := by
  cases waits : s.store.pending with
  | none => exact pendingWrites_none waits _ _
  | some alarm =>
    rw [pendingWrites_some waits]
    exact waitWrites_early (punctual.ahead alarm waits)

variable [Timeline τ]

/-- A call that ends the wait leaves nothing of a write that was pending. -/
theorem pendingWrites_ended (punctual : s.IsPunctual) {call : HistoryCall}
    (ends : (s.kindOf call).endsWait = true) (now : τ) (later : List (CallRecord τ)) :
    pendingWrites now s (s.record call :: later) = [] := by
  cases waits : s.store.pending with
  | none => exact pendingWrites_none waits _ _
  | some alarm =>
    rw [pendingWrites_some waits]
    exact waitWrites_ended (punctual.ahead alarm waits) ends

theorem pendingWrites_cons (punctual : s.IsPunctual) {call : HistoryCall}
    (goes_on : (s.kindOf call).endsWait = false) {after : HistorySession τ}
    (held : after.store.history =
      if s.kindOf call == .load then (s.record call).history else s.store.history)
    (same : after.store.pending = s.store.pending) (now : τ) (later : List (CallRecord τ)) :
    pendingWrites now s (s.record call :: later) = pendingWrites now after later := by
  cases waits : s.store.pending with
  | none => rw [pendingWrites_none waits, pendingWrites_none (same.trans waits)]
  | some alarm =>
    rw [pendingWrites_some waits, pendingWrites_some (same.trans waits), held]
    exact waitWrites_cons (punctual.ahead alarm waits) goes_on

end Pending

end HistorySession

namespace HistorySession

variable {τ : Type} [Timeline τ] [AddCommMonoid τ] [LinearOrder τ] {s after : HistorySession τ}

namespace Effect

/-- What a call writes at once and what it leaves to be written are its own writes, and those of a
write that was pending if the call does not end its wait. -/
theorem keepAll_call {call : HistoryCall} (effect : s.Effect (.call call) after)
    (punctual : s.IsPunctual) (held : (s.record call).history = after.store.history) (now : τ)
    (later : List (CallRecord τ)) (others : List (HistoryWrite τ)) :
    keepAll s.config.historyKey after.backend (pendingWrites now after later ++ others) =
      keepAll s.config.historyKey s.backend (pendingWrites now s (s.record call :: later) ++
        (callWrites s.config.debounce now (s.record call) later ++ others)) := by
  cases effect with
  | change kind due =>
    rw [pendingWrites_ended punctual (by rw [kind]; rfl), callWrites_change kind,
      pendingWrites_some rfl, due, held]
    rfl
  | load =>
    have goes_on : (s.kindOf .load).endsWait = false := rfl
    rw [pendingWrites_cons punctual goes_on held.symm rfl, callWrites_none (.inl rfl)]
    rfl
  | write kind =>
    have ends : (s.kindOf call).endsWait = true := by
      rcases kind with flush | close
      · rw [flush, CallKind.endsWait]
      · rw [close, CallKind.endsWait]
    rw [pendingWrites_ended punctual ends, callWrites_write kind, held, pendingWrites_none rfl]
    rfl
  | other kind =>
    have same : pendingWrites now s (s.record call :: later) = pendingWrites now s later := by
      cases kind with
      | inl other =>
        have goes_on : (s.kindOf call).endsWait = false := by rw [other, CallKind.endsWait]
        refine pendingWrites_cons punctual goes_on ?_ rfl now later
        rw [other, if_neg (by decide)]
      | inr close =>
        rw [pendingWrites_none (idle_of_kindOf close), pendingWrites_none (idle_of_kindOf close)]
    rw [callWrites_none (.inr kind), same]
    rfl

/-- Time that passes writes what was pending if its time comes, which is before all later calls. -/
theorem keepAll_advance {delay now : τ} (effect : s.Effect (.advance delay) after)
    {later : List (CallRecord τ)} (final : after.now ≤ now)
    (times : ∀ r ∈ later, after.now ≤ r.time) (others : List (HistoryWrite τ)) :
    keepAll s.config.historyKey after.backend (pendingWrites now after later ++ others) =
      keepAll s.config.historyKey s.backend (pendingWrites now s later ++ others) := by
  cases effect with
  | pass ahead => rfl
  | come waits due =>
    rw [pendingWrites_none rfl, pendingWrites_some waits,
      waitWrites_due (due.trans final) fun r hr => due.trans (times r hr)]
    rfl

theorem keepAll_read {key : String} (effect : s.Effect (.read key) after) (now : τ)
    (later : List (CallRecord τ)) (others : List (HistoryWrite τ)) :
    keepAll s.config.historyKey after.backend (pendingWrites now after later ++ others) =
      keepAll s.config.historyKey s.backend (pendingWrites now s later ++ others) := by
  cases effect with
  | read => rfl

/-- What is pending after a call is what its kind says. -/
theorem waits_call {call : HistoryCall} (effect : s.Effect (.call call) after) (now : τ)
    (later : List (CallRecord τ)) :
    (later.foldl (dueAfter s.config.debounce) (after.store.pending.map Alarm.due)).any (now < ·) =
      ((s.record call :: later).foldl (dueAfter s.config.debounce)
        (s.store.pending.map Alarm.due)).any (now < ·) := by
  have same : after.store.pending.map Alarm.due =
      dueAfter s.config.debounce (s.store.pending.map Alarm.due) (s.record call) := by
    cases effect with
    | change kind due => simp only [dueAfter, record, kind, Option.map_some, due]
    | load => rfl
    | write kind =>
      rcases kind with flush | close
      · simp only [dueAfter, record, flush, Option.map_none]
      · simp only [dueAfter, record, close, Option.map_none]
    | other kind =>
      rcases kind with other | close
      · simp only [dueAfter, record, other]
      · simp only [dueAfter, record, close, idle_of_kindOf close, Option.map_none]
  rw [List.foldl_cons, same]

theorem waits_advance {delay now : τ} (effect : s.Effect (.advance delay) after)
    (final : after.now ≤ now) (later : List (CallRecord τ)) :
    (later.foldl (dueAfter s.config.debounce) (after.store.pending.map Alarm.due)).any (now < ·) =
      (later.foldl (dueAfter s.config.debounce) (s.store.pending.map Alarm.due)).any
        (now < ·) := by
  cases effect with
  | pass ahead => rfl
  | come waits due =>
    apply isWaiting_of_same
    rw [waits]
    simpa using due.trans final

theorem waits_read {key : String} (effect : s.Effect (.read key) after) (now : τ)
    (later : List (CallRecord τ)) :
    (later.foldl (dueAfter s.config.debounce) (after.store.pending.map Alarm.due)).any (now < ·) =
      (later.foldl (dueAfter s.config.debounce) (s.store.pending.map Alarm.due)).any
        (now < ·) := by
  cases effect with
  | read => rfl

end Effect

variable [Timeline.IsExact τ] [IsOrderedCancelAddMonoid τ]

theorem backend_run (punctual : s.IsPunctual) {events : List (HistoryEvent τ)}
    (timely : ∀ e ∈ events, e.IsTimely) :
    (s.run events).backend = keepAll s.config.historyKey s.backend
      (pendingWrites (s.run events).now s (s.records events) ++
        expectedWrites s.config.debounce (s.run events).now (s.records events)) := by
  refine run_induction (motive := fun s events =>
    (s.run events).backend = keepAll s.config.historyKey s.backend
      (pendingWrites (s.run events).now s (s.records events) ++
        expectedWrites s.config.debounce (s.run events).now (s.records events))) ?_ ?_ punctual
    timely
  · intro s punctual
    show s.backend = keepAll _ _ (pendingWrites s.now s [] ++ [])
    rw [pendingWrites_nil punctual]
    rfl
  · intro s event rest punctual first others effect next ih
    rw [effect.config_eq] at ih
    refine Eq.trans ih ?_
    cases event with
    | advance delay =>
      exact effect.keepAll_advance (now_le_run next others) (le_time_of_mem_records next others) _
    | read key => exact effect.keepAll_read _ _ _
    | call call => exact effect.keepAll_call punctual rfl _ _ _
    | reopen => exact absurd first id
    | write key value => exact absurd first id

theorem isSome_pending_run (punctual : s.IsPunctual) {events : List (HistoryEvent τ)}
    (timely : ∀ e ∈ events, e.IsTimely) :
    (s.run events).store.pending.isSome =
      ((s.records events).foldl (dueAfter s.config.debounce) (s.store.pending.map Alarm.due)).any
        ((s.run events).now < ·) := by
  refine run_induction (motive := fun s events => (s.run events).store.pending.isSome =
    ((s.records events).foldl (dueAfter s.config.debounce) (s.store.pending.map Alarm.due)).any
      ((s.run events).now < ·)) ?_ ?_ punctual timely
  · intro s punctual
    show s.store.pending.isSome = (s.store.pending.map Alarm.due).any (s.now < ·)
    cases waits : s.store.pending with
    | none => rfl
    | some alarm => simpa using punctual.ahead alarm waits
  · intro s event rest punctual first others effect next ih
    rw [effect.config_eq] at ih
    refine Eq.trans ih ?_
    cases event with
    | advance delay => exact effect.waits_advance (now_le_run next others) _
    | read key => exact effect.waits_read _ _
    | call call => exact effect.waits_call _ _
    | reopen => exact absurd first id
    | write key value => exact absurd first id

/-- Whatever calls are made and however time passes between them, the backend is as the writes that
are due by then have left it, and a write is pending just when a change still waits. A write whose
history has no text leaves nothing. -/
theorem writes_run (config : StoreConfig τ) (positive : 0 < config.debounce) (backend : Backend)
    (working : backend.health = .working) (now : τ) (today : String)
    (events : List (HistoryEvent τ)) (timely : ∀ e ∈ events, e.IsTimely) :
    let start : HistorySession τ := { config, backend, now, today }
    let s := start.run events
    let writes := expectedWrites config.debounce s.now (start.records events)
    s.backend = keepAll config.historyKey backend writes ∧
    s.backend.writes = backend.writes + (writes.filter (·.history.text.isOk)).length ∧
    s.store.pending.isSome = isWaiting config.debounce s.now (start.records events) := by
  intro start s writes
  have punctual : start.IsPunctual := ⟨rfl, working, positive, nofun⟩
  have kept : s.backend = keepAll config.historyKey backend writes := by
    have nothing : pendingWrites s.now start (start.records events) = [] :=
      pendingWrites_none rfl _ _
    have all := backend_run punctual timely
    rw [nothing, List.nil_append] at all
    exact all
  refine ⟨kept, ?_, isSome_pending_run punctual timely⟩
  rw [kept, writes_keepAll]

/-- A burst of changes, a load, a change that is flushed, and one that is closed when it is due. -/
theorem writes_run_burst :
    let config : StoreConfig Int := { debounce := 5 }
    let events : List (HistoryEvent Int) := [.call (.addRecent (.str "a")), .advance 4,
      .call (.addRecent (.str "b")), .advance 5, .call .load, .call .clearAll, .advance 1,
      .call .flush, .call (.countUsage (.str "tag")), .advance 5, .call .close]
    let start : HistorySession Int := { config, backend := {}, now := 0, today := "2024-01-01" }
    let s := start.run events
    let writes := expectedWrites config.debounce s.now (start.records events)
    s.backend = keepAll config.historyKey {} writes ∧
    s.backend.writes = 0 + (writes.filter (·.history.text.isOk)).length ∧
    s.store.pending.isSome = isWaiting config.debounce s.now (start.records events) := by
  intro config events
  apply writes_run config (by decide) {} rfl 0 "2024-01-01" events
  simp [events, HistoryEvent.IsTimely]

example :
    let start : HistorySession Int :=
      { config := { debounce := 5 }, backend := {}, now := 0, today := "2024-01-01" }
    let events : List (HistoryEvent Int) := [.call (.addRecent (.str "a")), .advance 4,
      .call (.addRecent (.str "b")), .advance 6, .call .close, .call .clearAll, .call .close]
    (expectedWrites 5 10 (start.records events)).map (·.time) = [9, 10] := by
  decide +kernel

/-- A counter that is no number raises instead of being counted, and filters that are nested as deep
as can be written make a history that is too deep: neither is written. -/
theorem not_written_run :
    let config : StoreConfig Int := { debounce := 1 }
    let text := "\x7b\"filterUsageStats\": \x7b\"tag\": \"x\"\x7d\x7d"
    let stored : Backend := { entries := [(config.historyKey, text)] }
    let counting : HistorySession Int := { config, backend := stored, now := 0, today := "" }
    let filters : Json.Fields := [("tags", Json.nested 978)]
    let saving : HistorySession Int := { config, backend := {}, now := 0, today := "" }
    (counting.run [.call .load, .call (.countUsage (.str "tag")), .advance 1]).backend = stored ∧
    (Json.obj filters).encode.isOk = true ∧
    (saving.run [.call (.savePreset (.str "deep") (.str "") (.value (.obj filters))),
      .advance 1]).backend = {} := by
  decide +kernel

end HistorySession

end Bookmarks
