import Bookmarks.Proofs.Distinct
import Bookmarks.Proofs.History.Reply
import Bookmarks.Proofs.History.Sound

/-! The history that calls leave, told from the calls alone. A store keeps no more than there is
room for after each call; what it has in the end is nevertheless the beginning of what a store
without bounds would have: the latest searches, the latest preset of each name with its uses, and
how often each kind of filter was used. -/

namespace Bookmarks

/-- What a call did to a history, by its own account. -/
inductive HistoryNote where
  | searched (term : String)
  | clearedRecent
  | clearedAll
  | saved (preset : Preset)
  | deleted
  | used (id : String)
  | counted (kind : String)

namespace HistoryNote

/-- What a call did, told by its arguments and its answer. -/
def ofCall? (today : String) : HistoryCall → Except Fault Json → Option HistoryNote
  | .addRecent term, _ => match History.trimmed term with
    | .ok term => if term = "" then none else some (.searched term)
    | .error _ => none
  | .clearRecent, _ => some .clearedRecent
  | .clearAll, _ => some .clearedAll
  | .savePreset name description filters, .ok (.str id) =>
    match HistorySession.nameOf name, filters.fields, History.trimmed description with
    | .ok name, .ok fields, .ok description => some (.saved {
        id, name, description, filters := Preset.carried fields, createdAt := today })
    | _, _, _ => none
  | .deletePreset _, .ok (.bool true) => some .deleted
  | .countPreset id, .ok (.bool true) => id.text?.map .used
  | .countUsage (.str kind), _ => some (.counted kind)
  | _, _ => none

/-- The searches since searches were cleared, in notes that begin with the latest. -/
def searches : List HistoryNote → List String
  | [] => []
  | .searched term :: rest => term :: searches rest
  | .clearedRecent :: _ | .clearedAll :: _ => []
  | _ :: rest => searches rest

/-- The notes since all was cleared. -/
def sinceClear : List HistoryNote → List HistoryNote
  | [] | .clearedAll :: _ => []
  | note :: rest => note :: sinceClear rest

def saved? : HistoryNote → Option Preset
  | .saved preset => some preset
  | _ => none

/-- The presets that were saved since all was cleared. -/
def saves (notes : List HistoryNote) : List Preset := (sinceClear notes).filterMap saved?

def isUse (id : String) : HistoryNote → Bool
  | .used other => other == id
  | _ => false

/-- How often the preset with an id was used. -/
def uses (notes : List HistoryNote) (id : String) : Nat := notes.countP (isUse id)

def isCount (kind : String) : HistoryNote → Bool
  | .counted other => other == kind
  | _ => false

/-- How often a kind of filter was used since all was cleared. -/
def counts (notes : List HistoryNote) (kind : String) : Nat :=
  (sinceClear notes).countP (isCount kind)

variable (notes : List HistoryNote)

theorem uses_used (id other : String) :
    uses (.used id :: notes) other = uses notes other + if id = other then 1 else 0 := by
  rw [uses, List.countP_cons]
  simp only [isUse, beq_iff_eq]
  rfl

theorem counts_counted (kind other : String) :
    counts (.counted kind :: notes) other = counts notes other + if kind = other then 1 else 0 := by
  show (counted kind :: sinceClear notes).countP (isCount other) = _
  rw [List.countP_cons]
  simp only [isCount, beq_iff_eq]
  rfl

/-- What an event did, which is nothing but for calls. -/
def ofEvent? {τ : Type} (today : String) (event : HistoryEvent τ) (answer : Except Fault Json) :
    Option HistoryNote :=
  match event with
  | .call call => ofCall? today call answer
  | _ => none

end HistoryNote

/-- The preset as it was saved. -/
def Preset.unused (p : Preset) : Preset := { p with usageCount := 0 }

theorem map_upTo {α β : Type} (f : α → β) (room : Int) (xs : List α) :
    (upTo room xs).map f = upTo room (xs.map f) := by
  unfold upTo
  rw [List.length_map]
  split <;> rw [List.map_take]

namespace History

open HistoryNote

theorem isIdOf_iff {id : Json} {p : Preset} : isIdOf id p = true ↔ id.text? = some p.id :=
  beq_iff_eq

/-- When ids are distinct, the first preset with an id is the only one. -/
theorem countFirst_eq_map {presets : List Preset} (distinct : (presets.map (·.id)).Nodup)
    (id : Json) : countFirst (isIdOf id) presets = presets.map fun p =>
      if isIdOf id p then { p with usageCount := p.usageCount + 1 } else p := by
  induction presets with
  | nil => rfl
  | cons p rest ih =>
    rw [List.map_cons, List.nodup_cons] at distinct
    rw [countFirst, List.map_cons]
    cases found : isIdOf id p with
    | false => rw [if_neg (by decide), if_neg (by decide), ih distinct.2]
    | true =>
      rw [if_pos rfl, if_pos rfl]
      have others : ∀ q ∈ rest, q = if isIdOf id q then
          { q with usageCount := q.usageCount + 1 } else q := by
        intro q hq
        rw [if_neg]
        intro again
        rw [isIdOf_iff] at found again
        rw [found] at again
        exact distinct.1 (Option.some.inj again ▸ List.mem_map_of_mem hq)
      rw [← List.map_congr_left others, List.map_id']

variable {τ : Type}

/-- Whether a history is what is left of notes when there is room for no more than a configuration
says. -/
structure Reflects (config : StoreConfig τ) (notes : List HistoryNote) (h : History) : Prop where
  recent : h.recent = (searches notes).eraseDups.take config.maxRecent.toNat
  /-- Unless one was deleted, the presets are those that were saved last under each name. -/
  presets : .deleted ∉ sinceClear notes → h.presets.map Preset.unused =
    (distinctBy (·.name) (saves notes)).take config.maxPresets.toNat
  latest : ∀ p ∈ h.presets, (saves notes).find? (·.name == p.name) = some p.unused
  used : ∀ p ∈ h.presets, p.usageCount = uses notes p.id
  usage : ∃ counters, h.usage = counted counters ∧ (counters.map Prod.fst).Nodup ∧
    ∀ kind, counters.lookup kind =
      if counts notes kind = 0 then none else some (counts notes kind : Int)

namespace Reflects

variable {config : StoreConfig τ} {notes : List HistoryNote} {h : History}

theorem empty (no_searches : searches notes = []) (cleared : sinceClear notes = []) :
    Reflects config notes {} where
  recent := by
    rw [no_searches]
    exact List.take_nil.symm
  presets _ := by
    rw [saves, cleared]
    exact List.take_nil.symm
  latest _ hp := absurd hp List.not_mem_nil
  used _ hp := absurd hp List.not_mem_nil
  usage := by
    refine ⟨[], rfl, List.nodup_nil, fun kind => ?_⟩
    rw [counts, cleared]
    rfl

variable (reflects : h.Reflects config notes)

include reflects

theorem clearRecent : h.clearRecent.Reflects config (.clearedRecent :: notes) where
  recent := List.take_nil.symm
  presets kept := reflects.presets (List.not_mem_of_not_mem_cons kept)
  latest := reflects.latest
  used := reflects.used
  usage := reflects.usage

theorem search (term : String) :
    Reflects config (.searched term :: notes) { h with
      recent := upTo config.maxRecent (term :: h.recent.filter (· != term)) } where
  recent := by
    rw [reflects.recent]
    exact upTo_cons_filter config.maxRecent term (searches notes)
  presets kept := reflects.presets (List.not_mem_of_not_mem_cons kept)
  latest := reflects.latest
  used := reflects.used
  usage := reflects.usage

theorem save {p : Preset} (unused : p.unused = p) (new : uses notes p.id = 0) :
    (h.putPreset config.maxPresets p).Reflects config (.saved p :: notes) where
  recent := reflects.recent
  presets kept := by
    -- compared as they were saved, presets do not differ by the uses counted since
    have before := reflects.presets (List.not_mem_of_not_mem_cons kept)
    have others : (h.presets.filter (·.name != p.name)).map Preset.unused =
        (h.presets.map Preset.unused).filter (·.name != p.name) := by
      rw [List.filter_map]
      rfl
    show (upTo config.maxPresets (p :: h.presets.filter (·.name != p.name))).map Preset.unused = _
    rw [map_upTo, List.map_cons, unused, others, before]
    exact upTo_cons_filter config.maxPresets p (saves notes)
  latest q hq := by
    show (p :: saves notes).find? (·.name == q.name) = some q.unused
    rw [List.find?_cons]
    cases mem_putPreset hq with
    | inl same => rw [same, beq_self_eq_true, unused]
    | inr kept =>
      have other : (p.name == q.name) = false := beq_eq_false_iff_ne.2 (Ne.symm kept.2)
      rw [other]
      exact reflects.latest q kept.1
  used q hq := by
    cases mem_putPreset hq with
    | inl same =>
      rw [same, ← unused]
      exact new.symm
    | inr kept => exact reflects.used q kept.1
  usage := reflects.usage

theorem delete (test : Preset → Bool) :
    Reflects config (.deleted :: notes) { h with presets := h.presets.filter test } where
  recent := reflects.recent
  presets kept := absurd List.mem_cons_self kept
  latest p hp := reflects.latest p (List.mem_filter.1 hp).1
  used p hp := reflects.used p (List.mem_filter.1 hp).1
  usage := reflects.usage

theorem use {id : Json} {text : String} (is_text : id.text? = some text)
    (distinct : (h.presets.map (·.id)).Nodup) :
    Reflects config (.used text :: notes) { h with
      presets := countFirst (isIdOf id) h.presets } where
  recent := reflects.recent
  presets kept := by
    have same : (countFirst (isIdOf id) h.presets).map Preset.unused =
        h.presets.map Preset.unused := map_countFirst _ (fun _ _ => rfl) _ _
    exact same.trans (reflects.presets (List.not_mem_of_not_mem_cons kept))
  latest p hp := by
    have ⟨q, member, same⟩ := mem_countFirst hp
    have found := reflects.latest q member
    cases same with
    | inl same => exact same ▸ found
    | inr same => rw [same]; exact found
  used p hp := by
    rw [countFirst_eq_map distinct] at hp
    have ⟨q, member, same⟩ := List.mem_map.1 hp
    have before := reflects.used q member
    have its_id : isIdOf id q = (text == q.id) := by rw [isIdOf, is_text]; rfl
    rw [its_id] at same
    rw [uses_used]
    by_cases own : text = q.id
    · rw [if_pos (beq_iff_eq.2 own)] at same
      subst same
      rw [if_pos own, ← before]
    · rw [if_neg (mt beq_iff_eq.1 own)] at same
      subst same
      rw [if_neg own, Nat.add_zero, ← before]
  usage := reflects.usage

theorem count {counters : Entries String Int} (kind : String)
    (usage : h.usage = counted counters) : Reflects config (.counted kind :: notes) { h with
      usage := History.counted (counters.put kind ((counters.lookup kind).getD 0 + 1)) } where
  recent := reflects.recent
  presets kept := reflects.presets (List.not_mem_of_not_mem_cons kept)
  latest := reflects.latest
  used := reflects.used
  usage := by
    have ⟨others, same, distinct, found⟩ := reflects.usage
    obtain rfl := counted_inj (usage.symm.trans same)
    refine ⟨_, rfl, Entries.nodup_put distinct _ _, ?_⟩
    intro other
    rw [counts_counted]
    by_cases own : kind = other
    · subst own
      rw [Entries.lookup_put_self, found, if_pos rfl]
      split
      · next none_yet => simp [none_yet]
      · simp
    · rw [Entries.lookup_put_of_ne _ _ (Ne.symm own), found, if_neg own, Nat.add_zero]

/-- Counters that are numbers can be raised. -/
theorem not_isRefused (kind : String) : ¬(HistoryCall.countUsage (.str kind)).IsRefused h := by
  have ⟨counters, usage, _⟩ := reflects.usage
  have ⟨plain, number⟩ := exists_countUsage_iff.1 ⟨_, countUsage_counted usage kind⟩
  rintro (not_plain | no_number)
  · cases not_plain
  · rw [no_number] at number
    cases number

end Reflects

end History

/-- What was refused did nothing; that a kind of filter was used counts in any case. -/
theorem HistoryNote.ofCall?_error {call : HistoryCall} {h : History} (cause : call.IsRefused h)
    (uncounted : ∀ kind, call ≠ .countUsage (.str kind)) (today : String) (fault : Fault) :
    ofCall? today call (.error fault) = none := by
  cases call with
  | addRecent term =>
    cases trimmed : History.trimmed term with
    | ok text => exact absurd (History.exists_trimmed_iff.1 ⟨text, trimmed⟩) cause
    | error fault => simp only [ofCall?, trimmed]
  | savePreset name description filters => rfl
  | countUsage kind =>
    cases kind with
    | str kind => exact absurd rfl (uncounted kind)
    | _ => rfl
  | _ => exact absurd cause id

/-- Whether an event leaves the store in place and loads nothing, and names a kind that it counts
by a text. -/
def HistoryEvent.IsTracked {τ : Type} : HistoryEvent τ → Prop
  | .call .load | .reopen => False
  | .call (.countUsage kind) => ∃ name, kind = .str name
  | _ => True

namespace HistorySession

variable {τ : Type}

/-- What some events did, the latest first. -/
def notesOf [Timeline τ] (s : HistorySession τ) : List (HistoryEvent τ) → List HistoryNote
  | [] => []
  | event :: rest => notesOf (s.step event).1 rest ++
    (HistoryNote.ofEvent? s.today event (s.step event).2).toList

/-- Whether the history of a store reflects notes, and no id that is still to be given out has been
used. -/
structure IsTraced (config : StoreConfig τ) (today : String) (notes : List HistoryNote)
    (s : HistorySession τ) : Prop where
  config_eq : s.config = config
  today_eq : s.today = today
  numbered : History.IsNumbered s.idCount s.store.history.presets
  unused : ∀ n, s.idCount < n → HistoryNote.uses notes (idOf n) = 0
  reflects : s.store.history.Reflects config notes

variable {config : StoreConfig τ} {today : String} {notes : List HistoryNote}
  {s : HistorySession τ}

namespace IsTraced

variable (traced : s.IsTraced config today notes)

include traced

theorem mono {ids : Nat} (more : s.idCount ≤ ids) :
    { s with idCount := ids }.IsTraced config today notes where
  config_eq := traced.config_eq
  today_eq := traced.today_eq
  numbered := traced.numbered.mono more
  unused n later := traced.unused n (Nat.lt_of_le_of_lt more later)
  reflects := traced.reflects

/-- The id of a preset that is there was given out before. -/
theorem unused_used {p : Preset} (member : p ∈ s.store.history.presets) (n : Nat)
    (later : s.idCount < n) : HistoryNote.uses (.used p.id :: notes) (idOf n) = 0 := by
  have ⟨m, before, same⟩ := traced.numbered.given p member
  have other : p.id ≠ idOf n := by
    rw [same]
    intro same_id
    have := idOf_inj same_id
    omega
  rw [HistoryNote.uses_used, if_neg other, traced.unused n later]

theorem flush : s.flush.IsTraced config today notes := by
  have ⟨_, _, _, same⟩ := s.flush_frame
  rw [same]
  exact ⟨traced.config_eq, traced.today_eq, traced.numbered, traced.unused, traced.reflects⟩

theorem close : s.close.IsTraced config today notes := by
  have ⟨_, _, _, same⟩ := s.close_frame
  rw [same]
  exact ⟨traced.config_eq, traced.today_eq, traced.numbered, traced.unused, traced.reflects⟩

variable [Timeline τ]

theorem settle : s.settle.IsTraced config today notes := by
  have ⟨_, _, _, _, same⟩ := s.settle_frame
  rw [same]
  split <;>
    exact ⟨traced.config_eq, traced.today_eq, traced.numbered, traced.unused, traced.reflects⟩

/-- A change, after which ids may have been given out and a use been counted. -/
theorem change {ids : Nat} {h : History} {later : List HistoryNote}
    (numbered : History.IsNumbered ids h.presets)
    (unused : ∀ n, ids < n → HistoryNote.uses later (idOf n) = 0)
    (reflects : h.Reflects config later) :
    ({ s with idCount := ids }.change h).IsTraced config today later := by
  have ⟨alarm, agenda, _, changed⟩ := { s with idCount := ids }.change_cases h
  rw [changed]
  exact ⟨traced.config_eq, traced.today_eq, numbered, unused, reflects⟩

theorem perform {call : HistoryCall} (tracked : (HistoryEvent.call (τ := τ) call).IsTracked) :
    (s.perform call).1.IsTraced config today
      ((HistoryNote.ofCall? today call (s.perform call).2).toList ++ notes) := by
  have unread : call ≠ .load := by
    rintro rfl
    exact tracked
  have reply := s.reply_perform unread
  obtain rfl := traced.config_eq
  obtain rfl := traced.today_eq
  have reflects := traced.reflects
  generalize (s.perform call).1 = after, (s.perform call).2 = answer at reply
  cases reply with
  | flush => exact traced.flush
  | close => exact traced.close
  | preset => exact traced
  | refused more cause =>
    have uncounted : ∀ kind, call ≠ .countUsage (.str kind) := by
      rintro kind rfl
      exact traced.reflects.not_isRefused kind cause
    rw [HistoryNote.ofCall?_error cause uncounted]
    exact traced.mono more
  | blank trimmed =>
    simp only [HistoryNote.ofCall?, trimmed]
    exact traced
  | search trimmed some_char =>
    simp only [HistoryNote.ofCall?, trimmed, if_neg some_char]
    exact traced.change traced.numbered traced.unused (reflects.search _)
  | clearRecent => exact traced.change traced.numbered traced.unused reflects.clearRecent
  | clearAll =>
    have none_left : History.IsNumbered s.idCount [] :=
      ⟨List.nodup_nil, fun p hp => absurd hp List.not_mem_nil⟩
    exact traced.change none_left traced.unused (.empty rfl rfl)
  | save named given described =>
    simp only [HistoryNote.ofCall?, named, given, described]
    have new := traced.unused _ (Nat.lt_succ_self s.idCount)
    exact traced.change (traced.numbered.putPreset rfl _)
      (fun n later => traced.unused n (Nat.lt_of_succ_lt later)) (reflects.save rfl new)
  | delete found =>
    exact traced.change (traced.numbered.sublist List.filter_sublist) traced.unused
      (reflects.delete _)
  | count found =>
    have ⟨p, member, its_id⟩ := List.any_eq_true.1 found
    rw [History.isIdOf_iff] at its_id
    simp only [HistoryNote.ofCall?, its_id]
    exact traced.change (traced.numbered.countFirst _) (traced.unused_used member)
      (reflects.use its_id traced.numbered.nodup)
  | absent kind none_found =>
    rcases kind with rfl | rfl <;> exact traced
  | usage counted =>
    obtain ⟨name, rfl⟩ := tracked
    have ⟨counters, usage, _⟩ := reflects.usage
    rw [History.countUsage_counted usage] at counted
    cases counted
    exact traced.change traced.numbered traced.unused (reflects.count name usage)

theorem happen {event : HistoryEvent τ} (tracked : event.IsTracked) :
    (s.happen event).1.IsTraced config today
      ((HistoryNote.ofEvent? today event (s.happen event).2).toList ++ notes) := by
  cases event with
  | call call => exact traced.perform tracked
  | advance delay =>
    exact ⟨traced.config_eq, traced.today_eq, traced.numbered, traced.unused, traced.reflects⟩
  | reopen => exact absurd tracked id
  | write key value =>
    simp only [HistorySession.happen]
    split
    · exact ⟨traced.config_eq, traced.today_eq, traced.numbered, traced.unused, traced.reflects⟩
    · exact traced
  | read key => exact traced

end IsTraced

variable [Timeline τ]

theorem IsTraced.run (traced : s.IsTraced config today notes) {events : List (HistoryEvent τ)}
    (tracked : ∀ e ∈ events, e.IsTracked) :
    (s.run events).IsTraced config today (s.notesOf events ++ notes) := by
  induction events generalizing s notes with
  | nil => exact traced
  | cons event rest ih =>
    have ⟨first, others⟩ := List.forall_mem_cons.1 tracked
    have stepped := (traced.happen first).settle
    rw [notesOf, List.append_assoc, traced.today_eq]
    exact ih stepped others

/-- After any run of one store that loads nothing, the history is what is left of all that was done
to it when there is room for no more than the configuration says. -/
theorem reflects_run (config : StoreConfig τ) (backend : Backend) (now : τ) (today : String)
    {events : List (HistoryEvent τ)} (tracked : ∀ e ∈ events, e.IsTracked) :
    let start : HistorySession τ := { config, backend, now, today }
    (start.run events).store.history.Reflects config (start.notesOf events) := by
  intro start
  have fresh : start.IsTraced config today [] :=
    ⟨rfl, rfl, ⟨List.nodup_nil, fun p hp => absurd hp List.not_mem_nil⟩, fun _ _ => rfl,
      .empty rfl rfl⟩
  have traced := fresh.run tracked
  rw [List.append_nil] at traced
  exact traced.reflects

/-- A search that comes back after it was pushed out, and a preset that is used, saved again under
its name, used and pushed out by another. -/
theorem reflects_run_evicted :
    let config : StoreConfig Int := { debounce := 5, maxRecent := 2, maxPresets := 1 }
    let save (name : String) : HistoryEvent Int := .call (.savePreset (.str name) (.str "")
      (.value (.obj [("tags", .arr [.str "x"])])))
    let use (n : Nat) : HistoryEvent Int := .call (.countPreset (.str (idOf n)))
    let events : List (HistoryEvent Int) := [.call (.addRecent (.str "a")),
      .call (.addRecent (.str "b ")), .call (.addRecent (.str " ")), .call (.addRecent (.str "c")),
      .call (.addRecent (.str " a")), save "p", use 1, save " p", use 2, use 1, use 2, save "q",
      use 3, .advance 5, .call (.countUsage (.str "tag")), .call (.countUsage (.str "tag"))]
    let start : HistorySession Int := { config, backend := {}, now := 0, today := "2024-01-01" }
    HistoryNote.searches (start.notesOf events) = ["a", "c", "b", "a"] ∧
    (HistoryNote.saves (start.notesOf events)).map (·.name) = ["q", "p", "p"] ∧
    (start.run events).store.history.recent = ["a", "c"] ∧
    (start.run events).store.history.Reflects config (start.notesOf events) := by
  intro config save use events start
  have tracked : ∀ e ∈ events, e.IsTracked := by
    simp [events, save, use, HistoryEvent.IsTracked]
  refine ⟨by decide +kernel, by decide +kernel, by decide +kernel, ?_⟩
  exact reflects_run config {} 0 "2024-01-01" tracked

end HistorySession

end Bookmarks
