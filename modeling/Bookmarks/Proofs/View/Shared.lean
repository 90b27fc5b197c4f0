import Bookmarks.Proofs.View.Save
import Bookmarks.Proofs.History.Delay

/-! Views and a history on one backend. Saved settings are loaded as they were saved, until the same
view is saved or cleared again: each view has a key of its own, and what a store of a history does
to the backend concerns the key of the history alone. -/

namespace Bookmarks

namespace Backend

variable {b after : Backend} {key other : String}

/-- Writing and deleting leave what lies under other keys. -/
theorem lookup_write {value : String} (wrote : b.write key value = .ok after) (h : other ≠ key) :
    after.health = b.health ∧ after.entries.lookup other = b.entries.lookup other := by
  unfold write at wrote
  split at wrote <;> cases wrote
  exact ⟨rfl, Entries.lookup_put_of_ne _ _ h⟩

theorem lookup_delete {found : Bool} (deleted : b.delete key = .ok (after, found))
    (h : other ≠ key) :
    after.health = b.health ∧ after.entries.lookup other = b.entries.lookup other := by
  unfold delete at deleted
  split at deleted <;> cases deleted
  exact ⟨rfl, Entries.lookup_erase_of_ne _ h⟩

end Backend

namespace HistorySession

variable {τ : Type}

/-- Whether two sessions of one configuration differ in the backend under other keys only. -/
structure SameAt (key : String) (s after : HistorySession τ) : Prop where
  config : after.config = s.config
  health : after.backend.health = s.backend.health
  lookup : after.backend.entries.lookup key = s.backend.entries.lookup key

namespace SameAt

variable {key : String} {s after last : HistorySession τ}

theorem refl (s : HistorySession τ) : SameAt key s s := ⟨rfl, rfl, rfl⟩

theorem trans (first : SameAt key s after) (second : SameAt key after last) :
    SameAt key s last where
  config := second.config.trans first.config
  health := second.health.trans first.health
  lookup := second.lookup.trans first.lookup

theorem write (other : key ≠ s.config.historyKey) (h : History) : SameAt key s (s.write h) := by
  cases s.write_cases h with
  | inl unsaved =>
    have ⟨notice, same, _⟩ := unsaved
    rw [same]
    exact ⟨rfl, rfl, rfl⟩
  | inr wrote =>
    have ⟨text, _, _, same⟩ := wrote
    rw [same]
    exact ⟨rfl, rfl, Entries.lookup_put_of_ne _ _ other⟩

theorem writes (other : key ≠ s.config.historyKey) (stores : List (HistoryStore τ)) :
    SameAt key s (stores.foldl (fun s store => s.write store.history) s) := by
  induction stores generalizing s with
  | nil => exact refl s
  | cons store rest ih =>
    have first := write other store.history
    refine first.trans (ih ?_)
    rw [first.config]
    exact other

theorem flush (other : key ≠ s.config.historyKey) : SameAt key s s.flush := by
  have ⟨agenda, _, called⟩ := s.callOff_cases
  rw [HistorySession.flush, called]
  have called_off : SameAt key s { s with store := { s.store with pending := none }, agenda } :=
    ⟨rfl, rfl, rfl⟩
  refine called_off.trans (write ?_ _)
  exact other

theorem load (s : HistorySession τ) : SameAt key s s.load := by
  have ⟨h, notices, loaded⟩ := s.load_cases
  rw [loaded]
  exact ⟨rfl, rfl, rfl⟩

variable [Timeline τ]

theorem perform (other : key ≠ s.config.historyKey) (call : HistoryCall) :
    SameAt key s (s.perform call).1 := by
  rcases s.kindOf_cases call with is_load | is_flush | is_close | ⟨_, ids, h, changed⟩ |
    ⟨_, ids, same⟩
  · rw [is_load]
    exact load s
  · rw [is_flush]
    exact flush other
  · rw [is_close]
    simp only [HistorySession.perform, HistorySession.close]
    split
    · exact flush other
    · exact refl s
  · obtain ⟨alarm, agenda, _, made⟩ := { s with idCount := ids }.change_due h
    rw [changed, made]
    exact ⟨rfl, rfl, rfl⟩
  · rw [same]
    exact ⟨rfl, rfl, rfl⟩

theorem settle (other : key ≠ s.config.historyKey) : SameAt key s s.settle := by
  have ⟨due, agenda, _, _, settled⟩ := s.settle_cases
  rw [settled]
  refine trans ?_ (writes ?_ due)
  · exact ⟨rfl, rfl, rfl⟩
  · exact other

end SameAt

end HistorySession

/-- Whether an event is none that writes to the backend past the store. -/
def HistoryEvent.IsByStore {τ : Type} : HistoryEvent τ → Prop
  | .write _ _ => False
  | _ => True

namespace HistorySession

variable {τ : Type} [Timeline τ]

/-- An event of the history leaves alone what lies under other keys. -/
theorem sameAt_step {s : HistorySession τ} {key : String} (other : key ≠ s.config.historyKey)
    {event : HistoryEvent τ} (byStore : event.IsByStore) : SameAt key s (s.step event).1 := by
  have happens : SameAt key s (s.happen event).1 := by
    cases event with
    | call call => exact .perform other call
    | write key value => exact absurd byStore id
    | _ => exact ⟨rfl, rfl, rfl⟩
  refine happens.trans (SameAt.settle ?_)
  rw [happens.config]
  exact other

end HistorySession

/-- What can happen to a backend that views share with a history. -/
inductive SharedEvent (τ : Type) where
  | save (view : String) (settings : ViewSettings)
  | clear (view : String)
  | history (event : HistoryEvent τ)

namespace SharedEvent

variable {τ : Type}

/-- What the latest save or clear of a view has left, after one more event. -/
def leaves (view : String) (left : Option (Option ViewSettings)) :
    SharedEvent τ → Option (Option ViewSettings)
  | save v settings => if v = view then some (some settings) else left
  | clear v => if v = view then some none else left
  | history _ => left

end SharedEvent

/-- Whether no view has the key of the history. -/
def StoreConfig.IsApart {τ : Type} (config : StoreConfig τ) : Prop :=
  ∀ view, config.keyStart ++ view ≠ config.historyKey

/-- Whether settings can be saved, and the history is kept apart from the views. -/
def SharedEvent.IsAllowed {τ : Type} (config : StoreConfig τ) : SharedEvent τ → Prop
  | .save _ settings => settings.IsStorable
  | .clear _ => True
  | .history event => config.IsApart ∧ event.IsByStore

namespace HistorySession

variable {τ : Type}

/-- The views on the backend of a session. -/
def views (s : HistorySession τ) : ViewStore := ⟨s.backend, s.config.keyStart⟩

variable [Timeline τ]

def share (s : HistorySession τ) : SharedEvent τ → HistorySession τ
  | .save view settings =>
    { s with backend := (s.views.save view (.ofSettings settings)).1.backend }
  | .clear view => { s with backend := (s.views.clear view).1.backend }
  | .history event => (s.step event).1

namespace SameAt

variable {s : HistorySession τ} {key view : String}

theorem save (other : key ≠ s.views.keyOf view) (settings : ViewSettings) :
    SameAt key s (s.share (.save view settings)) := by
  simp only [share, ViewStore.save]
  split
  · next backend written =>
    obtain ⟨text, _, wrote⟩ := exists_of_bind written
    obtain ⟨encoded, _, wrote⟩ := exists_of_bind wrote
    obtain ⟨health, lookup⟩ := Backend.lookup_write wrote other
    exact ⟨rfl, health, lookup⟩
  · exact refl s

theorem clear (other : key ≠ s.views.keyOf view) : SameAt key s (s.share (.clear view)) := by
  simp only [share, ViewStore.clear]
  split
  · next deleted =>
    obtain ⟨health, lookup⟩ := Backend.lookup_delete deleted other
    exact ⟨rfl, health, lookup⟩
  · exact refl s

end SameAt

def shareAll (s : HistorySession τ) (events : List (SharedEvent τ)) : HistorySession τ :=
  events.foldl share s

/-- What a view loads over some defaults, given what its latest save or clear has left. Before the
first of them it loads what was stored at the start. -/
def expectedLoad (start : HistorySession τ) (view : String) (d : ViewSettings) :
    Option (Option ViewSettings) → Except Fault (SettingsForm × List ViewNotice)
  | some (some settings) => .ok (.ofSettings settings, [])
  | some none => .ok (.ofSettings d, [])
  | none => match start.backend.entries.lookup (start.views.keyOf view) with
    | none => .ok (.ofSettings d, [])
    | some text => ViewStore.readText view (.ofSettings d) text

/-- Whether the backend holds what the latest save or clear of a view has left. -/
structure HoldsLeft (start : HistorySession τ) (view : String)
    (left : Option (Option ViewSettings)) (s : HistorySession τ) : Prop where
  config : s.config = start.config
  working : s.backend.health = .working
  stored : match left with
    | some (some settings) => ∃ text, s.backend.entries.lookup (s.views.keyOf view) = some text ∧
        Json.decode text = .ok (.obj settings.form)
    | some none => s.backend.entries.lookup (s.views.keyOf view) = none
    | none => s.backend.entries.lookup (s.views.keyOf view) =
        start.backend.entries.lookup (start.views.keyOf view)

namespace HoldsLeft

variable {start s after : HistorySession τ} {view : String} {left : Option (Option ViewSettings)}

omit [Timeline τ] in
/-- What leaves the key of a view alone leaves what is stored for it. -/
theorem of_sameAt (holds : HoldsLeft start view left s)
    (same : SameAt (s.views.keyOf view) s after) : HoldsLeft start view left after := by
  have key : after.views.keyOf view = s.views.keyOf view := by
    simp only [views, ViewStore.keyOf, same.config]
  refine ⟨same.config.trans holds.config, same.health.trans holds.working, ?_⟩
  rw [key, same.lookup]
  exact holds.stored

theorem save (holds : HoldsLeft start view left s) {v : String} {settings : ViewSettings}
    (storable : settings.IsStorable) :
    HoldsLeft start view (SharedEvent.leaves view left (.save v settings : SharedEvent τ))
      (s.share (.save v settings)) := by
  rw [SharedEvent.leaves]
  split
  · next same =>
    have ⟨text, decoded, saved⟩ :=
      s.views.save_working holds.working storable v
    rw [share, saved]
    refine ⟨holds.config, holds.working, text, ?_, decoded⟩
    rw [← same]
    exact Entries.lookup_put_self _ _ _
  · next other =>
    exact holds.of_sameAt (.save (fun same => other (ViewStore.keyOf_inj same).symm) settings)

theorem clear (holds : HoldsLeft start view left s) (v : String) :
    HoldsLeft start view (SharedEvent.leaves view left (.clear v : SharedEvent τ))
      (s.share (.clear v)) := by
  rw [SharedEvent.leaves]
  split
  · next same =>
    rw [share, s.views.clear_working holds.working]
    refine ⟨holds.config, holds.working, ?_⟩
    rw [← same]
    exact Entries.lookup_erase_self _ _
  · next other =>
    exact holds.of_sameAt (.clear fun same => other (ViewStore.keyOf_inj same).symm)

theorem step (holds : HoldsLeft start view left s) {event : SharedEvent τ}
    (allowed : event.IsAllowed start.config) :
    HoldsLeft start view (event.leaves view left) (s.share event) := by
  cases event with
  | save v settings => exact holds.save allowed
  | clear v => exact holds.clear v
  | history event =>
    apply holds.of_sameAt
    apply sameAt_step _ allowed.2
    have apart := allowed.1 view
    rw [← holds.config] at apart
    exact apart

theorem run (holds : HoldsLeft start view left s) {events : List (SharedEvent τ)}
    (allowed : ∀ e ∈ events, e.IsAllowed start.config) :
    HoldsLeft start view (events.foldl (SharedEvent.leaves view) left) (s.shareAll events) := by
  induction events generalizing s left with
  | nil => exact holds
  | cons event rest ih =>
    have ⟨first, others⟩ := List.forall_mem_cons.1 allowed
    exact ih (holds.step first) others

omit [Timeline τ] in
theorem load (holds : HoldsLeft start view left s) (d : ViewSettings) :
    s.views.load view (.ofSettings d) = expectedLoad start view d left := by
  have read : s.views.backend.read (s.views.keyOf view) =
      .ok (s.backend.entries.lookup (s.views.keyOf view)) := by
    simp only [Backend.read, views, holds.working]
  have stored := holds.stored
  rcases left with _ | _ | settings
  · rw [expectedLoad, ViewStore.load_eq_loaded, read, stored, ViewStore.loaded.eq_def]
    cases start.backend.entries.lookup (start.views.keyOf view) <;> rfl
  · rw [ViewStore.load_eq_loaded, read, stored]
    rfl
  · obtain ⟨text, found, decoded⟩ := stored
    exact ViewStore.load_saved (read.trans (congrArg _ found)) decoded d

end HoldsLeft

end HistorySession

end Bookmarks
