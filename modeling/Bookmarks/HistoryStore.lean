import Bookmarks.History
import Bookmarks.Backend
import Bookmarks.Configuration
import Bookmarks.Agenda
import Bookmarks.Json.Reader

/-! A history that is kept in memory and written to a backend as one text. A change is not written
at once but when a delay has passed, unless a later change begins the delay anew; what can wait can
also be written at once. -/

namespace Bookmarks

/-- Why a history was not read or not written. -/
inductive HistoryNotice where
  | unread (fault : Fault)
  | malformed
  | notObject
  | unsaved (fault : Fault)
  deriving DecidableEq

namespace HistoryNotice

def subject : HistoryNotice → String
  | unsaved _ => "Error saving filter history"
  | _ => "Error loading filter history"

/-- The reason, if it is told. -/
def reason? : HistoryNotice → Option String
  | unread fault => fault.storageReason?
  | malformed => none
  | notObject => some "history blob is not an object"
  | unsaved fault => fault.storageReason?

end HistoryNotice

/-- A history in memory, and the alarm at which it will be written if a write is pending. -/
structure HistoryStore (τ : Type) where
  history : History := {}
  pending : Option (Alarm τ) := none

/-- What a preset is made of: settings of a view, or any value with entries. -/
inductive FilterSource where
  | settings (settings : SettingsForm)
  | value (value : Json)

def FilterSource.fields : FilterSource → Except Fault Json.Fields
  | settings s => s.toFields
  | value v => v.entries

inductive HistoryCall where
  | load
  | flush
  | close
  | addRecent (term : Json)
  | clearRecent
  | clearAll
  | savePreset (name description : Json) (filters : FilterSource)
  | preset (id : Json)
  | deletePreset (id : Json)
  | countPreset (id : Json)
  | countUsage (kind : Json)

/-- What can happen to a store: a call, the passing of time, a new store in its place, or access to
the backend past the store. -/
inductive HistoryEvent (τ : Type) where
  | call (call : HistoryCall)
  | advance (delay : τ)
  | reopen
  | write (key value : String)
  | read (key : String)

/-- A store with its backend at a time. Stores that were given up with a write pending write it when
it is due. -/
structure HistorySession (τ : Type) where
  config : StoreConfig τ
  backend : Backend
  now : τ
  /-- The date that new presets bear. -/
  today : String
  /-- How many ids were given out. -/
  idCount : Nat := 0
  store : HistoryStore τ := {}
  former : List (HistoryStore τ) := []
  agenda : Agenda τ := {}
  notices : List HistoryNotice := []

namespace HistorySession

variable {τ : Type}

def noticing (s : HistorySession τ) (notice : HistoryNotice) : HistorySession τ :=
  { s with notices := s.notices ++ [notice] }

/-- The backend after a history was written to it. -/
def written (s : HistorySession τ) (history : History) : Except Fault Backend := do
  s.backend.write s.config.historyKey (← (← history.toJson).encode)

def write (s : HistorySession τ) (history : History) : HistorySession τ :=
  match s.written history with
  | .ok backend => { s with backend }
  | .error fault => s.noticing (.unsaved fault)

/-- Reads a stored text as a history. -/
def readText (text : String) : Except HistoryNotice History :=
  match Json.decode text with
  | .error _ => .error .malformed
  | .ok (.obj fields) => (History.ofFields fields).mapError .unread
  | .ok _ => .error .notObject

/-- Takes over the stored history; when there is none that is usable, the one in memory stays. -/
def load (s : HistorySession τ) : HistorySession τ :=
  match s.backend.read s.config.historyKey with
  | .error fault => s.noticing (.unread fault)
  | .ok none => s
  | .ok (some text) => match readText text with
    | .ok history => { s with store := { s.store with history } }
    | .error notice => s.noticing notice

/-- Calls off a write that is pending. -/
def callOff (s : HistorySession τ) : HistorySession τ :=
  match s.store.pending with
  | none => s
  | some _ => { s with store := { s.store with pending := none }, agenda := s.agenda.callOff }

/-- Writes at once, in place of a write that is pending. -/
def flush (s : HistorySession τ) : HistorySession τ := s.callOff.write s.store.history

def close (s : HistorySession τ) : HistorySession τ :=
  if s.store.pending.isSome then s.flush else s

/-- The id of the n-th preset. -/
def idOf (n : Nat) : String := "custom-" ++ String.ofList (Json.paddedHex 32 n)

/-- A name, which is not blank. -/
def nameOf (value : Json) : Except Fault String := do
  let name ← History.trimmed value
  if name.isEmpty then throw .blankName
  return name

variable [Timeline τ]

/-- A new history in memory, to be written after the delay. -/
def change (s : HistorySession τ) (history : History) : HistorySession τ :=
  let due := Timeline.add s.now s.config.debounce
  let s := s.callOff
  { s with store := ⟨history, some (s.agenda.next due)⟩, agenda := s.agenda.set due }

/-- Changes the history if there is a change, and tells so. -/
def changeIf (s : HistorySession τ) (history : Option History) : HistorySession τ × Json :=
  match history with
  | some history => (s.change history, .bool true)
  | none => (s, .bool false)

/-- Saves a preset under a new id. The id is given out once name and filters are in order. -/
def savePreset (s : HistorySession τ) (name description : Json) (filters : FilterSource) :
    HistorySession τ × Except Fault Json :=
  match nameOf name, filters.fields with
  | .error fault, _ => (s, .error fault)
  | _, .error fault => (s, .error fault)
  | .ok name, .ok fields =>
    let id := idOf (s.idCount + 1)
    let s := { s with idCount := s.idCount + 1 }
    match History.trimmed description with
    | .error fault => (s, .error fault)
    | .ok description =>
      (s.change (s.store.history.putPreset s.config.maxPresets {
        id, name, description
        filters := Preset.carried fields
        createdAt := s.today }), .ok (.str id))

def perform (s : HistorySession τ) : HistoryCall → HistorySession τ × Except Fault Json
  | .load => (s.load, s.load.store.history.toJson)
  | .flush => (s.flush, .ok .null)
  | .close => (s.close, .ok .null)
  | .addRecent term => match s.store.history.addRecent s.config.maxRecent term with
    | .ok (some history) => (s.change history, .ok .null)
    | .ok none => (s, .ok .null)
    | .error fault => (s, .error fault)
  | .clearRecent => (s.change s.store.history.clearRecent, .ok .null)
  | .clearAll => (s.change {}, .ok .null)
  | .savePreset name description filters => s.savePreset name description filters
  | .preset id => (s, .ok ((s.store.history.preset? id).elim .null Preset.toJson))
  | .deletePreset id => (s.changeIf (s.store.history.deletePreset id)).map (·) .ok
  | .countPreset id => (s.changeIf (s.store.history.countPreset id)).map (·) .ok
  | .countUsage kind => match s.store.history.countUsage kind with
    | .ok (history, count) => (s.change history, .ok count)
    | .error fault => (s, .error fault)

/-- Whether a write is pending and its time has come. -/
def isDue (now : τ) (store : HistoryStore τ) : Bool :=
  store.pending.any fun alarm => Timeline.hasCome alarm.due now

/-- Whether a store waits for an alarm. -/
def awaits (store : HistoryStore τ) (alarm : Alarm τ) : Bool :=
  store.pending.any (·.number == alarm.number)

def isAwaited (s : HistorySession τ) (alarm : Alarm τ) : Bool :=
  (s.store :: s.former).any (awaits · alarm)

/-- Writes all that is due, in the order in which the alarms ring. -/
def settle (s : HistorySession τ) : HistorySession τ :=
  let (rung, agenda) := (s.agenda.tidy s.isAwaited).ring s.now
  let due := (s.former ++ [s.store]).filter (isDue s.now)
  let place (store : HistoryStore τ) := rung.findIdx (awaits store)
  let rest := { s with
    former := s.former.filter (!isDue s.now ·)
    store := if isDue s.now s.store then { s.store with pending := none } else s.store }
  (due.mergeSort fun a b => decide (place a ≤ place b)).foldl (fun s store => s.write store.history)
    { rest with agenda := agenda.tidy rest.isAwaited }

def advance (s : HistorySession τ) (delay : τ) : HistorySession τ :=
  { s with now := Timeline.add s.now delay }

/-- A new store on the same backend, which has nothing in memory. -/
def reopen (s : HistorySession τ) : HistorySession τ :=
  { s with store := {}, former :=
    if s.store.pending.isSome then s.former ++ [s.store] else s.former }

def happen (s : HistorySession τ) : HistoryEvent τ → HistorySession τ × Except Fault Json
  | .call call => s.perform call
  | .advance delay => (s.advance delay, .ok .null)
  | .reopen => (s.reopen, .ok .null)
  | .write key value => match s.backend.write key value with
    | .ok backend => ({ s with backend }, .ok .null)
    | .error fault => (s, .error fault)
  | .read key => (s, (s.backend.read key).map .ofText?)

/-- An event, after which all that is due is written. -/
def step (s : HistorySession τ) (event : HistoryEvent τ) : HistorySession τ × Except Fault Json :=
  (s.happen event).map settle (·)

end HistorySession

end Bookmarks
