import Bookmarks.Settings
import Bookmarks.Backend
import Bookmarks.Json.Reader
import Bookmarks.Json.Writer

/-! The settings of views in a backend, under a key for each view. What cannot be read or written is
noticed and otherwise passed over. -/

namespace Bookmarks

/-- Why stored settings are passed over. -/
inductive Corruption where
  | malformed
  | notObject
  | unreadable (fault : Fault)
  deriving DecidableEq

inductive ViewNotice where
  | unread (view : String) (fault : Fault)
  | corrupt (view : String) (corruption : Corruption)
  | unsaved (view : String) (fault : Fault)
  | uncleared (view : String) (fault : Fault)
  deriving DecidableEq

namespace ViewNotice

def subject : ViewNotice → String
  | unread view _ => "Error reading filters for '" ++ view ++ "'"
  | corrupt view _ => "Ignoring corrupt filters for '" ++ view ++ "'"
  | unsaved view _ => "Error saving filters for '" ++ view ++ "'"
  | uncleared view _ => "Error clearing filters for '" ++ view ++ "'"

/-- The reason, if it is told. -/
def reason? : ViewNotice → Option String
  | unread _ fault => fault.storageReason?
  | corrupt _ .notObject => some "not an object"
  | corrupt _ _ => none
  | unsaved _ fault => fault.storageReason?
  | uncleared _ fault => fault.storageReason?

end ViewNotice

structure ViewStore where
  backend : Backend
  keyStart : String

namespace ViewStore

def keyOf (store : ViewStore) (view : String) : String := store.keyStart ++ view

/-- The settings that a stored text makes of the defaults. -/
def readText (view : String) (defaults : SettingsForm) (text : String) :
    Except Fault (SettingsForm × List ViewNotice) :=
  match Json.decode text with
  | .error .longNumber => .error .badNumber
  | .error .tooDeep => .error .tooDeep
  | .error .malformed => .ok (defaults, [.corrupt view .malformed])
  | .ok value => match value with
    | .obj _ => match defaults.merged value with
      | .ok settings => .ok (.ofSettings settings, [])
      | .error fault => .ok (defaults, [.corrupt view (.unreadable fault)])
    | _ => .ok (defaults, [.corrupt view .notObject])

/-- The stored settings laid over the defaults, or the defaults when nothing usable is stored. -/
def load (store : ViewStore) (view : String) (defaults : SettingsForm) :
    Except Fault (SettingsForm × List ViewNotice) :=
  match store.backend.read (store.keyOf view) with
  | .error fault => .ok (defaults, [.unread view fault])
  | .ok none => .ok (defaults, [])
  | .ok (some text) => readText view defaults text

/-- The backend after settings were written to it. -/
def written (store : ViewStore) (view : String) (settings : SettingsForm) :
    Except Fault Backend := do
  store.backend.write (store.keyOf view) (← (← settings.toJson).encode)

def save (store : ViewStore) (view : String) (settings : SettingsForm) :
    ViewStore × List ViewNotice :=
  match store.written view settings with
  | .ok backend => ({ store with backend }, [])
  | .error fault => (store, [.unsaved view fault])

def clear (store : ViewStore) (view : String) : ViewStore × List ViewNotice :=
  match store.backend.delete (store.keyOf view) with
  | .ok (backend, _) => ({ store with backend }, [])
  | .error fault => (store, [.uncleared view fault])

end ViewStore

end Bookmarks
