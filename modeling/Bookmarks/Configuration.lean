import Bookmarks.Entries
import Bookmarks.Fault
import Bookmarks.Number.Literal
import Bookmarks.Path

/-! How settings and history are stored, as an environment of variables says. -/

namespace Bookmarks

/-- Delays are times of a timeline. -/
structure StoreConfig (τ : Type) where
  /-- How long a change of the history waits before it is written. -/
  debounce : τ
  historyKey : String := "bookmark-filter-history"
  maxRecent : Int := 10
  maxPresets : Int := 20
  /-- What the key of a view begins with. -/
  keyStart : String := "bookmark-filters-"

namespace StoreConfig

/-- Half a second is the delay when nothing else is said. -/
def standard : StoreConfig Double := { debounce := .ofRatio false 1 2 }

/-- The number that a variable spells, or the default when it is not set. -/
def numberAt {α : Type} (environment : Entries String String) (name : String) (default : α)
    (read? : List Char → Option α) : Except Fault α :=
  match environment.lookup name with
  | none => .ok default
  | some text => match read? text.toList with
    | some n => .ok n
    | none => .error .badNumber

def ofEnvironment (environment : Entries String String) : Except Fault (StoreConfig Double) := do
  let debounce ← numberAt environment "DEBOUNCE" standard.debounce Literal.double?
  let maxRecent ← numberAt environment "MAX_RECENT" standard.maxRecent Literal.int?
  let maxPresets ← numberAt environment "MAX_PRESETS" standard.maxPresets Literal.int?
  return {
    debounce, maxRecent, maxPresets
    historyKey := (environment.lookup "HISTORY_KEY").getD standard.historyKey
    keyStart := (environment.lookup "KEY_PREFIX").getD standard.keyStart }

end StoreConfig

structure Configuration where
  store : StoreConfig Double
  /-- The path of the database, unless it is the usual one. -/
  database : Option String := none

namespace Configuration

/-- The path that a variable names; an empty one names none. -/
def databaseAt (environment : Entries String String) : Option String :=
  match environment.lookup "DB" with
  | none => none
  | some path => if path.isEmpty then none else some (String.ofList (Path.normal path.toList))

def ofEnvironment (environment : Entries String String) : Except Fault Configuration := do
  return { store := ← StoreConfig.ofEnvironment environment, database := databaseAt environment }

/-- The configuration for the usual database. -/
def ofStoreEnvironment (environment : Entries String String) : Except Fault Configuration := do
  return { store := ← StoreConfig.ofEnvironment environment }

/-- The configuration that is held, or else the one of the environment, to be held from then on. -/
def current (held : Option Configuration) (environment : Entries String String) :
    Except Fault Configuration :=
  match held with
  | some configuration => .ok configuration
  | none => ofEnvironment environment

end Configuration

end Bookmarks
