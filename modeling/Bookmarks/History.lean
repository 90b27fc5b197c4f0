import Bookmarks.Preset
import Bookmarks.Slice
import Bookmarks.Text.Blank
import Bookmarks.Json.Writer

/-! The history of a user: recent searches and presets, the latest first and no more of them than
there is room for, and how often each kind of filter was used. -/

namespace Bookmarks

open Json (Fields)

instance : BEq Json := ⟨Json.alike⟩

structure History where
  recent : List String := []
  presets : List Preset := []
  /-- Counters by kind. A kind is a value that can be a key; a counter that was read may be of any
  kind. -/
  usage : Entries Json Json := []

namespace History

/-- The parts of a value that is given, none of one that is not. -/
def optionalParts (value : Json) : Except Fault (List Json) :=
  if value.isVoid then .ok [] else value.parts

/-- The presets among some values; what is no object is passed over. -/
def presetsOf (values : List Json) : Except Fault (List Preset) :=
  (values.filterMap fun
    | .obj fields => some fields
    | _ => none).mapM Preset.ofFields

def usageOf (value : Json) : Entries Json Json :=
  match value with
  | .obj counters => counters.map fun (kind, count) => (.str kind, count)
  | _ => []

def ofFields (fields : Fields) : Except Fault History := do
  let recent ← optionalParts (fields.at "recentSearches")
  let presets ← presetsOf (← optionalParts (fields.at "customPresets"))
  return {
    recent := recent.filterMap Json.text?
    presets
    usage := usageOf (fields.at "filterUsageStats") }

def ofJson (value : Json) : Except Fault History := do ofFields (← value.fields)

/-- The counters as fields; a kind that is no text is named by its JSON text. -/
def usageFields (h : History) : Except Fault Fields :=
  h.usage.mapM fun (kind, count) => do
    let name ← match kind with
      | .str name => pure name
      | other => other.encode
    return (name, count)

def toJson (h : History) : Except Fault Json := do
  return .obj [("recentSearches", .arr (h.recent.map .str)),
    ("customPresets", .arr (h.presets.map Preset.toJson)),
    ("filterUsageStats", .obj (← h.usageFields))]

/-- A text that may be missing, without blanks around it. -/
def trimmed (value : Json) : Except Fault String :=
  if value.isVoid then .ok ""
  else value.text.map fun text => String.ofList (Text.trim text.toList)

/-- Moves a search term to the front; a blank one changes nothing. -/
def addRecent (h : History) (room : Int) (term : Json) : Except Fault (Option History) := do
  let term ← trimmed term
  if term.isEmpty then return none
  return some { h with recent := upTo room (term :: h.recent.filter (· != term)) }

def clearRecent (h : History) : History := { h with recent := [] }

/-- Puts a preset at the front in place of those of the same name. -/
def putPreset (h : History) (room : Int) (preset : Preset) : History :=
  { h with presets := upTo room (preset :: h.presets.filter (·.name != preset.name)) }

/-- Whether a value is the id of a preset. -/
def isIdOf (id : Json) (preset : Preset) : Bool := id.text? == some preset.id

def preset? (h : History) (id : Json) : Option Preset := h.presets.find? (isIdOf id)

/-- Removes the presets with an id, if there are any. -/
def deletePreset (h : History) (id : Json) : Option History :=
  if h.presets.any (isIdOf id) then
    some { h with presets := h.presets.filter (!isIdOf id ·) }
  else none

/-- Counts a use of the first preset that passes a test. -/
def countFirst (test : Preset → Bool) : List Preset → List Preset
  | [] => []
  | p :: ps =>
    if test p then { p with usageCount := p.usageCount + 1 } :: ps else p :: countFirst test ps

/-- Counts a use of the preset with an id, if there is one. -/
def countPreset (h : History) (id : Json) : Option History :=
  if h.presets.any (isIdOf id) then
    some { h with presets := countFirst (isIdOf id) h.presets }
  else none

/-- Counts a use of a kind of filter, and gives the new count. -/
def countUsage (h : History) (kind : Json) : Except Fault (History × Json) := do
  if !kind.isPlain then throw .unsuitable
  let count ← ((h.usage.lookup kind).getD (.int 0)).number
  let next := (← count.add (.whole 1)).toJson
  return ({ h with usage := h.usage.put kind next }, next)

end History

end Bookmarks
