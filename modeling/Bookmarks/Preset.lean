import Bookmarks.Settings
import Bookmarks.Json.Order
import Bookmarks.Text.Occurrence
import Bookmarks.Time.Date
import Bookmarks.Verdict

/-! Presets: named parts of settings that can be laid over the settings of a view. A preset is
active when each setting that it carries is the present one. -/

namespace Bookmarks

open Json (Fields)

structure Preset where
  id : String
  name : String
  description : String := ""
  filters : Fields := []
  createdAt : String := ""
  usageCount : Nat := 0

/-- A number of uses: nothing below zero, and zero for what is no number. -/
def Json.count (value : Json) : Except Fault Nat :=
  match value with
  | .double (.ranked _ rank _) =>
    if rank < infinityRank then .ok (value.whole?.getD 0).toNat else .error .outOfRange
  | _ => .ok (value.whole?.getD 0).toNat

namespace Preset

def ofFields (fields : Fields) : Except Fault Preset := do
  let usageCount ← (fields.at "usageCount").count
  let id ← ((fields.lookup "id").getD (.str "")).display
  return {
    id, usageCount
    name := (fields.at "name").textOrEmpty
    description := (fields.at "description").textOrEmpty
    filters := match fields.at "filters" with
      | .obj filters => filters
      | _ => []
    createdAt := (fields.at "createdAt").textOrEmpty }

def ofJson (value : Json) : Except Fault Preset := do ofFields (← value.fields)

def toJson (p : Preset) : Json :=
  .obj [("id", .str p.id), ("name", .str p.name), ("description", .str p.description),
    ("filters", .obj p.filters), ("createdAt", .str p.createdAt),
    ("usageCount", .int p.usageCount)]

/-- The settings that a preset of a user may carry. -/
def filterKeys : List String :=
  ["searchTerm", "dateRange", "tags", "sortBy", "sortDirection", "fileFilter", "sortCriteria",
    "enableMultiSort"]

/-- The fields that a preset may carry, in the order of the keys. -/
def carried (fields : Fields) : Fields :=
  filterKeys.filterMap fun key => (fields.lookup key).map fun value => (key, value)

def newestFirst : Fields :=
  [("sortBy", .str SortField.createdAt.name), ("sortDirection", .str Direction.descending.name)]

/-- Bookmarks from a day on, the latest first. -/
def sinceDay (start : Date) : Fields :=
  ("dateRange", .obj [("start", .str (String.ofList start.text)), ("end", .str "")]) :: newestFirst

/-- The presets that everyone has, for the number of the present day. -/
def builtIn (today : Nat) : Except Fault (List Preset) :=
  if today < 7 then .error .outOfRange
  else .ok [
    { id := "recent", name := "Recent", description := "Bookmarks created today"
      filters := sinceDay (Date.ofNumber today) },
    { id := "this-week", name := "This Week", description := "Bookmarks from the past 7 days"
      filters := sinceDay (Date.ofNumber (today - 7)) },
    { id := "favorites", name := "Favorites", description := "Bookmarks with favorite tag"
      filters := ("tags", .arr [.str "favorite"]) :: newestFirst }]

def apply (p : Preset) (s : SettingsForm) : Except Fault ViewSettings := s.merged (.obj p.filters)

/-- The settings that tell whether a preset is active. -/
def comparedKeys : List String :=
  ["searchTerm", "sortBy", "sortDirection", "fileFilter", "enableMultiSort", "tags", "dateRange"]

/-- The settings in a value that stands in for those of a preset: the fields of an object, and none
in a list or a text, neither of which may hold the name of a setting. -/
def settingsIn (value : Json) : Except Fault Fields :=
  match value with
  | .obj fields => .ok fields
  | .arr items =>
    if comparedKeys.any fun key => items.any (Json.same (.str key)) then .error .unsuitable
    else .ok []
  | .str s =>
    if comparedKeys.any fun key => Text.occurs key.toList s.toList then .error .unsuitable
    else .ok []
  | _ => .error .unsuitable

/-- Whether a setting is not carried, or carried with the present value. -/
def agreesAt (p : Preset) (key : String) (present : Json) : Bool :=
  (p.filters.lookup key).all (·.same present)

def agreesInValues (p : Preset) (s : SettingsForm) : Bool :=
  p.agreesAt "searchTerm" s.searchTerm && p.agreesAt "sortBy" s.sortBy &&
    p.agreesAt "sortDirection" s.direction && p.agreesAt "fileFilter" s.file &&
    p.agreesAt "enableMultiSort" s.multiSort

/-- The parts of a value as members of a set. -/
def membersOf (value : Json) : Except Fault (List Json) := do
  let members ← value.parts
  if members.all Json.isPlain then return members else .error .unsuitable

/-- Whether the tags that are carried are the present ones, in any order and number. -/
def agreesInTags (p : Preset) (s : SettingsForm) : Verdict :=
  match p.filters.lookup "tags" with
  | none => .ok true
  | some tags => do
    let carried ← if tags.isVoid then pure [] else membersOf tags
    return Json.sameMembers carried (← membersOf s.tags)

/-- Whether the range that is carried is the present one, an end that is not given being open. -/
def agreesInRange (p : Preset) (s : SettingsForm) : Verdict :=
  match p.filters.lookup "dateRange" with
  | none => .ok true
  | some range => do
    let range ← if range.isVoid then pure [] else range.fields
    return ((range.lookup "start").getD (.str "")).alike s.rangeStart &&
      ((range.lookup "end").getD (.str "")).alike s.rangeStop

def isActive (p : Preset) (s : SettingsForm) : Verdict := do
  let _ ← s.toFields
  Verdict.all [.ok (p.agreesInValues s), p.agreesInTags s, p.agreesInRange s]

end Preset

/-- Whether settings narrow or reorder a view. When nothing else does, the answer is the setting for
sorting by several fields, as it is given. -/
def SettingsForm.deviates (s : SettingsForm) : Except Fault Json := do
  if !s.searchTerm.same (.str "") || s.hasRange then return .bool true
  if 0 < (← s.tags.size) then return .bool true
  if !s.file.same (.str "") || !s.sortBy.same (.str SortField.createdAt.name) ||
      !s.direction.same (.str Direction.descending.name) then return .bool true
  return s.multiSort

end Bookmarks
