import Bookmarks.Bookmark

/-! Settings of a view: what it is narrowed to and how it is sorted. Settings that are read from
JSON are always well formed, what is missing or of the wrong kind taking its default; the form of
settings, which comes from outside, may hold values of any kind. -/

namespace Bookmarks

open Json (Fields)

inductive SortField where
  | title
  | timestamp
  | createdAt
  | description
  | tags
  | mediaFileName
  deriving DecidableEq

namespace SortField

def all : List SortField := [title, timestamp, createdAt, description, tags, mediaFileName]

def name : SortField → String
  | title => "title"
  | timestamp => "timestamp"
  | createdAt => "createdAt"
  | description => "description"
  | tags => "tags"
  | mediaFileName => "mediaFileName"

def ofJson? (value : Json) : Option SortField :=
  value.text?.bind fun name => all.find? (·.name == name)

theorem ofJson?_name (f : SortField) : ofJson? (.str f.name) = some f := by cases f <;> decide

end SortField

inductive Direction where
  | ascending
  | descending
  deriving DecidableEq

namespace Direction

def all : List Direction := [ascending, descending]

def name : Direction → String
  | ascending => "asc"
  | descending => "desc"

def ofJson? (value : Json) : Option Direction :=
  value.text?.bind fun name => all.find? (·.name == name)

theorem ofJson?_name (d : Direction) : ofJson? (.str d.name) = some d := by cases d <;> decide

end Direction

/-- One entry of a sort by several fields; a lower priority counts first. -/
structure SortCriterion where
  field : SortField
  direction : Direction := .ascending
  priority : Int := 1
  deriving DecidableEq

structure ViewSettings where
  searchTerm : String := ""
  rangeStart : String := ""
  rangeStop : String := ""
  tags : List String := []
  sortBy : SortField := .createdAt
  direction : Direction := .descending
  file : String := ""
  criteria : List SortCriterion := []
  multiSort : Bool := false
  deriving DecidableEq

/-- A whole number: of a double its whole part, of a text the number it spells. -/
def Json.whole? (value : Json) : Option Int :=
  match value with
  | .str s => Literal.int? s.toList
  | .double d => d.truncate?
  | .int i => some i
  | .bool b => some (if b then 1 else 0)
  | _ => none

namespace SortCriterion

/-- A criterion, unless its field cannot be sorted by. -/
def ofFields? (fields : Fields) : Option SortCriterion :=
  (SortField.ofJson? (fields.at "field")).map fun field => {
    field
    direction := (Direction.ofJson? (fields.at "direction")).getD .ascending
    priority := ((fields.lookup "priority").getD (.int 1)).whole?.getD 1 }

/-- The usable criteria of a list; any other value has none. -/
def listOfJson (value : Json) : List SortCriterion :=
  match value with
  | .arr items => items.filterMap fun
    | .obj fields => ofFields? fields
    | _ => none
  | _ => []

end SortCriterion

namespace ViewSettings

/-- The fields of an object, none for any other value. -/
def fieldsOrNone (value : Json) : Fields :=
  match value with
  | .obj fields => fields
  | _ => []

def ofFields (fields : Fields) : Except Fault ViewSettings := do
  let tags ← (fields.at "tags").texts
  let range := fieldsOrNone (fields.at "dateRange")
  return {
    searchTerm := (fields.at "searchTerm").textOrEmpty
    rangeStart := (range.at "start").textOrEmpty
    rangeStop := (range.at "end").textOrEmpty
    tags
    sortBy := (SortField.ofJson? (fields.at "sortBy")).getD .createdAt
    direction := (Direction.ofJson? (fields.at "sortDirection")).getD .descending
    file := (fields.at "fileFilter").textOrEmpty
    criteria := SortCriterion.listOfJson (fields.at "sortCriteria")
    multiSort := match fields.at "enableMultiSort" with
      | .bool b => b
      | _ => false }

def ofJson (value : Json) : Except Fault ViewSettings := do ofFields (← value.fields)

end ViewSettings

structure CriterionForm where
  field : Json
  direction : Json := .str "asc"
  priority : Json := .int 1

namespace CriterionForm

def ofCriterion (c : SortCriterion) : CriterionForm :=
  ⟨.str c.field.name, .str c.direction.name, .int c.priority⟩

def toJson (c : CriterionForm) : Json :=
  .obj [("field", c.field), ("direction", c.direction), ("priority", c.priority)]

end CriterionForm

structure SettingsForm where
  searchTerm : Json := .str ""
  rangeStart : Json := .str ""
  rangeStop : Json := .str ""
  tags : Json := .arr []
  sortBy : Json := .str "createdAt"
  direction : Json := .str "desc"
  file : Json := .str ""
  criteria : List CriterionForm := []
  multiSort : Json := .bool false

namespace SettingsForm

def ofSettings (s : ViewSettings) : SettingsForm where
  searchTerm := .str s.searchTerm
  rangeStart := .str s.rangeStart
  rangeStop := .str s.rangeStop
  tags := .arr (s.tags.map .str)
  sortBy := .str s.sortBy.name
  direction := .str s.direction.name
  file := .str s.file
  criteria := s.criteria.map .ofCriterion
  multiSort := .bool s.multiSort

def toFields (s : SettingsForm) : Except Fault Fields := do
  let tags ← s.tags.parts
  return [
    ("searchTerm", s.searchTerm),
    ("dateRange", .obj [("start", s.rangeStart), ("end", s.rangeStop)]),
    ("tags", .arr tags), ("sortBy", s.sortBy), ("sortDirection", s.direction),
    ("fileFilter", s.file), ("sortCriteria", .arr (s.criteria.map CriterionForm.toJson)),
    ("enableMultiSort", s.multiSort)]

def toJson (s : SettingsForm) : Except Fault Json := s.toFields.map .obj

def hasRange (s : SettingsForm) : Bool := !s.rangeStart.isVoid || !s.rangeStop.isVoid

end SettingsForm

/-- A key and a value, given as two parts. -/
def Json.pair (value : Json) : Except Fault (Json × Json) := do
  match ← value.parts with
  | [key, content] => if key.isPlain then .ok (key, content) else .error .unsuitable
  | _ => .error .notPairs

/-- The entries of a value: the fields of an object, or the pairs of a list, of which the last one
for a key counts. Keys that are not texts belong to no field. -/
def Json.entries (value : Json) : Except Fault Fields :=
  match value with
  | .obj fields => .ok fields
  | other => do
    let pairs ← (← other.parts).mapM Json.pair
    let named := pairs.filterMap fun (key, content) => key.text?.map fun name => (name, content)
    return .ofPairs named

/-- Lays entries over settings and reads the outcome as settings. -/
def SettingsForm.merged (s : SettingsForm) (changes : Json) : Except Fault ViewSettings := do
  let base ← s.toFields
  ViewSettings.ofFields (base.putAll (← changes.entries))

end Bookmarks
