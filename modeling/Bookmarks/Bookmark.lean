import Bookmarks.Json.Number
import Bookmarks.Json.Display

/-! Bookmarks, and how they are read from JSON: what is missing or of the wrong kind takes a
default, so that only a value that is no object, or a number out of bounds, is refused. -/

namespace Bookmarks

structure Bookmark where
  id : String
  title : String
  timestamp : Double
  filepath : String
  createdAt : String
  description : Option String
  tags : List String
  deriving DecidableEq

namespace Json

/-- A list of texts: a text alone is one item, and any other value but a list is none. -/
def texts (value : Json) : Except Fault (List String) :=
  match value with
  | str s => .ok (if s.isEmpty then [] else [s])
  | arr items => items.mapM display
  | _ => .ok []

/-- A position in seconds; what is no number counts as zero. -/
def seconds (value : Json) : Except Fault Double :=
  if value.isVoid then .ok .zero
  else match value with
    | str s => .ok ((Literal.double? s.toList).getD .zero)
    | _ => match value.number? with
      | some n => n.toDouble
      | none => .ok .zero

end Json

namespace Bookmark

def ofFields (fields : Json.Fields) : Except Fault Bookmark := do
  let timestamp ← (fields.at "timestamp").seconds
  let id ← ((fields.lookup "id").getD (.str "")).display
  let tags ← (fields.at "tags").texts
  return {
    id, timestamp, tags
    title := (fields.at "title").textOrEmpty
    filepath := (fields.at "filepath").textOrEmpty
    createdAt := (fields.at "createdAt").textOrEmpty
    description := (fields.at "description").text? }

def ofJson (value : Json) : Except Fault Bookmark := do ofFields (← value.fields)

/-- Reads every part of a value as a bookmark. -/
def listOfJson (value : Json) : Except Fault (List Bookmark) := do (← value.parts).mapM ofJson

def toFields (b : Bookmark) : Json.Fields :=
  [("id", .str b.id), ("title", .str b.title), ("timestamp", .double b.timestamp),
    ("filepath", .str b.filepath), ("createdAt", .str b.createdAt),
    ("tags", .arr (b.tags.map .str))] ++
    (b.description.map fun d => ("description", .str d)).toList

def toJson (b : Bookmark) : Json := .obj b.toFields

end Bookmark

end Bookmarks
