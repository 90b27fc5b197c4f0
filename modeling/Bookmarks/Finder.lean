import Bookmarks.Order

/-! Finding bookmarks: the bookmarks that pass the query and the settings of a view, in order, with
the values that can be chosen from and how far the collection was narrowed. -/

namespace Bookmarks

namespace SettingsForm

/-- The stage of the query, or else of the search term. -/
def passesQuery (s : SettingsForm) (query : Option QueryForm) (moment : Moment) (b : Bookmark) :
    Verdict :=
  match query with
  | some query => query.accepts moment b
  | none => if s.searchTerm.isVoid then .ok true else b.mentionsValue s.searchTerm

def passesFile (s : SettingsForm) (b : Bookmark) : Bool :=
  s.file.isVoid || s.file.same (.str b.filepath)

/-- The tags that have to be present, as members of a set. -/
def requiredTags (s : SettingsForm) : Except Fault (List Json) :=
  if s.tags.isVoid then .ok []
  else do
    let tags ← s.tags.parts
    if tags.all Json.isPlain then .ok tags else .error .unsuitable

def passesTags (required : List Json) (b : Bookmark) : Bool :=
  required.all fun tag => tag.text?.any b.tags.contains

def passesRange (s : SettingsForm) (zone : Int) (b : Bookmark) : Verdict :=
  if s.hasRange then inDateRange zone s.rangeStart s.rangeStop (b.created? zone) else .ok true

/-- The bookmarks that pass all stages. A stage is applied to what the one before it left. -/
def filter (s : SettingsForm) (query : Option QueryForm) (moment : Moment)
    (bookmarks : List Bookmark) : Except Fault (List Bookmark) := do
  let found ← Verdict.keep (s.passesQuery query moment) bookmarks
  let required ← s.requiredTags
  let found := (found.filter s.passesFile).filter (passesTags required)
  Verdict.keep (s.passesRange moment.zone) found

end SettingsForm

/-- The different texts of a list, ascending. -/
def distinctSorted (texts : List String) : List String :=
  texts.eraseDups.mergeSort fun a b => compare a b != .gt

def availableFiles (bookmarks : List Bookmark) : List String :=
  distinctSorted (bookmarks.map (·.filepath))

def availableTags (bookmarks : List Bookmark) : List String :=
  distinctSorted (bookmarks.flatMap (·.tags))

/-- How far a collection was narrowed. -/
structure Analytics where
  total : Json
  found : Json
  reduction : Json
  isNarrowed : Bool

namespace Analytics

/-- The percentage by which a number went down, to one place. -/
def percentage (total found : Number) : Except Fault Double := do
  let quotient ← (← total.sub found).div total
  return (quotient.mul (.ofInt 100)).roundTo 10

/-- The figures for two counts; without a positive total the reduction is the whole number zero. -/
def ofCounts (total found : Json) : Except Fault Analytics := do
  let count ← total.number
  let reduction ←
    if (Number.whole 0).lt count then Json.double <$> percentage count (← found.number)
    else pure (.int 0)
  return { total, found, reduction, isNarrowed := !found.same total }

def toJson (a : Analytics) : Json :=
  .obj [("totalBookmarks", a.total), ("filteredCount", a.found),
    ("reductionPercentage", a.reduction), ("hasActiveFilters", .bool a.isNarrowed)]

end Analytics

structure Findings where
  bookmarks : List Bookmark
  files : List String
  tags : List String
  analytics : Analytics

/-- What a view shows of a collection. -/
def find (moment : Moment) (settings : SettingsForm) (query : Option QueryForm)
    (collection : List Bookmark) : Except Fault Findings := do
  let found ← settings.filter query moment collection
  let bookmarks ← settings.sort moment.zone found
  let analytics ← Analytics.ofCounts (.int collection.length) (.int bookmarks.length)
  return {
    bookmarks, analytics
    files := availableFiles collection
    tags := availableTags collection }

/-- The query of a search text; a blank text is none. -/
def queryOfText (text : Json) : Except Fault (Option QueryForm) :=
  if text.isVoid then .ok none
  else text.text.map fun text =>
    if (Text.trim text.toList).isEmpty then none else some (.ofQuery (Query.parse text).1)

/-- Reads a search text and a collection, and finds. -/
def search (moment : Moment) (settings : SettingsForm) (text collection : Json) :
    Except Fault Findings := do
  let query ← queryOfText text
  find moment settings query (← Bookmark.listOfJson collection)

end Bookmarks
