import Bookmarks.Match
import Bookmarks.Settings
import Bookmarks.Path
import Bookmarks.Sorting.Basic
import Bookmarks.Json.Order
import Bookmarks.Text.Fold

/-! Sorting bookmarks by one field or several. Each field gives a bookmark a key; the first
criterion whose keys differ decides, and bookmarks that no criterion tells apart keep their order.
-/

namespace Bookmarks

inductive SortKey where
  /-- Letters compare without regard to case and accents first; then small letters come before
  capital ones, and last the text itself decides. -/
  | title (folded swapped text : List Char)
  | number (value : Double)
  | text (folded : List Char)
  | instant (value : Instant)
  deriving DecidableEq

namespace SortKey

/-- The order of doubles, in which not a number is level with everything. -/
def compareDoubles (x y : Double) : Ordering :=
  if x.lt y then .lt else if y.lt x then .gt else .eq

/-- The order of keys of one field. -/
def order : SortKey → SortKey → Ordering
  | title f s t, title f' s' t' => (compare f f').then ((compare s s').then (compare t t'))
  | number x, number y => compareDoubles x y
  | text s, text t => compare s t
  | instant i, instant j => compare i.micros j.micros
  | _, _ => .eq

end SortKey

/-- The key of a bookmark for a field; a date that cannot be read comes before all others. -/
def Bookmark.sortKey (zone : Int) (b : Bookmark) : SortField → SortKey
  | .title => .title (Text.fold b.title.toList) (Text.swapCase b.title.toList) b.title.toList
  | .timestamp => .number b.timestamp
  | .createdAt => .instant ((b.created? zone).getD .first)
  | .description => .text (Text.fold b.descriptionText.toList)
  | .tags => .text (Text.fold (", ".intercalate b.tags).toList)
  | .mediaFileName => .text (Text.fold (Path.mediaName b.filepath.toList))

def compareField (zone : Int) (field : SortField) (direction : Direction) (a b : Bookmark) :
    Ordering :=
  let order := (a.sortKey zone field).order (b.sortKey zone field)
  match direction with
  | .ascending => order
  | .descending => order.swap

namespace CriterionForm

/-- The field that is sorted by; the date of creation stands in for an unknown one. -/
def sortField (c : CriterionForm) : SortField := (SortField.ofJson? c.field).getD .createdAt

def sortDirection (c : CriterionForm) : Direction :=
  (Direction.ofJson? c.direction).getD .ascending

def compare (zone : Int) (c : CriterionForm) : Bookmark → Bookmark → Ordering :=
  compareField zone c.sortField c.sortDirection

end CriterionForm

/-- The first criterion that tells two bookmarks apart decides. -/
def compareBy (zone : Int) : List CriterionForm → Bookmark → Bookmark → Ordering
  | [], _, _ => .eq
  | c :: cs, a, b => (c.compare zone a b).then (compareBy zone cs a b)

def arrange (zone : Int) (criteria : List CriterionForm) (bookmarks : List Bookmark) :
    List Bookmark :=
  Sorting.sort (fun a b => compareBy zone criteria a b == .lt) bookmarks

/-- Whether any two of the values have an order. -/
def areOrdered : List Json → Bool
  | [] => true
  | x :: rest => rest.all (fun y => (x.lt? y).isSome) && areOrdered rest

/-- The criteria by priority, those of one priority in their order. -/
def byPriority (criteria : List CriterionForm) : Except Fault (List CriterionForm) :=
  if areOrdered (criteria.map (·.priority)) then
    .ok (Sorting.sort (fun a b => a.priority.lt? b.priority == some true) criteria)
  else .error .unsuitable

namespace SettingsForm

/-- The criteria that decide the order: the list of criteria, or the one field. -/
def activeCriteria (s : SettingsForm) : Except Fault (List CriterionForm) :=
  if s.multiSort.isVoid then .ok [{ field := s.sortBy, direction := s.direction }]
  else byPriority s.criteria

def sort (s : SettingsForm) (zone : Int) (bookmarks : List Bookmark) :
    Except Fault (List Bookmark) :=
  s.activeCriteria.map (arrange zone · bookmarks)

end SettingsForm

end Bookmarks
