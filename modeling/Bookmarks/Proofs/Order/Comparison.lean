import Bookmarks.Order

/-! Every list of criteria puts the bookmarks with a timestamp into a weak order. Each field compares
keys of one kind, and the order of these is total; turning an order round and deciding by a second
order what the first leaves level keep it so. Not a number, as a timestamp, is level with every
other timestamp, which is why those bookmarks are left out. -/

namespace Bookmarks

open Std (OrientedCmp TransCmp)

namespace Double

/-- The position of a number in the order of all; not a number gets one without meaning. -/
def place : Double → Int
  | nan => 0
  | ranked negative rank _ => position negative rank

end Double

theorem SortKey.compareDoubles_eq_compare {x y : Double} (hx : x ≠ .nan) (hy : y ≠ .nan) :
    compareDoubles x y = compare x.place y.place := by
  cases x with
  | nan => exact absurd rfl hx
  | ranked s a ha =>
    cases y with
    | nan => exact absurd rfl hy
    | ranked t b hb =>
      simp only [compareDoubles, Double.lt, Double.place, decide_eq_true_eq]
      rw [compare, instOrdInt]
      simp only [compareOfLessAndEq]
      split
      · rfl
      · split
        · next h => rw [if_neg (by omega)]
        · rw [if_pos (by omega)]

/-- The bookmarks whose timestamp is a number. -/
abbrev TimedBookmark : Type := { b : Bookmark // b.timestamp ≠ .nan }

namespace TimedBookmark

variable (zone : Int)

def compareKeys (field : SortField) (a b : TimedBookmark) : Ordering :=
  (a.val.sortKey zone field).order (b.val.sortKey zone field)

theorem compareKeys_timestamp :
    compareKeys zone .timestamp = compareOn fun b : TimedBookmark => b.val.timestamp.place := by
  funext a b
  exact SortKey.compareDoubles_eq_compare a.property b.property

instance transCmp_compareKeys (field : SortField) : TransCmp (compareKeys zone field) := by
  cases field with
  | title =>
    exact inferInstanceAs (TransCmp (compareLex
      (compareOn fun b : TimedBookmark => Text.fold b.val.title.toList)
      (compareLex (compareOn fun b : TimedBookmark => Text.swapCase b.val.title.toList)
        (compareOn fun b : TimedBookmark => b.val.title.toList))))
  | timestamp =>
    rw [compareKeys_timestamp]
    infer_instance
  | createdAt =>
    exact inferInstanceAs (TransCmp (compareOn fun b : TimedBookmark =>
      ((b.val.created? zone).getD .first).micros))
  | description =>
    exact inferInstanceAs (TransCmp (compareOn fun b : TimedBookmark =>
      Text.fold b.val.descriptionText.toList))
  | tags =>
    exact inferInstanceAs (TransCmp (compareOn fun b : TimedBookmark =>
      Text.fold (", ".intercalate b.val.tags).toList))
  | mediaFileName =>
    exact inferInstanceAs (TransCmp (compareOn fun b : TimedBookmark =>
      Text.fold (Path.mediaName b.val.filepath.toList)))

instance transCmp_compareField (field : SortField) (direction : Direction) :
    TransCmp fun a b : TimedBookmark => compareField zone field direction a.val b.val := by
  cases direction with
  | ascending => exact transCmp_compareKeys zone field
  | descending =>
    have turned : (fun a b : TimedBookmark => compareField zone field .descending a.val b.val) =
        fun a b => compareKeys zone field b a := by
      funext a b
      have swapped : compareKeys zone field b a = (compareKeys zone field a b).swap :=
        OrientedCmp.eq_swap
      exact swapped.symm
    rw [turned]
    infer_instance

/-- Criterion after criterion, deciding what is left level keeps the order. -/
instance transCmp_compareBy (criteria : List CriterionForm) :
    TransCmp fun a b : TimedBookmark => compareBy zone criteria a.val b.val := by
  induction criteria with
  | nil => exact { eq_swap := rfl, isLE_trans := fun _ _ => rfl }
  | cons c rest ih =>
    exact inferInstanceAs (TransCmp (compareLex
      (fun a b : TimedBookmark => compareField zone c.sortField c.sortDirection a.val b.val)
      (fun a b : TimedBookmark => compareBy zone rest a.val b.val)))

end TimedBookmark

theorem compareBy_swap {zone : Int} {criteria : List CriterionForm} {a b : Bookmark}
    (ha : a.timestamp ≠ .nan) (hb : b.timestamp ≠ .nan) :
    compareBy zone criteria b a = (compareBy zone criteria a b).swap := by
  let cmp (a b : TimedBookmark) : Ordering := compareBy zone criteria a.val b.val
  let first : TimedBookmark := ⟨a, ha⟩
  let second : TimedBookmark := ⟨b, hb⟩
  have swapped : cmp second first = (cmp first second).swap := OrientedCmp.eq_swap
  exact swapped

/-- The first criterion, in order, that tells two bookmarks apart, as the order it gives them. -/
def firstDecision (zone : Int) (criteria : List CriterionForm) (a b : Bookmark) :
    Option Ordering :=
  (criteria.map fun c => c.compare zone a b).find? (· != .eq)

theorem compareBy_eq_firstDecision (zone : Int) (criteria : List CriterionForm) (a b : Bookmark) :
    compareBy zone criteria a b = (firstDecision zone criteria a b).getD .eq := by
  induction criteria with
  | nil => rfl
  | cons c rest ih =>
    rw [compareBy, ih]
    unfold firstDecision
    rw [List.map_cons, List.find?_cons]
    cases c.compare zone a b <;> rfl

theorem firstDecision_ne_eq (zone : Int) (criteria : List CriterionForm) (a b : Bookmark) :
    firstDecision zone criteria a b ≠ some .eq := by
  intro h
  have := List.find?_some h
  simp at this

theorem compareBy_eq_lt {zone : Int} {criteria : List CriterionForm} {a b : Bookmark} :
    compareBy zone criteria a b = .lt ↔ firstDecision zone criteria a b = some .lt := by
  rw [compareBy_eq_firstDecision]
  cases firstDecision zone criteria a b <;> simp

theorem compareBy_eq_eq {zone : Int} {criteria : List CriterionForm} {a b : Bookmark} :
    compareBy zone criteria a b = .eq ↔ firstDecision zone criteria a b = none := by
  have := firstDecision_ne_eq zone criteria a b
  rw [compareBy_eq_firstDecision]
  cases h : firstDecision zone criteria a b with
  | none => simp
  | some o => simpa [h] using this

end Bookmarks
