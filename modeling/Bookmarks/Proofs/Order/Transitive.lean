import Bookmarks.Proofs.Finder.Reading
import Bookmarks.Proofs.Order.Comparison

/-! Two bookmarks always compare one way and, turned round, the other way. Comparing is transitive
too, with one exception: a timestamp that is not a number is level with every other timestamp, and
so what it stands between has no order that could be passed on. Such timestamps are read from JSON,
also from texts. -/

namespace Bookmarks

open Std (OrientedCmp TransCmp)

/-- Whether a bookmark has a place in the order of a field. -/
def Bookmark.IsRanked (field : SortField) (b : Bookmark) : Prop :=
  field = .timestamp → b.timestamp ≠ .nan

section Compare

variable (zone : Int) {field : SortField} {direction : Direction} {a b c : Bookmark}

/-- The timestamp counts for its own field only. -/
theorem Bookmark.IsRanked.exists_timed (ranked : b.IsRanked field) :
    ∃ t : TimedBookmark, t.val.sortKey zone field = b.sortKey zone field := by
  by_cases own : field = .timestamp
  · exact ⟨⟨b, ranked own⟩, rfl⟩
  · refine ⟨⟨{ b with timestamp := .zero }, nofun⟩, ?_⟩
    cases field with
    | timestamp => exact absurd rfl own
    | _ => rfl

theorem compareField_congr {a' b' : Bookmark} (ha : a'.sortKey zone field = a.sortKey zone field)
    (hb : b'.sortKey zone field = b.sortKey zone field) :
    compareField zone field direction a' b' = compareField zone field direction a b := by
  unfold compareField
  rw [ha, hb]

theorem SortKey.compareDoubles_of_nan {x y : Double} (h : x = .nan ∨ y = .nan) :
    compareDoubles x y = .eq := by
  cases h with
  | inl h => subst h; cases y <;> rfl
  | inr h => subst h; cases x <;> rfl

theorem compareField_of_not_isRanked (h : ¬a.IsRanked field ∨ ¬b.IsRanked field) :
    compareField zone field direction a b = .eq := by
  simp only [Bookmark.IsRanked, Classical.not_imp, Decidable.not_not] at h
  have own : field = .timestamp := by
    cases h with
    | inl h => exact h.1
    | inr h => exact h.1
  have level : SortKey.compareDoubles a.timestamp b.timestamp = .eq :=
    SortKey.compareDoubles_of_nan (h.imp And.right And.right)
  subst own
  cases direction with
  | ascending => exact level
  | descending => exact congrArg Ordering.swap level

theorem compareField_swap :
    compareField zone field direction a b = (compareField zone field direction b a).swap := by
  by_cases ranked : a.IsRanked field ∧ b.IsRanked field
  · have ⟨s, hs⟩ := ranked.1.exists_timed zone
    have ⟨t, ht⟩ := ranked.2.exists_timed zone
    let cmp (a b : TimedBookmark) : Ordering := compareField zone field direction a.val b.val
    have swapped : cmp s t = (cmp t s).swap := OrientedCmp.eq_swap
    rw [← compareField_congr zone hs ht, ← compareField_congr zone ht hs]
    exact swapped
  · rw [not_and_or] at ranked
    rw [compareField_of_not_isRanked zone ranked, compareField_of_not_isRanked zone ranked.symm]
    rfl

theorem Bookmark.IsRanked.isLE_trans (ranked : b.IsRanked field)
    (hab : (compareField zone field direction a b).isLE)
    (hbc : (compareField zone field direction b c).isLE) :
    (compareField zone field direction a c).isLE := by
  by_cases ends : a.IsRanked field ∧ c.IsRanked field
  · have ⟨s, hs⟩ := ends.1.exists_timed zone
    have ⟨t, ht⟩ := ranked.exists_timed zone
    have ⟨u, hu⟩ := ends.2.exists_timed zone
    let cmp (a b : TimedBookmark) : Ordering := compareField zone field direction a.val b.val
    have passes : (cmp s t).isLE → (cmp t u).isLE → (cmp s u).isLE := TransCmp.isLE_trans
    rw [← compareField_congr zone hs ht] at hab
    rw [← compareField_congr zone ht hu] at hbc
    rw [← compareField_congr zone hs hu]
    exact passes hab hbc
  · rw [compareField_of_not_isRanked zone (not_and_or.1 ends)]
    rfl

end Compare

theorem Double.isFinite_of_ofInt? {i : Int} {d : Double} (h : ofInt? i = some d) :
    d.isFinite = true := by
  unfold ofInt? at h
  generalize ofInt i = nearest at h
  split at h
  · next finite =>
    cases h
    exact finite
  · cases h

namespace Number

theorem toDoubleBy_eq_nan_iff {ofInt? : Int → Option Double} {n : Number}
    (finite : ∀ i, ofInt? i ≠ some .nan) :
    n.toDoubleBy ofInt? = .ok .nan ↔ n = .double .nan := by
  cases n with
  | whole i =>
    have := finite i
    cases found : ofInt? i <;> simp_all [toDoubleBy]
  | double d => simp [toDoubleBy]

/-- A whole number becomes a number or, past the largest double, none. -/
theorem toDouble_eq_nan_iff {n : Number} : n.toDouble = .ok .nan ↔ n = .double .nan := by
  rw [toDouble_eq]
  apply toDoubleBy_eq_nan_iff
  intro i h
  exact absurd (Double.isFinite_of_ofInt? h) Bool.false_ne_true

end Number

namespace Json

/-- Whether a value is not a number, or a text that spells that. -/
def IsNaN (value : Json) : Prop :=
  value = .double .nan ∨ ∃ s, value = .str s ∧ Literal.double? s.toList = some .nan

theorem not_isVoid_of_isNaN {value : Json} (h : value.IsNaN) : value.isVoid = false := by
  obtain rfl | ⟨s, rfl, read⟩ := h
  · rfl
  · have empty : Literal.double? "".toList = none := by decide
    rw [isVoid, Bool.eq_false_iff]
    intro void
    rw [String.isEmpty_iff.1 void, empty] at read
    cases read

theorem seconds_eq_nan_iff {value : Json} : value.seconds = .ok .nan ↔ value.IsNaN := by
  by_cases void : value.isVoid = true
  · have zero : value.seconds = .ok .zero := if_pos void
    rw [zero]
    refine ⟨nofun, fun h => ?_⟩
    rw [not_isVoid_of_isNaN h] at void
    cases void
  · unfold IsNaN seconds
    rw [if_neg void]
    cases value with
    | str s => cases read : Literal.double? s.toList <;> simp [read, Double.zero]
    | double d => simp [number?, Number.toDouble_eq_nan_iff]
    | int i => simp [number?, Number.toDouble_eq_nan_iff]
    | bool b => simp [number?, Number.toDouble_eq_nan_iff]
    | _ => simp [number?, Double.zero]

end Json

theorem Bookmark.timestamp_eq_nan_iff {fields : Json.Fields} {b : Bookmark}
    (read : ofFields fields = .ok b) : b.timestamp = .nan ↔ (fields.at "timestamp").IsNaN := by
  have ⟨timestamp, seconds, read⟩ := exists_of_bind read
  have ⟨id, _, read⟩ := exists_of_bind read
  have ⟨tags, _, read⟩ := exists_of_bind read
  cases read
  rw [← Json.seconds_eq_nan_iff, seconds, Except.ok.injEq]

namespace CriterionForm

variable (zone : Int) (criterion : CriterionForm)

/-- In either direction some two timestamps are in the wrong order. -/
theorem exists_greater (own : criterion.sortField = .timestamp) :
    ∃ x y a c, Bookmark.ofFields x = .ok a ∧ Bookmark.ofFields y = .ok c ∧
      criterion.compare zone a c = .gt := by
  let endless (negative : Bool) : Bookmark := ⟨"", "", .infinity negative, "", "", none, []⟩
  have made (negative : Bool) : Bookmark.ofFields
      [("timestamp", .double (.infinity negative))] = .ok (endless negative) := rfl
  unfold CriterionForm.compare
  rw [own]
  cases criterion.sortDirection with
  | ascending => exact ⟨_, _, _, _, made false, made true, rfl⟩
  | descending => exact ⟨_, _, _, _, made true, made false, rfl⟩

/-- A bookmark that is read from an object compares with any other one way or, turned round, the
other way; and the order of others with it can be passed on unless the field is the timestamp and
that of the object is not a number. -/
theorem compare_passes_iff {fields : Json.Fields} {b : Bookmark}
    (read : Bookmark.ofFields fields = .ok b) :
    (∀ a, criterion.compare zone a b = (criterion.compare zone b a).swap) ∧
    ((∀ x y a c, Bookmark.ofFields x = .ok a → Bookmark.ofFields y = .ok c →
      (criterion.compare zone a b).isLE → (criterion.compare zone b c).isLE →
        (criterion.compare zone a c).isLE) ↔
      ¬(criterion.sortField = .timestamp ∧ (fields.at "timestamp").IsNaN)) := by
  refine ⟨fun a => compareField_swap zone, ?_⟩
  rw [← Bookmark.timestamp_eq_nan_iff read]
  constructor
  · intro passes ⟨own, unranked⟩
    have level {a c : Bookmark} (h : a.timestamp = .nan ∨ c.timestamp = .nan) :
        criterion.compare zone a c = .eq :=
      compareField_of_not_isRanked zone (h.imp (fun nan ranked => ranked own nan)
        fun nan ranked => ranked own nan)
    have ⟨x, y, a, c, made, made', greater⟩ := criterion.exists_greater zone own
    have := passes x y a c made made' (by rw [level (.inr unranked)]; rfl)
      (by rw [level (.inl unranked)]; rfl)
    rw [greater] at this
    cases this
  · intro sound x y a c _ _ hab hbc
    have ranked : b.IsRanked criterion.sortField := fun own nan => sound ⟨own, nan⟩
    exact ranked.isLE_trans zone hab hbc

/-- A text that spells a number, with the field of timestamps. -/
theorem compare_passes_spelled :
    let criterion : CriterionForm := { field := .str "timestamp", direction := .str "desc" }
    let b : Bookmark := ⟨"", "", .ofInt 1, "", "", none, []⟩
    Bookmark.ofFields [("timestamp", .str " 1_0e-1 ")] = .ok b ∧
    (∀ a, criterion.compare 0 a b = (criterion.compare 0 b a).swap) ∧
    ((∀ x y a c, Bookmark.ofFields x = .ok a → Bookmark.ofFields y = .ok c →
      (criterion.compare 0 a b).isLE → (criterion.compare 0 b c).isLE →
        (criterion.compare 0 a c).isLE) ↔
      ¬(criterion.sortField = .timestamp ∧
        (Json.Fields.at [("timestamp", .str " 1_0e-1 ")] "timestamp").IsNaN)) := by
  intro criterion b
  have read : Bookmark.ofFields [("timestamp", .str " 1_0e-1 ")] = .ok b := by decide +kernel
  exact ⟨read, criterion.compare_passes_iff 0 read⟩

/-- Between the timestamps 2 and 1 a text that spells not a number passes no order on. -/
theorem not_compare_passes :
    ¬∀ (zone : Int) (criterion : CriterionForm) (x y z : Json.Fields) (a b c : Bookmark),
      Bookmark.ofFields x = .ok a → Bookmark.ofFields y = .ok b → Bookmark.ofFields z = .ok c →
      criterion.compare zone a b = (criterion.compare zone b a).swap ∧
      ((criterion.compare zone a b).isLE → (criterion.compare zone b c).isLE →
        (criterion.compare zone a c).isLE) := by
  intro ordered
  let made (timestamp : Double) : Bookmark := ⟨"", "", timestamp, "", "", none, []⟩
  have ⟨_, passes⟩ := ordered 0 { field := .str "timestamp" } [("timestamp", .int 2)]
    [("timestamp", .str "nan")] [("timestamp", .int 1)] (made (.ofInt 2)) (made .nan)
    (made (.ofInt 1)) (by decide +kernel) (by decide +kernel) (by decide +kernel)
  exact absurd (passes (by decide +kernel) (by decide +kernel)) (by decide +kernel)

end CriterionForm

end Bookmarks
