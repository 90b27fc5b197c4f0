import Bookmarks.Json.Writer

/-! Induction over JSON values, and what holds of a value when it holds of its parts. A value is
proper when no object in it has a key twice. -/

namespace Bookmarks

namespace Json

/-- What holds of scalars, and of arrays and objects when it holds of their parts, holds of all. -/
@[elab_as_elim]
theorem induction {motive : Json → Prop} (null : motive null) (bool : ∀ b, motive (bool b))
    (int : ∀ i, motive (int i)) (double : ∀ d, motive (double d)) (str : ∀ s, motive (str s))
    (arr : ∀ items, (∀ x ∈ items, motive x) → motive (arr items))
    (obj : ∀ fields, (∀ f ∈ fields, motive f.2) → motive (obj fields)) (v : Json) : motive v :=
  match v with
  | .null => null
  | .bool b => bool b
  | .int i => int i
  | .double d => double d
  | .str s => str s
  | .arr items => arr items fun x _ => induction null bool int double str arr obj x
  | .obj fields => obj fields fun f _ => induction null bool int double str arr obj f.2
termination_by sizeOf v
decreasing_by
  · next member =>
    have smaller := List.sizeOf_lt_of_mem member
    simp only [Json.arr.sizeOf_spec]
    omega
  · next member =>
    have smaller := List.sizeOf_lt_of_mem member
    have parted : sizeOf f = 1 + sizeOf f.1 + sizeOf f.2 := by
      cases f
      simp
    simp only [Json.obj.sizeOf_spec]
    omega

theorem areWritable_iff {items : List Json} :
    areWritable items = true ↔ ∀ x ∈ items, x.isWritable = true := by
  induction items with
  | nil => simp [areWritable]
  | cons x rest ih => simp [areWritable, ih]

theorem areWritableFields_iff {fields : List (String × Json)} :
    areWritableFields fields = true ↔ ∀ f ∈ fields, f.2.isWritable = true := by
  induction fields with
  | nil => simp [areWritableFields]
  | cons f rest ih => simp [areWritableFields, ih]

theorem itemsDepth_le {items : List Json} {n : Nat} :
    itemsDepth items ≤ n ↔ ∀ x ∈ items, x.depth ≤ n := by
  induction items with
  | nil => simp [itemsDepth]
  | cons x rest ih => simp [itemsDepth, Nat.max_le, ih]

theorem fieldsDepth_le {fields : List (String × Json)} {n : Nat} :
    fieldsDepth fields ≤ n ↔ ∀ f ∈ fields, f.2.depth ≤ n := by
  induction fields with
  | nil => simp [fieldsDepth]
  | cons f rest ih => simp [fieldsDepth, Nat.max_le, ih]

@[simp] theorem depth_str (s : String) : (str s).depth = 0 := rfl

@[simp] theorem depth_int (i : Int) : (int i).depth = 0 := rfl

@[simp] theorem isWritable_str (s : String) : (str s).isWritable = true := rfl

mutual

/-- Whether no object in a value has a key twice. -/
def isProper : Json → Bool
  | arr items => areProper items
  | obj fields => decide (fields.map Prod.fst).Nodup && areProperFields fields
  | _ => true

def areProper : List Json → Bool
  | [] => true
  | x :: rest => isProper x && areProper rest

def areProperFields : List (String × Json) → Bool
  | [] => true
  | (_, value) :: rest => isProper value && areProperFields rest

end

@[simp] theorem isProper_str (s : String) : (str s).isProper = true := rfl

@[simp] theorem isProper_int (i : Int) : (int i).isProper = true := rfl

theorem isProper_arr {items : List Json} :
    (arr items).isProper = true ↔ ∀ x ∈ items, x.isProper = true := by
  rw [isProper]
  induction items with
  | nil => simp [areProper]
  | cons x rest ih => simp [areProper, ih]

theorem areProperFields_iff {fields : List (String × Json)} :
    areProperFields fields = true ↔ ∀ f ∈ fields, f.2.isProper = true := by
  induction fields with
  | nil => simp [areProperFields]
  | cons f rest ih => simp [areProperFields, ih]

theorem isProper_obj {fields : List (String × Json)} :
    (obj fields).isProper = true ↔
      (fields.map Prod.fst).Nodup ∧ ∀ f ∈ fields, f.2.isProper = true := by
  rw [isProper, Bool.and_eq_true, decide_eq_true_eq, areProperFields_iff]

end Json

end Bookmarks
