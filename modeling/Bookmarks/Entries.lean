/-! Values under keys, in the order in which the keys first came. Putting a value under a key that
is there replaces the value and keeps the place. -/

namespace Bookmarks

abbrev Entries (κ α : Type) := List (κ × α)

namespace Entries

variable {κ α : Type} [BEq κ]

def put (entries : Entries κ α) (key : κ) (value : α) : Entries κ α :=
  match entries with
  | [] => [(key, value)]
  | (k, v) :: rest => if key == k then (k, value) :: rest else (k, v) :: put rest key value

def erase (entries : Entries κ α) (key : κ) : Entries κ α :=
  match entries with
  | [] => []
  | (k, v) :: rest => if key == k then erase rest key else (k, v) :: erase rest key

def has (entries : Entries κ α) (key : κ) : Bool := (entries.lookup key).isSome

/-- Puts all pairs in turn, so that the last value of a key stays. -/
def putAll (entries : Entries κ α) (pairs : List (κ × α)) : Entries κ α :=
  pairs.foldl (fun es p => es.put p.1 p.2) entries

def ofPairs (pairs : List (κ × α)) : Entries κ α := putAll [] pairs

theorem lookup_put_self [LawfulBEq κ] (entries : Entries κ α) (key : κ) (value : α) :
    (entries.put key value).lookup key = some value := by
  induction entries with
  | nil => simp [put]
  | cons e rest ih =>
    obtain ⟨k, v⟩ := e
    by_cases h : key == k <;> simp [put, h, List.lookup_cons, ih]

theorem lookup_put_of_ne [LawfulBEq κ] (entries : Entries κ α) {key other : κ} (value : α)
    (h : other ≠ key) : (entries.put key value).lookup other = entries.lookup other := by
  induction entries with
  | nil => simp [put, List.lookup_cons, beq_eq_false_iff_ne.2 h]
  | cons e rest ih =>
    obtain ⟨k, v⟩ := e
    by_cases hk : key == k
    · have ho : (other == k) = false := beq_eq_false_iff_ne.2 (eq_of_beq hk ▸ h)
      simp [put, hk, List.lookup_cons, ho]
    · simp [put, hk, List.lookup_cons, ih]

theorem lookup_erase_self [LawfulBEq κ] (entries : Entries κ α) (key : κ) :
    (entries.erase key).lookup key = none := by
  induction entries with
  | nil => rfl
  | cons e rest ih =>
    obtain ⟨k, v⟩ := e
    by_cases h : key == k <;> simp [erase, h, List.lookup_cons, ih]

theorem lookup_erase_of_ne [LawfulBEq κ] (entries : Entries κ α) {key other : κ}
    (h : other ≠ key) : (entries.erase key).lookup other = entries.lookup other := by
  induction entries with
  | nil => rfl
  | cons e rest ih =>
    obtain ⟨k, v⟩ := e
    by_cases hk : key == k
    · have ho : (other == k) = false := beq_eq_false_iff_ne.2 (eq_of_beq hk ▸ h)
      simp [erase, hk, List.lookup_cons, ho, ih]
    · simp [erase, hk, List.lookup_cons, ih]

end Entries

end Bookmarks
