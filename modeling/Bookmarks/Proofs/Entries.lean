import Bookmarks.Entries

/-! Putting a value under a key adds an entry or replaces one, and keeps the keys distinct. -/

namespace Bookmarks

namespace Entries

variable {κ α : Type} [BEq κ] [LawfulBEq κ]

theorem put_of_not_mem {entries : Entries κ α} {key : κ} (h : key ∉ entries.map Prod.fst)
    (value : α) : entries.put key value = entries ++ [(key, value)] := by
  induction entries with
  | nil => rfl
  | cons e rest ih =>
    simp only [List.map_cons, List.mem_cons, not_or] at h
    rw [put, if_neg (by simpa using h.1), ih h.2, List.cons_append]

omit [BEq κ] [LawfulBEq κ] in
theorem not_mem_of_nodup {entries rest : List (κ × α)} {p : κ × α}
    (h : ((entries ++ p :: rest).map Prod.fst).Nodup) : p.1 ∉ entries.map Prod.fst := by
  intro twice
  rw [List.map_append, List.nodup_append] at h
  exact h.2.2 p.1 twice p.1 (by simp) rfl

theorem putAll_of_nodup {entries : Entries κ α} {pairs : List (κ × α)}
    (h : ((entries ++ pairs).map Prod.fst).Nodup) : entries.putAll pairs = entries ++ pairs := by
  induction pairs generalizing entries with
  | nil => rw [List.append_nil]; rfl
  | cons p rest ih =>
    have fresh := not_mem_of_nodup h
    have put_eq := put_of_not_mem fresh p.2
    have moved : entries ++ p :: rest = entries ++ [p] ++ rest := by simp
    rw [moved] at h ⊢
    rw [← ih h, ← put_eq]
    rfl

theorem ofPairs_of_nodup {pairs : List (κ × α)} (h : (pairs.map Prod.fst).Nodup) :
    ofPairs pairs = pairs := putAll_of_nodup h

theorem put_append_cons {done rest : Entries κ α} {key : κ} (h : key ∉ done.map Prod.fst)
    (old value : α) :
    Entries.put (done ++ (key, old) :: rest) key value = done ++ (key, value) :: rest := by
  induction done with
  | nil => rw [List.nil_append, put, if_pos (beq_self_eq_true key), List.nil_append]
  | cons e done ih =>
    simp only [List.map_cons, List.mem_cons, not_or] at h
    rw [List.cons_append, put, if_neg (by simpa using h.1), ih h.2, List.cons_append]

/-- A value for each of the keys that are there leaves none of the values before. -/
theorem putAll_of_same_keys {done entries pairs : Entries κ α}
    (same : entries.map Prod.fst = pairs.map Prod.fst)
    (distinct : ((done ++ pairs).map Prod.fst).Nodup) :
    Entries.putAll (done ++ entries) pairs = done ++ pairs := by
  induction pairs generalizing done entries with
  | nil =>
    rw [List.map_eq_nil_iff.1 same]
    rfl
  | cons p rest ih =>
    cases entries with
    | nil => cases same
    | cons e others =>
      have ⟨first, same⟩ := List.cons.inj same
      have fresh := not_mem_of_nodup distinct
      have placed : Entries.put (done ++ e :: others) p.1 p.2 = done ++ [p] ++ others := by
        rw [← first] at fresh ⊢
        rw [put_append_cons fresh, first]
        simp
      have moved : done ++ p :: rest = done ++ [p] ++ rest := by simp
      rw [moved] at distinct ⊢
      rw [← ih same distinct, ← placed]
      rfl

theorem mem_of_lookup {entries : Entries κ α} {key : κ} {value : α}
    (h : entries.lookup key = some value) : (key, value) ∈ entries := by
  have ⟨before, after, parted, _⟩ := List.lookup_eq_some_iff.1 h
  simp [parted]

theorem lookup_of_not_mem {entries : Entries κ α} {key : κ} (h : key ∉ entries.map Prod.fst) :
    entries.lookup key = none := by
  rw [List.lookup_eq_none_iff]
  intro e member
  rw [bne_iff_ne]
  intro same
  exact h (List.mem_map.2 ⟨e, member, same.symm⟩)

theorem mem_put {entries : Entries κ α} {key : κ} {value : α} {e : κ × α}
    (h : e ∈ entries.put key value) : e = (key, value) ∨ e ∈ entries := by
  induction entries with
  | nil => exact .inl (List.mem_singleton.1 h)
  | cons first rest ih =>
    rw [put] at h
    split at h
    · next same =>
      cases List.mem_cons.1 h with
      | inl h => exact .inl (by rw [h, eq_of_beq same])
      | inr h => exact .inr (List.mem_cons_of_mem first h)
    · cases List.mem_cons.1 h with
      | inl h => exact .inr (by rw [h]; exact List.mem_cons_self)
      | inr h =>
        cases ih h with
        | inl h => exact .inl h
        | inr h => exact .inr (List.mem_cons_of_mem first h)

theorem mem_putAll {entries : Entries κ α} {pairs : List (κ × α)} {e : κ × α}
    (h : e ∈ entries.putAll pairs) : e ∈ pairs ∨ e ∈ entries := by
  induction pairs generalizing entries with
  | nil => exact .inr h
  | cons p rest ih =>
    cases ih h with
    | inl later => exact .inl (List.mem_cons_of_mem p later)
    | inr before =>
      cases mem_put before with
      | inl same => exact .inl (by rw [same]; exact List.mem_cons_self)
      | inr before => exact .inr before

theorem lookup_putAll_cases {entries : Entries κ α} {pairs : List (κ × α)} {key : κ} {value : α}
    (h : (entries.putAll pairs).lookup key = some value) :
    (key, value) ∈ pairs ∨ entries.lookup key = some value := by
  induction pairs generalizing entries with
  | nil => exact .inr h
  | cons p rest ih =>
    have ⟨k, v⟩ := p
    cases ih h with
    | inl later => exact .inl (List.mem_cons_of_mem _ later)
    | inr before =>
      by_cases same : key = k
      · rw [same, lookup_put_self] at before
        cases before
        rw [same]
        exact .inl List.mem_cons_self
      · rw [lookup_put_of_ne _ _ same] at before
        exact .inr before

/-- Of entries that are put over others, each counts for its own key, and the others for the rest. -/
theorem lookup_putAll {pairs : List (κ × α)} (distinct : (pairs.map Prod.fst).Nodup)
    (entries : Entries κ α) (key : κ) :
    (entries.putAll pairs).lookup key = (pairs.lookup key).or (entries.lookup key) := by
  induction pairs generalizing entries with
  | nil => rfl
  | cons p rest ih =>
    have ⟨k, v⟩ := p
    rw [List.map_cons, List.nodup_cons] at distinct
    have later : (Entries.putAll entries ((k, v) :: rest)).lookup key =
        (rest.lookup key).or ((entries.put k v).lookup key) := ih distinct.2 (entries.put k v)
    rw [later, List.lookup_cons]
    by_cases same : key = k
    · rw [same, lookup_of_not_mem distinct.1, lookup_put_self, beq_self_eq_true]
      rfl
    · rw [lookup_put_of_ne _ _ same, beq_eq_false_iff_ne.2 same]

theorem mem_ofPairs {pairs : List (κ × α)} {e : κ × α} (h : e ∈ ofPairs pairs) : e ∈ pairs :=
  (mem_putAll h).resolve_right List.not_mem_nil

theorem map_fst_put_of_mem {entries : Entries κ α} {key : κ} (h : key ∈ entries.map Prod.fst)
    (value : α) : (entries.put key value).map Prod.fst = entries.map Prod.fst := by
  induction entries with
  | nil => cases h
  | cons first rest ih =>
    rw [put]
    split
    · rfl
    · next other =>
      have later : key ∈ rest.map Prod.fst := by
        cases List.mem_cons.1 h with
        | inl same => exact absurd (beq_iff_eq.2 same) other
        | inr later => exact later
      rw [List.map_cons, ih later, List.map_cons]

theorem nodup_put {entries : Entries κ α} (h : (entries.map Prod.fst).Nodup) (key : κ)
    (value : α) : ((entries.put key value).map Prod.fst).Nodup := by
  by_cases member : key ∈ entries.map Prod.fst
  · rwa [map_fst_put_of_mem member]
  · rw [put_of_not_mem member, List.map_append, List.nodup_append]
    refine ⟨h, by simp, ?_⟩
    intro k hk l hl same
    rw [same, List.mem_singleton.1 hl] at hk
    exact member hk

theorem nodup_putAll {entries : Entries κ α} (h : (entries.map Prod.fst).Nodup)
    (pairs : List (κ × α)) : ((entries.putAll pairs).map Prod.fst).Nodup := by
  induction pairs generalizing entries with
  | nil => exact h
  | cons p rest ih => exact ih (nodup_put h p.1 p.2)

theorem nodup_ofPairs (pairs : List (κ × α)) : ((ofPairs pairs).map Prod.fst).Nodup := by
  have empty : (([] : Entries κ α).map Prod.fst).Nodup := List.nodup_nil
  exact nodup_putAll empty pairs

end Entries

end Bookmarks
