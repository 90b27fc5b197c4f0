import Bookmarks.Proofs.History.Reply
import Bookmarks.Proofs.Preset.Active

/-! Presets that are laid over settings. What a preset carries is then there, so that the preset is
active and laying it over once more changes nothing; what it does not carry is as it was. This holds
of the presets that are saved from settings and of those that everyone has, and of any preset that
carries settings of their kinds. -/

namespace Bookmarks

/-- Of the values up to a position, the first one that passes a test is the one at the front if that
one passes it. -/
theorem eq_of_find?_upTo_cons {α : Type} {room : Int} {x y : α} {xs : List α} {test : α → Bool}
    (passes : test x = true) (found : (upTo room (x :: xs)).find? test = some y) : y = x := by
  have prefixed : ∃ n, upTo room (x :: xs) = (x :: xs).take n := by
    unfold upTo
    split <;> exact ⟨_, rfl⟩
  have ⟨n, taken⟩ := prefixed
  rw [taken] at found
  cases n with
  | zero => cases found
  | succ n =>
    rw [List.take_succ_cons, List.find?_cons_of_pos passes] at found
    exact (Option.some.inj found).symm

theorem Setting.key_inj {j k : Setting} (same : j.key = k.key) : j = k := by
  cases j <;> cases k <;> simp [key] at same ⊢

theorem Setting.admits_write (k : Setting) (part : k.Part) : k.Admits (k.write part) := by
  cases k with
  | dateRange =>
    have ⟨start, stop⟩ := part
    refine ⟨_, rfl, ?_⟩
    simp [List.lookup_cons]
  | criteria =>
    refine ⟨_, rfl, List.forall_mem_map.2 ?_⟩
    intro c _
    have ⟨fields, written, read⟩ := SortCriterion.ofFields?_toJson c
    exact ⟨fields, c, written, read⟩
  | _ => exact ⟨_, rfl⟩

namespace Preset

section Apply

variable {p : Preset} {v t : ViewSettings}

/-- A setting that a preset does not carry is left as it is. -/
theorem part_of_apply (distinct : (p.filters.map Prod.fst).Nodup)
    (applied : p.apply (.ofSettings v) = .ok t) {k : Setting}
    (absent : k.key ∉ p.filters.map Prod.fst) : t.part k = v.part k := by
  rw [apply, SettingsForm.merged_of_toFields v.toFields_ofSettings] at applied
  exact ViewSettings.part_of_not_mem distinct v.ofFields_form applied absent

/-- A preset that is there is not changed by laying it over once more. -/
theorem apply_of_apply (distinct : (p.filters.map Prod.fst).Nodup)
    (applied : p.apply (.ofSettings v) = .ok t) : p.apply (.ofSettings t) = .ok t := by
  rw [apply, SettingsForm.merged_of_toFields v.toFields_ofSettings] at applied
  rw [apply, SettingsForm.merged_of_toFields t.toFields_ofSettings, ViewSettings.ofFields_eq_ok_iff]
  intro k
  have laid := ViewSettings.read_of_ofFields applied k
  rw [ViewSettings.at_putAll distinct] at laid ⊢
  cases found : p.filters.lookup k.key with
  | none =>
    rw [Option.none_or]
    exact ViewSettings.read_of_ofFields t.ofFields_form k
  | some value =>
    rw [found] at laid
    exact laid

end Apply

/-- Whether a preset is saved from settings, is one that everyone has, or carries any settings of
their kinds. -/
inductive IsOffered (p : Preset) : Prop
  | saved {τ : Type} [Timeline τ] {s : HistorySession τ} {name description id : Json}
      {v : ViewSettings}
      (answer : (s.savePreset name description (.settings (.ofSettings v))).2 = .ok id)
      (found : (s.savePreset name description
        (.settings (.ofSettings v))).1.store.history.preset? id = some p)
  | builtIn {today : Nat} {presets : List Preset} (listed : builtIn today = .ok presets)
      (member : p ∈ presets)
  | typed (typed : p.IsTyped)

theorem isTyped_of_written {p : Preset} (distinct : (p.filters.map Prod.fst).Nodup)
    (written : ∀ entry ∈ p.filters, ∃ (k : Setting) (part : k.Part),
      entry = (k.key, k.write part)) : p.IsTyped := by
  refine ⟨distinct, ?_⟩
  intro k value found
  have ⟨j, part, is_entry⟩ := written (k.key, value) (Entries.mem_of_lookup found)
  have ⟨same_key, is_value⟩ := Prod.mk.inj is_entry
  cases Setting.key_inj same_key
  exact is_value ▸ k.admits_write part

theorem isTyped_of_form {p : Preset} {v : ViewSettings} (own : p.filters = v.form) : p.IsTyped := by
  apply isTyped_of_written (own ▸ v.nodup_form)
  simp only [own, ViewSettings.form, List.forall_mem_cons]
  exact ⟨⟨.searchTerm, _, rfl⟩, ⟨.dateRange, (_, _), rfl⟩, ⟨.tags, _, rfl⟩, ⟨.sortBy, _, rfl⟩,
    ⟨.direction, _, rfl⟩, ⟨.file, _, rfl⟩, ⟨.criteria, _, rfl⟩, ⟨.multiSort, _, rfl⟩,
    List.forall_mem_nil _⟩

/-- A preset that is saved from settings carries all of them. -/
theorem filters_of_saved {τ : Type} [Timeline τ] {s : HistorySession τ}
    {name description id : Json} {v : ViewSettings} {p : Preset}
    (answer : (s.savePreset name description (.settings (.ofSettings v))).2 = .ok id)
    (found : (s.savePreset name description
      (.settings (.ofSettings v))).1.store.history.preset? id = some p) :
    p.filters = v.form := by
  have reply := s.reply_savePreset name description (.settings (.ofSettings v))
  generalize (s.savePreset name description (.settings (.ofSettings v))).1 = after at reply found
  rw [answer] at reply
  cases reply with
  | absent kind => simp at kind
  | save named given described =>
    cases given.symm.trans v.toFields_ofSettings
    have first := eq_of_find?_upTo_cons (by simp [History.isIdOf, Json.text?]) found
    rw [first]
    rfl

theorem isTyped_of_newestFirst {p : Preset} (k : Setting) (part : k.Part)
    (own : p.filters = (k.key, k.write part) :: newestFirst)
    (other : k.key ∉ newestFirst.map Prod.fst) : p.IsTyped := by
  have distinct : (newestFirst.map Prod.fst).Nodup := by decide
  apply isTyped_of_written (own ▸ List.nodup_cons.2 ⟨other, distinct⟩)
  simp only [own, newestFirst, List.forall_mem_cons]
  exact ⟨⟨k, part, rfl⟩, ⟨.sortBy, .createdAt, rfl⟩, ⟨.direction, .descending, rfl⟩,
    List.forall_mem_nil _⟩

theorem isTyped_of_builtIn {today : Nat} {presets : List Preset}
    (listed : builtIn today = .ok presets) {p : Preset} (member : p ∈ presets) : p.IsTyped := by
  unfold builtIn at listed
  split at listed
  · cases listed
  · cases listed
    have since (start : Date) {q : Preset} (own : q.filters = sinceDay start) : q.IsTyped :=
      isTyped_of_newestFirst .dateRange (String.ofList start.text, "") own (by decide)
    simp only [List.mem_cons, List.not_mem_nil, or_false] at member
    rcases member with recent | this_week | favorites
    · exact since _ (congrArg filters recent)
    · exact since _ (congrArg filters this_week)
    · exact isTyped_of_newestFirst .tags ["favorite"] (congrArg filters favorites) (by decide)

theorem IsOffered.isTyped {p : Preset} (offered : p.IsOffered) : p.IsTyped := by
  cases offered with
  | saved answer found => exact isTyped_of_form (filters_of_saved answer found)
  | builtIn listed member => exact isTyped_of_builtIn listed member
  | typed typed => exact typed

/-- A preset that is laid over settings is active, is not changed by laying it over once more, and
leaves each setting that it does not carry. -/
theorem isActive_apply {p : Preset} (offered : p.IsOffered) (v : ViewSettings) :
    ∃ t, p.apply (.ofSettings v) = .ok t ∧ p.isActive (.ofSettings t) = .ok true ∧
      p.apply (.ofSettings t) = .ok t ∧
      ∀ k : Setting, k.key ∉ p.filters.map Prod.fst → t.part k = v.part k := by
  have typed : p.IsTyped := offered.isTyped
  have ⟨t, applied⟩ := exists_apply typed v
  have again : p.apply (.ofSettings t) = .ok t := apply_of_apply typed.distinct applied
  have ⟨active, reached, holds⟩ := isActive_decides typed t
  have agrees (k : Setting) : p.Agrees t k :=
    (alike_iff_agrees typed.distinct again k).1 (.refl k (t.part k))
  have is_active : active = true := holds.2 fun k _ => agrees k
  exact ⟨t, applied, is_active ▸ reached, again, fun k => part_of_apply typed.distinct applied⟩

/-- A preset that is saved with its tags repeated and is laid over a search. -/
theorem isActive_apply_saved :
    let s : HistorySession Int :=
      { config := { debounce := 5 }, backend := {}, now := 0, today := "2024-03-15" }
    let own : ViewSettings := { tags := ["b", "a", "b"], rangeStop := "2024" }
    let v : ViewSettings := { searchTerm := "x", criteria := [{ field := .title }] }
    let saved := s.savePreset (.str "old") (.str "") (.settings (.ofSettings own))
    ∃ id p, saved.2 = .ok id ∧ saved.1.store.history.preset? id = some p ∧ p.IsOffered ∧
    ∃ t, p.apply (.ofSettings v) = .ok t ∧ p.isActive (.ofSettings t) = .ok true ∧
      p.apply (.ofSettings t) = .ok t ∧
      ∀ k : Setting, k.key ∉ p.filters.map Prod.fst → t.part k = v.part k := by
  intro s own v saved
  let p : Preset := { id := HistorySession.idOf 1, name := "old", filters := own.form,
                      createdAt := "2024-03-15" }
  have answer : saved.2 = .ok (.str p.id) := rfl
  have own_id : History.isIdOf (.str p.id) p = true := beq_self_eq_true (some p.id)
  have found : saved.1.store.history.preset? (.str p.id) = some p :=
    List.find?_cons_of_pos own_id
  have offered := IsOffered.saved answer found
  exact ⟨_, p, answer, found, offered, isActive_apply offered v⟩

end Preset

end Bookmarks
