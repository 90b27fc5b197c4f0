import Bookmarks.Proofs.View.Load

/-! Saving and clearing on a backend in order. Settings without long numbers have a text, from which
they are read back over any defaults. -/

namespace Bookmarks

namespace SortCriterion

theorem isProper_toJson (c : SortCriterion) : c.toJson.isProper = true := by
  refine Json.isProper_obj.2 ⟨?_, ?_⟩
  · show ["field", "direction", "priority"].Nodup
    decide
  · simp only [List.forall_mem_cons]
    exact ⟨rfl, rfl, rfl, nofun⟩

theorem depth_toJson (c : SortCriterion) : c.toJson.depth = 1 := rfl

end SortCriterion

namespace ViewSettings

theorem isProper_form (s : ViewSettings) : (Json.obj s.form).isProper = true := by
  have range : (Json.obj [("start", .str s.rangeStart), ("end", .str s.rangeStop)]).isProper =
      true := by
    refine Json.isProper_obj.2 ⟨by simp, ?_⟩
    simp only [List.forall_mem_cons]
    exact ⟨rfl, rfl, nofun⟩
  have tags : (Json.arr (s.tags.map .str)).isProper = true := by
    rw [Json.isProper_arr, List.forall_mem_map]
    exact fun tag _ => Json.isProper_str tag
  have criteria : (Json.arr (s.criteria.map SortCriterion.toJson)).isProper = true := by
    rw [Json.isProper_arr, List.forall_mem_map]
    exact fun c _ => c.isProper_toJson
  refine Json.isProper_obj.2 ⟨s.nodup_form, ?_⟩
  simp only [form, List.forall_mem_cons]
  exact ⟨rfl, range, tags, rfl, rfl, rfl, criteria, rfl, nofun⟩

theorem depth_form_le (s : ViewSettings) : (Json.obj s.form).depth ≤ 3 := by
  have tags : Json.itemsDepth (s.tags.map .str) ≤ 0 := by
    rw [Json.itemsDepth_le, List.forall_mem_map]
    exact fun tag _ => (Json.depth_str tag).le
  have criteria : Json.itemsDepth (s.criteria.map SortCriterion.toJson) ≤ 1 := by
    rw [Json.itemsDepth_le, List.forall_mem_map]
    exact fun c _ => c.depth_toJson.le
  refine Nat.succ_le_succ (Json.fieldsDepth_le.2 ?_)
  simp only [form, List.forall_mem_cons, Json.depth]
  have range : Json.fieldsDepth [("start", .str s.rangeStart), ("end", .str s.rangeStop)] = 0 := rfl
  refine ⟨by decide, ?_, ?_, by decide, by decide, by decide, ?_, by decide, List.forall_mem_nil _⟩
  all_goals omega

/-- Settings without long numbers have a text, from which they are read back. -/
theorem exists_text {s : ViewSettings} (storable : s.IsStorable) :
    ∃ text, (Json.obj s.form).encode = .ok text ∧ Json.decode text = .ok (.obj s.form) := by
  have writable : (Json.obj s.form).isWritable = true :=
    Json.areWritableFields_iff.2 (isWritable_form storable)
  exact Json.exists_decode s.isProper_form writable (Nat.le_trans s.depth_form_le (by decide))

end ViewSettings

namespace ViewStore

variable {store : ViewStore}

theorem keyOf_inj {view other : String} (same : store.keyOf view = store.keyOf other) :
    view = other := by
  have lists := congrArg String.toList same
  simp only [keyOf, String.toList_append] at lists
  exact String.toList_inj.1 (List.append_cancel_left lists)

theorem save_working (store : ViewStore) (working : store.backend.health = .working)
    {settings : ViewSettings} (storable : settings.IsStorable) (view : String) :
    ∃ text, Json.decode text = .ok (.obj settings.form) ∧
      (store.save view (.ofSettings settings)).1 = { store with backend := { store.backend with
        entries := store.backend.entries.put (store.keyOf view) text
        writes := store.backend.writes + 1 } } := by
  have ⟨text, encoded, decoded⟩ := ViewSettings.exists_text storable
  refine ⟨text, decoded, ?_⟩
  have json : (SettingsForm.ofSettings settings).toJson = .ok (.obj settings.form) := by
    rw [SettingsForm.toJson, ViewSettings.toFields_ofSettings]
    rfl
  simp only [save, written, json, encoded, bind, Except.bind, Backend.write, working]

theorem clear_working (store : ViewStore) (working : store.backend.health = .working)
    (view : String) :
    (store.clear view).1 = { store with backend := { store.backend with
      entries := store.backend.entries.erase (store.keyOf view) } } := by
  simp only [clear, Backend.delete, working]

theorem load_saved {view text : String} {settings : ViewSettings}
    (stored : store.backend.read (store.keyOf view) = .ok (some text))
    (decoded : Json.decode text = .ok (.obj settings.form)) (d : ViewSettings) :
    store.load view (.ofSettings d) = .ok (.ofSettings settings, []) := by
  rw [load_eq_loaded, stored, loaded, readText, decoded]
  simp only [settings.merged_form d]

end ViewStore

end Bookmarks
