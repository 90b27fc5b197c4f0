import Bookmarks.Proofs.History.Session

/-! Every history of a run is sound: searches and presets are distinct, trimmed and no more than
there is room for, presets carry settings only, and counters count from one. Ids stay distinct
because each is given out once; those of a stored history count as given out, too. -/

namespace Bookmarks

namespace HistorySession

/-- The number that hexadecimal digits spell. -/
def hexOf (digits : List Char) : Nat :=
  digits.foldl (fun n c => 16 * n + (Json.hexValue? c).getD 0) 0

theorem hexOf_toDigits (n : Nat) : hexOf (Nat.toDigits 16 n) = n := by
  induction n using Nat.strongRecOn with
  | ind n ih =>
    rw [Nat.toDigits_eq_if (by decide)]
    split
    · next small => simp [hexOf, Json.hexValue?_digitChar n small]
    · next large =>
      have front := ih (n / 16) (by omega)
      have last := Json.hexValue?_digitChar (n % 16) (by omega)
      rw [hexOf] at front ⊢
      simp only [List.foldl_append, front, List.foldl_cons, List.foldl_nil, last, Option.getD_some]
      omega

theorem hexOf_paddedHex (width n : Nat) : hexOf (Json.paddedHex width n) = n := by
  have zeros : ∀ k, (List.replicate k '0').foldl
      (fun n c => 16 * n + (Json.hexValue? c).getD 0) 0 = 0 := by
    intro k
    induction k with
    | zero => rfl
    | succ k ih =>
      rw [List.replicate_succ, List.foldl_cons]
      exact ih
  have digits := hexOf_toDigits n
  rw [hexOf] at digits
  rw [hexOf, Json.paddedHex, List.foldl_append, zeros, digits]

/-- No two presets get the same id. -/
theorem idOf_inj {m n : Nat} (h : idOf m = idOf n) : m = n := by
  have same := congrArg String.toList h
  simp only [idOf, String.toList_append, String.toList_ofList, List.append_cancel_left_eq] at same
  rw [← hexOf_paddedHex 32 m, same, hexOf_paddedHex]

end HistorySession

namespace History

/-- Whether presets have ids of their own, among those that were given out. -/
structure IsNumbered (ids : Nat) (presets : List Preset) : Prop where
  nodup : (presets.map (·.id)).Nodup
  given : ∀ p ∈ presets, ∃ n ≤ ids, p.id = HistorySession.idOf n

namespace IsNumbered

variable {ids : Nat} {presets : List Preset} (numbered : IsNumbered ids presets)

include numbered

theorem mono {more : Nat} (le : ids ≤ more) : IsNumbered more presets := by
  refine ⟨numbered.nodup, ?_⟩
  intro p hp
  have ⟨n, given, same⟩ := numbered.given p hp
  exact ⟨n, Nat.le_trans given le, same⟩

theorem sublist {others : List Preset} (less : others.Sublist presets) : IsNumbered ids others :=
  ⟨(less.map _).nodup numbered.nodup, fun p hp => numbered.given p (less.mem hp)⟩

/-- The id of a new preset is that of no other one, which all got theirs before. -/
theorem cons {p : Preset} (id : p.id = HistorySession.idOf (ids + 1)) :
    IsNumbered (ids + 1) (p :: presets) := by
  refine ⟨?_, List.forall_mem_cons.2 ⟨⟨ids + 1, Nat.le_refl _, id⟩, ?_⟩⟩
  · rw [List.map_cons, List.nodup_cons]
    refine ⟨?_, numbered.nodup⟩
    intro twice
    have ⟨q, member, same⟩ := List.mem_map.1 twice
    have ⟨n, given, id_q⟩ := numbered.given q member
    have := HistorySession.idOf_inj (id_q.symm.trans (same.trans id))
    omega
  · exact (numbered.mono (Nat.le_succ ids)).given

theorem countFirst (test : Preset → Bool) : IsNumbered ids (countFirst test presets) := by
  have same : (History.countFirst test presets).map (·.id) = presets.map (·.id) :=
    map_countFirst _ (fun _ _ => rfl) test presets
  refine ⟨same ▸ numbered.nodup, ?_⟩
  intro p hp
  have member : p.id ∈ presets.map (·.id) := same ▸ List.mem_map_of_mem hp
  have ⟨q, before, id⟩ := List.mem_map.1 member
  exact id ▸ numbered.given q before

end IsNumbered

theorem IsNumbered.putPreset {ids : Nat} {h : History} (numbered : IsNumbered ids h.presets)
    {p : Preset} (id : p.id = HistorySession.idOf (ids + 1)) (room : Int) :
    IsNumbered (ids + 1) (h.putPreset room p).presets := by
  apply (numbered.cons id).sublist
  exact (upTo_sublist _ _).trans (List.filter_sublist.cons_cons p)

variable {τ : Type} {config : StoreConfig τ}

structure IsSound (config : StoreConfig τ) (ids : Nat) (h : History) : Prop where
  recent_nodup : h.recent.Nodup
  recent_trimmed : ∀ term ∈ h.recent, IsTrimmed term
  recent_fit : (h.recent.length : Int) ≤ max 0 config.maxRecent
  names_nodup : (h.presets.map (·.name)).Nodup
  names_trimmed : ∀ p ∈ h.presets, IsTrimmed p.name
  ids_nodup : (h.presets.map (·.id)).Nodup
  ids_given : ∀ p ∈ h.presets, ∃ n ≤ ids, p.id = HistorySession.idOf n
  settings : ∀ p ∈ h.presets, ∀ f ∈ p.filters, f.1 ∈ Preset.filterKeys
  filters_proper : ∀ p ∈ h.presets, (Json.obj p.filters).isProper = true
  presets_fit : (h.presets.length : Int) ≤ max 0 config.maxPresets
  counters : ∃ counters, h.usage = counted counters ∧ (counters.map Prod.fst).Nodup ∧
    ∀ c ∈ counters, 1 ≤ c.2

namespace IsSound

theorem empty (config : StoreConfig τ) (ids : Nat) : IsSound config ids {} where
  recent_nodup := List.nodup_nil
  recent_trimmed _ h := absurd h List.not_mem_nil
  recent_fit := Int.le_max_left ..
  names_nodup := List.nodup_nil
  names_trimmed _ h := absurd h List.not_mem_nil
  ids_nodup := List.nodup_nil
  ids_given _ h := absurd h List.not_mem_nil
  settings _ h := absurd h List.not_mem_nil
  filters_proper _ h := absurd h List.not_mem_nil
  presets_fit := Int.le_max_left ..
  counters := ⟨[], rfl, List.nodup_nil, fun _ h => absurd h List.not_mem_nil⟩

variable {ids : Nat} {h : History} (sound : h.IsSound config ids)

include sound

theorem isProper : h.IsProper := by
  have ⟨counters, usage, distinct, _⟩ := sound.counters
  exact ⟨sound.filters_proper, counters, usage, distinct⟩

theorem numbered : IsNumbered ids h.presets := ⟨sound.ids_nodup, sound.ids_given⟩

theorem mono {more : Nat} (le : ids ≤ more) : h.IsSound config more :=
  { sound with ids_given := (sound.numbered.mono le).given }

theorem search {term : String} (trimmed : IsTrimmed term) :
    IsSound config ids { h with
      recent := upTo config.maxRecent (term :: h.recent.filter (· != term)) } where
  recent_nodup := by
    apply (upTo_sublist _ _).nodup
    rw [List.nodup_cons]
    exact ⟨by simp, List.filter_sublist.nodup sound.recent_nodup⟩
  recent_trimmed := by
    intro other member
    cases List.mem_cons.1 (mem_of_mem_upTo member) with
    | inl same => exact same ▸ trimmed
    | inr kept => exact sound.recent_trimmed other (List.mem_filter.1 kept).1
  recent_fit := by
    apply length_upTo_le
    have fit := sound.recent_fit
    have fewer := List.length_filter_le (· != term) h.recent
    rw [List.length_cons]
    omega
  __ := sound

theorem clearRecent : IsSound config ids { h with recent := [] } where
  recent_nodup := List.nodup_nil
  recent_trimmed _ hp := absurd hp List.not_mem_nil
  recent_fit := Int.le_max_left ..
  __ := sound

theorem delete (test : Preset → Bool) :
    IsSound config ids { h with presets := h.presets.filter test } where
  names_nodup := (List.filter_sublist.map _).nodup sound.names_nodup
  names_trimmed p hp := sound.names_trimmed p (List.mem_filter.1 hp).1
  ids_nodup := (sound.numbered.sublist List.filter_sublist).nodup
  ids_given := (sound.numbered.sublist List.filter_sublist).given
  settings p hp := sound.settings p (List.mem_filter.1 hp).1
  filters_proper p hp := sound.filters_proper p (List.mem_filter.1 hp).1
  presets_fit := by
    have fit := sound.presets_fit
    have fewer := List.length_filter_le test h.presets
    show ((h.presets.filter test).length : Int) ≤ max 0 config.maxPresets
    omega
  __ := sound

theorem save {p : Preset} (id : p.id = HistorySession.idOf (ids + 1)) (trimmed : IsTrimmed p.name)
    (settings : ∀ f ∈ p.filters, f.1 ∈ Preset.filterKeys)
    (proper : (Json.obj p.filters).isProper = true) :
    IsSound config (ids + 1) (h.putPreset config.maxPresets p) := by
  have numbered := sound.numbered.putPreset id config.maxPresets
  exact {
    names_nodup := by
      apply ((upTo_sublist _ _).map _).nodup
      rw [List.map_cons, List.nodup_cons]
      refine ⟨?_, (List.filter_sublist.map _).nodup sound.names_nodup⟩
      intro twice
      have ⟨q, member, same⟩ := List.mem_map.1 twice
      have other := (List.mem_filter.1 member).2
      simp [same] at other
    names_trimmed := by
      intro q hq
      cases mem_putPreset hq with
      | inl same => exact same ▸ trimmed
      | inr kept => exact sound.names_trimmed q kept.1
    ids_nodup := numbered.nodup
    ids_given := numbered.given
    settings := by
      intro q hq
      cases mem_putPreset hq with
      | inl same => exact same ▸ settings
      | inr kept => exact sound.settings q kept.1
    filters_proper := by
      intro q hq
      cases mem_putPreset hq with
      | inl same => exact same ▸ proper
      | inr kept => exact sound.filters_proper q kept.1
    presets_fit := by
      apply length_upTo_le
      have fit := sound.presets_fit
      have fewer := List.length_filter_le (·.name != p.name) h.presets
      rw [List.length_cons]
      omega
    recent_nodup := sound.recent_nodup
    recent_trimmed := sound.recent_trimmed
    recent_fit := sound.recent_fit
    counters := sound.counters }

theorem countPreset (test : Preset → Bool) :
    IsSound config ids { h with presets := countFirst test h.presets } := by
  have names : (countFirst test h.presets).map (·.name) = h.presets.map (·.name) :=
    map_countFirst _ (fun _ _ => rfl) test h.presets
  have numbered := sound.numbered.countFirst test
  have size : (countFirst test h.presets).length = h.presets.length := by
    rw [← List.length_map (·.name), names, List.length_map]
  have same : ∀ p ∈ countFirst test h.presets, ∃ q ∈ h.presets,
      p.name = q.name ∧ p.filters = q.filters := by
    intro p hp
    have ⟨q, member, same⟩ := mem_countFirst hp
    cases same with
    | inl same => exact ⟨q, member, by simp [same]⟩
    | inr same => exact ⟨q, member, by simp [same]⟩
  exact {
    names_nodup := by
      rw [names]
      exact sound.names_nodup
    names_trimmed := by
      intro p hp
      have ⟨q, member, name, _⟩ := same p hp
      exact name ▸ sound.names_trimmed q member
    ids_nodup := numbered.nodup
    ids_given := numbered.given
    settings := by
      intro p hp
      have ⟨q, member, _, filters⟩ := same p hp
      exact filters ▸ sound.settings q member
    filters_proper := by
      intro p hp
      have ⟨q, member, _, filters⟩ := same p hp
      exact filters ▸ sound.filters_proper q member
    presets_fit := by
      rw [size]
      exact sound.presets_fit
    recent_nodup := sound.recent_nodup
    recent_trimmed := sound.recent_trimmed
    recent_fit := sound.recent_fit
    counters := sound.counters }

theorem countUsage {counters : Entries String Int} (kind : String)
    (usage : h.usage = counted counters) : IsSound config ids { h with
      usage := counted (counters.put kind ((counters.lookup kind).getD 0 + 1)) } where
  counters := by
    have ⟨others, same, distinct, pos⟩ := sound.counters
    obtain rfl := counted_inj (usage.symm.trans same)
    refine ⟨_, rfl, Entries.nodup_put distinct _ _, ?_⟩
    intro c hc
    cases Entries.mem_put hc with
    | inl same =>
      rw [same]
      cases found : counters.lookup kind with
      | none => simp
      | some n =>
        have := pos (kind, n) (Entries.mem_of_lookup found)
        simp only [Option.getD_some] at this ⊢
        omega
    | inr kept => exact pos c kept
  __ := sound

end IsSound

end History

namespace HistorySession

variable {τ : Type} [Timeline τ]

end HistorySession

end Bookmarks
