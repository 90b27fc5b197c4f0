import Bookmarks.Proofs.History.Session

/-! Which histories have a text: the settings that their presets carry are not too deep and hold no
long whole numbers, and no counter is long. A counter is no larger than the number of changes that
were made, so that it takes a run of `10 ^ digitLimit` changes to make a long one. -/

namespace Bookmarks

theorem Json.fitsLimit_of_lt {i : Int} (h : i.natAbs < 10 ^ digitLimit) : fitsLimit i = true := by
  unfold fitsLimit
  rw [decide_eq_true_eq, Nat.length_toDigits_le_iff (by decide) (by decide)]
  exact h

/-- How deep the settings of a preset may be: those of a history lie in an object, a list, and the
object of the preset. -/
def filterDepth : Nat := Json.depthLimit - 3

theorem Preset.depth_toJson (p : Preset) : p.toJson.depth = (Json.obj p.filters).depth + 1 := by
  simp [toJson, Json.depth, Json.fieldsDepth]

theorem Preset.isWritable_toJson {p : Preset} (filters : (Json.obj p.filters).isWritable = true)
    (uses : p.usageCount < 10 ^ digitLimit) : p.toJson.isWritable = true := by
  have count : Json.fitsLimit p.usageCount = true := Json.fitsLimit_of_lt uses
  simp only [toJson, Json.isWritable, Json.areWritableFields] at filters ⊢
  rw [filters, count]
  rfl

/-- Whether the settings that a call gives a preset can be written. -/
def HistoryCall.IsStorable (call : HistoryCall) : Prop :=
  call.IsTyped ∧ ∀ name description filters fields, call = .savePreset name description filters →
    filters.fields = .ok fields → (Json.obj (Preset.carried fields)).isWritable = true ∧
      (Json.obj (Preset.carried fields)).depth ≤ filterDepth

namespace History

structure IsStorable (changes : Nat) (h : History) : Prop where
  proper : ∀ p ∈ h.presets, (Json.obj p.filters).isProper = true
  writable : ∀ p ∈ h.presets, (Json.obj p.filters).isWritable = true
  shallow : ∀ p ∈ h.presets, (Json.obj p.filters).depth ≤ filterDepth
  uses : ∀ p ∈ h.presets, p.usageCount ≤ changes
  counters : ∃ counters, h.usage = counted counters ∧ (counters.map Prod.fst).Nodup ∧
    ∀ c ∈ counters, 0 ≤ c.2 ∧ c.2 ≤ changes

namespace IsStorable

theorem empty (changes : Nat) : IsStorable changes {} where
  proper _ h := absurd h List.not_mem_nil
  writable _ h := absurd h List.not_mem_nil
  shallow _ h := absurd h List.not_mem_nil
  uses _ h := absurd h List.not_mem_nil
  counters := ⟨[], rfl, List.nodup_nil, fun _ h => absurd h List.not_mem_nil⟩

variable {changes : Nat} {h : History} (storable : h.IsStorable changes)

include storable

theorem isProper : h.IsProper := by
  have ⟨counters, usage, distinct, _⟩ := storable.counters
  exact ⟨storable.proper, counters, usage, distinct⟩

theorem mono {more : Nat} (le : changes ≤ more) : h.IsStorable more := by
  have ⟨counters, usage, distinct, small⟩ := storable.counters
  refine { storable with uses := ?_, counters := ⟨counters, usage, distinct, ?_⟩ }
  · intro p hp
    exact Nat.le_trans (storable.uses p hp) le
  · intro c hc
    have := small c hc
    omega

theorem depth_form (counters : Entries String Int) :
    (Json.obj (h.form counters)).depth ≤ Json.depthLimit := by
  have terms : (Json.arr (h.recent.map .str)).depth ≤ 1 := by
    refine Nat.succ_le_succ (Json.itemsDepth_le.2 ?_)
    intro x hx
    have ⟨term, _, same⟩ := List.mem_map.1 hx
    rw [← same, Json.depth_str]
  have counts : (Json.obj (counterFields counters)).depth ≤ 1 := by
    refine Nat.succ_le_succ (Json.fieldsDepth_le.2 ?_)
    intro f hf
    have ⟨c, _, same⟩ := List.mem_map.1 hf
    rw [← same, Json.depth_int]
  have presets : (Json.arr (h.presets.map Preset.toJson)).depth ≤ filterDepth + 2 := by
    refine Nat.succ_le_succ (Json.itemsDepth_le.2 ?_)
    intro x hx
    have ⟨p, member, same⟩ := List.mem_map.1 hx
    rw [← same, Preset.depth_toJson]
    exact Nat.succ_le_succ (storable.shallow p member)
  have room : filterDepth + 3 = Json.depthLimit := rfl
  have fields : Json.fieldsDepth (h.form counters) ≤ filterDepth + 2 := by
    simp only [form, Json.fieldsDepth]
    omega
  rw [Json.depth]
  omega

theorem isWritable_form (few : changes < 10 ^ digitLimit) {counters : Entries String Int}
    (small : ∀ c ∈ counters, 0 ≤ c.2 ∧ c.2 ≤ changes) :
    (Json.obj (h.form counters)).isWritable = true := by
  have terms : Json.areWritable (h.recent.map .str) = true := by
    rw [Json.areWritable_iff]
    intro x hx
    have ⟨term, _, same⟩ := List.mem_map.1 hx
    rw [← same, Json.isWritable_str]
  have presets : Json.areWritable (h.presets.map Preset.toJson) = true := by
    rw [Json.areWritable_iff]
    intro x hx
    have ⟨p, member, same⟩ := List.mem_map.1 hx
    rw [← same]
    exact Preset.isWritable_toJson (storable.writable p member)
      (Nat.lt_of_le_of_lt (storable.uses p member) few)
  have counts : Json.areWritableFields (counterFields counters) = true := by
    rw [Json.areWritableFields_iff]
    intro f hf
    have ⟨c, member, same⟩ := List.mem_map.1 hf
    have between := small c member
    rw [← same]
    apply Json.fitsLimit_of_lt
    exact Nat.lt_of_le_of_lt (by omega) few
  simp [form, Json.isWritable, Json.areWritableFields, terms, presets, counts]

/-- It has a text, as long as there were few changes. -/
theorem exists_text (few : changes < 10 ^ digitLimit) : ∃ text, h.text = .ok text := by
  have ⟨counters, usage, _, small⟩ := storable.counters
  have shallow := storable.depth_form counters
  refine ⟨String.ofList (Json.obj (h.form counters)).write, ?_⟩
  rw [text, toJson_counted usage]
  show (Json.obj (h.form counters)).encode = _
  rw [Json.encode, if_neg (Nat.not_lt.2 shallow), if_pos (storable.isWritable_form few small)]

/-- Presets that come from a storable history make one, with one more change. -/
theorem presets {presets : List Preset} (from_h : ∀ p ∈ presets, ∃ q ∈ h.presets,
    p.filters = q.filters ∧ p.usageCount ≤ q.usageCount + 1) :
    IsStorable (changes + 1) { h with presets } := by
  have later := storable.mono (Nat.le_succ changes)
  refine ⟨?_, ?_, ?_, ?_, later.counters⟩
  · intro p hp
    have ⟨q, member, filters, _⟩ := from_h p hp
    exact filters ▸ storable.proper q member
  · intro p hp
    have ⟨q, member, filters, _⟩ := from_h p hp
    exact filters ▸ storable.writable q member
  · intro p hp
    have ⟨q, member, filters, _⟩ := from_h p hp
    exact filters ▸ storable.shallow q member
  · intro p hp
    have ⟨q, member, _, count⟩ := from_h p hp
    have := storable.uses q member
    omega

theorem save {p : Preset} (room : Int) (proper : (Json.obj p.filters).isProper = true)
    (writable : (Json.obj p.filters).isWritable = true)
    (shallow : (Json.obj p.filters).depth ≤ filterDepth) (unused : p.usageCount = 0) :
    IsStorable changes (h.putPreset room p) := by
  refine ⟨?_, ?_, ?_, ?_, storable.counters⟩
  · intro q hq
    cases mem_putPreset hq with
    | inl same => exact same ▸ proper
    | inr kept => exact storable.proper q kept.1
  · intro q hq
    cases mem_putPreset hq with
    | inl same => exact same ▸ writable
    | inr kept => exact storable.writable q kept.1
  · intro q hq
    cases mem_putPreset hq with
    | inl same => exact same ▸ shallow
    | inr kept => exact storable.shallow q kept.1
  · intro q hq
    cases mem_putPreset hq with
    | inl same =>
      rw [same, unused]
      exact Nat.zero_le _
    | inr kept => exact storable.uses q kept.1

theorem countUsage {counters : Entries String Int} (kind : String)
    (usage : h.usage = counted counters) : IsStorable (changes + 1) { h with
      usage := counted (counters.put kind ((counters.lookup kind).getD 0 + 1)) } := by
  have later := storable.mono (Nat.le_succ changes)
  have ⟨others, same, distinct, small⟩ := storable.counters
  cases counted_inj (usage.symm.trans same)
  refine { later with counters := ⟨_, rfl, Entries.nodup_put distinct _ _, ?_⟩ }
  intro c hc
  cases Entries.mem_put hc with
  | inl same =>
    rw [same]
    cases found : counters.lookup kind with
    | none =>
      simp only [Option.getD_none]
      omega
    | some n =>
      have := small (kind, n) (Entries.mem_of_lookup found)
      simp only [Option.getD_some] at this ⊢
      omega
  | inr kept =>
    have := small c kept
    omega

end IsStorable

end History

end Bookmarks
