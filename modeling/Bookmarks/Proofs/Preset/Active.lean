import Bookmarks.Preset
import Bookmarks.Proofs.Outcome
import Bookmarks.Proofs.View.Fallback

/-! When a preset is active. Each setting that it carries is compared with the present one, tags in
any order and number, except for the criteria, which are not looked at. So a preset is active
exactly when laying it over the settings changes none of them, the criteria apart. -/

namespace Bookmarks

namespace Json

theorem same_str_iff {s t : String} : (str s).same (str t) = true ↔ str s = str t := by
  rw [same_str, beq_iff_eq, str.injEq]

theorem same_bool_iff {a b : Bool} : (bool a).same (bool b) = true ↔ bool a = bool b := by
  cases a <;> cases b <;> simp [same, number?, Number.same]

theorem alike_strs (s t : String) : alike (str s) (str t) = (s == t) := by
  rw [alike, same_str]
  exact Bool.or_false _

theorem sameMembers_strs {xs ys : List String} :
    sameMembers (xs.map .str) (ys.map .str) = true ↔ ∀ s, s ∈ xs ↔ s ∈ ys := by
  simp only [sameMembers, Bool.and_eq_true, List.all_map, List.any_map, List.all_eq_true,
    Function.comp_apply, List.any_eq_true, alike_strs, beq_iff_eq, exists_eq_right']
  exact ⟨fun ⟨left, right⟩ s => ⟨left s, right s⟩, fun h => ⟨fun s => (h s).1, fun s => (h s).2⟩⟩

end Json

/-- Whether a verdict is reached, and is whether something is so. -/
def Verdict.Decides (a : Verdict) (P : Prop) : Prop := ∃ v, a = .ok v ∧ (v = true ↔ P)

theorem Verdict.Decides.and {a b : Verdict} {P Q : Prop} (first : a.Decides P)
    (second : b.Decides Q) : (a.and b).Decides (P ∧ Q) := by
  have ⟨u, is_u, hu⟩ := first
  have ⟨v, is_v, hv⟩ := second
  exact ⟨u && v, by rw [is_u, is_v, and_ok], by rw [Bool.and_eq_true, hu, hv]⟩

namespace Setting

/-- Whether a value is of the kind in which a setting is written, with all that lies inside it. -/
def Admits (value : Json) : Setting → Prop
  | dateRange => ∃ range : Json.Fields, value = .obj range ∧
      ∀ key ∈ ["start", "end"], ∀ given, range.lookup key = some given → ∃ day, given = .str day
  | tags => ∃ tags : List String, value = .arr (tags.map .str)
  | criteria => ∃ items, value = .arr items ∧
      ∀ item ∈ items, ∃ fields c, item = .obj fields ∧ SortCriterion.ofFields? fields = some c
  | k => k.Accepts value

/-- The value of a setting as it is written. -/
def write : (k : Setting) → k.Part → Json
  | searchTerm, text => .str text
  | dateRange, (start, stop) => .obj [("start", .str start), ("end", .str stop)]
  | tags, texts => .arr (List.map .str texts)
  | sortBy, field => .str (SortField.name field)
  | direction, way => .str (Direction.name way)
  | file, path => .str path
  | criteria, listed => .arr (List.map SortCriterion.toJson listed)
  | multiSort, b => .bool b

theorem read_write (k : Setting) (part : k.Part) : k.read (k.write part) = .ok part := by
  cases k with
  | tags => exact Json.texts_strs part
  | sortBy => exact congrArg (Except.ok <| ·.getD .createdAt) (SortField.ofJson?_name part)
  | direction => exact congrArg (Except.ok <| ·.getD .descending) (Direction.ofJson?_name part)
  | criteria => exact congrArg Except.ok (SortCriterion.listOfJson_toJson part)
  | _ => rfl

theorem write_inj (k : Setting) {first second : k.Part} (same : k.write first = k.write second) :
    first = second := by
  have read := k.read_write first
  rw [same, k.read_write] at read
  exact (Except.ok.inj read).symm

/-- Whether two values of a setting are the same, tags in any order and number. -/
def Alike : (k : Setting) → k.Part → k.Part → Prop
  | tags, (first : List String), (second : List String) => ∀ tag, tag ∈ first ↔ tag ∈ second
  | searchTerm, first, second | dateRange, first, second | sortBy, first, second
  | direction, first, second | file, first, second | criteria, first, second
  | multiSort, first, second => first = second

theorem Alike.refl (k : Setting) (part : k.Part) : k.Alike part part := by
  cases k with
  | tags => exact fun tag => Iff.rfl
  | _ => rfl

/-- The settings whose values are not made of parts. -/
inductive IsScalar : Setting → Prop
  | searchTerm : IsScalar searchTerm
  | sortBy : IsScalar sortBy
  | direction : IsScalar direction
  | file : IsScalar file
  | multiSort : IsScalar multiSort

namespace IsScalar

variable {k : Setting} (scalar : k.IsScalar)

include scalar

theorem exists_write {value : Json} (fits : k.Admits value) : ∃ part, value = k.write part := by
  cases scalar <;> exact fits

theorem same_write_iff {first second : k.Part} :
    (k.write first).same (k.write second) = true ↔ first = second := by
  have same_iff : (k.write first).same (k.write second) = true ↔
      k.write first = k.write second := by
    cases scalar with
    | multiSort => exact Json.same_bool_iff
    | _ => exact Json.same_str_iff
  exact same_iff.trans ⟨k.write_inj, congrArg k.write⟩

theorem eq_of_alike {first second : k.Part} (alike : k.Alike first second) : first = second := by
  cases scalar <;> exact alike

end IsScalar

end Setting

namespace ViewSettings

/-- Whether settings are the same but for the order and the number of their tags. -/
def Resembles (s t : ViewSettings) : Prop :=
  (∀ tag, tag ∈ s.tags ↔ tag ∈ t.tags) ∧ { s with tags := t.tags } = t

theorem resembles_iff {s t : ViewSettings} :
    s.Resembles t ↔ ∀ k : Setting, k.Alike (s.part k) (t.part k) := by
  constructor
  · intro ⟨tags, same⟩ k
    have parts := congrArg (·.part k) same
    cases k with
    | tags => exact tags
    | _ => exact parts
  · intro alike
    refine ⟨alike .tags, ext_part fun k => ?_⟩
    cases k with
    | tags => rfl
    | searchTerm => exact alike .searchTerm
    | dateRange => exact alike .dateRange
    | sortBy => exact alike .sortBy
    | direction => exact alike .direction
    | file => exact alike .file
    | criteria => exact alike .criteria
    | multiSort => exact alike .multiSort

theorem resembles_with_criteria {s t : ViewSettings} :
    { s with criteria := t.criteria }.Resembles t ↔
      ∀ k : Setting, k ≠ .criteria → k.Alike (s.part k) (t.part k) := by
  rw [resembles_iff]
  constructor
  · intro alike k other
    cases k with
    | criteria => exact absurd rfl other
    | _ => exact alike _
  · intro alike k
    cases k with
    | criteria => rfl
    | _ => exact alike _ nofun

end ViewSettings

namespace Preset

/-- Whether a preset carries each setting once at most, and as a value of its kind. -/
structure IsTyped (p : Preset) : Prop where
  distinct : (p.filters.map Prod.fst).Nodup
  admits : ∀ (k : Setting) value, p.filters.lookup k.key = some value → k.Admits value

/-- Whether a preset carries a setting as it is, if it carries it. -/
def Agrees (p : Preset) (v : ViewSettings) (k : Setting) : Prop :=
  ∀ value, p.filters.lookup k.key = some value →
    ∃ given, k.read value = .ok given ∧ k.Alike given (v.part k)

variable {p : Preset} {v t : ViewSettings} {k : Setting}

theorem agrees_of_absent (absent : p.filters.lookup k.key = none) : p.Agrees v k := by
  intro value found
  rw [absent] at found
  cases found

theorem agrees_iff_of_lookup {value : Json} (found : p.filters.lookup k.key = some value)
    {given : k.Part} (read : k.read value = .ok given) :
    p.Agrees v k ↔ k.Alike given (v.part k) := by
  constructor
  · intro agrees
    have ⟨other, read', alike⟩ := agrees value found
    cases read.symm.trans read'
    exact alike
  · intro alike other found'
    cases found.symm.trans found'
    exact ⟨given, read, alike⟩

/-- A preset agrees with settings in what laying it over them leaves alike. -/
theorem alike_iff_agrees (distinct : (p.filters.map Prod.fst).Nodup)
    (applied : p.apply (.ofSettings v) = .ok t) (k : Setting) :
    k.Alike (t.part k) (v.part k) ↔ p.Agrees v k := by
  rw [apply, SettingsForm.merged_of_toFields v.toFields_ofSettings] at applied
  have laid := ViewSettings.read_of_ofFields applied k
  rw [ViewSettings.at_putAll distinct] at laid
  cases found : p.filters.lookup k.key with
  | none =>
    rw [found, Option.none_or] at laid
    have kept : t.part k = v.part k :=
      Except.ok.inj (laid.symm.trans (ViewSettings.read_of_ofFields v.ofFields_form k))
    rw [kept]
    exact iff_of_true (.refl k _) (agrees_of_absent found)
  | some value =>
    rw [found] at laid
    exact (agrees_iff_of_lookup found laid).symm

/-- A setting whose values are not made of parts is compared as it is written. -/
theorem agreesAt_iff (typed : p.IsTyped) (scalar : k.IsScalar) :
    p.agreesAt k.key (k.write (v.part k)) = true ↔ p.Agrees v k := by
  rw [agreesAt]
  cases found : p.filters.lookup k.key with
  | none => exact iff_of_true rfl (agrees_of_absent found)
  | some value =>
    have ⟨part, is_part⟩ := scalar.exists_write (typed.admits k value found)
    have read : k.read value = .ok part := is_part ▸ k.read_write part
    rw [agrees_iff_of_lookup found read, Option.all_some, is_part, scalar.same_write_iff]
    exact ⟨fun same => same ▸ .refl k part, scalar.eq_of_alike⟩

theorem agreesInValues_iff (typed : p.IsTyped) :
    p.agreesInValues (.ofSettings v) = true ↔ ∀ k : Setting, k.IsScalar → p.Agrees v k := by
  have agrees {k : Setting} (scalar : k.IsScalar) := agreesAt_iff (v := v) typed scalar
  have taken : p.agreesInValues (.ofSettings v) = true ↔ p.Agrees v .searchTerm ∧
      p.Agrees v .sortBy ∧ p.Agrees v .direction ∧ p.Agrees v .file ∧ p.Agrees v .multiSort := by
    rw [← agrees .searchTerm, ← agrees .sortBy, ← agrees .direction, ← agrees .file,
      ← agrees .multiSort]
    simp only [agreesInValues, Bool.and_eq_true, and_assoc]
    rfl
  rw [taken]
  constructor
  · rintro ⟨searchTerm, sortBy, direction, file, multiSort⟩ k scalar
    cases scalar <;> assumption
  · intro all
    exact ⟨all _ .searchTerm, all _ .sortBy, all _ .direction, all _ .file, all _ .multiSort⟩

theorem membersOf_strs (texts : List String) :
    membersOf (.arr (texts.map .str)) = .ok (texts.map .str) := by
  have plain : (texts.map Json.str).all Json.isPlain = true := by simp [Json.isPlain]
  simp only [membersOf, Json.parts, bind, Except.bind, plain]
  rfl

theorem agreesInTags_decides (typed : p.IsTyped) :
    (p.agreesInTags (.ofSettings v)).Decides (p.Agrees v .tags) := by
  unfold agreesInTags
  cases found : p.filters.lookup "tags" with
  | none => exact ⟨true, rfl, iff_of_true rfl (agrees_of_absent found)⟩
  | some value =>
    have ⟨texts, is_list⟩ := typed.admits .tags value found
    have read : Setting.tags.read value = .ok texts := is_list ▸ Json.texts_strs texts
    have present : membersOf (SettingsForm.ofSettings v).tags = .ok (v.tags.map .str) :=
      membersOf_strs v.tags
    refine ⟨Json.sameMembers (texts.map .str) (v.tags.map .str), ?_, ?_⟩
    · simp only [is_list, membersOf_strs, present]
      cases texts <;> rfl
    · rw [Json.sameMembers_strs, agrees_iff_of_lookup (k := .tags) found read]
      rfl

/-- An end of a range that is not given counts as an open one. -/
theorem lookup_getD_str {range : Json.Fields} {key : String}
    (texts : ∀ given, range.lookup key = some given → ∃ day, given = .str day) :
    (range.lookup key).getD (.str "") = .str (range.at key).textOrEmpty := by
  unfold Json.Fields.at
  cases found : range.lookup key with
  | none => rfl
  | some given =>
    have ⟨day, is_text⟩ := texts given found
    rw [is_text]
    rfl

theorem agreesInRange_decides (typed : p.IsTyped) :
    (p.agreesInRange (.ofSettings v)).Decides (p.Agrees v .dateRange) := by
  unfold agreesInRange
  cases found : p.filters.lookup "dateRange" with
  | none => exact ⟨true, rfl, iff_of_true rfl (agrees_of_absent found)⟩
  | some value =>
    have ⟨range, is_range, texts⟩ := typed.admits .dateRange value found
    let start := (range.at "start").textOrEmpty
    let stop := (range.at "end").textOrEmpty
    have read : Setting.dateRange.read value = .ok (start, stop) := is_range ▸ rfl
    have begins : ((range.lookup "start").getD (.str "")).alike (.str v.rangeStart) =
        (start == v.rangeStart) := by
      rw [lookup_getD_str (texts "start" (by simp)), Json.alike_strs]
    have ends : ((range.lookup "end").getD (.str "")).alike (.str v.rangeStop) =
        (stop == v.rangeStop) := by
      rw [lookup_getD_str (texts "end" (by simp)), Json.alike_strs]
    refine ⟨start == v.rangeStart && stop == v.rangeStop, ?_, ?_⟩
    · rw [← begins, ← ends, is_range]
      cases range <;> rfl
    · rw [agrees_iff_of_lookup (k := .dateRange) found read, Bool.and_eq_true, beq_iff_eq,
        beq_iff_eq]
      exact (Prod.mk.injEq start stop v.rangeStart v.rangeStop).symm ▸ Iff.rfl

theorem isActive_decides (typed : p.IsTyped) (v : ViewSettings) :
    (p.isActive (.ofSettings v)).Decides (∀ k : Setting, k ≠ .criteria → p.Agrees v k) := by
  have values : Verdict.Decides (.ok (p.agreesInValues (.ofSettings v)))
      (∀ k : Setting, k.IsScalar → p.Agrees v k) := ⟨_, rfl, agreesInValues_iff typed⟩
  have tags : (p.agreesInTags (.ofSettings v)).Decides (p.Agrees v .tags) :=
    agreesInTags_decides typed
  have range : (p.agreesInRange (.ofSettings v)).Decides (p.Agrees v .dateRange) :=
    agreesInRange_decides typed
  have none_left : Verdict.Decides (.ok true) True := ⟨true, rfl, iff_of_true rfl trivial⟩
  have ⟨active, reached, holds⟩ := values.and (tags.and (range.and none_left))
  refine ⟨active, ?_, holds.trans ?_⟩
  · rw [isActive, ViewSettings.toFields_ofSettings]
    exact reached
  · constructor
    · intro ⟨scalars, tags, range, _⟩ k other
      cases k with
      | tags => exact tags
      | dateRange => exact range
      | criteria => exact absurd rfl other
      | searchTerm => exact scalars _ .searchTerm
      | sortBy => exact scalars _ .sortBy
      | direction => exact scalars _ .direction
      | file => exact scalars _ .file
      | multiSort => exact scalars _ .multiSort
    · intro all
      refine ⟨?_, all _ nofun, all _ nofun, trivial⟩
      intro k scalar
      cases scalar <;> exact all _ nofun

theorem exists_apply (typed : p.IsTyped) (v : ViewSettings) :
    ∃ t, p.apply (.ofSettings v) = .ok t := by
  rw [apply, SettingsForm.merged_of_toFields v.toFields_ofSettings]
  have texts : ∃ texts, (Json.Fields.at (v.form.putAll p.filters) "tags").texts = .ok texts := by
    rw [ViewSettings.at_putAll typed.distinct]
    cases found : p.filters.lookup "tags" with
    | none => exact ⟨v.tags, Json.texts_strs v.tags⟩
    | some value =>
      have ⟨tags, is_list⟩ := typed.admits .tags value found
      rw [is_list]
      exact ⟨tags, Json.texts_strs tags⟩
  have ⟨texts, listed⟩ := texts
  exact ⟨_, by rw [ViewSettings.ofFields, listed]; rfl⟩

/-- A preset is active exactly when laying it over the settings leaves them as they are but for the
criteria, and for the order and the number of the tags. So one that carries no criteria is active
exactly when it changes nothing. -/
theorem isActive_iff (typed : p.IsTyped) (v : ViewSettings) :
    ∃ active t, p.isActive (.ofSettings v) = .ok active ∧ p.apply (.ofSettings v) = .ok t ∧
      (active = true ↔ { t with criteria := v.criteria }.Resembles v) ∧
      (t.Resembles v ↔ active = true ∧ t.criteria = v.criteria) ∧
      ("sortCriteria" ∉ p.filters.map Prod.fst → (active = true ↔ t.Resembles v)) := by
  have ⟨active, reached, holds⟩ := isActive_decides typed v
  have ⟨t, applied⟩ := exists_apply typed v
  have alike : active = true ↔ ∀ k : Setting, k ≠ .criteria → k.Alike (t.part k) (v.part k) := by
    simp only [alike_iff_agrees typed.distinct applied, holds]
  have whole : t.Resembles v ↔ active = true ∧ t.criteria = v.criteria := by
    rw [ViewSettings.resembles_iff, alike]
    refine ⟨fun all => ⟨fun k _ => all k, all .criteria⟩, fun ⟨others, criteria⟩ k => ?_⟩
    by_cases own : k = .criteria
    · exact own ▸ criteria
    · exact others k own
  refine ⟨active, t, reached, applied, ?_, whole, fun absent => ?_⟩
  · rw [alike, ViewSettings.resembles_with_criteria]
  · have kept : t.criteria = v.criteria :=
      (alike_iff_agrees typed.distinct applied .criteria).2
        (agrees_of_absent (Entries.lookup_of_not_mem absent))
    rw [whole, and_iff_left kept]

/-- Tags in another order and an open end of the range, laid over settings that have them. -/
theorem isActive_iff_reordered :
    let p : Preset := { id := "p", name := "P", filters := [
      ("tags", .arr [.str "b", .str "a", .str "b"]), ("dateRange", .obj [("start", .str "2024")])] }
    let v : ViewSettings := { tags := ["a", "b"], rangeStart := "2024", searchTerm := "x" }
    p.IsTyped ∧
    ∃ active t, p.isActive (.ofSettings v) = .ok active ∧ p.apply (.ofSettings v) = .ok t ∧
      (active = true ↔ { t with criteria := v.criteria }.Resembles v) ∧
      (t.Resembles v ↔ active = true ∧ t.criteria = v.criteria) ∧
      ("sortCriteria" ∉ p.filters.map Prod.fst → (active = true ↔ t.Resembles v)) := by
  intro p v
  have typed : p.IsTyped := by
    refine ⟨by decide, ?_⟩
    intro k value found
    cases k <;> cases found
    case tags => exact ⟨["b", "a", "b"], rfl⟩
    case dateRange =>
      refine ⟨_, rfl, ?_⟩
      simp [List.lookup_cons]
  exact ⟨typed, isActive_iff typed v⟩

/-- Criteria that settings do not have, in a preset that is active all the same. -/
theorem not_resembles_isActive : ¬∀ (p : Preset) (v t : ViewSettings), p.IsTyped →
    p.apply (.ofSettings v) = .ok t → (p.isActive (.ofSettings v) = .ok true ↔ t.Resembles v) := by
  intro changes
  let c : SortCriterion := { field := .title }
  let p : Preset := { id := "p", name := "P", filters := [("sortCriteria", .arr [c.toJson])] }
  have typed : p.IsTyped := by
    refine ⟨by decide, ?_⟩
    intro k value found
    cases k <;> cases found
    refine ⟨_, rfl, ?_⟩
    rw [List.forall_mem_singleton]
    exact ⟨_, c, rfl, rfl⟩
  have applied : p.apply (.ofSettings {}) = .ok { criteria := [c] } := rfl
  have active : p.isActive (.ofSettings {}) = .ok true := rfl
  have same := (changes p {} _ typed applied).1 active
  have criteria : [c] = [] := congrArg ViewSettings.criteria same.2
  cases criteria

end Preset

end Bookmarks
