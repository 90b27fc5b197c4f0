import Bookmarks.Proofs.View.Settings

/-! Changes laid over settings one after the other. Each setting is read from the value under its own
key and from nothing else, and is read again as it was, so that two changes come to the same as one
that has the entries of both. -/

namespace Bookmarks

/-- What settings consist of; both ends of the range stand under one key. -/
inductive Setting where
  | searchTerm
  | dateRange
  | tags
  | sortBy
  | direction
  | file
  | criteria
  | multiSort

namespace Setting

def key : Setting → String
  | searchTerm => "searchTerm"
  | dateRange => "dateRange"
  | tags => "tags"
  | sortBy => "sortBy"
  | direction => "sortDirection"
  | file => "fileFilter"
  | criteria => "sortCriteria"
  | multiSort => "enableMultiSort"

/-- The kind of value that a setting has. -/
def Part : Setting → Type
  | searchTerm => String
  | dateRange => String × String
  | tags => List String
  | sortBy => SortField
  | direction => Direction
  | file => String
  | criteria => List SortCriterion
  | multiSort => Bool

/-- What is read from the value under the key of a setting. -/
def read (value : Json) : (k : Setting) → Except Fault k.Part
  | searchTerm => .ok value.textOrEmpty
  | dateRange =>
    let range := ViewSettings.fieldsOrNone value
    .ok ((range.at "start").textOrEmpty, (range.at "end").textOrEmpty)
  | tags => value.texts
  | sortBy => .ok ((SortField.ofJson? value).getD .createdAt)
  | direction => .ok ((Direction.ofJson? value).getD .descending)
  | file => .ok value.textOrEmpty
  | criteria => .ok (SortCriterion.listOfJson value)
  | multiSort => .ok (match value with
    | .bool b => b
    | _ => false)

end Setting

namespace ViewSettings

def part (s : ViewSettings) : (k : Setting) → k.Part
  | .searchTerm => s.searchTerm
  | .dateRange => (s.rangeStart, s.rangeStop)
  | .tags => s.tags
  | .sortBy => s.sortBy
  | .direction => s.direction
  | .file => s.file
  | .criteria => s.criteria
  | .multiSort => s.multiSort

theorem ext_part {s t : ViewSettings} (same : ∀ k, s.part k = t.part k) : s = t := by
  have range : (s.rangeStart, s.rangeStop) = (t.rangeStart, t.rangeStop) := same .dateRange
  have ⟨start, stop⟩ := Prod.mk.inj range
  cases s
  cases t
  cases start
  cases stop
  cases same .searchTerm
  cases same .tags
  cases same .sortBy
  cases same .direction
  cases same .file
  cases same .criteria
  cases same .multiSort
  rfl

theorem read_of_ofFields {fields : Json.Fields} {s : ViewSettings} (h : ofFields fields = .ok s)
    (k : Setting) : k.read (fields.at k.key) = .ok (s.part k) := by
  have ⟨tags, texts, h⟩ := exists_of_bind h
  cases h
  cases k with
  | tags => exact texts
  | _ => rfl

/-- Settings are read part by part. -/
theorem ofFields_eq_ok_iff {fields : Json.Fields} {s : ViewSettings} :
    ofFields fields = .ok s ↔ ∀ k : Setting, k.read (fields.at k.key) = .ok (s.part k) := by
  refine ⟨read_of_ofFields, ?_⟩
  intro parts
  have texts : (fields.at "tags").texts = .ok s.tags := parts .tags
  have ⟨t, read⟩ : ∃ t, ofFields fields = .ok t := ⟨_, by rw [ofFields, texts]; rfl⟩
  have same : s = t := by
    apply ext_part
    intro k
    exact Except.ok.inj ((parts k).symm.trans (read_of_ofFields read k))
  rw [same, read]

/-- What stands under a key after entries were put over others. -/
theorem at_putAll {fields : Json.Fields} (distinct : (fields.map Prod.fst).Nodup)
    (base : Json.Fields) (key : String) :
    Json.Fields.at (base.putAll fields) key =
      ((fields.lookup key).or (base.lookup key)).getD .null := by
  rw [Json.Fields.at, Entries.lookup_putAll distinct]

/-- A setting that is not among some entries is read from what they are laid over. -/
theorem part_of_not_mem {base fields : Json.Fields} {b s : ViewSettings}
    (distinct : (fields.map Prod.fst).Nodup) (before : ofFields base = .ok b)
    (read : ofFields (base.putAll fields) = .ok s) {k : Setting}
    (absent : k.key ∉ fields.map Prod.fst) : s.part k = b.part k := by
  have laid := read_of_ofFields read k
  rw [at_putAll distinct, Entries.lookup_of_not_mem absent, Option.none_or] at laid
  exact Except.ok.inj (laid.symm.trans (read_of_ofFields before k))

/-- Entries laid over fields give the same settings as over others of the same settings. -/
theorem ofFields_putAll_of_same {base other fields : Json.Fields} {b s : ViewSettings}
    (distinct : (fields.map Prod.fst).Nodup) (before : ofFields base = .ok b)
    (same : ofFields other = .ok b) (read : ofFields (base.putAll fields) = .ok s) :
    ofFields (other.putAll fields) = .ok s := by
  rw [ofFields_eq_ok_iff]
  intro k
  have laid := read_of_ofFields read k
  rw [at_putAll distinct] at laid ⊢
  cases found : fields.lookup k.key with
  | some value =>
    rw [found] at laid
    exact laid
  | none =>
    rw [found, Option.none_or] at laid
    rw [Option.none_or]
    calc k.read (other.at k.key)
      _ = .ok (b.part k) := read_of_ofFields same k
      _ = k.read (base.at k.key) := (read_of_ofFields before k).symm
      _ = .ok (s.part k) := laid

/-- Entries that are updated by others are laid over fields like both, one after the other. -/
theorem ofFields_putAll_putAll {first second : Json.Fields} (distinct : (first.map Prod.fst).Nodup)
    (apart : (second.map Prod.fst).Nodup) (base : Json.Fields) {s : ViewSettings} :
    ofFields (base.putAll (first.putAll second)) = .ok s ↔
      ofFields ((base.putAll first).putAll second) = .ok s := by
  have updated : ((first.putAll second).map Prod.fst).Nodup := Entries.nodup_putAll distinct second
  simp only [ofFields_eq_ok_iff, at_putAll updated, at_putAll apart, Entries.lookup_putAll distinct,
    Entries.lookup_putAll apart, Option.or_assoc]

end ViewSettings

namespace SettingsForm

theorem merged_of_toFields {s : SettingsForm} {base : Json.Fields} (shown : s.toFields = .ok base)
    (changes : Json.Fields) :
    s.merged (.obj changes) = ViewSettings.ofFields (base.putAll changes) := by
  simp only [merged, shown, Json.entries, bind, Except.bind]

/-- Settings whose tags are texts have fields, and their tags are read from them. -/
theorem exists_toFields {s : SettingsForm} {tags : List String}
    (listed : s.tags = .arr (tags.map .str)) :
    ∃ base, s.toFields = .ok base ∧ (base.at "tags").texts = .ok tags := by
  refine ⟨_, by rw [toFields, listed]; rfl, ?_⟩
  exact Json.texts_strs tags

variable {s : SettingsForm} {tags : List String} {depth : Nat} {text other : List Char}
  {first second : Json.Fields}

/-- Changes that were read from texts can be laid over any settings whose tags are texts, and give
settings that are well formed. Two of them in turn give what the first updated by the second gives.
Over settings that are well formed, changes leave what they do not name, and none leave all. -/
theorem merged_merged (listed : s.tags = .arr (tags.map .str))
    (read : Json.read ⟨digitLimit, depth⟩ text = .ok (.obj first))
    (later : Json.read ⟨digitLimit, depth⟩ other = .ok (.obj second)) :
    (∃ once twice : ViewSettings, s.merged (.obj first) = .ok once ∧
      (ofSettings once).merged (.obj second) = .ok twice ∧
      s.merged (.obj (first.putAll second)) = .ok twice) ∧
    ∀ v : ViewSettings, s = ofSettings v →
      (∀ once, s.merged (.obj first) = .ok once →
        ∀ k : Setting, k.key ∉ first.map Prod.fst → once.part k = v.part k) ∧
      s.merged (.obj []) = .ok v := by
  have writable := (Json.isReadable_isWithin.of_read read).isWritable
  have distinct := (Json.isProper_obj.1 (Json.isReadable_isProper.of_read read)).1
  have writable_later := (Json.isReadable_isWithin.of_read later).isWritable
  have apart := (Json.isProper_obj.1 (Json.isReadable_isProper.of_read later)).1
  refine ⟨?_, ?_⟩
  · have ⟨base, shown, own⟩ := exists_toFields listed
    have ⟨once, merged, _⟩ := ViewSettings.exists_ofFields_putAll own writable
    have ⟨twice, again, _⟩ := once.exists_merged writable_later
    refine ⟨once, twice, by rw [merged_of_toFields shown, merged], again, ?_⟩
    rw [merged_of_toFields once.toFields_ofSettings] at again
    rw [merged_of_toFields shown, ViewSettings.ofFields_putAll_putAll distinct apart]
    exact ViewSettings.ofFields_putAll_of_same apart once.ofFields_form merged again
  · intro v same
    rw [same]
    refine ⟨?_, ?_⟩
    · intro once merged k absent
      rw [merged_of_toFields v.toFields_ofSettings] at merged
      exact ViewSettings.part_of_not_mem distinct v.ofFields_form merged absent
    · rw [merged_of_toFields v.toFields_ofSettings]
      exact v.ofFields_form

/-- A field that cannot be sorted by is replaced, and the tags that another change names alone. -/
theorem merged_merged_sortBy :
    let v : ViewSettings := { searchTerm := "x", sortBy := .title, tags := ["a"] }
    let first : Json.Fields := [("sortBy", .str "size"), ("dateRange", .arr [])]
    let second : Json.Fields := [("tags", .str "b")]
    (∃ once twice : ViewSettings, (ofSettings v).merged (.obj first) = .ok once ∧
      (ofSettings once).merged (.obj second) = .ok twice ∧
      (ofSettings v).merged (.obj (first.putAll second)) = .ok twice) ∧
    (∀ once, (ofSettings v).merged (.obj first) = .ok once →
      once.part .tags = v.part .tags ∧ once.part .searchTerm = v.part .searchTerm) ∧
    (ofSettings v).merged (.obj []) = .ok v := by
  intro v first second
  have listed : (ofSettings v).tags = .arr (["a"].map .str) := rfl
  have ⟨text, _, read⟩ := Json.exists_decode (v := .obj first) (by decide) (by decide) (by decide)
  have ⟨other, _, later⟩ := Json.exists_decode (v := .obj second) (by decide) (by decide) (by decide)
  have ⟨laid, valid⟩ := merged_merged listed read later
  have ⟨kept, unchanged⟩ := valid v rfl
  refine ⟨laid, ?_, unchanged⟩
  intro once merged
  exact ⟨kept once merged .tags (by decide), kept once merged .searchTerm (by decide)⟩

end SettingsForm

end Bookmarks
