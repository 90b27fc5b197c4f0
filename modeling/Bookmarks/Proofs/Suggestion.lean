import Bookmarks.Suggestion
import Bookmarks.Proofs.Outcome
import Bookmarks.Proofs.Query.Reading
import Bookmarks.Proofs.Text.Occurrence

/-! Where values are suggested. A keyword counts up to the next space, but the word in front of the
caret ends at any blank: behind a keyword in the word itself the values are the first five tags that
have the rest of the word in them; behind one with another blank after it there may be values for a
word without a keyword. Recent searches are not suggested anywhere: they are offered where there is
no word, and there the fields and operators fill the list. -/

namespace Bookmarks.Suggestion

variable {before word : List Char} {tags recents : List String} {field : QueryField}
  {s : Suggestion}

/-- A field is open if no space comes behind some place of its keyword. -/
theorem isOpen_iff :
    isOpen field before = true ↔ ∃ rest, field.keyword ++ rest <:+ before ∧ ' ' ∉ rest := by
  rw [isOpen]
  constructor
  · intro opened
    split at opened
    · cases opened
    · next last found =>
      obtain ⟨⟨rest, rfl⟩, ends⟩ := Text.fromLast?_eq_some found
      have no_space : ' ' ∉ field.keyword ++ rest := by simpa using opened
      exact ⟨rest, ends, fun mem => no_space (List.mem_append_right _ mem)⟩
  · rintro ⟨rest, ends, no_space⟩
    obtain ⟨last, found, within⟩ := Text.exists_fromLast? (List.prefix_append _ rest) ends
    have none_left : ' ' ∉ last := fun mem => by
      rcases List.mem_append.1 (within.subset mem) with mem | mem
      · cases Text.isBlank_space.symm.trans (Query.keyword_not_blank field ' ' mem)
      · exact no_space mem
    simpa [found] using none_left

theorem isOpen_of_lastWord (inside : field.keyword <:+: Text.lastWord before) :
    isOpen field before = true := by
  obtain ⟨front, rest, split⟩ := inside
  have within : field.keyword ++ rest <:+ Text.lastWord before :=
    ⟨front, by rw [← split, List.append_assoc]⟩
  refine isOpen_iff.2 ⟨rest, within.trans (Text.lastWord_suffix before), fun mem => ?_⟩
  have not_blank := Text.not_blank_of_mem_lastWord (within.subset (List.mem_append_right _ mem))
  cases Text.isBlank_space.symm.trans not_blank

/-- A keyword without a blank behind it is in the last word. -/
theorem keyword_in_lastWord {rest : List Char} (ends : field.keyword ++ rest <:+ before)
    (no_blank : ∀ c ∈ rest, Text.isBlank c = false) : field.keyword <:+: Text.lastWord before := by
  have within : field.keyword ++ rest <:+ Text.lastWord before :=
    Text.suffix_lastWord ends fun c mem =>
      (List.mem_append.1 mem).elim (Query.keyword_not_blank field c) (no_blank c)
  exact (List.prefix_append _ _).isInfix.trans within.isInfix

/-! ### The kinds of what is suggested -/

theorem kind_of_mem_fieldsFor (mem : s ∈ fieldsFor word) : s.kind = .field := by
  obtain ⟨_, _, rfl⟩ := List.mem_map.1 mem
  rfl

theorem kind_of_mem_operatorsFor (mem : s ∈ operatorsFor word) : s.kind = .operator := by
  obtain ⟨_, _, rfl⟩ := List.mem_map.1 mem
  rfl

theorem kind_of_mem_tagsFor (mem : s ∈ tagsFor word tags) : s.kind = .value := by
  obtain ⟨_, _, rfl⟩ := List.mem_map.1 mem
  rfl

theorem kind_of_mem_shortcutsFor (mem : s ∈ shortcutsFor word) : s.kind = .value := by
  obtain ⟨_, _, rfl⟩ := List.mem_map.1 mem
  rfl

theorem kind_of_mem_recents {count : Nat} (mem : s ∈ (recents.take count).map ofRecent) :
    s.kind = .preset := by
  obtain ⟨_, _, rfl⟩ := List.mem_map.1 mem
  rfl

theorem isOpen_of_mem_list (mem : s ∈ list before tags recents) (value : s.kind = .value) :
    ∃ field ∈ [QueryField.tag, .created], isOpen field before = true := by
  have mem := List.mem_of_mem_take mem
  simp only [List.mem_append] at mem
  rcases mem with (((mem | mem) | mem) | mem) | mem
  · rw [kind_of_mem_fieldsFor mem] at value
    cases value
  · rw [kind_of_mem_operatorsFor mem] at value
    cases value
  · split at mem
    · next opened => exact ⟨.tag, by simp, opened⟩
    · cases mem
  · split at mem
    · next opened => exact ⟨.created, by simp, opened⟩
    · cases mem
  · split at mem
    · rw [kind_of_mem_recents mem] at value
      cases value
    · cases mem

/-! ### The values behind the keyword of the tags -/

section Tag

variable (inside : QueryField.tag.keyword <:+: word)

include inside

theorem fieldsFor_of_tag : (fieldsFor word).length ≤ 1 := by
  have only (f : QueryField) (begins : word.isPrefixOf f.keyword = true) : f = .tag := by
    have within := inside.trans (List.isPrefixOf_iff_prefix.1 begins).isInfix
    revert within
    cases f <;> decide
  have part : (QueryField.all.filter fun f => word.isPrefixOf f.keyword).Sublist
      (QueryField.all.filter (· = .tag)) :=
    List.monotone_filter_right _ fun f begins => by simpa using only f begins
  rw [fieldsFor, List.length_map]
  exact part.length_le

theorem operatorsFor_of_tag : operatorsFor word = [] := by
  have capital : 'G' ∈ Text.upper word :=
    List.mem_flatMap.2 ⟨'g', inside.subset (by decide), by decide⟩
  rw [operatorsFor, List.map_eq_nil_iff, List.filter_eq_nil_iff]
  intro operator _ begins
  have mem := (List.isPrefixOf_iff_prefix.1 begins).subset capital
  revert mem
  cases operator <;> decide

theorem shortcutsFor_of_tag : shortcutsFor word = [] := by
  have kept : 'g' ∈ Text.without QueryField.created.keyword word :=
    Text.mem_without (by decide) (by decide) (inside.subset (by decide))
  rw [shortcutsFor, List.map_eq_nil_iff, List.filter_eq_nil_iff]
  intro shortcut _ found
  have mem := (Text.occurs_iff.1 found).subset kept
  revert mem
  cases shortcut <;> decide

end Tag

theorem length_tagsFor_le (word : List Char) (tags : List String) :
    (tagsFor word tags).length ≤ 5 := by
  rw [tagsFor, List.length_map]
  exact List.length_take_le 5 _

theorem mem_tagsFor (mem : s ∈ tagsFor word tags) : s.value ∈ tags ∧
    Text.lower (Text.without QueryField.tag.keyword word) <:+: Text.lower s.value.toList := by
  obtain ⟨tag, fits, rfl⟩ := List.mem_map.1 mem
  obtain ⟨mem, found⟩ := List.mem_filter.1 (List.mem_of_mem_take fits)
  exact ⟨mem, Text.occurs_iff.1 found⟩

/-- Behind the keyword of the tags in the last word the values are those for the tags, all of
them. -/
theorem values_of_tag (inside : QueryField.tag.keyword <:+: Text.lastWord before) :
    (list before tags recents).filter (·.kind = .value) = tagsFor (Text.lastWord before) tags := by
  have some_word : (Text.lastWord before).isEmpty = false := by
    rw [List.isEmpty_eq_false_iff]
    intro no_word
    rw [no_word] at inside
    revert inside
    decide
  have whole : list before tags recents =
      fieldsFor (Text.lastWord before) ++ tagsFor (Text.lastWord before) tags := by
    rw [list, operatorsFor_of_tag inside, if_pos (isOpen_of_lastWord inside),
      shortcutsFor_of_tag inside, some_word]
    simp only [ite_self, Bool.false_eq_true, if_false, List.append_nil]
    refine List.take_of_length_le ?_
    have fields := fieldsFor_of_tag inside
    have values := length_tagsFor_le (Text.lastWord before) tags
    rw [List.length_append]
    omega
  have no_fields : (fieldsFor (Text.lastWord before)).filter (·.kind = .value) = [] :=
    List.filter_eq_nil_iff.2 fun s mem => by simp [kind_of_mem_fieldsFor mem]
  have all_tags : (tagsFor (Text.lastWord before) tags).filter (·.kind = .value) =
      tagsFor (Text.lastWord before) tags :=
    List.filter_eq_self.2 fun s mem => by simp [kind_of_mem_tagsFor mem]
  rw [whole, List.filter_append, no_fields, all_tags, List.nil_append]

/-! ### What is suggested for a text -/

/-- Tags and recent searches that are not read are not needed. -/
theorem ofJson_eq_ok {text : String} {caret : Json} {position : Int}
    (placed : caretOf text.toList caret = .ok position) (tags recents : List String) :
    ofJson (.str text) caret (.arr (tags.map .str)) (.arr (recents.map .str)) =
      .ok (list (upTo position text.toList) tags recents) := by
  have tags_read : (tags.map Json.str).mapM Json.text = .ok tags :=
    mapM_map (f := Json.text) (fun _ => rfl) tags
  simp only [ofJson, pure_bind, bind_of_ok placed, list]
  cases isOpen .tag (upTo position text.toList) <;>
    cases (Text.lastWord (upTo position text.toList)).isEmpty <;>
    simp [-List.filterMap_map, Json.parts, tags_read, Json.filterMap_text?, bind, Except.bind, pure,
      Except.pure]

/-- Whatever the text and wherever the caret, a value is suggested only for a keyword without a
space behind it. That keyword is in the word in front of the caret unless a blank of another kind
comes after it. If the word has the keyword of the tags in it, the values are at most five tags, and
each has the rest of the word in it, both in lowercase. -/
theorem values_behind_keyword {text : String} {caret : Json} {position : Int}
    (placed : caretOf text.toList caret = .ok position) (tags recents : List String) :
    let before := upTo position text.toList
    let word := Text.lastWord before
    ∃ suggestions,
      ofJson (.str text) caret (.arr (tags.map .str)) (.arr (recents.map .str)) =
        .ok suggestions ∧
      (∀ s ∈ suggestions, s.kind = .value →
        ∃ field ∈ [QueryField.tag, .created], ∃ rest, field.keyword ++ rest <:+ before ∧
          ' ' ∉ rest ∧ (field.keyword <:+: word ∨ ∃ c ∈ rest, Text.isBlank c = true)) ∧
      (QueryField.tag.keyword <:+: word →
        let values := suggestions.filter (·.kind = .value)
        let part := Text.lower (Text.without QueryField.tag.keyword word)
        values.length ≤ 5 ∧
          ∀ s ∈ values, s.value ∈ tags ∧ part <:+: Text.lower s.value.toList) := by
  intro before word
  refine ⟨_, ofJson_eq_ok placed tags recents, fun s mem value => ?_, fun inside => ?_⟩
  · obtain ⟨field, offered, opened⟩ := isOpen_of_mem_list mem value
    obtain ⟨rest, ends, no_space⟩ := isOpen_iff.1 opened
    refine ⟨field, offered, rest, ends, no_space, ?_⟩
    by_cases blank : ∃ c ∈ rest, Text.isBlank c = true
    · exact .inr blank
    · exact .inl (keyword_in_lastWord ends (by simpa using blank))
  · intro values part
    have same : values = tagsFor word tags := values_of_tag inside
    rw [same]
    exact ⟨length_tagsFor_le word tags, fun s => mem_tagsFor⟩

/-- Two keywords of the tags in the word, six tags that fit and one that does not. -/
theorem values_behind_keyword_twice :
    let text := "NOT x tag:tag:Wo later"
    let caret := Json.int 16
    let tags := ["work", "HOME", "Two", "two words", "woe", "awoken", "WOOD"]
    let shown := ["work", "Two", "two words", "woe", "awoken"]
    caretOf text.toList caret = .ok 16 ∧
      ofJson (.str text) caret (.arr (tags.map .str)) (.arr []) = .ok (shown.map ofTag) ∧
      shown.length ≤ 5 ∧ ∀ tag ∈ shown, tag ∈ tags ∧
        Text.lower "Wo".toList <:+: Text.lower tag.toList := by
  intro text caret tags shown
  have placed : caretOf text.toList caret = .ok 16 := rfl
  have computed : ofJson (.str text) caret (.arr (tags.map .str)) (.arr []) =
      .ok (shown.map ofTag) := by decide +kernel
  obtain ⟨suggestions, read, _, values⟩ := values_behind_keyword placed tags []
  obtain rfl : suggestions = shown.map ofTag := Except.ok.inj (read.symm.trans computed)
  obtain ⟨few, fit⟩ := values (by decide +kernel)
  have part : Text.without QueryField.tag.keyword (Text.lastWord (upTo 16 text.toList)) =
      "Wo".toList := by decide +kernel
  rw [part] at fit
  refine ⟨placed, computed, few, fun tag mem => fit (ofTag tag) ?_⟩
  exact List.mem_filter.2 ⟨List.mem_map_of_mem mem, rfl⟩

/-- A tab is a blank, so the word is `work`, and no space, so it gets the values for a tag. -/
theorem not_values_in_word : ¬ ∀ (text : String) (caret : Json) (position : Int)
    (tags recents : List String) (suggestions : List Suggestion),
    caretOf text.toList caret = .ok position →
    ofJson (.str text) caret (.arr (tags.map .str)) (.arr (recents.map .str)) = .ok suggestions →
    ∀ s ∈ suggestions, s.kind = .value → ∃ field ∈ [QueryField.tag, .created],
      field.keyword <:+: Text.lastWord (upTo position text.toList) := by
  intro all
  have inside := all "tag:\twork" .null 9 ["work"] [] [ofTag "work"] rfl (by decide +kernel)
    (ofTag "work") (by simp) rfl
  revert inside
  decide +kernel

/-! ### Recent searches -/

/-- All that is offered for a text that ends at the caret; the list has the first eight. -/
def offers (before : List Char) (tags recents : List String) : List Suggestion :=
  let word := Text.lastWord before
  fieldsFor word ++ operatorsFor word ++
    (if isOpen .tag before then tagsFor word tags else []) ++
    (if isOpen .created before then shortcutsFor word else []) ++
    (if word.isEmpty then (recents.take 3).map ofRecent else [])

theorem list_eq_take (before : List Char) (tags recents : List String) :
    list before tags recents = (offers before tags recents).take 8 := rfl

/-- Every field and every operator begins with the empty word, and they are eight. -/
theorem exists_offers_of_no_word (no_word : Text.lastWord before = []) (tags : List String) :
    ∃ values, ∀ recents, offers before tags recents =
      (QueryField.all.map ofField ++ Operator.all.map ofOperator) ++
        (values ++ (recents.take 3).map ofRecent) := by
  have fields : fieldsFor [] = QueryField.all.map ofField := rfl
  have operators : operatorsFor [] = Operator.all.map ofOperator := rfl
  refine ⟨(if isOpen .tag before then tagsFor [] tags else []) ++
    (if isOpen .created before then shortcutsFor [] else []), fun recents => ?_⟩
  simp only [offers, no_word, fields, operators, List.isEmpty_nil, if_true, List.append_assoc]

theorem length_fields_operators :
    (QueryField.all.map ofField ++ Operator.all.map ofOperator).length = 8 := rfl

theorem list_of_no_word (no_word : Text.lastWord before = []) (tags recents : List String) :
    list before tags recents = QueryField.all.map ofField ++ Operator.all.map ofOperator := by
  obtain ⟨values, offered⟩ := exists_offers_of_no_word no_word tags
  rw [list_eq_take, offered, List.take_left' length_fields_operators]

theorem offers_of_word (word : Text.lastWord before ≠ []) (tags recents : List String) :
    offers before tags recents = offers before tags [] := by
  simp only [offers, List.isEmpty_iff, if_neg word]

theorem not_preset_of_word (word : Text.lastWord before ≠ [])
    (mem : s ∈ offers before tags recents) : s.kind ≠ .preset := by
  simp only [offers, List.isEmpty_iff, if_neg word, List.append_nil, List.mem_append] at mem
  rcases mem with ((mem | mem) | mem) | mem
  · rw [kind_of_mem_fieldsFor mem]
    nofun
  · rw [kind_of_mem_operatorsFor mem]
    nofun
  · split at mem
    · rw [kind_of_mem_tagsFor mem]
      nofun
    · cases mem
  · split at mem
    · rw [kind_of_mem_shortcutsFor mem]
      nofun
    · cases mem

theorem not_preset_of_mem_list (mem : s ∈ list before tags recents) : s.kind ≠ .preset := by
  by_cases word : Text.lastWord before = []
  · rw [list_of_no_word word, List.mem_append] at mem
    rcases mem with mem | mem
    · obtain ⟨_, _, rfl⟩ := List.mem_map.1 mem
      nofun
    · obtain ⟨_, _, rfl⟩ := List.mem_map.1 mem
      nofun
  · exact not_preset_of_word word (List.mem_of_mem_take mem)

/-- Whatever the text, the caret and the tags, all recent searches lead to one list, and none of
them is on it. Where there is no word they are offered behind eight others, and the list ends with
the eighth; for a word they are not offered. -/
theorem recents_not_listed {text : String} {caret : Json} {position : Int}
    (placed : caretOf text.toList caret = .ok position) (tags : List String) :
    let before := upTo position text.toList
    ∃ listed : List Suggestion, (∀ s ∈ listed, s.kind ≠ .preset) ∧ ∀ recents : List String,
      ofJson (.str text) caret (.arr (tags.map .str)) (.arr (recents.map .str)) = .ok listed ∧
      listed = (offers before tags recents).take 8 ∧
      (Text.lastWord before = [] → ∃ others, 8 ≤ others.length ∧
        offers before tags recents = others ++ (recents.take 3).map ofRecent) ∧
      (Text.lastWord before ≠ [] → ∀ s ∈ offers before tags recents, s.kind ≠ .preset) := by
  intro before
  refine ⟨list before tags [], fun s => not_preset_of_mem_list, fun recents => ?_⟩
  have same : list before tags recents = list before tags [] := by
    by_cases word : Text.lastWord before = []
    · rw [list_of_no_word word, list_of_no_word word]
    · rw [list_eq_take, offers_of_word word, list_eq_take]
  refine ⟨?_, ?_, fun no_word => ?_, fun word s => not_preset_of_word word⟩
  · rw [ofJson_eq_ok placed, same]
  · rw [← same, list_eq_take]
  · obtain ⟨values, offered⟩ := exists_offers_of_no_word no_word tags
    refine ⟨_, ?_, by rw [offered, ← List.append_assoc]⟩
    rw [List.length_append, length_fields_operators]
    exact Nat.le_add_right 8 _

/-- Behind a blank there is no word; the values of an open keyword are cut off as well. -/
theorem recents_not_listed_behind_tab :
    let text := "tag:\twork"
    let tags := ["work", "home"]
    let shown := QueryField.all.map ofField ++ Operator.all.map ofOperator
    caretOf text.toList (.int 5) = .ok 5 ∧ Text.lastWord (upTo 5 text.toList) = [] ∧
      (∀ recents : List String, ofJson (.str text) (.int 5) (.arr (tags.map .str))
        (.arr (recents.map .str)) = .ok shown) ∧
      ∀ s ∈ shown, s.kind ≠ .preset := by
  intro text tags shown
  have placed : caretOf text.toList (.int 5) = .ok 5 := rfl
  have no_word : Text.lastWord (upTo 5 text.toList) = [] := by decide +kernel
  obtain ⟨listed, not_preset, all⟩ := recents_not_listed placed tags
  have computed : ofJson (.str text) (.int 5) (.arr (tags.map .str)) (.arr []) = .ok shown := by
    decide +kernel
  obtain rfl : listed = shown := Except.ok.inj ((all []).1.symm.trans computed)
  exact ⟨placed, no_word, fun recents => (all recents).1, not_preset⟩

end Bookmarks.Suggestion
