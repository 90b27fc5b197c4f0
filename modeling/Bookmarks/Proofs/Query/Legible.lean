import Bookmarks.Proofs.Query.Render
import Bookmarks.Proofs.Query.Residue

/-! Legible queries: no part of them holds anything that the reader would take for a clause of its
own. Every query that was read from a text is legible. -/

namespace Bookmarks

open Text

theorem readCondition_text_eq {value : String} {condition : DateCondition}
    (h : Query.readCondition value = .ok condition) : condition.text = value := by
  unfold Query.readCondition at h
  split at h
  · rename_i shortcut found
    obtain rfl := Except.ok.inj h
    have := List.find?_some found
    simpa [DateCondition.text] using this
  · split at h
    · simp at h
    · rename_i c bound chars
      split at h
      · simp at h
      · rename_i comparison symbol
        split at h
        · simp at h
        · obtain rfl := Except.ok.inj h
          have same : comparison.symbol = c := by simpa using List.find?_some symbol
          rw [DateCondition.text, String.toList_ofList, same, ← chars, String.ofList_toList]

theorem mem_named_put {terms : FieldTerms} {field : QueryField} {value : String}
    {p : QueryField × String} (h : p ∈ (terms.put field value).named) :
    p = (field, value) ∨ p ∈ terms.named := by
  cases field <;> simp [FieldTerms.put, FieldTerms.named] at h ⊢ <;> grind

theorem field_ne_created_of_mem_named {terms : FieldTerms} {p : QueryField × String}
    (h : p ∈ terms.named) : p.1 ≠ .created := by
  simp only [FieldTerms.named, List.mem_append, List.mem_map] at h
  obtain ((⟨v, _, rfl⟩ | ⟨v, _, rfl⟩) | ⟨v, _, rfl⟩) | ⟨v, _, rfl⟩ := h <;> simp

namespace Query

/-- What every query that was read from a text has. -/
structure Legible (query : Query) : Prop where
  values : ∀ clause ∈ query.fieldClauses,
    clause.value.toList ≠ [] ∧ IsSpaced clause.value.toList
  created : ∀ condition ∈ query.created, readCondition condition.text = .ok condition
  terms : ∀ clause ∈ query.termClauses, clause.term.toList ≠ [] ∧
    (∀ c ∈ clause.term.toList, isBlank c = false) ∧ Never StartsField true clause.term.toList
  tidy_text : IsTidy query.text.toList
  no_field : Never StartsField true query.text.toList
  no_term : Never StartsTerm true query.text.toList

/-- All values and tags of a query pass a test, and its date condition is read from its text. -/
structure Sound (test : String → Prop) (query : Query) : Prop where
  required : ∀ p ∈ query.required.named, test p.2
  excluded : ∀ p ∈ query.excluded.named, test p.2
  created : ∀ condition ∈ query.created,
    test condition.text ∧ readCondition condition.text = .ok condition

theorem putFields_from (query : Query) (warnings : List Warning) (found : List FieldClause) :
    found.foldl (fun (query, warnings) clause =>
      let (query, more) := putField query clause
      (query, warnings ++ more)) (query, warnings) =
    ((putFields query found).1, warnings ++ (putFields query found).2) := by
  induction found generalizing query warnings with
  | nil => simp [putFields]
  | cons clause found ih =>
    simp only [putFields, List.foldl_cons, List.nil_append]
    rw [ih, ih _ (putField query clause).2, List.append_assoc]

theorem putFields_nil (query : Query) : putFields query [] = (query, []) := rfl

theorem putFields_cons (query : Query) (clause : FieldClause) (found : List FieldClause) :
    putFields query (clause :: found) =
      ((putFields (putField query clause).1 found).1,
        (putField query clause).2 ++ (putFields (putField query clause).1 found).2) := by
  rw [putFields, List.foldl_cons]
  exact putFields_from ..

theorem putField_fst (query : Query) (clause : FieldClause) :
    (putField query clause).1 =
      if clause.field = .created then (putDate query clause.lead clause.value).1
      else if clause.lead = some .not then
        { query with excluded := query.excluded.put clause.field clause.value }
      else { query with required := query.required.put clause.field clause.value } := by
  unfold putField
  by_cases created : clause.field = .created
  · simp only [created, if_true]
  · by_cases negated : clause.lead = some .not <;> simp only [created, negated, if_true, if_false]

theorem Sound.putDate {test : String → Prop} {query : Query} (h : query.Sound test)
    (lead : Option Operator) {value : String} (hv : test value) :
    (putDate query lead value).1.Sound test := by
  unfold Query.putDate
  split
  · exact h
  · split
    · rename_i condition read
      refine ⟨h.required, h.excluded, fun d hd => ?_⟩
      obtain rfl : condition = d := by simpa using hd
      rw [readCondition_text_eq read]
      exact ⟨hv, read⟩
    · exact h

theorem Sound.putField {test : String → Prop} {query : Query} (h : query.Sound test)
    {clause : FieldClause} (hc : test clause.value) : (putField query clause).1.Sound test := by
  have put {terms : FieldTerms} (ht : ∀ p ∈ terms.named, test p.2) :
      ∀ p ∈ (terms.put clause.field clause.value).named, test p.2 := by
    intro p mem
    rcases mem_named_put mem with rfl | mem
    · exact hc
    · exact ht p mem
  rw [putField_fst]
  split
  · exact h.putDate _ hc
  · split
    · exact ⟨h.required, put h.excluded, h.created⟩
    · exact ⟨put h.required, h.excluded, h.created⟩

theorem Sound.putFields {test : String → Prop} {query : Query} {found : List FieldClause}
    (h : query.Sound test) (hf : ∀ clause ∈ found, test clause.value) :
    (putFields query found).1.Sound test := by
  induction found generalizing query with
  | nil => exact h
  | cons clause found ih =>
    obtain ⟨hc, rest⟩ := List.forall_mem_cons.1 hf
    rw [putFields_cons]
    exact ih (h.putField hc) rest

theorem mem_clauses {α : Type} {read? : List Char → Option (α × List Char)} {skip : Nat}
    {edge : Bool} {s : List Char} {clause : α} (h : clause ∈ clauses (scan read? skip edge s)) :
    ∃ u t rest, s = u ++ t ∧ read? t = some (clause, rest) := by
  fun_induction scan read? skip edge s with
  | case1 => simp [clauses] at h
  | case2 skip edge c cs ih =>
    obtain ⟨u, t, rest, rfl, read⟩ := ih h
    exact ⟨c :: u, t, rest, rfl, read⟩
  | case3 edge c cs found rest read ih =>
    simp only [clauses, List.filterMap_cons, List.mem_cons] at h
    rcases h with rfl | h
    · refine ⟨[], c :: cs, rest, rfl, ?_⟩
      split at read
      · exact read
      · simp at read
    · obtain ⟨u, t, rest, rfl, later⟩ := ih h
      exact ⟨c :: u, t, rest, rfl, later⟩
  | case4 edge c cs unread ih =>
    simp only [clauses, List.filterMap_cons] at h
    obtain ⟨u, t, rest, rfl, read⟩ := ih h
    exact ⟨c :: u, t, rest, rfl, read⟩

/-- A value is a part of its text. -/
theorem value_of_mem_clauses {s : List Char} (spaced : IsSpaced s) {clause : FieldClause}
    (h : clause ∈ clauses (pieces readFieldClause? s)) :
    clause.value.toList ≠ [] ∧ IsSpaced clause.value.toList := by
  obtain ⟨u, t, rest, rfl, read⟩ := mem_clauses h
  obtain ⟨v, field, place⟩ := readFieldClause?_eq_some read
  obtain ⟨w, rfl, value⟩ := readField?_eq_some field
  obtain ⟨some_value, inside, _⟩ := readValue?_eq_some value
  have whole : clause.field.keyword ++ w <:+: t := by
    rcases place with rfl | ⟨x, b, rfl, _⟩
    · exact List.infix_refl _
    · exact ((List.suffix_cons b _).trans (List.suffix_append x _)).isInfix
  refine ⟨some_value, spaced.of_part ?_⟩
  exact (inside.trans (List.suffix_append _ _).isInfix).trans
    (whole.trans (List.suffix_append u t).isInfix)

/-- A term is a whole word of its text. -/
theorem term_of_mem_clauses {s : List Char} (h : Never StartsField true s) {clause : TermClause}
    (mem : clause ∈ clauses (pieces readTermClause? s)) : clause.term.toList ≠ [] ∧
      (∀ c ∈ clause.term.toList, isBlank c = false) ∧
      Never StartsField true clause.term.toList := by
  obtain ⟨u, t, rest, rfl, read⟩ := mem_clauses mem
  obtain ⟨v, run, w, b, rfl, hb⟩ := readTermClause?_eq_some read
  obtain ⟨some_term, word, rfl, _⟩ := readRun?_eq_some run
  have later : Never StartsField (edgeAfter true (u ++ w ++ [b])) (clause.term.toList ++ rest) := by
    refine Never.right ?_
    simpa using h
  rw [edgeAfter_blank true (u ++ w) hb] at later
  exact ⟨some_term, word, later.left fun _ => startsField_append⟩

theorem foldl_putTerm (query : Query) (found : List TermClause) :
    found.foldl putTerm query = { query with
      allOf := query.allOf ++ (found.filter (·.operator = .and)).map (·.term)
      anyOf := query.anyOf ++ (found.filter (·.operator = .or)).map (·.term)
      noneOf := query.noneOf ++ (found.filter (·.operator = .not)).map (·.term) } := by
  induction found generalizing query with
  | nil => simp
  | cons clause found ih =>
    rw [List.foldl_cons, ih]
    obtain ⟨operator, term⟩ := clause
    cases operator <;> simp [putTerm]

theorem putField_frame (query : Query) (clause : FieldClause) :
    (putField query clause).1.allOf = query.allOf ∧ (putField query clause).1.anyOf = query.anyOf ∧
      (putField query clause).1.noneOf = query.noneOf := by
  rw [putField_fst]
  unfold putDate
  split_ifs
  · exact ⟨rfl, rfl, rfl⟩
  · split <;> exact ⟨rfl, rfl, rfl⟩
  · exact ⟨rfl, rfl, rfl⟩
  · exact ⟨rfl, rfl, rfl⟩

/-- Field clauses do not touch the terms of operators. -/
theorem putFields_frame (query : Query) (found : List FieldClause) :
    (putFields query found).1.allOf = query.allOf ∧
      (putFields query found).1.anyOf = query.anyOf ∧
      (putFields query found).1.noneOf = query.noneOf := by
  induction found generalizing query with
  | nil => exact ⟨rfl, rfl, rfl⟩
  | cons clause found ih =>
    have first := putField_frame query clause
    have rest := ih (putField query clause).1
    rw [putFields_cons]
    exact ⟨rest.1.trans first.1, rest.2.1.trans first.2.1, rest.2.2.trans first.2.2⟩

theorem parseTidy_fst (s : List Char) :
    (parseTidy s).1 =
      let terms := pieces readTermClause? (tidy (remainder (pieces readFieldClause? s)))
      { (clauses terms).foldl putTerm (putFields {} (clauses (pieces readFieldClause? s))).1 with
        text := String.ofList (tidy (remainder terms)) } := rfl

theorem legible_parseTidy {s : List Char} (spaced : IsSpaced s) : (parseTidy s).1.Legible := by
  have sound : (putFields {} (clauses (pieces readFieldClause? s))).1.Sound
      fun v => v.toList ≠ [] ∧ IsSpaced v.toList := by
    refine Sound.putFields ⟨?_, ?_, ?_⟩ fun clause mem => value_of_mem_clauses spaced mem
    all_goals simp [FieldTerms.named]
  obtain ⟨no_all, no_any, no_none⟩ := putFields_frame {} (clauses (pieces readFieldClause? s))
  have no_field := never_field_remainder s
  rw [parseTidy_fst]
  simp only [foldl_putTerm, no_all, no_any, no_none, List.nil_append]
  refine ⟨?_, fun d hd => (sound.created d hd).2, ?_, ?_, ?_, ?_⟩
  · intro clause mem
    simp only [fieldClauses, List.mem_append, List.mem_map] at mem
    obtain (⟨p, hp, rfl⟩ | ⟨p, hp, rfl⟩) | ⟨d, hd, rfl⟩ := mem
    · exact sound.required p hp
    · exact sound.excluded p hp
    · exact (sound.created d (by simpa using hd)).1
  · intro clause mem
    simp only [termClauses, List.map_map, List.mem_append, List.mem_map, List.mem_filter,
      Function.comp_apply] at mem
    obtain (⟨found, hf, rfl⟩ | ⟨found, hf, rfl⟩) | ⟨found, hf, rfl⟩ := mem
    all_goals
      have word := term_of_mem_clauses no_field hf.1
      exact word
  · rw [String.toList_ofList]
    exact isTidy_tidy _
  · rw [String.toList_ofList]
    exact never_field_term_remainder no_field
  · rw [String.toList_ofList]
    exact never_term_remainder _

theorem legible_parse (text : String) : (parse text).1.Legible :=
  legible_parseTidy (isTidy_tidy _).spaced

end Query

end Bookmarks
