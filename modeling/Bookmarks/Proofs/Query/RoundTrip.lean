import Bookmarks.Proofs.Query.Joined
import Bookmarks.Proofs.Query.Legible

/-! A query that was read from a text is read again from its own text. The text of a legible query
whose values hold no quote gives back the query and no warning. So the free text of a query that was
read is read as free text and nothing else. -/

namespace Bookmarks.Query

open Text

/-! ### Clauses -/

theorem readFieldClause?_lead (lead : Option Operator) (field : QueryField) (w : List Char) :
    readFieldClause? ((lead.elim [] fun operator => operator.word.toList ++ [' ']) ++
        field.keyword ++ w) =
      (readValue? w).map fun (value, rest) => (⟨lead, field, value⟩, rest) := by
  cases lead with
  | none =>
    simp only [readFieldClause?, Option.elim_none, List.nil_append, readOperator?_keyword,
      readField?_keyword]
    cases readValue? w <;> rfl
  | some operator =>
    have stop : (field.keyword ++ w).dropWhile isBlank = field.keyword ++ w := by
      obtain ⟨c, t, same, hc⟩ := keyword_eq_cons field
      simp [same, hc]
    simp only [readFieldClause?, Option.elim_some, List.append_assoc, List.cons_append,
      List.nil_append, readOperator?_word operator isBlank_space, stop, readField?_keyword]
    cases readValue? w <;> rfl

theorem readFieldClause?_render {clause : FieldClause} (some_value : clause.value.toList ≠ [])
    (no_quote : '"' ∉ clause.value.toList) (rest : List Char) :
    readFieldClause? (clause.render ++ rest) = some (clause, rest) := by
  have read := readFieldClause?_lead clause.lead clause.field
    ('"' :: (clause.value.toList ++ '"' :: rest))
  rw [readValue?_quoted some_value no_quote] at read
  simpa [FieldClause.render] using read

theorem readTermClause?_render {clause : TermClause} (some_term : clause.term.toList ≠ [])
    (word : ∀ c ∈ clause.term.toList, isBlank c = false) {rest : List Char}
    (head : ∀ c ∈ rest.head?, isBlank c = true) :
    readTermClause? (clause.render ++ rest) = some (clause, rest) := by
  obtain ⟨operator, term⟩ := clause
  have stop : (term.toList ++ rest).dropWhile isBlank = term.toList ++ rest := by
    obtain ⟨c, cs, same⟩ := List.exists_cons_of_ne_nil some_term
    simp only at same
    simp [same, word c (by simp [same])]
  have read := readRun?_append some_term word head
  simp only at read
  simp [TermClause.render, readTermClause?, readOperator?_word operator isBlank_space, stop, read]

theorem isTidy_quoted {value : List Char} (spaced : IsSpaced value) :
    IsTidy ('"' :: (value ++ ['"'])) := by
  have quote : isBlank '"' = false := by decide
  refine ⟨(isSpaced_cons_of_not_blank quote).2 (isSpaced_append spaced ?_ ?_), ?_, ?_⟩
  · exact isSpaced_of_no_blank (by simpa using quote)
  · simpa using quote
  · simpa using quote
  · intro c hc
    rw [← List.cons_append, List.getLast?_concat] at hc
    obtain rfl : '"' = c := by simpa using hc
    exact quote

/-- An operator in front of a field keeps it tidy. -/
theorem isTidy_lead (lead : Option Operator) {field : QueryField} {w : List Char}
    (h : IsTidy (field.keyword ++ w)) :
    IsTidy ((lead.elim [] fun operator => operator.word.toList ++ [' ']) ++ field.keyword ++ w) := by
  cases lead with
  | none => simpa using h
  | some operator =>
    have both := (isTidy_of_no_blank (word_not_blank operator)).join h (word_ne_nil operator)
      (by simp [QueryField.keyword])
    simpa using both

theorem isTidy_fieldClause {clause : FieldClause} (spaced : IsSpaced clause.value.toList) :
    IsTidy clause.render ∧ clause.render ≠ [] := by
  have quoted := isTidy_quoted spaced
  have field : IsTidy (clause.field.keyword ++ '"' :: (clause.value.toList ++ ['"'])) := by
    have keyword := keyword_not_blank clause.field
    refine ⟨isSpaced_append (isSpaced_of_no_blank keyword) quoted.spaced quoted.head, ?_, ?_⟩
    · intro c hc
      obtain ⟨d, t, same, hd⟩ := keyword_eq_cons clause.field
      rw [same, List.cons_append, List.head?_cons, Option.mem_some_iff] at hc
      exact hc ▸ hd
    · intro c hc
      rw [List.getLast?_append_cons] at hc
      exact quoted.last c hc
  exact ⟨isTidy_lead clause.lead field, by simp [FieldClause.render]⟩

theorem isTidy_termClause {clause : TermClause} (some_term : clause.term.toList ≠ [])
    (word : ∀ c ∈ clause.term.toList, isBlank c = false) :
    IsTidy clause.render ∧ clause.render ≠ [] :=
  ⟨(isTidy_of_no_blank (word_not_blank _)).join (isTidy_of_no_blank word) (word_ne_nil _) some_term,
    by simp [TermClause.render]⟩

theorem never_field_of_no_colon {edge : Bool} {s : List Char} (h : ':' ∉ s) :
    Never StartsField edge s := by
  induction s generalizing edge with
  | nil => trivial
  | cons c s ih =>
    refine ⟨fun _ start => h ?_, ih fun mem => h (List.mem_cons_of_mem c mem)⟩
    obtain ⟨field, d, t, same, _⟩ := start
    simp [same, QueryField.keyword]

theorem never_field_termClause {clause : TermClause}
    (term : Never StartsField true clause.term.toList) : Never StartsField true clause.render :=
  never_field_join (never_field_of_no_colon (by cases clause.operator <;> decide)) term

/-! ### Putting the clauses back -/

theorem foldl_put_named (terms : FieldTerms) :
    terms.named.foldl (fun t p => t.put p.1 p.2) {} = terms := by
  have tags (start : FieldTerms) (tags : List String) :
      (tags.map fun tag => (QueryField.tag, tag)).foldl (fun t p => t.put p.1 p.2) start =
        { start with tags := start.tags ++ tags } := by
    induction tags generalizing start with
    | nil => simp
    | cons tag tags ih =>
      rw [List.map_cons, List.foldl_cons, ih]
      simp [FieldTerms.put]
  obtain ⟨title, description, filepath, ts⟩ := terms
  simp only [FieldTerms.named, List.foldl_append, tags]
  cases title <;> cases description <;> cases filepath <;> simp [FieldTerms.put]

theorem putFields_named (query : Query) {named : List (QueryField × String)}
    (h : ∀ p ∈ named, p.1 ≠ .created) (found : List FieldClause) :
    putFields query ((named.map fun (field, value) => ⟨none, field, value⟩) ++ found) =
      putFields { query with required := named.foldl (fun t p => t.put p.1 p.2) query.required }
        found := by
  induction named generalizing query with
  | nil => rfl
  | cons p named ih =>
    obtain ⟨hp, rest⟩ := List.forall_mem_cons.1 h
    rw [List.map_cons, List.cons_append, putFields_cons]
    simp [putField, hp, ih _ rest]

theorem putFields_named_not (query : Query) {named : List (QueryField × String)}
    (h : ∀ p ∈ named, p.1 ≠ .created) (found : List FieldClause) :
    putFields query ((named.map fun (field, value) => ⟨some .not, field, value⟩) ++ found) =
      putFields { query with excluded := named.foldl (fun t p => t.put p.1 p.2) query.excluded }
        found := by
  induction named generalizing query with
  | nil => rfl
  | cons p named ih =>
    obtain ⟨hp, rest⟩ := List.forall_mem_cons.1 h
    rw [List.map_cons, List.cons_append, putFields_cons]
    simp [putField, hp, ih _ rest]

theorem putFields_fieldClauses {query : Query}
    (created : ∀ condition ∈ query.created, readCondition condition.text = .ok condition) :
    putFields {} query.fieldClauses = ({
      required := query.required
      excluded := query.excluded
      created := query.created }, []) := by
  rw [fieldClauses, List.append_assoc,
    putFields_named _ fun p hp => field_ne_created_of_mem_named hp,
    putFields_named_not _ fun p hp => field_ne_created_of_mem_named hp, foldl_put_named,
    foldl_put_named]
  cases date : query.created with
  | none => simp [putFields_nil]
  | some condition =>
    have read := created condition (by simp [date])
    simp [putFields_cons, putFields_nil, putField, putDate, read]

theorem foldl_putTerm_termClauses (query : Query) (start : Query) (no_terms : start.allOf = [] ∧
    start.anyOf = [] ∧ start.noneOf = []) : query.termClauses.foldl putTerm start =
      { start with allOf := query.allOf, anyOf := query.anyOf, noneOf := query.noneOf } := by
  simp [foldl_putTerm, no_terms, termClauses, List.filter_map, Function.comp_def]

/-! ### Reading the text of a query -/

theorem intercalate_textPart (query : Query) :
    [' '].intercalate query.textPart = query.text.toList := by
  by_cases none : query.text = "" <;> simp [textPart, none]

/-- What stands behind the field clauses: tidy parts, in which no field begins. -/
theorem Legible.later_part {query : Query} (h : query.Legible) {part : List Char}
    (mem : part ∈ query.termClauses.map TermClause.render ++ query.textPart) :
    (IsTidy part ∧ part ≠ []) ∧ Never StartsField true part := by
  rcases List.mem_append.1 mem with mem | mem
  · obtain ⟨clause, hc, rfl⟩ := List.mem_map.1 mem
    obtain ⟨some_term, word, no_field⟩ := h.terms clause hc
    exact ⟨isTidy_termClause some_term word, never_field_termClause no_field⟩
  · by_cases none : query.text = ""
    · simp [textPart, none] at mem
    · obtain rfl : part = query.text.toList := by simpa [textPart, none] using mem
      exact ⟨⟨h.tidy_text, by simpa using none⟩, h.no_field⟩

theorem Legible.isTidy_render {query : Query} (h : query.Legible) :
    IsTidy query.render.toList := by
  rw [render, String.toList_ofList]
  refine isTidy_intercalate fun part mem => ?_
  rcases List.mem_append.1 mem with mem | mem
  · obtain ⟨clause, hc, rfl⟩ := List.mem_map.1 mem
    exact isTidy_fieldClause (h.values clause hc).2
  · exact (h.later_part mem).1

theorem Legible.pieces_fields {query : Query} (h : query.Legible)
    (no_quote : ∀ clause ∈ query.fieldClauses, '"' ∉ clause.value.toList) :
    let fields := pieces readFieldClause? query.render.toList
    clauses fields = query.fieldClauses ∧ tidy (remainder fields) =
      [' '].intercalate (query.termClauses.map TermClause.render ++ query.textPart) := by
  let later := query.termClauses.map TermClause.render ++ query.textPart
  have plain : scan readFieldClause? 0 true ([' '].intercalate later) =
      ([' '].intercalate later).map .plain :=
    scan_field_eq_map_plain (never_field_intercalate fun part mem => (h.later_part mem).2)
  have tidy_later : IsTidy ([' '].intercalate later) :=
    isTidy_intercalate fun part mem => (h.later_part mem).1
  have reads : ∀ clause ∈ query.fieldClauses, clause.render ≠ [] ∧ ∀ rest : List Char,
      (∀ c ∈ rest.head?, isBlank c = true) →
        readFieldClause? (clause.render ++ rest) = some (clause, rest) := by
    intro clause mem
    refine ⟨(isTidy_fieldClause (h.values clause mem).2).2, fun rest _ => ?_⟩
    exact readFieldClause?_render (h.values clause mem).1 (no_quote clause mem) rest
  have found := scan_rendered consumes_readFieldClause? readFieldClause?_space reads plain
  rw [render, String.toList_ofList]
  exact ⟨found.1, found.2.trans tidy_later.tidy_eq⟩

theorem Legible.pieces_terms {query : Query} (h : query.Legible) :
    let terms := pieces readTermClause?
      ([' '].intercalate (query.termClauses.map TermClause.render ++ query.textPart))
    clauses terms = query.termClauses ∧ tidy (remainder terms) = query.text.toList := by
  have plain : scan readTermClause? 0 true ([' '].intercalate query.textPart) =
      ([' '].intercalate query.textPart).map .plain := by
    rw [intercalate_textPart]
    exact scan_term_eq_map_plain h.no_term
  have reads : ∀ clause ∈ query.termClauses, clause.render ≠ [] ∧ ∀ rest : List Char,
      (∀ c ∈ rest.head?, isBlank c = true) →
        readTermClause? (clause.render ++ rest) = some (clause, rest) := by
    intro clause mem
    obtain ⟨some_term, word, _⟩ := h.terms clause mem
    exact ⟨(isTidy_termClause some_term word).2,
      fun rest head => readTermClause?_render some_term word head⟩
  have found := scan_rendered consumes_readTermClause? readTermClause?_space reads plain
  rw [intercalate_textPart, h.tidy_text.tidy_eq] at found
  exact found

theorem parse_render_of_legible {query : Query} (h : query.Legible)
    (no_quote : ∀ clause ∈ query.fieldClauses, '"' ∉ clause.value.toList) :
    parse query.render = (query, []) := by
  obtain ⟨found_fields, left_fields⟩ := h.pieces_fields no_quote
  obtain ⟨found_terms, left_terms⟩ := h.pieces_terms
  simp only [parse, h.isTidy_render.tidy_eq, parseTidy, found_fields, left_fields, found_terms,
    left_terms, putFields_fieldClauses h.created, String.ofList_toList]
  rw [foldl_putTerm_termClauses query _ ⟨rfl, rfl, rfl⟩]

/-- What a text was read as is read from its own text again. -/
theorem parse_render_parse (text : String)
    (h : ∀ clause ∈ (parse text).1.fieldClauses, '"' ∉ clause.value.toList) :
    parse (parse text).1.render = ((parse text).1, []) :=
  parse_render_of_legible (legible_parse text) h

/-- Clauses and terms out of their order, blanks that are dropped, and words that are no terms. -/
theorem parse_render_parse_mixed :
    let text := " NOT title:\"a  tag:b\" AND AND x-OR tag: tag:NOT created:>1 y AND"
    let printed :=
      "tag:\"NOT\" NOT title:\"a tag:b\" created:\">1\" AND AND OR tag: x- y AND"
    (∀ clause ∈ (parse text).1.fieldClauses, '"' ∉ clause.value.toList) ∧
      parse printed = ((parse text).1, []) := by
  intro text printed
  have no_quote : ∀ clause ∈ (parse text).1.fieldClauses, '"' ∉ clause.value.toList := by
    decide +kernel
  have prints : (parse text).1.render = printed := by decide +kernel
  exact ⟨no_quote, prints ▸ parse_render_parse text no_quote⟩

theorem render_text (text : String) : render { text } = text := by
  have whole := intercalate_textPart { text }
  simp only at whole
  simp [render, fieldClauses, termClauses, FieldTerms.named, whole]

/-- A tidy text in which no clause begins is free text alone. -/
theorem parse_of_never {text : String} (tidy_text : IsTidy text.toList)
    (no_field : Never StartsField true text.toList)
    (no_term : Never StartsTerm true text.toList) : parse text = ({ text }, []) := by
  have legible : Legible { text } := {
    values := by simp [fieldClauses, FieldTerms.named]
    created := by simp
    terms := by simp [termClauses]
    tidy_text
    no_field
    no_term }
  have read := parse_render_of_legible legible (by simp [fieldClauses, FieldTerms.named])
  rwa [render_text] at read

theorem Legible.parse_text {query : Query} (h : query.Legible) :
    parse query.text = ({ text := query.text }, []) :=
  parse_of_never h.tidy_text h.no_field h.no_term

/-- What is left as free text of a text, or of none, is tidy and is read as free text alone. -/
theorem parse_free_text (text : Option String) :
    let left := (parse (text.getD "")).1.text
    IsTidy left.toList ∧ parse left = ({ text := left }, []) :=
  ⟨(legible_parse _).tidy_text, (legible_parse _).parse_text⟩

end Bookmarks.Query
