import Bookmarks.Proofs.Query.RoundTrip
import Bookmarks.Proofs.Query.Together

/-! Clauses that ask for more: a tag or a term that has to be there, or must not be. Typed alone,
such a clause is read as what it demands and nothing else. -/

namespace Bookmarks

open Text

/-- A word as it is typed for a value: not empty, without blanks and without quotes. -/
structure TypedWord where
  text : String
  ne_nil : text.toList ≠ []
  not_blank : ∀ c ∈ text.toList, isBlank c = false
  no_quote : '"' ∉ text.toList

/-- Tags and terms that have to be there, or must not be. -/
structure Demands where
  tags : List String := []
  barredTags : List String := []
  terms : List String := []
  barredTerms : List String := []

def Demands.query (d : Demands) : Query where
  required := { tags := d.tags }
  excluded := { tags := d.barredTags }
  allOf := d.terms
  noneOf := d.barredTerms

/-- A clause that asks for more. A term with a colon could name a field. -/
inductive Refinement where
  | tag (value : TypedWord)
  | notTag (value : TypedWord)
  | and (term : TypedWord) (no_colon : ':' ∉ term.text.toList)
  | not (term : TypedWord) (no_colon : ':' ∉ term.text.toList)

namespace Refinement

def text : Refinement → String
  | tag value => "tag:" ++ value.text
  | notTag value => "NOT tag:" ++ value.text
  | and term _ => "AND " ++ term.text
  | not term _ => "NOT " ++ term.text

def demands : Refinement → Demands
  | tag value => { tags := [value.text] }
  | notTag value => { barredTags := [value.text] }
  | and term _ => { terms := [term.text] }
  | not term _ => { barredTerms := [term.text] }

end Refinement

namespace Query

/-- A field clause with its value in no quotes. -/
def FieldClause.typed (clause : FieldClause) : List Char :=
  (clause.lead.elim [] fun operator => operator.word.toList ++ [' ']) ++ clause.field.keyword ++
    clause.value.toList

theorem not_startsQuoted {s : List Char} (h : '"' ∉ s) : ¬ StartsQuoted s := by
  rintro ⟨v, rest, rfl, _⟩
  simp at h

theorem readFieldClause?_typed (lead : Option Operator) (field : QueryField) (value : TypedWord) :
    readFieldClause? (FieldClause.typed ⟨lead, field, value.text⟩) =
      some (⟨lead, field, value.text⟩, []) := by
  have run : readRun? (value.text.toList ++ []) = some (value.text, []) := by
    rw [readRun?_append value.ne_nil value.not_blank (by simp), String.ofList_toList]
  rw [List.append_nil] at run
  rw [FieldClause.typed, readFieldClause?_lead,
    readValue?_eq_readRun? (not_startsQuoted value.no_quote), run]
  rfl

theorem pieces_of_read {α : Type} {read? : List Char → Option (α × List Char)}
    (consumes : Consumes read?) {s : List Char} {clause : α} (some_s : s ≠ [])
    (read : read? s = some (clause, [])) : pieces read? s = [.clause clause] := by
  obtain ⟨c, cs, rfl⟩ := List.exists_cons_of_ne_nil some_s
  rw [pieces, scan_clause consumes read, scan]

theorem putField_text (query : Query) (clause : FieldClause) :
    (putField query clause).1.text = query.text := by
  rw [putField_fst]
  unfold putDate
  split_ifs
  · rfl
  · split <;> rfl
  · rfl
  · rfl

/-- A text that is a field clause and nothing else. -/
theorem parse_of_fieldClause {text : String} {clause : FieldClause} (tidy_text : IsTidy text.toList)
    (some_text : text.toList ≠ []) (read : readFieldClause? text.toList = some (clause, [])) :
    parse text = putField {} clause := by
  have found := pieces_of_read consumes_readFieldClause? some_text read
  rw [parse, tidy_text.tidy_eq, parseTidy, found]
  have no_text (query : Query) (h : query.text = "") : { query with text := "" } = query := by
    rw [← h]
  have same := no_text _ (putField_text {} clause)
  simp [remainder, clauses, pieces, tidy_space_cons, putFields_cons, putFields_nil, scan, tidy_nil,
    same]

/-- A field clause that is typed alone. -/
theorem parse_field {text : String} {lead : Option Operator} {field : QueryField}
    {value : TypedWord} (typed : text.toList = FieldClause.typed ⟨lead, field, value.text⟩) :
    parse text = putField {} ⟨lead, field, value.text⟩ := by
  have word : IsTidy (field.keyword ++ value.text.toList) := isTidy_of_no_blank (by
    simpa [or_imp, forall_and] using ⟨keyword_not_blank field, value.not_blank⟩)
  have tidy_typed : IsTidy (FieldClause.typed ⟨lead, field, value.text⟩) := isTidy_lead lead word
  refine parse_of_fieldClause ?_ ?_ ?_ <;> rw [typed]
  · exact tidy_typed
  · simp [FieldClause.typed, QueryField.keyword]
  · exact readFieldClause?_typed lead field value

/-- A term that is typed alone behind its operator. -/
theorem parse_term {text : String} {operator : Operator} {term : TypedWord}
    (no_colon : ':' ∉ term.text.toList)
    (typed : text.toList = TermClause.render ⟨operator, term.text⟩) :
    parse text = (putTerm {} ⟨operator, term.text⟩, []) := by
  let clause : TermClause := ⟨operator, term.text⟩
  have tidy_render : IsTidy clause.render := (isTidy_termClause term.ne_nil term.not_blank).1
  have never : Never StartsField true clause.render :=
    never_field_termClause (never_field_of_no_colon no_colon)
  have plain := scan_field_eq_map_plain never
  have read : readTermClause? (clause.render ++ []) = some (clause, []) :=
    readTermClause?_render term.ne_nil term.not_blank (by simp)
  rw [List.append_nil] at read
  have found := pieces_of_read consumes_readTermClause? (by simp [clause, TermClause.render]) read
  rw [parse, typed, tidy_render.tidy_eq, parseTidy, pieces, plain, clauses_map_plain,
    remainder_map_plain, tidy_render.tidy_eq, found]
  cases operator <;>
    simp [clause, remainder, clauses, putFields_nil, tidy_space_cons, tidy_nil, putTerm]

end Query

namespace Refinement

open Query

theorem toList_text (r : Refinement) : r.text.toList = match r with
    | tag value => FieldClause.typed ⟨none, .tag, value.text⟩
    | notTag value => FieldClause.typed ⟨some .not, .tag, value.text⟩
    | and term _ => TermClause.render ⟨.and, term.text⟩
    | not term _ => TermClause.render ⟨.not, term.text⟩ := by
  cases r <;>
    simp [text, FieldClause.typed, TermClause.render, QueryField.keyword, QueryField.name,
      Operator.word]

/-- A refinement that is typed alone is read as what it demands. -/
theorem parse_text (r : Refinement) : parse r.text = (r.demands.query, []) := by
  have typed := toList_text r
  cases r with
  | tag value => exact parse_field typed
  | notTag value => exact parse_field typed
  | and term no_colon => exact parse_term no_colon typed
  | not term no_colon => exact parse_term no_colon typed

theorem no_quote (r : Refinement) : '"' ∉ r.text.toList := by
  cases r <;> simp [text, TypedWord.no_quote]

end Refinement

end Bookmarks
