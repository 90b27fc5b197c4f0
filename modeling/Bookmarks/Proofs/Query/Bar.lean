import Bookmarks.Proofs.Query.Demand
import Bookmarks.Proofs.Query.Seam

/-! Clauses that bar. Clauses that each select bookmarks can be typed one after the other, each
behind NOT. They are read as everything that they bar together, where of the clauses for a field
with one value only the last one counts. -/

namespace Bookmarks

open Text

/-- A value as it stands between quotes: not empty, and without blanks but single spaces. -/
structure QuotedValue where
  text : String
  ne_nil : text.toList ≠ []
  spaced : IsSpaced text.toList
  no_quote : '"' ∉ text.toList

/-- A word of ASCII letters and digits that is no operator. -/
structure PlainWord where
  text : String
  ne_nil : text.toList ≠ []
  plain : ∀ c ∈ text.toList, c.isAlphanum = true
  no_operator : ¬ Query.IsOperator text.toList

theorem Text.isWord_of_isAlphanum {c : Char} (h : c.isAlphanum = true) : isWord c = true := by
  have table : ∀ n < 128, (Char.ofNat n).isAlphanum = true → isWord (Char.ofNat n) = true := by
    decide +kernel
  have small : c.toNat < 128 := by
    unfold Char.isAlphanum Char.isAlpha Char.isUpper Char.isLower Char.isDigit at h
    simp only [Bool.or_eq_true, Bool.and_eq_true, decide_eq_true_eq, ge_iff_le,
      UInt32.le_iff_toNat_le] at h
    have Z : 'Z'.val.toNat = 90 := rfl
    have z : 'z'.val.toNat = 122 := rfl
    have nine : '9'.val.toNat = 57 := rfl
    simp only [Char.toNat]
    omega
  have known := table c.toNat small
  rw [Char.ofNat_toNat] at known
  exact known h

namespace PlainWord

variable (w : PlainWord)

theorem isWord : ∀ c ∈ w.text.toList, Text.isWord c = true := fun c hc =>
  isWord_of_isAlphanum (w.plain c hc)

theorem not_mem {c : Char} (hc : c.isAlphanum = false) : c ∉ w.text.toList := by
  intro mem
  have plain := w.plain c mem
  simp [hc] at plain

def typed : TypedWord where
  text := w.text
  ne_nil := w.ne_nil
  not_blank c hc := by
    by_contra blank
    have outside : Text.isWord c = false := isWord_of_isBlank (by simpa using blank)
    simp [w.isWord c hc] at outside
  no_quote := w.not_mem (by decide)

theorem no_colon : ':' ∉ w.typed.text.toList := w.not_mem (by decide)

theorem not_endsInOperator : ¬ Query.EndsInOperator w.text.toList := fun ends =>
  w.no_operator (ends.isOperator w.isWord)

end PlainWord

namespace Query

/-! ### Reading clauses with more behind them -/

/-- A field clause with its value in quotes, typed alone. -/
theorem parse_quoted {text : String} {lead : Option Operator} {field : QueryField}
    {value : QuotedValue} (typed : text.toList = FieldClause.render ⟨lead, field, value.text⟩) :
    parse text = putField {} ⟨lead, field, value.text⟩ := by
  let clause : FieldClause := ⟨lead, field, value.text⟩
  have tidy : IsTidy clause.render ∧ clause.render ≠ [] := isTidy_fieldClause value.spaced
  have read : readFieldClause? (clause.render ++ []) = some (clause, []) :=
    @readFieldClause?_render clause value.ne_nil value.no_quote []
  rw [List.append_nil] at read
  refine parse_of_fieldClause ?_ ?_ ?_ <;> rw [typed]
  · exact tidy.1
  · exact tidy.2
  · exact read

/-- A field clause with its value in quotes, and whatever is typed behind it. -/
theorem parse_quoted_space {text : String} {lead : Option Operator} {field : QueryField}
    {value : QuotedValue} (typed : text.toList = FieldClause.render ⟨lead, field, value.text⟩)
    (t : String) :
    parse (text ++ " " ++ t) = ((parse text).1 ++ (parse t).1, (parse text).2 ++ (parse t).2) := by
  let clause : FieldClause := ⟨lead, field, value.text⟩
  have ⟨tidy_text, some_text⟩ : IsTidy clause.render ∧ clause.render ≠ [] :=
    isTidy_fieldClause value.spaced
  have read (rest : List Char) : readFieldClause? (clause.render ++ rest) = some (clause, rest) :=
    @readFieldClause?_render clause value.ne_nil value.no_quote rest
  have found := pieces_of_read consumes_readFieldClause? some_text (by simpa using read [])
  have left : tidy (remainder (pieces readFieldClause? clause.render)) = [] := by
    rw [found]
    exact tidy_space_cons []
  have fields (u : List Char) : ReadsApart readFieldClause? clause.render u :=
    clauseReader_field.readsApart_of_clause some_text (fun rest _ => read rest) u
  rw [parse_space, parse, parse, typed, tidy_text.tidy_eq]
  apply parseTidy_of_readsApart (fields _)
  rw [left]
  exact .nil_left _

/-- An operator with its term, and whatever is typed behind them. -/
theorem parse_term_space {text : String} {operator : Operator} {word : PlainWord}
    (typed : text.toList = TermClause.render ⟨operator, word.text⟩) (t : String) :
    parse (text ++ " " ++ t) = ((parse text).1 ++ (parse t).1, (parse text).2 ++ (parse t).2) := by
  let clause : TermClause := ⟨operator, word.text⟩
  have not_blank : ∀ c ∈ word.text.toList, isBlank c = false := word.typed.not_blank
  have ⟨tidy_text, some_text⟩ : IsTidy clause.render ∧ clause.render ≠ [] :=
    isTidy_termClause word.ne_nil not_blank
  have plain : pieces readFieldClause? clause.render = clause.render.map .plain :=
    scan_field_eq_map_plain (never_field_termClause (never_field_of_no_colon word.no_colon))
  have left : remainder (pieces readFieldClause? clause.render) = clause.render := by
    rw [plain, remainder_map_plain]
  have no_quote : '"' ∉ clause.render := by
    have in_operator : '"' ∉ operator.word.toList := by cases operator <;> decide
    have in_word : '"' ∉ word.text.toList := word.not_mem (by decide)
    simp [clause, TermClause.render, in_operator, in_word]
  have not_ends : ¬ EndsInOperator clause.render := fun ends =>
    word.not_endsInOperator (ends.behind_blank isBlank_space)
  have fields (u : List Char) : ReadsApart readFieldClause? clause.render u := by
    refine clauseReader_field.readsApart (fun p part more => ?_) (by rwa [left])
    exact readsBefore_fieldClause (tidy_text.last_of_suffix part) more
      (.inl fun mem => no_quote (part.subset mem))
  rw [parse_space, parse, parse, typed, tidy_text.tidy_eq]
  apply parseTidy_of_readsApart (fields _)
  rw [left, tidy_text.tidy_eq]
  exact clauseReader_term.readsApart_of_clause some_text
    (fun _ => @readTermClause?_render clause word.ne_nil not_blank _) _

end Query

/-- A clause that selects bookmarks: by a value in a field other than the date, or by a word. -/
inductive Selector where
  | field (field : QueryField) (named : field ≠ .created) (value : QuotedValue)
  | term (word : PlainWord)

namespace Selector

def text : Selector → String
  | field f _ value => f.name ++ ":\"" ++ value.text ++ "\""
  | term word => word.text

/-- The clause behind NOT. -/
def barred (s : Selector) : String := "NOT " ++ s.text

/-- What the clause asks for. -/
def ask : Selector → Query
  | field f _ value => { required := FieldTerms.put {} f value.text }
  | term word => { text := word.text }

/-- What the clause asks for behind NOT. -/
def bar : Selector → Query
  | field f _ value => { excluded := FieldTerms.put {} f value.text }
  | term word => { noneOf := [word.text] }

/-- Clauses one after the other, each behind NOT. -/
def barAll (selectors : List Selector) : String := " ".intercalate (selectors.map barred)

/-- Everything that clauses ask for behind NOT, one after the other. -/
def bars (selectors : List Selector) : Query := selectors.foldr (fun s query => s.bar ++ query) {}

theorem bars_nil : bars [] = {} := rfl

theorem bars_cons (s : Selector) (rest : List Selector) : bars (s :: rest) = s.bar ++ bars rest :=
  rfl

/-- Whether the first clause, typed later, takes the place of the second. -/
def replaces : Selector → Selector → Bool
  | field f _ _, field g _ _ => f == g && g != .tag
  | _, _ => false

/-- The clauses of a list that no later one replaces. -/
def counting : List Selector → List Selector
  | [] => []
  | s :: rest => if rest.any (·.replaces s) then counting rest else s :: counting rest

open Query

/-! ### What is read -/

theorem toList_text (s : Selector) : s.text.toList = match s with
    | field f _ value => FieldClause.render ⟨none, f, value.text⟩
    | term word => word.text.toList := by
  cases s <;> simp [text, FieldClause.render, QueryField.keyword]

theorem toList_barred (s : Selector) : s.barred.toList = match s with
    | field f _ value => FieldClause.render ⟨some .not, f, value.text⟩
    | term word => TermClause.render ⟨.not, word.text⟩ := by
  cases s <;>
    simp [barred, text, FieldClause.render, TermClause.render, QueryField.keyword, Operator.word]

/-- A clause that is typed alone is read as what it asks for. -/
theorem parse_text (s : Selector) : parse s.text = (s.ask, []) := by
  have typed := s.toList_text
  cases s with
  | field f named value =>
    rw [parse_quoted typed]
    simp [putField, named, ask]
  | term word =>
    have blank_free := word.typed.not_blank
    have no_term : Never StartsTerm true word.text.toList := by
      apply never_of_suffixes
      rintro _ part ⟨operator, b, t, rfl, hb, _⟩
      have inside := blank_free b (part.subset (by simp))
      simp [hb] at inside
    exact parse_of_never (isTidy_of_no_blank blank_free) (never_field_of_no_colon word.no_colon)
      no_term

/-- A clause behind NOT that is typed alone is read as what it bars. -/
theorem parse_barred (s : Selector) : parse s.barred = (s.bar, []) := by
  have typed := s.toList_barred
  cases s with
  | field f named value =>
    rw [parse_quoted typed]
    simp [putField, named, bar]
  | term word => exact parse_term word.no_colon typed

/-- A barred clause and whatever is typed behind it are read one after the other. -/
theorem parse_barred_space (s : Selector) (t : String) :
    parse (s.barred ++ " " ++ t) = (s.bar ++ (parse t).1, (parse t).2) := by
  have both : parse (s.barred ++ " " ++ t) =
      ((parse s.barred).1 ++ (parse t).1, (parse s.barred).2 ++ (parse t).2) := by
    have typed := s.toList_barred
    cases s with
    | field f named value => exact parse_quoted_space typed t
    | term word => exact parse_term_space typed t
  rw [both, parse_barred, List.nil_append]

/-- Any number of barred clauses are read as everything that they bar, one after the other. -/
theorem parse_barAll (selectors : List Selector) :
    parse (barAll selectors) = (bars selectors, []) := by
  induction selectors with
  | nil => rfl
  | cons s selectors ih =>
    rw [bars_cons]
    cases selectors with
    | nil =>
      have alone : barAll [s] = s.barred := by simp [barAll]
      rw [alone, parse_barred, bars_nil, append_nil]
    | cons next rest =>
      have first : barAll (s :: next :: rest) = s.barred ++ " " ++ barAll (next :: rest) := by
        simp [barAll, String.intercalate_cons_cons]
      rw [first, parse_barred_space, ih]

/-! ### Which clauses count -/

/-- Barred clauses ask for nothing to be there. -/
theorem bars_frame (selectors : List Selector) :
    (bars selectors).text = "" ∧ (bars selectors).required = {} ∧ (bars selectors).allOf = [] ∧
      (bars selectors).anyOf = [] ∧ (bars selectors).created = none := by
  induction selectors with
  | nil => exact ⟨rfl, rfl, rfl, rfl, rfl⟩
  | cons s rest ih =>
    obtain ⟨text, required, allOf, anyOf, created⟩ := ih
    rw [bars_cons, append_eq, text, required, allOf, anyOf, created]
    cases s <;> simp [bar, FieldTerms.append_nil]

theorem mem_excluded_bar {s : Selector} {f : QueryField} {v : String} :
    (f, v) ∈ s.bar.excluded.named ↔ ∃ named value, s = field f named value ∧ value.text = v := by
  cases s with
  | field g named value =>
    rw [bar, FieldTerms.named_put named, List.mem_singleton, Prod.mk.injEq]
    constructor
    · rintro ⟨rfl, rfl⟩
      exact ⟨named, value, rfl, rfl⟩
    · rintro ⟨_, value, same, rfl⟩
      cases same
      exact ⟨rfl, rfl⟩
  | term word => simp [bar]

theorem any_replaces {s : Selector} {f : QueryField} {v : String}
    (h : (f, v) ∈ s.bar.excluded.named) (rest : List Selector) :
    rest.any (·.replaces s) = true ↔
      f ≠ .tag ∧ ∃ u, (f, u) ∈ (bars rest).excluded.named := by
  obtain ⟨named, value, rfl, _⟩ := mem_excluded_bar.1 h
  induction rest with
  | nil => simp [bars_nil]
  | cons t rest ih =>
    have first : t.replaces (field f named value) = true ↔
        f ≠ .tag ∧ ∃ u, (f, u) ∈ t.bar.excluded.named := by
      cases t with
      | field =>
        simp only [replaces, mem_excluded_bar]
        grind
      | term => simp [replaces, mem_excluded_bar]
    rw [List.any_cons, Bool.or_eq_true, ih, first, bars_cons, append_eq,
      FieldTerms.exists_mem_named_append, and_or_left]

/-- Of a clause for a field that a later one replaces nothing is barred. -/
theorem mem_excluded_bars {selectors : List Selector} {f : QueryField} {v : String} :
    (f, v) ∈ (bars selectors).excluded.named ↔
      ∃ s ∈ counting selectors, (f, v) ∈ s.bar.excluded.named := by
  induction selectors with
  | nil => simp [bars_nil, counting]
  | cons s rest ih =>
    rw [bars_cons, append_eq, FieldTerms.mem_named_append, ih, counting]
    by_cases mine : (f, v) ∈ s.bar.excluded.named
    · have replaced := any_replaces mine rest
      by_cases gone : rest.any (·.replaces s) = true
      · obtain ⟨not_tag, u, later⟩ := replaced.1 gone
        have lost : ¬ (f = .tag ∨ ∀ u, (f, u) ∉ (bars rest).excluded.named) := by
          simpa [not_tag] using ⟨u, later⟩
        simp [gone, lost]
      · have kept : f = .tag ∨ ∀ u, (f, u) ∉ (bars rest).excluded.named := by
          by_contra lost
          exact gone (replaced.2 (by simpa [not_or] using lost))
        simp [gone, kept, mine]
    · split <;> simp [mine]

theorem mem_noneOf_bars {selectors : List Selector} {w : String} :
    w ∈ (bars selectors).noneOf ↔ ∃ s ∈ counting selectors, w ∈ s.bar.noneOf := by
  induction selectors with
  | nil => simp [bars_nil, counting]
  | cons s rest ih =>
    rw [bars_cons, append_eq, List.mem_append, ih, counting]
    split
    · next replaced =>
      have no_word : w ∉ s.bar.noneOf := by
        cases s with
        | field => simp [bar]
        | term => simp [replaces] at replaced
      simp [no_word]
    · simp

end Selector

end Bookmarks
