import Bookmarks.Proofs.Query.Before
import Bookmarks.Proofs.Query.Joined
import Bookmarks.Proofs.Query.Together

/-! Texts that are read one after the other. A text with a space and another text behind it is read
as the two queries together, unless an operator at the end of the first reaches for what follows or
a quote opens in one and closes in the other. -/

namespace Bookmarks.Query

open Text

/-! ### Operators at the end -/

/-- An operator stands at the end of the text, at the edge of a word. -/
def EndsInOperator (s : List Char) : Prop :=
  ∃ (u : List Char) (operator : Operator),
    s = u ++ operator.word.toList ∧ edgeAfter true u = true

theorem never_isOperator_iff {edge : Bool} {s : List Char} : Never IsOperator edge s ↔
    ∀ (u : List Char) (operator : Operator), s = u ++ operator.word.toList →
      edgeAfter edge u = false := by
  induction s generalizing edge with
  | nil =>
    refine ⟨fun _ u operator same => ?_, fun _ => trivial⟩
    exact absurd (List.append_eq_nil_iff.1 same.symm).2 (word_ne_nil operator)
  | cons c s ih =>
    rw [Never, ih]
    constructor
    · rintro ⟨here, later⟩ u operator same
      cases u with
      | nil =>
        rw [edgeAfter, ← Bool.not_eq_true]
        exact fun at_edge => here at_edge ⟨operator, same⟩
      | cons d u =>
        obtain ⟨rfl, rest⟩ := List.cons.inj same
        exact later u operator rest
    · intro h
      constructor
      · rintro at_edge ⟨operator, same⟩
        have := h [] operator same
        simp [edgeAfter, at_edge] at this
      · rintro u operator rfl
        exact h (c :: u) operator rfl

theorem not_endsInOperator_iff {s : List Char} :
    ¬ EndsInOperator s ↔ Never IsOperator true s := by
  rw [never_isOperator_iff]
  simp [EndsInOperator]

instance : DecidablePred IsOperator := fun s =>
  decidable_of_iff (∃ operator ∈ Operator.all, s = operator.word.toList) <| by
    refine ⟨fun ⟨operator, _, same⟩ => ⟨operator, same⟩,
      fun ⟨operator, same⟩ => ⟨operator, ?_, same⟩⟩
    cases operator <;> decide

instance (s : List Char) : Decidable (EndsInOperator s) :=
  decidable_of_iff (¬ Never IsOperator true s) <| by
    rw [← not_endsInOperator_iff, Classical.not_not]

theorem not_isOperator_blank {b : Char} (hb : isBlank b = true) (t : List Char) :
    ¬ IsOperator (b :: t) := by
  rintro ⟨operator, same⟩
  have word := word_not_blank operator b (same ▸ List.mem_cons_self)
  simp [hb] at word

/-- Tidying keeps an operator at the end. -/
theorem EndsInOperator.tidy {s : List Char} (h : EndsInOperator s) : EndsInOperator (tidy s) := by
  obtain ⟨u, operator, rfl, at_edge⟩ := h
  have word := word_not_blank operator
  have alone : Text.tidy operator.word.toList = operator.word.toList :=
    (isTidy_of_no_blank word).tidy_eq
  obtain rfl | ⟨u, d, rfl⟩ := List.eq_nil_or_concat u
  · exact ⟨[], operator, alone, rfl⟩
  · rw [List.concat_eq_append] at at_edge ⊢
    rw [List.append_assoc, List.singleton_append]
    -- behind a blank the operator is a word alone, else it is the end of a longer word
    by_cases hd : isBlank d
    · rw [tidy_append_blank u hd, alone]
      by_cases none_left : Text.tidy u = []
      · exact ⟨[], operator, by simp [none_left], rfl⟩
      · rw [joined_of_ne_nil none_left (word_ne_nil operator)]
        exact ⟨Text.tidy u ++ [' '], operator, by simp, edgeAfter_blank _ _ isBlank_space⟩
    · have whole : ∀ c ∈ d :: operator.word.toList, isBlank c = false := by
        simpa [hd] using word
      obtain ⟨v, same⟩ := tidy_append_word whole (by simp) u
      refine ⟨v ++ [d], operator, by simp [same], ?_⟩
      simpa [edgeAfter_append, edgeAfter] using at_edge

/-- Of a text with a blank in it only what stands behind the blank can end in an operator. -/
theorem EndsInOperator.behind_blank {s t : List Char} {b : Char} (hb : isBlank b = true)
    (h : EndsInOperator (s ++ b :: t)) : EndsInOperator t := by
  obtain ⟨u, operator, same, at_edge⟩ := h
  have no_blank : b ∉ operator.word.toList := fun mem => by
    have word := word_not_blank operator b mem
    simp [hb] at word
  obtain ⟨v, front, back⟩ | ⟨v, _, back⟩ := List.append_eq_append_iff.1 same
  · cases v with
    | nil =>
      rw [List.nil_append] at back
      exact absurd (back ▸ List.mem_cons_self) no_blank
    | cons d v =>
      obtain ⟨rfl, rest⟩ := List.cons.inj back
      refine ⟨v, operator, rest, ?_⟩
      have split : u = (s ++ [b]) ++ v := by simp [front]
      rwa [split, edgeAfter_append, edgeAfter_blank true s hb] at at_edge
  · exact absurd (by simp [back] : b ∈ operator.word.toList) no_blank

/-- A word that ends in an operator is that operator. -/
theorem EndsInOperator.isOperator {s : List Char} (word : ∀ c ∈ s, isWord c = true)
    (h : EndsInOperator s) : IsOperator s := by
  obtain ⟨u, operator, rfl, at_edge⟩ := h
  obtain rfl | ⟨u, d, rfl⟩ := List.eq_nil_or_concat u
  · exact ⟨operator, rfl⟩
  · have hd : isWord d = true := word d (by simp)
    rw [List.concat_eq_append, edgeAfter_append] at at_edge
    simp [edgeAfter, hd] at at_edge

variable {α : Type} {read? : List Char → Option (α × List Char)}

theorem scan_ne_nil (edge : Bool) (c : Char) (cs : List Char) :
    scan read? 0 edge (c :: cs) ≠ [] := by
  unfold scan
  split <;> simp

theorem remainder_scan_eq_nil {edge : Bool} {s : List Char}
    (h : remainder (scan read? 0 edge s) = []) : s = [] := by
  cases s with
  | nil => rfl
  | cons c cs => exact absurd (List.map_eq_nil_iff.1 h) (scan_ne_nil edge c cs)

theorem isOperator_of_remainder {edge : Bool} {s : List Char}
    (h : IsOperator (remainder (scan read? 0 edge s))) : IsOperator s := by
  obtain ⟨operator, same⟩ := h
  obtain ⟨s', rfl, rest⟩ := remainder_scan_eq_append (t := []) (word_not_blank operator)
    (by simpa using same)
  exact ⟨operator, by simp [remainder_scan_eq_nil rest.symm]⟩

/-! ### Scanning two texts -/

theorem never_of_suffixes {starts : List Char → Prop} {edge : Bool} {s : List Char}
    (h : ∀ p, p <:+ s → ¬ starts p) : Never starts edge s := by
  induction s generalizing edge with
  | nil => trivial
  | cons c s ih =>
    exact ⟨fun _ => h _ List.suffix_rfl, ih fun p part => h p (part.trans (List.suffix_cons c s))⟩

/-- What the readers of clauses have in common: they take something, do not begin at a space and
find nothing in an operator alone. -/
structure ClauseReader (read? : List Char → Option (α × List Char)) : Prop where
  consumes : Consumes read?
  space : ∀ t, read? (' ' :: t) = none
  alone : ∀ (operator : Operator) (p : List Char), p <:+ operator.word.toList → read? p = none

theorem clauseReader_field : ClauseReader readFieldClause? where
  consumes := consumes_readFieldClause?
  space := readFieldClause?_space
  alone := by
    intro operator p part
    by_contra some_clause
    obtain ⟨⟨clause, rest⟩, read⟩ := Option.ne_none_iff_exists'.1 some_clause
    obtain ⟨t, field, place⟩ := readFieldClause?_eq_some read
    obtain ⟨u, rfl, _⟩ := readField?_eq_some field
    have colon : ':' ∈ p := by
      rcases place with rfl | ⟨w, b, rfl, _⟩ <;> simp [QueryField.keyword]
    have none : ':' ∉ operator.word.toList := by cases operator <;> decide
    exact none (part.subset colon)

theorem clauseReader_term : ClauseReader readTermClause? where
  consumes := consumes_readTermClause?
  space := readTermClause?_space
  alone := by
    intro operator p part
    by_contra some_clause
    obtain ⟨⟨clause, rest⟩, read⟩ := Option.ne_none_iff_exists'.1 some_clause
    obtain ⟨t, _, w, b, rfl, hb⟩ := readTermClause?_eq_some read
    have word := word_not_blank operator b (part.subset (by simp))
    simp [hb] at word

theorem ClauseReader.remainder_operator (reader : ClauseReader read?) (edge : Bool)
    (operator : Operator) :
    remainder (scan read? 0 edge operator.word.toList) = operator.word.toList := by
  rw [scan_eq_map_plain (never_of_suffixes fun p part => by simp [reader.alone operator p part]),
    remainder_map_plain]

/-- Up to a space a text is scanned as if nothing followed, unless an operator is left before it. -/
theorem ClauseReader.scan_append (reader : ClauseReader read?) {edge : Bool} {s t : List Char}
    (before : ∀ p, p <:+ s → ¬ IsOperator p → ReadsBefore read? t p)
    (h : Never IsOperator edge (remainder (scan read? 0 edge s))) :
    scan read? 0 edge (s ++ ' ' :: t) =
      scan read? 0 edge s ++ .plain ' ' :: scan read? 0 true t := by
  -- along the scan of `s`: what is still ahead ends `s`, and no operator is left of it at its end
  refine scan_induction (motive := fun edge p => p <:+ s →
    Never IsOperator edge (remainder (scan read? 0 edge p)) →
    scan read? 0 edge (p ++ ' ' :: t) =
      scan read? 0 edge p ++ .plain ' ' :: scan read? 0 true t) reader.consumes ?_ ?_ ?_ edge s
    List.suffix_rfl h
  · intro edge _ _
    rw [List.nil_append, scan_plain fun _ => reader.space t, isWord_space]
    rfl
  · intro c cs clause rest read ih part h
    have more : ¬ IsOperator (c :: cs) := by
      rintro ⟨operator, same⟩
      have whole : c :: cs <:+ operator.word.toList := same ▸ List.suffix_rfl
      simp [reader.alone operator _ whole] at read
    have reads := before _ part more
    rw [ReadsBefore, read, Option.map_some, List.cons_append] at reads
    rw [scan_clause reader.consumes read] at h
    have later := ih (((reader.consumes read).trans (List.suffix_cons c cs)).trans part) h.2
    rw [List.cons_append, scan_clause reader.consumes reads, scan_clause reader.consumes read,
      later, List.cons_append]
  · intro edge c cs unread ih part h
    have unread' : edge = true → read? (c :: (cs ++ ' ' :: t)) = none := by
      intro at_edge
      have more : ¬ IsOperator (c :: cs) := by
        rintro ⟨operator, same⟩
        rw [same, reader.remainder_operator, ← same] at h
        exact h.1 at_edge ⟨operator, same⟩
      have reads := before _ part more
      rwa [ReadsBefore, unread at_edge, Option.map_none, List.cons_append] at reads
    rw [scan_plain unread] at h ⊢
    rw [List.cons_append, scan_plain unread', List.cons_append,
      ih ((List.suffix_cons c cs).trans part) h.2]

/-- Whether the clauses of two texts with a space between them, and the words that are left, are
those of the one and then those of the other. -/
structure ReadsApart (read? : List Char → Option (α × List Char)) (s t : List Char) : Prop where
  clauses_eq : clauses (pieces read? (joined s t)) =
    clauses (pieces read? s) ++ clauses (pieces read? t)
  left_eq : tidy (remainder (pieces read? (joined s t))) =
    joined (tidy (remainder (pieces read? s))) (tidy (remainder (pieces read? t)))

theorem ReadsApart.nil_left (t : List Char) : ReadsApart read? [] t := by
  refine ⟨?_, ?_⟩ <;> rw [joined_nil_left] <;> rfl

theorem ReadsApart.of_scan {s t : List Char} (both : scan read? 0 true (s ++ ' ' :: t) =
    scan read? 0 true s ++ .plain ' ' :: scan read? 0 true t) : ReadsApart read? s t := by
  by_cases none_s : s = []
  · rw [none_s]
    exact .nil_left t
  · by_cases none_t : t = []
    · rw [none_t]
      refine ⟨?_, ?_⟩ <;> rw [joined_nil_right]
      · exact (List.append_nil _).symm
      · exact (joined_nil_right _).symm
    · refine ⟨?_, ?_⟩ <;> rw [joined_of_ne_nil none_s none_t, pieces, both]
      · simp [clauses, pieces]
      · rw [← tidy_append_blank _ isBlank_space]
        simp [remainder, pieces]

theorem ClauseReader.readsApart (reader : ClauseReader read?) {s t : List Char}
    (before : ∀ p, p <:+ s → ¬ IsOperator p → ReadsBefore read? t p)
    (h : ¬ EndsInOperator (remainder (pieces read? s))) : ReadsApart read? s t :=
  .of_scan (reader.scan_append before (not_endsInOperator_iff.1 h))

/-- A clause alone, however it goes on behind a space. -/
theorem ClauseReader.readsApart_of_clause (reader : ClauseReader read?) {s : List Char} {clause : α}
    (some_s : s ≠ []) (reads : ∀ rest : List Char, (∀ c ∈ rest.head?, isBlank c = true) →
      read? (s ++ rest) = some (clause, rest)) (t : List Char) : ReadsApart read? s t := by
  have alone := reads [] (by simp)
  have first := reads (' ' :: t) (by simp [isBlank_space])
  obtain ⟨c, cs, rfl⟩ := List.exists_cons_of_ne_nil some_s
  rw [List.append_nil] at alone
  apply ReadsApart.of_scan
  rw [scan_clause reader.consumes alone, List.cons_append,
    scan_clause reader.consumes (by simpa using first), scan_plain fun _ => reader.space t,
    isWord_space]
  rfl

/-! ### Reading two texts -/

theorem parseTidy_of_readsApart {s t : List Char} (fields : ReadsApart readFieldClause? s t)
    (terms : ReadsApart readTermClause? (Text.tidy (remainder (pieces readFieldClause? s)))
      (Text.tidy (remainder (pieces readFieldClause? t)))) :
    parseTidy (joined s t) =
      ((parseTidy s).1 ++ (parseTidy t).1, (parseTidy s).2 ++ (parseTidy t).2) := by
  simp only [parseTidy, fields.clauses_eq, fields.left_eq, terms.clauses_eq, terms.left_eq,
    putFields_both, foldl_putTerm_append _ _ (putFields_frame {} _)]
  simp [append_eq]

theorem parseTidy_joined {s t : List Char} (tidy : IsTidy s) (parted : '"' ∉ s ∨ '"' ∉ t)
    (whole : ¬ EndsInOperator s) (left : ¬ EndsInOperator (parseTidy s).1.text.toList) :
    parseTidy (joined s t) =
      ((parseTidy s).1 ++ (parseTidy t).1, (parseTidy s).2 ++ (parseTidy t).2) := by
  have no_operator : ¬ EndsInOperator (remainder (pieces readFieldClause? s)) := by
    rw [not_endsInOperator_iff] at whole ⊢
    exact whole.remainder consumes_readFieldClause? endsApart_readFieldClause?
      (fun _ t hb => not_isOperator_blank hb t) fun _ _ => isOperator_of_remainder
  have no_operator_left : ¬ EndsInOperator (remainder (pieces readTermClause?
      (Text.tidy (remainder (pieces readFieldClause? s))))) := by
    rw [parseTidy_fst, String.toList_ofList] at left
    exact fun ends => left ends.tidy
  refine parseTidy_of_readsApart (clauseReader_field.readsApart ?_ no_operator)
    (clauseReader_term.readsApart ?_ no_operator_left)
  · intro p part more
    exact readsBefore_fieldClause (tidy.last_of_suffix part) more
      (parted.imp_left fun h mem => h (part.subset mem))
  · intro p part more
    exact readsBefore_termClause ((isTidy_tidy _).last_of_suffix part) more _

theorem parse_space (s t : String) :
    parse (s ++ " " ++ t) = parseTidy (joined (tidy s.toList) (tidy t.toList)) := by
  have text : (s ++ " " ++ t).toList = s.toList ++ ' ' :: t.toList := by simp
  rw [parse, text, tidy_append_blank _ isBlank_space]

/-- Two texts with a space between them are read as the two queries together. -/
theorem parse_append_space {s t : String} (parted : '"' ∉ s.toList ∨ '"' ∉ t.toList)
    (whole : ¬ EndsInOperator (tidy s.toList))
    (left : ¬ EndsInOperator (parse s).1.text.toList) :
    parse (s ++ " " ++ t) = ((parse s).1 ++ (parse t).1, (parse s).2 ++ (parse t).2) := by
  have text : (s ++ " " ++ t).toList = s.toList ++ ' ' :: t.toList := by simp
  have quote {u : List Char} (h : '"' ∉ u) : '"' ∉ tidy u := fun mem =>
    h (mem_of_mem_tidy mem (by decide))
  simp only [parse, text, tidy_append_blank _ isBlank_space] at left ⊢
  exact parseTidy_joined (isTidy_tidy _) (parted.imp quote quote) whole left

/-- A quote that stays open, an operator behind a field that is taken out, and values that are
replaced by later ones. -/
theorem parse_append_space_mixed :
    let s := "tag:a OR title:x NOT AND  b tag:\"c"
    let t := "AND d created:>1 title:y OR created:today tag:e"
    ('"' ∉ s.toList ∨ '"' ∉ t.toList) ∧ ¬ EndsInOperator (tidy s.toList) ∧
      ¬ EndsInOperator (parse s).1.text.toList ∧
      parse (s ++ " " ++ t) = ((parse s).1 ++ (parse t).1, (parse s).2 ++ (parse t).2) := by
  intro s t
  have parted : '"' ∉ s.toList ∨ '"' ∉ t.toList := by decide +kernel
  have whole : ¬ EndsInOperator (tidy s.toList) := by decide +kernel
  have left : ¬ EndsInOperator (parse s).1.text.toList := by decide +kernel
  exact ⟨parted, whole, left, parse_append_space parted whole left⟩

end Bookmarks.Query
