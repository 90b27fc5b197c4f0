import Bookmarks.Proofs.Query.Residue

/-! Parts joined by single spaces. Such a text is tidy when its parts are, and no field begins in it
when none begins in a part. Clauses that are rendered before parts without clauses are found one by
one. -/

namespace Bookmarks

open Text

namespace Query

/-! ### Parts joined by spaces -/

theorem intercalate_ne_nil {part : List Char} (parts : List (List Char)) (some_part : part ≠ []) :
    [' '].intercalate (part :: parts) ≠ [] := by
  cases parts with
  | nil => simpa using some_part
  | cons p parts => simp [List.intercalate_cons_cons]

theorem isTidy_intercalate {parts : List (List Char)}
    (h : ∀ part ∈ parts, IsTidy part ∧ part ≠ []) : IsTidy ([' '].intercalate parts) := by
  induction parts with
  | nil => exact isTidy_nil
  | cons part parts ih =>
    obtain ⟨⟨tidy, some_part⟩, rest⟩ := List.forall_mem_cons.1 h
    cases parts with
    | nil => simpa using tidy
    | cons p parts =>
      rw [List.intercalate_cons_cons, List.append_assoc, List.singleton_append]
      exact tidy.join (ih rest) some_part (intercalate_ne_nil parts (rest p (by simp)).2)

/-- A field does not reach over a blank. -/
theorem startsField_of_append_blank {s t : List Char} {b : Char} (hb : isBlank b = true)
    (h : StartsField (s ++ b :: t)) : StartsField s := by
  obtain ⟨field, c, u, same, hc⟩ := h
  have word : ∀ d ∈ field.keyword ++ [c], isBlank d = false := by
    simpa [or_imp, forall_and, hc] using keyword_not_blank field
  obtain ⟨v, rfl⟩ := exists_of_append_blank (w := field.keyword ++ [c]) (u := u) hb word
    (by simpa using same)
  exact ⟨field, c, v, by simp, hc⟩

theorem never_field_join {edge : Bool} {s t : List Char} (hs : Never StartsField edge s)
    (ht : Never StartsField true t) : Never StartsField edge (s ++ ' ' :: t) := by
  induction s generalizing edge with
  | nil =>
    exact ⟨fun _ => not_startsField_blank isBlank_space t, ht⟩
  | cons c s ih =>
    exact ⟨fun at_edge start => hs.1 at_edge (startsField_of_append_blank isBlank_space start),
      ih hs.2⟩

theorem never_field_intercalate {parts : List (List Char)}
    (h : ∀ part ∈ parts, Never StartsField true part) :
    Never StartsField true ([' '].intercalate parts) := by
  induction parts with
  | nil => trivial
  | cons part parts ih =>
    obtain ⟨first, rest⟩ := List.forall_mem_cons.1 h
    cases parts with
    | nil => simpa using first
    | cons p parts =>
      rw [List.intercalate_cons_cons, List.append_assoc, List.singleton_append]
      exact never_field_join first (ih rest)

/-! ### Scanning -/

theorem Never.imp {p q : List Char → Prop} (imp : ∀ s, p s → q s) {edge : Bool} {s : List Char}
    (h : Never q edge s) : Never p edge s := by
  induction s generalizing edge with
  | nil => trivial
  | cons c s ih => exact ⟨fun at_edge start => h.1 at_edge (imp _ start), ih h.2⟩

theorem scan_eq_map_plain {α : Type} {read? : List Char → Option (α × List Char)} {edge : Bool}
    {s : List Char} (h : Never (fun t => (read? t).isSome) edge s) :
    scan read? 0 edge s = s.map .plain := by
  induction s generalizing edge with
  | nil => rfl
  | cons c s ih => rw [scan_plain fun at_edge => by simpa using h.1 at_edge, ih h.2, List.map_cons]

theorem never_fieldClause {edge : Bool} {s : List Char} (h : Never StartsField edge s) :
    Never (fun t => (readFieldClause? t).isSome) edge s := by
  have none : ¬ StartsField [] := by
    rintro ⟨field, c, t, same, _⟩
    simp at same
  induction s generalizing edge with
  | nil => trivial
  | cons c s ih =>
    refine ⟨fun at_edge some_clause => ?_, ih h.2⟩
    obtain ⟨⟨clause, rest⟩, read⟩ := Option.isSome_iff_exists.1 some_clause
    obtain ⟨t, field, place⟩ := readFieldClause?_eq_some read
    have start : StartsField t := isSome_readField?.1 (Option.isSome_of_eq_some field)
    rcases place with rfl | ⟨w, b, same, hb⟩
    · exact h.1 at_edge start
    · have later : Never StartsField (edgeAfter edge (w ++ [b])) t := by
        refine Never.right ?_
        simpa [← same] using h
      rw [edgeAfter_blank edge w hb] at later
      exact later.not_starts none start

theorem scan_field_eq_map_plain {s : List Char} (h : Never StartsField true s) :
    scan readFieldClause? 0 true s = s.map .plain := scan_eq_map_plain (never_fieldClause h)

theorem scan_term_eq_map_plain {s : List Char} (h : Never StartsTerm true s) :
    scan readTermClause? 0 true s = s.map .plain :=
  scan_eq_map_plain (h.imp fun _ => isSome_readTermClause?.1)

theorem clauses_map_plain {α : Type} (s : List Char) :
    clauses (s.map (.plain : Char → Piece α)) = [] := by
  simp [clauses, List.filterMap_map]

theorem remainder_map_plain {α : Type} (s : List Char) :
    remainder (s.map (.plain : Char → Piece α)) = s := by
  simp [remainder, Function.comp_def]

theorem tidy_space_cons (s : List Char) : tidy (' ' :: s) = tidy s := by
  simp [tidy, isBlank_space]

theorem readFieldClause?_space (t : List Char) : readFieldClause? (' ' :: t) = none := by
  have no_operator : readOperator? (' ' :: t) = none := by
    simp [readOperator?, firstOf, Operator.all, Operator.word, after?]
  have no_field : readField? (' ' :: t) = none := by
    by_contra some_field
    have start := isSome_readField?.1 (Option.isSome_iff_ne_none.2 some_field)
    exact not_startsField_blank isBlank_space t start
  simp [readFieldClause?, no_operator, no_field]

theorem readTermClause?_space (t : List Char) : readTermClause? (' ' :: t) = none := by
  by_contra some_term
  have start := isSome_readTermClause?.1 (Option.isSome_iff_ne_none.2 some_term)
  simpa [isBlank_space] using word_char_of_startsTerm start

section

variable {α : Type} {read? : List Char → Option (α × List Char)} {render : α → List Char}
  {found : List α} {parts : List (List Char)}

/-- Rendered clauses before a text that has none are found one by one, and the text is left. -/
theorem scan_rendered (consumes : Consumes read?) (space : ∀ t, read? (' ' :: t) = none)
    (reads : ∀ clause ∈ found, render clause ≠ [] ∧ ∀ rest : List Char,
      (∀ c ∈ rest.head?, isBlank c = true) → read? (render clause ++ rest) = some (clause, rest))
    (plain : scan read? 0 true ([' '].intercalate parts) =
      ([' '].intercalate parts).map .plain) :
    let ps := pieces read? ([' '].intercalate (found.map render ++ parts))
    clauses ps = found ∧ tidy (remainder ps) = tidy ([' '].intercalate parts) := by
  induction found with
  | nil =>
    simp only [List.map_nil, List.nil_append, pieces, plain]
    exact ⟨clauses_map_plain _, by rw [remainder_map_plain]⟩
  | cons clause found ih =>
    obtain ⟨⟨some_text, read⟩, rest⟩ := List.forall_mem_cons.1 reads
    have here (t : List Char) (head : ∀ c ∈ t.head?, isBlank c = true) :
        scan read? 0 true (render clause ++ t) = .clause clause :: scan read? 0 true t := by
      obtain ⟨c, cs, text⟩ := List.exists_cons_of_ne_nil some_text
      have := read t head
      rw [text, List.cons_append] at this ⊢
      exact scan_clause consumes this
    obtain ⟨ih_clauses, ih_tidy⟩ := ih rest
    cases left : found.map render ++ parts with
    | nil =>
      obtain ⟨none_found, rfl⟩ := List.append_eq_nil_iff.1 left
      obtain rfl := List.map_eq_nil_iff.1 none_found
      have alone := here [] (by simp)
      rw [List.append_nil] at alone
      simp [pieces, alone, scan, clauses, remainder, tidy_space_cons]
    | cons p ps =>
      rw [List.map_cons, List.cons_append, left, List.intercalate_cons_cons, List.append_assoc,
        List.singleton_append]
      rw [left] at ih_clauses ih_tidy
      simp only [pieces] at ih_clauses ih_tidy ⊢
      rw [here _ (by simp [isBlank_space]), scan_plain fun _ => space _, isWord_space]
      constructor
      · simpa [clauses] using ih_clauses
      · simpa [remainder, tidy_space_cons] using ih_tidy

end

end Query

end Bookmarks
