import Bookmarks.Proofs.Query.Reading
import Bookmarks.Proofs.Text.Tidy

/-! What is left of a text once its clauses are taken out. A word of the residue is the beginning
of a word of the text, so taking clauses out and tidying open no place at which another clause of
the same kind could be read. -/

namespace Bookmarks.Query

/-- Nothing begins at the edge of a word; `edge` tells whether no word character stands before the
first place. -/
def Never (starts : List Char → Prop) : Bool → List Char → Prop
  | _, [] => True
  | edge, c :: cs => (edge = true → ¬ starts (c :: cs)) ∧ Never starts (!Text.isWord c) cs

instance decidableNever {starts : List Char → Prop} [DecidablePred starts] :
    (edge : Bool) → (s : List Char) → Decidable (Never starts edge s)
  | _, [] => .isTrue trivial
  | edge, c :: cs =>
    have : Decidable (Never starts (!Text.isWord c) cs) := decidableNever _ cs
    inferInstanceAs (Decidable ((edge = true → ¬ starts (c :: cs)) ∧ Never starts _ cs))

/-- Whether no word character stands before the place behind some characters. -/
def edgeAfter (edge : Bool) : List Char → Bool
  | [] => edge
  | c :: cs => edgeAfter (!Text.isWord c) cs

theorem edgeAfter_append (edge : Bool) (s t : List Char) :
    edgeAfter edge (s ++ t) = edgeAfter (edgeAfter edge s) t := by
  induction s generalizing edge with
  | nil => rfl
  | cons c s ih => exact ih _

theorem edgeAfter_blank (edge : Bool) (s : List Char) {b : Char} (hb : Text.isBlank b = true) :
    edgeAfter edge (s ++ [b]) = true := by
  simp [edgeAfter_append, edgeAfter, Text.isWord_of_isBlank hb]

theorem edgeAfter_word (edge : Bool) (operator : Operator) :
    edgeAfter edge operator.word.toList = false := by
  cases operator <;> simp only [Operator.word] <;> decide +kernel +revert

section Never

variable {starts : List Char → Prop} {edge : Bool} {s t : List Char}

theorem Never.of_true (h : Never starts true s) : Never starts edge s := by
  cases s with
  | nil => trivial
  | cons c s => exact ⟨fun _ => h.1 rfl, h.2⟩

theorem Never.right (h : Never starts edge (s ++ t)) : Never starts (edgeAfter edge s) t := by
  induction s generalizing edge with
  | nil => exact h
  | cons c s ih => exact ih h.2

theorem Never.not_starts (h : Never starts true s) (none : ¬ starts []) : ¬ starts s := by
  cases s with
  | nil => exact none
  | cons c s => exact h.1 rfl

/-- What begins in the first part of a text begins in the text. -/
theorem Never.left (extend : ∀ s t, starts s → starts (s ++ t)) (h : Never starts edge (s ++ t)) :
    Never starts edge s := by
  induction s generalizing edge with
  | nil => trivial
  | cons c s ih => exact ⟨fun at_edge start => h.1 at_edge (extend _ t start), ih h.2⟩

end Never

/-! ### Words of the residue -/

theorem keyword_char_of_startsField {c : Char} {s : List Char} (h : StartsField (c :: s)) :
    Text.isBlank c = false := by
  obtain ⟨field, d, t, same, _⟩ := h
  exact keyword_not_blank field c (by cases field <;> simp_all [QueryField.keyword, QueryField.name])

theorem not_startsField_blank {b : Char} (hb : Text.isBlank b = true) (t : List Char) :
    ¬ StartsField (b :: t) := fun start => by
  simpa [hb] using keyword_char_of_startsField start

theorem word_char_of_startsTerm {c : Char} {s : List Char} (h : StartsTerm (c :: s)) :
    Text.isBlank c = false := by
  obtain ⟨operator, b, t, same, _⟩ := h
  exact word_not_blank operator c (by cases operator <;> simp_all [Operator.word])

theorem startsField_append {s : List Char} (t : List Char) (h : StartsField s) :
    StartsField (s ++ t) := by
  obtain ⟨field, c, u, rfl, hc⟩ := h
  exact ⟨field, c, u ++ t, by simp, hc⟩

variable {α : Type} {read? : List Char → Option (α × List Char)}

theorem remainder_scan_eq_append {u t s : List Char} {edge : Bool}
    (hu : ∀ c ∈ u, Text.isBlank c = false) (h : remainder (scan read? 0 edge s) = u ++ t) :
    ∃ s', s = u ++ s' ∧ t = remainder (scan read? 0 (edgeAfter edge u) s') := by
  induction u generalizing s edge with
  | nil => exact ⟨s, rfl, h.symm⟩
  | cons c u ih =>
    obtain ⟨hc, word⟩ := List.forall_mem_cons.1 hu
    cases s with
    | nil => simp [scan, remainder] at h
    | cons d s =>
      unfold scan at h
      split at h
      · -- A clause leaves a space, which is no part of a word.
        simp only [remainder, List.map_cons, List.cons_append, List.cons.injEq] at h
        simp [← h.1, Text.isBlank_space] at hc
      · simp only [remainder, List.map_cons, List.cons_append, List.cons.injEq] at h
        obtain ⟨rfl, rest⟩ := h
        obtain ⟨s', rfl, same⟩ := ih word rest
        exact ⟨s', rfl, same⟩

theorem tidyFrom_eq_append {u t s : List Char} (hu : ∀ c ∈ u, Text.isBlank c = false)
    (h : Text.tidyFrom false s = u ++ t) : ∃ s', s = u ++ s' ∧ t = Text.tidyFrom false s' := by
  induction u generalizing s with
  | nil => exact ⟨s, rfl, h.symm⟩
  | cons c u ih =>
    obtain ⟨hc, word⟩ := List.forall_mem_cons.1 hu
    cases s with
    | nil => simp [Text.tidyFrom] at h
    | cons d s =>
      by_cases hd : Text.isBlank d
      · rw [Text.tidyFrom_blank s hd] at h
        have space := Text.head_tidyFrom_true s c (by simp [h])
        simp [space, Text.isBlank_space] at hc
      · rw [Text.tidyFrom_false_cons s (by simpa using hd), List.cons_append,
          List.cons.injEq] at h
        obtain ⟨rfl, rest⟩ := h
        obtain ⟨s', rfl, same⟩ := ih word rest
        exact ⟨s', rfl, same⟩

theorem mem_of_mem_remainder {skip : Nat} {edge : Bool} {s : List Char} {c : Char}
    (h : c ∈ remainder (scan read? skip edge s)) (hc : Text.isBlank c = false) : c ∈ s := by
  have space : c ≠ ' ' := by
    rintro rfl
    simp [Text.isBlank_space] at hc
  fun_induction scan read? skip edge s with
  | case1 => simp [remainder] at h
  | case2 _ _ _ _ ih => exact List.mem_cons_of_mem _ (ih h)
  | case3 _ _ _ _ _ _ ih =>
    simp only [remainder, List.map_cons, List.mem_cons, space, false_or] at h
    exact List.mem_cons_of_mem _ (ih h)
  | case4 _ _ _ _ ih =>
    simp only [remainder, List.map_cons, List.mem_cons] at h
    rcases h with rfl | h
    · exact List.mem_cons_self
    · exact List.mem_cons_of_mem _ (ih h)

theorem mem_of_mem_tidyFrom {gap : Bool} {s : List Char} {c : Char}
    (h : c ∈ Text.tidyFrom gap s) (hc : Text.isBlank c = false) : c ∈ s := by
  have space : c ≠ ' ' := by
    rintro rfl
    simp [Text.isBlank_space] at hc
  fun_induction Text.tidyFrom gap s with
  | case1 => exact h
  | case2 _ _ _ _ ih => exact List.mem_cons_of_mem _ (ih h)
  | case3 _ _ _ ih =>
    simp only [List.mem_cons, space, false_or] at h
    exact List.mem_cons.2 (h.imp_right ih)
  | case4 _ _ _ _ _ ih => exact List.mem_cons.2 ((List.mem_cons.1 h).imp_right ih)

theorem mem_of_mem_tidy {s : List Char} {c : Char} (h : c ∈ Text.tidy s)
    (hc : Text.isBlank c = false) : c ∈ s :=
  (List.dropWhile_suffix _).subset (mem_of_mem_tidyFrom h hc)

theorem startsField_of_remainder (edge : Bool) {s : List Char}
    (h : StartsField (remainder (scan read? 0 edge s))) : StartsField s := by
  obtain ⟨field, c, t, same, hc⟩ := h
  have word : ∀ d ∈ field.keyword ++ [c], Text.isBlank d = false := by
    simpa [or_imp, forall_and, hc] using keyword_not_blank field
  obtain ⟨s', rfl, _⟩ := remainder_scan_eq_append (u := field.keyword ++ [c]) (t := t) word
    (by simpa using same)
  exact ⟨field, c, s', by simp, hc⟩

theorem startsField_of_tidyFrom {s : List Char} (h : StartsField (Text.tidyFrom false s)) :
    StartsField s := by
  obtain ⟨field, c, t, same, hc⟩ := h
  have word : ∀ d ∈ field.keyword ++ [c], Text.isBlank d = false := by
    simpa [or_imp, forall_and, hc] using keyword_not_blank field
  obtain ⟨s', rfl, _⟩ := tidyFrom_eq_append (u := field.keyword ++ [c]) (t := t) word
    (by simpa using same)
  exact ⟨field, c, s', by simp, hc⟩

theorem startsTerm_of_remainder (edge : Bool) {s : List Char}
    (h : StartsTerm (remainder (scan read? 0 edge s))) : StartsTerm s := by
  obtain ⟨operator, b, t, same, hb, c, hc, some_c⟩ := h
  obtain ⟨s', rfl, rest⟩ := remainder_scan_eq_append (word_not_blank operator) same
  -- An operator ends in a word character, so no clause begins right behind it.
  rw [edgeAfter_word] at rest
  cases s' with
  | nil => simp [scan, remainder] at rest
  | cons d s' =>
    simp only [scan, remainder, List.map_cons, List.cons.injEq, Bool.false_eq_true, if_false]
      at rest
    obtain ⟨rfl, rfl⟩ := rest
    exact ⟨operator, b, s', rfl, hb, c, mem_of_mem_remainder hc some_c, some_c⟩

theorem startsTerm_of_tidyFrom {s : List Char} (h : StartsTerm (Text.tidyFrom false s)) :
    StartsTerm s := by
  obtain ⟨operator, b, t, same, hb, c, hc, some_c⟩ := h
  obtain ⟨s', rfl, rest⟩ := tidyFrom_eq_append (word_not_blank operator) same
  cases s' with
  | nil => simp [Text.tidyFrom] at rest
  | cons d s' =>
    have hd : Text.isBlank d = true := by
      by_contra word
      rw [Text.tidyFrom_false_cons s' (by simpa using word)] at rest
      obtain ⟨rfl, _⟩ := List.cons.inj rest
      exact word hb
    have mem : c ∈ Text.tidyFrom false (d :: s') := rest ▸ List.mem_cons_of_mem b hc
    have later : c ∈ s' := by
      rcases List.mem_cons.1 (mem_of_mem_tidyFrom mem some_c) with rfl | later
      · simp [some_c] at hd
      · exact later
    exact ⟨operator, d, s', rfl, hd, c, later, some_c⟩

/-! ### Places of the residue -/

theorem scan_skip (edge : Bool) (w s : List Char) :
    scan read? w.length edge (w ++ s) = scan read? 0 edge s := by
  induction w with
  | nil => rfl
  | cons c w ih => exact ih

theorem scan_clause (consumes : Consumes read?) {c : Char} {cs rest : List Char} {clause : α}
    (read : read? (c :: cs) = some (clause, rest)) :
    scan read? 0 true (c :: cs) = .clause clause :: scan read? 0 true rest := by
  obtain ⟨w, rfl⟩ := consumes read
  rw [scan, if_pos rfl, read]
  simp only [List.length_append, Nat.add_sub_cancel, scan_skip]

theorem scan_plain {edge : Bool} {c : Char} {cs : List Char}
    (unread : edge = true → read? (c :: cs) = none) :
    scan read? 0 edge (c :: cs) = .plain c :: scan read? 0 (!Text.isWord c) cs := by
  cases edge <;> simp_all [scan]

/-- A text is scanned clause by clause and, where none can be read, character by character. -/
theorem scan_induction {motive : Bool → List Char → Prop} (consumes : Consumes read?)
    (nil : ∀ edge, motive edge [])
    (clause : ∀ c cs clause rest, read? (c :: cs) = some (clause, rest) →
      motive true rest → motive true (c :: cs))
    (plain : ∀ edge c cs, (edge = true → read? (c :: cs) = none) →
      motive (!Text.isWord c) cs → motive edge (c :: cs)) (edge : Bool) (s : List Char) :
    motive edge s := by
  induction h : s.length using Nat.strong_induction_on generalizing edge s with
  | _ n ih =>
    subst h
    cases s with
    | nil => exact nil edge
    | cons c cs =>
      by_cases unread : edge = true → read? (c :: cs) = none
      · exact plain edge c cs unread (ih cs.length (by simp) _ cs rfl)
      · simp only [Classical.not_imp] at unread
        obtain ⟨rfl, some_read⟩ := unread
        obtain ⟨⟨found, rest⟩, read⟩ := Option.ne_none_iff_exists'.1 some_read
        have shorter : rest.length < (c :: cs).length :=
          Nat.lt_succ_of_le (consumes read).length_le
        exact clause c cs found rest read (ih rest.length shorter true rest rfl)

theorem never_remainder {starts : List Char → Prop} {skip : Nat} {edge : Bool} {s : List Char}
    (space : ∀ t, ¬ starts (' ' :: t)) (taken : ∀ s, starts s → (read? s).isSome)
    (reflect : ∀ edge s, starts (remainder (scan read? 0 edge s)) → starts s) :
    Never starts edge (remainder (scan read? skip edge s)) := by
  fun_induction scan read? skip edge s with
  | case1 => trivial
  | case2 _ _ _ _ ih => exact ih
  | case3 _ _ _ _ _ _ ih => exact ⟨fun _ => space _, ih.of_true⟩
  | case4 edge c cs unread ih =>
    refine ⟨fun at_edge start => ?_, ih⟩
    have kept : remainder (scan read? 0 edge (c :: cs)) =
        c :: remainder (scan read? 0 (!Text.isWord c) cs) := by
      simp [scan, unread, remainder]
    have some_clause := taken _ (reflect edge (c :: cs) (kept ▸ start))
    simp only [at_edge, if_true] at unread
    simp [unread] at some_clause

theorem never_tidyFrom {starts : List Char → Prop} {gap edge : Bool} {s : List Char}
    (space : ∀ t, ¬ starts (' ' :: t))
    (reflect : ∀ s, starts (Text.tidyFrom false s) → starts s)
    (h : Never starts edge s) (after_gap : gap = true → edge = true) :
    Never starts edge (Text.tidyFrom gap s) := by
  induction s generalizing gap edge with
  | nil => trivial
  | cons c s ih =>
    by_cases hc : Text.isBlank c
    · rw [Text.tidyFrom_blank s hc]
      have next := h.2
      rw [Text.isWord_of_isBlank hc] at next
      exact (ih next fun _ => rfl).of_true
    · have hc : Text.isBlank c = false := by simpa using hc
      have word : edge = true → ¬ starts (c :: Text.tidyFrom false s) := fun at_edge start =>
        h.1 at_edge (reflect _ (Text.tidyFrom_false_cons s hc ▸ start))
      have rest : Never starts (!Text.isWord c) (Text.tidyFrom false s) := ih h.2 (by simp)
      cases gap with
      | false =>
        rw [Text.tidyFrom_false_cons s hc]
        exact ⟨word, rest⟩
      | true =>
        rw [Text.tidyFrom_true_cons s hc]
        exact ⟨fun _ => space _, fun _ => word (after_gap rfl), rest⟩

theorem never_tidy {starts : List Char → Prop} {s : List Char} (space : ∀ t, ¬ starts (' ' :: t))
    (reflect : ∀ s, starts (Text.tidyFrom false s) → starts s) (h : Never starts true s) :
    Never starts true (Text.tidy s) := by
  refine never_tidyFrom space reflect ?_ (by simp)
  rw [← List.takeWhile_append_dropWhile (p := Text.isBlank) (l := s)] at h
  obtain blanks | ⟨u, b, blanks⟩ := List.eq_nil_or_concat (s.takeWhile Text.isBlank)
  · simpa [blanks] using h
  · have hb : Text.isBlank b = true := List.mem_takeWhile_imp (l := s) (by simp [blanks])
    rw [blanks, List.concat_eq_append] at h
    simpa [edgeAfter_blank true u hb] using h.right

/-! ### Where a clause ends -/

/-- What is read ends with a character that is no part of a word, or before a blank. -/
def EndsApart (read? : List Char → Option (α × List Char)) : Prop :=
  ∀ {s rest : List Char} {value : α}, read? s = some (value, rest) →
    (∃ c, c :: rest <:+ s ∧ Text.isWord c = false) ∨
      (rest <:+ s ∧ ∀ c ∈ rest.head?, Text.isBlank c = true)

theorem endsApart_readRun? : EndsApart readRun? := by
  intro s rest value read
  obtain ⟨_, _, rfl, head⟩ := readRun?_eq_some read
  exact .inr ⟨List.suffix_append _ _, head⟩

theorem endsApart_readValue? : EndsApart readValue? := by
  intro s rest value read
  by_cases quoted : StartsQuoted s
  · obtain ⟨v, after, rfl, some_v, hv⟩ := quoted
    rw [readValue?_quoted some_v hv] at read
    obtain ⟨_, rfl⟩ : String.ofList v = value ∧ after = rest := by simpa using read
    exact .inl ⟨'"', ⟨'"' :: v, by simp⟩, by decide +kernel⟩
  · rw [readValue?_eq_readRun? quoted] at read
    exact endsApart_readRun? read

/-- What ends a part of a text ends the text. -/
theorem ends_of_suffix {s t rest : List Char} (part : t <:+ s)
    (h : (∃ c, c :: rest <:+ t ∧ Text.isWord c = false) ∨
      (rest <:+ t ∧ ∀ c ∈ rest.head?, Text.isBlank c = true)) :
    (∃ c, c :: rest <:+ s ∧ Text.isWord c = false) ∨
      (rest <:+ s ∧ ∀ c ∈ rest.head?, Text.isBlank c = true) :=
  h.imp (fun ⟨c, inside, plain⟩ => ⟨c, inside.trans part, plain⟩)
    fun ⟨inside, head⟩ => ⟨inside.trans part, head⟩

theorem endsApart_readFieldClause? : EndsApart readFieldClause? := by
  intro s rest clause read
  obtain ⟨t, field, place⟩ := readFieldClause?_eq_some read
  obtain ⟨u, rfl, value⟩ := readField?_eq_some field
  have part : u <:+ s := by
    rcases place with rfl | ⟨w, b, rfl, _⟩
    · exact List.suffix_append _ _
    · exact (List.suffix_append _ _).trans ((List.suffix_cons b _).trans (List.suffix_append w _))
  exact ends_of_suffix part (endsApart_readValue? value)

theorem endsApart_readTermClause? : EndsApart readTermClause? := by
  intro s rest clause read
  obtain ⟨t, run, w, b, rfl, _⟩ := readTermClause?_eq_some read
  have part : t <:+ w ++ b :: t := (List.suffix_cons b t).trans (List.suffix_append w _)
  exact ends_of_suffix part (endsApart_readRun? run)

theorem EndsApart.never {starts : List Char → Prop} (apart : EndsApart read?)
    (blank : ∀ b t, Text.isBlank b = true → ¬ starts (b :: t)) {edge : Bool} {s rest : List Char}
    {clause : α} (read : read? s = some (clause, rest)) (h : Never starts edge s) :
    Never starts true rest := by
  obtain ⟨c, ⟨w, rfl⟩, plain⟩ | ⟨⟨w, rfl⟩, head⟩ := apart read
  · simpa [plain] using h.right.2
  · cases rest with
    | nil => trivial
    | cons c rest => exact ⟨fun _ => blank c rest (head c (by simp)), h.right.2⟩

/-- What does not begin at a blank begins nowhere in the residue if it began nowhere in the text. -/
theorem Never.remainder {starts : List Char → Prop} (consumes : Consumes read?)
    (apart : EndsApart read?) (blank : ∀ b t, Text.isBlank b = true → ¬ starts (b :: t))
    (reflect : ∀ edge s, starts (remainder (scan read? 0 edge s)) → starts s) {edge : Bool}
    {s : List Char} (h : Never starts edge s) :
    Never starts edge (remainder (scan read? 0 edge s)) := by
  refine scan_induction (motive := fun edge s => Never starts edge s →
    Never starts edge (Query.remainder (scan read? 0 edge s))) consumes ?_ ?_ ?_ edge s h
  · intro edge _
    trivial
  · intro c cs clause rest read ih h
    rw [scan_clause consumes read]
    exact ⟨fun _ => blank ' ' _ Text.isBlank_space, (ih (apart.never blank read h)).of_true⟩
  · intro edge c cs unread ih h
    rw [scan_plain unread]
    refine ⟨fun at_edge start => h.1 at_edge (reflect edge _ ?_), ih h.2⟩
    rwa [scan_plain unread]

theorem never_field_remainder (s : List Char) :
    Never StartsField true (Text.tidy (remainder (pieces readFieldClause? s))) := by
  have space := not_startsField_blank Text.isBlank_space
  refine never_tidy space (fun _ => startsField_of_tidyFrom) ?_
  exact never_remainder space (fun _ => isSome_readFieldClause?_of_startsField)
    fun edge _ => startsField_of_remainder edge

theorem never_term_remainder (s : List Char) :
    Never StartsTerm true (Text.tidy (remainder (pieces readTermClause? s))) := by
  have space : ∀ t, ¬ StartsTerm (' ' :: t) := fun t start => by
    simpa [Text.isBlank_space] using word_char_of_startsTerm start
  refine never_tidy space (fun _ => startsTerm_of_tidyFrom) ?_
  exact never_remainder space (fun _ => isSome_readTermClause?.2)
    fun edge _ => startsTerm_of_remainder edge

/-- Taking out term clauses gives rise to no field. -/
theorem never_field_term_remainder {s : List Char} (h : Never StartsField true s) :
    Never StartsField true (Text.tidy (remainder (pieces readTermClause? s))) := by
  refine never_tidy (not_startsField_blank Text.isBlank_space) (fun _ => startsField_of_tidyFrom) ?_
  exact h.remainder consumes_readTermClause? endsApart_readTermClause?
    (fun _ t hb => not_startsField_blank hb t) fun edge _ => startsField_of_remainder edge

end Bookmarks.Query
