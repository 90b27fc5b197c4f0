import Bookmarks.Query.Parse
import Mathlib.Data.List.TakeWhile

/-! What the readers of clauses accept. A field clause begins with a field name, a colon and a
character that is not blank; a term clause begins with an operator, a blank and, after all blanks,
such a character. Both facts name what stands at the place, not how it is read. -/

namespace Bookmarks

namespace Text

theorem after?_eq_some_iff {lead s t : List Char} : after? lead s = some t ↔ s = lead ++ t := by
  constructor
  · intro h
    simp only [after?, Option.ite_none_right_eq_some, Option.some.injEq] at h
    obtain ⟨u, rfl⟩ := List.isPrefixOf_iff_prefix.1 h.1
    simp [← h.2]
  · rintro rfl
    simp [after?]

end Text

namespace Query

theorem firstOf_eq_some {α β : Type} {f : α → Option β} {choices : List α} {a : α} {b : β}
    (h : firstOf f choices = some (a, b)) : f a = some b := by
  obtain ⟨c, _, hc⟩ := List.exists_of_findSome?_eq_some h
  obtain ⟨d, hd, same⟩ := Option.map_eq_some_iff.1 hc
  cases same
  exact hd

theorem firstOf_keyword (field : QueryField) (t : List Char) :
    firstOf (fun (f : QueryField) => Text.after? f.keyword (field.keyword ++ t)) QueryField.all =
      some (field, t) := by
  cases field <;>
    simp [firstOf, QueryField.all, QueryField.keyword, QueryField.name, Text.after?]

theorem firstOf_word (operator : Operator) (t : List Char) :
    firstOf (fun (o : Operator) => Text.after? o.word.toList (operator.word.toList ++ t))
      Operator.all = some (operator, t) := by
  cases operator <;> simp [firstOf, Operator.all, Operator.word, Text.after?]

theorem keyword_not_blank (field : QueryField) : ∀ c ∈ field.keyword, Text.isBlank c = false := by
  have all : field.keyword.all (!Text.isBlank ·) = true := by cases field <;> decide
  intro c hc
  simpa using List.all_eq_true.1 all c hc

theorem keyword_eq_cons (field : QueryField) :
    ∃ c t, field.keyword = c :: t ∧ Text.isBlank c = false := by
  cases field <;> exact ⟨_, _, rfl, by decide⟩

theorem word_not_blank (operator : Operator) :
    ∀ c ∈ operator.word.toList, Text.isBlank c = false := by
  have all : operator.word.toList.all (!Text.isBlank ·) = true := by cases operator <;> decide
  intro c hc
  simpa using List.all_eq_true.1 all c hc

theorem word_ne_nil (operator : Operator) : operator.word.toList ≠ [] := by
  cases operator <;> decide

/-! ### Runs and values -/

theorem readRun?_append {w rest : List Char} (some_w : w ≠ [])
    (hw : ∀ c ∈ w, Text.isBlank c = false) (hrest : ∀ c ∈ rest.head?, Text.isBlank c = true) :
    readRun? (w ++ rest) = some (String.ofList w, rest) := by
  have all : ∀ c ∈ w, (!Text.isBlank c) = true := by simpa using hw
  have stop : rest.takeWhile (!Text.isBlank ·) = [] ∧ rest.dropWhile (!Text.isBlank ·) = rest := by
    cases rest with
    | nil => exact ⟨rfl, rfl⟩
    | cons c rest => simp [hrest c (by simp)]
  simp [readRun?, List.takeWhile_append_of_pos all, List.dropWhile_append_of_pos all, stop, some_w]

theorem readRun?_eq_some {s rest : List Char} {v : String} (h : readRun? s = some (v, rest)) :
    v.toList ≠ [] ∧ (∀ c ∈ v.toList, Text.isBlank c = false) ∧ s = v.toList ++ rest ∧
      ∀ c ∈ rest.head?, Text.isBlank c = true := by
  simp only [readRun?, List.isEmpty_iff, Option.ite_none_left_eq_some, Option.some.injEq,
    Prod.mk.injEq] at h
  obtain ⟨some_run, rfl, rfl⟩ := h
  refine ⟨by simpa using some_run, fun c hc => ?_, by simp, fun c hc => ?_⟩
  · have kept : (!Text.isBlank c) = true :=
      List.mem_takeWhile_imp (p := (!Text.isBlank ·)) (by simpa using hc)
    simpa using kept
  · simpa [Option.mem_def.1 hc] using List.head?_dropWhile_not (!Text.isBlank ·) s

theorem isSome_readRun? {s : List Char} :
    (readRun? s).isSome ↔ ∃ c t, s = c :: t ∧ Text.isBlank c = false := by
  cases s with
  | nil => simp [readRun?]
  | cons c s => cases hc : Text.isBlank c <;> simp [readRun?, hc]

theorem readValue?_quoted {v : List Char} (some_v : v ≠ []) (hv : '"' ∉ v) (rest : List Char) :
    readValue? ('"' :: (v ++ '"' :: rest)) = some (String.ofList v, rest) := by
  have all : ∀ c ∈ v, (c != '"') = true := fun c hc => by
    simp only [bne_iff_ne]
    rintro rfl
    exact hv hc
  have taken : (v ++ '"' :: rest).takeWhile (· != '"') = v := by
    simp [List.takeWhile_append_of_pos all]
  have left : (v ++ '"' :: rest).dropWhile (· != '"') = '"' :: rest := by
    simp [List.dropWhile_append_of_pos all]
  obtain ⟨c, u, rfl⟩ := List.exists_cons_of_ne_nil some_v
  rw [readValue?, taken, left]

/-- A value in quotes that is not empty stands at the beginning. -/
def StartsQuoted (s : List Char) : Prop :=
  ∃ v rest : List Char, s = '"' :: (v ++ '"' :: rest) ∧ v ≠ [] ∧ '"' ∉ v

theorem readValue?_eq_readRun? {s : List Char} (h : ¬ StartsQuoted s) :
    readValue? s = readRun? s := by
  unfold readValue?
  split
  · rename_i t
    split
    · rename_i c body d after inside left
      have close : d = '"' := by
        simpa [left] using List.head?_dropWhile_not (· != '"') t
      have whole := List.takeWhile_append_dropWhile (p := (· != '"')) (l := t)
      rw [inside, left, close] at whole
      refine absurd ⟨c :: body, after, by rw [whole], by simp, fun quote => ?_⟩ h
      have taken : '"' ∈ t.takeWhile (· != '"') := inside ▸ quote
      have kept := List.mem_takeWhile_imp taken
      simp at kept
    · rfl
  · rfl

theorem readValue?_eq_some {s rest : List Char} {v : String} (h : readValue? s = some (v, rest)) :
    v.toList ≠ [] ∧ v.toList <:+: s ∧ rest <:+ s := by
  by_cases quoted : StartsQuoted s
  · obtain ⟨w, after, rfl, some_w, hw⟩ := quoted
    rw [readValue?_quoted some_w hw] at h
    obtain ⟨rfl, rfl⟩ : String.ofList w = v ∧ after = rest := by simpa using h
    exact ⟨by simpa using some_w, ⟨['"'], '"' :: after, by simp⟩, ⟨'"' :: (w ++ ['"']), by simp⟩⟩
  · rw [readValue?_eq_readRun? quoted] at h
    obtain ⟨some_v, _, rfl, _⟩ := readRun?_eq_some h
    exact ⟨some_v, (List.prefix_append _ _).isInfix, List.suffix_append _ _⟩

theorem isSome_readValue? {s : List Char} :
    (readValue? s).isSome ↔ ∃ c t, s = c :: t ∧ Text.isBlank c = false := by
  unfold readValue?
  split
  · split
    · simp [show Text.isBlank '"' = false by decide]
    · exact isSome_readRun?
  · exact isSome_readRun?

/-! ### Fields -/

/-- A field name, a colon and a character that is not blank. -/
def StartsField (s : List Char) : Prop :=
  ∃ (field : QueryField) (c : Char) (t : List Char),
    s = field.keyword ++ c :: t ∧ Text.isBlank c = false

theorem readField?_keyword (field : QueryField) (t : List Char) :
    readField? (field.keyword ++ t) =
      (readValue? t).map fun (value, rest) => (field, value, rest) := by
  cases value : readValue? t <;> simp [readField?, firstOf_keyword, value]

theorem readField?_eq_some {s rest : List Char} {field : QueryField} {v : String}
    (h : readField? s = some (field, v, rest)) :
    ∃ t, s = field.keyword ++ t ∧ readValue? t = some (v, rest) := by
  simp only [readField?, Option.bind_eq_bind, Option.bind_eq_some_iff] at h
  obtain ⟨⟨f, t⟩, first, ⟨w, r⟩, value, same⟩ := h
  obtain ⟨rfl, rfl, rfl⟩ : f = field ∧ w = v ∧ r = rest := by simpa using same
  have start := firstOf_eq_some first
  exact ⟨t, Text.after?_eq_some_iff.1 start, value⟩

theorem isSome_readField? {s : List Char} : (readField? s).isSome ↔ StartsField s := by
  constructor
  · intro h
    obtain ⟨⟨field, v, rest⟩, read⟩ := Option.isSome_iff_exists.1 h
    obtain ⟨t, rfl, value⟩ := readField?_eq_some read
    obtain ⟨c, u, rfl, hc⟩ := isSome_readValue?.1 (Option.isSome_of_eq_some value)
    exact ⟨field, c, u, rfl, hc⟩
  · rintro ⟨field, c, t, rfl, hc⟩
    rw [readField?_keyword, Option.isSome_map]
    exact isSome_readValue?.2 ⟨c, t, rfl, hc⟩

instance : DecidablePred StartsField := fun _ => decidable_of_iff _ isSome_readField?

/-! ### Operators -/

theorem readOperator?_word (operator : Operator) {b : Char} (hb : Text.isBlank b = true)
    (t : List Char) : readOperator? (operator.word.toList ++ b :: t) =
      some (operator, t.dropWhile Text.isBlank) := by
  simp [readOperator?, firstOf_word, hb]

theorem readOperator?_eq_some {s rest : List Char} {operator : Operator}
    (h : readOperator? s = some (operator, rest)) :
    ∃ b t, s = operator.word.toList ++ b :: t ∧ Text.isBlank b = true ∧
      rest = t.dropWhile Text.isBlank := by
  simp only [readOperator?, Option.bind_eq_bind, Option.bind_eq_some_iff] at h
  obtain ⟨⟨o, u⟩, first, rest_eq⟩ := h
  have start := firstOf_eq_some first
  rw [Text.after?_eq_some_iff] at start
  cases u with
  | nil => simp at rest_eq
  | cons b t =>
    simp only [Option.ite_none_right_eq_some, Option.some.injEq, Prod.mk.injEq] at rest_eq
    obtain ⟨hb, rfl, rfl⟩ := rest_eq
    exact ⟨b, t, start, hb, by simp [hb]⟩

/-- A blank stands right before what is left. -/
theorem readOperator?_split {s rest : List Char} {operator : Operator}
    (h : readOperator? s = some (operator, rest)) :
    ∃ w b, s = w ++ b :: rest ∧ Text.isBlank b = true := by
  obtain ⟨b, t, rfl, hb, rfl⟩ := readOperator?_eq_some h
  have whole := List.takeWhile_append_dropWhile (p := Text.isBlank) (l := t)
  obtain blanks | ⟨v, d, blanks⟩ := List.eq_nil_or_concat (t.takeWhile Text.isBlank)
  · rw [blanks, List.nil_append] at whole
    exact ⟨operator.word.toList, b, by rw [whole], hb⟩
  · have hd : Text.isBlank d = true := List.mem_takeWhile_imp (l := t) (by simp [blanks])
    refine ⟨operator.word.toList ++ b :: v, d, ?_, hd⟩
    calc operator.word.toList ++ b :: t
        = operator.word.toList ++ b :: (v ++ [d] ++ t.dropWhile Text.isBlank) := by
          rw [← List.concat_eq_append, ← blanks, whole]
      _ = _ := by simp

/-- No operator begins like a field name. -/
theorem readOperator?_keyword (field : QueryField) (t : List Char) :
    readOperator? (field.keyword ++ t) = none := by
  cases field <;>
    simp [readOperator?, firstOf, Operator.all, Operator.word, Text.after?, QueryField.keyword,
      QueryField.name]

/-! ### Clauses -/

theorem isSome_readFieldClause?_of_startsField {s : List Char} (h : StartsField s) :
    (readFieldClause? s).isSome := by
  have read := isSome_readField?.2 h
  obtain ⟨field, c, t, rfl, _⟩ := h
  obtain ⟨⟨f, v, rest⟩, some_read⟩ := Option.isSome_iff_exists.1 read
  simp [readFieldClause?, readOperator?_keyword, some_read]

/-- A field clause is a field, or an operator and blanks before a field. -/
theorem readFieldClause?_eq_some {s rest : List Char} {clause : FieldClause}
    (h : readFieldClause? s = some (clause, rest)) : ∃ t,
      readField? t = some (clause.field, clause.value, rest) ∧
      (t = s ∨ ∃ w b, s = w ++ b :: t ∧ Text.isBlank b = true) := by
  unfold readFieldClause? at h
  split at h
  · rename_i operator t read
    simp only [Option.bind_eq_bind, Option.bind_eq_some_iff] at h
    obtain ⟨⟨f, v, r⟩, field_read, same⟩ := h
    obtain ⟨rfl, rfl⟩ : ⟨some operator, f, v⟩ = clause ∧ r = rest := by simpa using same
    exact ⟨t, field_read, Or.inr (readOperator?_split read)⟩
  · simp only [Option.bind_eq_bind, Option.bind_eq_some_iff] at h
    obtain ⟨⟨f, v, r⟩, field_read, same⟩ := h
    obtain ⟨rfl, rfl⟩ : ⟨none, f, v⟩ = clause ∧ r = rest := by simpa using same
    exact ⟨s, field_read, Or.inl rfl⟩

/-- What follows a clause comes later in the text. -/
def Consumes {α : Type} (read? : List Char → Option (α × List Char)) : Prop :=
  ∀ {c : Char} {cs rest : List Char} {clause : α}, read? (c :: cs) = some (clause, rest) → rest <:+ cs

theorem suffix_of_append {u rest t cs : List Char} {c : Char} (some_u : u ≠ [])
    (h : c :: cs = u ++ t) (later : rest <:+ t) : rest <:+ cs := by
  cases u with
  | nil => exact absurd rfl some_u
  | cons d u =>
    obtain ⟨_, rfl⟩ := List.cons.inj h
    exact later.trans (List.suffix_append _ _)

theorem consumes_readFieldClause? : Consumes readFieldClause? := by
  intro c cs rest clause h
  obtain ⟨t, read, place⟩ := readFieldClause?_eq_some h
  obtain ⟨u, rfl, value⟩ := readField?_eq_some read
  have later : rest <:+ u := (readValue?_eq_some value).2.2
  have some_keyword : clause.field.keyword ≠ [] := by cases clause.field <;> decide
  rcases place with same | ⟨w, b, same, _⟩
  · exact suffix_of_append some_keyword same.symm later
  · exact suffix_of_append (u := w ++ [b]) (by simp) (by simpa using same)
      (later.trans (List.suffix_append _ _))

/-- An operator, a blank, and somewhere behind it a character that is not blank. -/
def StartsTerm (s : List Char) : Prop :=
  ∃ (operator : Operator) (b : Char) (t : List Char),
    s = operator.word.toList ++ b :: t ∧ Text.isBlank b = true ∧ ∃ c ∈ t, Text.isBlank c = false

theorem readTermClause?_eq_some {s rest : List Char} {clause : TermClause}
    (h : readTermClause? s = some (clause, rest)) : ∃ t,
      readRun? t = some (clause.term, rest) ∧
      ∃ w b, s = w ++ b :: t ∧ Text.isBlank b = true := by
  simp only [readTermClause?, Option.bind_eq_bind, Option.bind_eq_some_iff] at h
  obtain ⟨⟨o, t⟩, read, ⟨v, r⟩, run, same⟩ := h
  obtain ⟨rfl, rfl⟩ : ⟨o, v⟩ = clause ∧ r = rest := by simpa using same
  exact ⟨t, run, readOperator?_split read⟩

theorem consumes_readTermClause? : Consumes readTermClause? := by
  intro c cs rest clause h
  obtain ⟨t, run, w, b, same, _⟩ := readTermClause?_eq_some h
  obtain ⟨_, _, rfl, _⟩ := readRun?_eq_some run
  exact suffix_of_append (u := w ++ [b]) (by simp) (by simpa using same) (List.suffix_append _ _)

theorem isSome_readTermClause? {s : List Char} : (readTermClause? s).isSome ↔ StartsTerm s := by
  constructor
  · intro h
    obtain ⟨⟨clause, rest⟩, read⟩ := Option.isSome_iff_exists.1 h
    simp only [readTermClause?, Option.bind_eq_bind, Option.bind_eq_some_iff] at read
    obtain ⟨⟨o, t⟩, start, ⟨v, r⟩, run, _⟩ := read
    obtain ⟨b, u, rfl, hb, rfl⟩ := readOperator?_eq_some start
    obtain ⟨c, w, same, hc⟩ := isSome_readRun?.1 (Option.isSome_of_eq_some run)
    have words : u.dropWhile Text.isBlank = c :: w := same
    have mem : c ∈ u.dropWhile Text.isBlank := by simp [words]
    exact ⟨o, b, u, rfl, hb, c, (List.dropWhile_suffix _).subset mem, hc⟩
  · rintro ⟨o, b, t, rfl, hb, c, mem, hc⟩
    have left : t.dropWhile Text.isBlank ≠ [] := by
      rw [Ne, List.dropWhile_eq_nil_iff]
      intro all
      simp [all c mem] at hc
    obtain ⟨d, u, same⟩ := List.exists_cons_of_ne_nil left
    have hd : Text.isBlank d = false := by
      simpa [same] using List.head?_dropWhile_not Text.isBlank t
    obtain ⟨⟨v, r⟩, run⟩ := Option.isSome_iff_exists.1 (isSome_readRun?.2 ⟨d, u, same, hd⟩)
    simp [readTermClause?, readOperator?_word o hb, run]

instance : DecidablePred StartsTerm := fun _ => decidable_of_iff _ isSome_readTermClause?

end Query

end Bookmarks
