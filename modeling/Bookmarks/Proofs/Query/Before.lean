import Bookmarks.Proofs.Query.Residue
import Bookmarks.Proofs.Text.Trim

/-! Reading in front of a space. What stands before it is read as if nothing followed, as long as it
is no operator alone and no open quote can find its end behind the space. -/

namespace Bookmarks.Query

open Text

/-- What is read at the beginning of `s` is read there too when `t` follows behind a space. -/
def ReadsBefore {α : Type} (read? : List Char → Option (α × List Char)) (t s : List Char) : Prop :=
  read? (s ++ ' ' :: t) = (read? s).map fun (value, rest) => (value, rest ++ ' ' :: t)

theorem readsBefore_run (s t : List Char) : ReadsBefore readRun? t s := by
  have stop : (!isBlank ' ') = false := by rw [isBlank_space, Bool.not_true]
  have taken := takeWhile_append_stop (p := (!isBlank ·)) stop s t
  have left := dropWhile_append_stop (p := (!isBlank ·)) stop s t
  unfold ReadsBefore readRun?
  simp only [taken, left]
  split <;> rfl

/-- A value in quotes ends within its text unless both texts hold a quote. -/
theorem readsBefore_value {s t : List Char} (parted : '"' ∉ s ∨ '"' ∉ t) :
    ReadsBefore readValue? t s := by
  by_cases quoted : StartsQuoted s
  · obtain ⟨v, rest, rfl, some_v, hv⟩ := quoted
    simp only [ReadsBefore, List.cons_append, List.append_assoc, readValue?_quoted some_v hv,
      Option.map_some]
  · have quoted' : ¬ StartsQuoted (s ++ ' ' :: t) := by
      rintro ⟨v, rest, same, some_v, hv⟩
      cases s with
      | nil => simp at same
      | cons c s =>
        obtain ⟨rfl, behind⟩ := List.cons.inj same
        obtain ⟨x, rfl, back⟩ | ⟨x, rfl, back⟩ := List.append_eq_append_iff.1 behind
        · -- the quote that opens stands in `s` and the one that closes in `t`
          have later : '"' ∈ ' ' :: t := back ▸ by simp
          simp at parted later
          exact parted later
        · cases x with
          | nil => simp at back
          | cons d x =>
            obtain ⟨rfl, _⟩ := List.cons.inj back
            exact quoted ⟨v, x, rfl, some_v, hv⟩
    rw [ReadsBefore, readValue?_eq_readRun? quoted, readValue?_eq_readRun? quoted']
    exact readsBefore_run s t

theorem readField?_eq_none {s : List Char}
    (h : ¬ ∃ (field : QueryField) (t : List Char), s = field.keyword ++ t) :
    readField? s = none := by
  by_contra some_field
  obtain ⟨⟨field, v, rest⟩, read⟩ := Option.ne_none_iff_exists'.1 some_field
  obtain ⟨t, same, _⟩ := readField?_eq_some read
  exact h ⟨field, t, same⟩

theorem readField?_before {s t : List Char} (parted : '"' ∉ s ∨ '"' ∉ t) :
    readField? (s ++ ' ' :: t) =
      (readField? s).map fun (field, value, rest) => (field, value, rest ++ ' ' :: t) := by
  by_cases named : ∃ (field : QueryField) (u : List Char), s = field.keyword ++ u
  · obtain ⟨field, u, rfl⟩ := named
    have value := readsBefore_value (parted.imp_left fun h mem => h (List.mem_append_right _ mem))
    rw [ReadsBefore] at value
    rw [List.append_assoc, readField?_keyword, readField?_keyword, value, Option.map_map,
      Option.map_map]
    rfl
  · rw [readField?_eq_none named, readField?_eq_none, Option.map_none]
    rintro ⟨field, u, same⟩
    obtain ⟨v, here⟩ := exists_of_append_blank isBlank_space (keyword_not_blank field) same
    exact named ⟨field, v, here⟩

/-- An operator and nothing else. -/
def IsOperator (s : List Char) : Prop := ∃ operator : Operator, s = operator.word.toList

theorem readOperator?_eq_none {s : List Char} (h : ¬ ∃ (operator : Operator) (b : Char)
    (t : List Char), s = operator.word.toList ++ b :: t ∧ isBlank b = true) :
    readOperator? s = none := by
  by_contra some_operator
  obtain ⟨⟨operator, rest⟩, read⟩ := Option.ne_none_iff_exists'.1 some_operator
  obtain ⟨b, t, same, hb, _⟩ := readOperator?_eq_some read
  exact h ⟨operator, b, t, same, hb⟩

theorem readsBefore_operator {s : List Char} (last : ∀ c ∈ s.getLast?, isBlank c = false)
    (more : ¬ IsOperator s) (t : List Char) : ReadsBefore readOperator? t s := by
  by_cases opened : ∃ (operator : Operator) (b : Char) (u : List Char),
      s = operator.word.toList ++ b :: u ∧ isBlank b = true
  · obtain ⟨operator, b, u, rfl, hb⟩ := opened
    -- `s` does not end in a blank, so the blanks behind the operator end within it
    have words : u.dropWhile isBlank ≠ [] := by
      rw [List.getLast?_append_cons] at last
      intro blanks
      have all : ∀ c ∈ b :: u, isBlank c = true := by
        simpa [hb] using List.dropWhile_eq_nil_iff.1 blanks
      have some_u := List.cons_ne_nil b u
      have word := last _ (List.getLast?_eq_some_getLast some_u)
      simp [all _ (List.getLast_mem some_u)] at word
    have left : (u ++ ' ' :: t).dropWhile isBlank = u.dropWhile isBlank ++ ' ' :: t := by
      rw [List.dropWhile_append, if_neg (by simpa using words)]
    rw [ReadsBefore, List.append_assoc, List.cons_append, readOperator?_word operator hb,
      readOperator?_word operator hb, left]
    rfl
  · rw [ReadsBefore, readOperator?_eq_none opened, readOperator?_eq_none, Option.map_none]
    rintro ⟨operator, b, u, same, hb⟩
    obtain ⟨v, rfl⟩ := exists_of_append_blank isBlank_space (word_not_blank operator) same
    cases v with
    | nil => exact more ⟨operator, by simp⟩
    | cons d v =>
      obtain ⟨rfl, _⟩ : d = b ∧ v ++ ' ' :: t = u := by simpa using same
      exact opened ⟨operator, d, v, rfl, hb⟩

theorem readsBefore_fieldClause {s t : List Char} (last : ∀ c ∈ s.getLast?, isBlank c = false)
    (more : ¬ IsOperator s) (parted : '"' ∉ s ∨ '"' ∉ t) : ReadsBefore readFieldClause? t s := by
  have operator := readsBefore_operator last more t
  rw [ReadsBefore] at operator ⊢
  rw [readFieldClause?, readFieldClause?, operator]
  cases read : readOperator? s with
  | none =>
    simp only [Option.map_none, readField?_before parted]
    cases readField? s <;> rfl
  | some found =>
    obtain ⟨lead, rest⟩ := found
    obtain ⟨w, b, rfl, _⟩ := readOperator?_split read
    have later := parted.imp_left fun h mem =>
      h (List.mem_append_right w (List.mem_cons_of_mem b mem))
    simp only [Option.map_some, readField?_before later]
    cases readField? rest <;> rfl

theorem readsBefore_termClause {s : List Char} (last : ∀ c ∈ s.getLast?, isBlank c = false)
    (more : ¬ IsOperator s) (t : List Char) : ReadsBefore readTermClause? t s := by
  have operator := readsBefore_operator last more t
  rw [ReadsBefore] at operator ⊢
  rw [readTermClause?, readTermClause?, operator]
  cases read : readOperator? s with
  | none => rfl
  | some found =>
    have run := readsBefore_run found.2 t
    rw [ReadsBefore] at run
    simp only [Option.map_some, Option.bind_eq_bind, Option.bind_some, run]
    cases readRun? found.2 <;> rfl

end Bookmarks.Query
