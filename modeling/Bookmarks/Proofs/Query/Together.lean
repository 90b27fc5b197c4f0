import Bookmarks.Proofs.Query.Legible

/-! Two queries together. The later one counts where only one value has a place; everything else is
asked for by both. Putting clauses into a query is putting them together with it. -/

namespace Bookmarks

open Text

/-- The terms of both; where each has a value for a field, the later one counts. -/
instance : Append FieldTerms where
  append a b := {
    title := b.title.or a.title
    description := b.description.or a.description
    filepath := b.filepath.or a.filepath
    tags := a.tags ++ b.tags }

theorem FieldTerms.append_eq (a b : FieldTerms) : a ++ b = {
    title := b.title.or a.title
    description := b.description.or a.description
    filepath := b.filepath.or a.filepath
    tags := a.tags ++ b.tags } := rfl

theorem FieldTerms.append_nil (a : FieldTerms) : a ++ ({} : FieldTerms) = a := by simp [append_eq]

theorem FieldTerms.append_put (a b : FieldTerms) (field : QueryField) (value : String) :
    (a ++ b).put field value = a ++ b.put field value := by
  cases field <;> simp [append_eq, put]

@[simp] theorem FieldTerms.named_nil : ({} : FieldTerms).named = [] := rfl

theorem FieldTerms.named_put {field : QueryField} (h : field ≠ .created) (value : String) :
    (put {} field value).named = [(field, value)] := by
  cases field with
  | created => contradiction
  | _ => rfl

theorem FieldTerms.forall_mem_named {terms : FieldTerms} {test : QueryField × String → Prop} :
    (∀ p ∈ terms.named, test p) ↔
      (∀ v ∈ terms.title, test (.title, v)) ∧ (∀ v ∈ terms.description, test (.description, v)) ∧
      (∀ v ∈ terms.filepath, test (.filepath, v)) ∧ ∀ v ∈ terms.tags, test (.tag, v) := by
  simp [named, or_imp, forall_and]

/-- An earlier value counts if it is a tag or no later one is for its field. -/
theorem FieldTerms.mem_named_append {a b : FieldTerms} {p : QueryField × String} :
    p ∈ (a ++ b).named ↔
      p ∈ b.named ∨ p ∈ a.named ∧ (p.1 = .tag ∨ ∀ v, (p.1, v) ∉ b.named) := by
  obtain ⟨field, value⟩ := p
  obtain ⟨title, description, filepath, tags⟩ := b
  cases field
  case title => cases title <;> simp [append_eq, named]
  case description => cases description <;> simp [append_eq, named]
  case filepath => cases filepath <;> simp [append_eq, named]
  case tag => simp [append_eq, named, or_comm]
  case created => simp [named]

theorem FieldTerms.exists_mem_named_append {a b : FieldTerms} {field : QueryField} :
    (∃ v, (field, v) ∈ (a ++ b).named) ↔
      (∃ v, (field, v) ∈ a.named) ∨ ∃ v, (field, v) ∈ b.named := by
  simp only [mem_named_append]
  constructor
  · rintro ⟨v, later | ⟨earlier, _⟩⟩
    · exact .inr ⟨v, later⟩
    · exact .inl ⟨v, earlier⟩
  · rintro (⟨v, earlier⟩ | ⟨v, later⟩)
    · by_cases replaced : ∃ u, (field, u) ∈ b.named
      · exact replaced.imp fun u later => .inl later
      · exact ⟨v, .inr ⟨earlier, .inr fun u later => replaced ⟨u, later⟩⟩⟩
    · exact ⟨v, .inl later⟩

namespace Query

/-- What two queries ask for one after the other. -/
instance : Append Query where
  append a b := {
    text := String.ofList (joined a.text.toList b.text.toList)
    required := a.required ++ b.required
    excluded := a.excluded ++ b.excluded
    allOf := a.allOf ++ b.allOf
    anyOf := a.anyOf ++ b.anyOf
    noneOf := a.noneOf ++ b.noneOf
    created := b.created.or a.created }

theorem append_eq (a b : Query) : a ++ b = {
    text := String.ofList (joined a.text.toList b.text.toList)
    required := a.required ++ b.required
    excluded := a.excluded ++ b.excluded
    allOf := a.allOf ++ b.allOf
    anyOf := a.anyOf ++ b.anyOf
    noneOf := a.noneOf ++ b.noneOf
    created := b.created.or a.created } := rfl

theorem append_nil (a : Query) : a ++ ({} : Query) = a := by
  simp [append_eq, FieldTerms.append_nil]

theorem putField_append (a b : Query) (clause : FieldClause) :
    putField (a ++ b) clause = (a ++ (putField b clause).1, (putField b clause).2) := by
  unfold putField putDate
  by_cases created : clause.field = .created
  · by_cases negated : clause.lead = some .not
    · simp [created, negated]
    · cases readCondition clause.value <;> simp [created, negated, append_eq]
  · by_cases negated : clause.lead = some .not <;>
      simp [created, negated, append_eq, FieldTerms.append_put]

theorem putFields_append (a b : Query) (found : List FieldClause) :
    putFields (a ++ b) found = (a ++ (putFields b found).1, (putFields b found).2) := by
  induction found generalizing b with
  | nil => rfl
  | cons clause found ih => simp only [putFields_cons, putField_append, ih]

theorem putFields_two (query : Query) (first second : List FieldClause) :
    putFields query (first ++ second) =
      ((putFields (putFields query first).1 second).1,
        (putFields query first).2 ++ (putFields (putFields query first).1 second).2) := by
  induction first generalizing query with
  | nil => simp [putFields_nil]
  | cons clause first ih => simp [putFields_cons, ih, List.append_assoc]

/-- Clauses of two texts that are put one after the other. -/
theorem putFields_both (first second : List FieldClause) :
    putFields {} (first ++ second) =
      ((putFields {} first).1 ++ (putFields {} second).1,
        (putFields {} first).2 ++ (putFields {} second).2) := by
  have later := putFields_append (putFields {} first).1 {} second
  rw [append_nil] at later
  rw [putFields_two, later]

theorem foldl_putTerm_append (a b : Query)
    (no_terms : b.allOf = [] ∧ b.anyOf = [] ∧ b.noneOf = []) (first second : List TermClause) :
    (first ++ second).foldl putTerm (a ++ b) = first.foldl putTerm a ++ second.foldl putTerm b := by
  simp [foldl_putTerm, append_eq, no_terms]

end Query

end Bookmarks
