import Bookmarks.Query.Form
import Bookmarks.Proofs.History.Salvage
import Bookmarks.Proofs.View.Settings

/-! Decoding is canonical: whatever stands under the keys of an object, what is decoded from it has
an encoding, and is decoded from that again as it was. Only a timestamp that is the negative zero,
which a text can spell, is read back as the other zero. -/

namespace Bookmarks

/-- Whether all that is decoded from objects has an encoding from which the same is decoded. -/
def IsCanonical {α : Type} (Decodes : Json.Fields → α → Prop) (Encodes : α → Json → Prop)
    (Same : α → α → Prop) : Prop :=
  ∀ fields x, Decodes fields x →
    ∃ document y, Encodes x (.obj document) ∧ Decodes document y ∧ Same y x

section Bookmark

/-- Whether two numbers are the same or both zeros. -/
def Double.Resembles (x y : Double) : Prop := x = y ∨ x.isZero = true ∧ y.isZero = true

theorem Json.seconds_double (d : Double) : ∃ e, (double d).seconds = .ok e ∧ e.Resembles d := by
  unfold seconds
  split
  · next zero => exact ⟨.zero, rfl, .inr ⟨rfl, zero⟩⟩
  · exact ⟨d, rfl, .inl rfl⟩

/-- Whether two bookmarks are the same but for the sign of a timestamp that is zero. -/
structure Bookmark.Resembles (b c : Bookmark) : Prop where
  timestamp : b.timestamp.Resembles c.timestamp
  rest : b = { c with timestamp := b.timestamp }

theorem Bookmark.ofFields_toFields (b : Bookmark) :
    ∃ c, ofFields b.toFields = .ok c ∧ c.Resembles b := by
  have ⟨seconds, read, same⟩ := Json.seconds_double b.timestamp
  refine ⟨{ b with timestamp := seconds }, ?_, same, rfl⟩
  cases described : b.description <;>
    simp [ofFields, toFields, described, Json.Fields.at, List.lookup_cons, read, Json.display,
      Json.texts_strs, Json.textOrEmpty, Json.text?, bind, Except.bind, pure, Except.pure]

end Bookmark

namespace DateFilter

/-- Whether a condition has texts for its operator and for its bound, if it has a bound. -/
def IsTextual (f : DateFilter) : Prop :=
  ∃ (operator : String) (bound : Option String), f = ⟨.str operator, .ofText? bound⟩

theorem isTextual_ofFields (fields : Json.Fields) : (ofFields fields).IsTextual := ⟨_, _, rfl⟩

theorem IsTextual.ofFields_toJson {f : DateFilter} (textual : f.IsTextual) :
    ∃ document, f.toJson = .obj document ∧ ofFields document = f := by
  have ⟨operator, bound, same⟩ := textual
  refine ⟨_, rfl, ?_⟩
  cases bound <;>
    simp [same, ofFields, Json.Fields.at, List.lookup_cons, Json.ofText?, Json.isNull,
      Json.textOrEmpty, Json.text?]

end DateFilter

namespace TermsForm

/-- Whether the tags are a list of texts. -/
def IsListed (terms : TermsForm) : Prop := ∃ tags : List String, terms.tags = .arr (tags.map .str)

theorem isListed_ofFields {fields : Json.Fields} {terms : TermsForm}
    (read : ofFields fields = .ok terms) : terms.IsListed := by
  have ⟨tags, _, read⟩ := exists_of_bind read
  cases read
  exact ⟨tags, rfl⟩

theorem isListed_ofJson {value : Json} {terms : TermsForm} (read : ofJson value = .ok terms) :
    terms.IsListed := by
  unfold ofJson at read
  split at read
  · exact isListed_ofFields read
  · cases read
    exact ⟨[], rfl⟩

theorem IsListed.ofFields_toJson {terms : TermsForm} (listed : terms.IsListed) :
    ∃ document, terms.toJson = .ok (.obj document) ∧ ofFields document = .ok terms := by
  have ⟨tags, same⟩ := listed
  obtain ⟨title, description, filepath, listing⟩ := terms
  cases same
  let given : Json.Fields :=
    [("title", title), ("description", description), ("filepath", filepath)]
  cases tags with
  | nil =>
    refine ⟨given.filter fun f => !f.2.isNull, ?_, ?_⟩
    · rw [← List.append_nil (given.filter _)]
      rfl
    · have distinct : (given.map Prod.fst).Nodup := by simp [given]
      simp only [ofFields, Json.Fields.at_filter distinct]
      rfl
  | cons tag rest =>
    let listing : Json.Fields := [("tags", .arr ((tag :: rest).map .str))]
    refine ⟨(given ++ listing).filter fun f => !f.2.isNull, ?_, ?_⟩
    · have kept : listing.filter (fun f => !f.2.isNull) = listing := rfl
      rw [List.filter_append, kept]
      rfl
    · have distinct : ((given ++ listing).map Prod.fst).Nodup := by simp [given, listing]
      simp only [ofFields, Json.Fields.at_filter distinct]
      have tags : Json.Fields.at (given ++ listing) "tags" = .arr ((tag :: rest).map .str) := rfl
      rw [tags, Json.texts_strs]
      rfl

end TermsForm

namespace QueryForm

/-- Whether the parts of a query are of the kinds that are read. -/
structure IsTyped (query : QueryForm) : Prop where
  text : ∃ text, query.text = .str text
  required : query.required.IsListed
  excluded : query.excluded.IsListed
  allOf : ∃ terms, query.allOf = .arr terms
  anyOf : ∃ terms, query.anyOf = .arr terms
  noneOf : ∃ terms, query.noneOf = .arr terms
  created : ∀ f ∈ query.created, f.IsTextual

theorem exists_arr_of_termsAt {operators : Json.Fields} {operator : Operator} {terms : Json}
    (read : termsAt operators operator = .ok terms) : ∃ items, terms = .arr items := by
  unfold termsAt at read
  simp only at read
  split at read
  · cases read
    exact ⟨[], rfl⟩
  · have ⟨items, _, same⟩ := exists_of_map read
    exact ⟨items, same.symm⟩

theorem isTyped_ofFields {fields : Json.Fields} {query : QueryForm}
    (read : ofFields fields = .ok query) : query.IsTyped := by
  have ⟨dates, _, read⟩ := exists_of_bind read
  have ⟨required, demanded, read⟩ := exists_of_bind read
  have ⟨operators, _, read⟩ := exists_of_bind read
  have ⟨allOf, all, read⟩ := exists_of_bind read
  have ⟨anyOf, any, read⟩ := exists_of_bind read
  have ⟨noneOf, nor, read⟩ := exists_of_bind read
  have ⟨excluded, barred, read⟩ := exists_of_bind read
  cases read
  refine ⟨⟨_, rfl⟩, TermsForm.isListed_ofJson demanded, TermsForm.isListed_ofJson barred,
    exists_arr_of_termsAt all, exists_arr_of_termsAt any, exists_arr_of_termsAt nor, ?_⟩
  intro f given
  simp only at given
  split at given
  · cases given
    exact DateFilter.isTextual_ofFields _
  · cases given

theorem termsAt_arr {operators : Json.Fields} {operator : Operator} {items : List Json}
    (found : operators.at operator.word = .arr items) :
    termsAt operators operator = .ok (.arr items) := by
  rw [termsAt, found]
  cases items <;> rfl

theorem IsTyped.ofFields_toJson {query : QueryForm} (typed : query.IsTyped) :
    ∃ document, query.toJson = .ok (.obj document) ∧ ofFields document = .ok query := by
  have ⟨text, is_text⟩ := typed.text
  have ⟨required, demanded, required_back⟩ := typed.required.ofFields_toJson
  have ⟨excluded, barred, excluded_back⟩ := typed.excluded.ofFields_toJson
  have ⟨allOf, all⟩ := typed.allOf
  have ⟨anyOf, any⟩ := typed.anyOf
  have ⟨noneOf, nor⟩ := typed.noneOf
  have textual := typed.created
  have ⟨_, _, _, _, _, _, created⟩ := query
  cases is_text
  cases all
  cases any
  cases nor
  let document : Json.Fields := [
    ("textSearch", .str text), ("fieldSearches", .obj required),
    ("negatedFieldSearches", .obj excluded),
    ("operators", .obj [("AND", .arr allOf), ("OR", .arr anyOf), ("NOT", .arr noneOf)]),
    ("dateFilters", .obj (created.map fun f => ("created", f.toJson)).toList)]
  refine ⟨document, ?_, ?_⟩
  · rw [toJson, demanded, barred]
    rfl
  · have operators : optionalFields (document.at "operators") = .ok
        [("AND", .arr allOf), ("OR", .arr anyOf), ("NOT", .arr noneOf)] := rfl
    have dates : optionalFields (document.at "dateFilters") =
        .ok (created.map fun f => ("created", f.toJson)).toList := by
      cases created <;> rfl
    have all : termsAt [("AND", .arr allOf), ("OR", .arr anyOf), ("NOT", .arr noneOf)] .and =
        .ok (.arr allOf) := termsAt_arr rfl
    have any : termsAt [("AND", .arr allOf), ("OR", .arr anyOf), ("NOT", .arr noneOf)] .or =
        .ok (.arr anyOf) := termsAt_arr rfl
    have nor : termsAt [("AND", .arr allOf), ("OR", .arr anyOf), ("NOT", .arr noneOf)] .not =
        .ok (.arr noneOf) := termsAt_arr rfl
    have demanded : TermsForm.ofJson (document.at "fieldSearches") = _ := required_back
    have barred : TermsForm.ofJson (document.at "negatedFieldSearches") = _ := excluded_back
    rw [ofFields, dates, demanded, operators, barred]
    simp only [bind, Except.bind, all, any, nor]
    cases created with
    | none => rfl
    | some f =>
      have ⟨bound, shown, back⟩ := (textual f rfl).ofFields_toJson
      simp only [Option.map_some, Option.toList_some, shown, Json.Fields.at, List.lookup_cons,
        beq_self_eq_true, Option.getD_some, back]
      rfl

end QueryForm

theorem ViewSettings.toJson_ofSettings (s : ViewSettings) :
    (SettingsForm.ofSettings s).toJson = .ok (.obj s.form) := by
  rw [SettingsForm.toJson, toFields_ofSettings]
  rfl

/-- What is decoded has an encoding from which it is decoded again, for all that is exchanged. -/
theorem isCanonical_all :
    IsCanonical (Bookmark.ofFields · = .ok ·) (·.toJson = ·) Bookmark.Resembles ∧
    IsCanonical (DateFilter.ofFields · = ·) (·.toJson = ·) Eq ∧
    IsCanonical (TermsForm.ofFields · = .ok ·) (·.toJson = .ok ·) Eq ∧
    IsCanonical (QueryForm.ofFields · = .ok ·) (·.toJson = .ok ·) Eq ∧
    IsCanonical (SortCriterion.ofFields? · = some ·) (·.toJson = ·) Eq ∧
    IsCanonical (ViewSettings.ofFields · = .ok ·)
      (fun s document => (SettingsForm.ofSettings s).toJson = .ok document) Eq ∧
    IsCanonical (Preset.ofFields · = .ok ·) (·.toJson = ·) Eq ∧
    IsCanonical (History.ofFields · = .ok ·) (·.toJson = .ok ·) Eq := by
  refine ⟨?_, ?_, ?_, ?_, ?_, ?_, ?_, ?_⟩
  · intro fields b _
    have ⟨c, back, same⟩ := b.ofFields_toFields
    exact ⟨b.toFields, c, rfl, back, same⟩
  · intro fields f read
    have textual := DateFilter.isTextual_ofFields fields
    rw [read] at textual
    have ⟨document, shown, back⟩ := textual.ofFields_toJson
    exact ⟨document, f, shown, back, rfl⟩
  · intro fields terms read
    have ⟨document, shown, back⟩ := (TermsForm.isListed_ofFields read).ofFields_toJson
    exact ⟨document, terms, shown, back, rfl⟩
  · intro fields query read
    have ⟨document, shown, back⟩ := (QueryForm.isTyped_ofFields read).ofFields_toJson
    exact ⟨document, query, shown, back, rfl⟩
  · intro fields c _
    have ⟨document, shown, back⟩ := c.ofFields?_toJson
    exact ⟨document, c, shown, back, rfl⟩
  · intro fields s _
    exact ⟨s.form, s, s.toJson_ofSettings, s.ofFields_form, rfl⟩
  · intro fields p _
    have ⟨document, shown, back⟩ := p.ofFields_toJson
    exact ⟨document, p, shown, back, rfl⟩
  · intro fields h read
    have usage := (History.isSavedFrom_of_ofFields read).usage
    exact ⟨h.document _, h, History.toJson_named usage, History.ofFields_document usage, rfl⟩

end Bookmarks
