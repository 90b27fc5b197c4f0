import Bookmarks.Proofs.Finder.Accept
import Bookmarks.Proofs.Query.Bar

/-! What barred clauses keep. A query of clauses behind NOT keeps the bookmarks that no clause of it
selects, apart from the clauses that a later one for the same field replaces. -/

namespace Bookmarks

open Query Text

/-- Whether a bookmark has the term in a field. -/
def Bookmark.hasIn (b : Bookmark) (field : QueryField) (term : String) : Bool :=
  match field with
  | .title => containsTerm b.title term
  | .description => containsTerm b.descriptionText term
  | .filepath => containsTerm b.filepath term
  | .tag => b.hasTagLike term
  | .created => false

namespace TermsForm

/-- A term that is not empty is looked for. -/
theorem verdictOn_of_given {term : Option String} (given : ∀ v ∈ term, v.toList ≠ [])
    (test : String → Bool) :
    verdictOn (.ofText? term) true test = .ok (term.toList.all test) ∧
      verdictOn (.ofText? term) false test = .ok (term.toList.any test) := by
  cases term with
  | none => exact ⟨rfl, rfl⟩
  | some v =>
    have some_v : (Json.str v).isVoid = false := by simpa [Json.isVoid] using given v rfl
    simp [verdictOn, Json.ofText?, some_v, Json.text, Except.map]

variable {terms : FieldTerms} (given : ∀ p ∈ terms.named, p.2.toList ≠ []) (b : Bookmark)
include given

theorem allHold_of_given :
    (ofTerms terms).allHold b = .ok (terms.named.all fun p => b.hasIn p.1 p.2) := by
  obtain ⟨title, description, filepath, _⟩ := FieldTerms.forall_mem_named.1 given
  simp only [allHold, ofTerms, verdictOn_of_given title, verdictOn_of_given description,
    verdictOn_of_given filepath, allOn_strs, Verdict.and_ok, FieldTerms.named, List.all_append,
    List.all_map, Bool.and_assoc]
  rfl

theorem anyHolds_of_given :
    (ofTerms terms).anyHolds b = .ok (terms.named.any fun p => b.hasIn p.1 p.2) := by
  obtain ⟨title, description, filepath, _⟩ := FieldTerms.forall_mem_named.1 given
  simp only [anyHolds, ofTerms, verdictOn_of_given title, verdictOn_of_given description,
    verdictOn_of_given filepath, anyOn_strs, Verdict.or_ok, FieldTerms.named, List.any_append,
    List.any_map, Bool.or_assoc]
  rfl

end TermsForm

/-- The verdict of a query without a date condition. -/
theorem QueryForm.accepts_of_given {query : Query} (no_date : query.created = none)
    (required : ∀ p ∈ query.required.named, p.2.toList ≠ [])
    (excluded : ∀ p ∈ query.excluded.named, p.2.toList ≠ []) (moment : Moment) (b : Bookmark) :
    (ofQuery query).accepts moment b = .ok (
      (query.required.named.all fun p => b.hasIn p.1 p.2) &&
      !(query.excluded.named.any fun p => b.hasIn p.1 p.2) &&
      !query.noneOf.any b.mentions && query.allOf.all b.mentions &&
      (query.anyOf.isEmpty || query.anyOf.any b.mentions) &&
      (query.text.isEmpty || b.mentions query.text)) := by
  have date : (ofQuery query).acceptsDate moment b = .ok true := by
    simp [acceptsDate, ofQuery, no_date]
  have allHold : (ofQuery query).required.allHold b = _ := TermsForm.allHold_of_given required b
  have anyHolds : (ofQuery query).excluded.anyHolds b = _ := TermsForm.anyHolds_of_given excluded b
  have noneOf : Verdict.anyOn (ofQuery query).noneOf b.mentions = _ := anyOn_strs _ _
  have allOf : Verdict.allOn (ofQuery query).allOf b.mentions = _ := allOn_strs _ _
  have anyOf : (if (ofQuery query).anyOf.isVoid then .ok true
      else Verdict.anyOn (ofQuery query).anyOf b.mentions) =
        .ok (query.anyOf.isEmpty || query.anyOf.any b.mentions) := by
    simp only [ofQuery, anyOn_strs, Json.isVoid, List.isEmpty_map]
    cases query.anyOf.isEmpty <;> rfl
  have text : (if (ofQuery query).text.isVoid then .ok true
      else b.mentionsValue (ofQuery query).text) =
        .ok (query.text.isEmpty || b.mentions query.text) := by
    rw [← show (ofQuery query).text.isVoid = query.text.isEmpty from rfl]
    cases (ofQuery query).text.isVoid <;> rfl
  rw [accepts, date, allHold, anyHolds, noneOf, allOf, anyOf, text]
  simp only [Verdict.not_ok, Verdict.and_ok, Bool.true_and, Bool.and_assoc]

namespace Selector

/-- Whether a clause selects a bookmark. -/
def selects (s : Selector) (b : Bookmark) : Bool :=
  match s with
  | field f _ value => b.hasIn f value.text
  | term word => b.mentions word.text

variable (moment : Moment) (b : Bookmark)

theorem accepts_ask (s : Selector) :
    (QueryForm.ofQuery s.ask).accepts moment b = .ok (s.selects b) := by
  cases s with
  | field f named value =>
    have one := FieldTerms.named_put named value.text
    rw [ask, QueryForm.accepts_of_given rfl (by simpa [one] using value.ne_nil) (by simp), one]
    simp [selects]
  | term word =>
    have some_text : word.text.isEmpty = false := by simpa using word.ne_nil
    rw [ask, QueryForm.accepts_of_given rfl (by simp) (by simp)]
    simp [selects, some_text]

theorem selects_iff (s : Selector) : s.selects b = true ↔
    (∃ p ∈ s.bar.excluded.named, b.hasIn p.1 p.2 = true) ∨
      ∃ w ∈ s.bar.noneOf, b.mentions w = true := by
  cases s with
  | field f named value => simp [selects, bar, FieldTerms.named_put named]
  | term word => simp [selects, bar]

theorem accepts_bars (selectors : List Selector) :
    (QueryForm.ofQuery (bars selectors)).accepts moment b =
      .ok (!(counting selectors).any (·.selects b)) := by
  have given : ∀ p ∈ (bars selectors).excluded.named, p.2.toList ≠ [] := by
    rintro ⟨f, v⟩ mem
    obtain ⟨s, _, barred⟩ := mem_excluded_bars.1 mem
    obtain ⟨_, value, _, rfl⟩ := mem_excluded_bar.1 barred
    exact value.ne_nil
  have any_bars : (((bars selectors).excluded.named.any fun p => b.hasIn p.1 p.2) ||
      (bars selectors).noneOf.any b.mentions) = (counting selectors).any (·.selects b) := by
    rw [Bool.eq_iff_iff, Bool.or_eq_true, List.any_eq_true, List.any_eq_true, List.any_eq_true]
    simp only [selects_iff, mem_noneOf_bars, Prod.exists, mem_excluded_bars]
    grind
  obtain ⟨text, required, allOf, anyOf, created⟩ := bars_frame selectors
  rw [QueryForm.accepts_of_given created (by simp [required]) given, text, required, allOf, anyOf,
    ← any_bars, Bool.not_or]
  simp

/-- Clauses behind NOT keep exactly the bookmarks that no clause that counts selects by itself. -/
theorem accepts_barAll (selectors : List Selector) :
    let verdict (text : String) := (QueryForm.ofQuery (parse text).1).accepts moment b
    (∀ s ∈ selectors, ∃ selected, verdict s.text = .ok selected) ∧
      ∃ kept, verdict (barAll selectors) = .ok kept ∧
        (kept = true ↔ ∀ s ∈ counting selectors, verdict s.text ≠ .ok true) := by
  intro verdict
  have alone (s : Selector) : verdict s.text = .ok (s.selects b) := by
    simp only [verdict, parse_text, accepts_ask]
  have whole : verdict (barAll selectors) = .ok (!(counting selectors).any (·.selects b)) := by
    simp only [verdict, parse_barAll, accepts_bars]
  exact ⟨fun s _ => ⟨_, alone s⟩, _, whole, by simp [alone]⟩

/-- Of two titles only the later one is barred. -/
theorem accepts_barAll_two_titles :
    let first : QuotedValue := ⟨"a", by decide, isSpaced_of_no_blank (by simp; decide), by decide⟩
    let later : QuotedValue := ⟨"b", by decide, isSpaced_of_no_blank (by simp; decide), by decide⟩
    let selectors := [Selector.field .title nofun first, .field .title nofun later]
    let b : Bookmark :=
      { id := "1", title := "A", timestamp := .zero, filepath := "", createdAt := "",
        description := none, tags := [] }
    let verdict (text : String) :=
      (QueryForm.ofQuery (parse text).1).accepts ⟨0, ⟨.first, none⟩⟩ b
    ¬ (verdict (barAll selectors) = .ok true ↔ ∀ s ∈ selectors, verdict s.text ≠ .ok true) := by
  decide +kernel

end Selector

end Bookmarks
