import Bookmarks.Finder
import Bookmarks.Proofs.Finder.Accept
import Bookmarks.Proofs.Query.Demand
import Bookmarks.Proofs.Query.Seam

/-! Narrowing a search. A clause that asks for more, typed behind a query, leaves all that the query
asked for as it was: what is found then was found before, in the same order. -/

namespace Bookmarks

open Verdict (Narrows narrows_ok)

namespace QueryForm

theorem ofQuery_demands (query : Query) (d : Demands) : ofQuery (query ++ d.query) =
    { ofQuery query with
      required := .ofTerms { query.required with tags := query.required.tags ++ d.tags }
      excluded := .ofTerms { query.excluded with tags := query.excluded.tags ++ d.barredTags }
      allOf := .arr ((query.allOf ++ d.terms).map .str)
      noneOf := .arr ((query.noneOf ++ d.barredTerms).map .str) } := by
  simp [Query.append_eq, FieldTerms.append_eq, Demands.query, ofQuery]

/-- Demands only add to what is asked of tags and of terms that must all stand or must not. -/
theorem narrows_demands (query : Query) (d : Demands) (moment : Moment) (b : Bookmark) :
    Narrows ((ofQuery (query ++ d.query)).accepts moment b)
      ((ofQuery query).accepts moment b) := by
  obtain ⟨required, allHold⟩ := TermsForm.allHold_tags b query.required
  obtain ⟨excluded, anyHolds⟩ := TermsForm.anyHolds_tags b query.excluded
  rw [ofQuery_demands]
  unfold accepts
  refine .and ?required (.and (.refl _) (.and ?excluded (.and ?noneOf (.and ?allOf (.refl _)))))
  case required =>
    simp only [ofQuery, allHold]
    exact narrows_ok (by simp +contextual)
  case excluded =>
    simp only [ofQuery, anyHolds, Verdict.not_ok]
    exact narrows_ok (by simp +contextual)
  case noneOf =>
    simp only [ofQuery, anyOn_strs, Verdict.not_ok]
    exact narrows_ok (by simp +contextual)
  case allOf =>
    simp only [ofQuery, allOn_strs]
    exact narrows_ok (by simp +contextual)

end QueryForm

/-- A narrower query finds a part of what was found. -/
theorem SettingsForm.exists_filter_of_narrows {s : SettingsForm} {moment : Moment}
    {query narrower : QueryForm}
    (h : ∀ b, Narrows (narrower.accepts moment b) (query.accepts moment b))
    {bs found : List Bookmark} (filtered : s.filter (some query) moment bs = .ok found) :
    ∃ narrowed, s.filter (some narrower) moment bs = .ok narrowed ∧ narrowed.Sublist found := by
  obtain ⟨kept, first, filtered⟩ := exists_of_bind filtered
  obtain ⟨required, tags, filtered⟩ := exists_of_bind filtered
  have narrow (b : Bookmark) :
      Narrows (s.passesQuery (some narrower) moment b) (s.passesQuery (some query) moment b) := h b
  obtain ⟨fewer, kept', part⟩ := Narrows.exists_keep narrow (List.Sublist.refl bs) first
  have part := (part.filter s.passesFile).filter (passesTags required)
  obtain ⟨narrowed, last, part⟩ := Narrows.exists_keep (fun b => .refl _) part filtered
  exact ⟨narrowed, by rw [filter, bind_of_ok kept', bind_of_ok tags, last], part⟩

/-- A refinement behind a text only adds what it demands. -/
theorem Refinement.parse_behind (r : Refinement) {text : String}
    (whole : ¬ Query.EndsInOperator (Text.tidy text.toList))
    (left : ¬ Query.EndsInOperator (Query.parse text).1.text.toList) :
    (Query.parse (text ++ " " ++ r.text)).1 = (Query.parse text).1 ++ r.demands.query := by
  have unquoted : '"' ∉ Text.tidy r.text.toList := fun mem =>
    r.no_quote (Query.mem_of_mem_tidy mem (by decide))
  have both := Query.parseTidy_joined (Text.isTidy_tidy _) (.inr unquoted) whole left
  rw [← Query.parse_space, ← Query.parse, ← Query.parse, r.parse_text] at both
  rw [both]

/-- With a refinement behind it a search text finds a part of what it found without. -/
theorem exists_filter_refined {text : String}
    (whole : ¬ Query.EndsInOperator (Text.tidy text.toList))
    (left : ¬ Query.EndsInOperator (Query.parse text).1.text.toList) (r : Refinement)
    {s : SettingsForm} {moment : Moment} {bs found : List Bookmark}
    (filtered : s.filter (some (.ofQuery (Query.parse text).1)) moment bs = .ok found) :
    ∃ narrowed, s.filter (some (.ofQuery (Query.parse (text ++ " " ++ r.text)).1)) moment bs =
      .ok narrowed ∧ narrowed.Sublist found := by
  rw [r.parse_behind whole left]
  exact SettingsForm.exists_filter_of_narrows
    (fun b => QueryForm.narrows_demands _ r.demands moment b) filtered

/-- A barred tag behind a quote, a word that looks like an operator, and free text. -/
theorem exists_filter_refined_barred :
    let text := "NOT title:\"x y\" tag:w  meet xAND, "
    let r := Refinement.notTag ⟨"don", by decide, by simp; decide, by decide⟩
    let bookmark (id title : String) (tags : List String) : Bookmark :=
      { id, title, timestamp := .zero, filepath := "", createdAt := "", description := none, tags }
    let bs := [bookmark "1" "Meet xand, done" ["Work"], bookmark "2" "MEET XAND, y" ["w", "Done"]]
    ¬ Query.EndsInOperator (Text.tidy text.toList) ∧
      ¬ Query.EndsInOperator (Query.parse text).1.text.toList ∧
      SettingsForm.filter {} (some (.ofQuery (Query.parse text).1)) ⟨0, ⟨.first, none⟩⟩ bs =
        .ok bs ∧
      ∃ narrowed, SettingsForm.filter {} (some (.ofQuery (Query.parse (text ++ " " ++ r.text)).1))
        ⟨0, ⟨.first, none⟩⟩ bs = .ok narrowed ∧ narrowed.Sublist bs := by
  intro text r bookmark bs
  have whole : ¬ Query.EndsInOperator (Text.tidy text.toList) := by decide +kernel
  have left : ¬ Query.EndsInOperator (Query.parse text).1.text.toList := by decide +kernel
  have filtered : SettingsForm.filter {} (some (.ofQuery (Query.parse text).1))
      ⟨0, ⟨.first, none⟩⟩ bs = .ok bs := by decide +kernel
  exact ⟨whole, left, filtered, exists_filter_refined whole left r filtered⟩

end Bookmarks
