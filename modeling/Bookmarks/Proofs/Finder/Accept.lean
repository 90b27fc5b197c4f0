import Bookmarks.Match
import Bookmarks.Proofs.Outcome

/-! When a query that was typed comes to a verdict on a bookmark. All its terms are texts, so only a
shortcut can stand in the way, one that reaches back to before the first day that there is. -/

namespace Bookmarks

namespace Shortcut

/-- How far a shortcut reaches back from now, apart from the beginning of a day or a month. -/
def reach : Shortcut → Nat
  | yesterday => dayMicros
  | thisWeek => 7 * dayMicros
  | today | thisMonth => 0

theorem exists_shift_iff {i : Instant} {micros : Nat} :
    (∃ j, i.shift? (-micros) = some j) ↔ micros ≤ i.micros := by
  have bound := i.inRange
  unfold Instant.shift? Instant.ofMicros?
  split
  · next inside =>
    simp only [Option.some.injEq, exists_eq', true_iff]
    omega
  · next outside =>
    simp only [reduceCtorEq, exists_false, false_iff]
    omega

theorem exists_window_iff {now : Instant} {shortcut : Shortcut} :
    (∃ window, shortcut.window now = .ok window) ↔ shortcut.reach ≤ now.micros := by
  cases shortcut with
  | today => exact ⟨fun _ => Nat.zero_le _, fun _ => ⟨_, rfl⟩⟩
  | thisMonth => exact ⟨fun _ => Nat.zero_le _, fun _ => ⟨_, rfl⟩⟩
  | yesterday =>
    have sameDay : dayMicros ≤ now.startOfDay.micros ↔ dayMicros ≤ now.micros := by
      simp only [Instant.startOfDay, dayMicros]
      omega
    rw [reach, ← sameDay, ← exists_shift_iff, window]
    cases now.startOfDay.shift? (-dayMicros) <;> simp
  | thisWeek =>
    rw [reach, ← exists_shift_iff, window]
    cases now.shift? (-(7 * dayMicros : Nat)) <;> simp

theorem ofName?_symbol (c : Comparison) : ofName? (String.singleton c.symbol) = none := by
  cases c <;> decide

end Shortcut

section Typed

variable (b : Bookmark) (test : String → Bool) (texts : List String)

theorem verdictsOn_strs :
    verdictsOn (.arr (texts.map .str)) test = .ok ((texts.map test).map .ok) := by
  rw [verdictsOn, Json.parts]
  show Except.ok ((texts.map Json.str).map fun term => term.text.map test) = _
  rw [List.map_map, List.map_map]
  rfl

theorem allOn_strs : Verdict.allOn (.arr (texts.map .str)) test = .ok (texts.all test) := by
  rw [Verdict.allOn, verdictsOn_strs]
  show Verdict.all ((texts.map test).map .ok) = _
  rw [Verdict.all_ok, List.all_map]
  rfl

theorem anyOn_strs : Verdict.anyOn (.arr (texts.map .str)) test = .ok (texts.any test) := by
  rw [Verdict.anyOn, verdictsOn_strs]
  show Verdict.any ((texts.map test).map .ok) = _
  rw [Verdict.any_ok, List.any_map]
  rfl

namespace TermsForm

theorem exists_verdictOn (term : Option String) (absent : Bool) :
    ∃ v, verdictOn (.ofText? term) absent test = .ok v := by
  unfold verdictOn
  split
  · exact ⟨absent, rfl⟩
  · cases term with
    | none => contradiction
    | some text => exact ⟨test text, rfl⟩

variable (terms : FieldTerms)

/-- Of terms the tags come last. -/
theorem allHold_tags : ∃ others, ∀ tags, (ofTerms { terms with tags }).allHold b =
    .ok (others && tags.all b.hasTagLike) := by
  have ⟨title, h₁⟩ := exists_verdictOn (containsTerm b.title) terms.title true
  have ⟨description, h₂⟩ :=
    exists_verdictOn (containsTerm b.descriptionText) terms.description true
  have ⟨filepath, h₃⟩ := exists_verdictOn (containsTerm b.filepath) terms.filepath true
  refine ⟨title && (description && filepath), fun tags => ?_⟩
  simp only [allHold, ofTerms, h₁, h₂, h₃, allOn_strs, Verdict.and_ok, Bool.and_assoc]

theorem anyHolds_tags : ∃ others, ∀ tags, (ofTerms { terms with tags }).anyHolds b =
    .ok (others || tags.any b.hasTagLike) := by
  have ⟨title, h₁⟩ := exists_verdictOn (containsTerm b.title) terms.title false
  have ⟨description, h₂⟩ :=
    exists_verdictOn (containsTerm b.descriptionText) terms.description false
  have ⟨filepath, h₃⟩ := exists_verdictOn (containsTerm b.filepath) terms.filepath false
  refine ⟨title || (description || filepath), fun tags => ?_⟩
  simp only [anyHolds, ofTerms, h₁, h₂, h₃, anyOn_strs, Verdict.or_ok, Bool.or_assoc]

theorem exists_allHold : ∃ v, (ofTerms terms).allHold b = .ok v :=
  have ⟨_, h⟩ := allHold_tags b terms
  ⟨_, h terms.tags⟩

theorem exists_anyHolds : ∃ v, (ofTerms terms).anyHolds b = .ok v :=
  have ⟨_, h⟩ := anyHolds_tags b terms
  ⟨_, h terms.tags⟩

end TermsForm

namespace QueryForm

variable (query : Query) (zone : Int) (now : Instant)

/-- A clock without an offset shows local time. -/
theorem exists_acceptsDate_iff :
    (∃ v, (ofQuery query).acceptsDate ⟨zone, ⟨now, none⟩⟩ b = .ok v) ↔
      ∀ shortcut, query.created = some (.within shortcut) → shortcut.reach ≤ now.micros := by
  unfold acceptsDate ofQuery
  cases query.created with
  | none => simp
  | some condition =>
    cases condition with
    | within shortcut =>
      have named : (DateFilter.ofCondition (.within shortcut)).shortcut? = some shortcut :=
        Shortcut.ofName?_name shortcut
      simp only [Option.map_some, DateFilter.accepts, Stamp.local?, DateFilter.acceptsAt, named,
        Option.some.injEq, DateCondition.within.injEq, forall_eq']
      rw [← Shortcut.exists_window_iff]
      cases shortcut.window now <;> simp [Except.map]
    | compared comparison bound =>
      have unnamed : (DateFilter.ofCondition (.compared comparison bound)).shortcut? = none :=
        Shortcut.ofName?_symbol comparison
      simp only [Option.map_some, DateFilter.accepts, Stamp.local?, DateFilter.acceptsAt, unnamed]
      refine ⟨fun _ => nofun, fun _ => ?_⟩
      split
      · exact ⟨_, rfl⟩
      · split <;> exact ⟨_, rfl⟩

/-- There is a verdict on a bookmark unless its date is looked at and there is none on that. -/
theorem exists_accepts_iff :
    (∃ v, (ofQuery query).accepts ⟨zone, ⟨now, none⟩⟩ b = .ok v) ↔
      ((TermsForm.ofTerms query.required).allHold b = .ok true →
        ∀ shortcut, query.created = some (.within shortcut) → shortcut.reach ≤ now.micros) := by
  have ⟨required, h₁⟩ := TermsForm.exists_allHold b query.required
  have ⟨excluded, h₂⟩ := TermsForm.exists_anyHolds b query.excluded
  have ⟨anyOf, h₃⟩ : ∃ v, (if (ofQuery query).anyOf.isVoid then .ok true
      else Verdict.anyOn (ofQuery query).anyOf b.mentions) = .ok v := by
    split
    · exact ⟨true, rfl⟩
    · exact ⟨_, anyOn_strs _ _⟩
  have ⟨text, h₄⟩ : ∃ v, (if (ofQuery query).text.isVoid then .ok true
      else b.mentionsValue (ofQuery query).text) = .ok v := by
    split <;> exact ⟨_, rfl⟩
  have noneOf : Verdict.anyOn (ofQuery query).noneOf b.mentions =
      .ok (query.noneOf.any b.mentions) :=
    anyOn_strs _ _
  have allOf : Verdict.allOn (ofQuery query).allOf b.mentions = .ok (query.allOf.all b.mentions) :=
    allOn_strs _ _
  have first : (ofQuery query).required.allHold b = .ok required := h₁
  have second : (ofQuery query).excluded.anyHolds b = .ok excluded := h₂
  rw [← exists_acceptsDate_iff b query zone now, accepts, h₃, h₄, noneOf, allOf, second, h₁, first]
  simp only [Verdict.not_ok, Verdict.and_ok, Verdict.exists_and_iff]
  simp

end QueryForm

end Typed

end Bookmarks
