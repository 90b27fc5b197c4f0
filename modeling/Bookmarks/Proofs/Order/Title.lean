import Bookmarks.Order
import Bookmarks.Proofs.Text.Swap

/-! Titles that differ in the case of one letter. Small letters should come before capital ones, and
so they do where the capital letter has the smaller code point, as it has in most scripts; where it
has the greater one the capital letter comes first. Only equal titles are level. -/

namespace Bookmarks

theorem compare_char_eq_lt {c d : Char} : compare c d = .lt ↔ c < d := compareOfLessAndEq_eq_lt

theorem compare_char_eq_gt {c d : Char} : compare c d = .gt ↔ d < c := by
  rw [Std.OrientedOrd.eq_swap, Ordering.swap_eq_gt, compare_char_eq_lt]

/-- The first place in which two texts differ decides. -/
theorem compare_append_cons {c d : Char} (other : c ≠ d) (front s t : List Char) :
    compare (front ++ c :: s) (front ++ d :: t) = compare c d := by
  induction front with
  | nil =>
    have decided : compare c d ≠ .eq := fun level => other (Std.LawfulEqOrd.eq_of_compare level)
    rw [List.nil_append, List.nil_append, List.compare_cons_cons]
    cases order : compare c d with
    | eq => exact absurd order decided
    | lt => rfl
    | gt => rfl
  | cons e front ih =>
    rw [List.cons_append, List.cons_append, List.compare_cons_cons, Std.compare_self, ih]
    rfl

namespace Text.CasePair

variable {small capital : Char}

/-- In swapped case the text with the small letter has the capital one, and the order of the two
letters decides. -/
theorem compare_swapCase (pair : CasePair small capital) (front rest : List Char) :
    compare (swapCase (front ++ small :: rest)) (swapCase (front ++ capital :: rest)) =
      compare capital small := by
  obtain ⟨swapped, c, others, of_small, of_capital, which⟩ := pair.exists_swapFrom false front rest
  rw [swapCase, swapCase, of_small, of_capital]
  rcases which with rfl | ⟨rfl, rfl⟩
  · exact compare_append_cons pair.capital_ne swapped others others
  · -- both small sigmas come after the capital one
    have usual : small = 'σ' := (List.head_eq_of_cons_eq pair.lower_capital).symm
    rw [compare_append_cons (by decide) swapped others others, usual]
    decide

end Text.CasePair

variable (zone : Int)

theorem SortKey.order_title_eq_eq {f s t f' s' t' : List Char}
    (level : (SortKey.title f s t).order (.title f' s' t') = .eq) : t = t' := by
  simp only [SortKey.order, Ordering.then_eq_eq] at level
  exact Std.LawfulEqOrd.eq_of_compare level.2.2

theorem compareField_title_eq_eq (direction : Direction) (a b : Bookmark) :
    compareField zone .title direction a b = .eq ↔ a.title = b.title := by
  have level_iff : (a.sortKey zone .title).order (b.sortKey zone .title) = .eq ↔
      a.title = b.title := by
    constructor
    · exact fun level => String.toList_injective (SortKey.order_title_eq_eq level)
    · intro same
      simp only [Bookmark.sortKey, same, SortKey.order, Std.compare_self, Ordering.eq_then]
  cases direction with
  | ascending => exact level_iff
  | descending => exact Ordering.swap_eq_eq.trans level_iff

variable {zone}

theorem compareField_title_pair {small capital : Char} (pair : Text.CasePair small capital)
    (folds : Text.fold [small] = Text.fold [capital]) {front rest : List Char} {a b : Bookmark}
    (has_small : a.title.toList = front ++ small :: rest)
    (has_capital : b.title.toList = front ++ capital :: rest) :
    compareField zone .title .ascending a b = compare capital small := by
  have same_fold : Text.fold a.title.toList = Text.fold b.title.toList := by
    have parts (c : Char) : Text.fold (front ++ c :: rest) =
        Text.fold front ++ (Text.fold [c] ++ Text.fold rest) := by
      rw [Text.fold_append, ← Text.fold_append [c], List.singleton_append]
    rw [has_small, has_capital, parts, parts, folds]
  have decided : compare capital small ≠ .eq := fun level =>
    pair.capital_ne (Std.LawfulEqOrd.eq_of_compare level)
  have swapped : compare (Text.swapCase a.title.toList) (Text.swapCase b.title.toList) =
      compare capital small := by
    rw [has_small, has_capital]
    exact pair.compare_swapCase front rest
  have order : compareField zone .title .ascending a b =
      (compare capital small).then (compare a.title.toList b.title.toList) := by
    simp only [compareField, Bookmark.sortKey, SortKey.order, same_fold, Std.compare_self, swapped,
      Ordering.eq_then]
  rw [order]
  cases decision : compare capital small with
  | eq => exact absurd decision decided
  | lt => rfl
  | gt => rfl

variable (zone)

/-- Of two titles that differ in the case of one letter, wherever it stands, the one with the small
letter comes first just if the capital letter has the smaller code point, and last if it has the
greater one. Titles are level only if they are equal. -/
theorem title_order :
    (∀ (small capital : Char), Text.CasePair small capital →
      Text.fold [small] = Text.fold [capital] → ∀ (front rest : List Char) (a b : Bookmark),
        a.title.toList = front ++ small :: rest → b.title.toList = front ++ capital :: rest →
        (compareField zone .title .ascending a b = .lt ↔ capital < small) ∧
        (compareField zone .title .ascending a b = .gt ↔ small < capital)) ∧
    ∀ (direction : Direction) (a b : Bookmark),
      compareField zone .title direction a b = .eq ↔ a.title = b.title := by
  refine ⟨?_, compareField_title_eq_eq zone⟩
  intro small capital pair folds front rest a b has_small has_capital
  rw [compareField_title_pair pair folds has_small has_capital]
  exact ⟨compare_char_eq_lt, compare_char_eq_gt⟩

/-- A capital sigma that ends a word, where swapping the case gives the other small sigma, and a
letter whose capital comes later. -/
theorem title_order_last_sigma :
    let titled (title : String) : Bookmark := ⟨"", title, .zero, "", "", none, []⟩
    (Text.CasePair 'σ' 'Σ' ∧ Text.fold ['σ'] = Text.fold ['Σ'] ∧
      Text.swapCase "κόσμοΣ".toList = "ΚΌΣΜΟς".toList ∧
      compareField 0 .title .ascending (titled "κόσμοσ") (titled "κόσμοΣ") = .lt) ∧
    (Text.CasePair 'ÿ' 'Ÿ' ∧ Text.fold ['ÿ'] = Text.fold ['Ÿ'] ∧
      compareField 0 .title .ascending (titled "ÿ") (titled "Ÿ") = .gt) ∧
    compareField 0 .title .descending (titled "ÿ") (titled "Ÿ") ≠ .eq := by
  intro titled
  obtain ⟨ordered, level⟩ := title_order 0
  have sigmas : Text.CasePair 'σ' 'Σ' := ⟨by decide +kernel, by decide +kernel, by decide⟩
  have sigmas_fold : Text.fold ['σ'] = Text.fold ['Σ'] := by decide +kernel
  have letters : Text.CasePair 'ÿ' 'Ÿ' := ⟨by decide +kernel, by decide +kernel, by decide⟩
  have letters_fold : Text.fold ['ÿ'] = Text.fold ['Ÿ'] := by decide +kernel
  refine ⟨⟨sigmas, sigmas_fold, by decide +kernel, ?_⟩, ⟨letters, letters_fold, ?_⟩, ?_⟩
  · exact (ordered 'σ' 'Σ' sigmas sigmas_fold "κόσμο".toList [] _ _ (by decide) (by decide)).1.2
      (by decide)
  · exact (ordered 'ÿ' 'Ÿ' letters letters_fold [] [] _ _ (by decide) (by decide)).2.2 (by decide)
  · exact fun same => absurd ((level .descending _ _).1 same) (by decide)

/-- The capital letter of this pair was encoded later than the small one. -/
theorem not_small_first : ¬ ∀ (small capital : Char), Text.CasePair small capital →
    Text.fold [small] = Text.fold [capital] → ∀ (front rest : List Char) (a b : Bookmark),
      a.title.toList = front ++ small :: rest → b.title.toList = front ++ capital :: rest →
      compareField 0 .title .ascending a b = .lt := by
  intro all
  have first := all 'ÿ' 'Ÿ' ⟨by decide +kernel, by decide +kernel, by decide⟩ (by decide +kernel)
    [] [] ⟨"", "ÿ", .zero, "", "", none, []⟩ ⟨"", "Ÿ", .zero, "", "", none, []⟩ (by decide)
    (by decide)
  revert first
  decide +kernel

end Bookmarks
