import Bookmarks.Text.Case
import Bookmarks.Proofs.Text.Table

/-! Small letters and the capital ones that belong to them, in swapped case. Both count alike for the
letters around them, so swapping the case of two texts that differ in such a letter alone gives two
texts that differ in that place alone: there the letters have changed places. -/

namespace Bookmarks.Text

/-- The small letter has the capital one as its uppercase, and is the lowercase of it. -/
structure CasePair (small capital : Char) : Prop where
  upper_small : upper [small] = [capital]
  lower_capital : lower [capital] = [small]
  capital_ne : capital ≠ small

/-! ### What the tables say about the letters of a pair -/

theorem uppercase_characters : uppercaseShifts.arrivesIn characters = true := by decide +kernel

theorem lowercase_characters : lowercaseShifts.arrivesIn characters = true := by decide +kernel

theorem lowercase_arrives_cased : lowercaseShifts.arrivesIn casedRanges = true := by decide +kernel

theorem lowercase_starts_cased : lowercaseShifts.startsIn casedRanges = true := by decide +kernel

theorem cased_not_passed_over : casedRanges.apart caseIgnorableRanges = true := by decide +kernel

theorem lowercase_settles : lowercaseShifts.settles = true := by decide +kernel

theorem uppercase_not_titlecase : uppercaseShifts.avoids titlecaseRanges = true := by
  decide +kernel

theorem lowercase_not_titlecase : lowercaseShifts.avoids titlecaseRanges = true := by
  decide +kernel

theorem lowerAt_sigma (before : Bool) (rest : List Char) :
    lowerAt before rest 'Σ' = ['σ'] ∨ lowerAt before rest 'Σ' = ['ς'] := by
  rw [lowerAt, if_pos rfl]
  split
  · exact .inr rfl
  · exact .inl rfl

theorem lowerAt_of_ne_sigma {c : Char} (h : c ≠ 'Σ') (before : Bool) (rest : List Char) :
    lowerAt before rest c = imageOf lowercaseSegments lowercaseShifts c := if_neg h

theorem startsCased_cons (c : Char) (s : List Char) :
    startsCased (c :: s) = if isPassedOver c then startsCased s else isCased c := by
  cases passed : isPassedOver c <;> simp [startsCased, passed]

namespace CasePair

variable {small capital : Char} (pair : CasePair small capital)

include pair

/-- The uppercase of the small letter is found among the shifts. -/
theorem uppercase_image : uppercaseShifts.image? small.toNat = some capital.toNat := by
  have long : uppercaseSegments.areLonger = true := by decide +kernel
  have image : imageOf uppercaseSegments uppercaseShifts small = [capital] := by
    simpa [upper, upperChar] using pair.upper_small
  obtain ⟨n, carried, rfl⟩ := image?_of_imageOf long pair.capital_ne image
  rw [carried, toNat_ofNat (Shifts.has_of_arrivesIn uppercase_characters carried)]

theorem lowerAt_capital : lowerAt false [] capital = [small] := by
  simpa only [lower, lowerFrom, List.append_nil] using pair.lower_capital

/-- The lowercase of the capital letter is found among the shifts. -/
theorem lowercase_image : lowercaseShifts.image? capital.toNat = some small.toNat := by
  have long : lowercaseSegments.areLonger = true := by decide +kernel
  have image : imageOf lowercaseSegments lowercaseShifts capital = [small] := by
    have alone := pair.lowerAt_capital
    by_cases sigma : capital = 'Σ'
    · have same : imageOf lowercaseSegments lowercaseShifts 'Σ' = ['σ'] := by decide +kernel
      rw [sigma] at alone ⊢
      exact same.trans alone
    · rwa [lowerAt_of_ne_sigma sigma] at alone
  obtain ⟨n, carried, rfl⟩ := image?_of_imageOf long pair.capital_ne.symm image
  rw [carried, toNat_ofNat (Shifts.has_of_arrivesIn lowercase_characters carried)]

theorem isCased_small : isCased small = true :=
  Shifts.has_of_arrivesIn lowercase_arrives_cased pair.lowercase_image

theorem isCased_capital : isCased capital = true :=
  Shifts.has_of_startsIn lowercase_starts_cased pair.lowercase_image

theorem isPassedOver_small : isPassedOver small = false :=
  Ranges.has_of_apart cased_not_passed_over pair.isCased_small

theorem isPassedOver_capital : isPassedOver capital = false :=
  Ranges.has_of_apart cased_not_passed_over pair.isCased_capital

theorem isTitlecase_small : isTitlecase small = false :=
  Shifts.has_of_avoids lowercase_not_titlecase pair.lowercase_image

theorem isTitlecase_capital : isTitlecase capital = false :=
  Shifts.has_of_avoids uppercase_not_titlecase pair.uppercase_image

/-- A small letter of a pair is its own lowercase. -/
theorem lowerAt_small (before : Bool) (rest : List Char) : lowerAt before rest small = [small] := by
  have settled : lowercaseShifts.image? small.toNat = none :=
    Shifts.image?_of_settles lowercase_settles pair.lowercase_image
  have no_sigma : small ≠ 'Σ' := by
    rintro rfl
    revert settled
    decide +kernel
  have no_longer : lowercaseSegments.image? small.toNat = none := by
    rw [Option.eq_none_iff_forall_ne_some]
    intro image found
    obtain ⟨first, images, mem, low, place⟩ := Segments.image?_eq_some found
    -- the one letter with a longer lowercase is no small letter of a pair
    obtain ⟨rfl, rfl⟩ := Prod.mk.inj (List.mem_singleton.1 mem)
    have only : small.toNat - 0x130 < 1 := (List.getElem?_eq_some_iff.1 place).1
    have same : small.toNat = 0x130 := by omega
    have carried := pair.uppercase_image
    rw [same] at carried
    have uncarried : uppercaseShifts.image? 0x130 = none := by decide +kernel
    cases uncarried.symm.trans carried
  rw [lowerAt_of_ne_sigma no_sigma, imageOf, no_longer, settled]

/-! ### Swapping the case of a text with a letter of a pair -/

theorem swapAt_small (before : Bool) (rest : List Char) :
    swapAt before rest small = [capital] := by
  rw [swapAt, pair.isTitlecase_small, if_neg Bool.false_ne_true, if_pos (pair.lowerAt_small _ _)]
  simpa [upper] using pair.upper_small

/-- The capital sigma alone may become a letter that is not the small one of its pair. -/
theorem exists_swapAt_capital (before : Bool) (rest : List Char) :
    ∃ c, swapAt before rest capital = [c] ∧ (c = small ∨ capital = 'Σ' ∧ c = 'ς') := by
  have alone := pair.lowerAt_capital
  have lowered : ∃ c, lowerAt before rest capital = [c] ∧
      (c = small ∨ capital = 'Σ' ∧ c = 'ς') := by
    by_cases sigma : capital = 'Σ'
    · have usual : 'σ' = small := by
        rw [sigma] at alone
        exact List.head_eq_of_cons_eq alone
      rw [sigma]
      rcases lowerAt_sigma before rest with is | is
      · exact ⟨'σ', is, .inl usual⟩
      · exact ⟨'ς', is, .inr ⟨rfl, rfl⟩⟩
    · exact ⟨small, by rwa [lowerAt_of_ne_sigma sigma] at alone ⊢, .inl rfl⟩
  obtain ⟨c, becomes, which⟩ := lowered
  have other : c ≠ capital := by
    rcases which with rfl | ⟨rfl, rfl⟩
    · exact pair.capital_ne.symm
    · decide
  refine ⟨c, ?_, which⟩
  rw [swapAt, pair.isTitlecase_capital, if_neg Bool.false_ne_true, becomes,
    if_neg fun same => other (List.head_eq_of_cons_eq same)]

theorem casedAfter_small (before : Bool) : casedAfter before small = true := by
  rw [casedAfter, pair.isPassedOver_small]
  exact pair.isCased_small

theorem casedAfter_capital (before : Bool) : casedAfter before capital = true := by
  rw [casedAfter, pair.isPassedOver_capital]
  exact pair.isCased_capital

theorem startsCased_append (front rest : List Char) :
    startsCased (front ++ small :: rest) = startsCased (front ++ capital :: rest) := by
  induction front with
  | nil =>
    simp only [List.nil_append, startsCased_cons, pair.isPassedOver_small,
      pair.isPassedOver_capital, pair.isCased_small, pair.isCased_capital]
  | cons c front ih => simp only [List.cons_append, startsCased_cons, ih]

theorem swapAt_append (before : Bool) (front rest : List Char) (c : Char) :
    swapAt before (front ++ small :: rest) c = swapAt before (front ++ capital :: rest) c := by
  have lowered : lowerAt before (front ++ small :: rest) c =
      lowerAt before (front ++ capital :: rest) c := by
    rw [lowerAt, pair.startsCased_append, lowerAt]
  rw [swapAt, lowered, swapAt]

/-- The texts differ in one place, in swapped case as before. -/
theorem exists_swapFrom (before : Bool) (front rest : List Char) :
    ∃ swapped c others, swapFrom before (front ++ small :: rest) = swapped ++ capital :: others ∧
      swapFrom before (front ++ capital :: rest) = swapped ++ c :: others ∧
      (c = small ∨ capital = 'Σ' ∧ c = 'ς') := by
  induction front generalizing before with
  | nil =>
    obtain ⟨c, becomes, which⟩ := pair.exists_swapAt_capital before rest
    refine ⟨[], c, swapFrom true rest, ?_, ?_, which⟩
    · rw [List.nil_append, swapFrom, pair.swapAt_small, pair.casedAfter_small]
      rfl
    · rw [List.nil_append, swapFrom, becomes, pair.casedAfter_capital]
      rfl
  | cons d front ih =>
    obtain ⟨swapped, c, others, of_small, of_capital, which⟩ := ih (casedAfter before d)
    refine ⟨swapAt before (front ++ small :: rest) d ++ swapped, c, others, ?_, ?_, which⟩
    · rw [List.cons_append, swapFrom, of_small, List.append_assoc]
    · rw [List.cons_append, swapFrom, of_capital, List.append_assoc, pair.swapAt_append]

end CasePair

end Bookmarks.Text
