import Bookmarks.Json.Reader
import Bookmarks.Json.Writer
import Bookmarks.Proofs.Number.Digits
import Mathlib.Data.List.TakeDrop

/-! Numbers are read back as they were written. What follows a number must not go on with it; the
digits of a double are laid out in four ways, each of which is read as the same decimal. -/

namespace Bookmarks

open Literal (isAsciiDigit natOf)

namespace Json

/-- What may follow a number: neither a digit nor a point nor an exponent. -/
def StopsNumber (rest : List Char) : Prop :=
  ∀ c ∈ rest.head?, isAsciiDigit c = false ∧ c ≠ '.' ∧ c ≠ 'e' ∧ c ≠ 'E'

theorem span_digits {digits rest : List Char} (h : ∀ c ∈ digits, isAsciiDigit c = true)
    (stop : ∀ c ∈ rest.head?, isAsciiDigit c = false) :
    (digits ++ rest).span isAsciiDigit = (digits, rest) := by
  have none : rest.takeWhile isAsciiDigit = [] ∧ rest.dropWhile isAsciiDigit = rest := by
    cases rest with
    | nil => exact ⟨rfl, rfl⟩
    | cons c rest =>
      have := stop c rfl
      simp [this]
  rw [List.span_eq_takeWhile_dropWhile, List.takeWhile_append_of_pos h,
    List.dropWhile_append_of_pos h, none.1, none.2, List.append_nil]

theorem splitWhole_append {digits rest : List Char} (h : Double.IsLeading digits)
    (stop : ∀ c ∈ rest.head?, isAsciiDigit c = false) :
    splitWhole (digits ++ rest) = (digits, rest) := by
  unfold splitWhole
  split
  · next tail same =>
    have head : (digits ++ rest).head? = digits.head? :=
      List.head?_append_of_ne_nil digits h.ne_nil
    rw [same] at head
    exact absurd head.symm h.head
  · exact span_digits h.areDigits stop

theorem splitPlaces_append {digits rest : List Char} (h : ∀ c ∈ digits, isAsciiDigit c = true)
    (nonempty : digits ≠ []) (stop : ∀ c ∈ rest.head?, isAsciiDigit c = false) :
    splitPlaces ('.' :: (digits ++ rest)) = (digits, rest) := by
  simp only [splitPlaces, span_digits h stop]
  simp [nonempty]

theorem splitPlaces_of_ne {rest : List Char} (h : ∀ c ∈ rest.head?, c ≠ '.') :
    splitPlaces rest = ([], rest) := by
  unfold splitPlaces
  split
  · exact absurd rfl (h '.' rfl)
  · rfl

theorem splitExponent_of_ne {rest : List Char} (h : ∀ c ∈ rest.head?, c ≠ 'e' ∧ c ≠ 'E') :
    splitExponent rest = (none, rest) := by
  cases rest with
  | nil => rfl
  | cons c rest =>
    have := h c rfl
    simp [splitExponent, this]

theorem splitExponent_append (exponent : Int) {rest : List Char}
    (stop : ∀ c ∈ rest.head?, isAsciiDigit c = false) :
    splitExponent ('e' :: (Double.exponentText exponent ++ rest)) = (some exponent, rest) := by
  let zeros := List.replicate (2 - (Nat.toDigits 10 exponent.natAbs).length) '0'
  have digits : ∀ c ∈ zeros ++ Nat.toDigits 10 exponent.natAbs, isAsciiDigit c = true := by
    intro c h
    cases List.mem_append.1 h with
    | inl h => exact Literal.isAsciiDigit_zeros _ c h
    | inr h => exact Literal.isAsciiDigit_toDigits _ c h
  have value : natOf (zeros ++ Nat.toDigits 10 exponent.natAbs) = exponent.natAbs := by
    rw [Literal.natOf_zeros_append, Literal.natOf_toDigits]
  have found := span_digits digits stop
  have nonempty : (zeros ++ Nat.toDigits 10 exponent.natAbs).isEmpty = false := by simp
  by_cases negative : exponent < 0
  · have text : Double.exponentText exponent =
        '-' :: (zeros ++ Nat.toDigits 10 exponent.natAbs) := by
      simp [Double.exponentText, negative, zeros]
    have size : -(exponent.natAbs : Int) = exponent := by omega
    simp only [text, splitExponent, Literal.splitSign, List.cons_append, found, nonempty, value,
      true_or, if_true, size]
    rfl
  · have text : Double.exponentText exponent =
        '+' :: (zeros ++ Nat.toDigits 10 exponent.natAbs) := by
      simp [Double.exponentText, negative, zeros]
    have size : (exponent.natAbs : Int) = exponent := by omega
    simp only [text, splitExponent, Literal.splitSign, List.cons_append, found, nonempty, value,
      true_or, if_true, size]
    rfl

theorem StopsNumber.not_digit {rest : List Char} (stop : StopsNumber rest) :
    ∀ c ∈ rest.head?, isAsciiDigit c = false := fun c h => (stop c h).1

theorem StopsNumber.not_point {rest : List Char} (stop : StopsNumber rest) :
    ∀ c ∈ rest.head?, c ≠ '.' := fun c h => (stop c h).2.1

theorem StopsNumber.not_exponent {rest : List Char} (stop : StopsNumber rest) :
    ∀ c ∈ rest.head?, c ≠ 'e' ∧ c ≠ 'E' := fun c h => (stop c h).2.2

variable (limits : Limits) (negative : Bool) {rest : List Char}

theorem readMagnitude_whole {n : Nat} (fits : (Nat.toDigits 10 n).length ≤ limits.digits)
    (stop : StopsNumber rest) :
    readMagnitude limits negative (Nat.toDigits 10 n ++ rest) =
      .ok (int (if negative then -n else n), rest) := by
  have whole : splitWhole (Nat.toDigits 10 n ++ rest) = (Nat.toDigits 10 n, rest) := by
    by_cases zero : n = 0
    · rw [zero, Nat.toDigits_zero]
      rfl
    · apply splitWhole_append _ stop.not_digit
      exact ⟨Literal.isAsciiDigit_toDigits n, Nat.toDigits_ne_nil,
        Literal.head_toDigits (Nat.pos_of_ne_zero zero)⟩
  simp only [readMagnitude, whole, splitPlaces_of_ne stop.not_point,
    splitExponent_of_ne stop.not_exponent, Literal.natOf_toDigits]
  simp [Nat.not_lt.2 fits]

theorem readMagnitude_places (whole places : List Char)
    (left : splitWhole (whole ++ '.' :: (places ++ rest)) = (whole, '.' :: (places ++ rest)))
    (nonempty : whole ≠ []) (areDigits : ∀ c ∈ places, isAsciiDigit c = true)
    (some_place : places ≠ []) (stop : StopsNumber rest) :
    readMagnitude limits negative (whole ++ '.' :: (places ++ rest)) =
      .ok (double (.ofDecimal negative (natOf (whole ++ places)) (-places.length)), rest) := by
  simp only [readMagnitude, left, splitPlaces_append areDigits some_place stop.not_digit,
    splitExponent_of_ne stop.not_exponent]
  simp [nonempty, some_place]

theorem readMagnitude_exponent (whole places middle : List Char) (point : Int)
    (left : splitWhole (whole ++ (middle ++ 'e' :: (Double.exponentText point ++ rest))) =
      (whole, middle ++ 'e' :: (Double.exponentText point ++ rest)))
    (right : splitPlaces (middle ++ 'e' :: (Double.exponentText point ++ rest)) =
      (places, 'e' :: (Double.exponentText point ++ rest)))
    (nonempty : whole ≠ []) (stop : StopsNumber rest) :
    readMagnitude limits negative
      (whole ++ (middle ++ 'e' :: (Double.exponentText point ++ rest))) =
      .ok (double (.ofDecimal negative (natOf (whole ++ places)) (point - places.length)),
        rest) := by
  simp only [readMagnitude, left, right, splitExponent_append point stop.not_digit]
  simp [nonempty]

theorem not_digit_point {rest : List Char} : ∀ c ∈ ('.' :: rest).head?, isAsciiDigit c = false := by
  intro c h
  rw [← Option.some.inj h]
  decide

theorem not_digit_exponent {rest : List Char} :
    ∀ c ∈ ('e' :: rest).head?, isAsciiDigit c = false := by
  intro c h
  rw [← Option.some.inj h]
  decide

variable {digits : List Char} (h : Double.IsLeading digits) (stop : StopsNumber rest)

include h stop

/-- Zeros and then all digits behind the point. -/
theorem readMagnitude_zeros_digits (k : Nat) :
    readMagnitude limits negative ('0' :: '.' :: (List.replicate k '0' ++ digits) ++ rest) =
      .ok (double (.ofDecimal negative (natOf digits) (-(k + digits.length))), rest) := by
  have areDigits : ∀ c ∈ List.replicate k '0' ++ digits, isAsciiDigit c = true := by
    intro c hc
    cases List.mem_append.1 hc with
    | inl hc => exact Literal.isAsciiDigit_zeros k c hc
    | inr hc => exact h.areDigits c hc
  have found := readMagnitude_places limits negative ['0'] (List.replicate k '0' ++ digits) rfl
    (by simp) areDigits (by simp [h.ne_nil]) stop
  have value : natOf (['0'] ++ (List.replicate k '0' ++ digits)) = natOf digits :=
    Literal.natOf_zeros_append (k + 1) digits
  rw [value, List.length_append, List.length_replicate, Int.natCast_add] at found
  exact found

/-- All digits and then zeros before the point. -/
theorem readMagnitude_digits_zeros (k : Nat) :
    readMagnitude limits negative (digits ++ List.replicate k '0' ++ ['.', '0'] ++ rest) =
      .ok (double (.ofDecimal negative (natOf digits) k), rest) := by
  have whole : Double.IsLeading (digits ++ List.replicate k '0') := by
    refine ⟨?_, by simp [h.ne_nil], ?_⟩
    · intro c hc
      cases List.mem_append.1 hc with
      | inl hc => exact h.areDigits c hc
      | inr hc => exact Literal.isAsciiDigit_zeros k c hc
    · rw [List.head?_append_of_ne_nil _ h.ne_nil]
      exact h.head
  have left : splitWhole (digits ++ List.replicate k '0' ++ '.' :: (['0'] ++ rest)) =
      (digits ++ List.replicate k '0', '.' :: (['0'] ++ rest)) :=
    splitWhole_append whole not_digit_point
  have found := readMagnitude_places limits negative _ ['0'] left whole.ne_nil
    (Literal.isAsciiDigit_zeros 1) (by simp) stop
  have value : natOf (digits ++ List.replicate k '0' ++ ['0']) = natOf digits * 10 ^ (k + 1) := by
    rw [List.append_assoc, ← List.replicate_succ', Literal.natOf_append_zeros]
  have rank := Double.decimalRank_mul_pow (natOf digits) k (k + 1)
  have same := Double.ofDecimal_congr negative rank
  have exponent : (k : Int) - (k + 1 : Nat) = -(['0'] : List Char).length := by
    rw [List.length_singleton]
    omega
  rw [value, ← exponent, same] at found
  rw [List.append_assoc (digits ++ List.replicate k '0')]
  exact found

/-- The point between two digits. -/
theorem readMagnitude_digits_point {k : Nat} (some_whole : 0 < k) (less : k < digits.length) :
    readMagnitude limits negative (digits.take k ++ '.' :: digits.drop k ++ rest) =
      .ok (double (.ofDecimal negative (natOf digits) (k - digits.length)), rest) := by
  have nonempty : digits.take k ≠ [] := by
    rw [Ne, List.take_eq_nil_iff]
    simp [h.ne_nil]
    omega
  have parted : digits.take k ++ digits.drop k = digits := List.take_append_drop k digits
  have whole : Double.IsLeading (digits.take k) := by
    refine ⟨fun c hc => h.areDigits c (List.mem_of_mem_take hc), nonempty, ?_⟩
    have head := h.head
    rwa [← parted, List.head?_append_of_ne_nil _ nonempty] at head
  have left : splitWhole (digits.take k ++ '.' :: (digits.drop k ++ rest)) =
      (digits.take k, '.' :: (digits.drop k ++ rest)) := splitWhole_append whole not_digit_point
  have found := readMagnitude_places limits negative _ _ left nonempty
    (fun c hc => h.areDigits c (List.mem_of_mem_drop hc)) (by simpa using less) stop
  have exponent : -((digits.drop k).length : Int) = k - digits.length := by
    rw [List.length_drop]
    omega
  rw [parted, exponent] at found
  rw [List.append_assoc, List.cons_append]
  exact found

/-- The point behind the first digit, if another follows, and an exponent. -/
theorem readMagnitude_scientific (point : Int) (text : List Char)
    (laid : ∀ d others, digits = d :: others → text = d ::
      ((if others = [] then [] else '.' :: others) ++ 'e' :: Double.exponentText point)) :
    readMagnitude limits negative (text ++ rest) =
      .ok (double (.ofDecimal negative (natOf digits) (point + 1 - digits.length)), rest) := by
  cases digits with
  | nil => exact absurd rfl h.ne_nil
  | cons d others =>
    have whole : Double.IsLeading [d] := by
      refine ⟨fun c hc => h.areDigits c ?_, by simp, h.head⟩
      rw [List.mem_singleton.1 hc]
      exact List.mem_cons_self
    rw [laid d others rfl]
    let middle := if others = [] then [] else '.' :: others
    have left : splitWhole ([d] ++ (middle ++ 'e' :: (Double.exponentText point ++ rest))) =
        ([d], middle ++ 'e' :: (Double.exponentText point ++ rest)) := by
      apply splitWhole_append whole
      by_cases lone : others = []
      · simp [middle, lone, isAsciiDigit, Text.asciiDigit?]
      · simp [middle, lone, isAsciiDigit, Text.asciiDigit?]
    have right : splitPlaces (middle ++ 'e' :: (Double.exponentText point ++ rest)) =
        (others, 'e' :: (Double.exponentText point ++ rest)) := by
      by_cases lone : others = []
      · simp [middle, lone, splitPlaces]
      · simp only [middle, lone, if_false, List.cons_append]
        exact splitPlaces_append (fun c hc => h.areDigits c (List.mem_cons_of_mem d hc)) lone
          not_digit_exponent
    have found := readMagnitude_exponent limits negative [d] others middle point left right
      (by simp) stop
    have exponent : point + 1 - (d :: others).length = point - others.length := by
      rw [List.length_cons]
      omega
    rw [exponent]
    simpa [middle] using found

/-- Laid-out digits are read as the decimal that they stand for. -/
theorem readMagnitude_layOut (point : Int) :
    readMagnitude limits negative (Double.layOut digits point ++ rest) =
      .ok (double (.ofDecimal negative (natOf digits) (point + 1 - digits.length)), rest) := by
  have size : 0 < digits.length := List.length_pos_of_ne_nil h.ne_nil
  unfold Double.layOut
  by_cases near : -4 ≤ point ∧ point < 16
  · rw [if_pos near]
    by_cases small : point < 0
    · rw [if_pos small, readMagnitude_zeros_digits limits negative h stop]
      have exponent : -(((-point - 1).toNat : Int) + digits.length) =
          point + 1 - digits.length := by omega
      rw [exponent]
    · rw [if_neg small]
      simp only
      by_cases short : digits.length ≤ point.toNat + 1
      · rw [if_pos short, readMagnitude_digits_zeros limits negative h stop]
        have exponent : ((point.toNat + 1 - digits.length : Nat) : Int) =
            point + 1 - digits.length := by omega
        rw [exponent]
      · rw [if_neg short, readMagnitude_digits_point limits negative h stop (by omega) (by omega)]
        have exponent : ((point.toNat + 1 : Nat) : Int) - digits.length =
            point + 1 - digits.length := by omega
        rw [exponent]
  · rw [if_neg near]
    apply readMagnitude_scientific limits negative h stop
    intro d others parts
    rw [parts]
    cases others <;> simp

omit h stop in
theorem readScalar_digit {c : Char} (digit : isAsciiDigit c = true) (s : List Char) :
    readScalar limits (c :: s) = readMagnitude limits false (c :: s) := by
  unfold readScalar
  split <;> first | rfl | (next same => cases same; exact absurd digit (by decide))

omit h stop in
theorem readScalar_minus {c : Char} (digit : isAsciiDigit c = true) (s : List Char) :
    readScalar limits ('-' :: c :: s) = readMagnitude limits true (c :: s) := by
  rw [readScalar]
  intro t same
  cases same
  exact absurd digit (by decide)

omit h stop in
/-- A number without its sign is read with it. -/
theorem readScalar_sign {s : List Char} (digit : ∃ c t, s = c :: t ∧ isAsciiDigit c = true) :
    readScalar limits ((if negative then ['-'] else []) ++ s) =
      readMagnitude limits negative s := by
  have ⟨c, t, same, digit⟩ := digit
  rw [same]
  cases negative with
  | false => exact readScalar_digit limits digit t
  | true => exact readScalar_minus limits digit t

omit h stop in
theorem exists_digit_append {s : List Char} (nonempty : s ≠ [])
    (areDigits : ∀ c ∈ s, isAsciiDigit c = true) (rest : List Char) :
    ∃ c t, s ++ rest = c :: t ∧ isAsciiDigit c = true := by
  cases s with
  | nil => exact absurd rfl nonempty
  | cons c s => exact ⟨c, s ++ rest, rfl, areDigits c List.mem_cons_self⟩

omit h in
theorem readScalar_intText {i : Int} (fits : (Nat.toDigits 10 i.natAbs).length ≤ limits.digits) :
    readScalar limits (intText i ++ rest) = .ok (int i, rest) := by
  have digit := exists_digit_append Nat.toDigits_ne_nil
    (Literal.isAsciiDigit_toDigits i.natAbs) rest
  have text : intText i ++ rest =
      (if decide (i < 0) then ['-'] else []) ++ (Nat.toDigits 10 i.natAbs ++ rest) := by
    by_cases negative : i < 0 <;> simp [intText, negative]
  have value : (if decide (i < 0) then -(i.natAbs : Int) else i.natAbs) = i := by
    by_cases negative : i < 0
    · rw [if_pos (decide_eq_true negative)]
      omega
    · rw [if_neg (by simpa using negative)]
      omega
  rw [text, readScalar_sign limits _ digit, readMagnitude_whole limits _ fits stop, value]

omit h in
theorem readMagnitude_decimalText {decimal : Nat × Int} (pos : 0 < decimal.1) :
    readMagnitude limits negative (Double.decimalText decimal ++ rest) =
      .ok (double (.ofDecimal negative decimal.1 decimal.2), rest) := by
  have leading := Double.isLeading_leadingForm pos decimal.2
  have same := Double.ofDecimal_congr negative (Double.decimalRank_leadingForm decimal.1 decimal.2)
  rw [Double.decimalText, readMagnitude_layOut limits negative leading stop, same]

omit h in
theorem readMagnitude_magnitudeText {rank : Nat} (finite : rank < infinityRank)
    (bounded : rank ≤ infinityRank) :
    readMagnitude limits negative (Double.magnitudeText rank ++ rest) =
      .ok (double (.ranked negative rank bounded), rest) := by
  by_cases zero : rank = 0
  · have found := readMagnitude_places limits negative ['0'] ['0'] rfl (by simp)
      (Literal.isAsciiDigit_zeros 1) (by simp) stop
    rw [Double.magnitudeText, if_pos zero]
    simpa [zero, Double.ofDecimal, Double.decimalRank, natOf] using found
  · have pos : 0 < rank := Nat.pos_of_ne_zero zero
    have back := Double.decimalRank_shortest pos finite
    rw [Double.magnitudeText, if_neg zero,
      readMagnitude_decimalText limits negative stop (Double.shortest_pos pos finite)]
    simp only [Double.ofDecimal, back]

omit stop in
theorem exists_digit_layOut (point : Int) (rest : List Char) :
    ∃ c t, Double.layOut digits point ++ rest = c :: t ∧ isAsciiDigit c = true := by
  cases digits with
  | nil => exact absurd rfl h.ne_nil
  | cons d others =>
    have digit : isAsciiDigit d = true := h.areDigits d List.mem_cons_self
    have zero : isAsciiDigit '0' = true := by decide
    unfold Double.layOut
    split
    · split
      · exact ⟨'0', _, rfl, zero⟩
      · simp only
        split
        · exact ⟨d, _, rfl, digit⟩
        · exact ⟨d, _, rfl, digit⟩
    · cases others with
      | nil => exact ⟨d, _, rfl, digit⟩
      | cons e others => exact ⟨d, _, rfl, digit⟩

omit h stop in
theorem exists_digit_magnitudeText {rank : Nat} (finite : rank < infinityRank)
    (rest : List Char) :
    ∃ c t, Double.magnitudeText rank ++ rest = c :: t ∧ isAsciiDigit c = true := by
  rw [Double.magnitudeText]
  split
  · exact ⟨'0', _, rfl, by decide⟩
  · next nonzero =>
    apply exists_digit_layOut
    exact Double.isLeading_leadingForm (Double.shortest_pos (Nat.pos_of_ne_zero nonzero) finite) _

omit h in
theorem readScalar_doubleText (d : Double) :
    readScalar limits (doubleText d ++ rest) = .ok (double d, rest) := by
  cases d with
  | nan => rfl
  | ranked negative rank bounded =>
    by_cases finite : rank < infinityRank
    · have text : doubleText (.ranked negative rank bounded) ++ rest =
          (if negative then ['-'] else []) ++ (Double.magnitudeText rank ++ rest) := by
        simp [doubleText, Double.text, finite]
      rw [text, readScalar_sign limits _ (exists_digit_magnitudeText finite rest),
        readMagnitude_magnitudeText limits negative stop finite bounded]
    · have infinite : rank = infinityRank := by omega
      subst infinite
      cases negative <;> simp [doubleText, Double.text, readScalar, Double.infinity]

end Json

end Bookmarks
