import Bookmarks.Proofs.Outcome
import Bookmarks.Proofs.Entries
import Bookmarks.Proofs.Json.RoundTrip

/-! What is read from a text is within the limits: no whole number has too many digits, and no array
or object lies too deep. It can therefore be written again. -/

namespace Bookmarks

namespace Json

theorem fitsLimit_iff {i : Int} : fitsLimit i = true ↔ i.natAbs < 10 ^ digitLimit := by
  rw [fitsLimit, decide_eq_true_iff, Nat.length_toDigits_le_iff (by decide) (by decide)]

theorem fitsLimit_signed {n : Nat} (few : n < 10 ^ digitLimit) (negative : Bool) :
    fitsLimit (if negative then -(n : Int) else n) = true := by
  rw [fitsLimit_iff]
  cases negative <;> simpa using few

/-- Whether a value is within the limits for what is read. -/
structure IsWithin (depth : Nat) (value : Json) : Prop where
  isWritable : value.isWritable = true
  depth_le : value.depth ≤ depth

theorem IsWithin.of_scalar {value : Json} (writable : value.isWritable = true)
    (flat : value.depth = 0) (depth : Nat) : value.IsWithin depth :=
  ⟨writable, flat ▸ Nat.zero_le depth⟩

section Read

variable {limits : Limits} {value : Json} {s rest : List Char}

theorem areDigits_splitWhole (s : List Char) :
    ∀ c ∈ (splitWhole s).1, Literal.isAsciiDigit c = true := by
  intro c hc
  unfold splitWhole at hc
  split at hc
  · rw [List.mem_singleton.1 hc]
    decide
  · rw [List.span_eq_takeWhile_dropWhile] at hc
    exact List.mem_takeWhile_imp hc

theorem isWithin_readMagnitude (digits : limits.digits ≤ digitLimit) {negative : Bool}
    (h : readMagnitude limits negative s = .ok (value, rest)) : value.IsWithin limits.depth := by
  simp only [readMagnitude] at h
  split at h
  · cases h
  · split at h
    · split at h
      · cases h
      · next short =>
        cases h
        apply IsWithin.of_scalar _ rfl
        apply fitsLimit_signed
        have value := Literal.natOf_lt (areDigits_splitWhole s)
        refine Nat.lt_of_lt_of_le value (Nat.pow_le_pow_right (by decide) ?_)
        omega
    · cases h
      exact .of_scalar rfl rfl _

theorem isWithin_readScalar (digits : limits.digits ≤ digitLimit)
    (h : readScalar limits s = .ok (value, rest)) : value.IsWithin limits.depth := by
  unfold readScalar at h
  split at h
  case h_7 => exact isWithin_readMagnitude digits h
  case h_8 => exact isWithin_readMagnitude digits h
  all_goals
    cases h
    exact .of_scalar rfl rfl _

end Read

theorem isWithin_arr {items : List Json} {depth : Nat} (all : ∀ x ∈ items, x.IsWithin depth) :
    (arr items).IsWithin (depth + 1) where
  isWritable := areWritable_iff.2 fun x hx => (all x hx).isWritable
  depth_le := Nat.succ_le_succ (itemsDepth_le.2 fun x hx => (all x hx).depth_le)

theorem isWithin_obj {fields : Fields} {depth : Nat} (all : ∀ f ∈ fields, f.2.IsWithin depth) :
    (obj fields).IsWithin (depth + 1) where
  isWritable := areWritableFields_iff.2 fun f hf => (all f hf).isWritable
  depth_le := Nat.succ_le_succ (fieldsDepth_le.2 fun f hf => (all f hf).depth_le)

theorem inside_cases {limits inner : Limits} (h : limits.inside = .ok inner) :
    inner.digits = limits.digits ∧ limits.depth = inner.depth + 1 := by
  unfold Limits.inside at h
  split at h
  · cases h
  · next more =>
    cases h
    exact ⟨rfl, by simp only; omega⟩

/-- Whether a property of values, which may depend on how deep they may be, holds of the texts and
scalars that are read, and of arrays and objects when it holds of what stands in them. -/
structure IsReadable (P : Nat → Json → Prop) : Prop where
  text : ∀ (depth : Nat) (s : String), P depth (str s)
  scalar : ∀ {limits : Limits} {s rest : List Char} {value : Json}, limits.digits ≤ digitLimit →
    readScalar limits s = .ok (value, rest) → P limits.depth value
  arr : ∀ {depth : Nat} {items : List Json}, (∀ x ∈ items, P depth x) → P (depth + 1) (arr items)
  obj : ∀ {depth : Nat} {fields : List (String × Json)}, (∀ f ∈ fields, P depth f.2) →
    P (depth + 1) (obj (Entries.ofPairs fields))

/-- What is read with some fuel has a property. -/
structure ReadsAs (P : Nat → Json → Prop) (fuel : Nat) : Prop where
  value : ∀ {limits : Limits} {s rest : List Char} {value : Json}, limits.digits ≤ digitLimit →
    readValue limits fuel s = .ok (value, rest) → P limits.depth value
  items : ∀ {limits : Limits} {s rest : List Char} {items : List Json},
    limits.digits ≤ digitLimit → readItems limits fuel s = .ok (items, rest) →
      ∀ x ∈ items, P limits.depth x
  fields : ∀ {limits : Limits} {s rest : List Char} {fields : List (String × Json)},
    limits.digits ≤ digitLimit → readFields limits fuel s = .ok (fields, rest) →
      ∀ f ∈ fields, P limits.depth f.2

namespace ReadsAs

variable {P : Nat → Json → Prop} {fuel : Nat} {limits : Limits} {s rest : List Char}

theorem value_succ (readable : IsReadable P) (reads : ReadsAs P fuel) {value : Json}
    (digits : limits.digits ≤ digitLimit)
    (h : readValue limits (fuel + 1) s = .ok (value, rest)) : P limits.depth value := by
  unfold readValue at h
  split at h
  · -- a text
    cases text : readText _ with
    | error damage =>
      rw [text] at h
      cases h
    | ok found =>
      rw [text] at h
      cases h
      exact readable.text _ _
  · -- an array
    obtain ⟨inner, inside, h⟩ := exists_of_bind h
    obtain ⟨same, deeper⟩ := inside_cases inside
    rw [deeper]
    split at h
    · cases h
      exact readable.arr (List.forall_mem_nil _)
    · obtain ⟨⟨items, after⟩, all, h⟩ := exists_of_bind h
      cases h
      exact readable.arr (reads.items (same ▸ digits) all)
  · -- an object
    obtain ⟨inner, inside, h⟩ := exists_of_bind h
    obtain ⟨same, deeper⟩ := inside_cases inside
    rw [deeper]
    split at h
    · cases h
      exact readable.obj (List.forall_mem_nil _)
    · obtain ⟨⟨fields, after⟩, all, h⟩ := exists_of_bind h
      cases h
      exact readable.obj (reads.fields (same ▸ digits) all)
  · exact readable.scalar digits h

theorem items_succ (reads : ReadsAs P fuel) {items : List Json}
    (digits : limits.digits ≤ digitLimit)
    (h : readItems limits (fuel + 1) s = .ok (items, rest)) : ∀ x ∈ items, P limits.depth x := by
  unfold readItems at h
  obtain ⟨⟨item, after⟩, first, h⟩ := exists_of_bind h
  have head := reads.value digits first
  simp only at h
  split at h
  · obtain ⟨⟨others, after⟩, more, h⟩ := exists_of_bind h
    cases h
    exact List.forall_mem_cons.2 ⟨head, reads.items digits more⟩
  · cases h
    simpa using head
  · cases h

theorem fields_succ (reads : ReadsAs P fuel) {fields : List (String × Json)}
    (digits : limits.digits ≤ digitLimit)
    (h : readFields limits (fuel + 1) s = .ok (fields, rest)) :
    ∀ f ∈ fields, P limits.depth f.2 := by
  unfold readFields at h
  split at h
  · obtain ⟨⟨key, after⟩, _, h⟩ := exists_of_bind h
    simp only at h
    split at h
    · obtain ⟨⟨value, after⟩, first, h⟩ := exists_of_bind h
      have head := reads.value digits first
      simp only at h
      split at h
      · obtain ⟨⟨others, after⟩, more, h⟩ := exists_of_bind h
        cases h
        exact List.forall_mem_cons.2 ⟨head, reads.fields digits more⟩
      · cases h
        simpa using head
      · cases h
    · cases h
  · cases h

end ReadsAs

namespace IsReadable

variable {P : Nat → Json → Prop} (readable : IsReadable P)

include readable

theorem readsAs (fuel : Nat) : ReadsAs P fuel := by
  induction fuel with
  | zero =>
    refine ⟨?_, ?_, ?_⟩
    all_goals
      intros
      contradiction
  | succ fuel ih => exact ⟨ih.value_succ readable, ih.items_succ, ih.fields_succ⟩

/-- What a whole text holds has the property, however deep the reader goes. -/
theorem of_read {depth : Nat} {s : List Char} {value : Json}
    (h : read ⟨digitLimit, depth⟩ s = .ok value) : P depth value := by
  have ⟨⟨found, rest⟩, whole, h⟩ := exists_of_bind h
  have holds := (readable.readsAs _).value (Nat.le_refl _) whole
  simp only at h
  split at h
  · cases h
    exact holds
  · cases h

end IsReadable

theorem isReadable_isWithin : IsReadable fun depth value => value.IsWithin depth where
  text depth _ := .of_scalar rfl rfl depth
  scalar digits h := isWithin_readScalar digits h
  arr all := isWithin_arr all
  obj all := isWithin_obj fun f hf => all f (Entries.mem_ofPairs hf)

theorem isWithin_decode {text : String} {value : Json} (h : decode text = .ok value) :
    value.IsWithin depthLimit := isReadable_isWithin.of_read h

theorem isProper_readScalar {limits : Limits} {s rest : List Char} {value : Json}
    (h : readScalar limits s = .ok (value, rest)) : value.isProper = true := by
  have magnitude : ∀ (negative : Bool) (s : List Char),
      readMagnitude limits negative s = .ok (value, rest) → value.isProper = true := by
    intro negative s h
    simp only [readMagnitude] at h
    split at h
    · cases h
    · split at h
      · split at h
        · cases h
        · cases h
          rfl
      · cases h
        rfl
  unfold readScalar at h
  split at h
  case h_7 => exact magnitude _ _ h
  case h_8 => exact magnitude _ _ h
  all_goals
    cases h
    rfl

/-- What is read has no key twice in any object. -/
theorem isReadable_isProper : IsReadable fun _ value => value.isProper = true where
  text _ s := isProper_str s
  scalar _ h := isProper_readScalar h
  arr all := isProper_arr.2 all
  obj all := isProper_obj.2
    ⟨Entries.nodup_ofPairs _, fun f hf => all f (Entries.mem_ofPairs hf)⟩

/-- A whole number with too many digits is no value, although each digit alone is one. -/
theorem decode_long {digits : List Char} (leading : Double.IsLeading digits)
    (long : digitLimit < digits.length) :
    decode (String.ofList digits) = .error .longNumber := by
  have first : ∃ c t, digits = c :: t ∧ Literal.isAsciiDigit c = true := by
    obtain ⟨c, t, same⟩ := List.exists_cons_of_ne_nil leading.ne_nil
    exact ⟨c, t, same, leading.areDigits c (by rw [same]; exact List.mem_cons_self)⟩
  have starts := startsScalar_of_digit first
  have shown : skipSpace digits = digits := by
    obtain ⟨c, t, same, space, _⟩ := starts.startsValue
    rw [same, skipSpace_cons space]
  have whole : splitWhole digits = (digits, []) := by
    have : splitWhole (digits ++ []) = (digits, []) := splitWhole_append leading (by simp)
    rwa [List.append_nil] at this
  have places : splitPlaces [] = ([], []) := rfl
  have exponent : splitExponent [] = (none, []) := rfl
  have magnitude : readMagnitude .standard false digits = .error .longNumber := by
    simp only [readMagnitude, whole, places, exponent]
    simp [leading.ne_nil, Limits.standard, long]
  have scalar : readScalar .standard digits = .error .longNumber := by
    obtain ⟨c, t, same, digit⟩ := first
    rw [same, readScalar_digit _ digit, ← same]
    exact magnitude
  rw [decode, String.toList_ofList, read, shown, readValue_scalar _ _ starts, scalar]
  rfl

end Json

end Bookmarks
