import Bookmarks.Proofs.Entries
import Bookmarks.Proofs.Json.Number
import Bookmarks.Proofs.Json.Text
import Bookmarks.Proofs.Json.Value

/-! A proper value that was written is read back as it. -/

namespace Bookmarks.Json

open Literal (isAsciiDigit)

theorem skipSpace_cons {c : Char} (h : isSpace c = false) (s : List Char) :
    skipSpace (c :: s) = c :: s := by
  simp [skipSpace, h]

theorem skipSpace_space (s : List Char) : skipSpace (' ' :: s) = skipSpace s := rfl

theorem stopsNumber_nil : StopsNumber [] := by
  intro c h
  cases h

theorem stopsNumber_of_mem {c : Char} (h : c ∈ [',', ']', '}']) (s : List Char) :
    StopsNumber (c :: s) := by
  have stops : ∀ d ∈ [',', ']', '}'], isAsciiDigit d = false ∧ d ≠ '.' ∧ d ≠ 'e' ∧ d ≠ 'E' := by
    simp only [List.forall_mem_cons]
    exact ⟨by decide, by decide, by decide, fun d h => absurd h List.not_mem_nil⟩
  intro d same
  rw [← Option.some.inj same]
  exact stops c h

theorem stopsNumber_writeItems (items : List Json) (rest : List Char) :
    StopsNumber (writeItems items ++ rest) := by
  cases items <;> exact stopsNumber_of_mem (by decide) _

theorem stopsNumber_writeFields (fields : List (String × Json)) (rest : List Char) :
    StopsNumber (writeFields fields ++ rest) := by
  cases fields <;> exact stopsNumber_of_mem (by decide) _

/-- What a number or a name begins with. -/
def isScalarStart (c : Char) : Bool := isAsciiDigit c || ['-', 'N', 'I', 'n', 't', 'f'].contains c

theorem ne_of_isScalarStart {c : Char} (h : isScalarStart c = true) :
    ∀ d ∈ [' ', '\t', '\n', '\r', '"', '[', ']', '{', '}'], c ≠ d := by
  have others : [' ', '\t', '\n', '\r', '"', '[', ']', '{', '}'].all (!isScalarStart ·) = true := by
    decide
  intro d member same
  have other := List.all_eq_true.1 others d member
  rw [← same, h] at other
  cases other

def StartsScalar (s : List Char) : Prop := ∃ c t, s = c :: t ∧ isScalarStart c = true

theorem startsScalar_of_digit {s : List Char} (h : ∃ c t, s = c :: t ∧ isAsciiDigit c = true) :
    StartsScalar s := by
  have ⟨c, t, same, digit⟩ := h
  exact ⟨c, t, same, by simp [isScalarStart, digit]⟩

theorem StartsScalar.append {s : List Char} (h : StartsScalar s) (rest : List Char) :
    StartsScalar (s ++ rest) := by
  have ⟨c, t, same, start⟩ := h
  exact ⟨c, t ++ rest, by rw [same]; rfl, start⟩

theorem startsScalar_intText (i : Int) : StartsScalar (intText i) := by
  unfold intText
  split
  · exact ⟨'-', _, rfl, by decide⟩
  · have digit := exists_digit_append Nat.toDigits_ne_nil
      (Literal.isAsciiDigit_toDigits i.natAbs) []
    rw [List.append_nil] at digit
    exact startsScalar_of_digit digit

theorem startsScalar_doubleText (d : Double) : StartsScalar (doubleText d) := by
  cases d with
  | nan => exact ⟨'N', _, rfl, by decide⟩
  | ranked negative rank bounded =>
    unfold doubleText Double.text
    cases negative with
    | true => exact ⟨'-', _, rfl, by decide⟩
    | false =>
      show StartsScalar (if rank < infinityRank then Double.magnitudeText rank else _)
      split
      · next finite =>
        have digit := exists_digit_magnitudeText finite []
        rw [List.append_nil] at digit
        exact startsScalar_of_digit digit
      · exact ⟨'I', _, rfl, by decide⟩

/-- What a written value begins with: no space, and nothing that closes. -/
def StartsValue (s : List Char) : Prop :=
  ∃ c t, s = c :: t ∧ isSpace c = false ∧ c ≠ ']' ∧ c ≠ '}'

theorem StartsScalar.startsValue {s : List Char} (h : StartsScalar s) : StartsValue s := by
  have ⟨c, t, same, start⟩ := h
  have ne := ne_of_isScalarStart start
  refine ⟨c, t, same, ?_, ne ']' (by decide), ne '}' (by decide)⟩
  simp [isSpace, ne ' ', ne '\t', ne '\n', ne '\r']

theorem startsValue_write (v : Json) : StartsValue v.write := by
  cases v with
  | null => exact ⟨'n', _, rfl, by decide⟩
  | bool b => cases b <;> exact ⟨_, _, rfl, by decide⟩
  | int i => exact (startsScalar_intText i).startsValue
  | double d => exact (startsScalar_doubleText d).startsValue
  | str s => exact ⟨'"', _, rfl, by decide⟩
  | arr items => cases items <;> exact ⟨'[', _, rfl, by decide⟩
  | obj fields => cases fields <;> exact ⟨'{', _, rfl, by decide⟩

theorem length_write_pos (v : Json) : 0 < v.write.length := by
  have ⟨c, t, same, _⟩ := startsValue_write v
  rw [same]
  exact Nat.succ_pos _

theorem skipSpace_write (v : Json) (rest : List Char) :
    skipSpace (v.write ++ rest) = v.write ++ rest := by
  have ⟨c, t, same, space, _⟩ := startsValue_write v
  rw [same, List.cons_append, skipSpace_cons space]

theorem readValue_scalar (limits : Limits) (fuel : Nat) {s : List Char} (h : StartsScalar s) :
    readValue limits (fuel + 1) s = readScalar limits s := by
  have ⟨c, t, same, start⟩ := h
  have ne := ne_of_isScalarStart start
  rw [same, readValue]
  · intro rest same
    exact ne '"' (by decide) (List.cons.inj same).1
  · intro rest same
    exact ne '[' (by decide) (List.cons.inj same).1
  · intro rest same
    exact ne '{' (by decide) (List.cons.inj same).1

/-- Whether a written value is read as it, with fuel for two steps a character. -/
def ReadsBack (v : Json) : Prop :=
  ∀ limits fuel rest, limits.digits = digitLimit → v.depth ≤ limits.depth →
    2 * v.write.length ≤ fuel → StopsNumber rest →
    readValue limits fuel (v.write ++ rest) = .ok (v, rest)

theorem readsBack_of_scalar {v : Json} (starts : StartsScalar v.write)
    (reads : ∀ limits rest, limits.digits = digitLimit → StopsNumber rest →
      readScalar limits (v.write ++ rest) = .ok (v, rest)) : ReadsBack v := by
  intro limits fuel rest digits depth enough stop
  have pos := length_write_pos v
  cases fuel with
  | zero => omega
  | succ fuel =>
    rw [readValue_scalar limits fuel (starts.append rest)]
    exact reads limits rest digits stop

theorem readsBack_str (s : String) : ReadsBack (str s) := by
  intro limits fuel rest digits depth enough stop
  have pos := length_write_pos (str s)
  have text : (str s).write ++ rest = '"' :: (s.toList.flatMap escapeChar ++ '"' :: rest) := by
    simp [write, quote]
  cases fuel with
  | zero => omega
  | succ fuel =>
    rw [text, readValue, readText_quote]
    rfl

variable {limits : Limits} (digits : limits.digits = digitLimit) (rest : List Char)

include digits

theorem readItems_write {x : Json} {items : List Json} (back : ∀ y ∈ x :: items, ReadsBack y)
    (depth : ∀ y ∈ x :: items, y.depth ≤ limits.depth) {fuel : Nat}
    (enough : 2 * (x.write ++ writeItems items).length < fuel) :
    readItems limits fuel (x.write ++ (writeItems items ++ rest)) = .ok (x :: items, rest) := by
  induction items generalizing x fuel with
  | nil =>
    cases fuel with
    | zero => omega
    | succ fuel =>
      have first := back x (by simp) limits fuel (writeItems [] ++ rest) digits
        (depth x (by simp)) (by grind) (stopsNumber_writeItems [] rest)
      simp only [readItems, first, bind, Except.bind]
      rfl
  | cons y items ih =>
    cases fuel with
    | zero => omega
    | succ fuel =>
      have first := back x (by simp) limits fuel (writeItems (y :: items) ++ rest) digits
        (depth x (by simp)) (by grind) (stopsNumber_writeItems _ rest)
      have others : readItems limits fuel (y.write ++ (writeItems items ++ rest)) =
          .ok (y :: items, rest) :=
        ih (fun z hz => back z (List.mem_cons_of_mem x hz))
          (fun z hz => depth z (List.mem_cons_of_mem x hz)) (by grind [writeItems])
      have shape : skipSpace (writeItems (y :: items) ++ rest) =
          ',' :: ' ' :: (y.write ++ (writeItems items ++ rest)) := by
        simp [writeItems, skipSpace, isSpace]
      simp only [readItems, first, shape, skipSpace_space, skipSpace_write, others, bind,
        Except.bind]
      rfl

/-- A field as it is written, without what stands between it and the one before. -/
def writeField (f : String × Json) : List Char := quote f.1.toList ++ ':' :: ' ' :: f.2.write

theorem readFields_write {f : String × Json} {fields : List (String × Json)}
    (back : ∀ g ∈ f :: fields, ReadsBack g.2)
    (depth : ∀ g ∈ f :: fields, g.2.depth ≤ limits.depth) {fuel : Nat}
    (enough : 2 * (writeField f ++ writeFields fields).length < fuel) :
    readFields limits fuel (writeField f ++ (writeFields fields ++ rest)) =
      .ok (f :: fields, rest) := by
  have shape : ∀ (g : String × Json) (after : List Char), writeField g ++ after =
      '"' :: (g.1.toList.flatMap escapeChar ++ '"' :: ':' :: ' ' :: (g.2.write ++ after)) := by
    intro g after
    simp [writeField, quote]
  have size : ∀ g : String × Json, g.2.write.length + 4 ≤ (writeField g).length := by
    intro g
    simp [writeField, quote]
  induction fields generalizing f fuel with
  | nil =>
    cases fuel with
    | zero => omega
    | succ fuel =>
      have first := back f (by simp) limits fuel (writeFields [] ++ rest) digits
        (depth f (by simp)) (by grind) (stopsNumber_writeFields [] rest)
      have colon : ∀ s, skipSpace (':' :: s) = ':' :: s := fun s => rfl
      simp only [shape, readFields, readText_quote, colon, skipSpace_space, skipSpace_write, first,
        bind, Except.bind]
      rfl
  | cons g fields ih =>
    cases fuel with
    | zero => omega
    | succ fuel =>
      have first := back f (by simp) limits fuel (writeFields (g :: fields) ++ rest) digits
        (depth f (by simp)) (by grind) (stopsNumber_writeFields _ rest)
      have next_shape : skipSpace (writeFields (g :: fields) ++ rest) =
          ',' :: ' ' :: (writeField g ++ (writeFields fields ++ rest)) := by
        simp [writeFields, writeField, skipSpace, isSpace]
      have others : readFields limits fuel (writeField g ++ (writeFields fields ++ rest)) =
          .ok (g :: fields, rest) :=
        ih (fun z hz => back z (List.mem_cons_of_mem f hz))
          (fun z hz => depth z (List.mem_cons_of_mem f hz)) (by grind [writeFields, writeField])
      have colon : ∀ s, skipSpace (':' :: s) = ':' :: s := fun s => rfl
      have spaced : skipSpace (writeField g ++ (writeFields fields ++ rest)) =
          writeField g ++ (writeFields fields ++ rest) := rfl
      simp only [shape f, readFields, readText_quote, colon, skipSpace_space, skipSpace_write, first,
        next_shape, spaced, others, bind, Except.bind]
      rfl

omit digits

theorem inside_eq {limits : Limits} {n : Nat} (h : n + 1 ≤ limits.depth) :
    limits.inside = .ok { limits with depth := limits.depth - 1 } := if_neg (by omega)

theorem readsBack_arr {items : List Json} (back : ∀ x ∈ items, ReadsBack x) :
    ReadsBack (arr items) := by
  intro limits fuel rest digits depth enough stop
  have pos := length_write_pos (arr items)
  rw [Json.depth] at depth
  have inner : ∀ x ∈ items, x.depth ≤ limits.depth - 1 := itemsDepth_le.1 (by omega)
  cases fuel with
  | zero => omega
  | succ fuel =>
    cases items with
    | nil => simp [write, readValue, inside_eq depth, skipSpace, isSpace, bind, Except.bind, pure,
        Except.pure]
    | cons x items =>
      have read : readItems { limits with depth := limits.depth - 1 } fuel
          (x.write ++ (writeItems items ++ rest)) = .ok (x :: items, rest) := by
        apply readItems_write _ _ back inner
        · simp only [write, List.length_cons] at enough
          omega
        · exact digits
      have shape : (arr (x :: items)).write ++ rest =
          '[' :: (x.write ++ (writeItems items ++ rest)) := by simp [write]
      have open_end : ∀ after, x.write ++ (writeItems items ++ rest) ≠ ']' :: after := by
        have ⟨c, t, same, _, closes, _⟩ := startsValue_write x
        intro after
        rw [same]
        intro clash
        exact closes (List.cons.inj clash).1
      rw [shape, readValue]
      simp only [inside_eq depth, bind, Except.bind, skipSpace_write]
      rw [read]
      rfl

theorem readsBack_obj {fields : List (String × Json)} (distinct : (fields.map Prod.fst).Nodup)
    (back : ∀ f ∈ fields, ReadsBack f.2) : ReadsBack (obj fields) := by
  intro limits fuel rest digits depth enough stop
  have pos := length_write_pos (obj fields)
  rw [Json.depth] at depth
  have inner : ∀ f ∈ fields, f.2.depth ≤ limits.depth - 1 := fieldsDepth_le.1 (by omega)
  cases fuel with
  | zero => omega
  | succ fuel =>
    cases fields with
    | nil => simp [write, readValue, inside_eq depth, skipSpace, isSpace, bind, Except.bind, pure,
        Except.pure]
    | cons f fields =>
      have text : (obj (f :: fields)).write = '{' :: (writeField f ++ writeFields fields) := by
        simp [write, writeField]
      have read : readFields { limits with depth := limits.depth - 1 } fuel
          (writeField f ++ (writeFields fields ++ rest)) = .ok (f :: fields, rest) := by
        apply readFields_write _ _ back inner
        · rw [text, List.length_cons] at enough
          omega
        · exact digits
      have spaced : skipSpace (writeField f ++ (writeFields fields ++ rest)) =
          writeField f ++ (writeFields fields ++ rest) := rfl
      have open_end : ∀ after, writeField f ++ (writeFields fields ++ rest) ≠ '}' :: after := by
        intro after clash
        have := (List.cons.inj clash).1
        cases this
      rw [text, List.cons_append, List.append_assoc, readValue]
      simp only [inside_eq depth, bind, Except.bind, spaced]
      rw [read]
      simp [Entries.ofPairs_of_nodup distinct, pure, Except.pure]

theorem fits_of_fitsLimit {i : Int} (h : fitsLimit i = true) :
    (Nat.toDigits 10 i.natAbs).length ≤ digitLimit := of_decide_eq_true h

theorem readsBack (v : Json) (proper : v.isProper = true) (writable : v.isWritable = true) :
    ReadsBack v := by
  induction v using Json.induction with
  | null => exact readsBack_of_scalar ⟨'n', _, rfl, by decide⟩ fun _ _ _ _ => rfl
  | bool b =>
    cases b with
    | false => exact readsBack_of_scalar ⟨'f', _, rfl, by decide⟩ fun _ _ _ _ => rfl
    | true => exact readsBack_of_scalar ⟨'t', _, rfl, by decide⟩ fun _ _ _ _ => rfl
  | int i =>
    refine readsBack_of_scalar (startsScalar_intText i : StartsScalar (int i).write) ?_
    intro limits rest digits stop
    have fits := fits_of_fitsLimit writable
    exact readScalar_intText limits stop (digits ▸ fits)
  | double d =>
    refine readsBack_of_scalar (startsScalar_doubleText d : StartsScalar (double d).write) ?_
    intro limits rest digits stop
    exact readScalar_doubleText limits stop d
  | str s => exact readsBack_str s
  | arr items ih =>
    rw [isWritable, areWritable_iff] at writable
    rw [isProper_arr] at proper
    apply readsBack_arr
    intro x hx
    exact ih x hx (proper x hx) (writable x hx)
  | obj fields ih =>
    rw [isWritable, areWritableFields_iff] at writable
    rw [isProper_obj] at proper
    apply readsBack_obj proper.1
    intro f hf
    exact ih f hf (proper.2 f hf) (writable f hf)

/-- What could be written as text is read back from it. -/
theorem decode_encode {v : Json} (proper : v.isProper = true) {text : String}
    (h : v.encode = .ok text) : decode text = .ok v := by
  unfold encode at h
  split at h
  · cases h
  · next shallow =>
    split at h
    · next writable =>
      cases h
      have back := readsBack v proper writable .standard (2 * v.write.length + 2) [] rfl
        (Nat.not_lt.1 shallow) (by omega) stopsNumber_nil
      have start := skipSpace_write v []
      rw [List.append_nil] at back start
      rw [decode, String.toList_ofList, read, start, back]
      rfl
    · cases h

/-- What is within the limits stands in some text. -/
theorem exists_decode {v : Json} (proper : v.isProper = true) (writable : v.isWritable = true)
    (shallow : v.depth ≤ depthLimit) : ∃ text, v.encode = .ok text ∧ decode text = .ok v := by
  have written : v.encode = .ok (String.ofList v.write) := by
    rw [encode, if_neg (Nat.not_lt.2 shallow), if_pos writable]
  exact ⟨_, written, decode_encode proper written⟩

end Bookmarks.Json
