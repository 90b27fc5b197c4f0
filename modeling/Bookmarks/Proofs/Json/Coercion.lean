import Bookmarks.Settings
import Bookmarks.Proofs.Json.Limits

/-! Values taken as texts and as whole numbers. Only a whole number that is too long stands in the
way of a text, and no number that is taken from a value of another kind is too long. -/

namespace Bookmarks

theorem Double.fitsLimit_truncate? {d : Double} {i : Int} (h : d.truncate? = some i) :
    Json.fitsLimit i = true := by
  cases d with
  | nan => cases h
  | ranked negative rank bounded =>
    rw [truncate?] at h
    split at h
    · next finite =>
      have few : grid rank / unit < 10 ^ digitLimit := by
        calc grid rank / unit ≤ grid rank := Nat.div_le_self _ _
          _ < 2 ^ 53 * 2 ^ 2045 := grid_lt finite
          _ ≤ 10 ^ digitLimit := by decide +kernel
      cases h
      exact Json.fitsLimit_signed few negative
    · cases h

theorem Literal.fitsLimit_int? {s : List Char} {i : Int} (h : int? s = some i) :
    Json.fitsLimit i = true := by
  simp only [int?, Option.bind_eq_bind, Option.bind_eq_some_iff] at h
  have ⟨joined, _, h⟩ := h
  split at h
  · cases h
  · next usable =>
    simp only [Bool.or_eq_true, Bool.not_eq_true', decide_eq_true_eq, not_or, Bool.not_eq_false,
      Nat.not_lt] at usable
    have few : natOf (splitSign joined).2 < 10 ^ digitLimit :=
      Nat.lt_of_lt_of_le (natOf_lt (List.all_eq_true.1 usable.1.2))
        (Nat.pow_le_pow_right (by decide) usable.2)
    have fits := Json.fitsLimit_signed few (splitSign joined).1
    split at h
    · next minus =>
      cases h
      rwa [minus, if_pos rfl] at fits
    · next plus =>
      cases h
      rwa [if_neg plus] at fits

namespace Json

theorem exists_display {value : Json} (writable : value.isWritable = true) :
    ∃ text, value.display = .ok text := by
  unfold display
  split
  · exact ⟨_, rfl⟩
  · rw [if_pos writable]
    exact ⟨_, rfl⟩

theorem exists_texts {value : Json} (writable : value.isWritable = true) :
    ∃ texts, value.texts = .ok texts := by
  unfold texts
  split
  · exact ⟨_, rfl⟩
  · exact exists_mapM_iff.2 fun x hx => exists_display (areWritable_iff.1 writable x hx)
  · exact ⟨_, rfl⟩

theorem texts_strs (texts : List String) : (arr (texts.map .str)).texts = .ok texts :=
  mapM_map (f := display) (fun _ => rfl) texts

/-- What holds of null and of all values in some fields holds of the value under any key. -/
theorem Fields.at_of_forall {P : Json → Prop} {fields : Fields} (missing : P null)
    (each : ∀ f ∈ fields, P f.2) (key : String) : P (fields.at key) := by
  unfold Fields.at
  cases found : fields.lookup key with
  | none => exact missing
  | some value => exact each _ (Entries.mem_of_lookup found)

theorem isWritable_at {fields : Fields} (writable : ∀ f ∈ fields, f.2.isWritable = true)
    (key : String) : (fields.at key).isWritable = true :=
  Fields.at_of_forall (P := fun value => value.isWritable = true) rfl writable key

/-- A field that may be missing is shown as a text. -/
theorem exists_display_lookup {fields : Fields} (writable : ∀ f ∈ fields, f.2.isWritable = true)
    (key default : String) :
    ∃ text, ((fields.lookup key).getD (.str default)).display = .ok text := by
  apply exists_display
  cases found : fields.lookup key with
  | none => rfl
  | some value => exact writable _ (Entries.mem_of_lookup found)

theorem isProper_at {fields : Fields} (proper : (obj fields).isProper = true) (key : String) :
    (fields.at key).isProper = true :=
  Fields.at_of_forall (P := fun value => value.isProper = true) rfl (isProper_obj.1 proper).2 key

/-- Fields without a value may as well be left out. -/
theorem Fields.at_filter {fields : Fields} (distinct : (fields.map Prod.fst).Nodup)
    (key : String) : Fields.at (fields.filter fun f => !f.2.isNull) key = fields.at key := by
  induction fields with
  | nil => rfl
  | cons f rest ih =>
    rw [List.map_cons, List.nodup_cons] at distinct
    have others := ih distinct.2
    have ⟨name, value⟩ := f
    rw [List.filter_cons]
    cases missing : value.isNull with
    | false =>
      simp only [Bool.not_false, if_true, Fields.at, List.lookup_cons]
      cases key == name with
      | true => rfl
      | false => exact others
    | true =>
      have null : value = .null := by
        cases value <;> first | rfl | cases missing
      simp only [Bool.not_true, Bool.false_eq_true, if_false]
      rw [others]
      simp only [Fields.at, List.lookup_cons, null]
      cases same : key == name with
      | true =>
        -- the name stands nowhere else
        rw [eq_of_beq same, Entries.lookup_of_not_mem distinct.1]
        rfl
      | false => rfl

theorem isProper_fieldsOrNone {value : Json} (proper : value.isProper = true) :
    (obj (ViewSettings.fieldsOrNone value)).isProper = true := by
  cases value with
  | obj fields => exact proper
  | _ => rfl

theorem fitsLimit_whole? {value : Json} (writable : value.isWritable = true) {i : Int}
    (h : value.whole? = some i) : fitsLimit i = true := by
  cases value with
  | str s => exact Literal.fitsLimit_int? h
  | double d => exact Double.fitsLimit_truncate? h
  | int j =>
    cases h
    exact writable
  | bool b =>
    cases h
    cases b <;> decide
  | _ => cases h

end Json

end Bookmarks
