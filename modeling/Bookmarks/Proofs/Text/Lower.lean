import Bookmarks.Text.Case
import Bookmarks.Text.Occurrence

/-! The lowercase of a part of a text. All characters but the capital sigma are lowered alone, so a
part is lowered within a text as it is alone exactly if each of its capital sigmas ends a word of
the text just when it ends a word of the part. The lowercase of such a part is found in the
lowercase of the text. -/

namespace Bookmarks.Text

/-- The lowercase of a text that `rest` follows. -/
def lowerBefore (rest : List Char) : Bool → List Char → List Char
  | _, [] => []
  | before, c :: cs => lowerAt before (cs ++ rest) c ++ lowerBefore rest (casedAfter before c) cs

theorem lowerFrom_append (before : Bool) (s t : List Char) :
    lowerFrom before (s ++ t) =
      lowerBefore t before s ++ lowerFrom (s.foldl casedAfter before) t := by
  induction s generalizing before with
  | nil => rfl
  | cons c s ih => simp [lowerFrom, lowerBefore, ih]

theorem lowerBefore_nil (before : Bool) (s : List Char) :
    lowerBefore [] before s = lowerFrom before s := by
  simpa [lowerFrom] using (lowerFrom_append before s []).symm

/-- Whether a capital sigma between two texts ends a word: the nearest character that counts is
cased in front of it and not behind it. -/
def endsWord (before rest : List Char) : Bool :=
  before.foldl casedAfter false && !startsCased rest

/-- Each capital sigma of `t` ends a word of `u ++ t ++ v` just when it ends a word of `t`. -/
def KeepsSigmas (u t v : List Char) : Prop :=
  ∀ p r : List Char, t = p ++ 'Σ' :: r → endsWord (u ++ p) (r ++ v) = endsWord p r

theorem lowerAt_sigma_inj {before before' : Bool} {rest rest' : List Char} :
    lowerAt before rest 'Σ' = lowerAt before' rest' 'Σ' ↔
      (before && !startsCased rest) = (before' && !startsCased rest') := by
  simp only [lowerAt, if_true, List.cons.injEq, and_true]
  cases before && !startsCased rest <;> cases before' && !startsCased rest' <;> simp

theorem lowerAt_of_ne {before before' : Bool} {rest rest' : List Char} {c : Char} (h : c ≠ 'Σ') :
    lowerAt before rest c = lowerAt before' rest' c := by simp [lowerAt, h]

theorem length_lowerAt {before before' : Bool} {rest rest' : List Char} (c : Char) :
    (lowerAt before rest c).length = (lowerAt before' rest' c).length := by
  by_cases h : c = 'Σ'
  · simp [lowerAt, h]
  · rw [lowerAt_of_ne h]

theorem lowerBefore_inj {before before' : Bool} {v v' t : List Char} :
    lowerBefore v before t = lowerBefore v' before' t ↔
      ∀ p r : List Char, t = p ++ 'Σ' :: r →
        (p.foldl casedAfter before && !startsCased (r ++ v)) =
          (p.foldl casedAfter before' && !startsCased (r ++ v')) := by
  induction t generalizing before before' with
  | nil => simp [lowerBefore]
  | cons c t ih =>
    have split {x x' : List Char} :
        lowerAt before (t ++ v) c ++ x = lowerAt before' (t ++ v') c ++ x' ↔
        lowerAt before (t ++ v) c = lowerAt before' (t ++ v') c ∧ x = x' :=
      ⟨fun h => List.append_inj h (length_lowerAt c), fun ⟨first, later⟩ => by rw [first, later]⟩
    rw [lowerBefore, lowerBefore, split, ih]
    constructor
    · rintro ⟨first, later⟩ p r same
      cases p with
      | nil =>
        obtain ⟨rfl, rfl⟩ := List.cons.inj same
        exact lowerAt_sigma_inj.1 first
      | cons d p =>
        obtain ⟨rfl, rest⟩ := List.cons.inj same
        exact later p r rest
    · intro h
      refine ⟨?_, fun p r same => h (c :: p) r (by rw [same, List.cons_append])⟩
      by_cases sigma : c = 'Σ'
      · subst sigma
        exact lowerAt_sigma_inj.2 (h [] t rfl)
      · exact lowerAt_of_ne sigma

theorem lowerBefore_eq_lower_iff {u t v : List Char} :
    lowerBefore v (u.foldl casedAfter false) t = lower t ↔ KeepsSigmas u t v := by
  rw [lower, ← lowerBefore_nil, lowerBefore_inj]
  simp [KeepsSigmas, endsWord]

instance (u t v : List Char) : Decidable (KeepsSigmas u t v) :=
  decidable_of_iff _ lowerBefore_eq_lower_iff

theorem occurs_lower {u t v : List Char} (h : KeepsSigmas u t v) :
    occurs (lower t) (lower (u ++ t ++ v)) = true := by
  have whole : lower (u ++ t ++ v) = lowerBefore (t ++ v) false u ++ (lower t ++
      lowerFrom (t.foldl casedAfter (u.foldl casedAfter false)) v) := by
    rw [← lowerBefore_eq_lower_iff.2 h, ← lowerFrom_append, ← lowerFrom_append, ← List.append_assoc,
      lower]
  rw [occurs_iff, whole]
  exact ⟨_, _, List.append_assoc ..⟩

end Bookmarks.Text
