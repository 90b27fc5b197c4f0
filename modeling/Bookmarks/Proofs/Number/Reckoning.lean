import Bookmarks.Json.Number
import Bookmarks.Proofs.Number.Finite

/-! When numbers can be reckoned with. A whole number past the largest double is no double, and that
is all that can go wrong. -/

namespace Bookmarks

namespace Number

/-- The value as a double, by any function on whole numbers. -/
def toDoubleBy (ofInt? : Int → Option Double) : Number → Except Fault Double
  | whole i => match ofInt? i with
    | some d => .ok d
    | none => .error .outOfRange
  | double d => .ok d

-- the function that rounds would be evaluated wherever the cases of its outcome are told apart
theorem toDouble_eq (n : Number) : n.toDouble = n.toDoubleBy Double.ofInt? :=
  (toDouble.eq_def n).trans (toDoubleBy.eq_def Double.ofInt? n).symm

theorem exists_toDoubleBy_iff {ofInt? : Int → Option Double} {n : Number} :
    (∃ d, n.toDoubleBy ofInt? = .ok d) ↔ ∀ i, n = whole i → (ofInt? i).isSome := by
  cases n with
  | whole i => cases found : ofInt? i <;> simp [toDoubleBy, found]
  | double d => simp [toDoubleBy]

theorem exists_toDouble_iff {n : Number} :
    (∃ d, n.toDouble = .ok d) ↔ ∀ i, n = whole i → i.natAbs < Double.overflow := by
  simp only [toDouble_eq, exists_toDoubleBy_iff, Double.isSome_ofInt?_iff]

/-- One can be added to any number. -/
theorem exists_add_one (n : Number) : ∃ m, n.add (.whole 1) = .ok m := by
  cases n with
  | whole i => exact ⟨.whole (i + 1), rfl⟩
  | double d =>
    have small : Int.natAbs 1 < Double.overflow := by decide +kernel
    obtain ⟨one, is_one⟩ := (exists_toDouble_iff (n := .whole 1)).2 fun i same => by
      cases same
      exact small
    refine ⟨.double (d.add one), ?_⟩
    rw [add, is_one]
    · rfl
    · nofun

end Number

end Bookmarks
