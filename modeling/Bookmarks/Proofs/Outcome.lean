import Bookmarks.Verdict
import Mathlib.Data.List.Forall2

/-! Computations that may run into a fault, and when they come to a result. -/

namespace Bookmarks

variable {ε α β : Type}

theorem exists_of_bind {x : Except ε α} {f : α → Except ε β} {result : β}
    (h : (x >>= f) = .ok result) : ∃ a, x = .ok a ∧ f a = .ok result := by
  cases x with
  | error e => cases h
  | ok a => exact ⟨a, rfl, h⟩

theorem bind_of_ok {x : Except ε α} {a : α} (h : x = .ok a) (f : α → Except ε β) :
    (x >>= f) = f a := by
  rw [h]
  rfl

theorem exists_of_map {x : Except ε α} {f : α → β} {result : β} (h : x.map f = .ok result) :
    ∃ a, x = .ok a ∧ f a = result := by
  cases x with
  | error e => cases h
  | ok a => exact ⟨a, rfl, Except.ok.inj h⟩

/-- A function comes to a result on all members of a list if it does on each. -/
theorem exists_mapM_iff {f : α → Except ε β} {xs : List α} :
    (∃ ys, xs.mapM f = .ok ys) ↔ ∀ x ∈ xs, ∃ y, f x = .ok y := by
  induction xs with
  | nil => exact ⟨fun _ => nofun, fun _ => ⟨[], rfl⟩⟩
  | cons x xs ih =>
    rw [List.forall_mem_cons, ← ih, List.mapM_cons]
    constructor
    · intro ⟨ys, h⟩
      have ⟨y, first, h⟩ := exists_of_bind h
      have ⟨ys, others, _⟩ := exists_of_bind h
      exact ⟨⟨y, first⟩, ys, others⟩
    · intro ⟨⟨y, first⟩, ys, others⟩
      refine ⟨y :: ys, ?_⟩
      rw [first, others]
      rfl

theorem mem_mapM_iff {f : α → Except ε β} {xs : List α} {ys : List β} (h : xs.mapM f = .ok ys)
    {y : β} : y ∈ ys ↔ ∃ x ∈ xs, f x = .ok y := by
  induction xs generalizing ys with
  | nil =>
    cases h
    simp
  | cons x xs ih =>
    rw [List.mapM_cons] at h
    have ⟨z, first, h⟩ := exists_of_bind h
    have ⟨zs, others, h⟩ := exists_of_bind h
    cases h
    simp [ih others, first, eq_comm]

/-- A decoder that undoes an encoder undoes it along a list. -/
theorem mapM_map {f : β → Except ε α} {g : α → β} (undo : ∀ a, f (g a) = .ok a) (xs : List α) :
    (xs.map g).mapM f = .ok xs := by
  induction xs with
  | nil => rfl
  | cons x xs ih =>
    rw [List.map_cons, List.mapM_cons, undo, ih]
    rfl

/-- A decoder that keeps something of each value keeps it of a list. -/
theorem map_of_mapM {γ : Type} {f : α → Except ε β} {view : β → γ} {shown : α → γ}
    (keeps : ∀ x y, f x = .ok y → view y = shown x) {xs : List α} {ys : List β}
    (h : xs.mapM f = .ok ys) : ys.map view = xs.map shown := by
  induction xs generalizing ys with
  | nil =>
    cases h
    rfl
  | cons x xs ih =>
    rw [List.mapM_cons] at h
    have ⟨y, first, h⟩ := exists_of_bind h
    have ⟨ys, others, h⟩ := exists_of_bind h
    cases h
    rw [List.map_cons, List.map_cons, keeps x y first, ih others]

theorem forall₂_of_mapM {f : α → Except ε β} {xs : List α} {ys : List β}
    (h : xs.mapM f = .ok ys) : List.Forall₂ (fun y x => f x = .ok y) ys xs := by
  induction xs generalizing ys with
  | nil =>
    cases h
    exact .nil
  | cons x xs ih =>
    rw [List.mapM_cons] at h
    have ⟨y, first, h⟩ := exists_of_bind h
    have ⟨ys, others, h⟩ := exists_of_bind h
    cases h
    exact .cons first (ih others)

namespace Verdict

variable {test : α → Verdict} {xs ys : List α}

/-- Members are kept if there is a verdict on each. -/
theorem exists_keep_iff : (∃ ys, keep test xs = .ok ys) ↔ ∀ x ∈ xs, ∃ v, test x = .ok v := by
  induction xs with
  | nil => exact ⟨fun _ => nofun, fun _ => ⟨[], rfl⟩⟩
  | cons x xs ih =>
    rw [List.forall_mem_cons, ← ih, keep]
    constructor
    · rintro ⟨ys, h⟩
      obtain ⟨passed, first, h⟩ := exists_of_bind h
      obtain ⟨ys, others, _⟩ := exists_of_bind h
      exact ⟨⟨passed, first⟩, ys, others⟩
    · rintro ⟨⟨passed, first⟩, ys, others⟩
      refine ⟨if passed then x :: ys else ys, ?_⟩
      rw [first, others]
      rfl

theorem sublist_of_keep (h : keep test xs = .ok ys) : ys.Sublist xs := by
  induction xs generalizing ys with
  | nil =>
    cases h
    exact .slnil
  | cons x xs ih =>
    rw [keep] at h
    obtain ⟨passed, _, h⟩ := exists_of_bind h
    obtain ⟨rest, others, h⟩ := exists_of_bind h
    cases h
    split
    · exact (ih others).cons_cons x
    · exact (ih others).cons x

/-- Whether there is a verdict, and it is a good one. -/
def holds : Verdict → Bool
  | .ok v => v
  | .error _ => false

theorem keep_eq_filter (h : keep test xs = .ok ys) : ys = xs.filter fun x => (test x).holds := by
  induction xs generalizing ys with
  | nil =>
    cases h
    rfl
  | cons x xs ih =>
    rw [keep] at h
    obtain ⟨passed, first, h⟩ := exists_of_bind h
    obtain ⟨rest, others, h⟩ := exists_of_bind h
    cases h
    rw [List.filter_cons, first, ih others]
    rfl

/-- Which members are kept does not depend on their order. -/
theorem exists_keep_perm {others : List α} (same : xs.Perm others) (h : keep test xs = .ok ys) :
    ∃ zs, keep test others = .ok zs ∧ zs.Perm ys := by
  have verdicts := exists_keep_iff.1 ⟨ys, h⟩
  obtain ⟨zs, kept⟩ := exists_keep_iff.2 fun x hx => verdicts x (same.mem_iff.2 hx)
  refine ⟨zs, kept, ?_⟩
  rw [keep_eq_filter h, keep_eq_filter kept]
  exact same.symm.filter _

theorem exists_and_iff {a b : Verdict} :
    (∃ v, a.and b = .ok v) ↔ ∃ u, a = .ok u ∧ (u = true → ∃ v, b = .ok v) := by
  cases a with
  | error fault => simp [and]
  | ok u => cases u <;> simp [and]

/-- There is a verdict `a` wherever there is a verdict `b`, and `a` only holds if `b` does. -/
def Narrows (a b : Verdict) : Prop := ∀ v, b = .ok v → ∃ u, a = .ok u ∧ (u = true → v = true)

theorem Narrows.refl (a : Verdict) : Narrows a a := fun v h => ⟨v, h, id⟩

theorem narrows_ok {u v : Bool} (h : u = true → v = true) : Narrows (.ok u) (.ok v) := by
  intro w same
  cases same
  exact ⟨u, rfl, h⟩

theorem Narrows.and {a b c d : Verdict} (first : Narrows a c) (second : Narrows b d) :
    Narrows (a.and b) (c.and d) := by
  intro v h
  cases c with
  | error fault => cases h
  | ok passed =>
    obtain ⟨u, rfl, imp⟩ := first passed rfl
    cases u with
    | false => exact ⟨false, rfl, nofun⟩
    | true =>
      rw [imp rfl] at h
      exact second v h

/-- A narrower test of fewer members comes to a result too, and keeps fewer of them. -/
theorem Narrows.exists_keep {narrower : α → Verdict} (h : ∀ x, Narrows (narrower x) (test x))
    {zs : List α} (part : zs.Sublist xs) (kept : keep test xs = .ok ys) :
    ∃ ws, keep narrower zs = .ok ws ∧ ws.Sublist ys := by
  induction part generalizing ys with
  | slnil => exact ⟨[], rfl, List.nil_sublist _⟩
  | cons x part ih =>
    obtain ⟨passed, _, kept⟩ := exists_of_bind kept
    obtain ⟨rest, others, kept⟩ := exists_of_bind kept
    obtain ⟨ws, found, fewer⟩ := ih others
    cases kept
    refine ⟨ws, found, fewer.trans ?_⟩
    split
    · exact List.sublist_cons_self x rest
    · exact List.Sublist.refl rest
  | cons_cons x part ih =>
    obtain ⟨passed, first, kept⟩ := exists_of_bind kept
    obtain ⟨rest, others, kept⟩ := exists_of_bind kept
    obtain ⟨ws, found, fewer⟩ := ih others
    obtain ⟨u, narrowed, imp⟩ := h x passed first
    cases kept
    refine ⟨if u then x :: ws else ws, ?_, ?_⟩
    · rw [keep, narrowed, found]
      rfl
    · cases u with
      | false =>
        simp only [Bool.false_eq_true, if_false]
        split
        · exact fewer.cons x
        · exact fewer
      | true => simpa [imp rfl] using fewer

end Verdict

end Bookmarks
