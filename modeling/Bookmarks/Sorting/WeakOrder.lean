/-! Weak orders: elements of which none is less than the other are level, and being level is an
equivalence. A list has one arrangement only that is in order and keeps the order of level elements.
-/

namespace Bookmarks.Sorting

variable {α : Type}

/-- Elements of which none is less than the other are level, and being level is an equivalence. -/
structure IsWeakOrder (less : α → α → Bool) : Prop where
  asymm : ∀ {a b}, less a b = true → less b a = false
  trans : ∀ {a b c}, less b a = false → less c b = false → less c a = false

namespace IsWeakOrder

variable {less : α → α → Bool} (order : IsWeakOrder less)

include order

theorem irrefl (a : α) : less a a = false := by
  by_cases h : less a a = true
  · exact order.asymm h
  · simpa using h

theorem less_of_less_of_not_less {a b c : α} (hab : less a b = true) (hcb : less c b = false) :
    less a c = true := by
  by_cases hac : less a c = true
  · exact hac
  · have := order.trans hcb (by simpa using hac)
    simp [hab] at this

theorem less_of_not_less_of_less {a b c : α} (hba : less b a = false) (hbc : less b c = true) :
    less a c = true := by
  by_cases hac : less a c = true
  · exact hac
  · have := order.trans (by simpa using hac) hba
    simp [hbc] at this

theorem less_trans {a b c : α} (hab : less a b = true) (hbc : less b c = true) :
    less a c = true :=
  order.less_of_not_less_of_less (order.asymm hab) hbc

/-- The same order, turned round. -/
theorem swap : IsWeakOrder fun a b => less b a :=
  ⟨fun h => order.asymm h, fun hab hbc => order.trans hbc hab⟩

end IsWeakOrder

/-- No element is less than one before it. -/
def InOrder (less : α → α → Bool) (xs : List α) : Prop := xs.Pairwise fun a b => less b a = false

def level (less : α → α → Bool) (a b : α) : Bool := !less a b && !less b a

theorem level_eq_true {less : α → α → Bool} {a b : α} :
    level less a b = true ↔ less a b = false ∧ less b a = false := by
  simp [level]

theorem level_self {less : α → α → Bool} (order : IsWeakOrder less) (a : α) :
    level less a a = true := level_eq_true.2 ⟨order.irrefl a, order.irrefl a⟩

theorem inOrder_reverse {less : α → α → Bool} {xs : List α} :
    InOrder (fun a b => less b a) xs.reverse ↔ InOrder less xs := List.pairwise_reverse

theorem level_swap (less : α → α → Bool) (z : α) :
    level (fun a b => less b a) z = level less z := by
  funext a
  exact Bool.and_comm ..

theorem less_congr {less : α → α → Bool} (order : IsWeakOrder less) (x : α) {y z : α}
    (h : level less z y = true) : less x y = less x z := by
  obtain ⟨hzy, hyz⟩ := level_eq_true.1 h
  cases hxz : less x z
  · exact order.trans hzy hxz
  · exact order.less_of_less_of_not_less hxz hyz

/-- Of a class of level elements, a test of their order with `x` takes all or none. -/
theorem filter_level_and {less : α → α → Bool} (order : IsWeakOrder less) (x z : α)
    (test : Bool → Bool) (xs : List α) :
    xs.filter (fun y => level less z y && test (less x y)) =
      if test (less x z) then xs.filter (level less z) else [] := by
  have same : ∀ y ∈ xs, (level less z y && test (less x y)) =
      (level less z y && test (less x z)) := fun y _ => by
    by_cases hy : level less z y = true
    · rw [less_congr order x hy]
    · simp [hy]
  rw [List.filter_congr same]
  cases test (less x z) <;> simp

/-- Two lists in order whose classes of level elements are the same are the same. -/
theorem eq_of_inOrder {less : α → α → Bool} (order : IsWeakOrder less) {xs ys : List α}
    (hxs : InOrder less xs) (hys : InOrder less ys)
    (h : ∀ z, xs.filter (level less z) = ys.filter (level less z)) : xs = ys := by
  induction xs generalizing ys with
  | nil =>
    cases ys with
    | nil => rfl
    | cons y ys => simpa [level_self order] using h y
  | cons x xs ih =>
    cases ys with
    | nil => simpa [level_self order] using h x
    | cons y ys =>
      have hx : x ∈ y :: ys := by
        refine (List.mem_filter (p := level less x)).1 ?_ |>.1
        rw [← h x]
        exact List.mem_filter.2 ⟨List.mem_cons_self, level_self order x⟩
      have hy : y ∈ x :: xs := by
        refine (List.mem_filter (p := level less y)).1 ?_ |>.1
        rw [h y]
        exact List.mem_filter.2 ⟨List.mem_cons_self, level_self order y⟩
      have hxy : less x y = false := by
        rcases List.mem_cons.1 hx with rfl | hx
        · exact order.irrefl x
        · exact (List.pairwise_cons.1 hys).1 x hx
      have hyx : less y x = false := by
        rcases List.mem_cons.1 hy with rfl | hy
        · exact order.irrefl y
        · exact (List.pairwise_cons.1 hxs).1 y hy
      have heads := h x
      rw [List.filter_cons_of_pos (level_self order x),
        List.filter_cons_of_pos (level_eq_true.2 ⟨hxy, hyx⟩)] at heads
      obtain rfl := (List.cons.inj heads).1
      refine congrArg (x :: ·) (ih (List.pairwise_cons.1 hxs).2 (List.pairwise_cons.1 hys).2 ?_)
      intro z
      have := h z
      rw [List.filter_cons, List.filter_cons] at this
      split at this
      · exact (List.cons.inj this).2
      · exact this

end Bookmarks.Sorting
