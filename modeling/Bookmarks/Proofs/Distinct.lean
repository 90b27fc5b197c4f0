import Bookmarks.Slice
import Mathlib.Data.List.Basic

/-! Lists in which each key stands once: of several values of one key the first stays. Moving a
value to the front of such a list that was cut, and cutting it again, comes to the same as cutting
the whole list once. -/

namespace Bookmarks

variable {α κ : Type} [BEq κ]

/-- The first value of each key. -/
def distinctBy (key : α → κ) (xs : List α) : List α := xs.eraseDupsBy fun x y => key x == key y

theorem distinctBy_id (xs : List κ) : distinctBy id xs = xs.eraseDups := rfl

theorem distinctBy_cons (key : α → κ) (x : α) (xs : List α) :
    distinctBy key (x :: xs) = x :: distinctBy key (xs.filter fun y => key y != key x) := by
  have same : (fun y => decide ((key y == key x) = false)) = fun y => key y != key x := by
    funext y
    cases h : key y == key x <;> simp [bne, h]
  rw [distinctBy, List.eraseDupsBy_cons, same]
  rfl

variable [LawfulBEq κ] {key : α → κ}

/-- A test of keys may be made before or after. -/
theorem distinctBy_filter {test : α → Bool} (by_key : ∀ x y, key x = key y → test x = test y)
    (xs : List α) : distinctBy key (xs.filter test) = (distinctBy key xs).filter test := by
  induction size : xs.length using Nat.strongRecOn generalizing xs with
  | ind n ih =>
    cases xs with
    | nil => rfl
    | cons x rest =>
      let others := rest.filter fun y => key y != key x
      have fewer : others.length < n := by
        rw [← size, List.length_cons]
        exact Nat.lt_succ_of_le (List.length_filter_le _ _)
      have tested := ih _ fewer others rfl
      rw [distinctBy_cons, List.filter_cons, List.filter_cons]
      cases passes : test x with
      | true =>
        rw [if_pos rfl, if_pos rfl, distinctBy_cons, ← tested, List.filter_comm]
      | false =>
        -- what passes has another key, so that nothing is lost with the values of this one
        have same : others.filter test = rest.filter test := by
          rw [List.filter_filter]
          apply List.filter_congr
          intro y _
          cases passed : test y with
          | false => rfl
          | true =>
            have other : key y ≠ key x := by
              intro key_eq
              rw [by_key y x key_eq, passes] at passed
              cases passed
            simpa using other
        rw [if_neg (by decide), if_neg (by decide), ← tested, same]

theorem distinctBy_cons_eq (x : α) (xs : List α) :
    distinctBy key (x :: xs) = x :: (distinctBy key xs).filter fun y => key y != key x := by
  rw [distinctBy_cons, distinctBy_filter]
  intro y z same
  rw [same]

theorem nodup_map_distinctBy (key : α → κ) (xs : List α) : ((distinctBy key xs).map key).Nodup := by
  induction xs with
  | nil => exact List.nodup_nil
  | cons x rest ih =>
    rw [distinctBy_cons_eq, List.map_cons, List.nodup_cons]
    refine ⟨?_, (List.filter_sublist.map key).nodup ih⟩
    intro twice
    have ⟨y, member, same⟩ := List.mem_map.1 twice
    have other := (List.mem_filter.1 member).2
    simp [same] at other

theorem nodup_eraseDups (xs : List κ) : xs.eraseDups.Nodup := by
  have distinct := nodup_map_distinctBy id xs
  rwa [List.map_id, distinctBy_id] at distinct

/-- When one key is left out, those that are cut off first would not have come into view. -/
theorem take_filter_take {xs : List α} (distinct : (xs.map key).Nodup) (k : κ) (n : Nat) :
    ((xs.take (n + 1)).filter fun y => key y != k).take n =
      (xs.filter fun y => key y != k).take n := by
  induction xs generalizing n with
  | nil => rfl
  | cons x rest ih =>
    rw [List.map_cons, List.nodup_cons] at distinct
    rw [List.take_succ_cons, List.filter_cons, List.filter_cons]
    by_cases same : key x = k
    · have others : ∀ y ∈ rest, (key y != k) = true := by
        intro y hy
        rw [← same, bne_iff_ne]
        intro key_eq
        exact distinct.1 (key_eq ▸ List.mem_map_of_mem hy)
      have left_out : (key x != k) = false := by simpa using same
      rw [left_out, if_neg (by decide), if_neg (by decide), List.filter_eq_self.2 others,
        List.filter_eq_self.2 fun y hy => others y (List.mem_of_mem_take hy), List.take_take,
        Nat.min_self]
    · have stays : (key x != k) = true := by simpa using same
      rw [stays, if_pos rfl, if_pos rfl]
      cases n with
      | zero => rfl
      | succ n => rw [List.take_succ_cons, List.take_succ_cons, ih distinct.2]

/-- A value that comes to the front of a list with no more room than it had. -/
theorem upTo_cons_filter (room : Int) (x : α) (xs : List α) :
    upTo room (x :: ((distinctBy key xs).take room.toNat).filter fun y => key y != key x) =
      (distinctBy key (x :: xs)).take room.toNat := by
  rw [distinctBy_cons_eq]
  cases fits : room.toNat with
  | zero =>
    unfold upTo
    split
    · simp only [List.take_zero, List.filter_nil, List.length_singleton]
      rw [List.take_eq_nil_iff]
      omega
    · rw [fits]
      rfl
  | succ n =>
    have some_room : 0 ≤ room := by omega
    rw [upTo_of_nonneg some_room, fits, List.take_succ_cons, List.take_succ_cons,
      take_filter_take (nodup_map_distinctBy key xs)]

end Bookmarks
