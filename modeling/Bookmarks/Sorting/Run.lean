/-! The runs that a list consists of. A run is level and rising, or else falling and then turned
round; one that is short takes in the elements behind it, each at a place that is found by halving,
behind those that it is not less than. -/

namespace Bookmarks.Sorting

variable {α : Type}

/-- Puts an element into a list that is in order. -/
def place (less : α → α → Bool) (x : α) (xs : List α) : List α :=
  match h : xs.drop (xs.length / 2) with
  | [] => [x]
  | y :: after =>
    have size : (xs.drop (xs.length / 2)).length = after.length + 1 := by rw [h]; rfl
    if less x y then place less x (xs.take (xs.length / 2)) ++ y :: after
    else xs.take (xs.length / 2) ++ y :: place less x after
termination_by xs.length
decreasing_by
  all_goals
    simp only [List.length_drop, List.length_take] at size ⊢
    omega

theorem place_of_drop_eq_nil (less : α → α → Bool) (x : α) {xs : List α}
    (h : xs.drop (xs.length / 2) = []) : place less x xs = [x] := by
  rw [place]
  split
  · rfl
  · next found => simp [h] at found

theorem place_of_drop_eq_cons (less : α → α → Bool) (x : α) {xs : List α} {y : α}
    {after : List α} (h : xs.drop (xs.length / 2) = y :: after) :
    place less x xs =
      if less x y then place less x (xs.take (xs.length / 2)) ++ y :: after
      else xs.take (xs.length / 2) ++ y :: place less x after := by
  conv => lhs; rw [place]
  split
  · next found => simp [h] at found
  · next found =>
    rw [h] at found
    cases found
    rfl

def placeAll (less : α → α → Bool) (sorted xs : List α) : List α :=
  xs.foldl (fun sorted y => place less y sorted) sorted

/-- Parts a list after the longest start in which each element, the first of them coming after `x`,
is related to the one before it. -/
def splitRun (related : α → α → Bool) (x : α) : List α → List α × List α
  | [] => ([], [])
  | y :: ys =>
    if related x y then
      let (run, rest) := splitRun related y ys
      (y :: run, rest)
    else ([], y :: ys)

theorem splitRun_append (related : α → α → Bool) (x : α) (xs : List α) :
    (splitRun related x xs).1 ++ (splitRun related x xs).2 = xs := by
  induction xs generalizing x with
  | nil => rfl
  | cons y ys ih =>
    unfold splitRun
    split
    · simp [ih]
    · rfl

/-- Whether the second element is less than the first. -/
def falls (less : α → α → Bool) (x : α) (xs : List α) : Bool := xs.head?.any (less · x)

/-- The run that begins with `x`, and what follows it. -/
def naturalRun (less : α → α → Bool) (x : α) (xs : List α) : List α × List α :=
  let parts := splitRun (fun a b => less b a == falls less x xs) x xs
  (if falls less x xs then (x :: parts.1).reverse else x :: parts.1, parts.2)

theorem naturalRun_perm (less : α → α → Bool) (x : α) (xs : List α) :
    ((naturalRun less x xs).1 ++ (naturalRun less x xs).2).Perm (x :: xs) := by
  have whole := splitRun_append (fun a b => less b a == falls less x xs) x xs
  conv => rhs; rw [← whole]
  unfold naturalRun
  split
  · exact (List.reverse_perm _).append_right _
  · rfl

theorem place_perm (less : α → α → Bool) (x : α) (xs : List α) :
    (place less x xs).Perm (x :: xs) := by
  induction h : xs.length using Nat.strongRecOn generalizing xs with
  | ind n ih =>
    subst h
    have parts := List.take_append_drop (xs.length / 2) xs
    rw [place]
    split
    · next empty =>
      rw [List.drop_eq_nil_iff] at empty
      have : xs = [] := List.eq_nil_of_length_eq_zero (by omega)
      simp [this]
    · next y after found =>
      have size := congrArg List.length found
      simp only [List.length_drop, List.length_cons] at size
      rw [found] at parts
      split
      · have := (ih _ (by simp only [List.length_take]; omega) (xs.take (xs.length / 2)) rfl)
        exact (this.append_right _).trans (by rw [List.cons_append, parts])
      · have := ih after.length (by omega) after rfl
        refine ((this.cons y).append_left _).trans ?_
        refine ((List.Perm.swap x y after).append_left _).trans ?_
        exact List.perm_middle.trans (by rw [parts])

theorem placeAll_perm (less : α → α → Bool) (sorted xs : List α) :
    (placeAll less sorted xs).Perm (sorted ++ xs) := by
  induction xs generalizing sorted with
  | nil => simp [placeAll]
  | cons y ys ih =>
    refine (ih _).trans (((place_perm less y sorted).append_right ys).trans ?_)
    exact List.perm_middle.symm

/-- The run that begins with `x`, of at least `shortest` elements if so many are left, and what
follows it. -/
def takeRun (less : α → α → Bool) (shortest : Nat) (x : α) (xs : List α) : List α × List α :=
  let parts := naturalRun less x xs
  let missing := shortest - parts.1.length
  (placeAll less parts.1 (parts.2.take missing), parts.2.drop missing)

theorem takeRun_perm (less : α → α → Bool) (shortest : Nat) (x : α) (xs : List α) :
    ((takeRun less shortest x xs).1 ++ (takeRun less shortest x xs).2).Perm (x :: xs) := by
  refine ((placeAll_perm less _ _).append_right _).trans ?_
  simp only [takeRun, List.append_assoc, List.take_append_drop]
  exact naturalRun_perm less x xs

theorem length_naturalRun_pos (less : α → α → Bool) (x : α) (xs : List α) :
    0 < (naturalRun less x xs).1.length := by
  unfold naturalRun
  split <;> simp

theorem length_takeRun_lt (less : α → α → Bool) (shortest : Nat) (x : α) (xs : List α) :
    (takeRun less shortest x xs).2.length < (x :: xs).length := by
  have whole := (naturalRun_perm less x xs).length_eq
  have first := length_naturalRun_pos less x xs
  simp only [takeRun, List.length_drop, List.length_append] at whole ⊢
  omega

def runs (less : α → α → Bool) (shortest : Nat) : List α → List (List α)
  | [] => []
  | x :: xs =>
    (takeRun less shortest x xs).1 :: runs less shortest (takeRun less shortest x xs).2
termination_by xs => xs.length
decreasing_by exact length_takeRun_lt less shortest x xs

theorem runs_perm (less : α → α → Bool) (shortest : Nat) (xs : List α) :
    (runs less shortest xs).flatten.Perm xs := by
  fun_induction runs less shortest xs with
  | case1 => rfl
  | case2 x xs ih =>
    rw [List.flatten_cons]
    exact (ih.append_left _).trans (takeRun_perm less shortest x xs)

end Bookmarks.Sorting
