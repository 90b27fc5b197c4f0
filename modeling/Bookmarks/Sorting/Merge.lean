/-! Merging two runs. Elements are taken singly from whichever run comes first, until one of the
runs has come first often enough in a row; then as many elements as belong together are sought in
leaps and taken at once, for as long as that pays. How often is often enough is learnt from one
merge for the next. -/

namespace Bookmarks.Sorting

variable {α : Type}

/-- Goes on in leaps that double while the test holds, from `next`, the position `last` being the
last one at which it held; gives the gap in which it ends. -/
def widen (test : α → Bool) (xs : List α) (last next : Nat) : Nat × Nat :=
  if h : next < xs.length then
    if test xs[next] then widen test xs next (2 * next + 1) else (last, next)
  else (last, xs.length)
termination_by xs.length - next

/-- Halves the gap from `low` to `high` until it is empty. Of two positions in the middle the later
one is looked at, or the earlier one if so told. -/
def narrow (early : Bool) (test : α → Bool) (xs : List α) (low high : Nat) : Nat :=
  if low < high then
    let middle := low + (if early then high - low - 1 else high - low) / 2
    if xs[middle]?.any test then narrow early test xs (middle + 1) high
    else narrow early test xs low middle
  else low
termination_by high - low
decreasing_by
  all_goals
    split
    all_goals omega

/-- How many elements at the start pass a test, provided that none passes it behind one that does
not. -/
def lead (early : Bool) (test : α → Bool) (xs : List α) : Nat :=
  match xs with
  | [] => 0
  | x :: _ =>
    if test x then
      let gap := widen test xs 0 1
      narrow early test xs (gap.1 + 1) gap.2
    else 0

/-- A merge on its way: what is merged already, the last of it first, and what remains of the two
runs. -/
structure Merging (α : Type) where
  merged : List α
  left : List α
  right : List α

namespace Merging

def size (m : Merging α) : Nat := m.left.length + m.right.length

/-- Whether nothing needs to be compared any more. The last element of the left run is known to come
last of all. -/
def isOver (m : Merging α) : Bool := m.left.tail.isEmpty || m.right.isEmpty

def result (m : Merging α) : List α := m.merged.reverse ++ (m.right ++ m.left)

def takeLeft (count : Nat) (m : Merging α) : Merging α :=
  if m.isOver then m else ⟨(m.left.take count).reverse ++ m.merged, m.left.drop count, m.right⟩

def takeRight (count : Nat) (m : Merging α) : Merging α :=
  if m.isOver then m else ⟨(m.right.take count).reverse ++ m.merged, m.left, m.right.drop count⟩

/-- Whether the right run comes first. -/
def isRightFirst (less : α → α → Bool) (m : Merging α) : Bool :=
  match m.left, m.right with
  | x :: _, y :: _ => less y x
  | _, _ => false

/-- How many elements of the left run come before the right run. -/
def leftLead (less : α → α → Bool) (early : Bool) (m : Merging α) : Nat :=
  match m.right with
  | [] => 0
  | y :: _ => lead early (fun x => !less y x) m.left

/-- How many elements of the right run come before the left run. -/
def rightLead (less : α → α → Bool) (early : Bool) (m : Merging α) : Nat :=
  match m.left with
  | [] => 0
  | x :: _ => lead early (fun y => less y x) m.right

/-- Takes what comes first of the left run, and the one of the right run that comes next. -/
def leapLeft (less : α → α → Bool) (early : Bool) (m : Merging α) : Merging α :=
  takeRight 1 (m.takeLeft (m.leftLead less early))

/-- Takes what comes first of the right run, and the one of the left run that comes next. -/
def leapRight (less : α → α → Bool) (early : Bool) (m : Merging α) : Merging α :=
  takeLeft 1 (m.takeRight (m.rightLead less early))

/-- A leap in either run. -/
def leap (less : α → α → Bool) (backwards : Bool) (m : Merging α) : Merging α :=
  if backwards then (m.leapRight less true).leapLeft less true
  else (m.leapLeft less false).leapRight less false

/-- Whether one of the two leaps was long enough to go on in this way. -/
def isLeapLong (less : α → α → Bool) (backwards : Bool) (m : Merging α) : Bool :=
  if backwards then
    decide (7 ≤ m.rightLead less true) || decide (7 ≤ (m.leapRight less true).leftLead less true)
  else
    decide (7 ≤ m.leftLead less false) || decide (7 ≤ (m.leapLeft less false).rightLead less false)

theorem size_takeLeft_le (count : Nat) (m : Merging α) : (m.takeLeft count).size ≤ m.size := by
  unfold takeLeft size
  split <;> simp

theorem size_takeRight_le (count : Nat) (m : Merging α) : (m.takeRight count).size ≤ m.size := by
  unfold takeRight size
  split <;> simp

theorem isOver_eq_false {m : Merging α} :
    m.isOver = false ↔ 2 ≤ m.left.length ∧ 0 < m.right.length := by
  rw [isOver, Bool.or_eq_false_iff, List.isEmpty_eq_false_iff, List.isEmpty_eq_false_iff,
    ← List.length_pos_iff, ← List.length_pos_iff, List.length_tail, Nat.sub_pos_iff_lt]
  rfl

theorem size_takeLeft_lt {m : Merging α} (h : m.isOver = false) {count : Nat} (hc : 0 < count) :
    (m.takeLeft count).size < m.size := by
  have := isOver_eq_false.1 h
  simp only [takeLeft, h, size, Bool.false_eq_true, if_false, List.length_drop]
  omega

theorem size_takeRight_lt {m : Merging α} (h : m.isOver = false) {count : Nat} (hc : 0 < count) :
    (m.takeRight count).size < m.size := by
  have := isOver_eq_false.1 h
  simp only [takeRight, h, size, Bool.false_eq_true, if_false, List.length_drop]
  omega

/-- Of two moves the first one ends the merge or the second one takes something. -/
theorem size_takeRight_takeLeft_lt {m : Merging α} (h : m.isOver = false) (count : Nat) :
    (takeRight 1 (m.takeLeft count)).size < m.size := by
  cases ended : (m.takeLeft count).isOver
  · exact Nat.lt_of_lt_of_le (size_takeRight_lt ended Nat.one_pos) (size_takeLeft_le count m)
  · cases count with
    | zero => simp [takeLeft, h] at ended
    | succ count =>
      exact Nat.lt_of_le_of_lt (size_takeRight_le 1 _) (size_takeLeft_lt h (Nat.succ_pos count))

theorem size_takeLeft_takeRight_lt {m : Merging α} (h : m.isOver = false) (count : Nat) :
    (takeLeft 1 (m.takeRight count)).size < m.size := by
  cases ended : (m.takeRight count).isOver
  · exact Nat.lt_of_lt_of_le (size_takeLeft_lt ended Nat.one_pos) (size_takeRight_le count m)
  · cases count with
    | zero => simp [takeRight, h] at ended
    | succ count =>
      exact Nat.lt_of_le_of_lt (size_takeLeft_le 1 _) (size_takeRight_lt h (Nat.succ_pos count))

theorem size_leap_lt (less : α → α → Bool) (backwards : Bool) {m : Merging α}
    (h : m.isOver = false) : (m.leap less backwards).size < m.size := by
  unfold leap
  split
  · refine Nat.lt_of_le_of_lt ?_ (size_takeLeft_takeRight_lt h (m.rightLead less true))
    exact Nat.le_trans (size_takeRight_le 1 _) (size_takeLeft_le _ _)
  · refine Nat.lt_of_le_of_lt ?_ (size_takeRight_takeLeft_lt h (m.leftLead less false))
    exact Nat.le_trans (size_takeLeft_le 1 _) (size_takeRight_le _ _)

/-- How a merge goes on: singly, either run having come first so often in a row, or in leaps. -/
inductive Pace where
  | singly (leftWins rightWins : Nat)
  | leaping (isFirst : Bool)

/-- Goes over to leaps when a run has come first often enough. -/
def paceAfter (threshold leftWins rightWins : Nat) : Pace :=
  if threshold ≤ leftWins ∨ threshold ≤ rightWins then .leaping true
  else .singly leftWins rightWins

/-- The threshold and the pace after a leap: each further leap lowers the threshold to no less than
one, and to leave the leaps raises it. -/
def afterLeap (less : α → α → Bool) (backwards : Bool) (threshold : Nat) (isFirst : Bool)
    (m : Merging α) : Nat × Pace :=
  let threshold := if isFirst then threshold else max 1 (threshold - 1)
  if m.isLeapLong less backwards then (threshold, .leaping false)
  else if (m.leap less backwards).isOver then (threshold, .singly 0 0)
  else (threshold + 1, .singly 0 0)

/-- Merges to the end, and gives the threshold as it is then. -/
def run (less : α → α → Bool) (backwards : Bool) (threshold : Nat) (pace : Pace)
    (m : Merging α) : List α × Nat :=
  if h : m.isOver then (m.result, threshold)
  else
    have h : m.isOver = false := by simpa using h
    match pace with
    | .singly leftWins rightWins =>
      if m.isRightFirst less then
        run less backwards threshold (paceAfter threshold 0 (rightWins + 1)) (m.takeRight 1)
      else
        run less backwards threshold (paceAfter threshold (leftWins + 1) 0) (m.takeLeft 1)
    | .leaping isFirst =>
      let (threshold, pace) := m.afterLeap less backwards threshold isFirst
      run less backwards threshold pace (m.leap less backwards)
termination_by m.size
decreasing_by
  · exact size_takeRight_lt h Nat.one_pos
  · exact size_takeLeft_lt h Nat.one_pos
  · exact size_leap_lt less backwards h

theorem run_of_isOver (less : α → α → Bool) (backwards : Bool) (threshold : Nat) (pace : Pace)
    {m : Merging α} (h : m.isOver = true) :
    m.run less backwards threshold pace = (m.result, threshold) := by
  rw [run.eq_def, dif_pos h]

theorem run_singly (less : α → α → Bool) (backwards : Bool) (threshold leftWins rightWins : Nat)
    {m : Merging α} (h : m.isOver = false) :
    m.run less backwards threshold (.singly leftWins rightWins) =
      if m.isRightFirst less then
        run less backwards threshold (paceAfter threshold 0 (rightWins + 1)) (m.takeRight 1)
      else
        run less backwards threshold (paceAfter threshold (leftWins + 1) 0) (m.takeLeft 1) := by
  rw [run.eq_def, dif_neg (by simp [h])]

theorem run_leaping (less : α → α → Bool) (backwards : Bool) (threshold : Nat) (isFirst : Bool)
    {m : Merging α} (h : m.isOver = false) :
    m.run less backwards threshold (.leaping isFirst) =
      run less backwards (m.afterLeap less backwards threshold isFirst).1
        (m.afterLeap less backwards threshold isFirst).2 (m.leap less backwards) := by
  rw [run.eq_def, dif_neg (by simp [h])]

end Merging

/-- Merges two runs of which the right one comes first and the last of the left one comes last. -/
def mergeForwards (less : α → α → Bool) (threshold : Nat) (left right : List α) : List α × Nat :=
  Merging.run less false threshold (.singly 0 0) ⟨right.take 1, left, right.drop 1⟩

/-- The same merge from the end, both runs and the order being turned round. -/
def mergeBackwards (less : α → α → Bool) (threshold : Nat) (left right : List α) : List α × Nat :=
  let (merged, threshold) := Merging.run (fun a b => less b a) true threshold (.singly 0 0)
    ⟨left.reverse.take 1, right.reverse, left.reverse.drop 1⟩
  (merged.reverse, threshold)

/-- Merges two runs of that kind from the end at which the shorter one lies. -/
def mergeOverlap (less : α → α → Bool) (threshold : Nat) (left right : List α) : List α × Nat :=
  if left.length ≤ right.length then mergeForwards less threshold left right
  else mergeBackwards less threshold left right

/-- Merges two runs. What is in its place already, at the start of the left run and at the end of
the right one, stays there. -/
def merge (less : α → α → Bool) (threshold : Nat) (left right : List α) : List α × Nat :=
  match right.head? with
  | none => (left, threshold)
  | some y =>
    let kept := lead false (fun x => !less y x) left
    match (left.drop kept).getLast? with
    | none => (left ++ right, threshold)
    | some x =>
      let moved := right.length - lead true (fun y => !less y x) right.reverse
      if moved = 0 then (left ++ right, threshold)
      else
        let (merged, threshold) :=
          mergeOverlap less threshold (left.drop kept) (right.take moved)
        (left.take kept ++ (merged ++ right.drop moved), threshold)

end Bookmarks.Sorting
