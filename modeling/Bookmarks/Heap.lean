/-! Binary heaps. The elements lie in rows, and none is less than the one above it, so that the
first one is the least. Which of several that are level comes first depends on how the heap grew.
-/

namespace Bookmarks

/-- The elements row by row: below the one at `i` are those at `2 * i + 1` and `2 * i + 2`. -/
abbrev Heap (α : Type) := Array α

namespace Heap

variable {α : Type}

/-- Moves an element up while it is less than the one above it, but not beyond `top`. -/
def rise (less : α → α → Bool) (top : Nat) (heap : Heap α) (i : Nat) : Heap α :=
  if h : top < i ∧ i < heap.size then
    have : (i - 1) / 2 < i := by omega
    if less heap[i] heap[(i - 1) / 2] then rise less top (heap.swap i ((i - 1) / 2)) ((i - 1) / 2)
    else heap
  else heap

/-- The lesser one of the two places below a place; the second one if they are level. -/
def lesser (less : α → α → Bool) (heap : Heap α) (i : Nat) : Nat :=
  if h : 2 * i + 2 < heap.size then
    if less heap[2 * i + 1] heap[2 * i + 2] then 2 * i + 1 else 2 * i + 2
  else 2 * i + 1

theorem lt_lesser (less : α → α → Bool) (heap : Heap α) (i : Nat) : i < lesser less heap i := by
  unfold lesser
  split
  · split <;> omega
  · omega

theorem lesser_lt_size (less : α → α → Bool) {heap : Heap α} {i : Nat}
    (h : 2 * i + 1 < heap.size) : lesser less heap i < heap.size := by
  unfold lesser
  split
  · split <;> omega
  · omega

/-- Moves an element down to the bottom, each time past the lesser of the two below it, and then up
again as far as it goes. -/
def sink (less : α → α → Bool) (top : Nat) (heap : Heap α) (i : Nat) : Heap α :=
  if h : 2 * i + 1 < heap.size then
    have := lt_lesser less heap i
    have := lesser_lt_size less h
    sink less top (heap.swap i (lesser less heap i)) (lesser less heap i)
  else rise less top heap i
termination_by heap.size - i
decreasing_by simp only [Array.size_swap]; omega

def insert (less : α → α → Bool) (heap : Heap α) (x : α) : Heap α :=
  rise less 0 (heap.push x) heap.size

def first? (heap : Heap α) : Option α := heap[0]?

/-- The heap without its first element, whose place the last one takes before it sinks. -/
def dropFirst (less : α → α → Bool) (heap : Heap α) : Heap α :=
  if h : 0 < heap.size then sink less 0 (heap.swap 0 (heap.size - 1)).pop 0 else heap

/-- Makes a heap of any elements, the last that have others below them sinking first. -/
def ofArray (less : α → α → Bool) (elements : Array α) : Heap α :=
  (List.range (elements.size / 2)).foldr (fun i heap => sink less i heap i) elements

theorem rise_perm (less : α → α → Bool) (top : Nat) (heap : Heap α) (i : Nat) :
    (rise less top heap i).Perm heap := by
  fun_induction rise less top heap i with
  | case1 heap i _ _ _ ih => exact ih.trans (Array.swap_perm ..)
  | case2 => exact .rfl
  | case3 => exact .rfl

theorem sink_perm (less : α → α → Bool) (top : Nat) (heap : Heap α) (i : Nat) :
    (sink less top heap i).Perm heap := by
  fun_induction sink less top heap i with
  | case1 heap i _ _ _ ih => exact ih.trans (Array.swap_perm ..)
  | case2 heap i => exact rise_perm less top heap i

theorem insert_perm (less : α → α → Bool) (heap : Heap α) (x : α) :
    (insert less heap x).Perm (heap.push x) := rise_perm ..

theorem size_dropFirst (less : α → α → Bool) (heap : Heap α) :
    (dropFirst less heap).size = heap.size - 1 := by
  unfold dropFirst
  split
  · rw [(sink_perm ..).size_eq]
    simp
  · omega

theorem ofArray_perm (less : α → α → Bool) (elements : Array α) :
    (ofArray less elements).Perm elements := by
  unfold ofArray
  induction List.range (elements.size / 2) with
  | nil => exact .rfl
  | cons i is ih => exact (sink_perm less i _ i).trans ih

end Heap

end Bookmarks
