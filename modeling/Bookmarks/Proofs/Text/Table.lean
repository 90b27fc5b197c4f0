import Bookmarks.Text.Range
import Mathlib.Data.List.Basic

/-! What whole tables of code points have in common, found by going over their entries. Tables that
list ranges can be told apart, and a table that carries code points can be shown to start from or
arrive at the ranges of another, without a look at each code point. Every check stops where the
lookup that it speaks about stops, so no table need be known to be in order. -/

namespace Bookmarks.Text

/-! ### Ranges -/

namespace Ranges

variable {rs others : Ranges} {first last c : Nat}

/-- Whether one of the ranges has everything from `first` to `last`. -/
def covers (first last : Nat) : Ranges → Bool
  | [] => false
  | (f, l) :: rest => !(first < f) && (decide (last ≤ l) || covers first last rest)

theorem has_of_covers (h : covers first last rs = true) (low : first ≤ c) (high : c ≤ last) :
    rs.has c = true := by
  induction rs with
  | nil => cases h
  | cons r rest ih =>
    obtain ⟨f, l⟩ := r
    simp only [covers, Bool.and_eq_true, Bool.or_eq_true, Bool.not_eq_true', decide_eq_false_iff_not,
      decide_eq_true_eq] at h
    simp only [has, Bool.and_eq_true, Bool.or_eq_true, Bool.not_eq_true', decide_eq_false_iff_not,
      decide_eq_true_eq]
    obtain ⟨starts, ends | later⟩ := h
    · exact ⟨by omega, .inl (by omega)⟩
    · exact ⟨by omega, .inr (ih later)⟩

/-- Whether the ranges have nothing from `first` to `last`. -/
def misses (first last : Nat) : Ranges → Bool
  | [] => true
  | (f, l) :: rest => decide (last < f) || (decide (l < first) && misses first last rest)

theorem has_of_misses (h : misses first last rs = true) (low : first ≤ c) (high : c ≤ last) :
    rs.has c = false := by
  induction rs with
  | nil => rfl
  | cons r rest ih =>
    obtain ⟨f, l⟩ := r
    simp only [misses, Bool.or_eq_true, Bool.and_eq_true, decide_eq_true_eq] at h
    rw [has]
    obtain before | ⟨after, later⟩ := h
    · simp [show c < f by omega]
    · simp [show ¬ c ≤ l by omega, ih later]

/-- Whether two tables have nothing in common: of the second, what ends before a range of the first
begins is left behind. -/
def apart : Ranges → Ranges → Bool
  | [], _ => true
  | (first, last) :: rest, others =>
    let later := others.dropWhile (·.2 < first)
    (match later with
      | [] => true
      | (f, _) :: _ => decide (last < f)) && apart rest later

theorem has_dropWhile (h : others.has c = true) (low : first ≤ c) :
    Ranges.has (others.dropWhile (·.2 < first)) c = true := by
  induction others with
  | nil => cases h
  | cons r rest ih =>
    obtain ⟨f, l⟩ := r
    by_cases behind : l < first
    · rw [List.dropWhile_cons_of_pos (by simpa using behind)]
      refine ih ?_
      simp only [has, Bool.and_eq_true, Bool.or_eq_true, decide_eq_true_eq] at h
      exact h.2.resolve_left (by omega)
    · rwa [List.dropWhile_cons_of_neg (by simpa using behind)]

theorem has_of_apart (h : apart rs others = true) (mem : rs.has c = true) :
    others.has c = false := by
  induction rs generalizing others with
  | nil => cases mem
  | cons r rest ih =>
    obtain ⟨first, last⟩ := r
    simp only [apart, Bool.and_eq_true] at h
    simp only [has, Bool.and_eq_true, Bool.or_eq_true, Bool.not_eq_true', decide_eq_false_iff_not,
      decide_eq_true_eq] at mem
    obtain ⟨clear, others_apart⟩ := h
    obtain ⟨low, high⟩ := mem
    -- what is left of the others has the same code points from here on
    refine Bool.eq_false_iff.2 fun both => ?_
    have kept := has_dropWhile both (Nat.le_of_not_lt low)
    rcases high with high | later
    · split at clear
      · next gone =>
        rw [gone] at kept
        cases kept
      · next f l tail left =>
        have past : last < f := by simpa using clear
        rw [left, has] at kept
        simp [show c < f by omega] at kept
    · exact Bool.eq_false_iff.1 (ih others_apart later) kept

end Ranges

/-! ### Shifts -/

namespace Shifts

variable {shifts : Shifts} {rs : Ranges} {n m : Nat}

/-- What is carried elsewhere stands in the range of an entry, a number of strides from its start. -/
theorem image?_eq_some (h : shifts.image? n = some m) : ∃ first last stride image,
    (first, last, stride, image) ∈ shifts ∧ first ≤ n ∧ n ≤ last ∧ (n - first) % stride = 0 ∧
      m = image + (n - first) := by
  induction shifts with
  | nil => cases h
  | cons e rest ih =>
    obtain ⟨first, last, stride, image⟩ := e
    rw [image?] at h
    split at h
    · cases h
    · next low =>
      split at h
      · next high =>
        split at h
        · next whole =>
          cases h
          exact ⟨first, last, stride, image, List.mem_cons_self, by omega, high, whole, rfl⟩
        · cases h
      · obtain ⟨f, l, s, i, mem, place⟩ := ih h
        exact ⟨f, l, s, i, List.mem_cons_of_mem _ mem, place⟩

/-- Whether all that is carried elsewhere starts from the ranges. -/
def startsIn (rs : Ranges) (shifts : Shifts) : Bool :=
  shifts.all fun (first, last, stride, _) =>
    rs.covers first last || (List.range' first ((last - first) / stride + 1) stride).all rs.has

theorem has_of_startsIn (h : startsIn rs shifts = true) (carried : shifts.image? n = some m) :
    rs.has n = true := by
  obtain ⟨first, last, stride, image, mem, low, high, whole, -⟩ := image?_eq_some carried
  have entry := List.all_eq_true.1 h _ mem
  simp only [Bool.or_eq_true, List.all_eq_true] at entry
  obtain covered | each := entry
  · exact Ranges.has_of_covers covered low high
  · refine each n (List.mem_range'.2 ⟨(n - first) / stride, ?_, ?_⟩)
    · exact Nat.lt_succ_of_le (Nat.div_le_div_right (by omega))
    · have := Nat.mul_div_cancel' (Nat.dvd_of_mod_eq_zero whole)
      omega

/-- Whether all that is carried elsewhere arrives in the ranges. -/
def arrivesIn (rs : Ranges) (shifts : Shifts) : Bool :=
  shifts.all fun (first, last, _, image) => rs.covers image (image + (last - first))

theorem has_of_arrivesIn (h : arrivesIn rs shifts = true) (carried : shifts.image? n = some m) :
    rs.has m = true := by
  obtain ⟨first, last, stride, image, mem, low, high, -, rfl⟩ := image?_eq_some carried
  have entry : rs.covers image (image + (last - first)) = true := List.all_eq_true.1 h _ mem
  exact Ranges.has_of_covers entry (by omega) (by omega)

/-- Whether nothing that is carried elsewhere arrives in the ranges. -/
def avoids (rs : Ranges) (shifts : Shifts) : Bool :=
  shifts.all fun (first, last, _, image) => rs.misses image (image + (last - first))

theorem has_of_avoids (h : avoids rs shifts = true) (carried : shifts.image? n = some m) :
    rs.has m = false := by
  obtain ⟨first, last, stride, image, mem, low, high, -, rfl⟩ := image?_eq_some carried
  have entry : rs.misses image (image + (last - first)) = true := List.all_eq_true.1 h _ mem
  exact Ranges.has_of_misses entry (by omega) (by omega)

/-- Whether nothing in a row, every `stride`-th code point from `first` to `last`, is carried
elsewhere. Two rows of every second code point may lie one between the other. -/
def leaves (first last stride : Nat) : Shifts → Bool
  | [] => true
  | (f, l, s, _) :: rest =>
    decide (last < f) ||
      ((decide (l < first) ||
          ((stride == 2 || first == last) && s == 2 && (first + f) % 2 == 1)) &&
        leaves first last stride rest)

theorem image?_of_leaves {first last stride : Nat} (h : leaves first last stride shifts = true)
    (low : first ≤ n) (high : n ≤ last) (whole : (n - first) % stride = 0) :
    shifts.image? n = none := by
  induction shifts with
  | nil => rfl
  | cons e rest ih =>
    obtain ⟨f, l, s, i⟩ := e
    simp only [leaves, Bool.or_eq_true, Bool.and_eq_true, decide_eq_true_eq, beq_iff_eq] at h
    rw [image?]
    obtain before | ⟨behind | ⟨⟨second, rfl⟩, between⟩, later⟩ := h
    · rw [if_pos (by omega)]
    · rw [if_neg (show ¬ n ≤ l by omega), ih later, ite_self]
    · have even : (n - first) % 2 = 0 := by
        obtain rfl | rfl := second
        · exact whole
        · omega
      split
      · rfl
      · rw [if_neg (show ¬ (n - f) % 2 = 0 by omega), ih later, ite_self]

/-- Whether nothing that is carried elsewhere is carried on from there. -/
def settles (shifts : Shifts) : Bool :=
  shifts.all fun (first, last, stride, image) =>
    shifts.leaves image (image + (last - first)) stride

theorem image?_of_settles (h : settles shifts = true) (carried : shifts.image? n = some m) :
    shifts.image? m = none := by
  obtain ⟨first, last, stride, image, mem, low, high, whole, rfl⟩ := image?_eq_some carried
  have entry : shifts.leaves image (image + (last - first)) stride = true :=
    List.all_eq_true.1 h _ mem
  exact image?_of_leaves entry (by omega) (by omega) (by simpa using whole)

end Shifts

/-! ### Images of characters -/

theorem Segments.image?_eq_some {segments : Segments} {n : Nat} {image : List Nat}
    (h : segments.image? n = some image) :
    ∃ first images, (first, images) ∈ segments ∧ first ≤ n ∧ images[n - first]? = some image := by
  induction segments with
  | nil => cases h
  | cons e rest ih =>
    obtain ⟨first, images⟩ := e
    rw [image?] at h
    split at h
    · cases h
    · next low =>
      split at h
      · next found =>
        cases h
        exact ⟨first, images, List.mem_cons_self, by omega, found⟩
      · obtain ⟨f, i, mem, place⟩ := ih h
        exact ⟨f, i, List.mem_cons_of_mem _ mem, place⟩

/-- Whether no image is a single code point. -/
def Segments.areLonger (segments : Segments) : Bool :=
  segments.all fun (_, images) => images.all (·.length != 1)

/-- A character that becomes a single other one is carried there by the shifts. -/
theorem image?_of_imageOf {longer : Segments} {shifts : Shifts} {c d : Char}
    (long : longer.areLonger = true) (other : d ≠ c) (h : imageOf longer shifts c = [d]) :
    ∃ n, shifts.image? c.toNat = some n ∧ Char.ofNat n = d := by
  rw [imageOf] at h
  split at h
  · next image found =>
    obtain ⟨first, images, mem, -, place⟩ := Segments.image?_eq_some found
    have entry : images.all (·.length != 1) = true := List.all_eq_true.1 long _ mem
    have not_one : image.length ≠ 1 := by
      simpa using List.all_eq_true.1 entry image (List.mem_of_getElem? place)
    have one := congrArg List.length h
    rw [List.length_map] at one
    exact absurd one not_one
  · split at h
    · next n carried => exact ⟨n, carried, List.head_eq_of_cons_eq h⟩
    · exact absurd (List.head_eq_of_cons_eq h).symm other

/-- The code points of characters. -/
def characters : Ranges := [(0, 0xD7FF), (0xE000, 0x10FFFF)]

theorem toNat_ofNat {n : Nat} (h : characters.has n = true) : (Char.ofNat n).toNat = n := by
  simp only [characters, Ranges.has, Bool.and_eq_true, Bool.or_eq_true, Bool.not_eq_true',
    decide_eq_false_iff_not, decide_eq_true_eq, Bool.false_eq_true, or_false] at h
  have valid : n.isValidChar := by
    rw [Nat.isValidChar]
    omega
  rw [Char.ofNat, dif_pos valid]
  rfl

end Bookmarks.Text
