/-! Tables over code points, each in ascending order: ranges that form a set, shifts that carry one
range onto another, and segments that list the image of every code point. A lookup stops at the
first entry that lies past its code point. -/

namespace Bookmarks.Text

/-- Pairs of a first and a last code point. -/
abbrev Ranges := List (Nat × Nat)

def Ranges.has : Ranges → Nat → Bool
  | [], _ => false
  | (first, last) :: rest, c => !(c < first) && (decide (c ≤ last) || Ranges.has rest c)

/-- Entries `(first, last, stride, image)`: every `stride`-th code point from `first` to `last` is
carried as far as `first` is carried to `image`. -/
abbrev Shifts := List (Nat × Nat × Nat × Nat)

def Shifts.image? : Shifts → Nat → Option Nat
  | [], _ => none
  | (first, last, stride, image) :: rest, c =>
    if c < first then none
    else if c ≤ last then
      if (c - first) % stride = 0 then some (image + (c - first)) else none
    else Shifts.image? rest c

/-- Entries `(first, images)`: the images of consecutive code points from `first` on. -/
abbrev Segments := List (Nat × List (List Nat))

def Segments.image? : Segments → Nat → Option (List Nat)
  | [], _ => none
  | (first, images) :: rest, c =>
    if c < first then none
    else match images[c - first]? with
      | some image => some image
      | none => Segments.image? rest c

/-- The image of a character under a longer form, else a shift, else itself. -/
def imageOf (longer : Segments) (shifts : Shifts) (c : Char) : List Char :=
  match longer.image? c.toNat with
  | some image => image.map Char.ofNat
  | none => match shifts.image? c.toNat with
    | some n => [Char.ofNat n]
    | none => [c]

end Bookmarks.Text
