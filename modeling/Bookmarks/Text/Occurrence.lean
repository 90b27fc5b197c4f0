/-! Occurrences of one text in another. -/

namespace Bookmarks.Text

/-- Whether `part` stands somewhere in the text. -/
def occurs (part : List Char) : List Char → Bool
  | [] => part.isEmpty
  | c :: cs => part.isPrefixOf (c :: cs) || occurs part cs

theorem occurs_nil_left (s : List Char) : occurs [] s = true := by
  cases s <;> simp [occurs]

theorem occurs_iff {part s : List Char} : occurs part s = true ↔ part <:+: s := by
  induction s with
  | nil => simp [occurs, List.infix_nil]
  | cons c cs ih => simp [occurs, ih, List.infix_cons_iff]

/-- What follows `lead` when the text begins with it. -/
def after? (lead s : List Char) : Option (List Char) :=
  if lead.isPrefixOf s then some (s.drop lead.length) else none

/-- The text from the last place on at which `part` stands. -/
def fromLast? (part : List Char) : List Char → Option (List Char)
  | [] => if part.isEmpty then some [] else none
  | c :: cs => match fromLast? part cs with
    | some rest => some rest
    | none => if part.isPrefixOf (c :: cs) then some (c :: cs) else none

/-- The text less the places, taken from the left, at which `part` stands; `skip` characters of
such a place are still to be passed. -/
def withoutFrom (part : List Char) : Nat → List Char → List Char
  | _, [] => []
  | skip + 1, _ :: cs => withoutFrom part skip cs
  | 0, c :: cs =>
    if part.isPrefixOf (c :: cs) then withoutFrom part (part.length - 1) cs
    else c :: withoutFrom part 0 cs

def without (part s : List Char) : List Char := withoutFrom part 0 s

end Bookmarks.Text
