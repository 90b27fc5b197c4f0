import Bookmarks.Fault

/-! Verdicts of tests that may run into a fault. They are reached from left to right: what comes
after the deciding part is not looked at, so a fault there does not show. -/

namespace Bookmarks

abbrev Verdict := Except Fault Bool

namespace Verdict

def and (a b : Verdict) : Verdict :=
  match a with
  | .ok true => b
  | other => other

def or (a b : Verdict) : Verdict :=
  match a with
  | .ok false => b
  | other => other

def not (a : Verdict) : Verdict := a.map (!·)

def all : List Verdict → Verdict
  | [] => .ok true
  | a :: rest => a.and (all rest)

def any : List Verdict → Verdict
  | [] => .ok false
  | a :: rest => a.or (any rest)

@[simp] theorem and_ok (a b : Bool) : and (.ok a) (.ok b) = .ok (a && b) := by cases a <;> rfl

@[simp] theorem or_ok (a b : Bool) : or (.ok a) (.ok b) = .ok (a || b) := by cases a <;> rfl

@[simp] theorem not_ok (a : Bool) : not (.ok a) = .ok (!a) := rfl

theorem all_ok (as : List Bool) : all (as.map .ok) = .ok (as.all id) := by
  induction as with
  | nil => rfl
  | cons a as ih => simp [all, ih]

theorem any_ok (as : List Bool) : any (as.map .ok) = .ok (as.any id) := by
  induction as with
  | nil => rfl
  | cons a as ih => simp [any, ih]

/-- The members of a list that pass a test, in order. -/
def keep {α : Type} (test : α → Verdict) : List α → Except Fault (List α)
  | [] => .ok []
  | x :: xs => do
    let passed ← test x
    let rest ← keep test xs
    return if passed then x :: rest else rest

theorem keep_ok {α : Type} (test : α → Bool) (xs : List α) :
    keep (fun x => .ok (test x)) xs = .ok (xs.filter test) := by
  induction xs with
  | nil => rfl
  | cons x xs ih =>
    by_cases h : test x <;> simp [keep, ih, h, bind, Except.bind, pure, Except.pure]

end Verdict

end Bookmarks
