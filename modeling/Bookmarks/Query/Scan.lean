import Bookmarks.Query.Basic
import Bookmarks.Text.Blank
import Bookmarks.Text.Class
import Bookmarks.Text.Occurrence

/-! Finding clauses in a text. A clause begins at the edge of a word; from left to right each place
where one can be read gives a clause, and what no clause covers remains. -/

namespace Bookmarks.Query

/-- A field with its value, and the operator in front of it if there is one. -/
structure FieldClause where
  lead : Option Operator
  field : QueryField
  value : String
  deriving DecidableEq

/-- An operator with its term. -/
structure TermClause where
  operator : Operator
  term : String
  deriving DecidableEq

/-- The first of several readings that succeeds. -/
def firstOf {α β : Type} (read : α → Option β) (choices : List α) : Option (α × β) :=
  choices.findSome? fun a => (read a).map fun b => (a, b)

/-- A run of characters that are not blank, of at least one. -/
def readRun? (s : List Char) : Option (String × List Char) :=
  let run := s.takeWhile (!Text.isBlank ·)
  if run.isEmpty then none else some (String.ofList run, s.dropWhile (!Text.isBlank ·))

/-- A quoted value, not empty, or else a run. -/
def readValue? (s : List Char) : Option (String × List Char) :=
  match s with
  | '"' :: rest =>
    match rest.takeWhile (· != '"'), rest.dropWhile (· != '"') with
    | c :: body, _ :: after => some (String.ofList (c :: body), after)
    | _, _ => readRun? s
  | _ => readRun? s

/-- An operator word and the blanks behind it, of which there is at least one. -/
def readOperator? (s : List Char) : Option (Operator × List Char) := do
  let (operator, rest) ← firstOf (fun (o : Operator) => Text.after? o.word.toList s) Operator.all
  match rest with
  | c :: _ => if Text.isBlank c then some (operator, rest.dropWhile Text.isBlank) else none
  | [] => none

/-- A field name, a colon and a value. -/
def readField? (s : List Char) : Option (QueryField × String × List Char) := do
  let (field, rest) ←
    firstOf (fun (f : QueryField) => Text.after? f.keyword s) QueryField.all
  let (value, rest) ← readValue? rest
  return (field, value, rest)

def readFieldClause? (s : List Char) : Option (FieldClause × List Char) :=
  match readOperator? s with
  | some (operator, rest) => do
    let (field, value, rest) ← readField? rest
    return (⟨some operator, field, value⟩, rest)
  | none => do
    let (field, value, rest) ← readField? s
    return (⟨none, field, value⟩, rest)

def readTermClause? (s : List Char) : Option (TermClause × List Char) := do
  let (operator, rest) ← readOperator? s
  let (term, rest) ← readRun? rest
  return (⟨operator, term⟩, rest)

/-- A character that no clause covers, or a clause. -/
inductive Piece (α : Type) where
  | plain (c : Char)
  | clause (clause : α)
  deriving DecidableEq

/-- The pieces of a text. The first `skip` characters belong to the clause before, and `edge` tells
whether no word character stands before the next one. -/
def scan {α : Type} (read? : List Char → Option (α × List Char)) :
    Nat → Bool → List Char → List (Piece α)
  | _, _, [] => []
  | skip + 1, edge, _ :: cs => scan read? skip edge cs
  | 0, edge, c :: cs =>
    match if edge then read? (c :: cs) else none with
    | some (clause, rest) => .clause clause :: scan read? (cs.length - rest.length) true cs
    | none => .plain c :: scan read? 0 (!Text.isWord c) cs

def pieces {α : Type} (read? : List Char → Option (α × List Char)) (s : List Char) :
    List (Piece α) :=
  scan read? 0 true s

def clauses {α : Type} (ps : List (Piece α)) : List α :=
  ps.filterMap fun
    | .plain _ => none
    | .clause clause => some clause

/-- What remains, a space standing for each clause. -/
def remainder {α : Type} (ps : List (Piece α)) : List Char :=
  ps.map fun
    | .plain c => c
    | .clause _ => ' '

end Bookmarks.Query
