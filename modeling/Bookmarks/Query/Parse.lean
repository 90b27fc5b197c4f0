import Bookmarks.Query.Scan

/-! Reading queries. Field clauses are taken out of the tidy text first, then operators with their
terms, and the tidy remainder is the free text. Nothing is refused: what has no effect gives a
warning. -/

namespace Bookmarks.Query

inductive Warning where
  | orWithoutEffect (field : QueryField) (value : String)
  | negatedDate (value : String)
  | missingDate (value : String)
  | unknownDate (value : String)
  deriving DecidableEq

def Warning.message : Warning → String
  | orWithoutEffect field value =>
    "OR before " ++ field.name ++ ":" ++ value ++
      " has no effect; field filters always combine with AND"
  | negatedDate value => "Ignored NOT created:" ++ value ++ " (date filters cannot be negated)"
  | missingDate value => "Ignored created:" ++ value ++ " (missing date)"
  | unknownDate value => "Ignored created:" ++ value ++ " (unrecognized date filter)"

/-- A date condition: the name of a shortcut, or a comparison sign with a bound behind it. -/
def readCondition (value : String) : Except Warning DateCondition :=
  match Shortcut.ofName? value with
  | some shortcut => .ok (.within shortcut)
  | none => match value.toList with
    | [] => .error (.unknownDate value)
    | c :: bound => match Comparison.ofSymbol? c with
      | none => .error (.unknownDate value)
      | some comparison =>
        if bound.isEmpty then .error (.missingDate value)
        else .ok (.compared comparison (String.ofList bound))

def putDate (query : Query) (lead : Option Operator) (value : String) : Query × List Warning :=
  if lead = some .not then (query, [.negatedDate value])
  else match readCondition value with
    | .ok condition => ({ query with created := some condition }, [])
    | .error warning => (query, [warning])

def putField (query : Query) (clause : FieldClause) : Query × List Warning :=
  let warnings :=
    if clause.lead = some .or then [.orWithoutEffect clause.field clause.value] else []
  if clause.field = .created then
    let (query, more) := putDate query clause.lead clause.value
    (query, warnings ++ more)
  else if clause.lead = some .not then
    ({ query with excluded := query.excluded.put clause.field clause.value }, warnings)
  else ({ query with required := query.required.put clause.field clause.value }, warnings)

def putTerm (query : Query) (clause : TermClause) : Query :=
  match clause.operator with
  | .and => { query with allOf := query.allOf ++ [clause.term] }
  | .or => { query with anyOf := query.anyOf ++ [clause.term] }
  | .not => { query with noneOf := query.noneOf ++ [clause.term] }

/-- Puts field clauses into a query one after the other and gathers the warnings. -/
def putFields (query : Query) (clauses : List FieldClause) : Query × List Warning :=
  clauses.foldl (fun (query, warnings) clause =>
    let (query, more) := putField query clause
    (query, warnings ++ more)) (query, [])

/-- The query of a text that is tidy. -/
def parseTidy (s : List Char) : Query × List Warning :=
  let fields := pieces readFieldClause? s
  let terms := pieces readTermClause? (Text.tidy (remainder fields))
  let (query, warnings) := putFields {} (clauses fields)
  let query := (clauses terms).foldl putTerm query
  ({ query with text := String.ofList (Text.tidy (remainder terms)) }, warnings)

def parse (text : String) : Query × List Warning := parseTidy (Text.tidy text.toList)

end Bookmarks.Query
