import Bookmarks.Query.Parse
import Bookmarks.Bookmark

/-! Queries as they are exchanged: each term may be a value of any kind, and only what is not looked
at may be of a wrong one. -/

namespace Bookmarks

open Json (Fields)

structure TermsForm where
  title : Json := .null
  description : Json := .null
  filepath : Json := .null
  tags : Json := .arr []

namespace TermsForm

def ofTerms (terms : FieldTerms) : TermsForm where
  title := .ofText? terms.title
  description := .ofText? terms.description
  filepath := .ofText? terms.filepath
  tags := .arr (terms.tags.map .str)

def ofFields (fields : Fields) : Except Fault TermsForm := do
  let tags ← (fields.at "tags").texts
  return {
    title := fields.at "title"
    description := fields.at "description"
    filepath := fields.at "filepath"
    tags := .arr (tags.map .str) }

/-- Terms that are no object are none at all. -/
def ofJson (value : Json) : Except Fault TermsForm :=
  match value with
  | .obj fields => ofFields fields
  | _ => .ok {}

def isEmpty (terms : TermsForm) : Bool :=
  terms.title.isVoid && terms.description.isVoid && terms.filepath.isVoid && terms.tags.isVoid

def toJson (terms : TermsForm) : Except Fault Json := do
  let named := [("title", terms.title), ("description", terms.description),
    ("filepath", terms.filepath)].filter fun field => !field.2.isNull
  let tags ← if terms.tags.isVoid then pure [] else do pure [("tags", .arr (← terms.tags.parts))]
  return .obj (named ++ tags)

end TermsForm

structure QueryForm where
  text : Json := .str ""
  required : TermsForm := {}
  excluded : TermsForm := {}
  allOf : Json := .arr []
  anyOf : Json := .arr []
  noneOf : Json := .arr []
  created : Option DateFilter := none

namespace QueryForm

def ofQuery (query : Query) : QueryForm where
  text := .str query.text
  required := .ofTerms query.required
  excluded := .ofTerms query.excluded
  allOf := .arr (query.allOf.map .str)
  anyOf := .arr (query.anyOf.map .str)
  noneOf := .arr (query.noneOf.map .str)
  created := query.created.map .ofCondition

/-- The fields of a value that is given, none for one that is not. -/
def optionalFields (value : Json) : Except Fault Fields :=
  if value.isVoid then .ok [] else value.fields

/-- The terms of an operator as a list. -/
def termsAt (operators : Fields) (operator : Operator) : Except Fault Json :=
  let terms := operators.at operator.word
  if terms.isVoid then .ok (.arr []) else terms.parts.map .arr

def ofFields (fields : Fields) : Except Fault QueryForm := do
  let dates ← optionalFields (fields.at "dateFilters")
  let required ← TermsForm.ofJson (fields.at "fieldSearches")
  let operators ← optionalFields (fields.at "operators")
  let allOf ← termsAt operators .and
  let anyOf ← termsAt operators .or
  let noneOf ← termsAt operators .not
  let excluded ← TermsForm.ofJson (fields.at "negatedFieldSearches")
  return {
    text := .str (fields.at "textSearch").textOrEmpty
    required, excluded, allOf, anyOf, noneOf
    created := match dates.at "created" with
      | .obj created => some (.ofFields created)
      | _ => none }

def ofJson (value : Json) : Except Fault QueryForm := do ofFields (← value.fields)

def isEmpty (query : QueryForm) : Bool :=
  query.text.isVoid && query.required.isEmpty && query.excluded.isEmpty &&
    query.allOf.isVoid && query.anyOf.isVoid && query.noneOf.isVoid && query.created.isNone

def toJson (query : QueryForm) : Except Fault Json := do
  let required ← query.required.toJson
  let excluded ← query.excluded.toJson
  let allOf ← query.allOf.parts
  let anyOf ← query.anyOf.parts
  let noneOf ← query.noneOf.parts
  return .obj [
    ("textSearch", query.text), ("fieldSearches", required), ("negatedFieldSearches", excluded),
    ("operators", .obj [("AND", .arr allOf), ("OR", .arr anyOf), ("NOT", .arr noneOf)]),
    ("dateFilters", .obj (query.created.map fun f => ("created", f.toJson)).toList)]

end QueryForm

end Bookmarks
