import Bookmarks.Query.Parse

/-! Queries as text: each field with its value in quotes, those that are required first, then those
that are excluded and the date condition; then each operator with its term; last the free text. -/

namespace Bookmarks

def DateCondition.text : DateCondition → String
  | within shortcut => shortcut.name
  | compared comparison bound => String.ofList (comparison.symbol :: bound.toList)

/-- The fields that have a value, one time for each value. -/
def FieldTerms.named (terms : FieldTerms) : List (QueryField × String) :=
  terms.title.toList.map (.title, ·) ++ terms.description.toList.map (.description, ·) ++
    terms.filepath.toList.map (.filepath, ·) ++ terms.tags.map (.tag, ·)

namespace Query

def FieldClause.render (clause : FieldClause) : List Char :=
  (clause.lead.elim [] fun operator => operator.word.toList ++ [' ']) ++ clause.field.keyword ++
    '"' :: (clause.value.toList ++ ['"'])

def TermClause.render (clause : TermClause) : List Char :=
  clause.operator.word.toList ++ ' ' :: clause.term.toList

def fieldClauses (query : Query) : List FieldClause :=
  (query.required.named.map fun (field, value) => ⟨none, field, value⟩) ++
    (query.excluded.named.map fun (field, value) => ⟨some .not, field, value⟩) ++
    query.created.toList.map fun condition => ⟨none, .created, condition.text⟩

def termClauses (query : Query) : List TermClause :=
  query.allOf.map (⟨.and, ·⟩) ++ query.anyOf.map (⟨.or, ·⟩) ++ query.noneOf.map (⟨.not, ·⟩)

/-- The free text as a part of a text, if there is any. -/
def textPart (query : Query) : List (List Char) :=
  if query.text.isEmpty then [] else [query.text.toList]

/-- The text of a query, its parts joined by single spaces. -/
def render (query : Query) : String :=
  String.ofList ([' '].intercalate (query.fieldClauses.map FieldClause.render ++
    (query.termClauses.map TermClause.render ++ query.textPart)))

end Query

end Bookmarks
