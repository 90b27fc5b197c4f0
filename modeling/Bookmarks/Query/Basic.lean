import Bookmarks.DateFilter

/-! Search queries: terms for single fields, required or excluded, terms that are combined by
operators, a date condition, and free text. -/

namespace Bookmarks

/-- The words that combine terms. -/
inductive Operator where
  | and
  | or
  | not
  deriving DecidableEq

namespace Operator

def all : List Operator := [and, or, not]

def word : Operator → String
  | and => "AND"
  | or => "OR"
  | not => "NOT"

end Operator

/-- The fields that a query can name. -/
inductive QueryField where
  | title
  | description
  | tag
  | filepath
  | created
  deriving DecidableEq

namespace QueryField

def all : List QueryField := [title, description, tag, filepath, created]

def name : QueryField → String
  | title => "title"
  | description => "description"
  | tag => "tag"
  | filepath => "filepath"
  | created => "created"

/-- The name and the colon that parts it from a value. -/
def keyword (field : QueryField) : List Char := field.name.toList ++ [':']

end QueryField

/-- At most one term for each field with one value, and any number for the tags. -/
structure FieldTerms where
  title : Option String := none
  description : Option String := none
  filepath : Option String := none
  tags : List String := []
  deriving DecidableEq

/-- Puts a value into its field; a later value replaces an earlier one except among the tags. -/
def FieldTerms.put (terms : FieldTerms) (field : QueryField) (value : String) : FieldTerms :=
  match field with
  | .title => { terms with title := some value }
  | .description => { terms with description := some value }
  | .filepath => { terms with filepath := some value }
  | .tag => { terms with tags := terms.tags ++ [value] }
  | .created => terms

structure Query where
  text : String := ""
  required : FieldTerms := {}
  excluded : FieldTerms := {}
  allOf : List String := []
  anyOf : List String := []
  noneOf : List String := []
  created : Option DateCondition := none
  deriving DecidableEq

end Bookmarks
