import Bookmarks.Query.Basic
import Bookmarks.Text.Blank
import Bookmarks.Text.Case
import Bookmarks.Text.Occurrence
import Bookmarks.Slice

/-! Completions for the word in front of the caret: fields and operators that it begins, values
after the keyword of a field, and recent searches when there is no word yet. -/

namespace Bookmarks

inductive SuggestionKind where
  | field
  | operator
  | value
  | preset
  deriving DecidableEq

def SuggestionKind.name : SuggestionKind → String
  | field => "field"
  | operator => "operator"
  | value => "value"
  | preset => "preset"

structure Suggestion where
  kind : SuggestionKind
  label : String
  value : String
  description : String
  deriving DecidableEq

namespace Suggestion

def ofField (field : QueryField) : Suggestion :=
  let keyword := String.ofList field.keyword
  ⟨.field, keyword, keyword, "Search in " ++ field.name ++ " field"⟩

def ofOperator (operator : Operator) : Suggestion :=
  ⟨.operator, operator.word, operator.word ++ " ", operator.word ++ " operator for combining terms"⟩

def ofTag (tag : String) : Suggestion := ⟨.value, tag, tag, "Filter by tag: " ++ tag⟩

def ofShortcut (shortcut : Shortcut) : Suggestion :=
  ⟨.value, shortcut.name, shortcut.name, "Filter by " ++ shortcut.name⟩

def ofRecent (search : String) : Suggestion := ⟨.preset, search, search, "Recent search"⟩

def fieldsFor (word : List Char) : List Suggestion :=
  (QueryField.all.filter fun f => word.isPrefixOf f.keyword).map ofField

def operatorsFor (word : List Char) : List Suggestion :=
  (Operator.all.filter fun o => (Text.upper word).isPrefixOf o.word.toList).map ofOperator

/-- Whether the last keyword of a field has no space behind it. -/
def isOpen (field : QueryField) (before : List Char) : Bool :=
  match Text.fromLast? field.keyword before with
  | none => false
  | some rest => !rest.contains ' '

/-- The first five tags that have the word in them, both in lowercase. -/
def tagsFor (word : List Char) (tags : List String) : List Suggestion :=
  let part := Text.lower (Text.without QueryField.tag.keyword word)
  ((tags.filter fun tag => Text.occurs part (Text.lower tag.toList)).take 5).map ofTag

def shortcutsFor (word : List Char) : List Suggestion :=
  let part := Text.without QueryField.created.keyword word
  (Shortcut.all.filter fun s => Text.occurs part s.name.toList).map ofShortcut

/-- The first eight suggestions for a text that ends at the caret. -/
def list (before : List Char) (tags recents : List String) : List Suggestion :=
  let word := Text.lastWord before
  (fieldsFor word ++ operatorsFor word ++
    (if isOpen .tag before then tagsFor word tags else []) ++
    (if isOpen .created before then shortcutsFor word else []) ++
    (if word.isEmpty then (recents.take 3).map ofRecent else [])).take 8

/-- The position of a caret; a caret that is not given stands at the end. -/
def caretOf (text : List Char) (caret : Json) : Except Fault Int :=
  match caret with
  | .null => .ok text.length
  | .int i => .ok i
  | .bool b => .ok (if b then 1 else 0)
  | _ => .error .unsuitable

/-- Reads what is needed for the list: tags only behind their keyword, recent searches only when
there is no word. -/
def ofJson (text caret tags recents : Json) : Except Fault (List Suggestion) := do
  let text ← match text with
    | .str s => pure s.toList
    | _ => .error .unsuitable
  let before := upTo (← caretOf text caret) text
  let tags ← if isOpen .tag before then (do (← tags.parts).mapM Json.text) else pure []
  let recents ← if (Text.lastWord before).isEmpty then recents.parts else pure []
  return list before tags (recents.filterMap Json.text?)

end Suggestion

end Bookmarks
