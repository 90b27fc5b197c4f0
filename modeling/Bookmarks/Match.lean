import Bookmarks.Query.Form
import Bookmarks.Text.Case

/-! Which bookmarks a query accepts. Terms are sought without regard to case, as parts of a field.
-/

namespace Bookmarks

/-- Whether a text has the term somewhere, both in lowercase. -/
def containsTerm (text term : String) : Bool :=
  Text.occurs (Text.lower term.toList) (Text.lower text.toList)

namespace Bookmark

def descriptionText (b : Bookmark) : String := b.description.getD ""

def hasTagLike (b : Bookmark) (term : String) : Bool := b.tags.any (containsTerm · term)

/-- Whether the term stands in any field. -/
def mentions (b : Bookmark) (term : String) : Bool :=
  containsTerm b.title term || containsTerm b.descriptionText term ||
    containsTerm b.filepath term || b.hasTagLike term

/-- The test for a term of any kind, of which only a text can be sought. -/
def mentionsValue (b : Bookmark) (term : Json) : Verdict := term.text.map b.mentions

end Bookmark

/-- The verdicts of a test on each part of a value. -/
def verdictsOn (terms : Json) (test : String → Bool) : Except Fault (List Verdict) :=
  terms.parts.map (List.map fun term => term.text.map test)

def Verdict.allOn (terms : Json) (test : String → Bool) : Verdict :=
  (verdictsOn terms test).bind Verdict.all

def Verdict.anyOn (terms : Json) (test : String → Bool) : Verdict :=
  (verdictsOn terms test).bind Verdict.any

namespace TermsForm

/-- The verdict on a term that is given, or the one for a term that is not. -/
def verdictOn (term : Json) (absent : Bool) (test : String → Bool) : Verdict :=
  if term.isVoid then .ok absent else term.text.map test

def allHold (terms : TermsForm) (b : Bookmark) : Verdict :=
  (verdictOn terms.title true (containsTerm b.title)).and <|
  (verdictOn terms.description true (containsTerm b.descriptionText)).and <|
  (verdictOn terms.filepath true (containsTerm b.filepath)).and <|
  Verdict.allOn terms.tags b.hasTagLike

def anyHolds (terms : TermsForm) (b : Bookmark) : Verdict :=
  (verdictOn terms.title false (containsTerm b.title)).or <|
  (verdictOn terms.description false (containsTerm b.descriptionText)).or <|
  (verdictOn terms.filepath false (containsTerm b.filepath)).or <|
  Verdict.anyOn terms.tags b.hasTagLike

end TermsForm

/-- Where and when a query is evaluated: the local offset and the present. -/
structure Moment where
  zone : Int := 0
  now : Stamp

def Bookmark.created? (zone : Int) (b : Bookmark) : Option Instant :=
  Instant.ofText? zone b.createdAt

namespace QueryForm

def acceptsDate (query : QueryForm) (moment : Moment) (b : Bookmark) : Verdict :=
  match query.created with
  | none => .ok true
  | some f => f.accepts moment.zone moment.now (b.created? moment.zone)

def accepts (query : QueryForm) (moment : Moment) (b : Bookmark) : Verdict :=
  (query.required.allHold b).and <|
  (query.acceptsDate moment b).and <|
  (query.excluded.anyHolds b).not.and <|
  (Verdict.anyOn query.noneOf b.mentions).not.and <|
  (Verdict.allOn query.allOf b.mentions).and <|
  (if query.anyOf.isVoid then .ok true else Verdict.anyOn query.anyOf b.mentions).and <|
  if query.text.isVoid then .ok true else b.mentionsValue query.text

end QueryForm

end Bookmarks
