/-! What can go wrong. -/

namespace Bookmarks

inductive Fault where
  /-- A value of a kind that cannot be counted, iterated, ordered, hashed or reckoned with. -/
  | unsuitable
  /-- A text that is no number, or a number with more digits than are read or written. -/
  | badNumber
  /-- A list that should consist of pairs and does not. -/
  | notPairs
  /-- A value that should be an object. -/
  | notObject
  /-- A value that should be a text. -/
  | notText
  /-- A date or a number past the ends of its range. -/
  | outOfRange
  /-- A text in which arrays and objects lie too deep one inside the other. -/
  | tooDeep
  /-- A preset without a name. -/
  | blankName
  /-- A database that is used while it is closed. -/
  | notConnected
  /-- A backend that refuses to read or write. -/
  | storage (reason : String)
  deriving DecidableEq, Repr

def Fault.message? : Fault → Option String
  | .blankName => some "Preset name must not be blank"
  | .notConnected => some "Storage not initialized. Call initialize() first."
  | .storage reason => some reason
  | _ => none

/-- What a backend says when it refuses. -/
def Fault.storageReason? : Fault → Option String
  | .storage reason => some reason
  | _ => none

end Bookmarks
