import Bookmarks.Entries
import Bookmarks.Fault

/-! Backends: texts under keys, with the writes counted. One that is out of order refuses to read or
write. -/

namespace Bookmarks

inductive Health where
  | working
  | readOnly
  | broken
  deriving DecidableEq

structure Backend where
  entries : Entries String String := []
  writes : Nat := 0
  health : Health := .working
  deriving DecidableEq

namespace Backend

def gone : Fault := .storage "disk gone"

def full : Fault := .storage "quota exceeded"

def read (b : Backend) (key : String) : Except Fault (Option String) :=
  match b.health with
  | .broken => .error gone
  | _ => .ok (b.entries.lookup key)

def write (b : Backend) (key value : String) : Except Fault Backend :=
  match b.health with
  | .working => .ok { b with entries := b.entries.put key value, writes := b.writes + 1 }
  | .readOnly => .error full
  | .broken => .error gone

/-- Removes a key, and tells whether it was there. -/
def delete (b : Backend) (key : String) : Except Fault (Backend × Bool) :=
  match b.health with
  | .working => .ok ({ b with entries := b.entries.erase key }, b.entries.has key)
  | _ => .error gone

end Backend

end Bookmarks
