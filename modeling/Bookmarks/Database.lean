import Bookmarks.Entries
import Bookmarks.Fault

/-! Databases: texts under keys that outlive the connection. Without a connection nothing is read or
written. What a connection changes is kept once it is committed, as each call does before it ends.
-/

namespace Bookmarks

/-- The statements that an engine carries out on the one table of a file. A row of the table has a
key and a value. -/
class TableEngine (File : Type) where
  /-- Makes the table, unless it is there. -/
  create : File → File
  /-- The value in the first row that has the key. -/
  select (key : String) : File → Option String
  /-- Adds a row, or replaces the value in the row that has the key. -/
  upsert (key value : String) : File → File
  /-- Removes the rows that have the key, and tells how many they were. -/
  remove (key : String) : File → File × Nat

abbrev Rows := Entries String String

/-- A file that is nothing but the rows, at most one for each key. -/
instance TableEngine.rows : TableEngine Rows where
  create rows := rows
  select key rows := rows.lookup key
  upsert key value rows := rows.put key value
  remove key rows := (rows.erase key, if rows.has key then 1 else 0)

structure Database (File : Type) where
  stored : File
  /-- The file as the connection sees it; none without a connection. -/
  session : Option File := none
  deriving DecidableEq

namespace Database

variable {File : Type}

/-- A database between two calls: a connection sees what is stored. -/
def atRest (stored : File) (isConnected : Bool) : Database File :=
  ⟨stored, if isConnected then some stored else none⟩

/-- Stores what the connection sees. -/
def commit (d : Database File) : Database File := { d with stored := d.session.getD d.stored }

/-- Ends the connection; what it did not commit is lost. -/
def close (d : Database File) : Database File := { d with session := none }

/-- A call on a database. One that ends in a fault leaves the database as it was by then. -/
abbrev Request (File α : Type) := ExceptT Fault (StateM (Database File)) α

def Request.on {α : Type} (request : Request File α) (d : Database File) :
    Except Fault α × Database File :=
  request.run.run d

/-- What the connection sees; there has to be one. -/
def seen : Request File File := do
  match (← get).session with
  | some file => return file
  | none => throw .notConnected

/-- Has the connection see another file, and stores it. -/
def keep (file : File) : Request File Unit := do
  modify fun d => { d with session := some file }
  modify commit

variable [TableEngine File]

def connect (d : Database File) : Database File :=
  commit { d with session := some (TableEngine.create d.stored) }

def lookup (key : String) : Request File (Option String) := do
  return TableEngine.select key (← seen)

def put (key value : String) : Request File Unit := do
  keep (TableEngine.upsert key value (← seen))

/-- Removes a key, and tells whether it was there. -/
def erase (key : String) : Request File Bool := do
  let (file, count) := TableEngine.remove key (← seen)
  keep file
  return decide (0 < count)

def read (d : Database File) (key : String) : Except Fault (Option String) :=
  ((lookup key).on d).1

def write (d : Database File) (key value : String) : Except Fault (Database File) :=
  let (result, d) := (put key value).on d
  result.map fun _ => d

def delete (d : Database File) (key : String) : Except Fault (Database File × Bool) :=
  let (result, d) := (erase key).on d
  result.map fun wasThere => (d, wasThere)

end Database

/-- How an attempt to open a database ends. -/
inductive Opening where
  | opened
  /-- There is no connection. -/
  | refused
  /-- There is a connection, but the table could not be made. -/
  | unfinished
  deriving DecidableEq

def Opening.connects : Opening → Bool
  | .refused => false
  | _ => true

/-- The access to a database that all parts of a program share. It is made when it is asked for
first, and from then on held as it is. -/
structure SharedAccess where
  /-- Whether the access that is held is connected; none before there is one. -/
  held : Option Bool := none
  deriving DecidableEq

namespace SharedAccess

/-- Hands out the access, and tells whether it is connected. Where the database cannot be opened
nothing is handed out, but the access is held. -/
def acquire (s : SharedAccess) (opening : Opening) : SharedAccess × Option Bool :=
  match s.held with
  | some isConnected => (s, some isConnected)
  | none => (⟨some opening.connects⟩, if opening = .opened then some true else none)

/-- Closes the access that is held. -/
def close (s : SharedAccess) : SharedAccess := ⟨s.held.map fun _ => false⟩

end SharedAccess

/-- An access in use: the shared one, or one of its own to either file. -/
inductive Access where
  | shared
  | single (toShared isConnected : Bool)
  deriving DecidableEq

/-- Two files, of which one is shared, and the access in use. -/
structure Databases where
  own : Rows := []
  common : Rows := []
  shared : SharedAccess := {}
  access : Access := .single false false

namespace Databases

/-- The database as the access in use has it. -/
def current (ds : Databases) : Database Rows :=
  match ds.access with
  | .shared => .atRest ds.common (ds.shared.held.getD false)
  | .single toShared isConnected => .atRest (if toShared then ds.common else ds.own) isConnected

def update (ds : Databases) (d : Database Rows) : Databases :=
  let isConnected := d.session.isSome
  match ds.access with
  | .shared => { ds with common := d.stored, shared := ⟨some isConnected⟩ }
  | .single true _ => { ds with common := d.stored, access := .single true isConnected }
  | .single false _ => { ds with own := d.stored, access := .single false isConnected }

/-- Goes over to the shared access, and tells whether it was in use already. -/
def useShared (ds : Databases) : Databases × Bool :=
  ({ ds with shared := (ds.shared.acquire .opened).1, access := .shared },
    decide (ds.access = .shared))

/-- A new access to the file in use, not connected. -/
def reopen (ds : Databases) : Databases :=
  match ds.access with
  | .single false _ => { ds with access := .single false false }
  | _ => { ds with access := .single true false }

end Databases

end Bookmarks
