import Bookmarks.Backend
import Bookmarks.Database
import Bookmarks.Proofs.Outcome
import Mathlib.Data.List.Induction
import Mathlib.Logic.Function.Basic

/-! A database against a backend in memory. The connection comes and goes, and without it every text
is refused; what is in the file stays. So the calls that are not refused are answered as one backend
answers them that is never closed. Of the engine nothing is used but that its statements read and
change a table, as laid down below. -/

namespace Bookmarks

/-- The value that a key has, if any. -/
def Entries.table (entries : Entries String String) (key : String) : Option String :=
  entries.lookup key

theorem Entries.table_put (entries : Entries String String) (key value : String) :
    (entries.put key value).table = Function.update entries.table key (some value) := by
  funext other
  by_cases same : other = key
  · rw [same, table, lookup_put_self, Function.update_self]
  · rw [table, lookup_put_of_ne _ _ same, Function.update_of_ne same, table]

theorem Entries.table_erase (entries : Entries String String) (key : String) :
    (entries.erase key).table = Function.update entries.table key none := by
  funext other
  by_cases same : other = key
  · rw [same, table, lookup_erase_self, Function.update_self]
  · rw [table, lookup_erase_of_ne _ same, Function.update_of_ne same, table]

/-- What an engine is trusted with. A file holds a table, in which some of the keys have a value, and
each statement reads the table or changes it; made in an empty file, the table has no keys. -/
structure TableEngine.KeepsTable {File : Type} [TableEngine File] (empty : File)
    (Holds : File → (String → Option String) → Prop) : Prop where
  create_empty : Holds (create empty) fun _ => none
  create_holds {file : File} {table : String → Option String} :
    Holds file table → Holds (create file) table
  select_eq {file : File} {table : String → Option String} (key : String) :
    Holds file table → select key file = table key
  upsert_holds {file : File} {table : String → Option String} (key value : String) :
    Holds file table → Holds (upsert key value file) (Function.update table key (some value))
  remove_holds {file : File} {table : String → Option String} (key : String) :
    Holds file table → Holds (remove key file).1 (Function.update table key none)
  count_eq {file : File} {table : String → Option String} (key : String) :
    Holds file table → (remove key file).2 = if (table key).isSome then 1 else 0

/-- Rows hold the table that they are. -/
theorem TableEngine.keepsTable_rows :
    KeepsTable ([] : Rows) fun rows table => Entries.table rows = table where
  create_empty := rfl
  create_holds := id
  select_eq key holds := congrFun holds key
  upsert_holds key value := by
    rintro rfl
    exact Entries.table_put _ key value
  remove_holds key := by
    rintro rfl
    exact Entries.table_erase _ key
  count_eq key := by
    rintro rfl
    rfl

/-- The last of a list is what a place in the list is cut at, or comes behind it. -/
theorem cases_of_concat_eq {α : Type} {xs front back : List α} {last x : α}
    (split : xs ++ [last] = front ++ x :: back) :
    back = [] ∧ xs = front ∧ last = x ∨ ∃ rest, back = rest ++ [last] ∧ xs = front ++ x :: rest := by
  obtain rfl | ⟨rest, y, rfl⟩ := List.eq_nil_or_concat' back
  · have ⟨before, same⟩ := List.append_inj' split rfl
    exact .inl ⟨rfl, before, List.head_eq_of_cons_eq same⟩
  · rw [← List.cons_append, ← List.append_assoc] at split
    have ⟨before, same⟩ := List.append_inj' split rfl
    exact .inr ⟨rest, by rw [same], before⟩

/-- A call that asks for a text or changes one. -/
inductive TextCall where
  | read (key : String)
  | write (key value : String)
  | delete (key : String)
  deriving DecidableEq

inductive TextReply where
  | found (value : Option String)
  | written
  | deleted (wasThere : Bool)
  deriving DecidableEq

namespace Backend

def answer (b : Backend) : TextCall → Except Fault (Backend × TextReply)
  | .read key => (b.read key).map fun value => (b, .found value)
  | .write key value => (b.write key value).map fun b => (b, .written)
  | .delete key => (b.delete key).map fun (b, wasThere) => (b, .deleted wasThere)

/-- What a backend replies to calls in turn. -/
def replies (b : Backend) : List TextCall → Except Fault (List TextReply)
  | [] => .ok []
  | call :: calls => do
    let (b, reply) ← b.answer call
    return reply :: (← b.replies calls)

end Backend

/-- What can happen to a database. To open it anew is to have another one, without a connection, on
the same file. -/
inductive DatabaseCall where
  | connect
  | close
  | reopen
  | ask (call : TextCall)
  deriving DecidableEq

namespace Database

variable {File : Type} [TableEngine File]

def request : TextCall → Request File TextReply
  | .read key => .found <$> lookup key
  | .write key value => (fun _ => .written) <$> put key value
  | .delete key => .deleted <$> erase key

def step (d : Database File) : DatabaseCall → Database File
  | .connect => d.connect
  | .close => d.close
  | .reopen => { stored := d.stored }
  | .ask call => ((request call).on d).2

def after (d : Database File) (calls : List DatabaseCall) : Database File := calls.foldl step d

/-- The calls for texts that are not refused, each with the reply. -/
def answered (d : Database File) : List DatabaseCall → List (TextCall × TextReply)
  | [] => []
  | .ask call :: calls =>
    match (request call).on d with
    | (.ok reply, d) => (call, reply) :: d.answered calls
    | (.error _, d) => d.answered calls
  | call :: calls => (d.step call).answered calls

/-! ### One call -/

theorem on_of_none {d : Database File} (closed : d.session = none) (call : TextCall) :
    (request call).on d = (.error .notConnected, d) := by
  obtain ⟨stored, _⟩ := d
  cases closed
  cases call <;> rfl

theorem isSome_session_on (d : Database File) (call : TextCall) :
    ((request call).on d).2.session.isSome = d.session.isSome := by
  obtain ⟨stored, _ | file⟩ := d <;> cases call <;> rfl

/-- A call is refused only for want of a connection. -/
theorem refused_iff {d : Database File} {call : TextCall} {fault : Fault} :
    ((request call).on d).1 = .error fault ↔ fault = .notConnected ∧ d.session = none := by
  obtain ⟨stored, _ | file⟩ := d
  · rw [on_of_none rfl]
    simp [eq_comm]
  · constructor
    · intro refused
      cases call <;> cases refused
    · rintro ⟨_, connected⟩
      cases connected

section

variable {empty : File} {Holds : File → (String → Option String) → Prop} {d : Database File}
  {b : Backend}

/-- On a file that holds what a backend has, a connection gives the reply that the backend gives, and
the file holds again what the backend has then. -/
theorem exists_reply (laws : TableEngine.KeepsTable empty Holds) {file : File}
    (working : b.health = .working) (holds : Holds file b.entries.table) (call : TextCall) :
    ∃ reply file' b', (request call).on (atRest file true) = (.ok reply, atRest file' true) ∧
      b.answer call = .ok (b', reply) ∧ b'.health = .working ∧ Holds file' b'.entries.table := by
  cases call with
  | read key =>
    have same : b.answer (.read key) = .ok (b, .found (TableEngine.select key file)) := by
      rw [Backend.answer, Backend.read, working, laws.select_eq key holds]
      rfl
    exact ⟨_, _, b, rfl, same, working, holds⟩
  | write key value =>
    have same : b.answer (.write key value) =
        .ok ({ b with entries := b.entries.put key value, writes := b.writes + 1 }, .written) := by
      rw [Backend.answer, Backend.write, working]
      rfl
    refine ⟨_, _, _, rfl, same, working, ?_⟩
    rw [Entries.table_put]
    exact laws.upsert_holds key value holds
  | delete key =>
    have count : decide (0 < (TableEngine.remove key file).2) = b.entries.has key := by
      rw [laws.count_eq key holds, Entries.has, ← Entries.table]
      cases b.entries.table key <;> rfl
    have same : b.answer (.delete key) = .ok ({ b with entries := b.entries.erase key },
        .deleted (decide (0 < (TableEngine.remove key file).2))) := by
      rw [Backend.answer, Backend.delete, working, count]
      rfl
    refine ⟨_, _, _, rfl, same, working, ?_⟩
    rw [Entries.table_erase]
    exact laws.remove_holds key holds

/-- A database that lines up with a backend: either nothing has happened to its file, or the file
holds what the backend has, and the connection, if there is one, sees no other. -/
inductive Mirrors (empty : File) (Holds : File → (String → Option String) → Prop) :
    Database File → Backend → Prop where
  | fresh {b : Backend} :
    b.health = .working → (b.entries.table = fun _ => none) → Mirrors empty Holds ⟨empty, none⟩ b
  | holding {file : File} {b : Backend} (isConnected : Bool) :
    b.health = .working → Holds file b.entries.table →
      Mirrors empty Holds (atRest file isConnected) b

theorem Mirrors.connect (laws : TableEngine.KeepsTable empty Holds) (h : Mirrors empty Holds d b) :
    Mirrors empty Holds d.connect b := by
  cases h with
  | fresh working bare => exact .holding true working (bare ▸ laws.create_empty)
  | holding isConnected working holds => exact .holding true working (laws.create_holds holds)

omit [TableEngine File] in
theorem Mirrors.disconnect (h : Mirrors empty Holds d b) :
    Mirrors empty Holds ⟨d.stored, none⟩ b := by
  cases h with
  | fresh working bare => exact .fresh working bare
  | holding isConnected working holds => exact .holding false working holds

/-- A call is refused and changes nothing, or it is answered as by the backend. -/
theorem Mirrors.ask (laws : TableEngine.KeepsTable empty Holds) (h : Mirrors empty Holds d b)
    (call : TextCall) :
    (∃ fault, (request call).on d = (.error fault, d)) ∨
      ∃ reply d' b', (request call).on d = (.ok reply, d') ∧ b.answer call = .ok (b', reply) ∧
        Mirrors empty Holds d' b' := by
  cases h with
  | fresh => exact .inl ⟨_, on_of_none rfl call⟩
  | holding isConnected working holds =>
    cases isConnected with
    | false => exact .inl ⟨_, on_of_none rfl call⟩
    | true =>
      have ⟨reply, file', b', on_d, on_b, working', holds'⟩ := exists_reply laws working holds call
      exact .inr ⟨reply, _, b', on_d, on_b, .holding true working' holds'⟩

/-! ### Any number of calls -/

/-- What is answered along a run is what the backend would reply. -/
theorem Mirrors.replies_answered (laws : TableEngine.KeepsTable empty Holds)
    (h : Mirrors empty Holds d b) (calls : List DatabaseCall) :
    b.replies ((d.answered calls).map Prod.fst) = .ok ((d.answered calls).map Prod.snd) := by
  induction calls generalizing d b with
  | nil => rfl
  | cons call calls ih =>
    cases call with
    | connect => exact ih (h.connect laws)
    | close => exact ih h.disconnect
    | reopen => exact ih h.disconnect
    | ask call =>
      obtain ⟨fault, refused⟩ | ⟨reply, d', b', on_d, on_b, h'⟩ := h.ask laws call
      · -- the backend is not asked what is refused, and waits for the next call
        rw [answered, refused]
        exact ih h
      · rw [answered, on_d, List.map_cons, List.map_cons, Backend.replies, bind_of_ok on_b]
        exact bind_of_ok (ih h') _

end

/-- A connection was made, and since then the database was neither closed nor opened anew. -/
def OpenAfter (calls : List DatabaseCall) : Prop :=
  ∃ front back, calls = front ++ .connect :: back ∧ .close ∉ back ∧ .reopen ∉ back

theorem openAfter_concat_connect (calls : List DatabaseCall) :
    OpenAfter (calls ++ [.connect]) := ⟨calls, [], rfl, List.not_mem_nil, List.not_mem_nil⟩

/-- Any other call leaves the connection or ends it. -/
theorem openAfter_concat_iff {calls : List DatabaseCall} {call : DatabaseCall}
    (other : call ≠ .connect) :
    OpenAfter (calls ++ [call]) ↔ OpenAfter calls ∧ call ≠ .close ∧ call ≠ .reopen := by
  constructor
  · rintro ⟨front, back, split, closed, reopened⟩
    obtain ⟨-, -, same⟩ | ⟨rest, rfl, before⟩ := cases_of_concat_eq split
    · exact absurd same other
    · simp only [List.mem_append, List.mem_singleton, not_or] at closed reopened
      exact ⟨⟨front, rest, before, closed.1, reopened.1⟩, Ne.symm closed.2, Ne.symm reopened.2⟩
  · rintro ⟨⟨front, back, rfl, closed, reopened⟩, not_close, not_reopen⟩
    refine ⟨front, back ++ [call], by simp, ?_, ?_⟩
    · simpa [closed] using not_close.symm
    · simpa [reopened] using not_reopen.symm

theorem after_concat (d : Database File) (calls : List DatabaseCall) (call : DatabaseCall) :
    d.after (calls ++ [call]) = (d.after calls).step call := List.foldl_concat step d call calls

theorem isSome_session_after_iff (stored : File) (calls : List DatabaseCall) :
    (after { stored } calls).session.isSome = true ↔ OpenAfter calls := by
  induction calls using List.reverseRecOn with
  | nil => simp [after, OpenAfter]
  | append_singleton calls call ih =>
    rw [after_concat]
    cases call with
    | connect => exact iff_of_true rfl (openAfter_concat_connect calls)
    | close => simp [openAfter_concat_iff, step, close]
    | reopen => simp [openAfter_concat_iff, step]
    | ask call => simp [openAfter_concat_iff, step, isSome_session_on, ih]

/-- A text is refused just where no connection was made since the start, the last closing and the
last opening anew; what is refused changes nothing; and all that is answered is answered as a backend
in memory answers the same calls one after the other. -/
theorem acts_as_memory {empty : File} {Holds : File → (String → Option String) → Prop}
    (laws : TableEngine.KeepsTable empty Holds) (calls : List DatabaseCall) :
    (∀ call fault, ((request call).on (after { stored := empty } calls)).1 = .error fault ↔
      fault = .notConnected ∧ ¬OpenAfter calls) ∧
    (∀ call fault, ((request call).on (after { stored := empty } calls)).1 = .error fault →
      ((request call).on (after { stored := empty } calls)).2 = after { stored := empty } calls) ∧
    Backend.replies {} ((answered { stored := empty } calls).map Prod.fst) =
      .ok ((answered { stored := empty } calls).map Prod.snd) := by
  have lined_up : Mirrors empty Holds { stored := empty } {} := .fresh rfl rfl
  refine ⟨fun call fault => ?_, fun call fault refused => ?_, lined_up.replies_answered laws calls⟩
  · rw [refused_iff, ← isSome_session_after_iff empty calls, Option.not_isSome_iff_eq_none]
  · rw [on_of_none (refused_iff.1 refused).2]

/-- Two connections to one file, with a call before each and one between them. -/
theorem acts_as_memory_across_connections :
    Database.answered { stored := ([] : Rows) } [.ask (.read "a"), .connect,
        .ask (.write "a" "b"), .close, .ask (.delete "a"), .reopen, .connect, .ask (.delete "a"),
        .ask (.delete "a")] =
      [(.write "a" "b", .written), (.delete "a", .deleted true), (.delete "a", .deleted false)] ∧
    Backend.replies {} [.write "a" "b", .delete "a", .delete "a"] =
      .ok [.written, .deleted true, .deleted false] :=
  ⟨by decide, (acts_as_memory TableEngine.keepsTable_rows [.ask (.read "a"), .connect,
    .ask (.write "a" "b"), .close, .ask (.delete "a"), .reopen, .connect, .ask (.delete "a"),
    .ask (.delete "a")]).2.2⟩

end Database

end Bookmarks
