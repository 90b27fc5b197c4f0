import Bookmarks.Proofs.Database.Memory

/-! The access to a database that all parts of a program share, and whether it can be used when it is
handed out. It is held from the first attempt to open the database, also where that fails, and never
opened again. So it can be used just as long as that attempt made a connection and nobody has closed
it. -/

namespace Bookmarks

namespace Database

variable {File : Type} [TableEngine File]

/-- No call is refused for want of a connection. -/
def IsUsable (d : Database File) : Prop :=
  ∀ call, ((request call).on d).1 ≠ .error .notConnected

theorem isUsable_iff {d : Database File} : d.IsUsable ↔ d.session.isSome = true := by
  constructor
  · intro usable
    rw [Option.isSome_iff_ne_none]
    exact fun closed => usable (.read "") (refused_iff.2 ⟨rfl, closed⟩)
  · intro connected call refused
    rw [(refused_iff.1 refused).2] at connected
    cases connected

theorem isUsable_atRest_iff {file : File} {isConnected : Bool} :
    (atRest file isConnected).IsUsable ↔ isConnected = true := by
  rw [isUsable_iff]
  cases isConnected <;> simp [atRest]

end Database

/-- What the parts of a program do with the access they share. -/
inductive AccessCall where
  | acquire (opening : Opening)
  | close
  deriving DecidableEq

/-- The first attempt to open the database made a connection, and it has not been closed since. -/
def HoldsConnection (calls : List AccessCall) : Prop :=
  ∃ front opening back, calls = front ++ .acquire opening :: back ∧
    (∀ earlier, .acquire earlier ∉ front) ∧ opening.connects = true ∧ .close ∉ back

theorem not_holdsConnection_concat_close (calls : List AccessCall) :
    ¬HoldsConnection (calls ++ [.close]) := by
  rintro ⟨front, opening, back, split, _, _, not_closed⟩
  obtain ⟨-, -, same⟩ | ⟨rest, rfl, -⟩ := cases_of_concat_eq split
  · cases same
  · exact not_closed (List.mem_append_right _ (List.mem_singleton_self _))

theorem holdsConnection_concat_acquire {calls : List AccessCall} {opening : Opening} :
    HoldsConnection (calls ++ [.acquire opening]) ↔
      HoldsConnection calls ∨
        (∀ earlier, .acquire earlier ∉ calls) ∧ opening.connects = true := by
  constructor
  · rintro ⟨front, first, back, split, none_before, connects, not_closed⟩
    obtain ⟨-, rfl, same⟩ | ⟨rest, rfl, before⟩ := cases_of_concat_eq split
    · cases same
      exact .inr ⟨none_before, connects⟩
    · have still_open := fun closed => not_closed (List.mem_append_left _ closed)
      exact .inl ⟨front, first, rest, before, none_before, connects, still_open⟩
  · rintro (⟨front, first, back, rfl, none_before, connects, not_closed⟩ | ⟨none_before, connects⟩)
    · refine ⟨front, first, back ++ [.acquire opening], by simp, none_before, connects, ?_⟩
      simpa using not_closed
    · exact ⟨calls, opening, [], rfl, none_before, connects, List.not_mem_nil⟩

namespace SharedAccess

def step (s : SharedAccess) : AccessCall → SharedAccess
  | .acquire opening => (s.acquire opening).1
  | .close => s.close

def after (s : SharedAccess) (calls : List AccessCall) : SharedAccess := calls.foldl step s

theorem after_concat (s : SharedAccess) (calls : List AccessCall) (call : AccessCall) :
    s.after (calls ++ [call]) = (s.after calls).step call := List.foldl_concat step s call calls

/-- What is handed out is what is held from then on. -/
theorem held_of_handed {s : SharedAccess} {opening : Opening} {isConnected : Bool}
    (handed : (s.acquire opening).2 = some isConnected) :
    (s.acquire opening).1.held = some isConnected := by
  obtain ⟨_ | held⟩ := s
  · cases opening <;> cases handed
    rfl
  · exact handed

theorem held_after_eq_none_iff (calls : List AccessCall) :
    (after {} calls).held = none ↔ ∀ opening, .acquire opening ∉ calls := by
  induction calls using List.reverseRecOn with
  | nil => simp [after]
  | append_singleton calls call ih =>
    rw [after_concat]
    cases call with
    | acquire opening =>
      have made : ((after {} calls).acquire opening).1.held ≠ none := by
        rw [acquire]
        split <;> simp [*]
      exact iff_of_false made fun none_made =>
        none_made opening (List.mem_append_right _ (List.mem_singleton_self _))
    | close => simp [step, close, ih]

/-- The access is held with a connection if there is one from the first attempt. -/
theorem held_after_eq_true_iff (calls : List AccessCall) :
    (after {} calls).held = some true ↔ HoldsConnection calls := by
  induction calls using List.reverseRecOn with
  | nil => simp [after, HoldsConnection]
  | append_singleton calls call ih =>
    rw [after_concat]
    cases call with
    | acquire opening =>
      -- only an access that is not held yet depends on how the attempt ends
      rw [holdsConnection_concat_acquire, ← ih, ← held_after_eq_none_iff, step, acquire]
      cases held : (after {} calls).held <;> simp [held]
    | close =>
      refine iff_of_false ?_ (not_holdsConnection_concat_close calls)
      cases held : (after {} calls).held <;> simp [step, close, held]

end SharedAccess

variable {File : Type} [TableEngine File]

/-- Nothing is handed out only where the first attempt to open the database fails. What is handed out
can be used just where the first attempt made a connection and it has not been closed since. -/
theorem shared_access_usable_iff (calls : List AccessCall) (opening : Opening) :
    (((SharedAccess.after {} calls).acquire opening).2 = none ↔
      (∀ earlier, .acquire earlier ∉ calls) ∧ opening ≠ .opened) ∧
    ∀ isConnected, ((SharedAccess.after {} calls).acquire opening).2 = some isConnected →
      ∀ file : File, (Database.atRest file isConnected).IsUsable ↔
        HoldsConnection (calls ++ [.acquire opening]) := by
  constructor
  · rw [← SharedAccess.held_after_eq_none_iff, SharedAccess.acquire]
    cases held : (SharedAccess.after {} calls).held <;> simp
  · intro isConnected handed file
    have held := SharedAccess.held_of_handed handed
    rw [Database.isUsable_atRest_iff, ← SharedAccess.held_after_eq_true_iff,
      SharedAccess.after_concat, SharedAccess.step, held, Option.some.injEq]

/-- After a first attempt without a connection the access is handed out, and is of no use. -/
theorem shared_access_usable_iff_after_refusal :
    ((SharedAccess.after {} [.acquire .refused]).acquire .opened).2 = some false ∧
      ((Database.atRest ([] : Rows) false).IsUsable ↔
        HoldsConnection [.acquire .refused, .acquire .opened]) :=
  ⟨rfl, (shared_access_usable_iff [.acquire .refused] .opened).2 false rfl []⟩

/-- An access that has been closed is handed out as it is. -/
theorem not_always_usable :
    ¬∀ (calls : List AccessCall) (opening : Opening) (isConnected : Bool),
      ((SharedAccess.after {} calls).acquire opening).2 = some isConnected →
        ∀ file : Rows, (Database.atRest file isConnected).IsUsable := by
  intro usable
  exact usable [.acquire .opened, .close] .opened false rfl [] (.read "a") rfl

end Bookmarks
