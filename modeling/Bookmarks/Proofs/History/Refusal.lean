import Bookmarks.Proofs.History.Reply

/-! What a call that fails leaves behind. Whatever was stored, loaded and called before, a call is
refused just when its arguments or the counter that it is to raise are unsuitable, and then the
history, the pending write with its time, and the backend are as they were. -/

namespace Bookmarks

namespace HistorySession

variable {τ : Type} [Timeline τ] {s : HistorySession τ}

/-- Whether nothing that is due is still to be written. -/
def IsSettled (s : HistorySession τ) : Prop :=
  ∀ store ∈ s.store :: s.former, isDue s.now store = false

theorem isSettled_settle (s : HistorySession τ) : s.settle.IsSettled := by
  have ⟨agenda, backend, notices, _, settled⟩ := s.settle_frame
  rw [settled]
  intro store member
  cases List.mem_cons.1 member with
  | inl same =>
    rw [same]
    cases due : isDue s.now s.store with
    | false =>
      rw [if_neg (by decide)]
      exact due
    | true => rfl
  | inr former => simpa using (List.mem_filter.1 former).2

/-- When nothing is due, settling at most puts the alarms in order. -/
theorem IsSettled.settle_eq (settled : s.IsSettled) : ∃ agenda, s.settle = { s with agenda } := by
  have ⟨due, agenda, perm, _, same⟩ := s.settle_cases
  have early := settled s.store List.mem_cons_self
  have all_early : ∀ f ∈ s.former, isDue s.now f = false :=
    fun f hf => settled f (List.mem_cons_of_mem _ hf)
  have none_due : due = [] := by
    apply List.Perm.eq_nil
    rw [List.filter_eq_nil_iff.2] at perm
    · exact perm
    · intro f hf
      cases List.mem_append.1 hf with
      | inl hf => simp [all_early f hf]
      | inr hf => simp [List.mem_singleton.1 hf, early]
  have kept : s.former.filter (!isDue s.now ·) = s.former := by
    rw [List.filter_eq_self]
    intro f hf
    simp [all_early f hf]
  refine ⟨agenda, ?_⟩
  rw [same, none_due, kept, early]
  rfl

theorem isSettled_run (settled : s.IsSettled) (events : List (HistoryEvent τ)) :
    (s.run events).IsSettled := by
  induction events generalizing s with
  | nil => exact settled
  | cons event rest ih => exact ih (isSettled_settle (s.happen event).1)

/-- A refused call uses up an id at most. -/
theorem step_of_refused (settled : s.IsSettled) {call : HistoryCall} (unread : call ≠ .load)
    (refused : call.IsRefused s.store.history) :
    ∃ ids agenda, (s.step (.call call)).1 = { s with idCount := ids, agenda } := by
  have reply := s.reply_perform unread
  obtain ⟨fault, failed⟩ := reply.isRefused_iff.2 refused
  rw [failed] at reply
  obtain ⟨ids, same⟩ := reply.eq_of_error
  have still : { s with idCount := ids }.IsSettled := settled
  obtain ⟨agenda, settles⟩ := still.settle_eq
  refine ⟨ids, agenda, ?_⟩
  show (s.perform call).1.settle = _
  rw [same, settles]

/-- In every state that can be reached, from whatever is stored, a call fails just when it is
refused; and then the stores with their histories and what is pending of them, the backend and the
time are as before. -/
theorem unchanged_of_refused (config : StoreConfig τ) (backend : Backend) (now : τ) (today : String)
    (events : List (HistoryEvent τ)) {call : HistoryCall} (unread : call ≠ .load) :
    let s := run { config, backend, now, today } events
    ((∃ fault, (s.step (.call call)).2 = .error fault) ↔ call.IsRefused s.store.history) ∧
    (call.IsRefused s.store.history →
      ∃ ids agenda, (s.step (.call call)).1 = { s with idCount := ids, agenda }) := by
  intro s
  have settled : s.IsSettled := by
    apply isSettled_run
    intro store member
    rw [List.mem_singleton.1 member]
    rfl
  exact ⟨(s.reply_perform unread).isRefused_iff, step_of_refused settled unread⟩

/-- A counter that was loaded and is a text, while a search waits to be written. -/
theorem unchanged_of_refused_counter :
    let config : StoreConfig Int := { debounce := 5 }
    let text := "\x7b\"recentSearches\": [\"a\"], \"filterUsageStats\": \x7b\"tag\": \"x\"\x7d\x7d"
    let backend : Backend := { entries := [(config.historyKey, text)] }
    let events : List (HistoryEvent Int) := [.call .load, .call (.addRecent (.str "b")), .advance 3]
    let call : HistoryCall := .countUsage (.str "tag")
    let s := run { config, backend, now := 0, today := "2024-01-01" } events
    call ≠ .load ∧ call.IsRefused s.store.history ∧ s.store.pending.isSome = true ∧
    ((∃ fault, (s.step (.call call)).2 = .error fault) ↔ call.IsRefused s.store.history) ∧
    ∃ ids agenda, (s.step (.call call)).1 = { s with idCount := ids, agenda } := by
  intro config text backend events call s
  have unread : call ≠ .load := nofun
  have refused : call.IsRefused s.store.history := by
    refine .inr ?_
    decide +kernel
  have waits : s.store.pending.isSome = true := by decide +kernel
  have ⟨fails, unchanged⟩ := unchanged_of_refused config backend 0 "2024-01-01" events unread
  exact ⟨unread, refused, waits, fails, unchanged refused⟩

end HistorySession

end Bookmarks
