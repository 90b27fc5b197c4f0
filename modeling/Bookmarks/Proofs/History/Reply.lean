import Bookmarks.Proofs.History.Session
import Bookmarks.Proofs.Number.Reckoning

/-! What each call answers and what it makes of the session, said once for all calls but loading. A
call is refused just when its arguments or the counter that it is to raise are unsuitable. -/

namespace Bookmarks

/-- Whether a value can be taken for a text: it is one, or it counts as not given. -/
def Json.IsTextual (value : Json) : Prop := value.isVoid = true ∨ ∃ s, value = .str s

namespace History

theorem exists_trimmed_iff {value : Json} : (∃ t, trimmed value = .ok t) ↔ value.IsTextual := by
  unfold trimmed Json.IsTextual
  cases void : value.isVoid with
  | true => exact ⟨fun _ => .inl rfl, fun _ => ⟨"", rfl⟩⟩
  | false =>
    cases value with
    | str s => exact ⟨fun _ => .inr ⟨s, rfl⟩, fun _ => ⟨_, rfl⟩⟩
    | _ => simp [Json.text, Except.map]

theorem not_isTextual_of_error {value : Json} {fault : Fault}
    (fails : trimmed value = .error fault) : ¬value.IsTextual := by
  intro textual
  have ⟨text, is_text⟩ := exists_trimmed_iff.2 textual
  rw [fails] at is_text
  cases is_text

/-- A counter goes up just when its kind can be a key and it is a number. -/
theorem exists_countUsage_iff {h : History} {kind : Json} :
    (∃ made, h.countUsage kind = .ok made) ↔
      kind.isPlain = true ∧ ((h.usage.lookup kind).getD (.int 0)).number?.isSome = true := by
  unfold countUsage Json.number
  cases kind.isPlain with
  | false => simp [bind, Except.bind, throw, throwThe, MonadExceptOf.throw]
  | true =>
    cases ((h.usage.lookup kind).getD (.int 0)).number? with
    | none => simp [bind, Except.bind]
    | some count =>
      obtain ⟨next, added⟩ := count.exists_add_one
      refine ⟨fun _ => ⟨rfl, rfl⟩, fun _ => ?_⟩
      simp [bind, Except.bind, pure, Except.pure, added]

end History

/-- Whether a call has arguments that it cannot take, or is to raise a counter that is no number. -/
def HistoryCall.IsRefused (h : History) : HistoryCall → Prop
  | .addRecent term => ¬term.IsTextual
  | .savePreset name description filters =>
    ¬name.IsTextual ∨ History.trimmed name = .ok "" ∨ (∃ fault, filters.fields = .error fault) ∨
      ¬description.IsTextual
  | .countUsage kind =>
    kind.isPlain = false ∨ ((h.usage.lookup kind).getD (.int 0)).number? = none
  | _ => False

namespace HistorySession

theorem nameOf_eq_ok {value : Json} {name : String} :
    nameOf value = .ok name ↔ History.trimmed value = .ok name ∧ name ≠ "" := by
  unfold nameOf
  cases History.trimmed value with
  | error fault => simp [bind, Except.bind]
  | ok text =>
    by_cases blank : text = ""
    · subst blank
      simp [bind, Except.bind, throw, throwThe, MonadExceptOf.throw]
    · have some_char : text.isEmpty = false := by simpa using blank
      simp only [bind, Except.bind, pure, Except.pure, some_char, Bool.false_eq_true, if_false]
      constructor
      · intro same
        cases same
        exact ⟨rfl, blank⟩
      · exact And.left

variable {τ : Type} [Timeline τ]

/-- What a call answers, and the session after it. -/
inductive Reply (s : HistorySession τ) :
    HistoryCall → Except Fault Json → HistorySession τ → Prop where
  | flush : Reply s .flush (.ok .null) s.flush
  | close : Reply s .close (.ok .null) s.close
  | preset {id answer : Json} : Reply s (.preset id) (.ok answer) s
  | refused {call : HistoryCall} {fault : Fault} {ids : Nat} (more : s.idCount ≤ ids)
      (cause : call.IsRefused s.store.history) :
      Reply s call (.error fault) { s with idCount := ids }
  | blank {term : Json} (trimmed : History.trimmed term = .ok "") :
      Reply s (.addRecent term) (.ok .null) s
  | search {term : Json} {text : String} (trimmed : History.trimmed term = .ok text)
      (some_char : text ≠ "") :
      Reply s (.addRecent term) (.ok .null) (s.change { s.store.history with
        recent := upTo s.config.maxRecent
          (text :: s.store.history.recent.filter (· != text)) })
  | clearRecent : Reply s .clearRecent (.ok .null) (s.change s.store.history.clearRecent)
  | clearAll : Reply s .clearAll (.ok .null) (s.change {})
  | save {name description : Json} {filters : FilterSource} {title text : String}
      {fields : Json.Fields} (named : nameOf name = .ok title)
      (given : filters.fields = .ok fields) (described : History.trimmed description = .ok text) :
      Reply s (.savePreset name description filters) (.ok (.str (idOf (s.idCount + 1))))
        ({ s with idCount := s.idCount + 1 }.change
          (s.store.history.putPreset s.config.maxPresets {
            id := idOf (s.idCount + 1), name := title, description := text
            filters := Preset.carried fields, createdAt := s.today }))
  | delete {id : Json} (found : s.store.history.presets.any (History.isIdOf id) = true) :
      Reply s (.deletePreset id) (.ok (.bool true)) (s.change { s.store.history with
        presets := s.store.history.presets.filter (!History.isIdOf id ·) })
  | count {id : Json} (found : s.store.history.presets.any (History.isIdOf id) = true) :
      Reply s (.countPreset id) (.ok (.bool true)) (s.change { s.store.history with
        presets := History.countFirst (History.isIdOf id) s.store.history.presets })
  | absent {call : HistoryCall} {id : Json}
      (kind : call = .deletePreset id ∨ call = .countPreset id)
      (none_found : s.store.history.presets.any (History.isIdOf id) = false) :
      Reply s call (.ok (.bool false)) s
  | usage {kind count : Json} {h : History}
      (counted : s.store.history.countUsage kind = .ok (h, count)) :
      Reply s (.countUsage kind) (.ok count) (s.change h)

variable (s : HistorySession τ)

theorem reply_addRecent (term : Json) :
    s.Reply (.addRecent term) (s.perform (.addRecent term)).2 (s.perform (.addRecent term)).1 := by
  simp only [perform, History.addRecent]
  cases trimmed : History.trimmed term with
  | error fault => exact .refused (Nat.le_refl _) (History.not_isTextual_of_error trimmed)
  | ok text =>
    by_cases blank : text = ""
    · subst blank
      exact .blank trimmed
    · have some_char : text.isEmpty = false := by simpa using blank
      simp only [bind, Except.bind, some_char]
      exact .search trimmed blank

theorem reply_savePreset (name description : Json) (filters : FilterSource) :
    s.Reply (.savePreset name description filters) (s.savePreset name description filters).2
      (s.savePreset name description filters).1 := by
  unfold savePreset
  cases named : nameOf name with
  | error fault =>
    refine .refused (Nat.le_refl _) ?_
    cases trimmed : History.trimmed name with
    | error fault => exact .inl (History.not_isTextual_of_error trimmed)
    | ok text =>
      refine .inr (.inl ?_)
      by_cases blank : text = ""
      · rw [← blank, trimmed]
      · rw [nameOf_eq_ok.2 ⟨trimmed, blank⟩] at named
        cases named
  | ok title =>
    cases given : filters.fields with
    | error fault => exact .refused (Nat.le_refl _) (.inr (.inr (.inl ⟨fault, given⟩)))
    | ok fields =>
      cases described : History.trimmed description with
      | error fault =>
        have bad_description := History.not_isTextual_of_error described
        exact .refused (Nat.le_succ _) (.inr (.inr (.inr bad_description)))
      | ok text => exact .save named given described

theorem reply_countUsage (kind : Json) :
    s.Reply (.countUsage kind) (s.perform (.countUsage kind)).2
      (s.perform (.countUsage kind)).1 := by
  simp only [perform]
  cases counted : s.store.history.countUsage kind with
  | ok made => exact .usage counted
  | error fault =>
    refine .refused (Nat.le_refl _) ?_
    have fails : ¬∃ made, s.store.history.countUsage kind = .ok made := by
      rintro ⟨made, counts⟩
      rw [counted] at counts
      cases counts
    rw [History.exists_countUsage_iff] at fails
    rw [HistoryCall.IsRefused]
    cases plain : kind.isPlain with
    | false => exact .inl rfl
    | true => exact .inr (by simpa [plain] using fails)

theorem reply_perform {call : HistoryCall} (unread : call ≠ .load) :
    s.Reply call (s.perform call).2 (s.perform call).1 := by
  cases call with
  | load => exact absurd rfl unread
  | flush => exact .flush
  | close => exact .close
  | addRecent term => exact s.reply_addRecent term
  | clearRecent => exact .clearRecent
  | clearAll => exact .clearAll
  | savePreset name description filters => exact s.reply_savePreset name description filters
  | preset id => exact .preset
  | deletePreset id =>
    simp only [perform, History.deletePreset]
    cases found : s.store.history.presets.any (History.isIdOf id) with
    | true => exact .delete found
    | false => exact .absent (.inl rfl) found
  | countPreset id =>
    simp only [perform, History.countPreset]
    cases found : s.store.history.presets.any (History.isIdOf id) with
    | true => exact .count found
    | false => exact .absent (.inr rfl) found
  | countUsage kind => exact s.reply_countUsage kind

/-- A call is refused just when its arguments or the counter are unsuitable. -/
theorem Reply.isRefused_iff {s after : HistorySession τ} {call : HistoryCall}
    {answer : Except Fault Json} (reply : s.Reply call answer after) :
    (∃ fault, answer = .error fault) ↔ call.IsRefused s.store.history := by
  constructor
  · rintro ⟨fault, rfl⟩
    cases reply with
    | refused more cause => exact cause
  · intro cause
    cases reply with
    | refused more cause => exact ⟨_, rfl⟩
    | blank trimmed | search trimmed =>
      exact absurd (History.exists_trimmed_iff.1 ⟨_, trimmed⟩) cause
    | save named given described =>
      have ⟨trimmed, some_char⟩ := nameOf_eq_ok.1 named
      rcases cause with name | blank | ⟨fault, fails⟩ | description
      · exact absurd (History.exists_trimmed_iff.1 ⟨_, trimmed⟩) name
      · rw [trimmed] at blank
        exact absurd (Except.ok.inj blank) some_char
      · rw [given] at fails
        cases fails
      · exact absurd (History.exists_trimmed_iff.1 ⟨_, described⟩) description
    | usage counted =>
      have ⟨plain, number⟩ := History.exists_countUsage_iff.1 ⟨_, counted⟩
      rcases cause with not_plain | no_number
      · rw [plain] at not_plain
        cases not_plain
      · rw [no_number] at number
        cases number
    | absent kind => rcases kind with rfl | rfl <;> exact absurd cause id
    | _ => exact absurd cause id

/-- What was refused leaves all as it was, but for ids that were used up. -/
theorem Reply.eq_of_error {s after : HistorySession τ} {call : HistoryCall} {fault : Fault}
    (reply : s.Reply call (.error fault) after) : ∃ ids, after = { s with idCount := ids } := by
  cases reply with
  | refused more cause => exact ⟨_, rfl⟩

end HistorySession

end Bookmarks
