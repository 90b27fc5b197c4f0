import Bookmarks.Finder
import Bookmarks.Proofs.Outcome

/-! The stages of a filter. Each stage tests a bookmark by itself, so the stages may be applied one
after the other in any order, and filtering in parts or twice over makes no difference. Only whether
there is a result at all may depend on the order: what comes later sees fewer bookmarks. -/

namespace Bookmarks

/-- What a filter asks for, each part with the settings that say it. -/
inductive Stage where
  | query
  | file
  | tags
  | range
  deriving DecidableEq

namespace Stage

def all : List Stage := [query, file, tags, range]

/-- The settings that say what a stage asks for, all others as they are by default. -/
def settings (stage : Stage) (s : SettingsForm) : SettingsForm :=
  match stage with
  | query => { searchTerm := s.searchTerm }
  | file => { file := s.file }
  | tags => { tags := s.tags }
  | range => { rangeStart := s.rangeStart, rangeStop := s.rangeStop }

/-- The query, for the stage that looks at it. -/
def queryFor (stage : Stage) (query : Option QueryForm) : Option QueryForm :=
  if stage = .query then query else none

section

variable (s : SettingsForm) (query : Option QueryForm) (moment : Moment)

/-- The filter that carries one stage only. -/
def filter (stage : Stage) (bs : List Bookmark) : Except Fault (List Bookmark) :=
  (stage.settings s).filter (stage.queryFor query) moment bs

/-- The filters of stages one after the other, each of what the ones before it left. -/
def filterAll (stages : List Stage) (bs : List Bookmark) : Except Fault (List Bookmark) :=
  stages.foldlM (fun left stage => stage.filter s query moment left) bs

/-- Whether a bookmark passes a stage. -/
def verdict (stage : Stage) (b : Bookmark) : Verdict :=
  match stage with
  | .query => s.passesQuery query moment b
  | .file => .ok (s.passesFile b)
  | .tags => s.requiredTags.map (SettingsForm.passesTags · b)
  | .range => s.passesRange moment.zone b

def passes (stage : Stage) (b : Bookmark) : Bool := (stage.verdict s query moment b).holds

/-- Of the filter that carries one stage only, the other stages let everything pass. -/
theorem verdict_settings (stage other : Stage) (b : Bookmark) :
    other.verdict (stage.settings s) (stage.queryFor query) moment b =
      if other = stage then stage.verdict s query moment b else .ok true := by
  cases stage <;> cases other <;> rfl

theorem passes_settings (stage : Stage) (b : Bookmark) :
    (all.all fun other => other.passes (stage.settings s) (stage.queryFor query) moment b) =
      stage.passes s query moment b := by
  simp only [passes, verdict_settings]
  cases stage <;> simp [all, Verdict.holds]

end

end Stage

namespace SettingsForm

variable {s : SettingsForm} {query : Option QueryForm} {moment : Moment}
  {bs others kept : List Bookmark}

/-- A result consists of the bookmarks that pass every stage. -/
theorem eq_filter_of_filter (h : s.filter query moment bs = .ok kept) :
    kept = bs.filter fun b => Stage.all.all fun stage => stage.passes s query moment b := by
  obtain ⟨found, first, h⟩ := exists_of_bind h
  obtain ⟨required, tags, h⟩ := exists_of_bind h
  rw [Verdict.keep_eq_filter h, Verdict.keep_eq_filter first, List.filter_filter,
    List.filter_filter, List.filter_filter]
  refine List.filter_congr fun b _ => ?_
  simp only [Stage.all, List.all_cons, List.all_nil, Stage.passes, Stage.verdict, tags, Except.map,
    Verdict.holds]
  ac_rfl

/-- Whether the stages come to verdicts on a bookmark, the range only if the others let it pass. -/
structure Decides (s : SettingsForm) (query : Option QueryForm) (moment : Moment) (b : Bookmark) :
    Prop where
  inQuery : ∃ v, s.passesQuery query moment b = .ok v
  inRange : (∀ stage ≠ Stage.range, stage.passes s query moment b = true) →
    ∃ v, s.passesRange moment.zone b = .ok v

/-- There is a result if the tags can be asked for and each bookmark is decided on. -/
theorem exists_filter_iff_decides : (∃ kept, s.filter query moment bs = .ok kept) ↔
    (∃ required, s.requiredTags = .ok required) ∧ ∀ b ∈ bs, s.Decides query moment b := by
  constructor
  · rintro ⟨kept, h⟩
    obtain ⟨found, first, h⟩ := exists_of_bind h
    obtain ⟨required, tags, h⟩ := exists_of_bind h
    refine ⟨⟨required, tags⟩, fun b hb => ⟨Verdict.exists_keep_iff.1 ⟨found, first⟩ b hb, ?_⟩⟩
    intro passes
    have inQuery := passes .query nofun
    have inFile := passes .file nofun
    have inTags := passes .tags nofun
    simp only [Stage.passes, Stage.verdict, tags, Except.map, Verdict.holds] at inFile inTags
    refine Verdict.exists_keep_iff.1 ⟨kept, h⟩ b ?_
    rw [Verdict.keep_eq_filter first, List.mem_filter, List.mem_filter, List.mem_filter]
    exact ⟨⟨⟨hb, inQuery⟩, inFile⟩, inTags⟩
  · rintro ⟨⟨required, tags⟩, decides⟩
    obtain ⟨found, first⟩ := Verdict.exists_keep_iff.2 fun b hb => (decides b hb).inQuery
    rw [filter, bind_of_ok first, bind_of_ok tags, Verdict.exists_keep_iff]
    intro b hb
    rw [Verdict.keep_eq_filter first, List.mem_filter, List.mem_filter, List.mem_filter] at hb
    obtain ⟨⟨⟨hb, inQuery⟩, inFile⟩, inTags⟩ := hb
    refine (decides b hb).inRange fun stage other => ?_
    cases stage with
    | query => exact inQuery
    | file => exact inFile
    | tags => simpa only [Stage.passes, Stage.verdict, tags, Except.map, Verdict.holds] using inTags
    | range => exact absurd rfl other

theorem filter_eq_ok_iff : s.filter query moment bs = .ok kept ↔
    ((∃ required, s.requiredTags = .ok required) ∧ ∀ b ∈ bs, s.Decides query moment b) ∧
      kept = bs.filter fun b => Stage.all.all fun stage => stage.passes s query moment b := by
  rw [← exists_filter_iff_decides]
  constructor
  · intro h
    exact ⟨⟨kept, h⟩, eq_filter_of_filter h⟩
  · rintro ⟨⟨found, h⟩, rfl⟩
    rw [h, eq_filter_of_filter h]

/-- Filtering two collections together is filtering each. -/
theorem filter_append_eq_ok_iff : s.filter query moment (bs ++ others) = .ok kept ↔
    ∃ first later, s.filter query moment bs = .ok first ∧
      s.filter query moment others = .ok later ∧ kept = first ++ later := by
  simp only [filter_eq_ok_iff, List.forall_mem_append, List.filter_append]
  constructor
  · rintro ⟨⟨tags, first, later⟩, rfl⟩
    exact ⟨_, _, ⟨⟨tags, first⟩, rfl⟩, ⟨⟨tags, later⟩, rfl⟩, rfl⟩
  · rintro ⟨_, _, ⟨⟨tags, first⟩, rfl⟩, ⟨⟨_, later⟩, rfl⟩, rfl⟩
    exact ⟨⟨tags, first, later⟩, rfl⟩

/-- What was kept is kept again. -/
theorem filter_kept (h : s.filter query moment bs = .ok kept) :
    s.filter query moment kept = .ok kept := by
  obtain ⟨⟨tags, decides⟩, rfl⟩ := filter_eq_ok_iff.1 h
  refine filter_eq_ok_iff.2 ⟨⟨tags, fun b hb => decides b (List.mem_of_mem_filter hb)⟩, ?_⟩
  rw [List.filter_filter]
  simp

theorem requiredTags_of_parts {items : List Json} (parts : s.tags.parts = .ok items) :
    s.requiredTags = if items.all Json.isPlain then .ok items else .error .unsuitable := by
  rw [requiredTags, Json.isVoid_of_parts parts, bind_of_ok parts]
  cases items <;> rfl

/-- Of the tags it only counts which they are. -/
theorem filter_tags_congr {tags : Json} {required asked : List Json}
    (given : s.tags.parts = .ok required) (other : tags.parts = .ok asked)
    (same : ∀ tag, tag ∈ asked ↔ tag ∈ required) :
    { s with tags }.filter query moment bs = s.filter query moment bs := by
  have all_same (test : Json → Bool) : asked.all test = required.all test := by
    rw [Bool.eq_iff_iff]
    simp [same]
  have asks : passesTags asked = passesTags required := by
    funext b
    exact all_same _
  have listed : { s with tags }.requiredTags =
      if required.all Json.isPlain then .ok asked else .error .unsuitable := by
    rw [← all_same]
    exact requiredTags_of_parts other
  rw [filter, filter, listed, requiredTags_of_parts given]
  by_cases plain : required.all Json.isPlain = true
  · simp only [if_pos plain]
    show (_ >>= fun _ => Verdict.keep _ (List.filter (passesTags asked) _)) = _
    rw [asks]
    rfl
  · simp only [if_neg plain]
    rfl

end SettingsForm

namespace Stage

variable {s : SettingsForm} {query : Option QueryForm} {moment : Moment}
  {stages : List Stage} {bs kept : List Bookmark}

theorem eq_filter_of_filter {stage : Stage} (h : stage.filter s query moment bs = .ok kept) :
    kept = bs.filter (stage.passes s query moment) := by
  rw [SettingsForm.eq_filter_of_filter h]
  simp only [passes_settings]

/-- What comes to a result on a collection does on a part of it. -/
theorem exists_filter_of_subset {stage : Stage} {part : List Bookmark} (within : part ⊆ bs)
    (h : ∃ kept, stage.filter s query moment bs = .ok kept) :
    ∃ kept, stage.filter s query moment part = .ok kept := by
  obtain ⟨tags, decides⟩ := SettingsForm.exists_filter_iff_decides.1 h
  exact SettingsForm.exists_filter_iff_decides.2 ⟨tags, fun b hb => decides b (within hb)⟩

/-- Stages one after the other keep what passes each of them. -/
theorem eq_filter_of_filterAll (h : filterAll s query moment stages bs = .ok kept) :
    kept = bs.filter fun b => stages.all fun stage => stage.passes s query moment b := by
  induction stages generalizing bs with
  | nil =>
    cases h
    simp
  | cons stage stages ih =>
    rw [filterAll, List.foldlM_cons] at h
    obtain ⟨left, first, rest⟩ := exists_of_bind h
    rw [ih rest, eq_filter_of_filter first, List.filter_filter]
    simp only [List.all_cons, Bool.and_comm]

/-- If each of some stages comes to a result by itself, they do one after the other. -/
theorem exists_filterAll
    (each : ∀ stage ∈ stages, ∃ kept, stage.filter s query moment bs = .ok kept) :
    ∃ kept, filterAll s query moment stages bs = .ok kept := by
  induction stages generalizing bs with
  | nil => exact ⟨bs, rfl⟩
  | cons stage stages ih =>
    obtain ⟨⟨left, first⟩, later⟩ := List.forall_mem_cons.1 each
    have within : left ⊆ bs := by
      rw [eq_filter_of_filter first]
      exact List.filter_subset_self bs
    obtain ⟨kept, rest⟩ := ih fun stage mem => exists_filter_of_subset within (later stage mem)
    refine ⟨kept, ?_⟩
    rw [filterAll, List.foldlM_cons, bind_of_ok first]
    exact rest

/-- If the whole filter and the range by itself come to a result, each stage does by itself. -/
theorem exists_filter_of_whole (whole : s.filter query moment bs = .ok kept)
    (ranged : ∃ found, Stage.range.filter s query moment bs = .ok found) (stage : Stage) :
    ∃ found, stage.filter s query moment bs = .ok found := by
  obtain ⟨⟨tags, decides⟩, _⟩ := SettingsForm.filter_eq_ok_iff.1 whole
  -- what a stage by itself does not look at is decided
  have settled : ∃ v, Except.ok (ε := Fault) true = .ok v := ⟨true, rfl⟩
  cases stage with
  | range => exact ranged
  | query =>
    refine SettingsForm.exists_filter_iff_decides.2 ⟨⟨[], rfl⟩, fun b hb => ?_⟩
    exact ⟨(decides b hb).inQuery, fun _ => settled⟩
  | file =>
    refine SettingsForm.exists_filter_iff_decides.2 ⟨⟨[], rfl⟩, fun b _ => ?_⟩
    exact ⟨settled, fun _ => settled⟩
  | tags =>
    refine SettingsForm.exists_filter_iff_decides.2 ⟨tags, fun b _ => ?_⟩
    exact ⟨settled, fun _ => settled⟩

end Stage

/-- A filter is its stages, each by itself, one after the other and in any order: where both come to
a result it is the same, and where the filter and the range by itself do, every order does. It goes
through a collection part by part, changes nothing the second time, and of the tags it only counts
which they are. -/
theorem filter_in_stages (s : SettingsForm) (query : Option QueryForm) (moment : Moment)
    (bs : List Bookmark) :
    (∀ stages kept found, stages.Perm Stage.all → s.filter query moment bs = .ok kept →
      Stage.filterAll s query moment stages bs = .ok found → found = kept) ∧
    (∀ stages kept, stages.Perm Stage.all → s.filter query moment bs = .ok kept →
      (∃ ranged, Stage.range.filter s query moment bs = .ok ranged) →
      Stage.filterAll s query moment stages bs = .ok kept) ∧
    (∀ others kept, s.filter query moment (bs ++ others) = .ok kept ↔
      ∃ first later, s.filter query moment bs = .ok first ∧
        s.filter query moment others = .ok later ∧ kept = first ++ later) ∧
    (∀ kept, s.filter query moment bs = .ok kept → s.filter query moment kept = .ok kept) ∧
    ∀ tags required asked, s.tags.parts = .ok required → tags.parts = .ok asked →
      (∀ tag, tag ∈ asked ↔ tag ∈ required) →
      { s with tags }.filter query moment bs = s.filter query moment bs := by
  have any_order {stages : List Stage} {kept found : List Bookmark} (order : stages.Perm Stage.all)
      (whole : s.filter query moment bs = .ok kept)
      (staged : Stage.filterAll s query moment stages bs = .ok found) : found = kept := by
    rw [Stage.eq_filter_of_filterAll staged, SettingsForm.eq_filter_of_filter whole]
    simp only [order.all_eq]
  refine ⟨fun stages kept found => any_order, ?_, ?_, ?_, ?_⟩
  · intro stages kept order whole ranged
    have each := Stage.exists_filter_of_whole whole ranged
    obtain ⟨found, staged⟩ : ∃ found, Stage.filterAll s query moment stages bs = .ok found :=
      Stage.exists_filterAll fun stage _ => each stage
    rw [staged, any_order order whole staged]
  · exact fun others kept => SettingsForm.filter_append_eq_ok_iff
  · exact fun kept => SettingsForm.filter_kept
  · exact fun tags required asked => SettingsForm.filter_tags_congr

/-- The stages backwards, an end of the range that is no date, and tags given twice. -/
theorem filter_in_stages_backwards :
    let bookmark (title createdAt : String) (tags : List String) : Bookmark :=
      { id := "", title, timestamp := .zero, filepath := "/a", createdAt, description := none,
        tags }
    let kept := [bookmark "Meet" "2024-03-01T12:00:00" ["m", "w"]]
    let bs := kept ++ [bookmark "meet z" "2024-03-01" ["w", "m"], bookmark "meet" "" ["m", "w"]]
    let moment : Moment := ⟨0, ⟨.first, none⟩⟩
    let query := some (QueryForm.ofQuery (Query.parse "meet NOT title:z").1)
    let s : SettingsForm := {
      file := .str "/a", tags := .arr [.str "w", .str "m"]
      rangeStart := .str "2024-01-01", rangeStop := .str "soon" }
    s.filter query moment bs = .ok kept ∧
      Stage.filterAll s query moment [.range, .tags, .file, .query] bs = .ok kept ∧
      s.filter query moment kept = .ok kept ∧
      { s with tags := .arr [.str "m", .str "w", .str "m"] }.filter query moment bs = .ok kept := by
  intro bookmark kept bs moment query s
  have whole : s.filter query moment bs = .ok kept := by decide +kernel
  have ranged : Stage.range.filter s query moment bs = .ok (bs.take 2) := by decide +kernel
  have order : [Stage.range, .tags, .file, .query].Perm Stage.all := by decide
  have same (tag : Json) : tag ∈ [Json.str "m", .str "w", .str "m"] ↔
      tag ∈ [Json.str "w", .str "m"] := by
    simp only [List.mem_cons, List.not_mem_nil, or_false]
    rw [or_left_comm, or_self]
  obtain ⟨_, staged, _, again, tags⟩ := filter_in_stages s query moment bs
  exact ⟨whole, staged _ kept order whole ⟨_, ranged⟩, again kept whole,
    (tags _ _ _ rfl rfl same).trans whole⟩

end Bookmarks
