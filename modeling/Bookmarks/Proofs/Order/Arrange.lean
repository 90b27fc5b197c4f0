import Bookmarks.Proofs.Order.Comparison
import Bookmarks.Sorting.Perm
import Bookmarks.Sorting.Stable

/-! What sorting does to a list of bookmarks. The result is followed together with the places the
bookmarks had before, so that bookmarks no criterion tells apart can be seen to keep their order. -/

namespace Bookmarks

namespace Sorting

variable {α : Type}

theorem isWeakOrder_of_transCmp (cmp : α → α → Ordering) [Std.TransCmp cmp] :
    IsWeakOrder fun a b => cmp a b == .lt where
  asymm {a b} h := by
    have : cmp b a = .gt := Std.OrientedCmp.gt_of_lt (by simpa using h)
    simp [this]
  trans {a b c} hba hcb := by
    have isGE : ∀ {x y}, (cmp x y == .lt) = false → (cmp x y).isGE := by
      intro x y h
      cases hxy : cmp x y <;> simp_all
    have hca : (cmp c a).isGE := Std.TransCmp.isGE_trans (isGE hcb) (isGE hba)
    cases h : cmp c a <;> simp_all

theorem pairwise_snd_zipIdx (xs : List α) (start : Nat) :
    (xs.zipIdx start).Pairwise fun p q => p.2 < q.2 := by
  refine List.pairwise_iff_getElem.2 ?_
  intro i j hi hj hij
  simp only [List.getElem_zipIdx]
  omega

/-- Elements that are level stay in any relation in which all stood before. -/
theorem pairwise_sort_of_pairwise {less : α → α → Bool} (order : IsWeakOrder less)
    {R : α → α → Prop} {xs : List α} (before : xs.Pairwise R) :
    (sort less xs).Pairwise fun a b => level less a b = true → R a b := by
  refine List.pairwise_iff_getElem.2 ?_
  intro i j hi hj hij levels
  -- the class of the earlier element, which holds both, stands as it stood before sorting
  let a := (sort less xs)[i]
  have kept : ((sort less xs).filter (level less a)).Pairwise R := by
    rw [filter_level_sort order]
    exact before.filter _
  have related := List.pairwise_iff_getElem.1 (List.pairwise_filter.1 kept) i j hi hj hij
  exact related (level_self order a) levels

/-- Sorting by comparisons: what comes later is greater, or level and later before. -/
theorem pairwise_sort_zipIdx (cmp : α → α → Ordering) [Std.TransCmp cmp] (xs : List α) :
    (sort (along Prod.fst fun a b => cmp a b == .lt) xs.zipIdx).Pairwise fun p q =>
      cmp p.1 q.1 = .lt ∨ cmp p.1 q.1 = .eq ∧ p.2 < q.2 := by
  have order := isWeakOrder_of_transCmp cmp
  have lifted : IsWeakOrder (along (Prod.fst : α × Nat → α) fun a b => cmp a b == .lt) :=
    ⟨order.asymm, order.trans⟩
  have placed := (inOrder_sort lifted xs.zipIdx).and
    (pairwise_sort_of_pairwise lifted (pairwise_snd_zipIdx xs 0))
  refine placed.imp ?_
  intro p q h
  have swapped : cmp q.1 p.1 = (cmp p.1 q.1).swap := Std.OrientedCmp.eq_swap
  cases hpq : cmp p.1 q.1 with
  | lt => exact .inl rfl
  | eq => exact .inr ⟨rfl, h.2 (by simp [level, hpq, swapped])⟩
  | gt => simp [along, swapped, hpq] at h

end Sorting

/-- Whether a bookmark rightly stands before another, each given with its place before sorting: the
first criterion that tells them apart puts it first, or none does and it was first before. -/
def StandsBefore (zone : Int) (criteria : List CriterionForm) (p q : Bookmark × Nat) : Prop :=
  match firstDecision zone criteria p.1 q.1 with
  | some decision => decision = .lt
  | none => p.2 < q.2

theorem standsBefore_iff {zone : Int} {criteria : List CriterionForm} {p q : Bookmark × Nat} :
    StandsBefore zone criteria p q ↔ compareBy zone criteria p.1 q.1 = .lt ∨
      compareBy zone criteria p.1 q.1 = .eq ∧ p.2 < q.2 := by
  rw [compareBy_eq_lt, compareBy_eq_eq, StandsBefore]
  cases firstDecision zone criteria p.1 q.1 <;> simp

/-- How criteria put bookmarks with a timestamp in order. -/
def TimedBookmark.before (zone : Int) (criteria : List CriterionForm) (a b : TimedBookmark) : Bool :=
  compareBy zone criteria a.val b.val == .lt

namespace TimedBookmark

variable (zone : Int) (criteria : List CriterionForm)

theorem isWeakOrder_before : Sorting.IsWeakOrder (before zone criteria) :=
  Sorting.isWeakOrder_of_transCmp fun a b : TimedBookmark => compareBy zone criteria a.val b.val

theorem arrange_val (ts : List TimedBookmark) : arrange zone criteria (ts.map Subtype.val) =
    (Sorting.sort (before zone criteria) ts).map Subtype.val :=
  Sorting.sort_map Subtype.val _ ts

end TimedBookmark

theorem exists_timed {bs : List Bookmark} (timed : ∀ b ∈ bs, b.timestamp ≠ .nan) :
    ∃ ts : List TimedBookmark, ts.map Subtype.val = bs :=
  ⟨bs.attachWith _ timed, List.attachWith_map_subtype_val timed⟩

/-- Whether a list holds given bookmarks in the order of some criteria. -/
def IsArrangement (zone : Int) (criteria : List CriterionForm) (bs sorted : List Bookmark) : Prop :=
  ∃ placed : List (Bookmark × Nat), placed.Perm bs.zipIdx ∧ placed.map Prod.fst = sorted ∧
    placed.Pairwise (StandsBefore zone criteria)

theorem isArrangement_arrange (zone : Int) (criteria : List CriterionForm) {bs : List Bookmark}
    (timed : ∀ b ∈ bs, b.timestamp ≠ .nan) :
    IsArrangement zone criteria bs (arrange zone criteria bs) := by
  obtain ⟨ts, rfl⟩ := exists_timed timed
  let cmp := fun a b : TimedBookmark => compareBy zone criteria a.val b.val
  let sorted := Sorting.sort (Sorting.along Prod.fst fun a b => cmp a b == .lt) ts.zipIdx
  have zipped : ts.zipIdx.map (Prod.map Subtype.val id) = (ts.map Subtype.val).zipIdx :=
    List.zipIdx_map.symm
  have unzipped : sorted.map Prod.fst = Sorting.sort (TimedBookmark.before zone criteria) ts := by
    rw [← Sorting.sort_map, List.zipIdx_map_fst]
    rfl
  refine ⟨sorted.map (Prod.map Subtype.val id), ?_, ?_, ?_⟩
  · rw [← zipped]
    exact (Sorting.sort_perm _ _).map _
  · rw [TimedBookmark.arrange_val, ← unzipped, List.map_map, List.map_map]
    rfl
  · refine List.pairwise_map.2 ((Sorting.pairwise_sort_zipIdx cmp ts).imp ?_)
    intro p q h
    exact standsBefore_iff.2 h

theorem arrange_nil (zone : Int) (bs : List Bookmark) : arrange zone [] bs = bs := by
  have order : Sorting.IsWeakOrder fun _ _ : Bookmark => false := ⟨fun _ => rfl, fun _ _ => rfl⟩
  have given : Sorting.InOrder (fun _ _ : Bookmark => false) bs :=
    List.pairwise_iff_getElem.2 fun _ _ _ _ _ => rfl
  apply Sorting.eq_of_inOrder order (Sorting.inOrder_sort order bs) given
  intro z
  exact Sorting.filter_level_sort order z bs

theorem Json.isSome_lt? {x y : Json} (hx : x.number?.isSome) (hy : y.number?.isSome) :
    (x.lt? y).isSome := by
  cases x <;> cases y <;> simp_all [Json.number?, Json.lt?]

theorem areOrdered_of_number {values : List Json} (h : ∀ v ∈ values, v.number?.isSome) :
    areOrdered values = true := by
  induction values with
  | nil => rfl
  | cons v rest ih =>
    have hv := h v List.mem_cons_self
    have hrest : ∀ w ∈ rest, w.number?.isSome := fun w hw => h w (List.mem_cons_of_mem v hw)
    have ordered : rest.all (fun w => (v.lt? w).isSome) = true := by
      rw [List.all_eq_true]
      intro w hw
      exact Json.isSome_lt? hv (hrest w hw)
    rw [areOrdered, ordered, ih hrest]
    rfl

namespace SettingsForm

theorem exists_activeCriteria (s : SettingsForm)
    (numbered : ∀ c ∈ s.criteria, c.priority.number?.isSome) :
    ∃ criteria, s.activeCriteria = .ok criteria := by
  have ordered : areOrdered (s.criteria.map (·.priority)) = true := by
    apply areOrdered_of_number
    simpa using numbered
  unfold activeCriteria
  split
  · exact ⟨_, rfl⟩
  · rw [byPriority, if_pos ordered]
    exact ⟨_, rfl⟩

theorem sort_eq_of_active {s : SettingsForm} {criteria : List CriterionForm}
    (active : s.activeCriteria = .ok criteria) (zone : Int) (bs : List Bookmark) :
    s.sort zone bs = .ok (arrange zone criteria bs) := by
  rw [sort, active]
  rfl

/-- Sorting keeps every bookmark, puts each two in the order of the first criterion that tells them
apart, and lets those that no criterion tells apart keep their order. -/
theorem isArrangement_sort (s : SettingsForm) (zone : Int) (bs : List Bookmark)
    (numbered : ∀ c ∈ s.criteria, c.priority.number?.isSome)
    (timed : ∀ b ∈ bs, b.timestamp ≠ .nan) :
    ∃ criteria sorted, s.activeCriteria = .ok criteria ∧ s.sort zone bs = .ok sorted ∧
      IsArrangement zone criteria bs sorted ∧ (criteria = [] → sorted = bs) := by
  have ⟨criteria, active⟩ := s.exists_activeCriteria numbered
  refine ⟨criteria, arrange zone criteria bs, active, sort_eq_of_active active zone bs,
    isArrangement_arrange zone criteria timed, ?_⟩
  intro none
  rw [none, arrange_nil]

/-- Titles that fold alike, the later one with a greater timestamp. -/
theorem isArrangement_sort_titles :
    ∃ criteria sorted,
      SettingsForm.activeCriteria {
        multiSort := .bool true
        criteria := [{ field := .str "timestamp", direction := .str "desc", priority := .int 2 },
          { field := .str "title" }] } = .ok criteria ∧
      SettingsForm.sort {
        multiSort := .bool true
        criteria := [{ field := .str "timestamp", direction := .str "desc", priority := .int 2 },
          { field := .str "title" }] } 0
        [⟨"1", "b", .zero, "", "", none, []⟩, ⟨"2", "b", .ofInt 3, "", "", none, []⟩] =
          .ok sorted ∧
      IsArrangement 0 criteria
        [⟨"1", "b", .zero, "", "", none, []⟩, ⟨"2", "b", .ofInt 3, "", "", none, []⟩] sorted ∧
      (criteria = [] → sorted =
        [⟨"1", "b", .zero, "", "", none, []⟩, ⟨"2", "b", .ofInt 3, "", "", none, []⟩]) :=
  isArrangement_sort _ 0 _ (by decide) (by simp [Double.zero, Double.ofInt, Double.ofRatio])

end SettingsForm

end Bookmarks
