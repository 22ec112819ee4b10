import BuildReport.Proofs.Order
import BuildReport.Proofs.Snapshots
import Mathlib.Algebra.BigOperators.Group.Finset.Basic
import Mathlib.Data.List.Perm.Basic
import Mathlib.Data.Prod.Lex

/-!
# What a snapshot shows

A snapshot is put together from two tables whose entries stand in no particular order. None of that
is left in it. Which files are listed, where each of them stands, and where each marker of a file
stands, is decided by what the store holds: a list that is sorted is known by the order within its
ties, and sorting keeps this order.

- `eq_of_sorted_of_ties`, `filter_key_mergeSort`: sorted lists and their ties.
- `Marker.key`: where a marker is shown among those of its file.
- `MarkerStore.Shows`: a snapshot shows what a store holds.
- `shows_snapshotIn`: the snapshot does, in whatever order the files come up.
- `Shows.unique`: no other one does.
- `count_snapshot`: how many markers there are at a level.
- `Board.run_snapshot_shows`: all of this, for the boards that a session reaches.
-/

namespace BuildReport

/-! ## Sorting and ties -/

section Ties

variable {α κ : Type} [LinearOrder κ] {key : α → κ} {l l' : List α}

theorem mem_of_ties (h : ∀ b, l.filter (key · = key b) = l'.filter (key · = key b)) {a : α}
    (ha : a ∈ l) : a ∈ l' := by
  have hmem : a ∈ l.filter (key · = key a) :=
    List.mem_filter.mpr ⟨ha, decide_eq_true rfl⟩
  rw [h] at hmem
  exact List.mem_of_mem_filter hmem

/-- **A sorted list is known by its ties**: by the elements that tie with each, in their order. -/
theorem eq_of_sorted_of_ties (hl : l.Pairwise fun a b => key a ≤ key b)
    (hl' : l'.Pairwise fun a b => key a ≤ key b)
    (h : ∀ b, l.filter (key · = key b) = l'.filter (key · = key b)) : l = l' := by
  induction l generalizing l' with
  | nil => exact (List.eq_nil_iff_forall_not_mem.mpr fun a ha =>
      absurd (mem_of_ties (fun b => (h b).symm) ha) List.not_mem_nil).symm
  | cons a l ih =>
    obtain ⟨b, t, rfl⟩ := List.exists_cons_of_ne_nil
      (List.ne_nil_of_mem (mem_of_ties h List.mem_cons_self))
    obtain ⟨ha, hl⟩ := List.pairwise_cons.mp hl
    obtain ⟨hb, ht⟩ := List.pairwise_cons.mp hl'
    -- each of the two stands first in a list that also holds the other
    have hkey : key a = key b := by
      refine le_antisymm ?_ ?_
      · rcases List.mem_cons.mp (mem_of_ties (fun b => (h b).symm) List.mem_cons_self) with rfl | hm
        · exact le_rfl
        · exact ha b hm
      · rcases List.mem_cons.mp (mem_of_ties h List.mem_cons_self) with rfl | hm
        · exact le_rfl
        · exact hb a hm
    have hfirst := h a
    rw [List.filter_cons_of_pos (by simp), List.filter_cons_of_pos (by simp [hkey])] at hfirst
    obtain rfl := (List.cons.inj hfirst).1
    refine congrArg (a :: ·) (ih hl ht fun c => ?_)
    have hc := h c
    by_cases hac : key a = key c
    · rw [List.filter_cons_of_pos (by simp [hac]), List.filter_cons_of_pos (by simp [hac])] at hc
      exact (List.cons.inj hc).2
    · rwa [List.filter_cons_of_neg (by simp [hac]), List.filter_cons_of_neg (by simp [hac])] at hc

/-- **Sorting keeps the order within ties.** -/
theorem filter_key_mergeSort {le : α → α → Bool} (hle : ∀ a b, le a b = decide (key a ≤ key b))
    (l : List α) (k : κ) : (l.mergeSort le).filter (key · = k) = l.filter (key · = k) := by
  have htrans : ∀ a b c, le a b = true → le b c = true → le a c = true := by
    intro a b c
    rw [hle, hle, hle, decide_eq_true_iff, decide_eq_true_iff, decide_eq_true_iff]
    exact le_trans
  have htotal : ∀ a b, (le a b || le b a) = true := by
    intro a b
    rw [hle, hle, Bool.or_eq_true, decide_eq_true_iff, decide_eq_true_iff]
    exact le_total _ _
  have htied : (l.filter (key · = k)).Pairwise fun a b => le a b = true := by
    refine List.pairwise_of_forall_mem_list fun a ha b hb => ?_
    have hka : key a = k := of_decide_eq_true (List.mem_filter.mp ha).2
    have hkb : key b = k := of_decide_eq_true (List.mem_filter.mp hb).2
    rw [hle, decide_eq_true_iff, hka, hkb]
  -- the ties are in order, so they are still a part of the sorted list, and there are no more
  have hsub := (List.sublist_mergeSort htrans htotal htied List.filter_sublist).filter (key · = k)
  rw [List.filter_filter] at hsub
  simp only [Bool.and_self] at hsub
  exact (hsub.eq_of_length ((List.mergeSort_perm l le).filter _).length_eq.symm).symm

end Ties

theorem nodup_eraseDups {α : Type} [BEq α] [LawfulBEq α] : (l : List α) → l.eraseDups.Nodup
  | [] => List.nodup_nil
  | a :: l => by
    rw [List.eraseDups_cons, List.nodup_cons, List.mem_eraseDups]
    exact ⟨by simp, nodup_eraseDups _⟩
  termination_by l => l.length
  decreasing_by exact Nat.lt_succ_of_le (List.length_filter_le _ _)

/-! ## Where a marker is shown -/

namespace Marker

/-- Where a marker is shown among those of its file: by its line, then by its first column, then
errors before warnings. -/
def key (m : Marker) : ℕ ×ₗ ℕ ×ₗ ℕ :=
  toLex (m.line, toLex (m.startColumn, m.level.rank))

theorem le_eq_decide (a b : Marker) : a.le b = decide (a.key ≤ b.key) := by
  simp only [le, key, Prod.Lex.toLex_le_toLex]
  grind

/-- Markers tie if they start at one place and are of one level. -/
theorem key_eq_iff {a b : Marker} : a.key = b.key ↔
    a.line = b.line ∧ a.startColumn = b.startColumn ∧ a.level = b.level := by
  have hrank : a.level.rank = b.level.rank ↔ a.level = b.level := by
    cases a.level <;> cases b.level <;> decide
  simp only [key, toLex_inj, Prod.mk.injEq, hrank]

end Marker

/-! ## What a snapshot is to show -/

namespace MarkerStore

/-- The markers of a file in the order in which they are kept, errors first. -/
def held (s : MarkerStore) (file : Trail) : List Marker :=
  s.markers .error file ++ s.markers .warning file

/-- The file `f` is shown before `g`: it has an error and `g` has none, or it is of one kind with
`g` in this and its trail comes first. -/
inductive Before (s : MarkerStore) (f g : Trail) : Prop
  | error (hf : s.markers .error f ≠ []) (hg : s.markers .error g = [])
  | trail (hkind : s.markers .error f = [] ↔ s.markers .error g = []) (hlt : f.compare g = .lt)

/-- The snapshot shows what the store holds. -/
structure Shows (s : MarkerStore) (v : Snapshot) : Prop where
  /-- The files that have a marker are listed, and no others. -/
  files : ∀ file, file ∈ v.files.map (·.1) ↔ ∃ level, s.markers level file ≠ []
  /-- No file is listed twice. -/
  once : (v.files.map (·.1)).Nodup
  /-- Files with an error come first, and otherwise files come in the order of their trails. -/
  in_order : (v.files.map (·.1)).Pairwise s.Before
  /-- A file is listed with all of its markers. -/
  markers : ∀ e ∈ v.files, e.2.Perm (s.held e.1)
  /-- They stand by line, then by first column, then errors before warnings. -/
  sorted : ∀ e ∈ v.files, e.2.Pairwise fun a b => a.key ≤ b.key
  /-- Those that tie stand in the order in which they are kept. -/
  ties : ∀ e ∈ v.files, ∀ m : Marker,
    e.2.filter (·.key = m.key) = (s.held e.1).filter (·.key = m.key)

variable {s t : MarkerStore} {v : Snapshot} {file : Trail} {order : List Trail}

theorem sorted_shown (s : MarkerStore) (file : Trail) :
    (s.shown file).Pairwise fun a b => a.key ≤ b.key := by
  simpa only [Marker.le_eq_decide, decide_eq_true_iff] using s.pairwise_shown file

theorem filter_shown (s : MarkerStore) (file : Trail) (k : ℕ ×ₗ ℕ ×ₗ ℕ) :
    (s.shown file).filter (·.key = k) = (s.held file).filter (·.key = k) :=
  filter_key_mergeSort Marker.le_eq_decide _ k

/-- The markers of an entry are known by what the store holds. -/
theorem Shows.entry_eq (h : s.Shows v) {e : Trail × List Marker} (he : e ∈ v.files) :
    e = (e.1, s.shown e.1) := by
  refine Prod.ext rfl (eq_of_sorted_of_ties (h.sorted e he) (s.sorted_shown e.1) fun m => ?_)
  rw [h.ties e he, filter_shown]

theorem Before.asymm {f g : Trail} (h : s.Before f g) (h' : s.Before g f) : False := by
  cases h with
  | error hf hg =>
    cases h' with
    | error hg' hf' => exact hf hf'
    | trail hkind hlt => exact hf (hkind.mp hg)
  | trail hkind hlt =>
    cases h' with
    | error hg' hf' => exact hg' (hkind.mp hf')
    | trail hkind' hgt =>
      have hswap := Trail.compareLex_eq_swap f g
      rw [← Trail.compare_eq_compareLex, ← Trail.compare_eq_compareLex, hlt, hgt] at hswap
      cases hswap

/-- **What the store holds is shown in one way only.** -/
theorem Shows.unique {v' : Snapshot} (h : s.Shows v) (h' : s.Shows v') : v = v' := by
  have hentries : ∀ {v : Snapshot}, s.Shows v →
      v.files = (v.files.map (·.1)).map fun file => (file, s.shown file) := by
    intro v h
    rw [List.map_map, ← List.map_id v.files, List.map_map]
    exact List.map_congr_left fun e he => h.entry_eq he
  have hperm : (v.files.map (·.1)).Perm (v'.files.map (·.1)) :=
    (List.perm_ext_iff_of_nodup h.once h'.once).mpr fun file =>
      (h.files file).trans (h'.files file).symm
  have hfiles : v.files.map (·.1) = v'.files.map (·.1) :=
    hperm.eq_of_pairwise (fun _ _ _ _ hfg hgf => (hfg.asymm hgf).elim) h.in_order h'.in_order
  obtain ⟨files⟩ := v
  obtain ⟨files'⟩ := v'
  exact congrArg Snapshot.mk ((hentries h).trans (hfiles ▸ (hentries h').symm))

end MarkerStore

/-! ## The snapshot that is taken -/

/-- A table counts the markers of its files. -/
theorem MarkerTable.count_eq (t : MarkerTable) :
    t.count = (t.files.map fun file => (t.get file).length).foldr (· + ·) 0 := by
  show (t.entries.map _).foldr _ _ = ((t.entries.map _).map _).foldr _ _
  rw [List.map_map]
  refine congrArg (List.foldr _ 0) (List.map_congr_left fun e he => ?_)
  exact congrArg List.length (MarkerTable.get_of_mem_entries he).symm

namespace Snapshot

theorem le_total (a b : Trail × List Marker) : (le a b || le b a) = true := by
  unfold le
  by_cases h : hasError a = hasError b
  · rw [if_pos h, if_pos h.symm]
    exact Trail.le_total a.1 b.1
  · rw [if_neg h, if_neg (Ne.symm h)]
    cases ha : hasError a <;> cases hb : hasError b <;> simp_all

theorem le_trans {a b c : Trail × List Marker} (hab : le a b = true) (hbc : le b c = true) :
    le a c = true := by
  unfold le at *
  cases ha : hasError a <;> cases hb : hasError b <;> cases hc : hasError c <;>
    simp_all only [reduceCtorEq, if_true, if_false]
  · exact Trail.le_trans hab hbc
  · exact Trail.le_trans hab hbc

end Snapshot

namespace MarkerStore

variable {s t : MarkerStore} {v : Snapshot} {file : Trail} {order : List Trail}

theorem nodup_files (s : MarkerStore) : s.files.Nodup :=
  nodup_eraseDups _

theorem IsSound.mem_files_iff (h : s.IsSound) :
    file ∈ s.files ↔ ∃ level, s.markers level file ≠ [] := by
  rw [mem_files]
  exact exists_congr fun level =>
    ⟨h.tight level file, MarkerTable.mem_files_of_get_ne_nil⟩

theorem IsSound.hasError_shown (h : s.IsSound) :
    Snapshot.hasError (file, s.shown file) = true ↔ s.markers .error file ≠ [] := by
  rw [Snapshot.hasError, List.any_eq_true]
  constructor
  · rintro ⟨m, hm, hlevel⟩
    exact List.ne_nil_of_mem (h.mem_shown_iff.mp ⟨hm, beq_iff_eq.mp hlevel⟩)
  · intro hne
    obtain ⟨m, hm⟩ := List.exists_mem_of_ne_nil _ hne
    obtain ⟨hshown, hlevel⟩ := h.mem_shown_iff.mpr hm
    exact ⟨m, hshown, beq_iff_eq.mpr hlevel⟩

theorem perm_snapshotIn (s : MarkerStore) (order : List Trail) :
    ((s.snapshotIn order).files.map (·.1)).Perm order := by
  refine ((List.mergeSort_perm _ _).map _).trans (.of_eq ?_)
  rw [List.map_map]
  exact List.map_id order

/-- The entries of a snapshot are in order, and no two are of one file. -/
theorem pairwise_snapshotIn (s : MarkerStore) (horder : order.Nodup) :
    (s.snapshotIn order).files.Pairwise fun a b => Snapshot.le a b = true ∧ a.1 ≠ b.1 := by
  refine .and ?_ (List.pairwise_map.mp ((s.perm_snapshotIn order).nodup_iff.mpr horder))
  apply List.pairwise_mergeSort
  · exact fun _ _ _ => Snapshot.le_trans
  · exact Snapshot.le_total

/-- What comes first in a snapshot is to be shown before the rest. -/
theorem IsSound.before_of_le (h : s.IsSound) {f g : Trail} (hne : f ≠ g)
    (hle : Snapshot.le (f, s.shown f) (g, s.shown g) = true) : s.Before f g := by
  unfold Snapshot.le at hle
  split at hle
  · next heq =>
    refine .trail ?_ (Trail.compare_eq_lt hle hne)
    rw [← not_iff_not, ← ne_eq, ← ne_eq, ← h.hasError_shown, ← h.hasError_shown, heq]
  · next hne =>
    refine .error (h.hasError_shown.mp hle) ?_
    rw [← not_not (a := _ = _), ← ne_eq, ← h.hasError_shown]
    exact fun heq => hne (hle.trans heq.symm)

/-- **The snapshot shows what the store holds**, in whatever order its files come up. -/
theorem IsSound.shows_snapshotIn (h : s.IsSound) (horder : order.Perm s.files) :
    s.Shows (s.snapshotIn order) where
  files := fun file => by
    rw [(s.perm_snapshotIn order).mem_iff, horder.mem_iff, h.mem_files_iff]
  once := (s.perm_snapshotIn order).nodup_iff.mpr (horder.nodup_iff.mpr s.nodup_files)
  in_order := by
    have hpairs := s.pairwise_snapshotIn (horder.nodup_iff.mpr s.nodup_files)
    refine List.pairwise_map.mpr (hpairs.imp_of_mem ?_)
    rintro ⟨f, ms⟩ ⟨g, ns⟩ ha hb ⟨hle, hne⟩
    obtain rfl : ms = s.shown f := (mem_snapshotIn.mp ha).2
    obtain rfl : ns = s.shown g := (mem_snapshotIn.mp hb).2
    exact h.before_of_le hne hle
  markers := fun e he => by
    rw [(mem_snapshotIn.mp he).2]
    exact s.shown_perm e.1
  sorted := fun e he => by
    rw [(mem_snapshotIn.mp he).2]
    exact s.sorted_shown e.1
  ties := fun e he m => by
    rw [(mem_snapshotIn.mp he).2]
    exact s.filter_shown e.1 m.key

/-- The order in which the files come up does not show. -/
theorem IsSound.snapshotIn_eq (h : s.IsSound) (horder : order.Perm s.files) :
    s.snapshotIn order = s.snapshot :=
  (h.shows_snapshotIn horder).unique (h.shows_snapshotIn (.refl s.files))

theorem IsSound.shows_iff (h : s.IsSound) : s.Shows v ↔ v = s.snapshot := by
  have hshows : s.Shows s.snapshot := h.shows_snapshotIn (.refl s.files)
  constructor
  · exact fun hv => hv.unique hshows
  · rintro rfl
    exact hshows

/-- A snapshot depends on what is shown for each file alone. -/
theorem IsSound.snapshotIn_congr (h : s.IsSound) (hshown : ∀ file, t.shown file = s.shown file)
    (horder : order.Perm s.files) : t.snapshotIn order = s.snapshot := by
  rw [← h.snapshotIn_eq horder, snapshotIn, snapshotIn]
  simp only [hshown]

theorem perm_files_of_same (h : ∀ level, (t.table level).Same (s.table level)) :
    t.files.Perm s.files := by
  refine (List.perm_ext_iff_of_nodup t.nodup_files s.nodup_files).mpr fun file => ?_
  rw [mem_files, mem_files]
  exact exists_congr fun level => (h level).mem_files_iff

theorem shown_of_same (h : ∀ level, (t.table level).Same (s.table level)) (file : Trail) :
    t.shown file = s.shown file := by
  have herrors : t.errors.get file = s.errors.get file := (h .error).get_eq file
  have hwarnings : t.warnings.get file = s.warnings.get file := (h .warning).get_eq file
  rw [shown, shown, herrors, hwarnings]

theorem files_snapshot_eq_nil_iff (s : MarkerStore) :
    s.snapshot.files = [] ↔ ∀ level, (s.table level).entries = [] := by
  have hperm := s.perm_snapshotIn s.files
  have hlisted : s.snapshot.files = [] ↔ s.files = [] := by
    rw [← List.map_eq_nil_iff (f := (·.1))]
    constructor
    · intro hnil
      exact List.nil_perm.mp (hnil ▸ hperm)
    · intro hnil
      exact List.perm_nil.mp (hnil ▸ hperm)
  rw [hlisted, List.eq_nil_iff_forall_not_mem]
  simp only [mem_files, not_exists]
  rw [forall_comm]
  refine forall_congr' fun level => ?_
  rw [← List.eq_nil_iff_forall_not_mem]
  exact List.map_eq_nil_iff

/-! ## How many markers there are -/

/-- Of what is shown for a file, as much is of a level as the store holds for the file there. -/
theorem IsSound.countP_shown (h : s.IsSound) (level : Level) (file : Trail) :
    (s.shown file).countP (·.level == level) = (s.markers level file).length := by
  have hall : ∀ l, (s.markers l file).countP (·.level == level) =
      if l = level then (s.markers l file).length else 0 := by
    intro l
    split
    · next hl =>
      refine List.countP_eq_length.mpr fun m hm => ?_
      rw [h.leveled l file m hm, hl, beq_self_eq_true]
    · next hl =>
      refine List.countP_eq_zero.mpr fun m hm => ?_
      rw [h.leveled l file m hm, beq_iff_eq]
      exact hl
  rw [(s.shown_perm file).countP_eq, List.countP_append, hall, hall]
  cases level <;> simp

/-- **A snapshot counts the markers of a table.** -/
theorem IsSound.count_snapshot (h : s.IsSound) (level : Level) :
    s.snapshot.count level = (s.table level).count := by
  have hentries : s.snapshot.count level =
      (s.files.map fun file => (s.markers level file).length).sum := by
    show (List.map _ ((s.files.map fun file => (file, s.shown file)).mergeSort
      Snapshot.le)).sum = _
    rw [((List.mergeSort_perm _ _).map _).sum_eq, List.map_map]
    exact congrArg List.sum (List.map_congr_left fun file _ => h.countP_shown level file)
  have htable : (s.table level).count =
      ((s.table level).files.map fun file => (s.markers level file).length).sum :=
    (s.table level).count_eq
  have hnodup : (s.table level).files.Nodup := (s.table level).nodup
  -- a file without an entry in the table adds nothing
  rw [hentries, htable, ← List.sum_toFinset _ s.nodup_files, ← List.sum_toFinset _ hnodup]
  refine (Finset.sum_subset ?_ ?_).symm
  · intro file hfile
    exact List.mem_toFinset.mpr (mem_files.mpr ⟨level, List.mem_toFinset.mp hfile⟩)
  · intro file _ hfile
    rw [List.mem_toFinset] at hfile
    exact congrArg List.length (MarkerTable.get_of_not_mem_files hfile)

end MarkerStore

theorem Snapshot.status_eq_empty_iff {v : Snapshot} : v.status = "" ↔ v.files = [] := by
  unfold status
  split
  · next h => exact iff_of_true rfl (List.isEmpty_iff.mp h)
  · next h =>
    refine iff_of_false (fun hempty => ?_) fun hnil => h (List.isEmpty_iff.mpr hnil)
    have htext := congrArg String.toList hempty
    simp at htext

/-- **What a snapshot shows.** On every board that a session reaches, the snapshot shows what the
store holds, and it is the only one that does. So neither the order of the entries in the tables nor
the order in which files come up makes a difference. It counts the markers of both tables, and its
status is empty if both tables are, and only then. -/
theorem Board.run_snapshot_shows (base : Option Path) (actions : List Action) :
    let s := (run base actions).store
    (∀ v, s.Shows v ↔ v = s.snapshot) ∧
    (∀ t : MarkerStore, (∀ level, (t.table level).Same (s.table level)) →
      ∀ order : List Trail, order.Perm t.files → t.snapshotIn order = s.snapshot) ∧
    (∀ level, s.snapshot.count level = (s.table level).count) ∧
    (s.snapshot.status = "" ↔ ∀ level, (s.table level).entries = []) := by
  intro s
  have h : s.IsSound := isSound_foldl_act MarkerStore.isSound_empty base actions
  refine ⟨fun v => h.shows_iff, fun t hsame order horder => ?_, h.count_snapshot, ?_⟩
  · exact h.snapshotIn_congr (MarkerStore.shown_of_same hsame)
      (horder.trans (MarkerStore.perm_files_of_same hsame))
  · exact Snapshot.status_eq_empty_iff.trans s.files_snapshot_eq_nil_iff

end BuildReport
