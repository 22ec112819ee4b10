import BuildReport.Snapshot
import BuildReport.Proofs.Session

/-!
# What a snapshot counts

A snapshot lists the files that have a marker, each with all of its markers. So there is something to
count at a level if some file has a marker at this level, and only then.

- `MarkerStore.snapshotIn`: the snapshot, in whatever order the files come up.
- `mem_snapshotIn`: its entries.
- `mem_shown`: the markers of an entry.
- `count_snapshot_pos_iff`: there is something to count if some file has such a marker.
-/

namespace BuildReport

namespace MarkerStore

variable {s : MarkerStore} {file : Trail} {level : Level} {m : Marker}

theorem mem_files : file ∈ s.files ↔ ∃ level, file ∈ (s.table level).files := by
  rw [files, List.mem_eraseDups, List.mem_append]
  constructor
  · rintro (h | h)
    · exact ⟨.error, h⟩
    · exact ⟨.warning, h⟩
  · rintro ⟨level, h⟩
    cases level with
    | error => exact .inl h
    | warning => exact .inr h

/-- The snapshot that is taken if the files come up in a given order. -/
def snapshotIn (s : MarkerStore) (order : List Trail) : Snapshot where
  files := (order.map fun file => (file, s.shown file)).mergeSort Snapshot.le

theorem snapshot_eq_snapshotIn (s : MarkerStore) : s.snapshot = s.snapshotIn s.files := rfl

theorem mem_snapshotIn {order : List Trail} {e : Trail × List Marker} :
    e ∈ (s.snapshotIn order).files ↔ e.1 ∈ order ∧ e.2 = s.shown e.1 := by
  show e ∈ (order.map fun file => (file, s.shown file)).mergeSort Snapshot.le ↔ _
  rw [List.mem_mergeSort, List.mem_map]
  constructor
  · rintro ⟨file, hfile, rfl⟩
    exact ⟨hfile, rfl⟩
  · rintro ⟨hfile, hshown⟩
    exact ⟨e.1, hfile, Prod.ext rfl hshown.symm⟩

theorem mem_shown : m ∈ s.shown file ↔ ∃ level, m ∈ s.markers level file := by
  rw [(s.shown_perm file).mem_iff, List.mem_append]
  constructor
  · rintro (h | h)
    · exact ⟨.error, h⟩
    · exact ⟨.warning, h⟩
  · rintro ⟨level, h⟩
    cases level with
    | error => exact .inl h
    | warning => exact .inr h

/-- The markers of a sound store are shown at the level they are kept at. -/
theorem IsSound.mem_shown_iff (h : s.IsSound) :
    m ∈ s.shown file ∧ m.level = level ↔ m ∈ s.markers level file := by
  rw [mem_shown]
  constructor
  · rintro ⟨⟨other, hm⟩, rfl⟩
    rwa [h.leveled other file m hm]
  · intro hm
    exact ⟨⟨level, hm⟩, h.leveled level file m hm⟩

end MarkerStore

theorem Snapshot.count_pos_iff {s : Snapshot} {level : Level} :
    0 < s.count level ↔ ∃ entry ∈ s.files, ∃ m ∈ entry.2, m.level = level := by
  show 0 < (s.files.map _).sum ↔ _
  simp [List.sum_pos_iff_exists_pos_nat, List.countP_pos_iff]

/-- **There is something to count at a level if some file has a marker at it**, and only then. -/
theorem MarkerStore.IsSound.count_snapshot_pos_iff {s : MarkerStore} (h : s.IsSound)
    (level : Level) : 0 < s.snapshot.count level ↔ ∃ file, s.markers level file ≠ [] := by
  rw [Snapshot.count_pos_iff, snapshot_eq_snapshotIn]
  constructor
  · rintro ⟨entry, hentry, m, hm, hlevel⟩
    rw [(mem_snapshotIn.mp hentry).2] at hm
    exact ⟨entry.1, List.ne_nil_of_mem (h.mem_shown_iff.mp ⟨hm, hlevel⟩)⟩
  · rintro ⟨file, hne⟩
    obtain ⟨m, hm⟩ := List.exists_mem_of_ne_nil _ hne
    have hfile : file ∈ s.files := mem_files.mpr ⟨level, MarkerTable.mem_files_of_get_ne_nil hne⟩
    exact ⟨(file, s.shown file), mem_snapshotIn.mpr ⟨hfile, rfl⟩, m, h.mem_shown_iff.mpr hm⟩

end BuildReport
