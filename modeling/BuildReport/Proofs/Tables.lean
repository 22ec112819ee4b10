import BuildReport.MarkerTable
import Mathlib.Data.List.Nodup

/-!
# What marker tables hold

A marker table is a finite map from files to markers. Two views of it settle every question: which
files have an entry, and which markers a file has. An entry without markers tells nothing, and the
operations leave none behind.

- `mem_entries_iff`: an entry is a file with an entry, together with its markers.
- `mem_files_put`, `mem_files_erase`: the files that have an entry after a change.
- `set_set`: setting a file once more to the same markers changes nothing.
- `IsTight`: no entry is without markers; `IsTight.set` and `IsTight.erase` keep it so.
- `Same`: two tables hold the same entries; tight tables do when every file has the same markers.
-/

namespace BuildReport

namespace MarkerTable

/-! ## Entries and the two views -/

theorem mem_files_of_mem_entries {t : MarkerTable} {e : Trail × List Marker}
    (h : e ∈ t.entries) : e.1 ∈ t.files :=
  List.mem_map_of_mem h

/-- A file has one entry at most, so any entry of it holds its markers. -/
theorem get_of_mem_entries {t : MarkerTable} {e : Trail × List Marker} (h : e ∈ t.entries) :
    t.get e.1 = e.2 := by
  cases hfind : t.entries.find? (·.1 == e.1) with
  | none =>
    have hne := List.find?_eq_none.mp hfind e h
    exact absurd (beq_self_eq_true e.1) hne
  | some found =>
    -- the entry that is found is one of the same file, and there are no two of those
    have hfile : found.1 = e.1 := by simpa using List.find?_some hfind
    have hsame : found = e :=
      List.inj_on_of_nodup_map t.nodup (List.mem_of_find?_eq_some hfind) h hfile
    rw [get, hfind, hsame]
    rfl

theorem mem_entries_iff {t : MarkerTable} {file : Trail} {markers : List Marker} :
    (file, markers) ∈ t.entries ↔ file ∈ t.files ∧ t.get file = markers := by
  constructor
  · intro h
    exact ⟨mem_files_of_mem_entries h, get_of_mem_entries h⟩
  · rintro ⟨hfile, hget⟩
    obtain ⟨e, he, rfl⟩ := List.mem_map.mp hfile
    rw [get_of_mem_entries he] at hget
    rw [← hget]
    exact he

/-- Only a file with an entry has markers. -/
theorem mem_files_of_get_ne_nil {t : MarkerTable} {file : Trail} (h : t.get file ≠ []) :
    file ∈ t.files := by
  cases hfind : t.entries.find? (·.1 == file) with
  | none =>
    rw [get, hfind] at h
    exact absurd rfl h
  | some found =>
    have hfile : found.1 = file := by simpa using List.find?_some hfind
    rw [← hfile]
    exact mem_files_of_mem_entries (List.mem_of_find?_eq_some hfind)

theorem get_of_not_mem_files {t : MarkerTable} {file : Trail} (h : file ∉ t.files) :
    t.get file = [] :=
  Classical.byContradiction fun hne => h (mem_files_of_get_ne_nil hne)

theorem mem_files_erase {t : MarkerTable} {file other : Trail} :
    other ∈ (t.erase file).files ↔ other ∈ t.files ∧ other ≠ file := by
  simp only [files, erase, List.mem_map, List.mem_filter, decide_eq_true_eq]
  constructor
  · rintro ⟨e, ⟨he, hne⟩, rfl⟩
    exact ⟨⟨e, he, rfl⟩, hne⟩
  · rintro ⟨⟨e, he, rfl⟩, hne⟩
    exact ⟨e, ⟨he, hne⟩, rfl⟩

theorem mem_files_put {t : MarkerTable} {file other : Trail} {markers : List Marker} :
    other ∈ (t.put file markers).files ↔ (other ∈ t.files ∧ other ≠ file) ∨ other = file := by
  have hfiles : (t.put file markers).files = (t.erase file).files ++ [file] := by
    simp [files, put]
  rw [hfiles, List.mem_append, List.mem_singleton, mem_files_erase]

/-! ## Setting a file twice -/

theorem ext_entries {t u : MarkerTable} (h : t.entries = u.entries) : t = u := by
  cases t
  cases u
  cases h
  rfl

theorem erase_erase (t : MarkerTable) (file : Trail) :
    (t.erase file).erase file = t.erase file := by
  refine ext_entries ?_
  show (t.entries.filter _).filter _ = _
  rw [List.filter_filter]
  simp only [Bool.and_self]
  rfl

/-- The entry of a file stands last once it has been put there, and is put there again. -/
theorem put_put (t : MarkerTable) (file : Trail) (markers : List Marker) :
    (t.put file markers).put file markers = t.put file markers := by
  have herase : ((t.put file markers).erase file).entries = (t.erase file).entries := by
    show ((t.erase file).entries ++ [(file, markers)]).filter _ = _
    rw [List.filter_append, show [(file, markers)].filter (·.1 ≠ file) = [] by simp,
      List.append_nil]
    exact congrArg entries (t.erase_erase file)
  refine ext_entries ?_
  show ((t.put file markers).erase file).entries ++ [(file, markers)] = _
  rw [herase]
  rfl

theorem set_set (t : MarkerTable) (file : Trail) (markers : List Marker) :
    (t.set file markers).set file markers = t.set file markers := by
  by_cases h : markers = []
  · simp only [MarkerTable.set, if_pos h, erase_erase]
  · simp only [MarkerTable.set, if_neg h, put_put]

/-! ## Tight tables -/

/-- Every file that has an entry has a marker. -/
def IsTight (t : MarkerTable) : Prop :=
  ∀ file ∈ t.files, t.get file ≠ []

theorem isTight_empty : empty.IsTight := by
  intro file h
  exact absurd h List.not_mem_nil

theorem IsTight.erase {t : MarkerTable} (h : t.IsTight) (file : Trail) :
    (t.erase file).IsTight := by
  intro other hother
  obtain ⟨hmem, hne⟩ := mem_files_erase.mp hother
  rw [get_erase_other t hne]
  exact h other hmem

theorem IsTight.set {t : MarkerTable} (h : t.IsTight) (file : Trail) (markers : List Marker) :
    (t.set file markers).IsTight := by
  unfold MarkerTable.set
  split
  · exact h.erase file
  · next hmarkers =>
    intro other hother
    by_cases heq : other = file
    · rw [heq, get_put_self]
      exact hmarkers
    · rw [get_put_other t heq]
      rcases mem_files_put.mp hother with ⟨hmem, -⟩ | hmem
      · exact h other hmem
      · exact absurd hmem heq

/-- In a tight table the files with an entry are those with markers. -/
theorem IsTight.mem_files_iff {t : MarkerTable} (h : t.IsTight) {file : Trail} :
    file ∈ t.files ↔ t.get file ≠ [] :=
  ⟨h file, mem_files_of_get_ne_nil⟩

/-! ## Tables with the same entries -/

/-- The two tables hold the same entries, in whatever order. -/
def Same (t u : MarkerTable) : Prop :=
  ∀ e, e ∈ t.entries ↔ e ∈ u.entries

theorem Same.get_eq {t u : MarkerTable} (h : t.Same u) (file : Trail) :
    t.get file = u.get file := by
  by_cases hfile : file ∈ t.files
  · have hentry := (h _).mp (mem_entries_iff.mpr ⟨hfile, rfl⟩)
    exact (mem_entries_iff.mp hentry).2.symm
  · have hother : file ∉ u.files := by
      intro hu
      have hentry := (h _).mpr (mem_entries_iff.mpr ⟨hu, rfl⟩)
      exact hfile (mem_entries_iff.mp hentry).1
    rw [get_of_not_mem_files hfile, get_of_not_mem_files hother]

theorem Same.mem_files_iff {t u : MarkerTable} (h : t.Same u) {file : Trail} :
    file ∈ t.files ↔ file ∈ u.files := by
  constructor
  · intro hfile
    exact (mem_entries_iff.mp ((h _).mp (mem_entries_iff.mpr ⟨hfile, rfl⟩))).1
  · intro hfile
    exact (mem_entries_iff.mp ((h _).mpr (mem_entries_iff.mpr ⟨hfile, rfl⟩))).1

/-- Tight tables hold the same entries exactly when every file has the same markers in both. -/
theorem same_iff {t u : MarkerTable} (ht : t.IsTight) (hu : u.IsTight) :
    t.Same u ↔ ∀ file, t.get file = u.get file := by
  constructor
  · exact Same.get_eq
  · rintro h ⟨file, markers⟩
    rw [mem_entries_iff, mem_entries_iff, ht.mem_files_iff, hu.mem_files_iff, h file]

end MarkerTable

end BuildReport
