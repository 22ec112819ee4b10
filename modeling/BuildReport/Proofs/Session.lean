import BuildReport.Proofs.NormalForm
import BuildReport.Proofs.Reconcile

/-!
# What the board shows all through a session

A session starts from the empty board. Passes with any scope, over any diagnostics and with any
documents open, come in any order, and markers are taken away for one file or for all. One
invariant carries through all of it.

- `Board.Action`, `Board.act`, `Board.run`: the actions of a session, one of them, and all.
- `MarkerStore.IsSound`: what holds of the markers at every time.
- `mem_markers_reconcile`: a marker after a pass is an old one or marks a diagnostic found.
- `IsSound.act`: each action keeps the invariant.
- `Board.run_isSound`: every board that a session reaches has it.
-/

namespace BuildReport

/-! ## Sessions -/

namespace Board

/-- What can happen to the markers of a board. -/
inductive Action
  | reconcile (documents : List Document) (found : List Diagnostic) (scope : Scope)
  | clear
  | clearFile (path : Path)

/-- One action, where relative paths are read from the directory `base`. -/
def act (base : Option Path) (b : Board) : Action → Board
  | .reconcile documents found scope => b.reconcile base documents found scope
  | .clear => b.clear
  | .clearFile path => b.clearFile path.trail

/-- The board after the actions of a session. -/
def run (base : Option Path) (actions : List Action) : Board :=
  actions.foldl (act base) empty

end Board

/-! ## The invariant -/

/-- What holds of the markers all through a session. -/
structure MarkerStore.IsSound (s : MarkerStore) : Prop where
  /-- No line of a file holds both an error and a warning. -/
  disjoint : ∀ file, ∀ e ∈ s.markers .error file, ∀ w ∈ s.markers .warning file, e.line ≠ w.line
  /-- No file is kept without markers. -/
  tight : ∀ level, ∀ file ∈ (s.table level).files, s.markers level file ≠ []
  /-- Markers are kept in the table of their level. -/
  leveled : ∀ level file, ∀ m ∈ s.markers level file, m.level = level
  /-- Files are kept under their normal form. -/
  normal : ∀ level, ∀ file ∈ (s.table level).files, file.IsFile
  /-- Every marker covers a column. -/
  columns : ∀ level file, ∀ m ∈ s.markers level file, m.startColumn < m.endColumn

namespace Diagnostic

variable {base : Option Path} {documents : List Document} {d : Diagnostic}

theorem mark_level : (d.mark base documents).level = d.severity.level := rfl

theorem mark_columns_lt :
    (d.mark base documents).startColumn < (d.mark base documents).endColumn := by
  show (d.columns base documents).1 < (d.columns base documents).2
  rw [← columns_desk]
  exact Placement.columns_lt _ _ _ _

theorem isFile_home (h : d.HasPlace documents) : (d.home base documents).IsFile := by
  unfold home
  split
  · exact isFile_identity base _
  · next hfile =>
    cases documents with
    | nil => exact absurd rfl (h.2.resolve_left hfile)
    | cons first _ => exact isFile_identity base first.path

end Diagnostic

theorem mem_marksAt {base : Option Path} {documents : List Document} {found : List Diagnostic}
    {file : Trail} {m : Marker} : m ∈ marksAt base documents found file ↔
      ∃ d ∈ found, d.HasPlace documents ∧ d.home base documents = file ∧
        d.mark base documents = m := by
  simp only [marksAt, List.mem_map, List.mem_filter, decide_eq_true_eq, and_assoc]

/-! ## One action -/

section Step

variable {b : Board} {base : Option Path} {documents : List Document} {found : List Diagnostic}
  {scope : Scope}

/-- A marker after a pass is an old one or marks a diagnostic that was found. -/
theorem mem_markers_reconcile {level : Level} {file : Trail} {m : Marker}
    (h : m ∈ (b.reconcile base documents found scope).store.markers level file) :
    m ∈ b.store.markers level file ∨
      ∃ d ∈ found, d.HasPlace documents ∧ d.home base documents = file ∧
        d.severity.level = level ∧ d.mark base documents = m := by
  -- for errors and warnings alike, where `p` picks the severities of the level
  have hnew : ∀ p : Severity → Prop, [DecidablePred p] → (∀ s, p s → s.level = level) →
      m ∈ marksAt base documents (found.filter (p ·.severity)) file →
      ∃ d ∈ found, d.HasPlace documents ∧ d.home base documents = file ∧
        d.severity.level = level ∧ d.mark base documents = m := by
    intro p _ hp hm
    obtain ⟨d, hd, hplace, hhome, hmark⟩ := mem_marksAt.mp hm
    rw [List.mem_filter, decide_eq_true_eq] at hd
    exact ⟨d, hd.1, hplace, hhome, hp _ hd.2, hmark⟩
  cases level with
  | error =>
    rw [Board.markers_error_reconcile] at h
    split at h
    · exact .inr (hnew (· ≠ .warning) (fun _ => Severity.level_eq_error.mpr) h)
    · exact .inl h
  | warning =>
    rw [Board.markers_warning_reconcile] at h
    have hfiled := (MarkerStore.mem_unshadowed.mp h).1
    split at hfiled
    · exact .inr (hnew (· = .warning) (fun _ => Severity.level_eq_warning.mpr) hfiled)
    · exact .inl hfiled

theorem isTight_reconcile (h : b.store.IsTight) :
    (b.reconcile base documents found scope).store.IsTight :=
  h.replace scope (found.filterMap (Placement.place? (Placement.desk base documents)))

/-- **A pass keeps the invariant**, whatever its scope. -/
theorem MarkerStore.IsSound.reconcile (h : b.store.IsSound) :
    (b.reconcile base documents found scope).store.IsSound where
  disjoint := by
    intro file e he w hw
    rw [Board.markers_warning_reconcile] at hw
    exact (MarkerStore.mem_unshadowed.mp hw).2 e he
  tight := isTight_reconcile h.tight
  leveled := by
    intro level file m hm
    rcases mem_markers_reconcile hm with hold | ⟨d, -, -, -, hlevel, rfl⟩
    · exact h.leveled level file m hold
    · exact Diagnostic.mark_level.trans hlevel
  normal := by
    intro level file hfile
    -- an entry has a marker, and that marker came here with the file of its diagnostic
    obtain ⟨m, hm⟩ := List.exists_mem_of_ne_nil _ (isTight_reconcile h.tight level file hfile)
    rcases mem_markers_reconcile hm with hold | ⟨d, -, hplace, rfl, -, -⟩
    · exact h.normal level file (MarkerTable.mem_files_of_get_ne_nil (List.ne_nil_of_mem hold))
    · exact Diagnostic.isFile_home hplace
  columns := by
    intro level file m hm
    rcases mem_markers_reconcile hm with hold | ⟨d, -, -, -, -, rfl⟩
    · exact h.columns level file m hold
    · exact Diagnostic.mark_columns_lt

end Step

namespace MarkerStore

theorem isSound_empty : empty.IsSound where
  disjoint := fun file e he => absurd he List.not_mem_nil
  tight := isTight_empty
  leveled := by
    intro level file m hm
    rw [markers_empty] at hm
    exact absurd hm List.not_mem_nil
  normal := by
    intro level file hfile
    cases level <;> exact absurd hfile List.not_mem_nil
  columns := by
    intro level file m hm
    rw [markers_empty] at hm
    exact absurd hm List.not_mem_nil

theorem table_eraseFile (s : MarkerStore) (file : Trail) (level : Level) :
    (s.eraseFile file).table level = (s.table level).erase file := by
  cases level <;> rfl

/-- Taking a file's markers away leaves those of all other files. -/
theorem mem_markers_eraseFile {s : MarkerStore} {file other : Trail} {level : Level} {m : Marker}
    (h : m ∈ (s.eraseFile file).markers level other) : m ∈ s.markers level other := by
  rw [markers, table_eraseFile] at h
  by_cases heq : other = file
  · rw [heq, MarkerTable.get_erase_self] at h
    exact absurd h List.not_mem_nil
  · rwa [MarkerTable.get_erase_other _ heq] at h

theorem IsSound.eraseFile {s : MarkerStore} (h : s.IsSound) (file : Trail) :
    (s.eraseFile file).IsSound where
  disjoint := fun other e he w hw =>
    h.disjoint other e (mem_markers_eraseFile he) w (mem_markers_eraseFile hw)
  tight := IsTight.eraseFile h.tight file
  leveled := fun level other m hm => h.leveled level other m (mem_markers_eraseFile hm)
  normal := by
    intro level other hother
    rw [table_eraseFile] at hother
    exact h.normal level other (MarkerTable.mem_files_erase.mp hother).1
  columns := fun level other m hm => h.columns level other m (mem_markers_eraseFile hm)

end MarkerStore

/-- **Each action keeps the invariant.** -/
theorem MarkerStore.IsSound.act {b : Board} (h : b.store.IsSound) (base : Option Path)
    (action : Board.Action) : (b.act base action).store.IsSound := by
  cases action with
  | reconcile documents found scope => exact h.reconcile
  | clear => exact MarkerStore.isSound_empty
  | clearFile path => exact h.eraseFile path.trail

/-! ## All actions -/

namespace Board

theorem isSound_foldl_act {b : Board} (h : b.store.IsSound) (base : Option Path)
    (actions : List Action) : (actions.foldl (act base) b).store.IsSound := by
  induction actions generalizing b with
  | nil => exact h
  | cons action actions ih => exact ih (h.act base action)

/-- **The invariant holds at every time of every session.** -/
theorem run_isSound (base : Option Path) (actions : List Action) :
    (run base actions).store.IsSound :=
  isSound_foldl_act MarkerStore.isSound_empty base actions

end Board

end BuildReport
