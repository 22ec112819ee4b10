import BuildReport.Proofs.Tables
import BuildReport.MarkerStore

/-!
# What a pass leaves behind

A pass empties the tables in scope, then goes from file to file: it files what was placed there,
and takes back the warnings on lines with an error. Told file by file, without the order of the
files and the state in between, the outcome is this: the errors of a file are those placed there,
or the old ones if errors are out of scope, and the warnings likewise, less those on a line with
an error.

- `filed`: the markers of a file at a level, before warnings are taken back.
- `unshadowed`: warnings less those on a line with an error.
- `markers_error_replace`, `markers_warning_replace`: the outcome of a pass for any file.
- `errors_replace`: the table of errors is not touched when errors are out of scope.
- `table_clearLevels`, `table_fileUnder`: the tables in a list of levels, changed each in one way.
- `IsTight.replace`: a pass leaves no entry without markers.
-/

namespace BuildReport

theorem Scope.mem_levels (scope : Scope) :
    .error ∈ scope.levels ∨ .warning ∈ scope.levels := by
  cases scope <;> simp [levels]

namespace MarkerStore

/-! ## The two tables -/

theorem table_withTable (s : MarkerStore) (level other : Level) (t : MarkerTable) :
    (s.withTable level t).table other = if other = level then t else s.table other := by
  cases level <;> cases other <;> rfl

/-- Changing the table of each level in a list, where a table that has been changed is not changed
any further: the tables in the list are changed once, and the others stay. -/
theorem table_foldl_withTable (change : Level → MarkerTable → MarkerTable)
    (hchange : ∀ level t, change level (change level t) = change level t) (levels : List Level)
    (s : MarkerStore) (level : Level) :
    (levels.foldl (fun s l => s.withTable l (change l (s.table l))) s).table level =
      if level ∈ levels then change level (s.table level) else s.table level := by
  induction levels generalizing s with
  | nil => rw [List.foldl_nil, if_neg List.not_mem_nil]
  | cons l levels ih =>
    rw [List.foldl_cons, ih, table_withTable]
    by_cases hl : level = l
    · -- whether or not the level comes up again, its table has been changed
      subst hl
      rw [if_pos rfl, hchange, ite_self, if_pos List.mem_cons_self]
    · have hmem : level ∈ l :: levels ↔ level ∈ levels := by
        rw [List.mem_cons, or_iff_right hl]
      rw [if_neg hl]
      simp only [hmem]

theorem table_clearLevels (levels : List Level) (s : MarkerStore) (level : Level) :
    (clearLevels levels s).table level = if level ∈ levels then .empty else s.table level :=
  table_foldl_withTable (fun _ _ => .empty) (fun _ _ => rfl) levels s level

theorem table_fileUnder (placed : List Placed) (levels : List Level) (s : MarkerStore)
    (file : Trail) (level : Level) : (fileUnder placed levels s file).table level =
      if level ∈ levels then (s.table level).set file (group placed level file)
      else s.table level :=
  table_foldl_withTable (fun l t => t.set file (group placed l file))
    (fun l t => t.set_set file (group placed l file)) levels s level

/-! ## Warnings taken back -/

/-- The warnings that stand on no line with an error. -/
def unshadowed (errors warnings : List Marker) : List Marker :=
  warnings.filter fun w => decide (∀ e ∈ errors, e.line ≠ w.line)

@[simp] theorem unshadowed_nil (warnings : List Marker) : unshadowed [] warnings = warnings := by
  simp [unshadowed]

theorem mem_unshadowed {errors warnings : List Marker} {w : Marker} :
    w ∈ unshadowed errors warnings ↔ w ∈ warnings ∧ ∀ e ∈ errors, e.line ≠ w.line := by
  simp [unshadowed]

theorem unshadowed_unshadowed (errors others warnings : List Marker) :
    unshadowed errors (unshadowed others warnings) =
      warnings.filter fun w =>
        decide (∀ e ∈ errors, e.line ≠ w.line) && decide (∀ e ∈ others, e.line ≠ w.line) := by
  rw [unshadowed, unshadowed, List.filter_filter]

/-- Taking warnings back once more changes nothing. -/
theorem unshadowed_idem (errors warnings : List Marker) :
    unshadowed errors (unshadowed errors warnings) = unshadowed errors warnings := by
  rw [unshadowed_unshadowed, unshadowed]
  simp only [Bool.and_self]

theorem markers_error_suppress (s : MarkerStore) (file other : Trail) :
    (s.suppress file).markers .error other = s.markers .error other := rfl

theorem markers_warning_suppress_self (s : MarkerStore) (file : Trail) :
    (s.suppress file).markers .warning file =
      unshadowed (s.markers .error file) (s.markers .warning file) := by
  have hline : ∀ w : Marker, (!(s.errorLines file).contains w.line) =
      decide (∀ e ∈ s.markers .error file, e.line ≠ w.line) := by
    intro w
    rw [Bool.eq_iff_iff, decide_eq_true_iff]
    simp [errorLines, markers, table]
  show (s.warnings.set file ((s.warnings.get file).filter _)).get file = _
  rw [MarkerTable.get_set_self]
  simp only [hline]
  rfl

theorem markers_suppress_other (s : MarkerStore) {file other : Trail} (h : other ≠ file)
    (level : Level) : (s.suppress file).markers level other = s.markers level other := by
  cases level with
  | error => rfl
  | warning => exact MarkerTable.get_set_other _ h _

/-! ## One file of a pass -/

section File

variable (placed : List Placed) (levels : List Level) (s : MarkerStore)

/-- The markers of a file at a level when the pass has filed there what was placed, and has not
yet taken warnings back. -/
def filed (level : Level) (file : Trail) : List Marker :=
  if level ∈ levels then group placed level file else s.markers level file

theorem markers_clearLevels (level : Level) (file : Trail) :
    (clearLevels levels s).markers level file =
      if level ∈ levels then [] else s.markers level file := by
  rw [markers, table_clearLevels]
  split
  · rfl
  · rfl

theorem markers_fileUnder_self (level : Level) (file : Trail) :
    (fileUnder placed levels s file).markers level file = filed placed levels s level file := by
  rw [markers, table_fileUnder, filed]
  split
  · exact MarkerTable.get_set_self _ file _
  · rfl

theorem markers_fileUnder_other {file other : Trail} (h : other ≠ file) (level : Level) :
    (fileUnder placed levels s file).markers level other = s.markers level other := by
  rw [markers, table_fileUnder]
  split
  · exact MarkerTable.get_set_other _ h _
  · rfl

/-- What a pass does about one file. -/
def touch (file : Trail) : MarkerStore :=
  (fileUnder placed levels s file).suppress file

theorem markers_error_touch_self (file : Trail) :
    (touch placed levels s file).markers .error file = filed placed levels s .error file := by
  rw [touch, markers_error_suppress, markers_fileUnder_self]

theorem markers_warning_touch_self (file : Trail) :
    (touch placed levels s file).markers .warning file =
      unshadowed (filed placed levels s .error file) (filed placed levels s .warning file) := by
  rw [touch, markers_warning_suppress_self, markers_fileUnder_self, markers_fileUnder_self]

theorem markers_touch_other {file other : Trail} (h : other ≠ file) (level : Level) :
    (touch placed levels s file).markers level other = s.markers level other := by
  rw [touch, markers_suppress_other _ h, markers_fileUnder_other _ _ _ h]

theorem filed_touch_other {file other : Trail} (h : other ≠ file) (level : Level) :
    filed placed levels (touch placed levels s file) level other =
      filed placed levels s level other := by
  rw [filed, filed, markers_touch_other _ _ _ h]

theorem filed_error_touch_self (file : Trail) :
    filed placed levels (touch placed levels s file) .error file =
      filed placed levels s .error file := by
  rw [filed, markers_error_touch_self]
  by_cases h : .error ∈ levels <;> simp [filed, h]

/-! ## All files of a pass -/

theorem markers_foldl_touch_of_not_mem {files : List Trail} {file : Trail} (h : file ∉ files)
    (level : Level) :
    (files.foldl (touch placed levels) s).markers level file = s.markers level file := by
  induction files generalizing s with
  | nil => rfl
  | cons f files ih =>
    simp only [List.mem_cons, not_or] at h
    rw [List.foldl_cons, ih _ h.2, markers_touch_other _ _ _ h.1]

theorem markers_error_foldl_touch {files : List Trail} {file : Trail} (h : file ∈ files) :
    (files.foldl (touch placed levels) s).markers .error file =
      filed placed levels s .error file := by
  induction files generalizing s with
  | nil => exact absurd h List.not_mem_nil
  | cons f files ih =>
    rw [List.foldl_cons]
    -- the last time that the file comes up decides
    by_cases hmem : file ∈ files
    · rw [ih _ hmem]
      by_cases hf : file = f
      · rw [hf, filed_error_touch_self]
      · exact filed_touch_other _ _ _ hf _
    · have hf : file = f := (List.mem_cons.mp h).resolve_right hmem
      rw [markers_foldl_touch_of_not_mem _ _ _ hmem, hf, markers_error_touch_self]

theorem markers_warning_foldl_touch {files : List Trail} {file : Trail} (h : file ∈ files) :
    (files.foldl (touch placed levels) s).markers .warning file =
      unshadowed (filed placed levels s .error file) (filed placed levels s .warning file) := by
  induction files generalizing s with
  | nil => exact absurd h List.not_mem_nil
  | cons f files ih =>
    rw [List.foldl_cons]
    by_cases hmem : file ∈ files
    · rw [ih _ hmem]
      by_cases hf : file = f
      · -- the file comes up again: its warnings have been taken back before
        subst hf
        rw [filed_error_touch_self]
        by_cases hw : .warning ∈ levels
        · simp only [filed, if_pos hw]
        · simp only [filed, if_neg hw, markers_warning_touch_self, unshadowed_idem]
      · rw [filed_touch_other _ _ _ hf, filed_touch_other _ _ _ hf]
    · have hf : file = f := (List.mem_cons.mp h).resolve_right hmem
      rw [markers_foldl_touch_of_not_mem _ _ _ hmem, hf, markers_warning_touch_self]

end File

/-! ## The outcome of a pass -/

section Outcome

variable (s : MarkerStore) (scope : Scope) (placed : List Placed)

theorem replace_eq_foldl_touch : s.replace scope placed =
    (filesOf placed).foldl (touch placed scope.levels) (clearLevels scope.levels s) := rfl

theorem mem_filesOf {file : Trail} : file ∈ filesOf placed ↔ ∃ p ∈ placed, p.file = file := by
  simp [filesOf]

theorem group_of_not_mem_filesOf {file : Trail} (h : file ∉ filesOf placed) (level : Level) :
    group placed level file = [] := by
  rw [mem_filesOf] at h
  rw [group, List.map_eq_nil_iff, List.filter_eq_nil_iff]
  intro p hp hmatch
  rw [Bool.and_eq_true, beq_iff_eq] at hmatch
  exact h ⟨p, hp, hmatch.1⟩

theorem filed_of_not_mem_filesOf {level : Level} (hlevel : level ∈ scope.levels) {file : Trail}
    (h : file ∉ filesOf placed) : filed placed scope.levels s level file = [] := by
  rw [filed, if_pos hlevel, group_of_not_mem_filesOf placed h]

/-- Emptying the tables in scope makes no difference to what is filed. -/
theorem filed_clearLevels (level : Level) (file : Trail) :
    filed placed scope.levels (clearLevels scope.levels s) level file =
      filed placed scope.levels s level file := by
  by_cases h : level ∈ scope.levels <;> simp [filed, markers_clearLevels, h]

/-- In a file that the pass does not touch, filing is emptying the tables in scope. -/
theorem markers_clearLevels_of_not_mem {file : Trail} (h : file ∉ filesOf placed)
    (level : Level) : (clearLevels scope.levels s).markers level file =
      filed placed scope.levels s level file := by
  rw [filed, group_of_not_mem_filesOf placed h, markers_clearLevels]

/-- **The errors after a pass** are those placed in the file, or the old ones out of scope. -/
theorem markers_error_replace (file : Trail) :
    (s.replace scope placed).markers .error file = filed placed scope.levels s .error file := by
  rw [replace_eq_foldl_touch]
  by_cases h : file ∈ filesOf placed
  · rw [markers_error_foldl_touch _ _ _ h, filed_clearLevels]
  · rw [markers_foldl_touch_of_not_mem _ _ _ h, markers_clearLevels_of_not_mem _ _ _ h]

/-- **The warnings after a pass** are those placed in the file, or the old ones out of scope, less
those on a line with an error. -/
theorem markers_warning_replace (file : Trail) :
    (s.replace scope placed).markers .warning file =
      unshadowed (filed placed scope.levels s .error file)
        (filed placed scope.levels s .warning file) := by
  rw [replace_eq_foldl_touch]
  by_cases h : file ∈ filesOf placed
  · rw [markers_warning_foldl_touch _ _ _ h, filed_clearLevels, filed_clearLevels]
  · rw [markers_foldl_touch_of_not_mem _ _ _ h, markers_clearLevels_of_not_mem _ _ _ h]
    -- nothing is taken back here, and rightly: one of the two lists is empty
    rcases scope.mem_levels with herror | hwarning
    · rw [filed_of_not_mem_filesOf _ _ _ herror h, unshadowed_nil]
    · rw [filed_of_not_mem_filesOf _ _ _ hwarning h]
      rfl

end Outcome

/-- **A pass that leaves errors out of scope does not touch their table.** -/
theorem errors_replace (s : MarkerStore) {scope : Scope} (h : .error ∉ scope.levels)
    (placed : List Placed) : (s.replace scope placed).errors = s.errors := by
  have hstart : (clearLevels scope.levels s).errors = s.errors :=
    (table_clearLevels scope.levels s .error).trans (if_neg h)
  rw [replace_eq_foldl_touch, ← hstart]
  generalize clearLevels scope.levels s = start
  induction filesOf placed generalizing start with
  | nil => rfl
  | cons f files ih =>
    have htouch : (touch placed scope.levels start f).errors = start.errors :=
      (table_fileUnder placed scope.levels start f .error).trans (if_neg h)
    rw [List.foldl_cons, ih, htouch]

/-! ## Tight stores -/

/-- No entry of either table is without markers. -/
def IsTight (s : MarkerStore) : Prop :=
  ∀ level, (s.table level).IsTight

theorem isTight_empty : empty.IsTight := by
  intro level
  cases level <;> exact MarkerTable.isTight_empty

theorem IsTight.eraseFile {s : MarkerStore} (h : s.IsTight) (file : Trail) :
    (s.eraseFile file).IsTight := by
  intro level
  cases level with
  | error => exact (h .error).erase file
  | warning => exact (h .warning).erase file

theorem IsTight.clearLevels {s : MarkerStore} (h : s.IsTight) (levels : List Level) :
    (clearLevels levels s).IsTight := by
  intro level
  rw [table_clearLevels]
  split
  · exact MarkerTable.isTight_empty
  · exact h level

theorem IsTight.fileUnder {s : MarkerStore} (h : s.IsTight) (placed : List Placed)
    (levels : List Level) (file : Trail) : (fileUnder placed levels s file).IsTight := by
  intro level
  rw [table_fileUnder]
  split
  · exact (h level).set file _
  · exact h level

theorem IsTight.suppress {s : MarkerStore} (h : s.IsTight) (file : Trail) :
    (s.suppress file).IsTight := by
  intro level
  cases level with
  | error => exact h .error
  | warning => exact (h .warning).set file _

/-- **A pass leaves no entry without markers.** -/
theorem IsTight.replace {s : MarkerStore} (h : s.IsTight) (scope : Scope)
    (placed : List Placed) : (s.replace scope placed).IsTight := by
  rw [replace_eq_foldl_touch]
  have hstart := h.clearLevels scope.levels
  generalize MarkerStore.clearLevels scope.levels s = start at hstart
  induction filesOf placed generalizing start with
  | nil => exact hstart
  | cons f files ih => exact ih _ ((hstart.fileUnder placed scope.levels f).suppress f)

end MarkerStore

end BuildReport
