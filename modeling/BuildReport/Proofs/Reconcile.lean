import BuildReport.Board
import BuildReport.Proofs.Pass

/-!
# What the board shows after a pass

A pass over new diagnostics is told here without desks, files touched or tables emptied: which
diagnostics have a place, which file and which marker each of them gets, and what every file shows
in the end.

- `Diagnostic.HasPlace`, `Diagnostic.home`, `Diagnostic.mark`: the place and marker of a diagnostic.
- `marksAt`: the markers that a list of diagnostics puts into a file.
- `Board.AfterPass`: the markers of every file and the notices after a pass.
- `Board.reconcile_afterPass`: a pass leaves just that, whatever the board showed before.
-/

namespace BuildReport

/-! ## The place of a diagnostic -/

namespace Diagnostic

/-- A diagnostic has a place if it has a line, and names a file or finds a document open. -/
def HasPlace (documents : List Document) (d : Diagnostic) : Prop :=
  0 < d.line ∧ (d.file ≠ "" ∨ documents ≠ [])

instance (documents : List Document) : DecidablePred (HasPlace documents) :=
  fun d => inferInstanceAs (Decidable (0 < d.line ∧ (d.file ≠ "" ∨ documents ≠ [])))

variable (base : Option Path) (documents : List Document) (d : Diagnostic)

/-- The file of a diagnostic that has a place: the one it names, or else the one that the first
open document shows. -/
def home : Trail :=
  if d.file ≠ "" then identity base ⟨d.file⟩
  else match documents with
    | [] => []
    | first :: _ => identity base first.path

/-- The text that a diagnostic is about, as far as the first open document of its file has it. -/
def textAt? : Option String :=
  match documents.find? fun doc => identity base doc.path == d.home base documents with
  | some doc => doc.line? (d.line - 1).toNat
  | none => none

/-- The columns that a diagnostic covers; the first column alone where the text is not at hand. -/
def columns : Nat × Nat :=
  match d.textAt? base documents with
  | some text => columnRange text.toList d.column
  | none => (0, 1)

/-- The marker of a diagnostic that has a place. -/
def mark : Marker where
  line := (d.line - 1).toNat
  startColumn := (d.columns base documents).1
  endColumn := (d.columns base documents).2
  message := d.message
  level := d.severity.level

theorem file?_desk : Placement.file? (Placement.desk base documents) d =
    if d.file ≠ "" ∨ documents ≠ [] then some (d.home base documents) else none := by
  unfold Placement.file? Placement.desk home
  by_cases hfile : d.file = ""
  · cases documents <;> simp [hfile]
  · simp [hfile]

theorem columns_desk : Placement.columns (Placement.desk base documents) (d.home base documents)
    (d.line - 1).toNat d.column = d.columns base documents := by
  have hline : Placement.line? (Placement.desk base documents) (d.home base documents)
      (d.line - 1).toNat = d.textAt? base documents := by
    simp only [Placement.line?, Placement.desk, textAt?, List.find?_map, Function.comp_def]
    cases documents.find? fun doc => identity base doc.path == d.home base documents <;> rfl
  rw [Placement.columns, hline]
  rfl

/-- **Placing a diagnostic** gives its file and marker if it has a place, and nothing otherwise. -/
theorem place?_desk : Placement.place? (Placement.desk base documents) d =
    if d.HasPlace documents then some ⟨d.home base documents, d.mark base documents⟩
    else none := by
  rw [Placement.place?]
  by_cases hline : 0 < d.line
  · have hindex : d.lineIndex? = some (d.line - 1).toNat := if_neg (Int.not_le.mpr hline)
    rw [hindex, file?_desk]
    by_cases hfile : d.file ≠ "" ∨ documents ≠ []
    · rw [if_pos hfile, if_pos ⟨hline, hfile⟩, mark, ← columns_desk]
      rfl
    · rw [if_neg hfile, if_neg fun h => hfile h.2]
      rfl
  · have hindex : d.lineIndex? = none := if_pos (Int.not_lt.mp hline)
    rw [hindex, if_neg fun h => hline h.1]
    rfl

end Diagnostic

/-! ## The markers of a file -/

/-- The markers that the diagnostics put into a file, in their order. -/
def marksAt (base : Option Path) (documents : List Document) (found : List Diagnostic)
    (file : Trail) : List Marker :=
  (found.filter fun d => d.HasPlace documents ∧ d.home base documents = file).map
    (·.mark base documents)

theorem Severity.level_eq_warning {s : Severity} : s.level = .warning ↔ s = .warning := by
  cases s <;> simp [level]

theorem Severity.level_eq_error {s : Severity} : s.level = .error ↔ s ≠ .warning := by
  cases s <;> simp [level]

theorem group_filterMap_place? (base : Option Path) (documents : List Document)
    (found : List Diagnostic) (level : Level) (file : Trail) :
    MarkerStore.group (found.filterMap (Placement.place? (Placement.desk base documents))) level
      file = marksAt base documents (found.filter (·.severity.level = level)) file := by
  unfold MarkerStore.group marksAt
  induction found with
  | nil => rfl
  | cons d found ih =>
    rw [List.filterMap_cons, Diagnostic.place?_desk]
    -- both sides keep the diagnostic if it has a place, the level and the file, and drop it if not
    by_cases hplace : d.HasPlace documents
    · by_cases hlevel : d.severity.level = level
      · by_cases hhome : d.home base documents = file
        · simpa [hplace, hlevel, hhome, Diagnostic.mark] using ih
        · simpa [hplace, hlevel, hhome, Diagnostic.mark] using ih
      · simpa [hplace, hlevel, Diagnostic.mark] using ih
    · by_cases hlevel : d.severity.level = level <;> simpa [hplace, hlevel] using ih

/-! ## The board -/

namespace Board

/-- What the board `b` shows after a pass as `b'`. Errors and warnings in scope are those of the
diagnostics found, file by file; the others stay. Then no warning is left on a line with an error.
Diagnostics without a place are noticed, whatever the scope. -/
structure AfterPass (base : Option Path) (documents : List Document) (found : List Diagnostic)
    (scope : Scope) (b b' : Board) : Prop where
  errors_in_scope : .error ∈ scope.levels → ∀ file, b'.store.markers .error file =
    marksAt base documents (found.filter (·.severity ≠ .warning)) file
  errors_out_of_scope : .error ∉ scope.levels → b'.store.errors = b.store.errors
  warnings : ∀ file, b'.store.markers .warning file =
    (if .warning ∈ scope.levels then
      marksAt base documents (found.filter (·.severity = .warning)) file
    else b.store.markers .warning file).filter
      fun w => ∀ e ∈ b'.store.markers .error file, e.line ≠ w.line
  notices : b'.notices =
    b.notices.append ((found.filter fun d => ¬ d.HasPlace documents).map (·.message))

variable (b : Board) (base : Option Path) (documents : List Document) (found : List Diagnostic)
  (scope : Scope)

theorem filed_placed (level : Level) (file : Trail) :
    MarkerStore.filed (found.filterMap (Placement.place? (Placement.desk base documents)))
      scope.levels b.store level file =
    if level ∈ scope.levels then
      marksAt base documents (found.filter (·.severity.level = level)) file
    else b.store.markers level file := by
  rw [MarkerStore.filed, group_filterMap_place?]

theorem markers_error_reconcile (file : Trail) :
    (b.reconcile base documents found scope).store.markers .error file =
      if .error ∈ scope.levels then
        marksAt base documents (found.filter (·.severity ≠ .warning)) file
      else b.store.markers .error file := by
  refine (MarkerStore.markers_error_replace b.store scope _ file).trans ?_
  rw [filed_placed]
  simp only [Severity.level_eq_error]

theorem markers_warning_reconcile (file : Trail) :
    (b.reconcile base documents found scope).store.markers .warning file =
      MarkerStore.unshadowed ((b.reconcile base documents found scope).store.markers .error file)
        (if .warning ∈ scope.levels then
          marksAt base documents (found.filter (·.severity = .warning)) file
        else b.store.markers .warning file) := by
  have herror : (b.reconcile base documents found scope).store.markers .error file = _ :=
    MarkerStore.markers_error_replace b.store scope _ file
  rw [herror]
  refine (MarkerStore.markers_warning_replace b.store scope _ file).trans ?_
  rw [filed_placed b base documents found scope .warning]
  simp only [Severity.level_eq_warning]

theorem markers_error_both (file : Trail) :
    (b.reconcile base documents found .both).store.markers .error file =
      marksAt base documents (found.filter (·.severity ≠ .warning)) file := by
  rw [markers_error_reconcile, if_pos (by decide)]

theorem markers_warning_both (file : Trail) :
    (b.reconcile base documents found .both).store.markers .warning file =
      MarkerStore.unshadowed ((b.reconcile base documents found .both).store.markers .error file)
        (marksAt base documents (found.filter (·.severity = .warning)) file) := by
  rw [markers_warning_reconcile, if_pos (by decide)]

theorem notices_reconcile : (b.reconcile base documents found scope).notices =
    b.notices.append ((found.filter fun d => ¬ d.HasPlace documents).map (·.message)) := by
  have hplace : ∀ d, (Placement.place? (Placement.desk base documents) d).isNone =
      decide ¬ d.HasPlace documents := by
    intro d
    rw [Diagnostic.place?_desk]
    by_cases h : d.HasPlace documents <;> simp [h]
  simp only [reconcile, hplace]

/-- **A pass leaves what its diagnostics say**, whatever the board showed before. -/
theorem reconcile_afterPass :
    AfterPass base documents found scope b (b.reconcile base documents found scope) where
  errors_in_scope := by
    intro hscope file
    rw [markers_error_reconcile, if_pos hscope]
  errors_out_of_scope := fun hscope => MarkerStore.errors_replace b.store hscope _
  warnings := markers_warning_reconcile b base documents found scope
  notices := notices_reconcile b base documents found scope

end Board

end BuildReport
