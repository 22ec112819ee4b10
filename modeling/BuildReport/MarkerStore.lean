import BuildReport.MarkerTable

/-!
# Marker stores

A marker store keeps errors and warnings apart, in one table each. A pass over new diagnostics
replaces one table or both, and then takes back every warning that stands on a line with an error:
a line shows one or the other.

- `Scope`: which of the two tables a pass replaces.
- `MarkerStore.markers`: the markers of a file at one level.
- `MarkerStore.suppress`: takes back the warnings of a file on lines that have an error.
- `MarkerStore.replace`: a whole pass.
-/

namespace BuildReport

/-- Which tables a pass replaces. -/
inductive Scope where
  | both
  | errors
  | warnings
  deriving DecidableEq, Repr

/-- The levels whose tables a pass replaces. -/
def Scope.levels : Scope → List Level
  | .both => [.error, .warning]
  | .errors => [.error]
  | .warnings => [.warning]

/-- The errors and the warnings of all files. -/
structure MarkerStore where
  errors : MarkerTable
  warnings : MarkerTable
  deriving Repr, Inhabited

namespace MarkerStore

/-- The store without markers. -/
def empty : MarkerStore := ⟨.empty, .empty⟩

/-- The table of a level. -/
def table (s : MarkerStore) : Level → MarkerTable
  | .error => s.errors
  | .warning => s.warnings

/-- The store with the table of a level replaced. -/
def withTable (s : MarkerStore) (level : Level) (t : MarkerTable) : MarkerStore :=
  match level with
  | .error => { s with errors := t }
  | .warning => { s with warnings := t }

/-- The markers of a file at one level. -/
def markers (s : MarkerStore) (level : Level) (file : Trail) : List Marker :=
  (s.table level).get file

/-- The store without the markers of a file. -/
def eraseFile (s : MarkerStore) (file : Trail) : MarkerStore :=
  ⟨s.errors.erase file, s.warnings.erase file⟩

/-- The lines of a file on which an error begins. -/
def errorLines (s : MarkerStore) (file : Trail) : List Nat :=
  (s.errors.get file).map (·.line)

/-- The store without the warnings of a file that stand on a line with an error. -/
def suppress (s : MarkerStore) (file : Trail) : MarkerStore :=
  { s with
    warnings := s.warnings.set file
      ((s.warnings.get file).filter fun m => !(s.errorLines file).contains m.line) }

/-- A marker together with the file that it is placed in. -/
structure Placed where
  file : Trail
  marker : Marker
  deriving DecidableEq, Repr

/-- The files that markers are placed in, each once. -/
def filesOf (placed : List Placed) : List Trail :=
  (placed.map (·.file)).eraseDups

/-- The markers placed in a file at one level. -/
def group (placed : List Placed) (level : Level) (file : Trail) : List Marker :=
  (placed.filter fun p => p.file == file && p.marker.level == level).map (·.marker)

/-- The store with the table of every level in the list emptied. -/
def clearLevels (levels : List Level) (s : MarkerStore) : MarkerStore :=
  levels.foldl (fun s level => s.withTable level .empty) s

/-- The store with what is placed in one file filed at every level in the list. -/
def fileUnder (placed : List Placed) (levels : List Level) (s : MarkerStore) (file : Trail) :
    MarkerStore :=
  levels.foldl
    (fun s level => s.withTable level ((s.table level).set file (group placed level file))) s

/-- A pass: the tables in scope are filled anew with the placed markers of their level, and the
warnings next to errors are taken back in every file that the pass touches. -/
def replace (s : MarkerStore) (scope : Scope) (placed : List Placed) : MarkerStore :=
  (filesOf placed).foldl
    (fun s file => (fileUnder placed scope.levels s file).suppress file)
    (clearLevels scope.levels s)

@[simp] theorem markers_empty (level : Level) (file : Trail) : empty.markers level file = [] := by
  cases level <;> rfl

end MarkerStore

end BuildReport
