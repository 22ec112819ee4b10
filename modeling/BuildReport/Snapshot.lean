import BuildReport.MarkerStore

/-!
# Snapshots

A snapshot lists what a marker store holds. Files with an error come first, and files are sorted by
their trails otherwise. Within a file the markers stand in the order in which they are shown, and
those that this order does not tell apart keep the order in which they were filed, errors first.

- `MarkerStore.snapshot`: the list.
- `Snapshot.status`: how many errors and warnings there are.
- `Snapshot.lines`: one line for each marker.
-/

namespace BuildReport

/-- The markers of each file that has any, as they are shown. -/
structure Snapshot where
  files : List (Trail × List Marker)
  deriving DecidableEq, Repr

namespace Snapshot

/-- The file has an error. -/
def hasError (file : Trail × List Marker) : Bool :=
  file.2.any (·.level == .error)

/-- Files with an error come first, and sort by their trails otherwise. -/
def le (a b : Trail × List Marker) : Bool :=
  if hasError a = hasError b then Trail.le a.1 b.1 else hasError a

/-- How many markers there are at a level. -/
def count (s : Snapshot) (level : Level) : Nat :=
  (s.files.map fun file => file.2.countP (·.level == level)).foldr (· + ·) 0

/-- There is no marker. -/
def isEmpty (s : Snapshot) : Bool :=
  s.files.isEmpty

/-- The number of errors and of warnings, or nothing if there is no marker. -/
def status (s : Snapshot) : String :=
  if s.isEmpty then "" else s!"E:{s.count .error} W:{s.count .warning}"

/-- One line for each marker. -/
def lines (s : Snapshot) : List String :=
  s.files.flatMap fun (file, markers) => markers.map (Marker.render file.path)

end Snapshot

namespace MarkerStore

/-- The files that have a marker, each once. -/
def files (s : MarkerStore) : List Trail :=
  (s.errors.files ++ s.warnings.files).eraseDups

/-- The markers of a file at both levels, as they are shown. -/
def shown (s : MarkerStore) (file : Trail) : List Marker :=
  (s.errors.get file ++ s.warnings.get file).mergeSort Marker.le

/-- What the store holds, as it is shown. -/
def snapshot (s : MarkerStore) : Snapshot where
  files := (s.files.map fun file => (file, s.shown file)).mergeSort Snapshot.le

/-- The markers shown for a file are those that the store holds for it. -/
theorem shown_perm (s : MarkerStore) (file : Trail) :
    (s.shown file).Perm (s.markers .error file ++ s.markers .warning file) :=
  List.mergeSort_perm _ _

/-- The markers of a file are shown in order. -/
theorem pairwise_shown (s : MarkerStore) (file : Trail) :
    (s.shown file).Pairwise fun a b => a.le b = true := by
  apply List.pairwise_mergeSort
  · intro a b c
    exact Marker.le_trans
  · exact Marker.le_total

end MarkerStore

end BuildReport
