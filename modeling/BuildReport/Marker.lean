import BuildReport.Path
import BuildReport.Severity

/-!
# Markers

A marker is a diagnostic placed on a stretch of one line: the line and the first and the past-last
column, all counted from zero. The file is not part of it, because markers are kept per file.

- `Marker.render`: a marker as it is shown, with line and column counted from one.
- `Marker.le`: the order in which the markers of a file are shown.
-/

namespace BuildReport

/-- A diagnostic placed on the columns from `startColumn` up to `endColumn` of a line. -/
structure Marker where
  line : Nat
  startColumn : Nat
  endColumn : Nat
  message : String
  level : Level
  deriving DecidableEq, Repr

namespace Marker

/-- The marker of the file at `path` as it is shown. -/
def render (path : Path) (m : Marker) : String :=
  s!"{path.text}:{m.line + 1}:{m.startColumn + 1}: {m.level.label}: {m.message}"

/-- Markers are shown by line, then by first column, then errors first. -/
def le (a b : Marker) : Bool :=
  if a.line = b.line then
    if a.startColumn = b.startColumn then a.level.rank ≤ b.level.rank
    else a.startColumn < b.startColumn
  else a.line < b.line

theorem le_total (a b : Marker) : a.le b || b.le a := by
  unfold le
  grind

theorem le_trans {a b c : Marker} (hab : a.le b = true) (hbc : b.le c = true) :
    a.le c = true := by
  unfold le at *
  grind

end Marker

end BuildReport
