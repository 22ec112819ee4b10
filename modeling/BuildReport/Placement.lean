import BuildReport.Diagnostic
import BuildReport.Document
import BuildReport.MarkerStore
import BuildReport.Text.Blank

/-!
# Placing diagnostics

A diagnostic becomes a marker of the file it names. Files are identified without looking at the
disk: a relative path is read from the directory the tool ran in, and every step back is folded.
The columns are those of the text without its surrounding blanks, or start at the column that the
tool gave; without the text they are the first column.

- `identity`: the file that a path names.
- `columnRange`: the columns that a diagnostic covers on a line.
- `place?`: the marker of a diagnostic, if it has a place.
-/

namespace BuildReport

/-- The file that a path names, read from the directory `base` if there is one. -/
def identity (base : Option Path) (p : Path) : Trail :=
  match base with
  | some dir => (dir.join p).trail.normalize
  | none => p.trail.normalize

/-- The columns that a diagnostic covers on a line. Column zero means the text without the blanks
at its ends. At least one column is covered. -/
def columnRange (text : List Char) (column : Nat) : Nat × Nat :=
  let start := if column = 0 then Text.leadingBlanks text else column - 1
  (start, max (text.length - Text.trailingBlanks text) (start + 1))

/-- The covered columns begin before they end. -/
theorem columnRange_lt (text : List Char) (column : Nat) :
    (columnRange text column).1 < (columnRange text column).2 := by
  simp only [columnRange]
  omega

namespace Placement

/-- The documents that are open while diagnostics are placed, each with the file it shows, and the
directory that relative paths are read from. -/
structure Desk where
  base : Option Path
  opened : List (Trail × Document)

/-- The desk with these documents open. -/
def desk (base : Option Path) (documents : List Document) : Desk where
  base
  opened := documents.map fun d => (identity base d.path, d)

/-- The file that a diagnostic is about: the one it names, or else the first open one. -/
def file? (desk : Desk) (d : Diagnostic) : Option Trail :=
  if d.file = "" then desk.opened.head?.map (·.1) else some (identity desk.base ⟨d.file⟩)

/-- The text of a line of a file, as the first open document of this file shows it. -/
def line? (desk : Desk) (file : Trail) (index : Nat) : Option String :=
  (desk.opened.find? (·.1 == file)).bind (·.2.line? index)

/-- The columns that a diagnostic covers on a line of a file. -/
def columns (desk : Desk) (file : Trail) (index column : Nat) : Nat × Nat :=
  match line? desk file index with
  | some text => columnRange text.toList column
  | none => (0, 1)

/-- The marker of a diagnostic, which needs a line and a file. -/
def place? (desk : Desk) (d : Diagnostic) : Option MarkerStore.Placed := do
  let index ← d.lineIndex?
  let file ← file? desk d
  let (startColumn, endColumn) := columns desk file index d.column
  return { file, marker := { line := index, startColumn, endColumn, message := d.message,
                             level := d.severity.level } }

/-- Every covered stretch has at least one column. -/
theorem columns_lt (desk : Desk) (file : Trail) (index column : Nat) :
    (columns desk file index column).1 < (columns desk file index column).2 := by
  unfold columns
  split
  · exact columnRange_lt _ _
  · decide

end Placement

end BuildReport
