import BuildReport.Path
import BuildReport.Text.Lines

/-!
# Documents

A document is a source text split into lines, together with the path it was read from.

- `Document.ofText`: the document with a given text.
- `Document.line?`: a line, counted from zero.
-/

namespace BuildReport

/-- A source text by lines. -/
structure Document where
  path : Path
  lines : List String
  deriving DecidableEq, Repr

namespace Document

/-- The document at `path` with the given characters. -/
def ofText (path : Path) (text : List Char) : Document :=
  { path, lines := (Text.documentLines text).map String.ofList }

/-- The line with this number, counted from zero. -/
def line? (d : Document) (index : Nat) : Option String :=
  d.lines[index]?

/-- How many lines the document has. -/
def lineCount (d : Document) : Nat :=
  d.lines.length

theorem line?_isSome_iff {d : Document} {index : Nat} :
    (d.line? index).isSome ↔ index < d.lineCount := by
  simp [line?, lineCount]

end Document

end BuildReport
