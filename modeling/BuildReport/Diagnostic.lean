import BuildReport.Severity

/-!
# Diagnostics

What a tool has to say about a source: the file it names, a line counted from one, a column
counted from one, a message and a severity. Each of the three places may be missing: no file means
the source being processed, a line below one means no line, and column zero means that the column
is to be taken from the text.

- `Diagnostic.located`, `Diagnostic.unlocated`: diagnostics as reports carry them.
- `Diagnostic.lineIndex?`: the line counted from zero, if there is one.
-/

namespace BuildReport

/-- One message of a tool about a source. -/
structure Diagnostic where
  file : String
  line : Int
  column : Nat
  message : String
  severity : Severity
  deriving DecidableEq, Repr

namespace Diagnostic

/-- A diagnostic for a line of a file, without a column. -/
def located (file : String) (line : Nat) (message : String) (severity : Severity) : Diagnostic :=
  { file, line, column := 0, message, severity }

/-- A diagnostic for no file and no line. -/
def unlocated (message : String) (severity : Severity) : Diagnostic :=
  { file := "", line := 0, column := 0, message, severity }

/-- The diagnostic has no line. -/
def isGlobal (d : Diagnostic) : Bool :=
  d.line ≤ 0

/-- The line counted from zero, if the diagnostic has one. -/
def lineIndex? (d : Diagnostic) : Option Nat :=
  if d.line ≤ 0 then none else some (d.line - 1).toNat

/-- Counting from zero and from one differ by one. -/
theorem lineIndex?_eq_some {d : Diagnostic} {n : Nat} :
    d.lineIndex? = some n ↔ d.line = (n : Int) + 1 := by
  unfold lineIndex?
  split
  · constructor
    · intro h; cases h
    · intro h; omega
  · constructor
    · intro h; cases h; omega
    · intro h; simp; omega

end Diagnostic

end BuildReport
