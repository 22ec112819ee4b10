import BuildReport.Diagnostic
import BuildReport.Json

/-!
# Diagnostics as JSON

A diagnostic is written as an object of five members. It is read from an object that has all five,
in any order and among any others, or from an array of exactly the five values. The line is a
signed integer of 64 bits and the column an unsigned one of 32; the severity is any label.

- `Diagnostic.toJson`: the written form.
- `Diagnostic.ofJson?`: reading.
- `ofFields?_of_valid`: the five written values read back.
-/

namespace BuildReport

namespace Diagnostic

/-- The least line that can be exchanged. -/
def minLine : Int := -9223372036854775808

/-- The greatest line that can be exchanged. -/
def maxLine : Int := 9223372036854775807

/-- The greatest column that can be exchanged. -/
def maxColumn : Int := 4294967295

/-- The diagnostic with these five values, if each is of the right kind and in range. -/
def ofFields? (file line column message severity : Json) : Option Diagnostic := do
  let file ← file.asString?
  let line ← line.asInt? minLine maxLine
  let column ← column.asInt? 0 maxColumn
  let message ← message.asString?
  let label ← severity.asString?
  return { file, line, column := column.toNat, message, severity := .ofLabel label }

/-- Reads a diagnostic. -/
def ofJson? : Json → Option Diagnostic
  | .object members => do
    let file ← Json.field? members "file"
    let line ← Json.field? members "line"
    let column ← Json.field? members "col"
    let message ← Json.field? members "msg"
    let severity ← Json.field? members "severity"
    ofFields? file line column message severity
  | .array [file, line, column, message, severity] => ofFields? file line column message severity
  | _ => none

/-- The five values of a diagnostic. -/
def toFields (d : Diagnostic) : List Json :=
  [.string d.file, .int d.line, .int d.column, .string d.message, .string d.severity.label]

/-- The written form of a diagnostic. -/
def toJson (d : Diagnostic) : Json :=
  .object (["file", "line", "col", "msg", "severity"].zip d.toFields)

/-- The values written for a diagnostic in range read back, up to the severity's label. -/
theorem ofFields?_of_valid (d : Diagnostic) (hlow : minLine ≤ d.line) (hhigh : d.line ≤ maxLine)
    (hcol : (d.column : Int) ≤ maxColumn) :
    ofFields? (.string d.file) (.int d.line) (.int d.column) (.string d.message)
      (.string d.severity.label) = some { d with severity := .ofLabel d.severity.label } := by
  have hcol' : (0 : Int) ≤ d.column := by omega
  simp [ofFields?, Json.asString?, Json.asInt?, hlow, hhigh, hcol, hcol']

end Diagnostic

end BuildReport
