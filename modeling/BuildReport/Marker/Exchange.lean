import BuildReport.Marker
import BuildReport.Json

/-!
# Markers as JSON

A marker is written as an object of five members, whose names stand in alphabetical order. It is
read from an object that has all five, in any order and among any others, or from an array of
exactly the five values, from the line to the level. Line and columns are unsigned integers of 64
bits. The level is written as its name, and is also read from an object with that one name and the
value null.

- `Marker.toJson`: the written form.
- `Marker.ofJson?`: reading.
-/

namespace BuildReport

namespace Level

/-- Reads a level. -/
def ofJson? : Json → Option Level
  | .string label => ofLabel? label
  | .object [(label, .null)] => ofLabel? label
  | _ => none

end Level

namespace Marker

/-- The greatest line or column that can be exchanged. -/
def maxPosition : Int := 18446744073709551615

/-- The marker with these five values, if each is of the right kind and in range. -/
def ofFields? (line startColumn endColumn message level : Json) : Option Marker := do
  let line ← line.asInt? 0 maxPosition
  let startColumn ← startColumn.asInt? 0 maxPosition
  let endColumn ← endColumn.asInt? 0 maxPosition
  let message ← message.asString?
  let level ← Level.ofJson? level
  return { line := line.toNat, startColumn := startColumn.toNat, endColumn := endColumn.toNat,
           message, level }

/-- Reads a marker. -/
def ofJson? : Json → Option Marker
  | .object members => do
    let line ← Json.field? members "line"
    let startColumn ← Json.field? members "start_column"
    let endColumn ← Json.field? members "end_column"
    let message ← Json.field? members "message"
    let level ← Json.field? members "severity"
    ofFields? line startColumn endColumn message level
  | .array [line, startColumn, endColumn, message, level] =>
    ofFields? line startColumn endColumn message level
  | _ => none

/-- The written form of a marker. -/
def toJson (m : Marker) : Json :=
  .object [("end_column", .int m.endColumn), ("line", .int m.line), ("message", .string m.message),
    ("severity", .string m.level.label), ("start_column", .int m.startColumn)]

end Marker

end BuildReport
