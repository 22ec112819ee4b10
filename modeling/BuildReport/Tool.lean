import BuildReport.Diagnostic
import BuildReport.Path
import BuildReport.Text.Utf8

/-!
# Tools

A tool is run by a command in a directory, and writes to two streams. One of them carries its
report. That a tool ends with a failure says nothing by itself, since tools do so when they report
errors. But a tool that fails, reports on the standard output and has written to the other stream is
broken, and its report is not read. A tool that cannot be started reports nothing.

- `Invocation`: how a tool is run.
- `Outcome`: what became of it.
- `Outcome.diagnostics`: what its report says.
- `Outcome.trace`: the lines that show what was run.
-/

namespace BuildReport

/-- The two streams that a tool writes to. -/
inductive Stream where
  | stdout
  | stderr
  deriving DecidableEq, Repr

/-- How a tool is run. An environment of its own takes the place of the current one. -/
structure Invocation where
  command : Path
  args : List String
  cwd : Path
  environment : Option (List (String × String))
  report : Stream
  deriving DecidableEq, Repr

/-- The command and its arguments with a blank between two. -/
def Invocation.commandLine (i : Invocation) : String :=
  " ".intercalate (i.command.text :: i.args)

/-- What became of a tool: it could not be started, or it has ended and written something. -/
inductive Outcome where
  | notStarted
  | finished (success : Bool) (stdout stderr : List UInt8)
  deriving DecidableEq, Repr

/-- What a run says, and the lines that show it. -/
structure Run where
  diagnostics : List Diagnostic
  trace : List String
  deriving DecidableEq, Repr

namespace Outcome

/-- The tool is broken: it failed and wrote to the standard error, which carries no report. -/
def isBroken (report : Stream) (success : Bool) (stderr : List UInt8) : Bool :=
  !success && !(Utf8.decode stderr).isEmpty && report == .stdout

/-- The bytes of the stream that carries the report. -/
def reported (report : Stream) (stdout stderr : List UInt8) : List UInt8 :=
  match report with
  | .stdout => stdout
  | .stderr => stderr

/-- What a run says, its report being read by `parse`. -/
def read (i : Invocation) (parse : List Char → List Diagnostic) : Outcome → Run
  | .notStarted => { diagnostics := [], trace := [] }
  | .finished success stdout stderr =>
    if isBroken i.report success stderr then
      { diagnostics := []
        trace := ["Error while running tool: " ++ i.commandLine,
          String.ofList (Utf8.decode stderr)] }
    else
      { diagnostics := parse (Utf8.decode (reported i.report stdout stderr))
        trace := [i.cwd.text ++ ">Finished running tool: " ++ i.commandLine, ""] }

/-- A report on the standard error is read whatever the rest of the run was. -/
theorem diagnostics_read_stderr {i : Invocation} (h : i.report = .stderr)
    (parse : List Char → List Diagnostic) (success : Bool) (stdout stderr : List UInt8) :
    ((finished success stdout stderr).read i parse).diagnostics = parse (Utf8.decode stderr) := by
  simp [read, isBroken, reported, h]

end Outcome

end BuildReport
