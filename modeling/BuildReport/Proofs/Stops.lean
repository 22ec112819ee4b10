import BuildReport.Proofs.Building
import BuildReport.Proofs.Runs
import BuildReport.Tool.Stop

/-!
# What a stopped run yields

A tool that is killed ends by a signal, so what comes of its run is what comes of any run that ends
like this, by the texts that are still read. If no process survives, that is all that was written
until then. If one does, nothing is read, and the run looks like one that had nothing to say. So a
build takes what a stopped assembler had reported for all that it has to say about the source.

- `Hanging.left`: what is still read of what a killed tool has written.
- `Hanging.stopped_eq_ended`: a killed tool ends by a signal.
- `Workspace.run_stopped`: a stopped run in a workspace, with all that it changes.
- `Workspace.heard_stopped`: what a stopped assembler says about a source.
-/

namespace BuildReport

namespace Hanging

variable {h : Hanging} {k : Killer} {written : List UInt8}

/-- What is still read of the bytes that the tool has written to a stream. -/
def left (h : Hanging) (k : Killer) (written : List UInt8) : List UInt8 :=
  if k.survivors h = 0 then written else []

theorem left_of_none (hk : k.survivors h = 0) : h.left k written = written := by
  rw [left, if_pos hk]

theorem left_of_some (hk : k.survivors h ≠ 0) : h.left k written = [] := by
  rw [left, if_neg hk]

/-- **A killed tool ends by a signal**, whichever it is, and has written what is still read. -/
theorem stopped_eq_ended (h : Hanging) (k : Killer) (n : Nat) :
    h.stopped k = .ended (.signal n) (h.left k h.stdout) (h.left k h.stderr) := by
  rw [stopped]
  split
  · next hk =>
    rw [left_of_none hk, left_of_none hk]
    rfl
  · next hk =>
    rw [left_of_some hk, left_of_some hk]
    rfl

end Hanging

namespace Workspace

variable {w : Workspace} {h : Hanging} {k : Killer}

/-- **What a stopped run yields.** One result is found and shown, and neither the files nor the board
is touched. If no process survives, it is what the texts that were written yield for a tool that ends
by a signal: a report on the standard error is read as far as it goes, and one on the standard output
if nothing was written to the other stream. If a process survives, it is what an empty report says. -/
theorem run_stopped {i : Invocation} (htool : w.tools i = h.stopped k)
    (parse : List Char → List Diagnostic) (s : Build.State) :
    ∃ ran,
      w.run i parse s = ⟨.ok ran.diagnostics, { s with
        transcript := ⟨s.transcript.lines ++ ran.trace⟩, runs := s.runs ++ [i] }⟩ ∧
      (k.survivors h = 0 → ∀ n,
        Outcome.Yields i parse (.signal n) (Utf8.decode h.stdout) (Utf8.decode h.stderr) ran) ∧
      (k.survivors h ≠ 0 → ran =
        { diagnostics := parse []
          trace := [i.cwd.text ++ ">Finished running tool: " ++ i.commandLine, ""] }) := by
  have hyields (n : Nat) : Outcome.Yields i parse (.signal n) (Utf8.decode (h.left k h.stdout))
      (Utf8.decode (h.left k h.stderr)) ((h.stopped k).read i parse) := by
    rw [h.stopped_eq_ended k n]
    exact Outcome.yields_read_ended i parse _ _ _
  refine ⟨(h.stopped k).read i parse, ?_, fun hk n => ?_, fun hk => ?_⟩
  · rw [run, htool]
    rfl
  · have hread := hyields n
    rwa [Hanging.left_of_none hk, Hanging.left_of_none hk] at hread
  · -- nothing was written to the standard error, so the report is read, and it is empty
    have hread := hyields 0
    rw [Hanging.left_of_some hk, Hanging.left_of_some hk] at hread
    cases hreport : i.report with
    | stderr => exact hread.unique (.stderr hreport)
    | stdout => exact hread.unique (.stdout hreport (.inr rfl))

/-- What a stopped assembler says about a source: all that it had reported, or, if a process
survives, nothing at all. -/
theorem heard_stopped {source : Path} {debug : Bool}
    (htool : w.tools (w.assembling source debug) = h.stopped k) :
    w.heard source debug =
      if k.survivors h = 0 then AssemblerReport.parse (Utf8.decode h.stderr) else [] := by
  rw [heard, report, htool, h.stopped_eq_ended k 0]
  show AssemblerReport.parse (Utf8.decode (h.left k h.stderr)) = _
  split
  · next hk => rw [Hanging.left_of_none hk]
  · next hk =>
    rw [Hanging.left_of_some hk]
    rfl

end Workspace

end BuildReport
