import BuildReport.Build.Workspace
import BuildReport.Proofs.Decoding

/-!
# What a run yields

A tool is run, ends in some way, and has written bytes to two streams. What comes of it is settled
by which stream carries the report, and by whether the tool has failed and written something to the
standard error. A report on the standard error is read whatever else has happened. One on the
standard output is read unless the tool is broken. Either way there are two more lines in the
transcript, behind those that were there.

- `Ending`: how a tool ends.
- `Outcome.ended`: what becomes of a tool that ends like this.
- `Outcome.Yields`: what comes of a run, by the texts that its bytes spell.
- `Outcome.yields_iff`: it is what comes of reading the run.
- `Workspace.run_yields`: a run in a workspace, with all that it changes.
-/

namespace BuildReport

/-- How a tool ends: by itself and with a code, or by a signal. -/
inductive Ending where
  | code (n : UInt8)
  | signal (n : Nat)
  deriving DecidableEq, Repr

/-- A tool succeeds if it ends by itself and its code is zero. -/
def Ending.success : Ending → Bool
  | .code n => n == 0
  | .signal _ => false

theorem Ending.success_iff {e : Ending} : e.success = true ↔ e = .code 0 := by
  cases e with
  | code n => simp [success]
  | signal n => simp [success]

namespace Outcome

variable {i : Invocation} {parse : List Char → List Diagnostic} {e : Ending}
  {stdout stderr : List UInt8} {out err : List Char} {ran : Run}

/-- What becomes of a tool that ends like this and has written these bytes. -/
def ended (e : Ending) (stdout stderr : List UInt8) : Outcome :=
  .finished e.success stdout stderr

/-- What comes of a run that ends like this and has written these texts. -/
inductive Yields (i : Invocation) (parse : List Char → List Diagnostic) (e : Ending)
    (out err : List Char) : Run → Prop
  /-- A report on the standard error is read. -/
  | stderr (hreport : i.report = .stderr) : Yields i parse e out err
      { diagnostics := parse err
        trace := [i.cwd.text ++ ">Finished running tool: " ++ i.commandLine, ""] }
  /-- A report on the standard output is read if the tool succeeded or wrote to no other stream. -/
  | stdout (hreport : i.report = .stdout) (hsound : e = .code 0 ∨ err = []) :
      Yields i parse e out err
        { diagnostics := parse out
          trace := [i.cwd.text ++ ">Finished running tool: " ++ i.commandLine, ""] }
  /-- Otherwise the tool is broken, and what it wrote to the other stream is shown. -/
  | broken (hreport : i.report = .stdout) (hfailed : e ≠ .code 0) (hwrote : err ≠ []) :
      Yields i parse e out err
        { diagnostics := []
          trace := ["Error while running tool: " ++ i.commandLine, String.ofList err] }

theorem isBroken_iff {report : Stream} : isBroken report e.success stderr = true ↔
    report = .stdout ∧ e ≠ .code 0 ∧ Utf8.decode stderr ≠ [] := by
  rw [ne_eq, ← Ending.success_iff]
  cases report <;> simp [isBroken, and_comm]

theorem yields_read_ended (i : Invocation) (parse : List Char → List Diagnostic) (e : Ending)
    (stdout stderr : List UInt8) :
    Yields i parse e (Utf8.decode stdout) (Utf8.decode stderr)
      ((ended e stdout stderr).read i parse) := by
  rw [ended, read]
  split_ifs with hbroken
  · obtain ⟨hreport, hfailed, hwrote⟩ := isBroken_iff.mp hbroken
    exact .broken hreport hfailed hwrote
  · cases hreport : i.report with
    | stderr => exact .stderr hreport
    | stdout =>
      refine .stdout hreport ?_
      by_contra hunsound
      obtain ⟨hfailed, hwrote⟩ := not_or.mp hunsound
      exact hbroken (isBroken_iff.mpr ⟨hreport, hfailed, hwrote⟩)

/-- The cases exclude each other. -/
theorem Yields.unique {ran' : Run} (h : Yields i parse e out err ran)
    (h' : Yields i parse e out err ran') : ran = ran' := by
  cases h with
  | stderr hreport =>
    cases h' with
    | stderr => rfl
    | stdout hreport' | broken hreport' => cases hreport.symm.trans hreport'
  | stdout hreport hsound =>
    cases h' with
    | stderr hreport' => cases hreport.symm.trans hreport'
    | stdout => rfl
    | broken _ hfailed hwrote => exact absurd hsound (not_or.mpr ⟨hfailed, hwrote⟩)
  | broken hreport hfailed hwrote =>
    cases h' with
    | stderr hreport' => cases hreport.symm.trans hreport'
    | stdout _ hsound => exact absurd hsound (not_or.mpr ⟨hfailed, hwrote⟩)
    | broken => rfl

theorem yields_iff : Yields i parse e (Utf8.decode stdout) (Utf8.decode stderr) ran ↔
    ran = (ended e stdout stderr).read i parse := by
  have hread := yields_read_ended i parse e stdout stderr
  constructor
  · intro h
    exact h.unique hread
  · rintro rfl
    exact hread

end Outcome

namespace Workspace

/-- **What a run yields**, whatever tool is run and however its report is parsed. If the tool cannot
be started, nothing is found and nothing is shown. If it ends, however it does, the bytes that it
has written spell two texts, and these yield one result: this is what is found, and its two lines
are put behind the transcript. Neither the files nor the board is touched. What is found in a report
on the standard error depends on nothing but the bytes there: in whatever workspace and state the
tool is run once more, if it writes these again, the same is found. -/
theorem run_yields (w : Workspace) (i : Invocation) (parse : List Char → List Diagnostic)
    (s : Build.State) :
    (w.tools i = .notStarted → w.run i parse s = ⟨.ok [], { s with runs := s.runs ++ [i] }⟩) ∧
    ∀ e stdout stderr, w.tools i = .ended e stdout stderr →
      (∃ out err ran,
        (∀ text, Utf8.Spells stdout text ↔ text = out) ∧
        (∀ text, Utf8.Spells stderr text ↔ text = err) ∧
        (∀ r, Outcome.Yields i parse e out err r ↔ r = ran) ∧
        w.run i parse s = ⟨.ok ran.diagnostics, { s with
          transcript := ⟨s.transcript.lines ++ ran.trace⟩, runs := s.runs ++ [i] }⟩) ∧
      ∀ (w' : Workspace) (s' : Build.State) e' stdout', i.report = .stderr →
        w'.tools i = .ended e' stdout' stderr →
        (w'.run i parse s').result = (w.run i parse s).result := by
  refine ⟨fun htool => ?_, fun e stdout stderr htool => ⟨?_, ?_⟩⟩
  · rw [run, htool, Outcome.read, Transcript.append_nil]
  · refine ⟨Utf8.decode stdout, Utf8.decode stderr, (w.tools i).read i parse,
      fun _ => Utf8.spells_iff, fun _ => Utf8.spells_iff, fun _ => ?_, rfl⟩
    rw [htool, Outcome.yields_iff]
  · intro w' s' e' stdout' hreport htool'
    rw [run, run, htool, htool', Outcome.ended, Outcome.ended,
      Outcome.diagnostics_read_stderr hreport, Outcome.diagnostics_read_stderr hreport]

end Workspace

end BuildReport
