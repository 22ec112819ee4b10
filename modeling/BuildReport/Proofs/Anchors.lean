import BuildReport.Include
import BuildReport.Proofs.Reconcile
import BuildReport.Report.Assembler

/-!
# Where diagnostics are anchored

A diagnostic without a line that names a file in angle brackets is anchored at the line of the
document that includes this file. The line is one of the document. The file of the diagnostic is the
document only if the diagnostic named no file before. A tool may name another file and line zero of
it, and then the line of the document is put beside the name of the other file.

- `Diagnostic.includedAt?`: the line that a diagnostic is anchored at.
- `anchor_line_ne_iff`: which diagnostics get a line.
- `anchored_in_document_iff`: where they are shown, and when this is the document.
- `anchored_in_another_file`: a line of a report for which it is not.
-/

namespace BuildReport

namespace Diagnostic

variable {base : Option Path} {document : Document} {documents : List Document} {d : Diagnostic}

/-! ## The line -/

/-- The line of the document, counted from zero, that includes the file which the message brackets:
the first, if there is one. -/
def includedAt? (document : Document) (d : Diagnostic) : Option Nat :=
  (Include.bracketedName? d.message.toList).bind document.includeLine?

theorem anchor_line_of_global (h : d.isGlobal = true) :
    (d.anchor document).line =
      match d.includedAt? document with
      | some index => (index : Int) + 1
      | none => d.line := by
  show anchoredLine document d = _
  rw [anchoredLine, if_pos h]
  rfl

/-- **A diagnostic gets a line** if it has none and a line of the document includes what it
names. -/
theorem anchor_line_ne_iff : (d.anchor document).line ≠ d.line ↔
    d.isGlobal = true ∧ ∃ index, d.includedAt? document = some index := by
  cases hglobal : d.isGlobal with
  | false => simp [anchor_line_of_not_isGlobal hglobal]
  | true =>
    have hline : d.line ≤ 0 := by simpa [isGlobal] using hglobal
    rw [anchor_line_of_global hglobal]
    cases d.includedAt? document with
    | none => simp
    | some index => simpa using show (index : Int) + 1 ≠ d.line by omega

/-! ## The file -/

theorem anchor_file (document : Document) (d : Diagnostic) :
    (d.anchor document).file = if d.file = "" then document.path.text else d.file := rfl

theorem anchor_file_ne_empty (hpath : document.path.text ≠ "") :
    (d.anchor document).file ≠ "" := by
  rw [anchor_file]
  split
  · exact hpath
  · assumption

/-- An anchored diagnostic is about the document if it named no file, or a spelling of the
document's, and only then. -/
theorem identity_anchor_file_eq_iff :
    identity base ⟨(d.anchor document).file⟩ = identity base document.path ↔
      d.file = "" ∨ identity base ⟨d.file⟩ = identity base document.path := by
  rw [anchor_file]
  by_cases hfile : d.file = ""
  · simp [hfile]
  · simp [hfile]

/-! ## Where it is shown -/

/-- **Where a diagnostic is shown that gets a line.** Whatever documents are open, it is shown on the
first line of the document that includes what it names. It is shown in the document if it named no
file, or a spelling of the document's, and only then. -/
theorem anchored_in_document_iff (base : Option Path) (documents : List Document)
    (hpath : document.path.text ≠ "") (hline : (d.anchor document).line ≠ d.line) :
    (∃ index, d.includedAt? document = some index ∧
      (d.anchor document).line = (index : Int) + 1 ∧
      ((d.anchor document).mark base documents).line = index) ∧
    (d.anchor document).HasPlace documents ∧
    (d.anchor document).home base documents = identity base ⟨(d.anchor document).file⟩ ∧
    (identity base ⟨(d.anchor document).file⟩ = identity base document.path ↔
      d.file = "" ∨ identity base ⟨d.file⟩ = identity base document.path) := by
  obtain ⟨hglobal, index, hindex⟩ := anchor_line_ne_iff.mp hline
  have hfile := anchor_file_ne_empty (d := d) hpath
  have hat : (d.anchor document).line = (index : Int) + 1 := by
    rw [anchor_line_of_global hglobal, hindex]
  refine ⟨⟨index, hindex, hat, ?_⟩, ⟨?_, .inl hfile⟩, if_pos hfile, identity_anchor_file_eq_iff⟩
  · show ((d.anchor document).line - 1).toNat = index
    omega
  · omega

/-- A source that includes one file. -/
def includingTypes : Document :=
  .ofText ⟨"/work/main.s"⟩ "start:\n\tinclude \"exec/types.i\"\n".toList

theorem includedAt?_types
    (h : Include.bracketedName? d.message.toList = some "exec/types.i".toList) :
    d.includedAt? includingTypes = some 1 := by
  have hsecond : includingTypes.includeLine? "exec/types.i".toList = some 1 := by decide +kernel
  rw [includedAt?, h, Option.bind_some, hsecond]

/-- The assembler does not say where it was told to open the file, and this is found out. -/
theorem anchored_in_document_iff_types :
    let d : Diagnostic := .unlocated "fatal error 13 : could not open <exec/types.i>" .error
    includingTypes.path.text ≠ "" ∧ (d.anchor includingTypes).line ≠ d.line ∧
    (d.anchor includingTypes).home none [includingTypes] = [.root, .name "work", .name "main.s"] ∧
    ((d.anchor includingTypes).mark none [includingTypes]).line = 1 := by
  intro d
  have hpath : includingTypes.path.text ≠ "" := by decide
  have hsecond : d.includedAt? includingTypes = some 1 := includedAt?_types (by decide +kernel)
  have hline : (d.anchor includingTypes).line ≠ d.line := anchor_line_ne_iff.mpr ⟨rfl, 1, hsecond⟩
  obtain ⟨⟨index, hindex, -, hmark⟩, -, hhome, hiff⟩ :=
    anchored_in_document_iff none [includingTypes] hpath hline
  refine ⟨hpath, hline, ?_, ?_⟩
  · rw [hhome, hiff.mpr (.inl rfl)]
    decide +kernel
  · rw [hmark, ← Option.some_inj, ← hindex, hsecond]

/-- **A line of the document is shown in another file.** The report names another file and line zero
of it. The diagnostic gets the line of the document that includes what it names, and keeps the other
file. -/
theorem anchored_in_another_file :
    let d : Diagnostic := .located "x.i" 0 "error 13: could not open <exec/types.i>" .error
    AssemblerReport.parse "error 13 in line 0 of \"x.i\": could not open <exec/types.i>".toList =
      [d] ∧
    d.includedAt? includingTypes = some 1 ∧
    (d.anchor includingTypes).line ≠ d.line ∧
    (d.anchor includingTypes).home none [includingTypes] = [.name "x.i"] ∧
    identity none ⟨(d.anchor includingTypes).file⟩ ≠ identity none includingTypes.path := by
  intro d
  have hsecond : d.includedAt? includingTypes = some 1 := includedAt?_types (by decide +kernel)
  refine ⟨?_, hsecond, anchor_line_ne_iff.mpr ⟨rfl, 1, hsecond⟩, ?_, ?_⟩
  all_goals decide +kernel

end Diagnostic

end BuildReport
