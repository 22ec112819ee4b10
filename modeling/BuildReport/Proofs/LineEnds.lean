import BuildReport.Document
import BuildReport.Proofs.Reading
import BuildReport.Report.Assembler
import BuildReport.Report.Linker

/-!
# Line ends

A tool or an editor ends a line with a line feed, or with a carriage return and a line feed. Reports
and documents are read by two splitters that treat the last line differently, but both shed the
carriage return of a line end. So it makes no difference how the lines of a text end, to what its
lines are or to what a report says.

- `withReturns`: a text with a carriage return put before every line feed.
- `splitLines_withReturns`: its pieces are those of the text, all but the last with a return behind.
- `reportLines_withReturns`, `documentLines_withReturns`: its lines are those of the text.
- `line_ends_alike`: reports say the same with either line end, and documents have the same lines.
-/

namespace BuildReport

namespace Text

/-- The text with a carriage return put before every line feed. -/
def withReturns (s : List Char) : List Char :=
  s.flatMap fun c => if c = '\n' then ['\r', '\n'] else [c]

/-- The pieces with a carriage return behind each that a line feed follows: all but the last. -/
def returnPieces : List (List Char) → List (List Char)
  | [] => []
  | [last] => [last]
  | line :: next :: rest => (line ++ ['\r']) :: returnPieces (next :: rest)

theorem withReturns_newline (rest : List Char) :
    withReturns ('\n' :: rest) = '\r' :: '\n' :: withReturns rest := rfl

theorem withReturns_cons {c : Char} (h : c ≠ '\n') (rest : List Char) :
    withReturns (c :: rest) = c :: withReturns rest := by
  rw [withReturns, List.flatMap_cons, if_neg h]
  rfl

/-! ## Pieces -/

variable {s line : List Char} {lines : List (List Char)}

theorem returnPieces_cons (line : List Char) (h : lines ≠ []) :
    returnPieces (line :: lines) = (line ++ ['\r']) :: returnPieces lines := by
  obtain ⟨next, rest, rfl⟩ := List.exists_cons_of_ne_nil h
  rfl

theorem returnPieces_ne_nil (h : lines ≠ []) : returnPieces lines ≠ [] := by
  obtain ⟨line, rest, rfl⟩ := List.exists_cons_of_ne_nil h
  cases rest with
  | nil => exact List.cons_ne_nil line []
  | cons next rest => exact List.cons_ne_nil _ _

theorem returnPieces_prependToFirst (start : List Char) (h : lines ≠ []) :
    returnPieces (prependToFirst start lines) = prependToFirst start (returnPieces lines) := by
  obtain ⟨line, rest, rfl⟩ := List.exists_cons_of_ne_nil h
  cases rest with
  | nil => rfl
  | cons next rest =>
    show ((start ++ line) ++ ['\r']) :: _ = (start ++ (line ++ ['\r'])) :: _
    rw [List.append_assoc]

/-- **The pieces of a text with carriage returns** are the pieces of the text, each with its own. -/
theorem splitLines_withReturns (s : List Char) :
    splitLines (withReturns s) = returnPieces (splitLines s) := by
  induction s with
  | nil => rfl
  | cons c rest ih =>
    by_cases hc : c = '\n'
    · subst hc
      rw [withReturns_newline, splitLines_cons (by decide), splitLines_newline, splitLines_newline,
        ih, returnPieces_cons [] (splitLines_ne_nil rest)]
      rfl
    · rw [withReturns_cons hc, splitLines_cons hc, splitLines_cons hc, ih,
        returnPieces_prependToFirst [c] (splitLines_ne_nil rest)]

/-! ## Lines -/

theorem chomp_of_not_mem (h : '\r' ∉ line) : chomp line = line :=
  chomp_of_getLast? fun hlast => h (List.mem_of_getLast? hlast)

/-- Reading a report sheds the returns that were put behind its pieces. -/
theorem map_chomp_returnPieces (h : ∀ line ∈ lines, '\r' ∉ line) :
    (returnPieces lines).map chomp = lines.map chomp := by
  induction lines with
  | nil => rfl
  | cons line lines ih =>
    obtain ⟨hline, hlines⟩ := List.forall_mem_cons.mp h
    cases lines with
    | nil => rfl
    | cons next rest =>
      rw [returnPieces, List.map_cons, List.map_cons, ih hlines, chomp_append_return,
        chomp_of_not_mem hline]

/-- So does reading a document. The last piece has no return, and stays as it is. -/
theorem documentPieces_returnPieces (h : ∀ line ∈ lines, '\r' ∉ line) :
    documentPieces (returnPieces lines) = documentPieces lines := by
  induction lines with
  | nil => rfl
  | cons line lines ih =>
    obtain ⟨hline, hlines⟩ := List.forall_mem_cons.mp h
    cases lines with
    | nil => rfl
    | cons next rest =>
      obtain ⟨first, more, hmore⟩ :=
        List.exists_cons_of_ne_nil (returnPieces_ne_nil (List.cons_ne_nil next rest))
      rw [returnPieces, hmore, documentPieces, documentPieces, ← hmore, ih hlines,
        chomp_append_return, chomp_of_not_mem hline]

theorem reportLines_withReturns (h : '\r' ∉ s) : reportLines (withReturns s) = reportLines s := by
  rw [reportLines, splitLines_withReturns]
  exact map_chomp_returnPieces fun line hline hreturn => h (mem_of_mem_splitLines hline hreturn)

theorem documentLines_withReturns (h : '\r' ∉ s) :
    documentLines (withReturns s) = documentLines s := by
  rw [documentLines, splitLines_withReturns]
  exact documentPieces_returnPieces
    fun line hline hreturn => h (mem_of_mem_splitLines hline hreturn)

/-! ## Reports and documents -/

/-- **It makes no difference how lines end.** A report says the same with either line end, to
whichever tool it belongs, and a document has the same lines. -/
theorem line_ends_alike {text : List Char} (h : '\r' ∉ text) (path : Path) :
    AssemblerReport.parse (withReturns text) = AssemblerReport.parse text ∧
    LinkerReport.parse (withReturns text) = LinkerReport.parse text ∧
    (Document.ofText path (withReturns text)).lines = (Document.ofText path text).lines := by
  refine ⟨?_, ?_, ?_⟩
  · rw [AssemblerReport.parse, reportLines_withReturns h]
    rfl
  · rw [LinkerReport.parse, reportLines_withReturns h]
    rfl
  · rw [Document.ofText, documentLines_withReturns h]
    rfl

/-- A message that goes on over an indented line goes on over it with either line end. -/
theorem line_ends_alike_wrapped :
    let text := "error 21 : main.o: no symbol\n    _custom.\n\nerror 5 : b".toList
    '\r' ∉ text ∧
    withReturns text = "error 21 : main.o: no symbol\r\n    _custom.\r\n\r\nerror 5 : b".toList ∧
    LinkerReport.parse (withReturns text) =
      [.unlocated "error 21 : main.o: no symbol _custom." .error,
        .unlocated "error 5 : b" .error] ∧
    (Document.ofText ⟨"a.s"⟩ (withReturns text)).lines =
      ["error 21 : main.o: no symbol", "    _custom.", "", "error 5 : b"] := by
  intro text
  have h : '\r' ∉ text := by decide +kernel
  obtain ⟨-, hlinker, hlines⟩ := line_ends_alike h ⟨"a.s"⟩
  refine ⟨h, by decide +kernel, ?_, ?_⟩
  · rw [hlinker]
    decide +kernel
  · rw [hlines]
    decide +kernel

end Text

end BuildReport
