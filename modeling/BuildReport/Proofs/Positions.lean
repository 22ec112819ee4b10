import BuildReport.Proofs.Snapshots

/-!
# Positions that come back

A tool counts lines and columns from one, a marker counts them from zero, and what is shown counts
from one again. On the way a line is a signed word, a column a short unsigned word and an index a
long unsigned word. The line that is shown is the line that the tool gave. The column is the one
that it gave as well, if an open document has the line; if the tool gave none, it is the column of
the first character that is no blank.

- `Word.hold?`: the result of an operation on words, unless it leaves the range of the word.
- `Diagnostic.markIn?`, `Marker.shownIn?`: markers made and shown with operations on words.
- `markIn?_eq_some`, `shownIn?_mark`: none of these operations leaves its range.
- `Diagnostic.shownColumn`: the column that is shown.
- `positions_come_back`: what is shown for a diagnostic, after a pass over any board.
-/

namespace BuildReport

open Text

/-! ## Words -/

/-- The integers that one kind of machine word holds, by the smallest and the largest. -/
structure Word where
  low : Int
  high : Int

namespace Word

def signed64 : Word := ⟨-9223372036854775808, 9223372036854775807⟩

def unsigned32 : Word := ⟨0, 4294967295⟩

def unsigned64 : Word := ⟨0, 18446744073709551615⟩

/-- The integer is one that the word holds. -/
def Holds (w : Word) (n : Int) : Prop :=
  w.low ≤ n ∧ n ≤ w.high

instance (w : Word) : DecidablePred w.Holds :=
  fun n => inferInstanceAs (Decidable (w.low ≤ n ∧ n ≤ w.high))

/-- The exact result of an operation on words, unless it overflows or underflows. -/
def hold? (w : Word) (n : Int) : Option Int :=
  if w.Holds n then some n else none

theorem hold?_of_holds {w : Word} {n : Int} (h : w.Holds n) : w.hold? n = some n :=
  if_pos h

theorem signed64_holds {n : Int} :
    signed64.Holds n ↔ -9223372036854775808 ≤ n ∧ n ≤ 9223372036854775807 := Iff.rfl

theorem unsigned32_holds {n : Int} : unsigned32.Holds n ↔ 0 ≤ n ∧ n ≤ 4294967295 := Iff.rfl

theorem unsigned64_holds {n : Int} :
    unsigned64.Holds n ↔ 0 ≤ n ∧ n ≤ 18446744073709551615 := Iff.rfl

end Word

/-- No line of the document takes more than the longest text that fits into memory, and so none has
more characters than that text has bytes. -/
def Document.Fits (document : Document) : Prop :=
  ∀ text ∈ document.lines, Word.signed64.Holds text.length

/-! ## Columns -/

/-- The first column that a diagnostic covers, with operations on words. -/
def firstColumnIn? (text : List Char) (column : Nat) : Option Int :=
  if column = 0 then Word.unsigned64.hold? (leadingBlanks text)
  else Word.unsigned32.hold? ((column : Int) - 1)

/-- The columns that a diagnostic covers on a line, with operations on words. -/
def columnRangeIn? (text : List Char) (column : Nat) : Option (Int × Int) := do
  let start ← firstColumnIn? text column
  let last ← Word.unsigned64.hold? ((text.length : Int) - trailingBlanks text)
  let next ← Word.unsigned64.hold? (start + 1)
  return (start, max last next)

variable {text : List Char} {column : Nat}

theorem firstColumnIn?_eq_some (htext : Word.signed64.Holds text.length)
    (hcolumn : Word.unsigned32.Holds column) :
    firstColumnIn? text column = some ((columnRange text column).1 : Int) := by
  have hleading := leadingBlanks_le text
  rw [Word.signed64_holds] at htext
  rw [Word.unsigned32_holds] at hcolumn
  by_cases hzero : column = 0
  · rw [firstColumnIn?, if_pos hzero, Word.hold?_of_holds]
    · simp only [columnRange, if_pos hzero]
    · rw [Word.unsigned64_holds]
      omega
  · rw [firstColumnIn?, if_neg hzero, Word.hold?_of_holds]
    · simp only [columnRange, if_neg hzero]
      exact congrArg some (by omega)
    · rw [Word.unsigned32_holds]
      omega

/-- No column lies further from the start than the line is long or the tool said. -/
theorem columnRange_fst_le (text : List Char) (column : Nat) :
    (columnRange text column).1 ≤ max text.length column := by
  have hleading := leadingBlanks_le text
  simp only [columnRange]
  split <;> omega

/-- The last column is computed alike in words, if nothing overflows on the way. -/
theorem columnRange_snd (text : List Char) (column : Nat) :
    ((columnRange text column).2 : Int) =
      max ((text.length : Int) - trailingBlanks text) ((columnRange text column).1 + 1) := by
  have htrailing := trailingBlanks_le text
  simp only [columnRange]
  omega

theorem columnRangeIn?_eq_some (htext : Word.signed64.Holds text.length)
    (hcolumn : Word.unsigned32.Holds column) :
    columnRangeIn? text column =
      some (((columnRange text column).1 : Int), ((columnRange text column).2 : Int)) := by
  have hstart := firstColumnIn?_eq_some htext hcolumn
  have hbound := columnRange_fst_le text column
  have htrailing := trailingBlanks_le text
  rw [Word.signed64_holds] at htext
  rw [Word.unsigned32_holds] at hcolumn
  have hlast : Word.unsigned64.Holds ((text.length : Int) - trailingBlanks text) := by
    rw [Word.unsigned64_holds]
    omega
  have hnext : Word.unsigned64.Holds (((columnRange text column).1 : Int) + 1) := by
    rw [Word.unsigned64_holds]
    omega
  rw [columnRange_snd]
  simp only [columnRangeIn?, Option.bind_eq_bind, Option.bind_eq_some_iff]
  exact ⟨_, hstart, _, Word.hold?_of_holds hlast, _, Word.hold?_of_holds hnext, rfl⟩

namespace Diagnostic

variable (base : Option Path) (documents : List Document) (d : Diagnostic)

/-! ## Markers -/

/-- The marker of a diagnostic, with operations on words. -/
def markIn? : Option Marker := do
  let index ← Word.signed64.hold? (d.line - 1)
  let index ← Word.unsigned64.hold? index
  let range ← match d.textAt? base documents with
    | some text => columnRangeIn? text.toList d.column
    | none => some (0, 1)
  return { line := index.toNat
           startColumn := range.1.toNat
           endColumn := range.2.toNat
           message := d.message
           level := d.severity.level }

/-- The column that is shown, counted from one: the one that the tool gave, or else that of the
first character which is no blank. Where the text is not at hand it is the first. -/
def shownColumn : Nat :=
  match d.textAt? base documents with
  | some text => if d.column = 0 then 1 + leadingBlanks text.toList else d.column
  | none => 1

/-- The line that is shown for a diagnostic about the file at the path. -/
def shownLine (path : Path) : String :=
  let column := d.shownColumn base documents
  s!"{path.text}:{d.line}:{column}: {d.severity.level.label}: {d.message}"

variable {base documents d}

/-- A text that a diagnostic is about is a line of an open document, and fits into memory. -/
theorem holds_length_of_textAt? {text : String} (h : d.textAt? base documents = some text)
    (hfits : ∀ document ∈ documents, document.Fits) :
    Word.signed64.Holds text.toList.length := by
  unfold textAt? at h
  split at h
  · next document hfind =>
    exact hfits document (List.mem_of_find?_eq_some hfind) text (List.mem_of_getElem? h)
  · cases h

/-- **No operation leaves its range** when a marker is made. -/
theorem markIn?_eq_some (hpositive : 0 < d.line) (hline : Word.signed64.Holds d.line)
    (hcolumn : Word.unsigned32.Holds d.column) (hfits : ∀ document ∈ documents, document.Fits) :
    d.markIn? base documents = some (d.mark base documents) := by
  rw [Word.signed64_holds] at hline
  have hindex : Word.signed64.hold? (d.line - 1) = some (d.line - 1) := by
    refine Word.hold?_of_holds ?_
    rw [Word.signed64_holds]
    omega
  have hword : Word.unsigned64.hold? (d.line - 1) = some (d.line - 1) := by
    refine Word.hold?_of_holds ?_
    rw [Word.unsigned64_holds]
    omega
  rw [markIn?, mark, columns, hindex, Option.bind_eq_bind, Option.bind_some, hword,
    Option.bind_eq_bind, Option.bind_some]
  cases htext : d.textAt? base documents with
  | none => rfl
  | some text =>
    have hlength := holds_length_of_textAt? htext hfits
    simp only [columnRangeIn?_eq_some hlength hcolumn, Option.bind_some, Int.toNat_natCast]
    rfl

theorem mark_startColumn_add_one :
    (d.mark base documents).startColumn + 1 = d.shownColumn base documents := by
  show (d.columns base documents).1 + 1 = _
  unfold columns shownColumn
  cases d.textAt? base documents with
  | none => rfl
  | some text =>
    simp only [columnRange]
    split <;> omega

theorem mark_line_add_one (hpositive : 0 < d.line) :
    (((d.mark base documents).line + 1 : Nat) : Int) = d.line := by
  show (((d.line - 1).toNat + 1 : Nat) : Int) = d.line
  omega

theorem shownColumn_le (hcolumn : Word.unsigned32.Holds d.column)
    (hfits : ∀ document ∈ documents, document.Fits) :
    (d.shownColumn base documents : Int) ≤ 9223372036854775808 := by
  rw [Word.unsigned32_holds] at hcolumn
  unfold shownColumn
  cases htext : d.textAt? base documents with
  | none => simp
  | some text =>
    have hlength := holds_length_of_textAt? htext hfits
    have hleading := leadingBlanks_le text.toList
    rw [Word.signed64_holds] at hlength
    show ((if d.column = 0 then 1 + leadingBlanks text.toList else d.column : Nat) : Int) ≤ _
    split <;> omega

end Diagnostic

/-! ## What is shown -/

/-- The line and the column of a marker as they are shown, with operations on words. -/
def Marker.shownIn? (m : Marker) : Option (Int × Int) := do
  let line ← Word.unsigned64.hold? (m.line + 1)
  let column ← Word.unsigned64.hold? (m.startColumn + 1)
  return (line, column)

namespace Diagnostic

variable {base : Option Path} {documents : List Document} {d : Diagnostic}

/-- **No operation leaves its range** when a marker is shown. -/
theorem shownIn?_mark (hpositive : 0 < d.line) (hline : Word.signed64.Holds d.line)
    (hcolumn : Word.unsigned32.Holds d.column) (hfits : ∀ document ∈ documents, document.Fits) :
    (d.mark base documents).shownIn? = some (d.line, (d.shownColumn base documents : Int)) := by
  have hfirst : (((d.mark base documents).line : Int) + 1) = d.line := mark_line_add_one hpositive
  have hsecond : (((d.mark base documents).startColumn : Int) + 1) = d.shownColumn base documents :=
    congrArg Nat.cast mark_startColumn_add_one
  have hline : Word.unsigned64.Holds d.line := by
    rw [Word.signed64_holds] at hline
    rw [Word.unsigned64_holds]
    omega
  have hcolumn : Word.unsigned64.Holds (d.shownColumn base documents) := by
    have hle : (d.shownColumn base documents : Int) ≤ 9223372036854775808 :=
      shownColumn_le hcolumn hfits
    rw [Word.unsigned64_holds]
    omega
  simp only [Marker.shownIn?, hfirst, hsecond, Option.bind_eq_bind, Option.bind_eq_some_iff]
  exact ⟨_, Word.hold?_of_holds hline, _, Word.hold?_of_holds hcolumn, rfl⟩

theorem render_mark (path : Path) (hpositive : 0 < d.line) :
    (d.mark base documents).render path = d.shownLine base documents path := by
  rw [Marker.render, mark_startColumn_add_one]
  have hline : (((d.mark base documents).line + 1 : Nat) : Int) = d.line :=
    mark_line_add_one hpositive
  rw [shownLine, ← hline]
  rfl

end Diagnostic

/-- What a store holds for a file is among the lines that are shown. -/
theorem MarkerStore.render_mem_lines {s : MarkerStore} {level : Level} {file : Trail} {m : Marker}
    (h : m ∈ s.markers level file) : m.render file.path ∈ s.snapshot.lines := by
  have hfile : file ∈ s.files :=
    mem_files.mpr ⟨level, MarkerTable.mem_files_of_get_ne_nil (List.ne_nil_of_mem h)⟩
  have hentry : (file, s.shown file) ∈ s.snapshot.files := by
    rw [snapshot_eq_snapshotIn, mem_snapshotIn]
    exact ⟨hfile, rfl⟩
  exact List.mem_flatMap.mpr
    ⟨_, hentry, List.mem_map.mpr ⟨m, mem_shown.mpr ⟨level, h⟩, rfl⟩⟩

/-! ## Positions -/

namespace Diagnostic

variable {b : Board} {base : Option Path} {documents : List Document} {found : List Diagnostic}
  {d : Diagnostic}

/-- A diagnostic that has a place is in the store after a pass over both tables, unless it is a
warning on a line with an error. -/
theorem mark_mem_iff (hd : d ∈ found) (hplace : d.HasPlace documents) :
    d.mark base documents ∈
        (b.reconcile base documents found .both).store.markers d.severity.level
          (d.home base documents) ↔
      (d.severity = .warning → ∀ e ∈ (b.reconcile base documents found .both).store.markers .error
        (d.home base documents), e.line ≠ (d.mark base documents).line) := by
  have hmem (p : Severity → Prop) [DecidablePred p] (hp : p d.severity) :
      d.mark base documents ∈
        marksAt base documents (found.filter (p ·.severity)) (d.home base documents) :=
    mem_marksAt.mpr ⟨d, List.mem_filter.mpr ⟨hd, decide_eq_true hp⟩, hplace, rfl, rfl⟩
  by_cases hwarning : d.severity = .warning
  · rw [Severity.level_eq_warning.mpr hwarning, Board.markers_warning_both,
      MarkerStore.mem_unshadowed]
    exact ⟨fun h _ => h.2, fun h => ⟨hmem (· = .warning) hwarning, h hwarning⟩⟩
  · rw [Severity.level_eq_error.mpr hwarning, Board.markers_error_both]
    exact ⟨fun _ h => absurd h hwarning, fun _ => hmem (· ≠ .warning) hwarning⟩

/-- **Positions come back.** Take a diagnostic that names a file and a line of it, among others in a
pass over both tables of any board. Its marker is in the store afterwards, unless it is a warning on
a line with an error. Then it is shown with the canonical path of the file, the line that the tool
gave, and the column that the tool gave, as far as an open document has the line. No operation on
words leaves its range, neither when the marker is made nor when it is shown. -/
theorem positions_come_back (b : Board) (base : Option Path) (documents : List Document)
    {found : List Diagnostic} {d : Diagnostic} (hd : d ∈ found) (hpositive : 0 < d.line)
    (hline : Word.signed64.Holds d.line) (hcolumn : Word.unsigned32.Holds d.column)
    (hfile : d.file ≠ "") (hfits : ∀ document ∈ documents, document.Fits) :
    let after := b.reconcile base documents found .both
    let file := identity base ⟨d.file⟩
    let m := d.mark base documents
    (m ∈ after.store.markers d.severity.level file ↔
      (d.severity = .warning → ∀ e ∈ after.store.markers .error file, e.line ≠ m.line)) ∧
    (m ∈ after.store.markers d.severity.level file →
      m.render file.path = d.shownLine base documents file.path ∧
      d.shownLine base documents file.path ∈ after.store.snapshot.lines) ∧
    d.markIn? base documents = some m ∧
    m.shownIn? = some (d.line, (d.shownColumn base documents : Int)) := by
  intro after file m
  have hhome : d.home base documents = file := if_pos hfile
  have hrender : m.render file.path = d.shownLine base documents file.path :=
    render_mark file.path hpositive
  refine ⟨?_, fun hmem => ⟨hrender, ?_⟩, markIn?_eq_some hpositive hline hcolumn hfits,
    shownIn?_mark hpositive hline hcolumn hfits⟩
  · rw [← hhome]
    exact mark_mem_iff hd ⟨hpositive, .inl hfile⟩
  · rw [← hrender]
    exact MarkerStore.render_mem_lines hmem

/-- The last line that can be given, far behind the text, and the last column that can be given, far
behind the end of its line. -/
theorem positions_come_back_far :
    let far : Diagnostic := ⟨"./src/../a.s", 9223372036854775807, 0, "far", .error⟩
    let wide : Diagnostic := ⟨"/p//a.s", 1, 4294967295, "wide", .warning⟩
    let document : Document := ⟨⟨"/p/a.s"⟩, ["\tnop"]⟩
    let after := Board.empty.reconcile (some ⟨"/p"⟩) [document] [far, wide] .both
    (∀ d ∈ [far, wide], 0 < d.line ∧ Word.signed64.Holds d.line ∧ Word.unsigned32.Holds d.column ∧
      d.file ≠ "" ∧ d.mark (some ⟨"/p"⟩) [document] ∈
        after.store.markers d.severity.level [.root, .name "p", .name "a.s"]) ∧
    document.Fits ∧
    "/p/a.s:9223372036854775807:1: error: far" ∈ after.store.snapshot.lines ∧
    "/p/a.s:1:4294967295: warning: wide" ∈ after.store.snapshot.lines := by
  intro far wide document after
  have hgiven : ∀ d ∈ [far, wide], 0 < d.line ∧ Word.signed64.Holds d.line ∧
      Word.unsigned32.Holds d.column ∧ d.file ≠ "" ∧ d.mark (some ⟨"/p"⟩) [document] ∈
        after.store.markers d.severity.level [.root, .name "p", .name "a.s"] := by
    decide +kernel
  have hfits : document.Fits := by
    intro text htext
    rw [List.mem_singleton.mp htext]
    decide +kernel
  have hfar := hgiven far (by simp)
  have hwide := hgiven wide (by simp)
  have hfile : ∀ d ∈ [far, wide],
      identity (some ⟨"/p"⟩) ⟨d.file⟩ = [.root, .name "p", .name "a.s"] := by
    decide +kernel
  have hshown : ∀ d, d ∈ [far, wide] →
      d.shownLine (some ⟨"/p"⟩) [document] (Trail.path [.root, .name "p", .name "a.s"]) ∈
        after.store.snapshot.lines := by
    intro d hd
    obtain ⟨hpositive, hline, hcolumn, hnamed, hmem⟩ := hgiven d hd
    have hback := positions_come_back Board.empty (some ⟨"/p"⟩) [document] hd hpositive hline
      hcolumn hnamed (List.forall_mem_singleton.mpr hfits)
    rw [hfile d hd] at hback
    exact (hback.2.1 hmem).2
  have hfar : far.shownLine (some ⟨"/p"⟩) [document] (Trail.path [.root, .name "p", .name "a.s"]) =
      "/p/a.s:9223372036854775807:1: error: far" := by
    decide +kernel
  have hwide : wide.shownLine (some ⟨"/p"⟩) [document]
      (Trail.path [.root, .name "p", .name "a.s"]) = "/p/a.s:1:4294967295: warning: wide" := by
    decide +kernel
  refine ⟨hgiven, hfits, ?_, ?_⟩
  · rw [← hfar]
    exact hshown far (by simp)
  · rw [← hwide]
    exact hshown wide (by simp)

end Diagnostic

end BuildReport
