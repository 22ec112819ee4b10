import BuildReport.Proofs.Anchors
import BuildReport.Proofs.Session
import BuildReport.Proofs.WellFormed

/-!
# What becomes of what reports say

A diagnostic of a report that has a line names a file. So the open documents never decide in which
file it is shown, or whether it is shown at all. Markers come into the store by passes alone. Those
that a pass made of what a report says have their message on one line, as it was in the report.

- `Diagnostic.IsReported`: what reports say, as it is and anchored in a document.
- `IsReported.place?_desk`: it is placed by its own line and file.
- `Board.Action.Files`: a pass files a diagnostic as a marker.
- `Board.exists_files_of_mem_run`: every marker of a session was filed by one of its passes.
- `reported_wellFormed`: what a report can say, and what becomes of it.
-/

namespace BuildReport

open Text

/-! ## Reported diagnostics -/

namespace Diagnostic

variable {d : Diagnostic}

/-- The diagnostic is what a report says, as it is or anchored in a document that has a path. -/
inductive IsReported : Diagnostic → Prop
  | read {text : List Char} {d : Diagnostic}
      (h : d ∈ AssemblerReport.parse text ∨ d ∈ LinkerReport.parse text) : IsReported d
  | anchored {document : Document} (path : document.path.text ≠ "") {d : Diagnostic}
      (h : IsReported d) : IsReported (d.anchor document)

/-- The diagnostic has a line but names no file. It is about the first open document, and is noticed
if none is open. -/
def IsStray (d : Diagnostic) : Prop :=
  d.lineIndex?.isSome = true ∧ d.file = ""

/-- **A reported diagnostic with a line names a file.** -/
theorem IsReported.file_ne_empty (h : d.IsReported) (hpositive : 0 < d.line) : d.file ≠ "" := by
  cases h with
  | read h =>
    obtain ⟨line, -, hwell⟩ := exists_isWellFormed h
    exact hwell.file_ne_empty hpositive
  -- anchored, it may have got its line from the document, and then its file as well
  | anchored path h => exact anchor_file_ne_empty path

/-- **The message of a reported diagnostic stays on one line.** -/
theorem IsReported.message_newline (h : d.IsReported) : '\n' ∉ d.message.toList := by
  induction h with
  | read h =>
    obtain ⟨line, -, hwell⟩ := exists_isWellFormed h
    exact hwell.message_newline
  | anchored path h ih => rwa [anchor_message]

/-- **No reported diagnostic is left to the open documents.** -/
theorem IsReported.not_isStray (h : d.IsReported) : ¬ d.IsStray := by
  rintro ⟨hline, hfile⟩
  obtain ⟨index, hindex⟩ := Option.isSome_iff_exists.mp hline
  have hat := lineIndex?_eq_some.mp hindex
  exact h.file_ne_empty (by omega) hfile

/-- **A reported diagnostic is placed by its own line and file**, whatever documents are open. -/
theorem IsReported.place?_desk (h : d.IsReported) (base : Option Path) (documents : List Document) :
    Placement.place? (Placement.desk base documents) d =
      if 0 < d.line then some ⟨identity base ⟨d.file⟩, d.mark base documents⟩ else none := by
  rw [Diagnostic.place?_desk]
  by_cases hpositive : 0 < d.line
  · have hfile := h.file_ne_empty hpositive
    have hhome : d.home base documents = identity base ⟨d.file⟩ := if_pos hfile
    rw [if_pos ⟨hpositive, .inl hfile⟩, if_pos hpositive, hhome]
  · rw [if_neg fun hplace => hpositive hplace.1, if_neg hpositive]

end Diagnostic

/-! ## Where markers come from -/

namespace Board

variable {b : Board} {base : Option Path} {level : Level} {file : Trail} {m : Marker} {a : Action}
  {d : Diagnostic}

/-- The action is a pass that files the diagnostic at the level and in the file, as the marker. -/
inductive Action.Files (base : Option Path) (d : Diagnostic) (level : Level) (file : Trail)
    (m : Marker) : Action → Prop
  | reconcile {documents : List Document} {found : List Diagnostic} {scope : Scope}
      (mem : d ∈ found) (place : d.HasPlace documents) (home : d.home base documents = file)
      (severity : d.severity.level = level) (mark : d.mark base documents = m) :
      Action.Files base d level file m (.reconcile documents found scope)

/-- A marker after an action was there before, or the action filed it. -/
theorem mem_markers_act (h : m ∈ (b.act base a).store.markers level file) :
    m ∈ b.store.markers level file ∨ ∃ d, a.Files base d level file m := by
  cases a with
  | reconcile documents found scope =>
    rcases mem_markers_reconcile h with hold | ⟨d, hd, hplace, hhome, hlevel, hmark⟩
    · exact .inl hold
    · exact .inr ⟨d, .reconcile hd hplace hhome hlevel hmark⟩
  | clear =>
    rw [act, clear, MarkerStore.markers_empty] at h
    cases h
  | clearFile path => exact .inl (MarkerStore.mem_markers_eraseFile h)

theorem mem_markers_foldl_act {actions : List Action}
    (h : m ∈ (actions.foldl (act base) b).store.markers level file) :
    m ∈ b.store.markers level file ∨ ∃ a ∈ actions, ∃ d, a.Files base d level file m := by
  induction actions generalizing b with
  | nil => exact .inl h
  | cons a actions ih =>
    rcases ih h with hnext | ⟨later, hlater, hfiles⟩
    · rcases mem_markers_act hnext with hold | hfiles
      · exact .inl hold
      · exact .inr ⟨a, List.mem_cons_self, hfiles⟩
    · exact .inr ⟨later, List.mem_cons_of_mem a hlater, hfiles⟩

/-- **Every marker of a session was filed by one of its passes.** -/
theorem exists_files_of_mem_run {actions : List Action}
    (h : m ∈ (run base actions).store.markers level file) :
    ∃ a ∈ actions, ∃ d, a.Files base d level file m := by
  rcases mem_markers_foldl_act h with hempty | hfiles
  · rw [empty, MarkerStore.markers_empty] at hempty
    cases hempty
  · exact hfiles

theorem Action.Files.message_eq (h : a.Files base d level file m) : m.message = d.message := by
  obtain ⟨-, -, -, -, rfl⟩ := h
  rfl

end Board

/-! ## How markers are shown -/

/-- A line feed in what is shown of a marker is one of its path or of its message. -/
theorem Marker.newline_mem_render_iff {m : Marker} {path : Path} : '\n' ∈ (m.render path).toList ↔
    '\n' ∈ path.text.toList ∨ '\n' ∈ m.message.toList := by
  have hnumber (n : Nat) : '\n' ∉ Nat.toDigits 10 n := fun hmem =>
    absurd (Nat.isDigit_of_mem_toDigits (by decide) (by decide) hmem) (by decide)
  have hlabel : '\n' ∉ m.level.label.toList := by cases m.level <;> decide
  have hrender : m.render path = path.text ++ ":" ++ toString (m.line + 1) ++ ":" ++
      toString (m.startColumn + 1) ++ ": " ++ m.level.label ++ ": " ++ m.message := rfl
  simp [hrender, hnumber, hlabel]

/-- **What a report can say, and what becomes of it.** Each diagnostic of a report is well formed, on
a line of its own and in the order of the lines. None has a line without a file, so each is placed
by what it says itself, whatever documents are open. Every marker that is in the store at any time of
a session was filed by one of its passes. If that pass had the diagnostic from a report, the message
of the marker has no line feed, and none is shown but those of the path. -/
theorem reported_wellFormed :
    (∀ text,
      List.SublistForall₂ Diagnostic.IsWellFormed (AssemblerReport.parse text) (reportLines text) ∧
      List.SublistForall₂ Diagnostic.IsWellFormed (LinkerReport.parse text) (reportLines text)) ∧
    (∀ d : Diagnostic, d.IsReported → ¬ d.IsStray ∧ ∀ base documents,
      Placement.place? (Placement.desk base documents) d =
        if 0 < d.line then some ⟨identity base ⟨d.file⟩, d.mark base documents⟩ else none) ∧
    (∀ base actions level file m, m ∈ (Board.run base actions).store.markers level file →
      (∃ a ∈ actions, ∃ d, a.Files base d level file m) ∧
      ∀ (a : Board.Action) (d : Diagnostic), a.Files base d level file m → d.IsReported →
        '\n' ∉ m.message.toList ∧
        ∀ path, '\n' ∈ (m.render path).toList ↔ '\n' ∈ path.text.toList) := by
  refine ⟨fun text => ⟨AssemblerReport.wellFormed_parse text, LinkerReport.wellFormed_parse text⟩,
    fun d hd => ⟨hd.not_isStray, hd.place?_desk⟩, ?_⟩
  intro base actions level file m hm
  refine ⟨Board.exists_files_of_mem_run hm, fun a d hfiles hd => ?_⟩
  have hmessage : '\n' ∉ m.message.toList := by
    rw [hfiles.message_eq]
    exact hd.message_newline
  refine ⟨hmessage, fun path => ?_⟩
  rw [Marker.newline_mem_render_iff, or_iff_left hmessage]

/-- A message that goes on over an indented line, a line number in other digits than those of ASCII,
and a carriage return inside of a line. -/
theorem reported_wellFormed_wrapped :
    let text := ("error 1: no\r\n _x.\r\nwarning 5 in line ٣ of \"b\": lost\n" ++
      "warning 5 in line 2 of \"a.s\": p\rq").toList
    let wrapped : Diagnostic := .unlocated "error 1: no _x." .error
    let placed : Diagnostic := .located "a.s" 2 "warning 5: p\rq" .warning
    let pass : Board.Action := .reconcile [] (LinkerReport.parse text) .both
    let m : Marker := ⟨1, 0, 1, "warning 5: p\rq", .warning⟩
    let file : Trail := [.root, .name "p", .name "a.s"]
    LinkerReport.parse text = [wrapped, placed] ∧
    wrapped.IsReported ∧ placed.IsReported ∧
    m ∈ (Board.run (some ⟨"/p"⟩) [pass]).store.markers .warning file ∧
    pass.Files (some ⟨"/p"⟩) placed .warning file m ∧
    ¬ wrapped.IsStray ∧ ¬ placed.IsStray ∧
    '\n' ∉ m.message.toList ∧ '\n' ∉ (m.render file.path).toList := by
  intro text wrapped placed pass m file
  have hparse : LinkerReport.parse text = [wrapped, placed] := by decide +kernel
  have hall : ∀ d ∈ [wrapped, placed], d.IsReported := hparse ▸ fun d hd => .read (.inr hd)
  have hwrapped : wrapped.IsReported := hall wrapped (by simp)
  have hplaced : placed.IsReported := hall placed (by simp)
  have hm : m ∈ (Board.run (some ⟨"/p"⟩) [pass]).store.markers .warning file := by
    rw [show pass = .reconcile [] [wrapped, placed] .both by rw [← hparse]]
    decide +kernel
  have hfiles : pass.Files (some ⟨"/p"⟩) placed .warning file m :=
    .reconcile (by simp [hparse]) (by decide) (by decide +kernel) rfl (by decide +kernel)
  obtain ⟨-, hstray, hmarkers⟩ := reported_wellFormed
  obtain ⟨-, hshown⟩ := hmarkers _ _ _ _ _ hm
  obtain ⟨hmessage, hrender⟩ := hshown _ _ hfiles hplaced
  refine ⟨hparse, hwrapped, hplaced, hm, hfiles, (hstray _ hwrapped).1, (hstray _ hplaced).1,
    hmessage, ?_⟩
  rw [hrender]
  decide +kernel

end BuildReport
