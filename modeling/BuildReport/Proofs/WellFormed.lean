import BuildReport.Proofs.Columns
import BuildReport.Proofs.Messages
import BuildReport.Proofs.Output

/-!
# What can be read from a line

A tool may print anything, but not every diagnostic can be read from what it prints. What names a
file has the number that was printed for its line, and what names none is an error without a line.
A message stays on one line even where it was carried on over several.

- `Text.PrintsPlace`: a line of text in which a line number and a file are printed.
- `Diagnostic.IsWellFormed`: what holds of a diagnostic that was read from a line.
- `AssemblerReport.wellFormed_parse`, `LinkerReport.wellFormed_parse`: it holds of all that reports
  say, each on a line of its own.
-/

namespace BuildReport

open Text

/-! ## Places -/

namespace Text

/-- The pieces of a place: a line number in these digits, and this file. -/
def placePieces (digits file : List Char) : List Piece :=
  [.word "in".toList, .blanks, .word "line".toList, .blanks, .mark digits, .blanks,
    .word "of".toList, .blanks, .mark ['"'], .mark file, .mark ['"', ':']]

/-- Somewhere on the line a place is printed. -/
def PrintsPlace (line digits file : List Char) : Prop :=
  ∃ s after, s <:+ line ∧ Reads (placePieces digits file) s after

variable {line digits file s rest : List Char} {ps : List Piece}

theorem PrintsPlace.file_isInfix (h : PrintsPlace line digits file) : file <:+: line := by
  obtain ⟨s, after, hs, hreads⟩ := h
  exact (hreads.infix_of_mark (by simp [placePieces])).trans hs.isInfix

theorem reads_blank_cons {b : Char} (hb : isBlank b = true) (h : Reads ps s rest) :
    Reads (.blanks :: ps) (b :: s) rest :=
  ⟨[b], s, rfl, ⟨List.cons_ne_nil b [], by simpa using hb⟩, h⟩

theorem reads_word_append (word : List Char) (h : Reads ps s rest) :
    Reads (.word word :: ps) (word ++ s) rest :=
  reads_word_iff.mpr ⟨s, afterWordAnyCase_append word s, h⟩

theorem reads_mark_append (text : List Char) (h : Reads ps s rest) :
    Reads (.mark text :: ps) (text ++ s) rest :=
  reads_mark_iff.mpr ⟨s, rfl, h⟩

/-- Fixed text has no character that its line does not have. -/
theorem Reads.not_mem_of_mark {c : Char} {text : List Char} (h : Reads ps s rest) (hs : s <:+ line)
    (hc : c ∉ line) (hmark : .mark text ∈ ps) : c ∉ text :=
  fun hmem => hc (((h.infix_of_mark hmark).trans hs.isInfix).subset hmem)

/-! ## Trimming -/

theorem trimEnd_isPrefix (s : List Char) : trimEnd s <+: s :=
  ⟨_, trimEnd_append_blanks s⟩

theorem trimStart_isSuffix (s : List Char) : trimStart s <:+ s :=
  List.dropWhile_suffix isBlank

theorem trim_subset (s : List Char) : trim s ⊆ s :=
  List.Subset.trans (trimEnd_isPrefix (trimStart s)).subset (trimStart_isSuffix s).subset

/-- What is left of the text that follows has no character that the line does not have. -/
theorem Reads.not_mem_trimStart {c : Char} (h : Reads ps s rest) (hs : s <:+ line)
    (hc : c ∉ line) : c ∉ trimStart rest :=
  fun hmem => hc (((trimStart_isSuffix rest).trans (h.suffix.trans hs)).subset hmem)

/-- A text is not trimmed away if it has a character that is no blank. -/
theorem trimEnd_ne_nil {c : Char} (hc : c ∈ s) (hblank : isBlank c = false) : trimEnd s ≠ [] := by
  intro hnil
  have hall := List.dropWhile_eq_nil_iff.mp (List.reverse_eq_nil_iff.mp hnil)
  rw [hall c (List.mem_reverse.mpr hc)] at hblank
  cases hblank

end Text

/-! ## Diagnostics of a line -/

namespace Diagnostic

/-- What holds of a diagnostic that was read from the line. -/
structure IsWellFormed (d : Diagnostic) (line : List Char) : Prop where
  column : d.column = 0
  range : 0 ≤ d.line ∧ d.line ≤ maxLineNumber
  message : d.message ≠ ""
  message_newline : '\n' ∉ d.message.toList
  file_newline : '\n' ∉ d.file.toList
  /-- What names no file is an error without a line. -/
  unlocated : d.file = "" → d.line = 0 ∧ d.severity = .error
  /-- What names a file has the number that was printed beside it, in digits. -/
  located : d.file ≠ "" → ∃ digits, digits ≠ [] ∧ (∀ c ∈ digits, c.isDigit = true) ∧
    d.line = Nat.ofDigitChars 10 digits 0 ∧ PrintsPlace line digits d.file.toList

variable {line digits file message : List Char} {severity : Severity}

theorem isWellFormed_unlocated (hne : message ≠ []) (hnewline : '\n' ∉ message) :
    (unlocated (String.ofList message) .error).IsWellFormed line where
  column := rfl
  range := ⟨Int.le_refl 0, Int.natCast_nonneg maxLineNumber⟩
  message := by simpa [unlocated] using hne
  message_newline := by simpa [unlocated] using hnewline
  file_newline := List.not_mem_nil
  unlocated := fun _ => ⟨rfl, rfl⟩
  located := fun h => absurd rfl h

theorem isWellFormed_located (hline : '\n' ∉ line) (hplace : PrintsPlace line digits file)
    (hfile : file ≠ []) (hdigits : digits ≠ []) (hascii : ∀ c ∈ digits, c.isDigit = true)
    (hbound : Nat.ofDigitChars 10 digits 0 ≤ maxLineNumber) (hne : message ≠ [])
    (hnewline : '\n' ∉ message) :
    (located (String.ofList file) (Nat.ofDigitChars 10 digits 0) (String.ofList message)
      severity).IsWellFormed line where
  column := rfl
  range := ⟨Int.natCast_nonneg _, Int.ofNat_le.mpr hbound⟩
  message := by simpa [located] using hne
  message_newline := by simpa [located] using hnewline
  file_newline := by
    have hmem : '\n' ∉ file := fun hmem => hline (hplace.file_isInfix.subset hmem)
    simpa [located] using hmem
  unlocated := fun h => absurd (String.ofList_eq_empty_iff.mp h) hfile
  located := fun _ => ⟨digits, hdigits, hascii, rfl, by simpa [located] using hplace⟩

end Diagnostic

/-! ## What an assembler's report says -/

namespace AssemblerReport

variable {line s after : List Char} {f : Located} {d : Diagnostic}

/-- The place of a diagnostic in the located form stands behind its code. -/
theorem Located.Fits.reads_place (h : f.Fits s after) :
    Reads ([.mark f.kind, .blanks, .mark f.code, .blanks] ++ placePieces f.line f.file) s after := by
  obtain ⟨-, -, -, -, _, _, _, _, _, _, h₁, h₂, h₃, h₄, h₅, h₆, rfl⟩ := h
  refine reads_mark_append _ (reads_blank_cons h₁ (reads_mark_append _ (reads_blank_cons h₂ ?_)))
  refine reads_word_append _ (reads_blank_cons h₃ (reads_word_append _ (reads_blank_cons h₄ ?_)))
  refine reads_mark_append _ (reads_blank_cons h₅ (reads_word_append _ (reads_blank_cons h₆ ?_)))
  exact reads_mark_append ['"'] (reads_mark_append f.file (reads_mark_append ['"', ':'] rfl))

/-- What a line says is well formed. -/
theorem isWellFormed_of_ofLine? (hline : '\n' ∉ line) (h : ofLine? line = some d) :
    d.IsWellFormed line := by
  unfold ofLine? at h
  split at h
  · next f hfind =>
    obtain ⟨before, s, rfl, hread, -⟩ := search_eq_some_iff.mp hfind
    obtain ⟨after, hfits, hrest⟩ := located?_eq_some hread
    obtain ⟨n, hn, rfl⟩ := Option.map_eq_some_iff.mp h
    obtain ⟨hascii, rfl, hbound⟩ := (lineNumber?_eq_some_iff hfits.line.1).mp hn
    obtain ⟨middle, hstart, hplace⟩ := reads_append_iff.mp hfits.reads_place
    have hs : s <:+ before ++ s := List.suffix_append before s
    have hkind : '\n' ∉ f.kind := hstart.not_mem_of_mark hs hline (by simp)
    have hcode : '\n' ∉ f.code := hstart.not_mem_of_mark hs hline (by simp)
    have hrest : '\n' ∉ f.rest := hrest ▸ hplace.not_mem_trimStart (hstart.suffix.trans hs) hline
    exact Diagnostic.isWellFormed_located hline ⟨middle, after, hstart.suffix.trans hs, hplace⟩
      hfits.file hfits.line.1 hascii hbound (by simp) (by simp [hkind, hcode, hrest])
  · split at h
    · next herror =>
      cases h
      obtain ⟨before, s, rfl, hs⟩ := hasUnlocated_iff.mp herror
      have hne : before ++ s ≠ [] := by
        have hlen := hs.length_lt
        exact List.ne_nil_of_length_pos (by rw [List.length_append]; omega)
      exact Diagnostic.isWellFormed_unlocated hne hline
    · cases h

/-- **What an assembler's report says is well formed**, each diagnostic on a line of its own. -/
theorem wellFormed_parse (text : List Char) :
    List.SublistForall₂ Diagnostic.IsWellFormed (parse text) (reportLines text) := by
  have hlines : ∀ line ∈ reportLines text, '\n' ∉ line := fun _ => no_newline_of_mem_reportLines
  rw [parse]
  -- by induction on the lines, where a line that says nothing is passed over
  generalize reportLines text = lines at hlines ⊢
  induction lines with
  | nil => exact .nil
  | cons line lines ih =>
    obtain ⟨hline, hlines⟩ := List.forall_mem_cons.mp hlines
    rw [List.filterMap_cons]
    split
    · exact .cons_right (ih hlines)
    · next d hd =>
      refine .cons ?_ (ih hlines)
      split at hd
      · cases hd
      · exact isWellFormed_of_ofLine? hline hd

end AssemblerReport

/-! ## What a linker's report says -/

namespace LinkerReport

variable {line : List Char} {d : Diagnostic}

/-- The place of a located warning stands behind its code. -/
theorem Located.Fits.reads_place {f : Located} {s after : List Char} (h : f.Fits s after) :
    Reads ([.word "warning".toList, .blanks, .mark f.code, .blanks] ++ placePieces f.line f.file)
      s after :=
  h.reads

/-- What a header opens is well formed. -/
theorem IsHeader.isWellFormed (h : IsHeader line d) (hline : '\n' ∉ line) :
    d.IsWellFormed line := by
  cases h with
  | @located f before s after hstands hascii hbound =>
    have hs : s <:+ line := ⟨before, hstands.place.symm⟩
    obtain ⟨middle, hstart, hplace⟩ := reads_append_iff.mp hstands.fits.reads_place
    have hcode : '\n' ∉ f.code := hstart.not_mem_of_mark hs hline (by simp)
    have hrest : '\n' ∉ f.rest :=
      hstands.rest ▸ hplace.not_mem_trimStart (hstart.suffix.trans hs) hline
    exact Diagnostic.isWellFormed_located hline ⟨middle, after, hstart.suffix.trans hs, hplace⟩
      hstands.fits.file hstands.fits.line.1 hascii hbound (by simp) (by simp [hcode, hrest])
  | unlocated _ hplace herror =>
    -- the word of the error is left when the blanks at the end are taken off
    obtain ⟨-, rest, t, more, rfl, ht, -⟩ := herror
    obtain ⟨c, u, hsame, -, rfl⟩ := List.forall₂_cons_left_iff.mp ht
    have hc : c ∈ line := by simp [hplace]
    refine Diagnostic.isWellFormed_unlocated ?_ ?_
    · exact trimEnd_ne_nil hc (isBlank_of_sameAsciiLetter (by decide) hsame)
    · exact fun hmem => hline ((trimEnd_isPrefix line).subset hmem)

/-- A message that is carried on over further lines is still well formed on its own line. -/
theorem isWellFormed_carried {lines : List (List Char)} (h : d.IsWellFormed line)
    (hlines : ∀ l ∈ lines, '\n' ∉ l) : (carried d lines).IsWellFormed line where
  column := h.column
  range := h.range
  message := by
    intro hempty
    rw [carried, String.append_eq_empty_iff] at hempty
    exact h.message hempty.1
  message_newline := by
    have htrim : ∀ l ∈ lines, '\n' ∉ trim l := fun l hl hmem => hlines l hl (trim_subset l hmem)
    simpa [carried, h.message_newline] using htrim
  file_newline := h.file_newline
  unlocated := h.unlocated
  located := h.located

/-- **What a linker's report says is well formed**, each diagnostic on a line of its own. -/
theorem wellFormed_parse (text : List Char) :
    List.SublistForall₂ Diagnostic.IsWellFormed (parse text) (reportLines text) := by
  have hlines : ∀ line ∈ reportLines text, '\n' ∉ line := fun _ => no_newline_of_mem_reportLines
  rw [parse_eq]
  -- a header takes the lines behind it into its message, which are without a line feed as well
  generalize reportLines text = lines at hlines ⊢
  induction lines with
  | nil => exact .nil
  | cons line lines ih =>
    obtain ⟨hline, hlines⟩ := List.forall_mem_cons.mp hlines
    rw [List.tails_cons, List.filterMap_cons, message?]
    cases hheader : header? line with
    | none => exact .cons_right (ih hlines)
    | some d =>
      refine .cons ?_ (ih hlines)
      refine isWellFormed_carried ((header?_eq_some_iff.mp hheader).isWellFormed hline) ?_
      exact fun l hl => hlines l ((List.takeWhile_sublist _).subset hl)

end LinkerReport

/-! ## What either report says -/

theorem exists_of_mem_sublistForall₂ {α β : Type} {R : α → β → Prop} {s : List α} {t : List β}
    (h : List.SublistForall₂ R s t) {a : α} (ha : a ∈ s) : ∃ b ∈ t, R a b := by
  induction h with
  | nil => cases ha
  | cons hfirst _ ih =>
    rcases List.mem_cons.mp ha with rfl | ha
    · exact ⟨_, List.mem_cons_self, hfirst⟩
    · obtain ⟨b, hb, hrel⟩ := ih ha
      exact ⟨b, List.mem_cons_of_mem _ hb, hrel⟩
  | cons_right _ ih =>
    obtain ⟨b, hb, hrel⟩ := ih ha
    exact ⟨b, List.mem_cons_of_mem _ hb, hrel⟩

namespace Diagnostic

variable {text : List Char} {d : Diagnostic}

theorem exists_isWellFormed (h : d ∈ AssemblerReport.parse text ∨ d ∈ LinkerReport.parse text) :
    ∃ line ∈ reportLines text, d.IsWellFormed line := by
  rcases h with h | h
  · exact exists_of_mem_sublistForall₂ (AssemblerReport.wellFormed_parse text) h
  · exact exists_of_mem_sublistForall₂ (LinkerReport.wellFormed_parse text) h

/-- What has a line names a file. -/
theorem IsWellFormed.file_ne_empty {line : List Char} (h : d.IsWellFormed line)
    (hpositive : 0 < d.line) : d.file ≠ "" := by
  intro hfile
  have hzero := (h.unlocated hfile).1
  omega

end Diagnostic

end BuildReport
