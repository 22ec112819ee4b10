import BuildReport.Proofs.IncludeLines
import BuildReport.Proofs.Patterns

/-!
# What becomes of a diagnostic

A line of a document is the one that is looked for if it begins with the directive and the name that
the message brackets, and letter case makes no difference in either. The characters of the name
stand for themselves.

So it can be said of each diagnostic what becomes of it: its line and its file may change, and all
else stays. What has been changed once is not changed again.

- `Include.Directs`: a line begins with the directive and the name.
- `directs_iff`: these are the lines that are found.
- `Diagnostic.IsResolved`: what becomes of a diagnostic.
- `resolved_exactly`: what becomes of all of them.
-/

namespace BuildReport

open Text

/-! ## The lines that begin with the directive -/

namespace Include

/-- The line begins with the directive and the name: blanks or none, the word, one blank or more, a
quote, and the name. Letter case makes no difference. -/
def Directs (line name : List Char) : Prop :=
  ∃ lead word gap t rest, line = lead ++ (word ++ (gap ++ '"' :: (t ++ rest))) ∧
    (∀ c ∈ lead, isBlank c = true) ∧ word.map fold = "include".toList.map fold ∧
    gap ≠ [] ∧ (∀ c ∈ gap, isBlank c = true) ∧ t.map fold = name.map fold

end Include

namespace Text

/-- Among the ASCII characters the capital letters are the only ones that fold. -/
theorem fold_of_ascii {c : Char} (h : c.toNat < 128) : fold c = c.toLower := by
  have hruns : ∀ run ∈ foldRuns, 128 ≤ run.first ∨
      run.first = 0x41 ∧ run.last = 0x5A ∧ run.target = 0x61 := by decide +kernel
  have hletters : ∀ k < 26, Char.ofNat (0x61 + k) = (Char.ofNat (0x41 + k)).toLower := by
    decide +kernel
  unfold fold
  split
  · next run hrun =>
    have hcovers := List.find?_some hrun
    simp only [FoldRun.covers, Bool.and_eq_true, decide_eq_true_eq] at hcovers
    rcases hruns run (List.mem_of_find?_eq_some hrun) with hfirst | ⟨hfirst, hlast, htarget⟩
    · omega
    · rw [hfirst, htarget, hletters _ (by omega), Nat.add_sub_cancel' (by omega), Char.ofNat_toNat]
  · next hnone =>
    -- the letters themselves would have been found
    have hcapitals := List.find?_eq_none.mp hnone ⟨0x41, 0x5A, 1, 0x61⟩ List.mem_cons_self
    simp only [FoldRun.covers, Nat.mod_one, beq_self_eq_true, Bool.and_true, Bool.and_eq_true,
      decide_eq_true_eq] at hcapitals
    exact (toLower_of_not_capital hcapitals).symm

/-- Outside ASCII, what folds to a character of ASCII folds to one of two letters. -/
theorem fold_of_not_ascii {c : Char} (h : 128 ≤ c.toNat) (hzero : (fold c).toNat ≠ 0) :
    128 ≤ (fold c).toNat ∨ (fold c).toNat = 0x6B ∨ (fold c).toNat = 0x73 := by
  have hruns : ∀ run ∈ foldRuns, run.last < 128 ∨ 128 ≤ run.target ∨
      run.first = run.last ∧ (run.target = 0x6B ∨ run.target = 0x73) := by decide +kernel
  revert hzero
  unfold fold
  split
  · next run hrun =>
    intro hzero
    have hcovers := List.find?_some hrun
    simp only [FoldRun.covers, Bool.and_eq_true, decide_eq_true_eq] at hcovers
    have hcode := (toNat_ofNat (run.target + (c.toNat - run.first))).resolve_right hzero
    rw [hcode]
    rcases hruns run (List.mem_of_find?_eq_some hrun) with hlast | htarget | ⟨hone, htarget⟩
    · omega
    · omega
    · omega
  · exact fun _ => .inl h

/-- For the letters of the directive, the case of ASCII letters is all the case there is. -/
theorem sameAsciiLetter_iff_fold {w c : Char} (hw : w ∈ "include".toList) :
    sameAsciiLetter w c = true ↔ fold c = fold w := by
  have hall : ∀ w ∈ "include".toList, w.toNat < 128 ∧ w.toLower.toNat < 128 ∧
      w.toLower.toNat ≠ 0 ∧ w.toLower.toNat ≠ 0x6B ∧ w.toLower.toNat ≠ 0x73 := by
    simp
  obtain ⟨hascii, hlower, hzero, hk, hs⟩ := hall w hw
  rw [fold_of_ascii hascii, sameAsciiLetter, beq_iff_eq, eq_comm]
  by_cases hc : c.toNat < 128
  · rw [fold_of_ascii hc]
  · rw [Nat.not_lt] at hc
    rw [toLower_of_not_capital (by omega)]
    refine iff_of_false ?_ fun hfold => ?_
    · rintro rfl
      omega
    · have hcode := fold_of_not_ascii hc (hfold ▸ hzero)
      rw [hfold] at hcode
      omega

theorem is_word_iff {word t : List Char} (hword : ∀ w ∈ word, w ∈ "include".toList) :
    (Piece.word word).Is t ↔ t.map fold = word.map fold := by
  show List.Forall₂ _ word t ↔ _
  induction word generalizing t with
  | nil => rw [List.forall₂_nil_left_iff, List.map_nil, List.map_eq_nil_iff]
  | cons w word ih =>
    obtain ⟨hw, hword⟩ := List.forall_mem_cons.mp hword
    cases t with
    | nil => simp
    | cons c t =>
      rw [List.forall₂_cons, ih hword, sameAsciiLetter_iff_fold hw, List.map_cons, List.map_cons,
        List.cons.injEq]

end Text

namespace Include

variable {line name : List Char}

/-- What is read behind the opening quote stands behind the pieces of the directive. -/
theorem quoted?_eq_some_iff {s : List Char} : quoted? line = some s ↔
    Reads [.gap, .word "include".toList, .blanks, .mark ['"']] line s := by
  have hword {ps} : Avoids isBlank (.word "include".toList :: ps) := avoids_word (by decide)
  have hquote : Avoids isBlank [.mark ['"']] := avoids_mark (by decide)
  rw [reads_gap_iff hword, reads_word_iff]
  simp only [quoted?, Option.bind_eq_bind, Option.bind_eq_some_iff, reads_blanks_iff hquote,
    reads_mark_iff]
  constructor
  · rintro ⟨more, hread, rest, hblanks, hmark⟩
    exact ⟨more, hread, rest, hblanks, s, eq_append_of_afterWord hmark, rfl⟩
  · rintro ⟨more, hread, rest, hblanks, _, rfl, rfl⟩
    exact ⟨more, hread, _, hblanks, afterWord_append ['"'] _⟩

/-- **The lines that are found** are those that begin with the directive and the name. -/
theorem directs_iff : opens name line = true ↔ Directs line name := by
  have hletters {t} : (Piece.word "include".toList).Is t ↔ t.map fold = "include".toList.map fold :=
    is_word_iff fun _ => id
  rw [opens, Option.any_eq_true]
  constructor
  · rintro ⟨s, hquoted, hstarts⟩
    obtain ⟨t, rest, rfl, hname⟩ := startsWithName_iff.mp hstarts
    obtain ⟨lead, _, rfl, hlead, word, _, rfl, hword, gap, _, rfl, ⟨hne, hgap⟩, _, _, rfl, rfl,
      rfl⟩ := quoted?_eq_some_iff.mp hquoted
    exact ⟨lead, word, gap, t, rest, rfl, hlead, hletters.mp hword, hne, hgap, hname⟩
  · rintro ⟨lead, word, gap, t, rest, rfl, hlead, hword, hne, hgap, hname⟩
    refine ⟨t ++ rest, quoted?_eq_some_iff.mpr ?_, startsWithName_iff.mpr ⟨t, rest, rfl, hname⟩⟩
    exact ⟨lead, _, rfl, hlead, word, _, rfl, hletters.mpr hword, gap, _, rfl, ⟨hne, hgap⟩,
      ['"'], _, rfl, rfl, rfl⟩

end Include

namespace Document

variable {document : Document} {name : List Char} {k : Nat}

/-- The line with this number, counted from zero, begins with the directive and the name. -/
def DirectsAt (document : Document) (name : List Char) (k : Nat) : Prop :=
  ∃ line, document.line? k = some line ∧ Include.Directs line.toList name

theorem opensAt_iff_directsAt : document.OpensAt name k ↔ document.DirectsAt name k := by
  simp only [OpensAt, DirectsAt, Include.directs_iff]

end Document

namespace Diagnostic

variable {document : Document} {d : Diagnostic} {k : Nat}

/-! ## What becomes of a diagnostic -/

/-- **What becomes of a diagnostic** that is resolved in a document. -/
structure IsResolved (document : Document) (d r : Diagnostic) : Prop where
  message : r.message = d.message
  column : r.column = d.column
  severity : r.severity = d.severity
  /-- The file is changed where there is none, to the document. -/
  file : r.file = if d.file = "" then document.path.text else d.file
  /-- The line is changed where there is none and the message brackets a name, to the first line
  that begins with the directive and this name. -/
  moved : ∀ name k, d.line ≤ 0 → Include.Names d.message.toList name → document.DirectsAt name k →
    (∀ j < k, ¬ document.DirectsAt name j) → r.line = (k : Int) + 1
  /-- It is changed only there. -/
  kept : r.line ≠ d.line → d.line ≤ 0 ∧ ∃ name k, Include.Names d.message.toList name ∧
    document.DirectsAt name k

theorem includedAt?_eq_some_iff : d.includedAt? document = some k ↔
    ∃ name, Include.Names d.message.toList name ∧ document.DirectsAt name k ∧
      ∀ j < k, ¬ document.DirectsAt name j := by
  simp only [includedAt?, Option.bind_eq_some_iff, Include.names_iff,
    Document.includeLine?_eq_some_iff, Document.opensAt_iff_directsAt]

theorem isResolved_anchor (document : Document) (d : Diagnostic) :
    IsResolved document d (d.anchor document) where
  message := rfl
  column := rfl
  severity := rfl
  file := rfl
  moved := by
    intro name k hline hnames hk hfirst
    have hglobal : d.isGlobal = true := by simpa [isGlobal] using hline
    rw [anchor_line_of_global hglobal, includedAt?_eq_some_iff.mpr ⟨name, hnames, hk, hfirst⟩]
  kept := by
    intro hne
    obtain ⟨hglobal, k, hk⟩ := anchor_line_ne_iff.mp hne
    obtain ⟨name, hnames, hdirects, -⟩ := includedAt?_eq_some_iff.mp hk
    exact ⟨by simpa [isGlobal] using hglobal, name, k, hnames, hdirects⟩

theorem IsResolved.line_eq {r : Diagnostic} (h : IsResolved document d r) :
    r.line = (d.anchor document).line := by
  by_cases hne : (d.anchor document).line = d.line
  · -- had the line been changed, there would have been one to change it to
    by_contra hchanged
    obtain ⟨hline, name, k, hnames, hk⟩ := h.kept (hne ▸ hchanged)
    obtain ⟨j, -, hj⟩ :=
      Document.exists_includeLine?_of_opensAt (Document.opensAt_iff_directsAt.mpr hk)
    refine anchor_line_ne_iff.mpr ⟨by simpa [isGlobal] using hline, j, ?_⟩ hne
    rw [includedAt?, Include.names_iff.mpr hnames, Option.bind_some, hj]
  · obtain ⟨hglobal, k, hk⟩ := anchor_line_ne_iff.mp hne
    obtain ⟨name, hnames, hdirects, hfirst⟩ := includedAt?_eq_some_iff.mp hk
    have hline : d.line ≤ 0 := by simpa [isGlobal] using hglobal
    rw [h.moved name k hline hnames hdirects hfirst, anchor_line_of_global hglobal, hk]

/-- **Nothing else can become of a diagnostic.** -/
theorem IsResolved.eq_anchor {r : Diagnostic} (h : IsResolved document d r) :
    r = d.anchor document := by
  obtain ⟨file, line, column, message, severity⟩ := r
  obtain rfl := h.message
  obtain rfl := h.column
  obtain rfl := h.severity
  obtain rfl := h.file
  obtain rfl := h.line_eq
  rfl

/-- A diagnostic that is moved is moved to a line of the document. -/
theorem anchor_line_mem (hne : (d.anchor document).line ≠ d.line) :
    1 ≤ (d.anchor document).line ∧ (d.anchor document).line ≤ document.lineCount := by
  obtain ⟨hglobal, k, hk⟩ := anchor_line_ne_iff.mp hne
  obtain ⟨name, -, hk'⟩ := Option.bind_eq_some_iff.mp hk
  have hlt := Document.includeLine?_lt hk'
  rw [anchor_line_of_global hglobal, hk]
  show 1 ≤ (k : Int) + 1 ∧ (k : Int) + 1 ≤ document.lineCount
  omega

/-- **What has been resolved once is not changed again.** -/
theorem anchor_anchor (document : Document) (d : Diagnostic) :
    (d.anchor document).anchor document = d.anchor document := by
  refine (IsResolved.eq_anchor ?_).symm
  have hfirst := isResolved_anchor document d
  refine ⟨rfl, rfl, rfl, ?_, ?_, fun hne => absurd rfl hne⟩
  · by_cases hfile : (d.anchor document).file = ""
    · rw [if_pos hfile, anchor_file]
      by_cases hd : d.file = ""
      · rw [if_pos hd]
      · rw [anchor_file, if_neg hd] at hfile
        exact absurd hfile hd
    · rw [if_neg hfile]
  · -- what has no line now had none before, and would have got this one
    intro name k hline hnames
    refine hfirst.moved name k ?_ hnames
    by_contra hlocated
    rw [anchor_line_of_not_isGlobal (by simpa [isGlobal] using hlocated)] at hline
    exact hlocated hline

/-- **What becomes of all diagnostics** that are resolved in a document, in their order: of each
what is said of it, and nothing else. A line that is changed is one of the document. What has been
resolved once is not changed again. -/
theorem resolved_exactly (document : Document) (found : List Diagnostic) :
    let resolved := found.map (Diagnostic.anchor document)
    List.Forall₂ (IsResolved document) found resolved ∧
    (∀ other, List.Forall₂ (IsResolved document) found other → other = resolved) ∧
    (∀ d ∈ found, (d.anchor document).line ≠ d.line →
      1 ≤ (d.anchor document).line ∧ (d.anchor document).line ≤ document.lineCount) ∧
    resolved.map (Diagnostic.anchor document) = resolved := by
  refine ⟨?_, ?_, fun _ _ => anchor_line_mem, ?_⟩
  · rw [List.forall₂_map_right_iff, List.forall₂_same]
    exact fun d _ => isResolved_anchor document d
  · intro other h
    induction h with
    | nil => rfl
    | cons hd _ ih => rw [List.map_cons, hd.eq_anchor, ih]
  · rw [List.map_map]
    exact List.map_congr_left fun d _ => anchor_anchor document d

end Diagnostic

end BuildReport
