import BuildReport.Proofs.Patterns
import BuildReport.Report.Linker

/-!
# The lines that open a message

A linker's report is searched for located warnings and for errors, both of which are patterns. The
readers find a reading of the pattern if there is one. Of several they take the first place in the
line, and there the longest file name.

- `Located.Fits`: the text starts with a located warning of these fields.
- `located?_eq_some_iff`, `unlocated?_isSome_iff`: what the two readers find.
- `LinkerReport.IsHeader`: the lines that open a message, and the diagnostics they open.
- `header?_eq_some_iff`: the lines that are read as such are these.
-/

namespace BuildReport

namespace LinkerReport

open Text

/-! ## Located warnings -/

/-- The pieces of a located warning with this code and this line, up to the file name. -/
def warningPieces (code line : List Char) : List Piece :=
  [.word "warning".toList, .blanks, .mark code, .blanks, .word "in".toList, .blanks,
    .word "line".toList, .blanks, .mark line, .blanks, .word "of".toList, .blanks, .mark ['"']]

/-- The text starts with a located warning of this code, line and file, and `after` follows. -/
structure Located.Fits (f : Located) (s after : List Char) : Prop where
  code : IsDigits f.code
  line : IsDigits f.line
  file : f.file ≠ []
  reads : Reads (warningPieces f.code f.line ++ [.mark f.file, .mark ['"', ':']]) s after

variable {f : Located} {previous : Option Char} {s after : List Char}

theorem guard_eq_some_iff {b : Bool} : (guard (b = true) : Option Unit) = some () ↔ b = true := by
  cases b with
  | true => exact iff_of_true rfl rfl
  | false => exact iff_of_false nofun nofun

theorem located?_eq_some_iff : located? previous s = some f ↔
    wordStarts previous = true ∧ ∃ after, f.Fits s after ∧ ¬ ['"', ':'] <:+: after ∧
      f.rest = trimStart after := by
  have hin {ps} : Avoids isBlank (.word "in".toList :: ps) := avoids_word (by decide)
  have hline {ps} : Avoids isBlank (.word "line".toList :: ps) := avoids_word (by decide)
  have hof {ps} : Avoids isBlank (.word "of".toList :: ps) := avoids_word (by decide)
  have hquote {ps} : Avoids isBlank (.mark ['"'] :: ps) := avoids_mark (by decide)
  constructor
  · intro h
    obtain ⟨⟨⟩, hstart, h⟩ := Option.bind_eq_some_iff.mp h
    simp only [Option.bind_eq_bind, Option.bind_eq_some_iff, Option.pure_def,
      Option.some.injEq] at h
    obtain ⟨s₁, h₁, s₂, h₂, ⟨code, s₃⟩, h₃, s₄, h₄, s₅, h₅, s₆, h₆, s₇, h₇, s₈, h₈,
      ⟨line, s₉⟩, h₉, s₁₀, h₁₀, s₁₁, h₁₁, s₁₂, h₁₂, s₁₃, h₁₃, ⟨file, after⟩, h₁₄, rfl⟩ := h
    obtain ⟨rfl, hcode⟩ := digits?_eq_some h₃
    obtain ⟨rfl, hnumber⟩ := digits?_eq_some h₉
    obtain ⟨rfl, hfile, hlast⟩ := quotedName?_eq_some h₁₄
    obtain rfl := eq_append_of_afterWord h₁₃
    refine ⟨guard_eq_some_iff.mp hstart, after, ⟨hcode, hnumber, hfile, ?_⟩, hlast, rfl⟩
    refine reads_word_iff.mpr ⟨s₁, h₁, ?_⟩
    refine (reads_blanks_iff (avoids_mark_digits hcode)).mpr ⟨_, h₂, ?_⟩
    refine reads_mark_iff.mpr ⟨s₃, rfl, ?_⟩
    refine (reads_blanks_iff hin).mpr ⟨s₄, h₄, ?_⟩
    refine reads_word_iff.mpr ⟨s₅, h₅, ?_⟩
    refine (reads_blanks_iff hline).mpr ⟨s₆, h₆, ?_⟩
    refine reads_word_iff.mpr ⟨s₇, h₇, ?_⟩
    refine (reads_blanks_iff (avoids_mark_digits hnumber)).mpr ⟨_, h₈, ?_⟩
    refine reads_mark_iff.mpr ⟨s₉, rfl, ?_⟩
    refine (reads_blanks_iff hof).mpr ⟨s₁₀, h₁₀, ?_⟩
    refine reads_word_iff.mpr ⟨s₁₁, h₁₁, ?_⟩
    refine (reads_blanks_iff hquote).mpr ⟨_, h₁₂, ?_⟩
    refine reads_mark_iff.mpr ⟨_, rfl, ?_⟩
    refine reads_mark_iff.mpr ⟨'"' :: ':' :: after, rfl, ?_⟩
    exact reads_mark_iff.mpr ⟨after, rfl, rfl⟩
  · rintro ⟨hstart, after, ⟨hcode, hnumber, hfile, r₀⟩, hlast, hrest⟩
    obtain ⟨s₁, h₁, r₁⟩ := reads_word_iff.mp r₀
    obtain ⟨_, h₂, r₂⟩ := (reads_blanks_iff (avoids_mark_digits hcode)).mp r₁
    obtain ⟨s₃, rfl, r₃⟩ := reads_mark_iff.mp r₂
    have h₃ := digits?_append_of_head hcode.1 hcode.2 (avoids_blanks s₃ after r₃)
    obtain ⟨s₄, h₄, r₄⟩ := (reads_blanks_iff hin).mp r₃
    obtain ⟨s₅, h₅, r₅⟩ := reads_word_iff.mp r₄
    obtain ⟨s₆, h₆, r₆⟩ := (reads_blanks_iff hline).mp r₅
    obtain ⟨s₇, h₇, r₇⟩ := reads_word_iff.mp r₆
    obtain ⟨_, h₈, r₈⟩ := (reads_blanks_iff (avoids_mark_digits hnumber)).mp r₇
    obtain ⟨s₉, rfl, r₉⟩ := reads_mark_iff.mp r₈
    have h₉ := digits?_append_of_head hnumber.1 hnumber.2 (avoids_blanks s₉ after r₉)
    obtain ⟨s₁₀, h₁₀, r₁₀⟩ := (reads_blanks_iff hof).mp r₉
    obtain ⟨s₁₁, h₁₁, r₁₁⟩ := reads_word_iff.mp r₁₀
    obtain ⟨_, h₁₂, r₁₂⟩ := (reads_blanks_iff hquote).mp r₁₁
    obtain ⟨_, rfl, r₁₃⟩ := reads_mark_iff.mp r₁₂
    obtain ⟨_, rfl, r₁₄⟩ := reads_mark_iff.mp r₁₃
    obtain ⟨more, rfl, rfl⟩ := reads_mark_iff.mp r₁₄
    have h₁₃ : quotedName? (f.file ++ (['"', ':'] ++ more)) = some (f.file, more) :=
      quotedName?_append hfile hlast
    rw [located?, guard_eq_some_iff.mpr hstart]
    simp only [Option.bind_eq_bind, Option.bind_some, h₁, h₂, h₃, h₄, h₅, h₆, h₇, h₈, h₉, h₁₀, h₁₁,
      h₁₂, afterWord_append, h₁₃, ← hrest]
    rfl

/-! ## Errors -/

/-- The pieces of an error, up to the colon behind its code. -/
def errorPieces : List Piece :=
  [.word "error".toList, .blanks, .digits, .gap, .mark [':']]

theorem unlocated?_isSome_iff : (unlocated? previous s).isSome ↔
    wordStarts previous = true ∧ ∃ rest, Reads errorPieces s rest := by
  have hcolon : Avoids isBlank [.mark [':']] := avoids_mark (by decide)
  have hgap : Avoids isDigit [.gap, .mark [':']] := avoids_gap (avoids_mark (by decide))
  constructor
  · intro h
    obtain ⟨⟨⟩, h⟩ := Option.isSome_iff_exists.mp h
    obtain ⟨⟨⟩, hstart, h⟩ := Option.bind_eq_some_iff.mp h
    simp only [Option.bind_eq_bind, Option.bind_eq_some_iff, Option.pure_def] at h
    obtain ⟨s₁, h₁, s₂, h₂, ⟨code, s₃⟩, h₃, s₄, h₄, -⟩ := h
    obtain ⟨rfl, hcode⟩ := digits?_eq_some h₃
    refine ⟨guard_eq_some_iff.mp hstart, s₄, ?_⟩
    refine reads_word_iff.mpr ⟨s₁, h₁, ?_⟩
    refine (reads_blanks_iff avoids_digits).mpr ⟨_, h₂, ?_⟩
    refine ⟨code, s₃, rfl, hcode, ?_⟩
    refine (reads_gap_iff hcolon).mpr ?_
    exact reads_mark_iff.mpr ⟨s₄, eq_append_of_afterWord h₄, rfl⟩
  · rintro ⟨hstart, rest, r₀⟩
    obtain ⟨s₁, h₁, r₁⟩ := reads_word_iff.mp r₀
    obtain ⟨_, h₂, code, s₃, rfl, hcode, r₂⟩ := (reads_blanks_iff avoids_digits).mp r₁
    have h₃ := digits?_append_of_head hcode.1 hcode.2 (hgap s₃ rest r₂)
    obtain ⟨more, h₄, -⟩ := reads_mark_iff.mp ((reads_gap_iff hcolon).mp r₂)
    rw [unlocated?, guard_eq_some_iff.mpr hstart]
    simp only [Option.bind_eq_bind, Option.bind_some, h₁, h₂, h₃, h₄, afterWord_append]
    rfl

/-! ## Headers -/

/-- A located warning can be read at the place. -/
def LocatedAt (before s : List Char) : Prop :=
  wordStarts before.getLast? = true ∧ ∃ (f : Located) (after : List Char), f.Fits s after

/-- An error can be read at the place. -/
def ErrorAt (before s : List Char) : Prop :=
  wordStarts before.getLast? = true ∧ ∃ rest, Reads errorPieces s rest

/-- The fields of the located warning in a line: it stands at the first place where one can be read,
and its file name is the longest. -/
structure Located.StandsIn (f : Located) (line before s after : List Char) : Prop where
  place : line = before ++ s
  word : wordStarts before.getLast? = true
  fits : f.Fits s after
  longest : ¬ ['"', ':'] <:+: after
  rest : f.rest = trimStart after
  first : ∀ b t, line = b ++ t → b.length < before.length → ¬ LocatedAt b t

/-- The line opens a message. A located warning whose line number is not written in ASCII digits, or
is too large, opens none, whatever else the line may be read as. -/
inductive IsHeader (line : List Char) : Diagnostic → Prop
  | located {f : Located} {before s after : List Char} (h : f.StandsIn line before s after)
      (ascii : ∀ c ∈ f.line, c.isDigit = true)
      (bound : Nat.ofDigitChars 10 f.line 0 ≤ maxLineNumber) :
      IsHeader line (.located (String.ofList f.file) (Nat.ofDigitChars 10 f.line 0)
        (String.ofList ("warning ".toList ++ f.code ++ ':' :: ' ' :: f.rest)) .warning)
  | unlocated (h : ∀ b t, line = b ++ t → ¬ LocatedAt b t) {before s : List Char}
      (place : line = before ++ s) (error : ErrorAt before s) :
      IsHeader line (.unlocated (String.ofList (trimEnd line)) .error)

variable {line before : List Char} {d : Diagnostic}

theorem located?_isSome_iff : (located? before.getLast? s).isSome ↔ LocatedAt before s := by
  rw [Option.isSome_iff_exists, LocatedAt]
  constructor
  · rintro ⟨f, h⟩
    obtain ⟨hstart, after, hfits, -⟩ := located?_eq_some_iff.mp h
    exact ⟨hstart, f, after, hfits⟩
  · rintro ⟨hstart, f, after, ⟨hcode, hnumber, hfile, hreads⟩⟩
    obtain ⟨named, hlead, hname⟩ := reads_append_iff.mp hreads
    obtain ⟨_, rfl, hmark⟩ := reads_mark_iff.mp hname
    obtain ⟨more, rfl, -⟩ := reads_mark_iff.mp hmark
    -- the name that the reader takes may be a longer one
    obtain ⟨⟨name, rest⟩, hread⟩ := exists_quotedName? hfile more
    obtain ⟨heq, hne, hlast⟩ := quotedName?_eq_some hread
    have hfits : (⟨f.code, f.line, name, trimStart rest⟩ : Located).Fits s rest := {
      code := hcode
      line := hnumber
      file := hne
      reads := reads_append_iff.mpr ⟨_, hlead,
        reads_mark_iff.mpr ⟨_, heq, reads_mark_iff.mpr ⟨rest, rfl, rfl⟩⟩⟩ }
    exact ⟨_, located?_eq_some_iff.mpr ⟨hstart, rest, hfits, hlast, rfl⟩⟩

theorem search_located?_eq_none_iff : search located? none line = none ↔
    ∀ b t, line = b ++ t → ¬ LocatedAt b t := by
  rw [search_eq_none_iff]
  refine forall₃_congr fun b t _ => ?_
  rw [← located?_isSome_iff, Option.not_isSome_iff_eq_none]

theorem search_located?_eq_some_iff : search located? none line = some f ↔
    ∃ before s after, f.StandsIn line before s after := by
  rw [search_eq_some_iff]
  have hfirst (b t : List Char) : located? b.getLast? t = none ↔ ¬ LocatedAt b t := by
    rw [← located?_isSome_iff, Option.not_isSome_iff_eq_none]
  constructor
  · rintro ⟨before, s, hplace, hread, hnone⟩
    obtain ⟨hword, after, hfits, hlongest, hrest⟩ := located?_eq_some_iff.mp hread
    exact ⟨before, s, after, hplace, hword, hfits, hlongest, hrest,
      fun b t hb hlt => (hfirst b t).mp (hnone b t hb hlt)⟩
  · rintro ⟨before, s, after, h⟩
    exact ⟨before, s, h.place,
      located?_eq_some_iff.mpr ⟨h.word, after, h.fits, h.longest, h.rest⟩,
      fun b t hb hlt => (hfirst b t).mpr (h.first b t hb hlt)⟩

theorem search_unlocated?_isSome_iff : (search unlocated? none line).isSome ↔
    ∃ b t, line = b ++ t ∧ ErrorAt b t := by
  rw [← Option.ne_none_iff_isSome, ne_eq, search_eq_none_iff]
  push Not
  refine exists₂_congr fun b t => and_congr_right fun _ => ?_
  rw [Option.ne_none_iff_isSome, unlocated?_isSome_iff, ErrorAt]

/-- **The lines that are read as headers are those that open a message.** -/
theorem header?_eq_some_iff : header? line = some d ↔ IsHeader line d := by
  constructor
  · intro h
    unfold header? at h
    split at h
    · next fields hsearch =>
      obtain ⟨before, s, after, hstands⟩ := search_located?_eq_some_iff.mp hsearch
      obtain ⟨n, hn, rfl⟩ := Option.map_eq_some_iff.mp h
      obtain ⟨hascii, rfl, hbound⟩ := (lineNumber?_eq_some_iff hstands.fits.line.1).mp hn
      exact .located hstands hascii hbound
    · next hsearch =>
      split at h
      · next herror =>
        cases h
        obtain ⟨before, s, hplace, herror⟩ := search_unlocated?_isSome_iff.mp herror
        exact .unlocated (search_located?_eq_none_iff.mp hsearch) hplace herror
      · cases h
  · intro h
    cases h with
    | located hstands hascii hbound =>
      rw [header?, search_located?_eq_some_iff.mpr ⟨_, _, _, hstands⟩]
      exact Option.map_eq_some_iff.mpr
        ⟨_, (lineNumber?_eq_some_iff hstands.fits.line.1).mpr ⟨hascii, rfl, hbound⟩, rfl⟩
    | unlocated hnone hplace herror =>
      rw [header?, search_located?_eq_none_iff.mpr hnone]
      exact if_pos (search_unlocated?_isSome_iff.mpr ⟨_, _, hplace, herror⟩)

end LinkerReport

end BuildReport
