import BuildReport.Proofs.Patterns
import BuildReport.Proofs.Printed

/-!
# What an assembler's output says

An assembler writes diagnostics with a place, errors without one, echoes of the source and other
text, in whatever order and with either line end. The lines are read one by one, so the output says
what its lines say, in their order.

- `StartsLocated`, `StartsError`: the two forms, as they are written.
- `located?_eq_some`: the fields that are read.
- `located?_isSome_iff`, `unlocated?_isSome_iff`: the readers find these forms and no others.
- `OutputLine`: the kinds of lines, each with what it says.
- `parse_text`: what a line says by itself.
- `parse_output`: what a whole output says.
-/

namespace BuildReport

namespace AssemblerReport

open Text

/-! ## The two forms -/

/-- The text starts with a diagnostic in the located form. There is one blank between two words. -/
inductive StartsLocated : List Char → Prop
  | intro (kind : PrintedKind) {code line file : List Char} {b₁ b₂ b₃ b₄ b₅ b₆ : Char}
      (hcode : IsDigits code) (hline : IsDigits line) (hfile : file ≠ [])
      (h₁ : isBlank b₁ = true) (h₂ : isBlank b₂ = true) (h₃ : isBlank b₃ = true)
      (h₄ : isBlank b₄ = true) (h₅ : isBlank b₅ = true) (h₆ : isBlank b₆ = true)
      (rest : List Char) :
      StartsLocated (kind.label.toList ++ b₁ :: (code ++ b₂ :: ("in".toList ++ b₃ ::
        ("line".toList ++ b₄ :: (line ++ b₅ :: ("of".toList ++ b₆ ::
          ('"' :: (file ++ '"' :: ':' :: rest))))))))

/-- The text starts with an error that has a code and goes on behind a colon. -/
inductive StartsError : List Char → Prop
  | intro {code gap : List Char} {b : Char} (hb : isBlank b = true) (hcode : IsDigits code)
      (hgap : ∀ c ∈ gap, isBlank c = true) (rest : List Char) :
      StartsError ("error".toList ++ b :: (code ++ (gap ++ ':' :: rest)))

/-- Somewhere in the line a diagnostic in the located form starts. -/
def HoldsLocated (line : List Char) : Prop :=
  ∃ before s, line = before ++ s ∧ StartsLocated s

/-- Somewhere in the line an error with a code starts. -/
def HoldsError (line : List Char) : Prop :=
  ∃ before s, line = before ++ s ∧ StartsError s

variable {s line : List Char}

theorem kind?_eq_some {kind more : List Char} (h : kind? s = some (kind, more)) :
    ∃ k : PrintedKind, kind = k.label.toList ∧ s = kind ++ more := by
  obtain ⟨word, hword, hread⟩ := List.exists_of_findSome?_eq_some h
  obtain ⟨after, hafter, heq⟩ := Option.map_eq_some_iff.mp hread
  cases heq
  have hs := eq_append_of_afterWord hafter
  simp only [kinds, List.mem_cons, List.not_mem_nil, or_false] at hword
  rcases hword with rfl | rfl | rfl
  · exact ⟨.error, rfl, hs⟩
  · exact ⟨.warning, rfl, hs⟩
  · exact ⟨.message, rfl, hs⟩

theorem afterBlank_eq_some {more : List Char} (h : afterBlank s = some more) :
    ∃ b, isBlank b = true ∧ s = b :: more := by
  cases s with
  | nil => cases h
  | cons b s =>
    rw [afterBlank] at h
    split at h
    · next hb =>
      cases h
      exact ⟨b, hb, rfl⟩
    · cases h

/-- A run of digits with a blank behind it is read as it stands. -/
theorem digits?_blank {digits : List Char} (h : IsDigits digits) {b : Char}
    (hb : isBlank b = true) (rest : List Char) :
    digits? (digits ++ b :: rest) = some (digits, b :: rest) :=
  digits?_append h.1 h.2 (isDigit_of_isBlank hb) rest

/-- The text starts with these fields in the located form, and `after` follows. -/
structure Located.Fits (f : Located) (s after : List Char) : Prop where
  kind : ∃ k : PrintedKind, f.kind = k.label.toList
  code : IsDigits f.code
  line : IsDigits f.line
  file : f.file ≠ []
  written : ∃ b₁ b₂ b₃ b₄ b₅ b₆, isBlank b₁ = true ∧ isBlank b₂ = true ∧ isBlank b₃ = true ∧
    isBlank b₄ = true ∧ isBlank b₅ = true ∧ isBlank b₆ = true ∧
    s = f.kind ++ b₁ :: (f.code ++ b₂ :: ("in".toList ++ b₃ :: ("line".toList ++ b₄ ::
      (f.line ++ b₅ :: ("of".toList ++ b₆ :: ('"' :: (f.file ++ '"' :: ':' :: after)))))))

/-- The fields that are read are those that stand there. -/
theorem located?_eq_some {f : Located} (h : located? s = some f) :
    ∃ after, f.Fits s after ∧ f.rest = trimStart after := by
  simp only [located?, Option.bind_eq_bind, Option.bind_eq_some_iff, Option.pure_def,
    Option.some.injEq] at h
  obtain ⟨⟨kind, s₁⟩, h₁, s₂, h₂, ⟨code, s₃⟩, h₃, s₄, h₄, s₅, h₅, s₆, h₆, s₇, h₇, s₈, h₈,
    ⟨number, s₉⟩, h₉, s₁₀, h₁₀, s₁₁, h₁₁, s₁₂, h₁₂, s₁₃, h₁₃, ⟨file, rest⟩, h₁₄, rfl⟩ := h
  obtain ⟨k, rfl, rfl⟩ := kind?_eq_some h₁
  obtain ⟨b₁, hb₁, rfl⟩ := afterBlank_eq_some h₂
  obtain ⟨rfl, hcode⟩ := digits?_eq_some h₃
  obtain ⟨b₂, hb₂, rfl⟩ := afterBlank_eq_some h₄
  obtain rfl := eq_append_of_afterWord h₅
  obtain ⟨b₃, hb₃, rfl⟩ := afterBlank_eq_some h₆
  obtain rfl := eq_append_of_afterWord h₇
  obtain ⟨b₄, hb₄, rfl⟩ := afterBlank_eq_some h₈
  obtain ⟨rfl, hnumber⟩ := digits?_eq_some h₉
  obtain ⟨b₅, hb₅, rfl⟩ := afterBlank_eq_some h₁₀
  obtain rfl := eq_append_of_afterWord h₁₁
  obtain ⟨b₆, hb₆, rfl⟩ := afterBlank_eq_some h₁₂
  obtain rfl := eq_append_of_afterWord h₁₃
  obtain ⟨rfl, hfile, -⟩ := quotedName?_eq_some h₁₄
  exact ⟨rest, ⟨⟨k, rfl⟩, hcode, hnumber, hfile,
    b₁, b₂, b₃, b₄, b₅, b₆, hb₁, hb₂, hb₃, hb₄, hb₅, hb₆, rfl⟩, rfl⟩

theorem Located.Fits.startsLocated {f : Located} {after : List Char} (h : f.Fits s after) :
    StartsLocated s := by
  obtain ⟨⟨k, hk⟩, hcode, hline, hfile, _, _, _, _, _, _, h₁, h₂, h₃, h₄, h₅, h₆, rfl⟩ := h
  rw [hk]
  exact .intro k hcode hline hfile h₁ h₂ h₃ h₄ h₅ h₆ after

theorem located?_isSome_iff : (located? s).isSome ↔ StartsLocated s := by
  constructor
  · intro h
    obtain ⟨f, h⟩ := Option.isSome_iff_exists.mp h
    obtain ⟨after, hfits, -⟩ := located?_eq_some h
    exact hfits.startsLocated
  · rintro ⟨kind, hcode, hline, hfile, h₁, h₂, h₃, h₄, h₅, h₆, rest⟩
    obtain ⟨found, hname⟩ := exists_quotedName? hfile rest
    have hquote (t : List Char) : afterWord ['"'] ('"' :: t) = some t := afterWord_append ['"'] t
    simp only [located?, Option.bind_eq_bind, Option.bind_some, PrintedDiagnostic.kind?_label,
      afterBlank_cons h₁, digits?_blank hcode h₂, afterBlank_cons h₂, afterWord_append,
      afterBlank_cons h₃, afterBlank_cons h₄, digits?_blank hline h₅, afterBlank_cons h₅,
      afterBlank_cons h₆, hquote, hname]
    rfl

theorem unlocated?_isSome_iff : (unlocated? s).isSome ↔ StartsError s := by
  constructor
  · intro h
    obtain ⟨⟨⟩, h⟩ := Option.isSome_iff_exists.mp h
    simp only [unlocated?, Option.bind_eq_bind, Option.bind_eq_some_iff, Option.pure_def] at h
    obtain ⟨s₁, h₁, s₂, h₂, ⟨code, s₃⟩, h₃, rest, h₄, -⟩ := h
    obtain rfl := eq_append_of_afterWord h₁
    obtain ⟨b, hb, rfl⟩ := afterBlank_eq_some h₂
    obtain ⟨rfl, hcode⟩ := digits?_eq_some h₃
    have hgap : s₃ = s₃.takeWhile isBlank ++ ':' :: rest := by
      have hcolon : trimStart s₃ = ':' :: rest := eq_append_of_afterWord h₄
      rw [← hcolon]
      exact List.takeWhile_append_dropWhile.symm
    rw [hgap]
    exact .intro hb hcode (fun c hc => List.mem_takeWhile_imp hc) rest
  · rintro @⟨code, gap, b, hb, hcode, hgap, rest⟩
    have hhead : ∀ c ∈ (gap ++ ':' :: rest).head?, isDigit c = false := by
      cases gap with
      | nil =>
        rintro c ⟨⟩
        decide
      | cons d gap =>
        rintro c ⟨⟩
        exact isDigit_of_isBlank (hgap d List.mem_cons_self)
    have htrim : trimStart (gap ++ ':' :: rest) = ':' :: rest :=
      (takeWhile_append_of_head hgap (by simp [isBlank])).2
    have hcolon : afterWord [':'] (':' :: rest) = some rest := afterWord_append [':'] rest
    simp only [unlocated?, Option.bind_eq_bind, Option.bind_some, afterWord_append,
      afterBlank_cons hb, digits?_append_of_head hcode.1 hcode.2 hhead, htrim, hcolon]
    rfl

theorem findLocated_eq_none_iff : findLocated line = none ↔ ¬ HoldsLocated line := by
  rw [findLocated, search_eq_none_iff, HoldsLocated]
  push Not
  refine forall₃_congr fun before s _ => ?_
  rw [← located?_isSome_iff, Option.not_isSome_iff_eq_none]

theorem hasUnlocated_iff : hasUnlocated line = true ↔ HoldsError line := by
  rw [hasUnlocated, ← Option.ne_none_iff_isSome, ne_eq, search_eq_none_iff, HoldsError]
  push Not
  refine exists₂_congr fun before s => and_congr_right fun _ => ?_
  rw [Option.ne_none_iff_isSome, unlocated?_isSome_iff]

/-! ## Lines -/

/-- The text is what stands on one line. -/
structure IsLine (text : List Char) : Prop where
  no_newline : '\n' ∉ text
  no_return : text.getLast? ≠ some '\r'

/-- A line of an assembler's output. -/
inductive OutputLine
  /-- A diagnostic with a place, whose text does not itself end a name. -/
  | located (p : PrintedDiagnostic) (no_mark : ¬ ['"', ':'] <:+: p.rest.toList)
  /-- An error without a place. -/
  | error (text : List Char) (line : IsLine text) (no_echo : text.head? ≠ some '>')
      (holds : HoldsError text) (not_located : ¬ HoldsLocated text)
  /-- An echo of the source, or text in neither of the two forms. -/
  | noise (text : List Char) (line : IsLine text)
      (silent : text.head? = some '>' ∨ ¬ HoldsLocated text ∧ ¬ HoldsError text)

namespace OutputLine

/-- What stands on the line. -/
def text : OutputLine → List Char
  | located p _ => p.text.toList
  | error text .. => text
  | noise text .. => text

/-- What the line says. -/
def says? : OutputLine → Option Diagnostic
  | located p _ => some p.diagnostic
  | error text .. => some (.unlocated (String.ofList text) .error)
  | noise .. => none

theorem isLine_text : (l : OutputLine) → IsLine l.text
  | located p _ => ⟨p.no_newline, p.getLast?_text⟩
  | error _ line .. => line
  | noise _ line _ => line

end OutputLine

theorem parse_of_reportLines {text : List Char} (h : reportLines text = [line]) :
    parse text = (if isNoise line then none else ofLine? line).toList := by
  rw [parse, h]
  cases hread : (if isNoise line then none else ofLine? line) <;> simp [hread]

theorem StartsError.length_lt (h : StartsError s) : 1 < s.length := by
  obtain ⟨-, -, -, rest⟩ := h
  simp

/-- An error takes more than one byte. -/
theorem not_isNoise_of_holdsError (h : HoldsError line) (hecho : line.head? ≠ some '>') :
    isNoise line = false := by
  rw [isNoise, Bool.or_eq_false_iff, decide_eq_false_iff_not]
  refine ⟨?_, beq_eq_false_iff_ne.mpr hecho⟩
  obtain ⟨before, s, rfl, hs⟩ := h
  have hlen := PrintedDiagnostic.length_le_byteLength (before ++ s)
  have hs := hs.length_lt
  rw [List.length_append] at hlen
  omega

/-- **A line says what its kind says.** -/
theorem parse_text (l : OutputLine) : parse l.text = l.says?.toList := by
  cases l with
  | located p hmark =>
    have hread := p.assembler_parse_text (p.quotedName?_nameOn hmark)
    rw [p.trimStart_rest, String.ofList_toList, String.ofList_toList] at hread
    exact hread
  | error text hline hecho hholds hnone =>
    have hlines : reportLines text = [text] :=
      reportLines_of_line hline.no_newline hline.no_return
    have hfind : findLocated text = none := findLocated_eq_none_iff.mpr hnone
    show parse text = _
    rw [parse_of_reportLines hlines, not_isNoise_of_holdsError hholds hecho, ofLine?, hfind]
    simp only [Bool.false_eq_true, if_false, hasUnlocated_iff.mpr hholds, if_true]
    rfl
  | noise text hline hsilent =>
    have hlines : reportLines text = [text] :=
      reportLines_of_line hline.no_newline hline.no_return
    show parse text = []
    rw [parse_of_reportLines hlines]
    rcases hsilent with hecho | ⟨hlocated, herror⟩
    · have hnoise : isNoise text = true := by simp [isNoise, hecho]
      rw [if_pos hnoise]
      rfl
    · have hfind : findLocated text = none := findLocated_eq_none_iff.mpr hlocated
      have hnone : hasUnlocated text = false := by
        rw [← Bool.not_eq_true, hasUnlocated_iff]
        exact herror
      rw [ofLine?, hfind]
      simp only [hnone, Bool.false_eq_true, if_false, ite_self]
      rfl

/-! ## Whole outputs -/

/-- How a line ends that another one follows. -/
inductive LineEnd
  | newline
  | returnNewline
  deriving DecidableEq, Repr

/-- What stands before the line feed. -/
def LineEnd.lead : LineEnd → List Char
  | .newline => []
  | .returnNewline => ['\r']

/-- The lines with their ends, of which the last one is not written. -/
def output : List (OutputLine × LineEnd) → List Char
  | [] => []
  | [(l, _)] => l.text
  | (l, e) :: next :: more => l.text ++ e.lead ++ '\n' :: output (next :: more)

/-- The line end is not part of what a line says. -/
theorem parse_append_lead (l : OutputLine) (e : LineEnd) :
    parse (l.text ++ e.lead) = parse l.text := by
  have hline := l.isLine_text
  cases e with
  | newline => rw [LineEnd.lead, List.append_nil]
  | returnNewline =>
    show parse (l.text ++ ['\r']) = _
    rw [parse_of_reportLines (reportLines_of_line_return hline.no_newline),
      parse_of_reportLines (reportLines_of_line hline.no_newline hline.no_return)]

/-- **What an assembler's output says.** Every line with a diagnostic says this diagnostic, every
error without a place says itself, all else says nothing, and so it is in the order of the lines and
with either line end. Parts of an output that are divided by a line feed speak for themselves. -/
theorem parse_output (lines : List (OutputLine × LineEnd)) :
    parse (output lines) = lines.filterMap (·.1.says?) ∧
      ∀ s t, parse (s ++ '\n' :: t) = parse s ++ parse t := by
  refine ⟨?_, parse_append_newline⟩
  induction lines with
  | nil => rfl
  | cons first more ih =>
    obtain ⟨l, e⟩ := first
    have hsays : [(l, e)].filterMap (·.1.says?) = l.says?.toList := by
      cases hl : l.says? <;> simp [hl]
    cases more with
    | nil => rw [output, parse_text, hsays]
    | cons next more =>
      rw [output, parse_append_newline, parse_append_lead, parse_text, ih, ← hsays,
        ← List.filterMap_append]
      rfl

example : parse "error 2 in line 7 of \"a.s\": bad\r\n> bad\n\nfatal error 13 : no x".toList =
    [.located "a.s" 7 "error 2: bad" .error, .unlocated "fatal error 13 : no x" .error] := by
  decide +kernel

end AssemblerReport

end BuildReport
