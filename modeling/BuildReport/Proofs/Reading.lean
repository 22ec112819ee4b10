import BuildReport.Text.Lines
import BuildReport.Text.Scan
import Mathlib.Data.List.Infix

/-!
# Reading what was written

Each reader is met with text that was written for it: a word with text behind it, a run of digits
with a blank behind it, a name with its closing mark behind it. Words, blanks and digits come back
as they were written. A name does so only if its closing mark is the last one on the line, because
a name is read as far as it will go.

- `number?_eq_ofDigitChars`: the value of a run of ASCII digits.
- `digits?_append`, `afterBlanks_cons`, `afterWordAnyCase_append`: digits, blanks and words.
- `quotedName?_append`: a name up to the last closing mark.
- `exists_last_mark`: a text with a closing mark has a last one.
- `no_newline_of_mem_reportLines`: a line of a report has no line feed.
- `reportLines_of_line`: a report of one line.
-/

namespace BuildReport

namespace Text

/-! ## Digits -/

theorem toNat_of_isDigit {c : Char} (h : c.isDigit = true) : 48 ≤ c.toNat ∧ c.toNat ≤ 57 := by
  simpa [Char.isDigit, UInt32.le_iff_toNat_le] using h

/-- The ASCII digits are digits. -/
theorem isDigit_of_ascii {c : Char} (h : c.isDigit = true) : isDigit c = true := by
  obtain ⟨hlow, hhigh⟩ := toNat_of_isDigit h
  have hzero : 0x30 ∈ digitZeros := List.mem_cons_self
  refine List.any_eq_true.mpr ⟨0x30, hzero, ?_⟩
  rw [Bool.and_eq_true, decide_eq_true_eq, decide_eq_true_eq]
  omega

theorem asciiDigit?_of_isDigit {c : Char} (h : c.isDigit = true) :
    asciiDigit? c = some (c.toNat - '0'.toNat) := by
  obtain ⟨hlow, hhigh⟩ := toNat_of_isDigit h
  refine if_pos ⟨?_, ?_⟩
  · exact UInt32.le_iff_toNat_le.mpr hlow
  · exact UInt32.le_iff_toNat_le.mpr hhigh

theorem numberFrom_eq_ofDigitChars {digits : List Char} (h : ∀ c ∈ digits, c.isDigit = true)
    (value : Nat) : numberFrom value digits = some (Nat.ofDigitChars 10 digits value) := by
  induction digits generalizing value with
  | nil => simp [numberFrom]
  | cons c digits ih =>
    rw [numberFrom_cons (asciiDigit?_of_isDigit (h c List.mem_cons_self)),
      ih fun d hd => h d (List.mem_cons_of_mem _ hd), Nat.ofDigitChars_cons, Nat.mul_comm]

/-- ASCII digits are read in base ten. -/
theorem number?_eq_ofDigitChars {digits : List Char} (hne : digits ≠ [])
    (h : ∀ c ∈ digits, c.isDigit = true) :
    number? digits = some (Nat.ofDigitChars 10 digits 0) := by
  cases digits with
  | nil => exact absurd rfl hne
  | cons c digits => exact numberFrom_eq_ofDigitChars h 0

theorem lineNumber?_eq_ofDigitChars {digits : List Char} (hne : digits ≠ [])
    (h : ∀ c ∈ digits, c.isDigit = true) (hle : Nat.ofDigitChars 10 digits 0 ≤ maxLineNumber) :
    lineNumber? digits = some (Nat.ofDigitChars 10 digits 0) := by
  rw [lineNumber?, number?_eq_ofDigitChars hne h]
  exact if_pos hle

/-- No blank is a digit. -/
theorem isBlank_of_digit {c : Char} (h : isDigit c = true) : isBlank c = false := by
  have hall : ∀ first ∈ digitZeros, ∀ k < 10, isBlank (Char.ofNat (first + k)) = false := by
    decide +kernel
  obtain ⟨first, hfirst, hrange⟩ := List.any_eq_true.mp h
  rw [Bool.and_eq_true, decide_eq_true_eq, decide_eq_true_eq] at hrange
  have hc : c = Char.ofNat (first + (c.toNat - first)) := by
    rw [Nat.add_sub_cancel' hrange.1, Char.ofNat_toNat]
  rw [hc]
  exact hall first hfirst _ (by omega)

/-- A run of characters of a class and what follows it are told apart by the class. -/
theorem takeWhile_append_of_head {p : Char → Bool} {t more : List Char} (ht : ∀ c ∈ t, p c = true)
    (hmore : ∀ c ∈ more.head?, p c = false) :
    (t ++ more).takeWhile p = t ∧ (t ++ more).dropWhile p = more := by
  rw [List.takeWhile_append_of_pos ht, List.dropWhile_append_of_pos ht]
  cases more with
  | nil => exact ⟨List.append_nil t, rfl⟩
  | cons c more =>
    have hc : ¬ p c = true := by simp [hmore c rfl]
    rw [List.takeWhile_cons_of_neg hc, List.dropWhile_cons_of_neg hc]
    exact ⟨List.append_nil t, rfl⟩

theorem digits?_append_of_head {digits rest : List Char} (hne : digits ≠ [])
    (h : ∀ c ∈ digits, isDigit c = true) (hrest : ∀ c ∈ rest.head?, isDigit c = false) :
    digits? (digits ++ rest) = some (digits, rest) := by
  obtain ⟨htake, hdrop⟩ := takeWhile_append_of_head h hrest
  rw [digits?, htake, hdrop]
  cases digits with
  | nil => exact absurd rfl hne
  | cons d digits => rfl

/-- A run of digits ends where a character is no digit. -/
theorem digits?_append {digits : List Char} (hne : digits ≠ [])
    (h : ∀ c ∈ digits, isDigit c = true) {c : Char} (hc : isDigit c = false) (rest : List Char) :
    digits? (digits ++ c :: rest) = some (digits, c :: rest) :=
  digits?_append_of_head hne h fun _ hd => Option.some.inj hd ▸ hc

/-! ## Blanks and words -/

theorem afterBlank_cons {c : Char} (h : isBlank c = true) (s : List Char) :
    afterBlank (c :: s) = some s :=
  if_pos h

/-- Text that does not start with a blank has none to lose in front. -/
theorem trimStart_of_head {s : List Char} (h : ∀ c ∈ s.head?, isBlank c = false) :
    trimStart s = s := by
  cases s with
  | nil => rfl
  | cons c s => exact List.dropWhile_cons_of_neg (by simp [h c rfl])

theorem afterBlanks_cons {c : Char} (hc : isBlank c = true) {s : List Char}
    (h : ∀ d ∈ s.head?, isBlank d = false) : afterBlanks (c :: s) = some s := by
  rw [afterBlanks, afterBlank_cons hc, Option.map_some, trimStart_of_head h]

theorem afterWordAnyCase_append (word s : List Char) :
    afterWordAnyCase word (word ++ s) = some s := by
  induction word with
  | nil => rfl
  | cons w word ih => simp [afterWordAnyCase, sameAsciiLetter, ih]

/-! ## Names up to a mark -/

theorem afterWord_eq_none {word s : List Char} : afterWord word s = none ↔ ¬ word <+: s := by
  constructor
  · rintro h ⟨rest, rfl⟩
    rw [afterWord_append] at h
    cases h
  · intro h
    cases hread : afterWord word s with
    | none => rfl
    | some rest => exact absurd ⟨rest, (eq_append_of_afterWord hread).symm⟩ h

/-- A name needs a character, and a closing mark behind it. -/
theorem quotedName?_cons_eq_none {c : Char} {s : List Char} :
    quotedName? (c :: s) = none ↔ ¬ ['"', ':'] <:+: s := by
  induction s generalizing c with
  | nil => simp [quotedName?, afterWord]
  | cons d s ih =>
    rw [quotedName?]
    cases hread : quotedName? (d :: s) with
    | some found =>
      have hmark : ['"', ':'] <:+: s := by
        by_contra hnone
        rw [ih.mpr hnone] at hread
        cases hread
      simpa using List.infix_cons hmark
    | none =>
      -- the name does not go on behind `c`, so it ends there if a mark follows at once
      rw [List.infix_cons_iff, not_or, ← afterWord_eq_none]
      simpa using fun _ => ih.mp hread

/-- **A name is read up to the last closing mark**, if no other one follows it. -/
theorem quotedName?_append {name : List Char} (hne : name ≠ []) {after : List Char}
    (h : ¬ ['"', ':'] <:+: after) :
    quotedName? (name ++ '"' :: ':' :: after) = some (name, after) := by
  induction name with
  | nil => exact absurd rfl hne
  | cons c name ih =>
    cases name with
    | nil =>
      -- the mark itself must not be passed over: none begins within it or behind it
      have hlast : quotedName? ('"' :: ':' :: after) = none := by
        rw [quotedName?_cons_eq_none, List.infix_cons_iff, not_or]
        exact ⟨by simp, h⟩
      rw [List.singleton_append, quotedName?, hlast]
      rfl
    | cons d name =>
      rw [List.cons_append, quotedName?, ih (List.cons_ne_nil d name)]

/-- A text with a closing mark has a last one. -/
theorem exists_last_mark {s : List Char} (h : ['"', ':'] <:+: s) :
    ∃ before after, s = before ++ '"' :: ':' :: after ∧ ¬ ['"', ':'] <:+: after := by
  induction s with
  | nil => simp at h
  | cons c s ih =>
    by_cases hs : ['"', ':'] <:+: s
    · obtain ⟨before, after, rfl, hafter⟩ := ih hs
      exact ⟨c :: before, after, rfl, hafter⟩
    · -- the mark in front is the last one, and one behind it would be a mark of `s`
      obtain ⟨after, hprefix⟩ := (List.infix_cons_iff.mp h).resolve_right hs
      have heq : '"' :: ':' :: after = c :: s := hprefix
      refine ⟨[], after, heq.symm, fun hafter => hs ?_⟩
      rw [← (List.cons.inj heq).2]
      exact List.infix_cons hafter

/-! ## Lines -/

theorem search_of_eq_some {α : Type} {reader : Option Char → List Char → Option α}
    {before : Option Char} {s : List Char} {found : α} (h : reader before s = some found) :
    search reader before s = some found := by
  cases s with
  | nil => exact h
  | cons c s => rw [search, h]

/-- A piece of a text has no characters of its own. -/
theorem mem_of_mem_splitLines {s line : List Char} {c : Char}
    (hline : line ∈ splitLines s) (hc : c ∈ line) : c ∈ s := by
  induction s generalizing line with
  | nil =>
    rw [splitLines_nil, List.mem_singleton] at hline
    rwa [hline] at hc
  | cons d rest ih =>
    by_cases hd : d = '\n'
    · rw [hd, splitLines_newline, List.mem_cons] at hline
      rcases hline with rfl | hline
      · cases hc
      · exact List.mem_cons_of_mem d (ih hline hc)
    · obtain ⟨first, more, hsplit⟩ := List.exists_cons_of_ne_nil (splitLines_ne_nil rest)
      rw [splitLines_cons hd, hsplit, prependToFirst, List.mem_cons] at hline
      rw [hsplit] at ih
      rcases hline with rfl | hline
      · rcases List.mem_cons.mp hc with rfl | hc
        · exact List.mem_cons_self
        · exact List.mem_cons_of_mem d (ih List.mem_cons_self hc)
      · exact List.mem_cons_of_mem d (ih (List.mem_cons_of_mem first hline) hc)

/-- A piece has no line feed. -/
theorem no_newline_of_mem_splitLines {s line : List Char} (h : line ∈ splitLines s) :
    '\n' ∉ line := by
  induction s generalizing line with
  | nil =>
    rw [splitLines_nil, List.mem_singleton] at h
    rw [h]
    exact List.not_mem_nil
  | cons d rest ih =>
    by_cases hd : d = '\n'
    · rw [hd, splitLines_newline, List.mem_cons] at h
      rcases h with rfl | h
      · exact List.not_mem_nil
      · exact ih h
    · obtain ⟨first, more, hsplit⟩ := List.exists_cons_of_ne_nil (splitLines_ne_nil rest)
      rw [splitLines_cons hd, hsplit, prependToFirst, List.mem_cons] at h
      rw [hsplit] at ih
      rcases h with rfl | h
      · rw [List.singleton_append, List.mem_cons, not_or]
        exact ⟨Ne.symm hd, ih List.mem_cons_self⟩
      · exact ih (List.mem_cons_of_mem first h)

theorem chomp_isPrefix (s : List Char) : chomp s <+: s := by
  induction s with
  | nil => exact List.prefix_rfl
  | cons c s ih =>
    cases s with
    | nil =>
      rw [chomp]
      split
      · exact List.nil_prefix
      · exact List.prefix_rfl
    | cons d s => exact (List.prefix_cons_inj c).mpr ih

/-- A line of a report has no line feed. -/
theorem no_newline_of_mem_reportLines {s line : List Char} (h : line ∈ reportLines s) :
    '\n' ∉ line := by
  obtain ⟨piece, hpiece, rfl⟩ := List.mem_map.mp h
  exact fun hmem => no_newline_of_mem_splitLines hpiece ((chomp_isPrefix piece).subset hmem)

theorem chomp_of_getLast? {s : List Char} (h : s.getLast? ≠ some '\r') : chomp s = s := by
  induction s with
  | nil => rfl
  | cons c s ih =>
    cases s with
    | nil =>
      have hc : c ≠ '\r' := fun hc => h (congrArg some hc)
      exact if_neg hc
    | cons d s =>
      rw [List.getLast?_cons_cons] at h
      rw [chomp, ih h]

theorem chomp_append_return (s : List Char) : chomp (s ++ ['\r']) = s := by
  induction s with
  | nil => rfl
  | cons c s ih =>
    cases s with
    | nil => rfl
    | cons d s => exact congrArg (c :: ·) ih

/-- A text without line ends is a report of one line. -/
theorem reportLines_of_line {s : List Char} (hn : '\n' ∉ s) (hr : s.getLast? ≠ some '\r') :
    reportLines s = [s] := by
  rw [reportLines, splitLines_of_no_newline hn, List.map_singleton, chomp_of_getLast? hr]

/-- A carriage return at the end of the line belongs to the line end. -/
theorem reportLines_of_line_return {s : List Char} (hn : '\n' ∉ s) :
    reportLines (s ++ ['\r']) = [s] := by
  have hn' : '\n' ∉ s ++ ['\r'] := by simp [hn]
  rw [reportLines, splitLines_of_no_newline hn', List.map_singleton, chomp_append_return]

end Text

end BuildReport
