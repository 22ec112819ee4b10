import BuildReport.Proofs.Reading
import Mathlib.Data.List.Forall2
import Mathlib.Data.List.TakeWhile

/-!
# Patterns

What a line of a report must look like is put down as a list of pieces: words in any case, blanks,
runs of digits, and fixed text. A text reads as the pieces if it starts with one stretch for each. A
reader takes the longest stretch, which makes no difference where the next piece starts with a
character of another class. A line is searched from its start on, so the first place counts.

- `Text.Reads`: the text starts with stretches of the given kinds.
- `Avoids`: what reads as the pieces does not start with a character of a class.
- `reads_word_iff`, `reads_mark_iff`, `reads_blanks_iff`, `reads_gap_iff`: a piece and its reader.
- `Reads.suffix`, `Reads.infix_of_mark`: what is read is part of the text.
- `lineNumber?_eq_some_iff`: which digits are read as a line number.
- `search_eq_some_iff`: what a search finds stands at the first place where the reader succeeds.
-/

namespace BuildReport

namespace Text

/-! ## Pieces -/

/-- A run of one or more digits. -/
def IsDigits (digits : List Char) : Prop :=
  digits ≠ [] ∧ ∀ c ∈ digits, isDigit c = true

/-- A kind of stretch: a word in any case, text as it is, blanks, blanks or nothing, digits. -/
inductive Piece where
  | word (text : List Char)
  | mark (text : List Char)
  | blanks
  | gap
  | digits

/-- The stretch is of the kind. -/
def Piece.Is : Piece → List Char → Prop
  | .word text, t => List.Forall₂ (fun w c => sameAsciiLetter w c = true) text t
  | .mark text, t => t = text
  | .blanks, t => t ≠ [] ∧ ∀ c ∈ t, isBlank c = true
  | .gap, t => ∀ c ∈ t, isBlank c = true
  | .digits, t => IsDigits t

/-- The text starts with stretches of these kinds, one behind the other, and `rest` follows. -/
def Reads : List Piece → (s rest : List Char) → Prop
  | [], s, rest => s = rest
  | p :: ps, s, rest => ∃ t more, s = t ++ more ∧ p.Is t ∧ Reads ps more rest

/-- No text that reads as the pieces starts with a character of the class. -/
def Avoids (p : Char → Bool) (ps : List Piece) : Prop :=
  ∀ s rest, Reads ps s rest → ∀ c ∈ s.head?, p c = false

variable {p : Char → Bool} {ps : List Piece} {s rest : List Char}

theorem avoids_cons {q : Piece} (h : ∀ t, q.Is t → ∃ c more, t = c :: more ∧ p c = false) :
    Avoids p (q :: ps) := by
  rintro s rest ⟨t, more, rfl, ht, -⟩ c hc
  obtain ⟨d, t, rfl, hd⟩ := h t ht
  cases hc
  exact hd

/-! ## Classes of characters -/

theorem isDigit_of_isBlank {c : Char} (h : isBlank c = true) : isDigit c = false := by
  cases hdigit : isDigit c with
  | false => rfl
  | true =>
    rw [isBlank_of_digit hdigit] at h
    cases h

/-- Only the capital letters of ASCII change in lower case. -/
theorem toLower_of_not_capital {c : Char} (h : ¬ (0x41 ≤ c.toNat ∧ c.toNat ≤ 0x5A)) :
    c.toLower = c := by
  refine dif_neg fun hcapital => h ?_
  rwa [ge_iff_le, UInt32.le_iff_toNat_le, UInt32.le_iff_toNat_le] at hcapital

theorem toLower_of_isBlank {c : Char} (h : isBlank c = true) : c.toLower = c := by
  refine toLower_of_not_capital fun hcapital => ?_
  simp only [isBlank, Bool.or_eq_true, Bool.and_eq_true, decide_eq_true_eq, beq_iff_eq] at h
  omega

/-- What is a letter in one case is no blank in the other. -/
theorem isBlank_of_sameAsciiLetter {w c : Char} (hw : isBlank w.toLower = false)
    (h : sameAsciiLetter w c = true) : isBlank c = false := by
  cases hc : isBlank c with
  | false => rfl
  | true =>
    rw [sameAsciiLetter, beq_iff_eq, toLower_of_isBlank hc] at h
    rw [h, hc] at hw
    cases hw

theorem avoids_word {w : Char} {text : List Char} (hw : isBlank w.toLower = false) :
    Avoids isBlank (.word (w :: text) :: ps) := by
  refine avoids_cons fun t ht => ?_
  obtain ⟨c, more, hsame, -, rfl⟩ := List.forall₂_cons_left_iff.mp ht
  exact ⟨c, more, rfl, isBlank_of_sameAsciiLetter hw hsame⟩

/-- A run of characters of one class keeps the characters of another away. -/
theorem avoids_run {q : Piece} {r : Char → Bool} (hq : ∀ t, q.Is t → t ≠ [] ∧ ∀ c ∈ t, r c = true)
    (h : ∀ c, r c = true → p c = false) : Avoids p (q :: ps) := by
  refine avoids_cons fun t ht => ?_
  obtain ⟨hne, hall⟩ := hq t ht
  obtain ⟨c, more, rfl⟩ := List.exists_cons_of_ne_nil hne
  exact ⟨c, more, rfl, h c (hall c List.mem_cons_self)⟩

theorem avoids_digits : Avoids isBlank (.digits :: ps) :=
  avoids_run (fun _ => id) fun _ => isBlank_of_digit

theorem avoids_mark_digits {digits : List Char} (h : IsDigits digits) :
    Avoids isBlank (.mark digits :: ps) := by
  rintro s rest ⟨t, more, rfl, rfl, hreads⟩
  exact avoids_digits _ rest ⟨t, more, rfl, h, hreads⟩

theorem avoids_blanks : Avoids isDigit (.blanks :: ps) :=
  avoids_run (fun _ => id) fun _ => isDigit_of_isBlank

theorem avoids_mark {c : Char} {text : List Char} (h : p c = false) :
    Avoids p (.mark (c :: text) :: ps) :=
  avoids_cons fun _ ht => ⟨c, text, ht, h⟩

theorem avoids_gap (h : Avoids isDigit ps) : Avoids isDigit (.gap :: ps) := by
  rintro s rest ⟨t, more, rfl, ht, hreads⟩ c hc
  cases t with
  | nil => exact h more rest hreads c hc
  | cons d t =>
    cases hc
    exact isDigit_of_isBlank (ht c List.mem_cons_self)

/-! ## Readers and pieces -/

theorem afterWordAnyCase_eq_some_iff {word : List Char} : afterWordAnyCase word s = some rest ↔
    ∃ t, s = t ++ rest ∧ (Piece.word word).Is t := by
  induction word generalizing s with
  | nil =>
    constructor
    · intro h
      exact ⟨[], Option.some.inj h, .nil⟩
    · rintro ⟨t, rfl, ht⟩
      cases ht
      rfl
  | cons w word ih =>
    cases s with
    | nil =>
      refine iff_of_false (by simp [afterWordAnyCase]) ?_
      rintro ⟨t, hnil, ht⟩
      obtain ⟨rfl, -⟩ := List.append_eq_nil_iff.mp hnil.symm
      cases ht
    | cons c s =>
      rw [afterWordAnyCase]
      constructor
      · intro h
        split at h
        · next hsame =>
          obtain ⟨t, rfl, ht⟩ := ih.mp h
          exact ⟨c :: t, rfl, .cons hsame ht⟩
        · cases h
      · rintro ⟨t, heq, ht⟩
        obtain ⟨d, u, hsame, hu, rfl⟩ := List.forall₂_cons_left_iff.mp ht
        obtain ⟨rfl, rfl⟩ := List.cons.inj heq
        rw [if_pos hsame]
        exact ih.mpr ⟨u, rfl, hu⟩

theorem reads_word_iff {word : List Char} : Reads (.word word :: ps) s rest ↔
    ∃ more, afterWordAnyCase word s = some more ∧ Reads ps more rest := by
  constructor
  · rintro ⟨t, more, hs, ht, hreads⟩
    exact ⟨more, afterWordAnyCase_eq_some_iff.mpr ⟨t, hs, ht⟩, hreads⟩
  · rintro ⟨more, h, hreads⟩
    obtain ⟨t, hs, ht⟩ := afterWordAnyCase_eq_some_iff.mp h
    exact ⟨t, more, hs, ht, hreads⟩

theorem reads_mark_iff {text : List Char} : Reads (.mark text :: ps) s rest ↔
    ∃ more, s = text ++ more ∧ Reads ps more rest := by
  constructor
  · rintro ⟨t, more, hs, rfl, hreads⟩
    exact ⟨more, hs, hreads⟩
  · rintro ⟨more, hs, hreads⟩
    exact ⟨text, more, hs, rfl, hreads⟩

theorem reads_append_iff {qs : List Piece} : Reads (ps ++ qs) s rest ↔
    ∃ middle, Reads ps s middle ∧ Reads qs middle rest := by
  induction ps generalizing s with
  | nil =>
    constructor
    · exact fun h => ⟨s, rfl, h⟩
    · rintro ⟨_, rfl, h⟩
      exact h
  | cons q ps ih =>
    constructor
    · rintro ⟨t, more, hs, ht, hreads⟩
      obtain ⟨middle, hfirst, hsecond⟩ := ih.mp hreads
      exact ⟨middle, ⟨t, more, hs, ht, hfirst⟩, hsecond⟩
    · rintro ⟨middle, ⟨t, more, hs, ht, hfirst⟩, hsecond⟩
      exact ⟨t, more, hs, ht, ih.mpr ⟨middle, hfirst, hsecond⟩⟩

/-- What follows the pieces is the end of the text. -/
theorem Reads.suffix (h : Reads ps s rest) : rest <:+ s := by
  induction ps generalizing s with
  | nil =>
    obtain rfl : s = rest := h
    exact List.suffix_rfl
  | cons q ps ih =>
    obtain ⟨t, more, rfl, -, hreads⟩ := h
    exact (ih hreads).trans (List.suffix_append t more)

/-- Fixed text among the pieces is part of the text. -/
theorem Reads.infix_of_mark {text : List Char} (h : Reads ps s rest) (hmark : .mark text ∈ ps) :
    text <:+: s := by
  induction ps generalizing s with
  | nil => cases hmark
  | cons q ps ih =>
    obtain ⟨t, more, rfl, ht, hreads⟩ := h
    rcases List.mem_cons.mp hmark with rfl | hmark
    · rw [show t = text from ht]
      exact (List.prefix_append text more).isInfix
    · exact (ih hreads hmark).trans (List.suffix_append t more).isInfix

theorem reads_gap_iff (h : Avoids isBlank ps) :
    Reads (.gap :: ps) s rest ↔ Reads ps (trimStart s) rest := by
  constructor
  · rintro ⟨t, more, rfl, ht, hreads⟩
    rw [trimStart, (takeWhile_append_of_head ht (h more rest hreads)).2]
    exact hreads
  · intro hreads
    exact ⟨s.takeWhile isBlank, trimStart s, List.takeWhile_append_dropWhile.symm,
      fun c hc => List.mem_takeWhile_imp hc, hreads⟩

theorem reads_blanks_iff (h : Avoids isBlank ps) : Reads (.blanks :: ps) s rest ↔
    ∃ more, afterBlanks s = some more ∧ Reads ps more rest := by
  constructor
  · rintro ⟨t, more, rfl, ⟨hne, ht⟩, hreads⟩
    obtain ⟨c, t, rfl⟩ := List.exists_cons_of_ne_nil hne
    have htail : ∀ d ∈ t, isBlank d = true := fun d hd => ht d (List.mem_cons_of_mem c hd)
    refine ⟨more, ?_, hreads⟩
    rw [List.cons_append, afterBlanks, afterBlank_cons (ht c List.mem_cons_self), Option.map_some,
      trimStart, (takeWhile_append_of_head htail (h more rest hreads)).2]
  · rintro ⟨more, hafter, hreads⟩
    cases s with
    | nil => cases hafter
    | cons c s =>
      rw [afterBlanks, afterBlank] at hafter
      split at hafter
      · next hc =>
        cases hafter
        refine ⟨c :: s.takeWhile isBlank, trimStart s, ?_, ⟨List.cons_ne_nil _ _, ?_⟩, hreads⟩
        · exact congrArg (c :: ·) List.takeWhile_append_dropWhile.symm
        · exact List.forall_mem_cons.mpr ⟨hc, fun d hd => List.mem_takeWhile_imp hd⟩
      · cases hafter

theorem digits?_eq_some {digits more : List Char} (h : digits? s = some (digits, more)) :
    s = digits ++ more ∧ IsDigits digits := by
  unfold digits? at h
  split at h
  · cases h
  · next d ds htake =>
    cases h
    refine ⟨?_, List.cons_ne_nil d ds, fun c hc => ?_⟩
    · rw [← htake, List.takeWhile_append_dropWhile]
    · rw [← htake] at hc
      exact List.mem_takeWhile_imp hc

theorem quotedName?_eq_some {name after : List Char} (h : quotedName? s = some (name, after)) :
    s = name ++ '"' :: ':' :: after ∧ name ≠ [] ∧ ¬ ['"', ':'] <:+: after := by
  induction s generalizing name after with
  | nil => cases h
  | cons c s ih =>
    rw [quotedName?] at h
    split at h
    · next hread =>
      cases h
      obtain ⟨rfl, -, hlast⟩ := ih hread
      exact ⟨rfl, List.cons_ne_nil _ _, hlast⟩
    · next hnone =>
      obtain ⟨_, hmark, heq⟩ := Option.map_eq_some_iff.mp h
      cases heq
      obtain rfl := eq_append_of_afterWord hmark
      -- a mark behind this one would have been found first
      refine ⟨rfl, List.cons_ne_nil _ _, fun hinfix => ?_⟩
      exact quotedName?_cons_eq_none.mp hnone (List.infix_cons hinfix)

/-- Where there is a name with its closing mark, one is read. -/
theorem exists_quotedName? {name : List Char} (hname : name ≠ []) (after : List Char) :
    ∃ found, quotedName? (name ++ '"' :: ':' :: after) = some found := by
  obtain ⟨c, name, rfl⟩ := List.exists_cons_of_ne_nil hname
  refine Option.ne_none_iff_exists'.mp fun hnone => ?_
  refine quotedName?_cons_eq_none.mp hnone ⟨name, after, ?_⟩
  simp

theorem isDigit_of_numberFrom {digits : List Char} {value n : Nat}
    (h : numberFrom value digits = some n) : ∀ c ∈ digits, c.isDigit = true := by
  induction digits generalizing value with
  | nil => exact List.forall_mem_nil _
  | cons c digits ih =>
    rw [numberFrom] at h
    split at h
    · next d hd =>
      unfold asciiDigit? at hd
      split at hd
      · next hrange =>
        have hc : c.isDigit = true := by simpa [Char.isDigit, Char.le_def] using hrange
        exact List.forall_mem_cons.mpr ⟨hc, ih h⟩
      · cases hd
    · cases h

/-- A line number is read if its digits are ASCII digits and it is not too large. -/
theorem lineNumber?_eq_some_iff {digits : List Char} (hne : digits ≠ []) {n : Nat} :
    lineNumber? digits = some n ↔ (∀ c ∈ digits, c.isDigit = true) ∧
      n = Nat.ofDigitChars 10 digits 0 ∧ Nat.ofDigitChars 10 digits 0 ≤ maxLineNumber := by
  constructor
  · intro h
    have hascii : ∀ c ∈ digits, c.isDigit = true := by
      obtain ⟨c, digits, rfl⟩ := List.exists_cons_of_ne_nil hne
      unfold lineNumber? at h
      split at h
      · next hnumber => exact isDigit_of_numberFrom hnumber
      · cases h
    by_cases hle : Nat.ofDigitChars 10 digits 0 ≤ maxLineNumber
    · rw [lineNumber?_eq_ofDigitChars hne hascii hle] at h
      exact ⟨hascii, (Option.some.inj h).symm, hle⟩
    · rw [lineNumber?, number?_eq_ofDigitChars hne hascii] at h
      exact absurd h (by simp [hle])
  · rintro ⟨hascii, rfl, hle⟩
    exact lineNumber?_eq_ofDigitChars hne hascii hle

/-! ## Searching -/

variable {α : Type} {reader : Option Char → List Char → Option α} {found : α}

/-- The character before a place in the text: the last one passed, or what was before the text. -/
theorem getLast?_cons_or (c : Char) (b : List Char) (previous : Option Char) :
    (c :: b).getLast?.or previous = b.getLast?.or (some c) := by
  rw [List.getLast?_cons]
  cases b.getLast? <;> rfl

/-- A search finds nothing if the reader succeeds nowhere. -/
theorem search_eq_none_iff_from (previous : Option Char) : search reader previous s = none ↔
    ∀ before t, s = before ++ t → reader (before.getLast?.or previous) t = none := by
  induction s generalizing previous with
  | nil =>
    constructor
    · intro h before t hnil
      obtain ⟨rfl, rfl⟩ := List.append_eq_nil_iff.mp hnil.symm
      exact h
    · exact fun h => h [] [] rfl
  | cons c s ih =>
    rw [search]
    constructor
    · intro h before t heq
      split at h
      · cases h
      · next hread =>
        obtain ⟨rfl, rfl⟩ | ⟨before, rfl, htail⟩ := List.cons_eq_append_iff.mp heq
        · exact hread
        · rw [getLast?_cons_or]
          exact (ih (some c)).mp h before t htail
    · intro h
      rw [show reader previous (c :: s) = none from h [] (c :: s) rfl]
      refine (ih (some c)).mpr fun before t htail => ?_
      rw [← getLast?_cons_or]
      exact h (c :: before) t (congrArg (c :: ·) htail)

/-- What a search finds stands at the first place where the reader succeeds. -/
theorem search_eq_some_iff_from (previous : Option Char) :
    search reader previous s = some found ↔
      ∃ before t, s = before ++ t ∧ reader (before.getLast?.or previous) t = some found ∧
        ∀ b u, s = b ++ u → b.length < before.length →
          reader (b.getLast?.or previous) u = none := by
  induction s generalizing previous with
  | nil =>
    constructor
    · intro h
      exact ⟨[], [], rfl, h, fun b u _ hlt => absurd hlt (Nat.not_lt_zero _)⟩
    · rintro ⟨before, t, hnil, hread, -⟩
      obtain ⟨rfl, rfl⟩ := List.append_eq_nil_iff.mp hnil.symm
      exact hread
  | cons c s ih =>
    rw [search]
    constructor
    · intro h
      split at h
      · next hread =>
        cases h
        exact ⟨[], c :: s, rfl, hread, fun b u _ hlt => absurd hlt (Nat.not_lt_zero _)⟩
      · next hread =>
        -- nothing is read here, and nothing between here and where the rest finds it
        obtain ⟨before, t, hs, hfound, hfirst⟩ := (ih (some c)).mp h
        refine ⟨c :: before, t, congrArg (c :: ·) hs, ?_, fun b u heq hlt => ?_⟩
        · rw [getLast?_cons_or]
          exact hfound
        · obtain ⟨rfl, rfl⟩ | ⟨b, rfl, htail⟩ := List.cons_eq_append_iff.mp heq
          · exact hread
          · rw [getLast?_cons_or]
            exact hfirst b u htail (Nat.lt_of_succ_lt_succ hlt)
    · rintro ⟨before, t, heq, hfound, hfirst⟩
      obtain ⟨rfl, rfl⟩ | ⟨before, rfl, htail⟩ := List.cons_eq_append_iff.mp heq
      · rw [show reader previous (c :: s) = some found from hfound]
      · rw [show reader previous (c :: s) = none from hfirst [] _ rfl (Nat.succ_pos _)]
        rw [getLast?_cons_or] at hfound
        refine (ih (some c)).mpr ⟨before, t, htail, hfound, fun b u hs hlt => ?_⟩
        rw [← getLast?_cons_or]
        exact hfirst (c :: b) u (congrArg (c :: ·) hs) (Nat.succ_lt_succ hlt)

/-- **What a search finds in a line stands at the first place where the reader succeeds.** The
reader is told the character before the place. -/
theorem search_eq_some_iff : search reader none s = some found ↔
    ∃ before t, s = before ++ t ∧ reader before.getLast? t = some found ∧
      ∀ b u, s = b ++ u → b.length < before.length → reader b.getLast? u = none := by
  refine (search_eq_some_iff_from none).trans ?_
  simp only [Option.or_none]

theorem search_eq_none_iff : search reader none s = none ↔
    ∀ before t, s = before ++ t → reader before.getLast? t = none := by
  refine (search_eq_none_iff_from none).trans ?_
  simp only [Option.or_none]

end Text

end BuildReport
