import BuildReport.Text.Blank
import BuildReport.Text.Digit
import BuildReport.Text.Word

/-!
# Reading along a line

A reader looks at the text from some place on and answers what it found and the text after it.
The readers here are the pieces that a tool's messages are made of. Each either takes the longest
stretch it can or fails, and no other choice of stretch could let a later piece succeed: what
follows a run of digits is no digit, and what follows a run of blanks is no blank.

- `afterWord`, `afterWordAnyCase`: the text after a given word.
- `afterBlank`, `afterBlanks`: the text after one blank, or after one or more.
- `digits?`: a run of digits and the text after it.
- `upToLast`, `quotedName?`: the stretch before the last occurrence of a mark.
- `search`: the first place in the text where a reader succeeds.
- `afterWord_append`, `upToLast_eq_some`: what the two results are made of.
-/

namespace BuildReport

namespace Text

/-- The text after `word`, if the text starts with it. -/
def afterWord : (word s : List Char) → Option (List Char)
  | [], s => some s
  | _ :: _, [] => none
  | w :: word, c :: s => if w = c then afterWord word s else none

/-- The two characters agree up to the case of ASCII letters. -/
def sameAsciiLetter (a b : Char) : Bool :=
  a.toLower == b.toLower

/-- The text after `word` in any case, if the text starts with it. The word consists of ASCII
letters that no letter outside ASCII equals up to case: any but `k` and `s`. -/
def afterWordAnyCase : (word s : List Char) → Option (List Char)
  | [], s => some s
  | _ :: _, [] => none
  | w :: word, c :: s => if sameAsciiLetter w c then afterWordAnyCase word s else none

/-- The text after one blank. -/
def afterBlank : List Char → Option (List Char)
  | [] => none
  | c :: s => if isBlank c then some s else none

/-- The text after one or more blanks. -/
def afterBlanks (s : List Char) : Option (List Char) :=
  (afterBlank s).map trimStart

/-- A run of one or more decimal digits, and the text after it. -/
def digits? (s : List Char) : Option (List Char × List Char) :=
  match s.takeWhile isDigit with
  | [] => none
  | d :: ds => some (d :: ds, s.dropWhile isDigit)

/-- The stretch before the last `mark`. -/
def upToLast (mark : Char) : List Char → Option (List Char)
  | [] => none
  | c :: s =>
    match upToLast mark s with
    | some stretch => some (c :: stretch)
    | none => if c = mark then some [] else none

/-- A name of one or more characters up to the last `":`, and the text after that mark. -/
def quotedName? : List Char → Option (List Char × List Char)
  | [] => none
  | c :: s =>
    match quotedName? s with
    | some (name, after) => some (c :: name, after)
    | none => (afterWord ['"', ':'] s).map fun after => ([c], after)

/-- What `reader` finds at the first place where it succeeds. The reader also gets the character
before that place. -/
def search (reader : Option Char → List Char → Option α) (before : Option Char) :
    List Char → Option α
  | [] => reader before []
  | c :: s =>
    match reader before (c :: s) with
    | some found => some found
    | none => search reader (some c) s

@[simp] theorem afterWord_append (word s : List Char) : afterWord word (word ++ s) = some s := by
  induction word with
  | nil => rfl
  | cons w word ih => simp [afterWord, ih]

theorem eq_append_of_afterWord {word s rest : List Char} (h : afterWord word s = some rest) :
    s = word ++ rest := by
  induction word generalizing s with
  | nil => simpa [afterWord] using h
  | cons w word ih =>
    cases s with
    | nil => simp [afterWord] at h
    | cons c s =>
      simp only [afterWord] at h
      split at h
      · next hc => rw [ih h, hc]; rfl
      · cases h

theorem upToLast_eq_none {mark : Char} {s : List Char} : upToLast mark s = none ↔ mark ∉ s := by
  induction s with
  | nil => simp [upToLast]
  | cons c s ih =>
    simp only [upToLast, List.mem_cons, not_or]
    split
    · next stretch h => simp [h] at ih; simp [ih]
    · next h =>
      rw [← ih]
      by_cases hc : c = mark
      · simp [hc]
      · simp [hc, h, Ne.symm hc]

/-- The stretch, the mark and a rest without the mark make up the text. -/
theorem upToLast_eq_some {mark : Char} {s stretch : List Char} (h : upToLast mark s = some stretch) :
    ∃ rest, s = stretch ++ mark :: rest ∧ mark ∉ rest := by
  induction s generalizing stretch with
  | nil => cases h
  | cons c s ih =>
    simp only [upToLast] at h
    split at h
    · next found hs =>
      cases h
      obtain ⟨rest, rfl, hrest⟩ := ih hs
      exact ⟨rest, rfl, hrest⟩
    · next hs =>
      split at h
      · next hc =>
        cases h
        exact ⟨s, by simp [hc], upToLast_eq_none.mp hs⟩
      · cases h

theorem upToLast_append {mark : Char} {rest : List Char} (h : mark ∉ rest) (stretch : List Char) :
    upToLast mark (stretch ++ mark :: rest) = some stretch := by
  induction stretch with
  | nil =>
    have hnone : upToLast mark rest = none := upToLast_eq_none.mpr h
    rw [List.nil_append, upToLast, hnone]
    exact if_pos rfl
  | cons c stretch ih => rw [List.cons_append, upToLast, ih]

end Text

end BuildReport
