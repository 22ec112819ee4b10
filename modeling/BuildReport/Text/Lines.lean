/-!
# Lines

A line ends at a line feed, and a carriage return right before the line feed belongs to the line
end. The two readers differ in the last line only. A report always has one more line than line
feeds, and sheds a carriage return from each. A document has no last line when nothing follows the
last line feed, and a carriage return that no line feed follows is text.

- `splitLines`: the pieces between line feeds.
- `reportLines`: the lines of a tool's output.
- `documentLines`: the lines of a source text.
-/

namespace BuildReport

namespace Text

/-- Reads on with the finished pieces and the open one, both kept in reverse. -/
def splitLinesFrom (done : List (List Char)) (line : List Char) : List Char → List (List Char)
  | [] => (line.reverse :: done).reverse
  | c :: rest =>
    if c = '\n' then splitLinesFrom (line.reverse :: done) [] rest
    else splitLinesFrom done (c :: line) rest

/-- The pieces between line feeds; there is always at least one. -/
def splitLines (s : List Char) : List (List Char) :=
  splitLinesFrom [] [] s

/-- The pieces with more text put in front of the first. -/
def prependToFirst (start : List Char) : List (List Char) → List (List Char)
  | [] => [start]
  | line :: lines => (start ++ line) :: lines

/-- The line without the one carriage return it may end with. -/
def chomp : List Char → List Char
  | [] => []
  | [c] => if c = '\r' then [] else [c]
  | c :: d :: rest => c :: chomp (d :: rest)

/-- The lines of a tool's output. -/
def reportLines (s : List Char) : List (List Char) :=
  (splitLines s).map chomp

/-- The lines among the pieces of a source text: the last piece has no line feed. -/
def documentPieces : List (List Char) → List (List Char)
  | [] => []
  | [last] => if last = [] then [] else [last]
  | line :: next :: rest => chomp line :: documentPieces (next :: rest)

/-- The lines of a source text. -/
def documentLines (s : List Char) : List (List Char) :=
  documentPieces (splitLines s)

theorem prependToFirst_ne_nil (start : List Char) (lines : List (List Char)) :
    prependToFirst start lines ≠ [] := by
  cases lines <;> simp [prependToFirst]

theorem splitLinesFrom_eq (done : List (List Char)) (line s : List Char) :
    splitLinesFrom done line s = done.reverse ++ prependToFirst line.reverse (splitLines s) := by
  unfold splitLines
  induction s generalizing done line with
  | nil => simp [splitLinesFrom, prependToFirst]
  | cons c rest ih =>
    simp only [splitLinesFrom]
    split
    · rw [ih, ih [List.reverse []] []]
      simp [prependToFirst]
    · rw [ih, ih [] [c]]
      cases splitLinesFrom [] [] rest <;> simp [prependToFirst]

theorem splitLines_ne_nil (s : List Char) : splitLines s ≠ [] := by
  rw [splitLines, splitLinesFrom_eq]
  simpa using prependToFirst_ne_nil _ _

@[simp] theorem prependToFirst_nil_splitLines (s : List Char) :
    prependToFirst [] (splitLines s) = splitLines s := by
  obtain ⟨line, lines, h⟩ := List.exists_cons_of_ne_nil (splitLines_ne_nil s)
  simp [h, prependToFirst]

@[simp] theorem splitLines_nil : splitLines [] = [[]] := rfl

@[simp] theorem splitLines_newline (rest : List Char) :
    splitLines ('\n' :: rest) = [] :: splitLines rest := by
  rw [splitLines, splitLinesFrom, if_pos rfl, splitLinesFrom_eq]
  simp

theorem splitLines_cons {c : Char} (h : c ≠ '\n') (rest : List Char) :
    splitLines (c :: rest) = prependToFirst [c] (splitLines rest) := by
  rw [splitLines, splitLinesFrom, if_neg h, splitLinesFrom_eq]
  simp

/-- A text without a line feed is one piece. -/
theorem splitLines_of_no_newline {s : List Char} (h : '\n' ∉ s) : splitLines s = [s] := by
  induction s with
  | nil => rfl
  | cons c rest ih =>
    simp only [List.mem_cons, not_or] at h
    rw [splitLines_cons (Ne.symm h.1), ih h.2]
    rfl

/-- The pieces before a line feed and those after it do not depend on each other. -/
theorem splitLines_append_newline (s t : List Char) :
    splitLines (s ++ '\n' :: t) = splitLines s ++ splitLines t := by
  induction s with
  | nil => simp
  | cons c rest ih =>
    by_cases h : c = '\n'
    · subst h
      simp [ih]
    · rw [List.cons_append, splitLines_cons h, splitLines_cons h, ih]
      obtain ⟨line, lines, hl⟩ := List.exists_cons_of_ne_nil (splitLines_ne_nil rest)
      simp [hl, prependToFirst]

end Text

end BuildReport
