/-!
# Blanks

White space is Unicode's property `White_Space`: 25 characters, the line ends and the no-break
space among them, the zero-width space and the information separators not. Blanks at the two ends
of a line are counted in characters.

- `isBlank`: the character is white space.
- `leadingBlanks`, `trailingBlanks`: how many blanks stand at either end.
- `dropWhile_isBlank`, `trimEnd_eq_take`: trimming removes exactly as many characters as counted.
-/

namespace BuildReport

namespace Text

/-- The character has Unicode's property `White_Space`. -/
def isBlank (c : Char) : Bool :=
  let n := c.toNat
  (0x09 ≤ n && n ≤ 0x0D) || n == 0x20 || n == 0x85 || n == 0xA0 || n == 0x1680 ||
    (0x2000 ≤ n && n ≤ 0x200A) || n == 0x2028 || n == 0x2029 || n == 0x202F || n == 0x205F ||
    n == 0x3000

/-- The text without the blanks it starts with. -/
def trimStart (s : List Char) : List Char :=
  s.dropWhile isBlank

/-- The text without the blanks it ends with. -/
def trimEnd (s : List Char) : List Char :=
  (s.reverse.dropWhile isBlank).reverse

/-- The text without the blanks at its ends. -/
def trim (s : List Char) : List Char :=
  trimEnd (trimStart s)

/-- How many blanks the text starts with. -/
def leadingBlanks (s : List Char) : Nat :=
  (s.takeWhile isBlank).length

/-- How many blanks the text ends with. -/
def trailingBlanks (s : List Char) : Nat :=
  leadingBlanks s.reverse

/-- The text consists of blanks only. -/
def allBlank (s : List Char) : Bool :=
  s.all isBlank

/-- Dropping the blanks at the start is dropping as many characters as there are. -/
theorem dropWhile_isBlank (s : List Char) : s.dropWhile isBlank = s.drop (leadingBlanks s) := by
  induction s with
  | nil => rfl
  | cons c rest ih =>
    by_cases h : isBlank c = true
    · simpa [leadingBlanks, h] using ih
    · simp [leadingBlanks, h]

theorem leadingBlanks_le (s : List Char) : leadingBlanks s ≤ s.length :=
  (List.takeWhile_sublist _).length_le

theorem trailingBlanks_le (s : List Char) : trailingBlanks s ≤ s.length := by
  simpa [trailingBlanks] using leadingBlanks_le s.reverse

/-- Trimming the end drops as many characters as there are blanks at the end. -/
theorem trimEnd_eq_take (s : List Char) : trimEnd s = s.take (s.length - trailingBlanks s) := by
  rw [trimEnd, dropWhile_isBlank, List.reverse_drop, List.reverse_reverse,
    List.length_reverse, trailingBlanks]

end Text

end BuildReport
