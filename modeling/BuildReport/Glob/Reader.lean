import BuildReport.Glob

/-!
# Reading glob patterns

A pattern is read character by character. A backslash takes away the meaning of the next character.
Braces open and close a group of alternatives, and inside a group commas divide them. What two stars
mean depends on the characters around them: they stand for whole components only between two
separators, or between one and an end of the pattern or of an alternative.

- `Glob.Error`: why a text is no pattern.
- `Glob.read`: the tokens of a pattern.
-/

namespace BuildReport

namespace Glob

/-- Why a text is no pattern. -/
inductive Error where
  | unclosedClass
  | invalidRange (low high : Char)
  | unopenedAlternatives
  | unclosedAlternatives
  | danglingEscape
  deriving DecidableEq, Repr

/-- The words for an error. -/
def Error.message : Error → String
  | .unclosedClass => "unclosed character class; missing ']'"
  | .invalidRange low high =>
    "invalid range; '" ++ low.toString ++ "' > '" ++ high.toString ++ "'"
  | .unopenedAlternatives =>
    "unopened alternate group; missing '\x7b' (maybe escape '\x7d' with '[\x7d]'?)"
  | .unclosedAlternatives =>
    "unclosed alternate group; missing '\x7d' (maybe escape '\x7b' with '[\x7b]'?)"
  | .danglingEscape => "dangling '\\'"

/-- A group of alternatives that is still open: the tokens before it, and its finished
alternatives. Both are kept in reverse. -/
structure Group where
  before : List Token
  finished : List (List Token)

/-- What has been read: the tokens of the innermost open alternative in reverse, the groups around
it from the inside out, and whether a bracket was found that nothing closes. -/
structure Reading where
  tokens : List Token
  groups : List Group
  loneBracket : Bool

namespace Reading

/-- One token more. -/
def push (r : Reading) (t : Token) : Reading :=
  { r with tokens := t :: r.tokens }

/-- A group is opened. -/
def openGroup (r : Reading) : Reading :=
  { r with tokens := [], groups := ⟨r.tokens, []⟩ :: r.groups }

/-- A comma ends an alternative; outside every group it stands for itself. -/
def comma (r : Reading) : Reading :=
  match r.groups with
  | [] => r.push (.literal ',')
  | g :: outer =>
    { r with tokens := [], groups := { g with finished := r.tokens.reverse :: g.finished } :: outer }

/-- The innermost group is closed. -/
def closeGroup (r : Reading) : Except Error Reading :=
  match r.groups with
  | [] => .error .unopenedAlternatives
  | g :: outer =>
    .ok { r with
      tokens := .alternatives (r.tokens.reverse :: g.finished).reverse :: g.before
      groups := outer }

/-- Two stars, the characters before and after them, and whether they take a separator that follows
with them. -/
def twoStars (r : Reading) (prev next : Option Char) : Reading × Bool :=
  let plain := ((r.push .star).push .star, false)
  match r.tokens with
  | [] =>
    match next with
    | none => (r.push .leadingComponents, false)
    | some '/' => (r.push .leadingComponents, true)
    | some _ => plain
  | last :: earlier =>
    let inGroup := !r.groups.isEmpty
    if prev ≠ some '/' ∧ ¬ (inGroup ∧ (prev = some ',' ∨ prev = some '{')) then plain
    else
      let whole := fun t : Token => match last with
        | .leadingComponents => { r with tokens := .leadingComponents :: earlier }
        | .trailingComponents => { r with tokens := .trailingComponents :: earlier }
        | _ => { r with tokens := t :: earlier }
      match next with
      | none => (whole .trailingComponents, false)
      | some '/' => (whole .innerComponents, true)
      | some c => if inGroup ∧ (c = ',' ∨ c = '}') then (whole .trailingComponents, false) else plain

end Reading

/-- A class that is being read: the number of characters read, the ranges in reverse, and whether a
dash has opened a range. -/
structure ClassReading where
  count : Nat
  ranges : List (Char × Char)
  inRange : Bool

namespace ClassReading

/-- The upper end of the newest range. -/
def extend (r : ClassReading) (c : Char) : Except Error ClassReading :=
  match r.ranges with
  | [] => .ok { r with count := r.count + 1, ranges := [(c, c)], inRange := false }
  | (low, _) :: ranges =>
    if c < low then .error (.invalidRange low c)
    else .ok { count := r.count + 1, ranges := (low, c) :: ranges, inRange := false }

/-- One character that stands for itself. -/
def single (r : ClassReading) (c : Char) : ClassReading :=
  { count := r.count + 1, ranges := (c, c) :: r.ranges, inRange := false }

/-- The ranges of a class that is closed. A dash before the closing bracket stands for itself. -/
def close (r : ClassReading) : List (Char × Char) :=
  (if r.inRange then ('-', '-') :: r.ranges else r.ranges).reverse

end ClassReading

/-- The ranges of a class and the number of characters up to its closing bracket, which is not the
first. Nothing if there is no such bracket. -/
def classFrom (r : ClassReading) : List Char → Except Error (Option (List (Char × Char) × Nat))
  | [] => .ok none
  | c :: rest =>
    if r.ranges.isEmpty then classFrom (r.single c) rest
    else if c = ']' then .ok (some (r.close, r.count + 1))
    else if c = '-' ∧ ¬ r.inRange then
      classFrom { r with count := r.count + 1, inRange := true } rest
    else if r.inRange then do classFrom (← r.extend c) rest
    else classFrom (r.single c) rest

/-- The class behind an opening bracket, and the number of characters up to its closing one. -/
def class? (s : List Char) : Except Error (Option (Token × Nat)) := do
  let (negated, skipped) := match s with
    | c :: _ => if c = '!' ∨ c = '^' then (true, 1) else (false, 0)
    | [] => (false, 0)
  match ← classFrom { count := skipped, ranges := [], inRange := false } (s.drop skipped) with
  | some (ranges, count) => return some (.oneOf negated ranges, count)
  | none => return none

/-- Reads on after the character `prev`. Where `lenient` is true, a bracket that nothing closes
stands for itself, and so do all after it. -/
def readFrom (lenient : Bool) (r : Reading) (prev : Option Char) :
    List Char → Except Error Reading
  | [] => .ok r
  | c :: rest =>
    if c = '?' then readFrom lenient (r.push .anyByte) (some c) rest
    else if c = '*' then
      match rest with
      | '*' :: after =>
        match r.twoStars prev after.head? with
        | (r, true) => readFrom lenient r (some '/') after.tail
        | (r, false) => readFrom lenient r (some '*') after
      | rest => readFrom lenient (r.push .star) (some c) rest
    else if c = '[' ∧ ¬ r.loneBracket then
      match class? rest with
      | .error e => .error e
      | .ok (some (t, count)) => readFrom lenient (r.push t) (some ']') (rest.drop count)
      | .ok none =>
        if lenient then readFrom lenient { r.push (.literal c) with loneBracket := true } (some c) rest
        else .error .unclosedClass
    else if c = '{' then readFrom lenient r.openGroup (some c) rest
    else if c = '}' then
      match r.closeGroup with
      | .error e => .error e
      | .ok r => readFrom lenient r (some c) rest
    else if c = ',' then readFrom lenient r.comma (some c) rest
    else if c = '\\' then
      match rest with
      | [] => .error .danglingEscape
      | d :: rest => readFrom lenient (r.push (.literal d)) (some d) rest
    else readFrom lenient (r.push (.literal c)) (some c) rest
termination_by s => s.length
decreasing_by all_goals simp only [List.length_cons, List.length_tail, List.length_drop]; omega

/-- The tokens of a pattern. -/
def read (lenient : Bool) (pattern : List Char) : Except Error (List Token) := do
  let r ← readFrom lenient { tokens := [], groups := [], loneBracket := false } none pattern
  match r.groups with
  | [] => return r.tokens.reverse
  | _ :: _ => throw .unclosedAlternatives

end Glob

end BuildReport
