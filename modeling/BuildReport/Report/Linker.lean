import BuildReport.Diagnostic
import BuildReport.Text.Lines
import BuildReport.Text.Scan

/-!
# Linker reports

A linker mixes its diagnostics with banners and listings, and wraps long messages onto indented
lines:

    error 21 : main.o (CODE+0x12): Reference to undefined symbol
        _custom.
    warning 5 in line 2 of "main.s": oh no

A header opens a message. It is a located warning or an error, begins at the start of a word, and
may be written in any case. The indented lines that follow a header directly carry its message on,
each trimmed and after one blank. A blank line or any other text closes the message.

- `LinkerReport.located?`, `LinkerReport.unlocated?`: the two kinds of header, at a given place.
- `header?`: the diagnostic that a line opens.
- `step`: what a line does to the open message.
- `parse`: what a whole report says.
-/

namespace BuildReport

namespace LinkerReport

open Text

/-- The fields of a located warning. -/
structure Located where
  code : List Char
  line : List Char
  file : List Char
  rest : List Char
  deriving DecidableEq, Repr

/-- A located warning at the start of the text, after the character `before`. -/
def located? (before : Option Char) (s : List Char) : Option Located := do
  guard (wordStarts before)
  let s ← afterWordAnyCase "warning".toList s
  let s ← afterBlanks s
  let (code, s) ← digits? s
  let s ← afterBlanks s
  let s ← afterWordAnyCase "in".toList s
  let s ← afterBlanks s
  let s ← afterWordAnyCase "line".toList s
  let s ← afterBlanks s
  let (line, s) ← digits? s
  let s ← afterBlanks s
  let s ← afterWordAnyCase "of".toList s
  let s ← afterBlanks s
  let s ← afterWord ['"'] s
  let (file, s) ← quotedName? s
  return { code, line, file, rest := trimStart s }

/-- An error at the start of the text, after the character `before`. -/
def unlocated? (before : Option Char) (s : List Char) : Option Unit := do
  guard (wordStarts before)
  let s ← afterWordAnyCase "error".toList s
  let s ← afterBlanks s
  let (_, s) ← digits? s
  let _ ← afterWord [':'] (trimStart s)
  return ()

/-- The diagnostic that the fields report, if the line number can be read. -/
def Located.diagnostic? (f : Located) : Option Diagnostic :=
  (lineNumber? f.line).map fun line =>
    .located (String.ofList f.file) line
      (String.ofList ("warning ".toList ++ f.code ++ ':' :: ' ' :: f.rest)) .warning

/-- The diagnostic that a line opens. A located warning whose line number cannot be read opens
nothing, even where it could also be read as an error. -/
def header? (line : List Char) : Option Diagnostic :=
  match search located? none line with
  | some fields => fields.diagnostic?
  | none =>
    if (search unlocated? none line).isSome then
      some (.unlocated (String.ofList (trimEnd line)) .error)
    else none

/-- The line may carry on an open message: it has text and begins with a blank. -/
def continues (line : List Char) : Bool :=
  !allBlank line && line.head?.any isBlank

/-- A message with a further line put behind it. -/
def extend (d : Diagnostic) (line : List Char) : Diagnostic :=
  { d with message := d.message ++ " " ++ String.ofList (trim line) }

/-- The messages read so far: the closed ones, newest first, and the open one. -/
structure State where
  closed : List Diagnostic
  opened : Option Diagnostic
  deriving DecidableEq, Repr

/-- The open message closed. -/
def State.close (s : State) : State :=
  { closed := s.opened.toList ++ s.closed, opened := none }

/-- What a line does: open a message, carry one on, or close it. -/
def step (s : State) (line : List Char) : State :=
  match header? line with
  | some d => { s.close with opened := some d }
  | none =>
    if continues line then { s with opened := s.opened.map (extend · line) }
    else s.close

/-- What a report says. -/
def parse (text : List Char) : List Diagnostic :=
  (((reportLines text).foldl step { closed := [], opened := none }).close).closed.reverse

end LinkerReport

end BuildReport
