import BuildReport.Diagnostic
import BuildReport.Text.Lines
import BuildReport.Text.Scan

/-!
# Assembler reports

An assembler writes one diagnostic a line, in one of two forms:

    error 2 in line 7 of "main.s": unknown mnemonic <mvoe>
    fatal error 13 : could not open <hardware/custom.i> for input

The located form may begin anywhere in the line. Its kind is `error`, `warning` or `message`, and
the file name reaches up to the last `":` of the line. A line in the located form whose line number
is too large, or not in ASCII digits, is dropped. Any other line that holds `error`, a code and a
colon is an error without a place, reported as it stands. All else is noise, and so are lines of
fewer than two bytes and lines that echo the source after a `>`.

- `Located`: the fields of the located form; `Located.diagnostic?` is what they report.
- `located?`, `unlocated?`: the two forms, from a given place on.
- `ofLine?`: what a line reports.
- `parse`: what a whole report says.
- `parse_append_newline`: a report says what its parts say.
-/

namespace BuildReport

namespace AssemblerReport

open Text

/-- The fields of a diagnostic in the located form. -/
structure Located where
  kind : List Char
  code : List Char
  line : List Char
  file : List Char
  rest : List Char
  deriving DecidableEq, Repr

/-- The kinds of a located diagnostic. -/
def kinds : List (List Char) :=
  ["error".toList, "warning".toList, "message".toList]

/-- The kind that the text starts with, and the text after it. -/
def kind? (s : List Char) : Option (List Char × List Char) :=
  kinds.findSome? fun kind => (afterWord kind s).map fun after => (kind, after)

/-- The located form at the start of the text. -/
def located? (s : List Char) : Option Located := do
  let (kind, s) ← kind? s
  let s ← afterBlank s
  let (code, s) ← digits? s
  let s ← afterBlank s
  let s ← afterWord "in".toList s
  let s ← afterBlank s
  let s ← afterWord "line".toList s
  let s ← afterBlank s
  let (line, s) ← digits? s
  let s ← afterBlank s
  let s ← afterWord "of".toList s
  let s ← afterBlank s
  let s ← afterWord ['"'] s
  let (file, s) ← quotedName? s
  return { kind, code, line, file, rest := trimStart s }

/-- The form of an error without a place, at the start of the text. -/
def unlocated? (s : List Char) : Option Unit := do
  let s ← afterWord "error".toList s
  let s ← afterBlank s
  let (_, s) ← digits? s
  let _ ← afterWord [':'] (trimStart s)
  return ()

/-- The diagnostic that the fields report, if the line number can be read. -/
def Located.diagnostic? (f : Located) : Option Diagnostic :=
  (lineNumber? f.line).map fun line =>
    .located (String.ofList f.file) line
      (String.ofList (f.kind ++ ' ' :: f.code ++ ':' :: ' ' :: f.rest))
      (.ofLabel (String.ofList f.kind))

/-- The located form, wherever in the line it begins first. -/
def findLocated (line : List Char) : Option Located :=
  search (fun _ => located?) none line

/-- The line holds an error without a place. -/
def hasUnlocated (line : List Char) : Bool :=
  (search (fun _ => unlocated?) none line).isSome

/-- What a line reports that is no noise by its looks. -/
def ofLine? (line : List Char) : Option Diagnostic :=
  match findLocated line with
  | some fields => fields.diagnostic?
  | none =>
    if hasUnlocated line then some (.unlocated (String.ofList line) .error) else none

/-- How many bytes the line takes in UTF-8. -/
def byteLength (line : List Char) : Nat :=
  (line.map fun c => c.utf8Size).foldr (· + ·) 0

/-- Lines that are too short and lines that echo the source say nothing. -/
def isNoise (line : List Char) : Bool :=
  byteLength line ≤ 1 || line.head? == some '>'

/-- What a report says, line by line. -/
def parse (text : List Char) : List Diagnostic :=
  (reportLines text).filterMap fun line => if isNoise line then none else ofLine? line

/-- What two reports say one after the other is what the first says and then what the second. -/
theorem parse_append_newline (s t : List Char) :
    parse (s ++ '\n' :: t) = parse s ++ parse t := by
  simp [parse, reportLines, splitLines_append_newline]

end AssemblerReport

end BuildReport
