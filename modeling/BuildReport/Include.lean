import BuildReport.Diagnostic
import BuildReport.Document
import BuildReport.Text.Fold
import BuildReport.Text.Scan

/-!
# Include directives

A tool that cannot open an included file says which one, in angle brackets, but not on which line
it was included. That line can be found in the source: it is the first that begins with the
directive `include "` and the name.

- `Include.bracketedName?`: the name that a message brackets.
- `Include.opens`: a line begins with the directive for a name.
- `Document.includeLine?`: the first such line of a document.
- `Diagnostic.anchor`: a diagnostic moved to the line that included the file.
-/

namespace BuildReport

open Text

namespace Include

/-- The name behind an opening bracket: one or more characters, up to the last closing bracket. -/
def nameAfterBracket? (s : List Char) : Option (List Char) :=
  match upToLast '>' s with
  | some (c :: name) => some (c :: name)
  | _ => none

/-- The name in a line behind the last opening bracket that a name follows. -/
def nameInLine? : List Char → Option (List Char)
  | [] => none
  | c :: rest =>
    match nameInLine? rest with
    | some name => some name
    | none => if c = '<' then nameAfterBracket? rest else none

/-- The name that a message brackets, in the first of its lines that brackets one. -/
def bracketedName? (message : List Char) : Option (List Char) :=
  (splitLines message).findSome? nameInLine?

/-- The text starts with the name, up to letter case. -/
def startsWithName : (name s : List Char) → Bool
  | [], _ => true
  | _ :: _, [] => false
  | n :: name, c :: s => sameLetter n c && startsWithName name s

/-- What stands behind the opening quote, if the line begins with the directive. -/
def quoted? (line : List Char) : Option (List Char) := do
  let rest ← afterWordAnyCase "include".toList (trimStart line)
  let rest ← afterBlanks rest
  afterWord ['"'] rest

/-- The line begins with the directive and with the name behind its opening quote. -/
def opens (name line : List Char) : Bool :=
  (quoted? line).any (startsWithName name)

end Include

namespace Document

/-- The first line, counted from zero, that begins with the directive for the name. -/
def includeLine? (d : Document) (name : List Char) : Option Nat :=
  d.lines.findIdx? fun line => Include.opens name line.toList

theorem includeLine?_lt {d : Document} {name : List Char} {index : Nat}
    (h : d.includeLine? name = some index) : index < d.lineCount :=
  (List.findIdx?_eq_some_iff_getElem.mp h).1

end Document

namespace Diagnostic

/-- The line of a diagnostic after a look at the document: a diagnostic that has no line gets the
one that included the file it names, if there is such a line. -/
def anchoredLine (document : Document) (d : Diagnostic) : Int :=
  if d.isGlobal then
    match (Include.bracketedName? d.message.toList).bind document.includeLine? with
    | some index => (index : Int) + 1
    | none => d.line
  else d.line

/-- A diagnostic moved to the line of the document that included the file it names. One that names
no file is about the document. -/
def anchor (document : Document) (d : Diagnostic) : Diagnostic :=
  { d with
    file := if d.file = "" then document.path.text else d.file
    line := anchoredLine document d }

@[simp] theorem anchor_message (document : Document) (d : Diagnostic) :
    (d.anchor document).message = d.message := rfl

/-- A diagnostic that has a line keeps it. -/
theorem anchor_line_of_not_isGlobal {document : Document} {d : Diagnostic}
    (h : d.isGlobal = false) : (d.anchor document).line = d.line := by
  simp [anchor, anchoredLine, h]

end Diagnostic

end BuildReport
