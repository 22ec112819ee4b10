import BuildReport.Glob.Reader
import BuildReport.Path
import BuildReport.Text.Blank
import BuildReport.Text.Lines
import BuildReport.Text.Utf8

/-!
# Ignore files

An ignore file has one rule on a line. A rule is a glob pattern that says which entries are left
out, or, behind an exclamation mark, which are kept all the same. The last rule that matches an
entry decides. A pattern with a separator is matched against the whole path from the directory of
the file, any other against the names in it and below it. A separator at its end restricts a rule to
directories. Lines that hold no pattern are skipped, and so is all from the first line on that is no
text.

Besides the ignore files in the tree there is one that the user keeps for all directories. Where it
is, and from which directory its patterns count, is not settled here: it is taken for what it says.

- `Ignore.Rule.ofLine?`: the rule on a line.
- `Ignore.ofBytes`: the rules of a file.
- `Ignore.verdict?`: what the rules say about an entry.
- `Ignore.UserFile`: what the user's file says about an entry.
-/

namespace BuildReport

namespace Ignore

/-- One rule. -/
structure Rule where
  tokens : List Glob.Token
  keeps : Bool
  directoriesOnly : Bool

/-- What the rules say about an entry. -/
inductive Verdict where
  | leaveOut
  | keep
  deriving DecidableEq, Repr

/-- The text behind `front`, if it starts with it. -/
def after? (front s : List Char) : Option (List Char) :=
  if front.isPrefixOf s then some (s.drop front.length) else none

/-- A line without blanks at its end, unless the last of them is escaped. -/
def trimLine (line : List Char) : List Char :=
  if ['\\', ' '].isSuffixOf line then line else Text.trimEnd line

/-- The marks at the start of a line: an escaped mark stands for itself, an exclamation mark keeps,
and a separator ties the pattern to the directory. Answers what keeps, what ties, and the rest. -/
def marks (line : List Char) : Bool × Bool × List Char :=
  match line with
  | '\\' :: '!' :: rest => (false, false, '!' :: rest)
  | '\\' :: '#' :: rest => (false, false, '#' :: rest)
  | _ =>
    let (keeps, line) := match after? ['!'] line with
      | some rest => (true, rest)
      | none => (false, line)
    match after? ['/'] line with
    | some rest => (keeps, true, rest)
    | none => (keeps, false, line)

/-- A line without the separator at its end, escaped or not, and whether there was one. -/
def directoryMark (line : List Char) : Bool × List Char :=
  match line.reverse with
  | '/' :: '\\' :: rest => (true, rest.reverse)
  | '/' :: rest => (true, rest.reverse)
  | _ => (false, line)

/-- The pattern that is matched against the path from the directory of the file. -/
def pattern (tied : Bool) (line : List Char) : List Char :=
  let line :=
    if tied || line.contains '/' || line = ['*', '*'] then line
    else ['*', '*', '/'] ++ line
  if ['/', '*', '*'].isSuffixOf line then line ++ ['/', '*'] else line

/-- The rule on a line. A comment holds none, and neither does a line without a pattern. -/
def Rule.ofLine? (line : List Char) : Option Rule :=
  if line.head? = some '#' then none
  else
    match trimLine line with
    | [] => none
    | line =>
      let (keeps, tied, line) := marks line
      let (directoriesOnly, line) := directoryMark line
      match Glob.read true (pattern tied line) with
      | .ok tokens => some { tokens, keeps, directoriesOnly }
      | .error _ => none

/-- The pieces up to the first that is no text, which counts as an end of the file. -/
def readable : List (List UInt8) → List (List Char)
  | [] => []
  | piece :: rest =>
    match Utf8.decode? piece with
    | some line => line :: readable rest
    | none => [[]]

/-- The lines of a file up to the first that is no text. -/
def textLines (bytes : List UInt8) : List (List Char) :=
  Text.documentPieces (readable (Utf8.pieces 10 bytes))

/-- The rules of a file, in the order of their lines. A byte order mark at its start is no part of
the first line. -/
def ofBytes (bytes : List UInt8) : List Rule :=
  match textLines bytes with
  | [] => []
  | first :: lines => ((first.dropWhile (· = '\uFEFF')) :: lines).filterMap Rule.ofLine?

/-- The rule is about the entry with this path from the directory of the file. -/
def Rule.applies (r : Rule) (isDirectory : Bool) (path : List UInt8) : Bool :=
  (!r.directoriesOnly || isDirectory) && Glob.isMatch r.tokens path

/-- What the last rule says that is about an entry. -/
def verdict? (rules : List Rule) (isDirectory : Bool) (path : List UInt8) : Option Verdict :=
  match rules.reverse.find? (·.applies isDirectory path) with
  | some r => some (if r.keeps then .keep else .leaveOut)
  | none => none

/-- The ignore file that the user keeps for all directories: what it says about the entry that a
walk comes upon under a path. -/
structure UserFile where
  verdict? (isDirectory : Bool) (path : Path) : Option Verdict

namespace UserFile

/-- The user keeps no such file. -/
def absent : UserFile where
  verdict? _ _ := none

/-- A file with these bytes, its patterns being tied to the root of all directories. -/
def fromRoot (bytes : List UInt8) : UserFile where
  verdict? isDirectory path :=
    let names := (after? ['/'] path.text.toList).getD path.text.toList
    Ignore.verdict? (ofBytes bytes) isDirectory (Glob.bytes (String.ofList names))

end UserFile

end Ignore

end BuildReport
