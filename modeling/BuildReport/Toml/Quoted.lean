/-!
# Quoted strings in TOML

There are four kinds of quoted strings. Between double quotes a backslash begins an escape, between
single quotes it does not. Between one quote at each end the string stays on its line. Between
three it may have several lines, a line end right behind the opening quotes does not count, one or
two quotes may stand in it anywhere, and with double quotes a backslash at the end of a line removes
the line end and all blanks and line ends that follow.

Each reader starts behind the opening quotes and answers the text and what follows the closing ones.

- `basic?`, `literal?`: strings on one line.
- `longBasic?`, `longLiteral?`: strings over several lines.
-/

namespace BuildReport

namespace Toml

namespace Quoted

/-- The character may stand in a string or in a comment: it is no control character but the tab. -/
def isPlain (c : Char) : Bool :=
  c = '\t' || (0x20 ≤ c.toNat && c.toNat ≠ 0x7F)

/-- The value of a hexadecimal digit. -/
def hexDigit? (c : Char) : Option Nat :=
  if '0' ≤ c ∧ c ≤ '9' then some (c.toNat - '0'.toNat)
  else if 'a' ≤ c ∧ c ≤ 'f' then some (c.toNat - 'a'.toNat + 10)
  else if 'A' ≤ c ∧ c ≤ 'F' then some (c.toNat - 'A'.toNat + 10)
  else none

/-- The character with this code point, if there is one. -/
def scalar? (n : Nat) : Option Char :=
  if n < 0xD800 ∨ (0xE000 ≤ n ∧ n < 0x110000) then some (Char.ofNat n) else none

/-- Where a reader stands between double quotes: in plain text, behind a backslash, or in an escape
that still owes `owed + 1` hexadecimal digits. -/
inductive Mode where
  | plain
  | escaped
  | hex (owed value : Nat)
  deriving DecidableEq, Repr

/-- What a character behind a backslash yields, and how reading goes on. -/
def unescape? (c : Char) : Option (List Char × Mode) :=
  match c with
  | 'b' => some (['\x08'], .plain)
  | 't' => some (['\t'], .plain)
  | 'n' => some (['\n'], .plain)
  | 'f' => some (['\x0c'], .plain)
  | 'r' => some (['\r'], .plain)
  | 'e' => some (['\x1b'], .plain)
  | '"' => some (['"'], .plain)
  | '\\' => some (['\\'], .plain)
  | 'x' => some ([], .hex 1 0)
  | 'u' => some ([], .hex 3 0)
  | 'U' => some ([], .hex 7 0)
  | _ => none

/-- What a character yields, and how reading goes on. -/
def step? : Mode → Char → Option (List Char × Mode)
  | .plain, c =>
    if c = '\\' then some ([], .escaped) else if isPlain c then some ([c], .plain) else none
  | .escaped, c => unescape? c
  | .hex owed value, c =>
    match hexDigit? c with
    | none => none
    | some d =>
      match owed with
      | 0 => (scalar? (value * 16 + d)).map fun found => ([found], .plain)
      | owed + 1 => some ([], .hex owed (value * 16 + d))

/-- Reads on with the text read so far, kept in reverse. -/
def basicFrom (done : List Char) : Mode → List Char → Option (List Char × List Char)
  | _, [] => none
  | mode, c :: rest =>
    if mode = .plain ∧ c = '"' then some (done.reverse, rest)
    else
      match step? mode c with
      | some (made, mode) => basicFrom (made ++ done) mode rest
      | none => none

/-- A string between double quotes. -/
def basic? (s : List Char) : Option (List Char × List Char) :=
  basicFrom [] .plain s

/-- Reads on with the text read so far, kept in reverse. -/
def literalFrom (done : List Char) : List Char → Option (List Char × List Char)
  | [] => none
  | c :: rest =>
    if c = '\'' then some (done.reverse, rest)
    else if isPlain c then literalFrom (c :: done) rest
    else none

/-- A string between single quotes. -/
def literal? (s : List Char) : Option (List Char × List Char) :=
  literalFrom [] s

/-- The text without the line end that it may start with. -/
def dropLineEnd : List Char → List Char
  | '\n' :: rest => rest
  | '\r' :: '\n' :: rest => rest
  | s => s

/-- Where a reader stands between triple quotes: in the text, behind a run of one to five quotes,
behind a backslash that a line end has to follow, or behind that line end. -/
inductive LongMode where
  | text (mode : Mode)
  | quotes (count : Nat)
  | beforeLineEnd
  | afterLineEnd
  deriving DecidableEq, Repr

/-- The quotes that a run of five at most holds besides the closing three, put before the text read
so far. -/
def closing (quote : Char) (count : Nat) (done : List Char) : List Char :=
  (List.replicate (count - 3) quote ++ done).reverse

/-- What a character of the text yields, and how reading goes on. A carriage return stands only
right before a line feed, which `next` is then. -/
def longStep? (mode : Mode) (c : Char) (next : Option Char) : Option (List Char × LongMode) :=
  match mode with
  | .plain =>
    if c = '"' then some ([], .quotes 1)
    else if c = '\n' ∨ (c = '\r' ∧ next = some '\n') then some ([c], .text .plain)
    else (step? .plain c).map fun (made, mode) => (made, .text mode)
  | .escaped =>
    if c = ' ' ∨ c = '\t' then some ([], .beforeLineEnd)
    else if c = '\n' then some ([], .afterLineEnd)
    else if c = '\r' ∧ next = some '\n' then some ([], .beforeLineEnd)
    else (step? .escaped c).map fun (made, mode) => (made, .text mode)
  | mode => (step? mode c).map fun (made, mode) => (made, .text mode)

/-- Reads on with the text read so far, kept in reverse. -/
def longBasicFrom (done : List Char) : LongMode → List Char → Option (List Char × List Char)
  | .quotes count, [] => if count < 3 then none else some (closing '"' count done, [])
  | _, [] => none
  | .text mode, c :: rest =>
    match longStep? mode c rest.head? with
    | some (made, mode) => longBasicFrom (made ++ done) mode rest
    | none => none
  | .quotes count, c :: rest =>
    if c = '"' then
      if count < 5 then longBasicFrom done (.quotes (count + 1)) rest else none
    else if count < 3 then
      match longStep? .plain c rest.head? with
      | some (made, mode) =>
        longBasicFrom (made ++ List.replicate count '"' ++ done) mode rest
      | none => none
    else some (closing '"' count done, c :: rest)
  | .beforeLineEnd, c :: rest =>
    if c = ' ' ∨ c = '\t' then longBasicFrom done .beforeLineEnd rest
    else if c = '\n' then longBasicFrom done .afterLineEnd rest
    else if c = '\r' ∧ rest.head? = some '\n' then longBasicFrom done .beforeLineEnd rest
    else none
  | .afterLineEnd, c :: rest =>
    if c = ' ' ∨ c = '\t' ∨ c = '\n' ∨ (c = '\r' ∧ rest.head? = some '\n') then
      longBasicFrom done .afterLineEnd rest
    else
      match longStep? .plain c rest.head? with
      | some (made, mode) => longBasicFrom (made ++ done) mode rest
      | none => none

/-- A string between triple double quotes. -/
def longBasic? (s : List Char) : Option (List Char × List Char) :=
  longBasicFrom [] (.text .plain) (dropLineEnd s)

/-- Reads on with the text read so far, kept in reverse, and the number of quotes right before. -/
def longLiteralFrom (done : List Char) (count : Nat) : List Char → Option (List Char × List Char)
  | [] => if count < 3 then none else some (closing '\'' count done, [])
  | c :: rest =>
    if c = '\'' then
      if count < 5 then longLiteralFrom done (count + 1) rest else none
    else if 3 ≤ count then some (closing '\'' count done, c :: rest)
    else if isPlain c ∨ c = '\n' ∨ (c = '\r' ∧ rest.head? = some '\n') then
      longLiteralFrom (c :: (List.replicate count '\'' ++ done)) 0 rest
    else none

/-- A string between triple single quotes. -/
def longLiteral? (s : List Char) : Option (List Char × List Char) :=
  longLiteralFrom [] 0 (dropLineEnd s)

end Quoted

end Toml

end BuildReport
