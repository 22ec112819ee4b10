import BuildReport.Toml.Draft
import BuildReport.Toml.Quoted
import BuildReport.Toml.Scalar

/-!
# TOML files

A file is a sequence of lines: a key with its value, the header of a table, or nothing, each with a
comment behind it or not. Inside brackets and braces a value may run over several lines. A file may
start with a byte order mark.

- `simpleKey?`, `dottedKey?`: keys.
- `value?`: a value and what follows.
- `ofText?`: the table that a file holds.
-/

namespace BuildReport

namespace Toml

open Quoted Draft

/-- The character is a blank inside a line. -/
def isGap (c : Char) : Bool :=
  c = ' ' || c = '\t'

/-- The text without the blanks it starts with. -/
def skipGap (s : List Char) : List Char :=
  s.dropWhile isGap

/-- The text behind blanks, line ends and comments; `inComment` says whether a comment is open.
Nothing if what stands there is no comment. -/
def skipLines (inComment : Bool) : List Char → Option (List Char)
  | [] => some []
  | '\r' :: '\n' :: rest => skipLines false rest
  | c :: rest =>
    if c = '\n' then skipLines false rest
    else if inComment then if isPlain c then skipLines true rest else none
    else if isGap c then skipLines false rest
    else if c = '#' then skipLines true rest
    else some (c :: rest)

/-- The text behind the rest of a line on which nothing but a comment may stand. -/
def afterLine? (s : List Char) : Option (List Char) :=
  let s := skipGap s
  let s := if s.head? = some '#' then s.dropWhile isPlain else s
  match s with
  | [] => some []
  | '\n' :: rest => some rest
  | '\r' :: '\n' :: rest => some rest
  | _ => none

/-- The character may stand in a key without quotes. -/
def isKeyPart (c : Char) : Bool :=
  c.isAlphanum || c = '_' || c = '-'

/-- A key without dots, and what follows. -/
def simpleKey? : List Char → Option (String × List Char)
  | '"' :: rest => (basic? rest).map fun (key, rest) => (String.ofList key, rest)
  | '\'' :: rest => (literal? rest).map fun (key, rest) => (String.ofList key, rest)
  | s =>
    match s.takeWhile isKeyPart with
    | [] => none
    | key => some (String.ofList key, s.dropWhile isKeyPart)

/-- Reads on behind the keys read so far, which are kept in reverse; the last one read comes apart.
At most `fuel` keys follow. -/
def dottedKeyFrom (path : List String) : (fuel : Nat) → List Char →
    Option ((List String × String) × List Char)
  | 0, _ => none
  | fuel + 1, s => do
    let (key, s) ← simpleKey? (skipGap s)
    match skipGap s with
    | '.' :: rest => dottedKeyFrom (key :: path) fuel rest
    | rest => return ((path.reverse, key), rest)

/-- A key with its path, and what follows behind blanks. -/
def dottedKey? (s : List Char) : Option ((List String × String) × List Char) :=
  dottedKeyFrom [] (s.length + 1) s

/-- How deep brackets and braces may be nested. -/
def maxDepth : Nat := 80

mutual

/-- A value inside which brackets may be nested `depth` deep, and what follows. -/
def valueFrom (fuel depth : Nat) (s : List Char) : Option (Toml × List Char) :=
  match fuel with
  | 0 => none
  | fuel + 1 =>
    match s with
    | '"' :: '"' :: '"' :: rest =>
      (longBasic? rest).map fun (text, rest) => (.string (String.ofList text), rest)
    | '"' :: rest => (basic? rest).map fun (text, rest) => (.string (String.ofList text), rest)
    | '\'' :: '\'' :: '\'' :: rest =>
      (longLiteral? rest).map fun (text, rest) => (.string (String.ofList text), rest)
    | '\'' :: rest => (literal? rest).map fun (text, rest) => (.string (String.ofList text), rest)
    | '[' :: rest => if depth = 0 then none else itemsFrom fuel (depth - 1) [] rest
    | '{' :: rest => if depth = 0 then none else entriesFrom fuel (depth - 1) [] rest
    | s => scalar? s

/-- The items of an array up to its bracket, behind those read so far, which are kept in reverse. -/
def itemsFrom (fuel depth : Nat) (done : List Toml) (s : List Char) :
    Option (Toml × List Char) :=
  match fuel with
  | 0 => none
  | fuel + 1 => do
    match ← skipLines false s with
    | ']' :: rest => return (.array done.reverse, rest)
    | s =>
      let (item, s) ← valueFrom fuel depth s
      match ← skipLines false s with
      | ',' :: rest => itemsFrom fuel depth (item :: done) rest
      | ']' :: rest => return (.array (item :: done).reverse, rest)
      | _ => none

/-- The entries of an inline table up to its brace, added to those read so far. -/
def entriesFrom (fuel depth : Nat) (done : Entries) (s : List Char) :
    Option (Toml × List Char) :=
  match fuel with
  | 0 => none
  | fuel + 1 => do
    match ← skipLines false s with
    | '}' :: rest => return (.table (finish done), rest)
    | s =>
      let ((path, key), s) ← dottedKey? s
      match s with
      | '=' :: s =>
        let (found, s) ← valueFrom fuel depth (skipGap s)
        let done ← put? true path key found done
        match ← skipLines false s with
        | ',' :: rest => entriesFrom fuel depth done rest
        | '}' :: rest => return (.table (finish done), rest)
        | _ => none
      | _ => none

end

/-- A value, and what follows. -/
def value? (s : List Char) : Option (Toml × List Char) :=
  valueFrom (2 * s.length + 2) maxDepth s

/-- What has been read of a file: its tables, and the path of the table that lines add to. -/
structure Reading where
  root : Entries
  current : List String

/-- A header up to the end of its line. -/
def header? (r : Reading) (s : List Char) : Option (Reading × List Char) :=
  match s with
  | '[' :: rest => do
    let ((path, key), rest) ← dottedKey? rest
    match rest with
    | ']' :: ']' :: rest =>
      let root ← change? (append? key) path r.root
      return ({ root, current := path ++ [key] }, ← afterLine? rest)
    | _ => none
  | s => do
    let ((path, key), rest) ← dottedKey? s
    match rest with
    | ']' :: rest =>
      let root ← change? (define? key) path r.root
      return ({ root, current := path ++ [key] }, ← afterLine? rest)
    | _ => none

/-- A key and its value up to the end of their line. -/
def assignment? (r : Reading) (s : List Char) : Option (Reading × List Char) := do
  let ((path, key), rest) ← dottedKey? s
  match rest with
  | '=' :: rest =>
    let (found, rest) ← value? (skipGap rest)
    let root ← change? (put? true path key found) r.current r.root
    return ({ r with root }, ← afterLine? rest)
  | _ => none

/-- Reads on line by line. Every line takes at least one character. -/
def readFrom (r : Reading) : (fuel : Nat) → List Char → Option Reading
  | 0, _ => none
  | fuel + 1, s => do
    match ← skipLines false s with
    | [] => return r
    | '[' :: rest =>
      let (r, rest) ← header? r rest
      readFrom r fuel rest
    | s =>
      let (r, rest) ← assignment? r s
      readFrom r fuel rest

/-- The entries of the table that a file holds. -/
def ofText? (s : List Char) : Option (List (String × Toml)) :=
  let s := match s with
    | '\uFEFF' :: rest => rest
    | s => s
  (readFrom { root := [], current := [] } (s.length + 1) s).map fun r => finish r.root

end Toml

end BuildReport
