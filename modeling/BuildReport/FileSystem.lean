import BuildReport.Path

/-!
# File systems

A file system is a tree of directories, whose entries are files and directories with a name each. A
path leads from the root, or from the directory where the program runs, piece by piece to an entry.
Every piece but the last must name a directory, and so must the last if a separator follows it.

- `Directory.find?`: what a name stands for.
- `FileSystem.locate`: the place that a path leads to, as names from the root.
- `FileSystem.isDirectory`, `FileSystem.isPresent`, `FileSystem.read`: what is there.
- `FileSystem.makeDirectories`: a directory and all that are missing on the way to it.
- `Fault.message`: why an operation failed.
-/

namespace BuildReport

/-- The entries of a directory. -/
inductive Directory where
  | empty
  | file (name : String) (bytes : List UInt8) (rest : Directory)
  | folder (name : String) (inside rest : Directory)
  deriving Repr, Inhabited

/-- What a name in a directory stands for. -/
inductive Entry where
  | file (bytes : List UInt8)
  | folder (inside : Directory)
  deriving Repr

/-- Why a path leads nowhere, or to the wrong kind of entry. -/
inductive Fault where
  | notFound
  | alreadyExists
  | notDirectory
  | isDirectory
  | nameTooLong
  | nulInName
  | notText
  | noParent
  deriving DecidableEq, Repr

/-- The words for a fault. -/
def Fault.message : Fault → String
  | .notFound => "No such file or directory (os error 2)"
  | .alreadyExists => "File exists (os error 17)"
  | .notDirectory => "Not a directory (os error 20)"
  | .isDirectory => "Is a directory (os error 21)"
  | .nameTooLong => "File name too long (os error 36)"
  | .nulInName => "file name contained an unexpected NUL byte"
  | .notText => "stream did not contain valid UTF-8"
  | .noParent => "failed to create whole tree"

namespace Directory

/-- What a name stands for, if there is an entry of this name. -/
def find? : Directory → String → Option Entry
  | .empty, _ => none
  | .file n bytes rest, name => if n = name then some (.file bytes) else rest.find? name
  | .folder n inside rest, name => if n = name then some (.folder inside) else rest.find? name

/-- The directory with one entry more, unless its name is taken. -/
def add (d : Directory) (name : String) (e : Entry) : Directory :=
  match d.find? name with
  | some _ => d
  | none =>
    match e with
    | .file bytes => .file name bytes d
    | .folder inside => .folder name inside d

/-- The directory with the entries of one of its directories changed. -/
def inFolder (f : Directory → Directory) : Directory → String → Directory
  | .empty, _ => .empty
  | .file n bytes rest, name => .file n bytes (inFolder f rest name)
  | .folder n inside rest, name =>
    if n = name then .folder n (f inside) rest else .folder n inside (inFolder f rest name)

/-- What is at a place. -/
def at? : Directory → List String → Option Entry
  | d, [] => some (.folder d)
  | d, name :: names =>
    match d.find? name, names with
    | some (.folder inside), names => inside.at? names
    | some (.file bytes), [] => some (.file bytes)
    | _, _ => none

/-- The tree with one entry more in the directory at a place. -/
def addAt (name : String) (e : Entry) : List String → Directory → Directory
  | [], d => d.add name e
  | step :: steps, d => inFolder (addAt name e steps) d step

/-- The tree with an entry at a place. Directories that are missing on the way are made, and what is
there already stays. -/
def plant (e : Entry) : List String → Directory → Directory
  | [], d => d
  | [name], d => d.add name e
  | name :: next :: names, d =>
    inFolder (plant e (next :: names)) (d.add name (.folder .empty)) name

/-- The places of all directories in a tree, below the place `above`. -/
def folders (above : List String) : Directory → List (List String)
  | .empty => []
  | .file _ _ rest => rest.folders above
  | .folder name inside rest =>
    (above ++ [name]) :: inside.folders (above ++ [name]) ++ rest.folders above

/-- The names of the entries. -/
def names : Directory → List String
  | .empty => []
  | .file n _ rest => n :: rest.names
  | .folder n _ rest => n :: rest.names

/-- A new entry is found under its name. -/
theorem find?_add_self {d : Directory} {name : String} (h : d.find? name = none) (e : Entry) :
    (d.add name e).find? name = some e := by
  cases e <;> simp [add, h, find?]

/-- A new entry leaves the others alone. -/
theorem find?_add_other (d : Directory) {name other : String} (h : name ≠ other) (e : Entry) :
    (d.add name e).find? other = d.find? other := by
  unfold add
  split
  · rfl
  · cases e <;> simp [find?, h]

end Directory

/-- A tree of directories, and the place where the program runs. -/
structure FileSystem where
  tree : Directory
  here : List String
  deriving Repr, Inhabited

namespace FileSystem

/-- The longest name in bytes. -/
def maxName : Nat := 255

/-- One piece of a path, taken from a directory: it stays, goes back, or leads to an entry. At the
root a piece back stays. -/
def step (tree : Directory) (place : List String) (piece : List Char) :
    Except Fault (List String) :=
  match tree.at? place with
  | some (.folder inside) =>
    if piece = [] ∨ piece = ['.'] then .ok place
    else if piece = ['.', '.'] then .ok place.dropLast
    else
      let name := String.ofList piece
      if maxName < name.utf8ByteSize then .error .nameTooLong
      else
        match inside.find? name with
        | some _ => .ok (place ++ [name])
        | none => .error .notFound
  | some (.file _) => .error .notDirectory
  | none => .error .notFound

/-- The place where a path starts: the root, or where the program runs. -/
def start (fs : FileSystem) (p : Path) : List String :=
  if p.isAbsolute then [] else fs.here

/-- The place that a path leads to. -/
def locate (fs : FileSystem) (p : Path) : Except Fault (List String) :=
  if Char.ofNat 0 ∈ p.text.toList then .error .nulInName
  else if p.text.toList = [] then .error .notFound
  else (Path.pieces p.text.toList).foldlM (step fs.tree) (fs.start p)

/-- What a path leads to. -/
def entry (fs : FileSystem) (p : Path) : Except Fault Entry := do
  let place ← fs.locate p
  match fs.tree.at? place with
  | some e => return e
  | none => throw .notFound

/-- The path leads to a directory. -/
def isDirectory (fs : FileSystem) (p : Path) : Bool :=
  match fs.entry p with
  | .ok (.folder _) => true
  | _ => false

/-- The path leads somewhere. -/
def isPresent (fs : FileSystem) (p : Path) : Bool :=
  match fs.entry p with
  | .ok _ => true
  | .error _ => false

/-- The bytes of the file that a path leads to. -/
def read (fs : FileSystem) (p : Path) : Except Fault (List UInt8) := do
  match ← fs.entry p with
  | .file bytes => return bytes
  | .folder _ => throw .isDirectory

/-- The pieces of a path without the separators at its end. -/
def withoutEnd (pieces : List (List Char)) : List (List Char) :=
  (pieces.reverse.dropWhile (· = [])).reverse

/-- A new directory where a path leads, in a directory that is already there. -/
def makeDirectory (fs : FileSystem) (p : Path) : Except Fault FileSystem :=
  if Char.ofNat 0 ∈ p.text.toList then .error .nulInName
  else if p.text.toList = [] then .error .notFound
  else
    match (withoutEnd (Path.pieces p.text.toList)).reverse with
    | [] => .error .alreadyExists
    | last :: earlier => do
      let place ← earlier.reverse.foldlM (step fs.tree) (fs.start p)
      match step fs.tree place last with
      | .ok _ => throw .alreadyExists
      | .error .notFound =>
        return { fs with tree := fs.tree.addAt (String.ofList last) (.folder .empty) place }
      | .error fault => throw fault

/-- The path of the directory that the last step of a path is taken from. -/
def parent? (p : Path) : Option Path :=
  match p.trail.reverse with
  | [] => none
  | [.root] => none
  | _ :: before => some (Trail.path before.reverse)

/-- A directory that another one can be made in, made if it is missing, on a way of at most `fuel`
steps: if a directory cannot be made because what leads to it is missing, that is made first. -/
def makeWay (fs : FileSystem) : (fuel : Nat) → Path → Except Fault FileSystem
  | 0, _ => .error .notFound
  | fuel + 1, p =>
    if p.text.toList = [] then .ok fs
    else
      match fs.makeDirectory p with
      | .ok made => .ok made
      | .error .notFound =>
        match parent? p with
        | none => .error .noParent
        | some above => do
          let made ← fs.makeWay fuel above
          match made.makeDirectory p with
          | .ok made => return made
          | .error fault => if made.isDirectory p then return made else throw fault
      | .error fault => if fs.isDirectory p then .ok fs else .error fault

/-- A directory, and all that are missing on the way to it. -/
def makeDirectories (fs : FileSystem) (p : Path) : Except Fault FileSystem :=
  fs.makeWay (p.trail.length + 1) p

end FileSystem

end BuildReport
