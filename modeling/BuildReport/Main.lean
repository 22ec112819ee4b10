import BuildReport.CommandLine.Reach

/-!
# The program

The program reads what a session looks at from the disk, carries the session out, makes the
directories that the session has made, and writes its two texts. It starts no tools: every tool
counts as one that cannot be started, which reports nothing. The user's ignore file is looked for at
its usual place only.

- `Disk.read`: the part of the disk that a session looks at.
- `Disk.ignores`: what the user's ignore file says.
- `main`: the program.
-/

namespace BuildReport

namespace Disk

/-- The bytes at a path, if there is a file that can be read. -/
def file? (p : Path) : IO (Option Entry) := do
  match ← (IO.FS.readBinFile p.text).toBaseIO with
  | .ok bytes => return some (.file bytes.toList)
  | .error _ => return none

/-- What is on the disk under the entries of a directory. What cannot be read is left out, and so
are links. -/
partial def folder (entries : Array IO.FS.DirEntry) : IO Directory :=
  entries.foldlM (fun d e => do
    match (← e.path.symlinkMetadata).type with
    | .dir => return .folder e.fileName (← folder (← e.path.readDir)) d
    | .file =>
      match ← file? ⟨e.path.toString⟩ with
      | some (.file bytes) => return .file e.fileName bytes d
      | _ => return d
    | _ => return d) .empty

/-- The directory at a path, if there is one that can be read. -/
def folder? (p : Path) : IO (Option Entry) := do
  match ← (do folder (← (← IO.FS.realPath p.text).readDir)).toBaseIO with
  | .ok inside => return some (.folder inside)
  | .error _ => return none

/-- The part of the disk that a session looks at. -/
def read (cwd : Path) (environment : Environment) (args : List String) : IO FileSystem := do
  let whole ← (Reach.workspace? cwd args).toList.filterMapM fun root => do
    return (← folder? root).map (Reach.place root, ·)
  let single ← (Reach.singleFiles cwd environment args).filterMapM fun names => do
    return (← file? (Reach.pathTo names)).map (names, ·)
  let tree := (whole ++ single).foldl (fun tree (names, e) => tree.plant e names) .empty
  return { tree, here := Reach.place cwd }

/-- The settings of the environment that the program runs in. -/
def environment : IO Environment := do
  return .ofBlock (← IO.FS.readBinFile "/proc/self/environ").toList

/-- The user's ignore file, if there is one at its usual place. -/
def ignores (environment : Environment) : IO Ignore.UserFile := do
  match ← (Reach.userIgnores? environment).bindM file? with
  | some (.file bytes) => return .fromRoot bytes
  | _ => return .absent

end Disk

end BuildReport

open BuildReport in
/-- The program: a session in the current directory. -/
def main (args : List String) : IO UInt32 := do
  let cwd : Path := ⟨(← IO.currentDir).toString⟩
  let environment ← Disk.environment
  let files ← Disk.read cwd environment args
  let ignores ← Disk.ignores environment
  let out := Session.run { files, cwd, environment, tools := fun _ => .notStarted, ignores } args
  for place in out.files.tree.folders [] do
    IO.FS.createDirAll (Reach.pathTo place).text
  IO.print out.stdout
  IO.eprint out.stderr
  return UInt32.ofNat out.exit
