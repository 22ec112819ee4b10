import BuildReport.CommandLine.Session

/-!
# What a session looks at

A session looks at the workspace, at the ignore files of the directories above it, at the settings
of the user, and at the source that a build names. The ignore file that the user keeps for all
directories is not among its files: the session is told what it says. Whatever else is on the disk
counts for the tools only.

- `Reach.workspace?`: the directory that is looked at as a whole.
- `Reach.singleFiles`: the files that are looked at besides.
- `Reach.userIgnores?`: where the user's ignore file usually is.
-/

namespace BuildReport

namespace Reach

/-- The names that lead from the root to what a path denotes. -/
def place (p : Path) : List String :=
  p.normalize.trail.filterMap fun
    | .name n => some n
    | _ => none

/-- The path that leads to a place from the root. -/
def pathTo (names : List String) : Path :=
  ⟨"/" ++ "/".intercalate names⟩

/-- The workspace that a command line asks for, read from the directory `cwd`. -/
def workspace? (cwd : Path) (args : List String) : Option Path :=
  match Request.ofArguments args with
  | .ok r => some (Session.rootFrom cwd r)
  | .error _ => none

/-- The source that a command names. -/
def source? (cwd : Path) (args : List String) : Option Path :=
  match Request.ofArguments args with
  | .ok { command := .build file _, .. } => some (cwd.join file)
  | _ => none

/-- The ignore files of a directory. -/
def ignoreFiles (names : List String) : List (List String) :=
  [[".ignore"], [".gitignore"], [".git", "info", "exclude"]].map (names ++ ·)

/-- The places of the ignore files in all directories above a place. -/
def ignoreFilesAbove (names : List String) : List (List String) :=
  (List.range names.length).flatMap fun n => ignoreFiles (names.take n)

/-- The places of the files outside the workspace that a session looks at. -/
def singleFiles (cwd : Path) (environment : Environment) (args : List String) :
    List (List String) :=
  ((workspace? cwd args).toList.flatMap fun root => ignoreFilesAbove (place root)) ++
    ((Config.userFile? environment).toList ++ (source? cwd args).toList).map place

/-- Where the user's ignore file is, unless it has been moved. -/
def userIgnores? (environment : Environment) : Option Path :=
  (Config.userDirectory? environment).map fun dir => (dir.join ⟨"git"⟩).join ⟨"ignore"⟩

end Reach

end BuildReport
