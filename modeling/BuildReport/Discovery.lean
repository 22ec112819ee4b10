import BuildReport.Build.Failure
import BuildReport.Config
import BuildReport.Ignore

/-!
# Finding sources

The sources of a workspace are the files below its root that one of the include patterns matches and
none of the exclude patterns. What an ignore file leaves out is not looked at, and neither are hidden
entries that no ignore file keeps, the records of the version control, and the directory for
results. An ignore file rules its directory and all below it. There are three kinds: the first that
says anything about an entry decides, and within a kind the file nearest to the entry. Where none of
them says anything, the ignore file that the user keeps for all directories is asked.

- `Discovery.verdict?`: what the ignore files say about an entry.
- `Discovery.admits`: an entry is looked at.
- `Discovery.walk`: the files that are looked at.
- `Discovery.sources`: the sources, sorted by their trails.
-/

namespace BuildReport

namespace Discovery

open Build

/-- The rules of the ignore files of one directory, by kind. -/
structure Layer where
  place : List String
  general : List Ignore.Rule
  tracked : List Ignore.Rule
  untracked : List Ignore.Rule

/-- The rules in the file at a place below a directory, if there is one. -/
def rulesAt (d : Directory) (names : List String) : List Ignore.Rule :=
  match d.at? names with
  | some (.file bytes) => Ignore.ofBytes bytes
  | _ => []

/-- The rules of the ignore files of a directory. -/
def layer (place : List String) (d : Directory) : Layer where
  place
  general := rulesAt d [".ignore"]
  tracked := rulesAt d [".gitignore"]
  untracked := rulesAt d [".git", "info", "exclude"]

/-- The layers of all directories above a place, the nearest first. -/
def layersAbove (tree : Directory) (place : List String) : List Layer :=
  (List.range place.length).reverse.filterMap fun n =>
    match tree.at? (place.take n) with
    | some (.folder d) => some (layer (place.take n) d)
    | _ => none

/-- The names of a path, joined by separators. -/
def joined (names : List String) : String :=
  "/".intercalate names

/-- What the nearest file of one kind that is about an entry says. -/
def verdictOf? (rules : Layer → List Ignore.Rule) (layers : List Layer) (isDirectory : Bool)
    (place : List String) : Option Ignore.Verdict :=
  layers.findSome? fun l =>
    Ignore.verdict? (rules l) isDirectory (Glob.bytes (joined (place.drop l.place.length)))

/-- What the ignore files say about the entry at a place, which the walk comes upon under a path. The
user's own file has the last word. -/
def verdict? (ignores : Ignore.UserFile) (layers : List Layer) (isDirectory : Bool)
    (place : List String) (path : Path) : Option Ignore.Verdict :=
  (verdictOf? (·.general) layers isDirectory place).orElse fun _ =>
    (verdictOf? (·.tracked) layers isDirectory place).orElse fun _ =>
      (verdictOf? (·.untracked) layers isDirectory place).orElse fun _ =>
        ignores.verdict? isDirectory path

/-- A walk: the root as it was given, its place, the trail of the directory for results, and the
user's ignore file. -/
structure Walk where
  root : Path
  place : List String
  buildDir : Trail
  ignores : Ignore.UserFile

/-- The path of an entry below the root. -/
def Walk.path (w : Walk) (names : List String) : Path :=
  w.root.join ⟨joined names⟩

/-- The name is hidden. -/
def isHidden (name : String) : Bool :=
  name.toList.head? == some '.'

/-- The entry below the root with these names, of which the last is `name`, is looked at. -/
def admits (w : Walk) (layers : List Layer) (isDirectory : Bool) (names : List String)
    (name : String) : Bool :=
  (match verdict? w.ignores layers isDirectory (w.place ++ names) (w.path names) with
    | some .leaveOut => false
    | some .keep => true
    | none => !isHidden name) &&
  name != ".git" && (w.path names).trail != w.buildDir

/-- The files below a directory that are looked at, as names from the root. -/
def walk (w : Walk) (layers : List Layer) (names : List String) : Directory → List (List String)
  | .empty => []
  | .file n _ rest =>
    (if admits w layers false (names ++ [n]) n then [names ++ [n]] else []) ++
      walk w layers names rest
  | .folder n inside rest =>
    (if admits w layers true (names ++ [n]) n then
      walk w (layer (w.place ++ (names ++ [n])) inside :: layers) (names ++ [n]) inside
    else []) ++ walk w layers names rest

/-- The patterns of a list, or the first that is none. -/
def patterns : List String → Except Failure (List (List Glob.Token))
  | [] => .ok []
  | p :: rest =>
    match Glob.read false p.toList with
    | .error e => .error (.invalidGlob p e)
    | .ok tokens => (patterns rest).map (tokens :: ·)

/-- One of the patterns matches the path with these names. -/
def matchesAny (globs : List (List Glob.Token)) (names : List String) : Bool :=
  globs.any fun tokens => Glob.isMatch tokens (Glob.bytes (joined names))

/-- The paths are in the order of their trails. -/
def pathLe (a b : Path) : Bool :=
  Trail.le a.trail b.trail

/-- The sources of the workspace at `root`, for a user who keeps the given ignore file. -/
def sources (fs : FileSystem) (root : Path) (config : Config)
    (ignores : Ignore.UserFile := .absent) : Except Failure (List Path) := do
  match fs.locate root with
  | .error _ => throw (.missingRoot root)
  | .ok place =>
    match fs.tree.at? place with
    | some (.folder d) =>
      let includes ← patterns config.linker.includes
      let excludes ← patterns config.linker.excludes
      let w : Walk := { root, place, buildDir := (config.buildDir root).trail, ignores }
      let found := walk w (layer place d :: layersAbove fs.tree place) [] d
      let chosen := found.filter fun names =>
        matchesAny includes names && !matchesAny excludes names
      return (chosen.map w.path).mergeSort pathLe
    | _ => throw (.missingRoot root)

end Discovery

end BuildReport
