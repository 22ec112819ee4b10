import BuildReport.Config
import BuildReport.FileSystem
import BuildReport.Text.Utf8

/-!
# Loading settings

The settings of a workspace stand in a file in its root. If there is none, the file of the user
counts, and if there is none either, every setting has its default.

- `Config.userFile?`: where the user keeps settings.
- `Config.loadFile`: the settings in a file.
- `Config.load`: the settings that hold in a workspace.
-/

namespace BuildReport

namespace Config

/-- Why a file of settings was of no use: it could not be read, or what it holds is no settings. -/
inductive LoadFailure where
  | unreadable (file : Path) (fault : Fault)
  | malformed (file : Path)
  deriving DecidableEq, Repr

/-- The file that a failure is about. -/
def LoadFailure.file : LoadFailure → Path
  | .unreadable file _ => file
  | .malformed file => file

/-- The words for a file that could not be read. -/
def unreadableMessage (file : Path) (fault : Fault) : String :=
  "failed to read config at " ++ file.text ++ ": " ++ fault.message

/-- The path that an environment gives to a name, if it is not empty. -/
def pathIn? (env : Environment) (name : String) : Option Path :=
  match env.value? name.toList with
  | some (c :: rest) => some ⟨String.ofList (c :: rest)⟩
  | _ => none

/-- The directory where the user keeps settings: the one set for this purpose, if it is absolute, or
else one in the home directory. -/
def userDirectory? (env : Environment) : Option Path :=
  match (pathIn? env "XDG_CONFIG_HOME").filter (·.isAbsolute) with
  | some dir => some dir
  | none => (pathIn? env "HOME").map (·.join ⟨".config"⟩)

/-- The file where the user keeps settings. -/
def userFile? (env : Environment) : Option Path :=
  (userDirectory? env).map fun dir => (dir.join ⟨"asmbuild"⟩).join ⟨"config.toml"⟩

/-- The settings in a file. -/
def loadFile (fs : FileSystem) (env : Environment) (file : Path) : Except LoadFailure Config :=
  match fs.read file with
  | .error fault => .error (.unreadable file fault)
  | .ok bytes =>
    match Utf8.decode? bytes with
    | none => .error (.unreadable file .notText)
    | some text =>
      match ofText? env text with
      | none => .error (.malformed file)
      | some config => .ok config

/-- The files that may hold the settings of the workspace at `root`, the first to be looked at
first. -/
def candidates (env : Environment) (root : Path) : List Path :=
  root.join ⟨"asmbuild.toml"⟩ :: (userFile? env).toList

/-- The settings that hold in the workspace at `root`: those of the first file that is there. -/
def load (fs : FileSystem) (env : Environment) (root : Path) : Except LoadFailure Config :=
  match (candidates env root).find? fs.isPresent with
  | some file => loadFile fs env file
  | none => .ok default

end Config

end BuildReport
