import BuildReport.Environment
import BuildReport.Path
import BuildReport.Toml.File

/-!
# Settings

The settings say which tools to run, with which options, on which sources, and where to put the
results. They are read from a TOML file of four sections. A setting that is missing has a default. A
section may also be written as an array of its settings in their order, of which the last may be
missing. In every text, references to the environment are replaced once, after reading.

- `Config.default`: the settings of an empty file.
- `Config.ofToml?`: the settings that a table holds.
- `Config.expand`: the settings with references replaced.
- `Config.ofText?`: the settings that a file holds.
- `Config.buildDir`, `Config.killHelper`: paths read from the root of the workspace.
-/

namespace BuildReport

/-- How sources are assembled. -/
structure AssemblerConfig where
  enabled : Bool
  command : String
  options : List String
  deriving DecidableEq, Repr

/-- Which sources there are and how their objects are linked. -/
structure LinkerConfig where
  enabled : Bool
  command : String
  options : List String
  includes : List String
  excludes : List String
  exeName : String
  deriving DecidableEq, Repr

/-- The settings of a workspace. -/
structure Config where
  assembler : AssemblerConfig
  linker : LinkerConfig
  dir : Path
  helper : Option Path
  deriving DecidableEq, Repr

namespace Config

/-- The settings of an empty file. -/
def default : Config where
  assembler :=
    { enabled := true
      command := "vasmm68k_mot"
      options := ["-m68000", "-Fhunk", "-devpac"] }
  linker :=
    { enabled := true
      command := "vlink"
      options := ["-bamigahunk", "-Bstatic"]
      includes := ["**/*.s"]
      excludes := []
      exeName := "a.out" }
  dir := ⟨"build"⟩
  helper := none

instance : Inhabited Config := ⟨default⟩

/-- A section of the file: settings by name or by place. -/
inductive Section where
  | named (entries : List (String × Toml))
  | listed (items : List Toml)

namespace Section

/-- The section that a key of the file holds. A missing one is empty, and a date counts as a section
without settings. -/
def ofEntries? (entries : List (String × Toml)) (key : String) : Option Section :=
  match Toml.lookup entries key with
  | none => some (.named [])
  | some (.table inner) => some (.named inner)
  | some (.array items) => some (.listed items)
  | some .date => some (.named [])
  | some _ => none

/-- A setting, by its name and by its place. -/
def get? : Section → String → Nat → Option Toml
  | .named entries, key, _ => Toml.lookup entries key
  | .listed items, _, place => items[place]?

/-- The value of a setting, or the default if the setting is missing. -/
def read? (s : Section) (key : String) (place : Nat) (fallback : α) (read : Toml → Option α) :
    Option α :=
  match s.get? key place with
  | none => some fallback
  | some value => read value

/-- What stands under any other name does not matter, but its numbers must be numbers. -/
def othersRepresentable (s : Section) (known : List String) : Bool :=
  match s with
  | .named entries => entries.all fun (key, value) => known.contains key || value.representable
  | .listed _ => true

end Section

/-- The settings of the assembler. -/
def assemblerOf? (s : Section) : Option AssemblerConfig := do
  let d := default.assembler
  guard (s.othersRepresentable ["enabled", "command", "options"])
  return {
    enabled := ← s.read? "enabled" 0 d.enabled Toml.asBool?
    command := ← s.read? "command" 1 d.command Toml.asString?
    options := ← s.read? "options" 2 d.options Toml.asStrings? }

/-- The settings of the linker. -/
def linkerOf? (s : Section) : Option LinkerConfig := do
  let d := default.linker
  guard (s.othersRepresentable
    ["enabled", "command", "options", "includes", "excludes", "exe_name"])
  return {
    enabled := ← s.read? "enabled" 0 d.enabled Toml.asBool?
    command := ← s.read? "command" 1 d.command Toml.asString?
    options := ← s.read? "options" 2 d.options Toml.asStrings?
    includes := ← s.read? "includes" 3 d.includes Toml.asStrings?
    excludes := ← s.read? "excludes" 4 d.excludes Toml.asStrings?
    exeName := ← s.read? "exe_name" 5 d.exeName Toml.asString? }

/-- A path. -/
def asPath? (value : Toml) : Option Path :=
  value.asString?.map Path.mk

/-- The directory for results. -/
def dirOf? (s : Section) : Option Path := do
  guard (s.othersRepresentable ["dir"])
  s.read? "dir" 0 default.dir asPath?

/-- The script that ends a tool and what it has started. -/
def helperOf? (s : Section) : Option (Option Path) := do
  guard (s.othersRepresentable ["kill_helper"])
  s.read? "kill_helper" 0 default.helper fun value => (asPath? value).map some

/-- The settings that a table holds. -/
def ofToml? (entries : List (String × Toml)) : Option Config := do
  guard ((Section.named entries).othersRepresentable ["assembler", "linker", "build", "process"])
  return {
    assembler := ← assemblerOf? (← Section.ofEntries? entries "assembler")
    linker := ← linkerOf? (← Section.ofEntries? entries "linker")
    dir := ← dirOf? (← Section.ofEntries? entries "build")
    helper := ← helperOf? (← Section.ofEntries? entries "process") }

/-- A path with references replaced. -/
def expandPath (env : Environment) (p : Path) : Path :=
  ⟨env.expand p.text⟩

/-- The settings with the references in every text replaced. -/
def expand (env : Environment) (c : Config) : Config where
  assembler :=
    { c.assembler with
      command := env.expand c.assembler.command
      options := c.assembler.options.map env.expand }
  linker :=
    { c.linker with
      command := env.expand c.linker.command
      options := c.linker.options.map env.expand
      includes := c.linker.includes.map env.expand
      excludes := c.linker.excludes.map env.expand
      exeName := env.expand c.linker.exeName }
  dir := expandPath env c.dir
  helper := c.helper.map (expandPath env)

/-- The settings that the text of a file holds, references not yet replaced. -/
def decode? (text : List Char) : Option Config :=
  (Toml.ofText? text).bind ofToml?

/-- The settings that a file holds. -/
def ofText? (env : Environment) (text : List Char) : Option Config :=
  (decode? text).map (expand env)

/-- The directory for results, read from the root of the workspace. -/
def buildDir (c : Config) (root : Path) : Path :=
  root.join c.dir

/-- The script that ends tools, read from the root of the workspace. -/
def killHelper (c : Config) (root : Path) : Option Path :=
  c.helper.map root.join

end Config

end BuildReport
