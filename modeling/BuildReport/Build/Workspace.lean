import BuildReport.Board
import BuildReport.Build.Object
import BuildReport.Discovery
import BuildReport.Include
import BuildReport.Report.Assembler
import BuildReport.Report.Linker
import BuildReport.Tool
import BuildReport.Transcript

/-!
# Builds

A workspace has a root, settings, and tools. Assembling a source puts an object into the directory
for results, which is made if it is missing. A whole build assembles every source, and links the
objects if no source was reported on. What the tools have to say is shown on the board, one pass for
all sources and one for the linker.

- `Workspace.assemble`, `Workspace.compile`, `Workspace.buildDocument`: one source.
- `Workspace.link`: the objects of given sources.
- `Workspace.build`: everything.
-/

namespace BuildReport

namespace Document

/-- The document that a path leads to. Bytes that are no text are replaced. -/
def read (fs : FileSystem) (source : Path) : Except Build.Failure Document :=
  match fs.read source with
  | .ok bytes => .ok (.ofText source (Utf8.decode bytes))
  | .error fault => .error (.readSource source fault)

end Document

/-- A root, settings, what becomes of every tool that is run, and the user's ignore file. -/
structure Workspace where
  root : Path
  config : Config
  tools : Invocation → Outcome
  ignores : Ignore.UserFile := .absent

namespace Build

/-- What a build changes: the files, the board, the transcript, and the runs. -/
structure State where
  files : FileSystem
  board : Board
  transcript : Transcript
  runs : List Invocation

/-- What a build comes to, and the state after it. -/
structure Ended (α : Type) where
  result : Except Failure α
  state : State

namespace Ended

/-- The next part of a build, which a failure leaves out. -/
def next (e : Ended α) (f : α → State → Ended β) : Ended β :=
  match e.result with
  | .ok a => f a e.state
  | .error failure => ⟨.error failure, e.state⟩

end Ended

/-- A build that fails and changes nothing. -/
def fail (failure : Failure) (s : State) : Ended α :=
  ⟨.error failure, s⟩

end Build

namespace Workspace

open Build

/-- The directory for results. -/
def buildDir (w : Workspace) : Path :=
  w.config.buildDir w.root

/-- A tool is run, and its report read. -/
def run (w : Workspace) (i : Invocation) (parse : List Char → List Diagnostic) (s : State) :
    Ended (List Diagnostic) :=
  let ran := (w.tools i).read i parse
  { result := .ok ran.diagnostics
    state := { s with transcript := s.transcript.append ran.trace, runs := s.runs ++ [i] } }

/-- How a source is assembled. -/
def assembling (w : Workspace) (source : Path) (debug : Bool) : Invocation where
  command := ⟨w.config.assembler.command⟩
  args := w.config.assemblerArguments source (objectPath w.buildDir source) debug
  cwd := w.root
  environment := none
  report := .stderr

/-- How the objects of the sources are linked. -/
def linking (w : Workspace) (sources : List Path) (exe : String) : Invocation where
  command := ⟨w.config.linker.command⟩
  args := w.config.linkerArguments sources exe w.buildDir
  cwd := w.root
  environment := none
  report := .stderr

/-- A source is assembled. -/
def assemble (w : Workspace) (source : Path) (debug : Bool) (s : State) :
    Ended (List Diagnostic) :=
  if !w.config.assembler.enabled then fail .assemblerDisabled s
  else if !s.files.isDirectory w.root then fail (.missingRoot w.root) s
  else
    match s.files.makeDirectories w.buildDir with
    | .error fault => fail (.createBuildDir w.buildDir fault) s
    | .ok files => w.run (w.assembling source debug) AssemblerReport.parse { s with files }

/-- A document is assembled, and what the assembler says is anchored in it. -/
def compile (w : Workspace) (document : Document) (debug : Bool) (s : State) :
    Ended (List Diagnostic) :=
  (w.assemble document.path debug s).next fun found s =>
    ⟨.ok (found.map (Diagnostic.anchor document)), s⟩

/-- What was found is shown, the given documents being open. -/
def publish (w : Workspace) (documents : List Document) (found : List Diagnostic) (s : State) :
    State :=
  { s with board := s.board.reconcile (some w.root) documents found .both }

/-- A document is assembled, and what the assembler says is shown. -/
def buildDocument (w : Workspace) (document : Document) (debug : Bool) (s : State) :
    Ended (List Diagnostic) :=
  (w.compile document debug s).next fun found s => ⟨.ok found, w.publish [document] found s⟩

/-- The objects of the sources are linked. -/
def link (w : Workspace) (sources : List Path) (exe : String) (s : State) :
    Ended (List Diagnostic) :=
  if !w.config.linker.enabled then fail .linkerDisabled s
  else if !s.files.isDirectory w.root then fail (.missingRoot w.root) s
  else w.run (w.linking sources exe) LinkerReport.parse s

/-- The sources of the workspace as documents, or the first failure to read one. -/
def documents (w : Workspace) (fs : FileSystem) : Except Failure (List Document) := do
  let sources ← Discovery.sources fs w.root w.config w.ignores
  sources.mapM (Document.read fs)

/-- Every document is compiled; what was found stands in the order of the documents. -/
def compileAll (w : Workspace) : List Document → State → Ended (List (List Diagnostic))
  | [], s => ⟨.ok [], s⟩
  | document :: rest, s =>
    (w.compile document false s).next fun found s =>
      (compileAll w rest s).next fun more s => ⟨.ok (found :: more), s⟩

/-- The whole workspace is built. -/
def build (w : Workspace) (s : State) : Ended (List Diagnostic) :=
  if !w.config.linker.enabled then fail .linkerDisabled s
  else
    match w.documents s.files with
    | .error failure => fail failure s
    | .ok documents =>
      (w.compileAll documents s).next fun found s =>
        let s := w.publish documents found.flatten s
        match found.countP (!·.isEmpty) with
        | 0 =>
          (w.link (documents.map (·.path)) w.config.linker.exeName s).next fun found s =>
            ⟨.ok found, w.publish [] found s⟩
        | files => fail (.compileErrors files) s

end Workspace

end BuildReport
