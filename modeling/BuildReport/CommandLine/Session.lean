import BuildReport.Build.Workspace
import BuildReport.CommandLine
import BuildReport.Config.Load
import BuildReport.Snapshot.Exchange

/-!
# Sessions

A session carries out what a command line asks for, in the directory where the program was started.
It ends with an exit code, with two texts, and with the files as the build has left them. The
markers go to the standard output, one on a line or all as JSON. Messages without a place and the
number of markers go to the other stream. The exit code is zero only if nothing failed, there is no
error among the markers, and every message has a place.

- `Session.run`: a whole session.
- `Session.report`: what is written about the board.
- `Session.explain`: what is written if nothing is asked for that could be done.
-/

namespace BuildReport

/-- What the program leaves behind: an exit code, two texts, and the files. -/
structure Output where
  exit : Nat
  stdout : String
  stderr : String
  files : FileSystem

namespace Session

open Build

/-- What a session depends on: files, the directory where it starts, environment, tools, and the
user's ignore file. -/
structure Surroundings where
  files : FileSystem
  cwd : Path
  environment : Environment
  tools : Invocation → Outcome
  ignores : Ignore.UserFile := .absent

/-- A text of lines. -/
def ofLines (lines : List String) : String :=
  String.join (lines.map (· ++ "\n"))

/-- The markers and the messages without a place as JSON. -/
def toJson (snapshot : Snapshot) (messages : List String) : Json :=
  .object [("markers", snapshot.toJson), ("notifications", .array (messages.map .string))]

/-- What is written about the board, behind the lines already written to the standard error. -/
def report (s : State) (json : Bool) (aborted : List String) : Output :=
  let snapshot := s.board.store.snapshot
  let messages := s.board.notices.messages
  let failed := !aborted.isEmpty || snapshot.count .error > 0 || !messages.isEmpty
  { exit := if failed then 1 else 0
    stdout :=
      if json then ofLines [(toJson snapshot messages).pretty] else ofLines snapshot.lines
    stderr :=
      if json then ofLines aborted
      else ofLines (aborted ++ messages.map ("error: " ++ ·) ++
        (if snapshot.isEmpty then [] else [snapshot.status]))
    files := s.files }

/-- What is written if nothing could be done. -/
def refused (files : FileSystem) (message : String) : Output where
  exit := 1
  stdout := ""
  stderr := ofLines ["Error: " ++ message]
  files

/-- How the program is called. -/
def usage : String :=
  ofLines ["Usage: asmbuild [--root DIR] [--json] COMMAND",
    "  build FILE [--debug]        assemble one source",
    "  workspace                   assemble every source and link",
    "  link FILE... [--exe NAME]   link the objects of the sources"]

/-- What is written if nothing is asked for that could be done. -/
def explain (files : FileSystem) : NoRequest → Output
  | .help => { exit := 0, stdout := usage, stderr := "", files }
  | .usage => { exit := 2, stdout := "", stderr := usage, files }

/-- A session starts with an empty board. -/
def start (files : FileSystem) : State where
  files
  board := .empty
  transcript := .empty
  runs := []

/-- The workspace at the given root. -/
def workspace (around : Surroundings) (root : Path) (config : Config) : Workspace where
  root
  config
  tools := around.tools
  ignores := around.ignores

/-- What a build comes to. Sources with errors are worth a report, any other failure is not. -/
def conclude (json : Bool) (e : Ended α) : Output :=
  match e.result with
  | .ok _ => report e.state json []
  | .error (.compileErrors files) => report e.state json [(Failure.compileErrors files).message]
  | .error failure => refused e.state.files failure.message

/-- A command is carried out. -/
def carryOut (around : Surroundings) (w : Workspace) (json : Bool) (command : Command) : Output :=
  let s := start around.files
  match command with
  | .build file debug =>
    match Document.read around.files (around.cwd.join file) with
    | .error failure => refused around.files failure.message
    | .ok document => conclude json (w.buildDocument document debug s)
  | .workspace => conclude json (w.build s)
  | .link files exe =>
    let sources := files.map around.cwd.join
    conclude json ((w.link sources (exe.getD w.config.linker.exeName) s).next fun found s =>
      ⟨.ok found, w.publish [] found s⟩)

/-- The root of the workspace: the one asked for, or else the directory where the session starts. -/
def rootFrom (cwd : Path) (r : Request) : Path :=
  match r.root with
  | some root => cwd.join root
  | none => cwd

/-- A request is carried out. -/
def handle (around : Surroundings) (r : Request) : Output :=
  let root := rootFrom around.cwd r
  match Config.load around.files around.environment root with
  | .error _ => refused around.files "loading configuration"
  | .ok config => carryOut around (workspace around root config) r.json r.command

/-- What the program does with a command line. -/
def run (around : Surroundings) (args : List String) : Output :=
  match Request.ofArguments args with
  | .ok r => handle around r
  | .error reason => explain around.files reason

end Session

end BuildReport
