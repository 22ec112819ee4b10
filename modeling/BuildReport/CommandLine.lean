import BuildReport.Path

/-!
# Command lines

A command line names one of three commands: `build` one source, build the whole `workspace`, or
`link` the objects of given sources. Options begin with two dashes. Two of them, for the root and for
JSON, may stand before the command and behind it, and the one behind it counts. A lone `--` ends the
options. An option that is given twice in one place, one that the command does not have, a path
without characters, and a value too many or too few are refused.

- `Request`: what is asked for.
- `Request.ofArguments`: reading a command line.
-/

namespace BuildReport

/-- What is to be done. -/
inductive Command where
  | build (file : Path) (debug : Bool)
  | workspace
  | link (files : List Path) (exe : Option String)
  deriving DecidableEq, Repr

/-- What is asked for, and where and how it is reported. -/
structure Request where
  root : Option Path
  json : Bool
  command : Command
  deriving DecidableEq, Repr

/-- Why there is nothing to do: help is asked for, or the command line makes no sense. -/
inductive NoRequest where
  | help
  | usage
  deriving DecidableEq, Repr

namespace CommandLine

/-- Where arguments stand: before the command, or behind it. -/
inductive Position where
  | beforeCommand
  | build
  | workspace
  | link
  deriving DecidableEq, Repr

/-- The command of this name. -/
def Position.ofName? (name : String) : Option Position :=
  if name = "build" then some .build
  else if name = "workspace" then some .workspace
  else if name = "link" then some .link
  else none

/-- The arguments found in one position. -/
structure Found where
  root : Option String := none
  json : Bool := false
  debug : Bool := false
  exe : Option String := none
  values : List String := []
  deriving DecidableEq, Repr

/-- An argument by its form. -/
inductive Form where
  | escape
  | long (name : String) (value : Option String)
  | short (name : Char)
  | value
  deriving DecidableEq, Repr

/-- The form of an argument. A lone dash is a value. -/
def form (arg : String) : Form :=
  match arg.toList with
  | ['-', '-'] => .escape
  | '-' :: '-' :: rest =>
    let name := String.ofList (rest.takeWhile (· ≠ '='))
    match rest.dropWhile (· ≠ '=') with
    | [] => .long name none
    | _ :: value => .long name (some (String.ofList value))
  | '-' :: c :: _ => .short c
  | _ => .value

/-- What an option is for. -/
inductive Kind where
  | flag (set : Found → Option Found)
  | valued (set : Found → String → Option Found)
  | help

/-- A path must not be empty. -/
def pathValue? (value : String) : Option String :=
  if value = "" then none else some value

/-- The option of this name in a position. What may be set only once fails the second time. -/
def option? (position : Position) (name : String) : Option Kind :=
  if name = "json" then
    some (.flag fun f => if f.json then none else some { f with json := true })
  else if name = "root" then
    some (.valued fun f value =>
      if f.root.isSome then none else (pathValue? value).map fun v => { f with root := some v })
  else if name = "help" then some .help
  else if name = "debug" ∧ position = .build then
    some (.flag fun f => if f.debug then none else some { f with debug := true })
  else if name = "exe" ∧ position = .link then
    some (.valued fun f value => if f.exe.isSome then none else some { f with exe := some value })
  else none

/-- The values that a position has room for. -/
def hasRoom (position : Position) (f : Found) : Bool :=
  match position with
  | .beforeCommand => false
  | .build => f.values.isEmpty
  | .workspace => false
  | .link => true

/-- One value more. -/
def addValue (position : Position) (f : Found) (value : String) : Except NoRequest Found :=
  if hasRoom position f && value != "" then .ok { f with values := f.values ++ [value] }
  else .error .usage

/-- The arguments in one position, and behind a command's name its position and what follows. -/
def read (position : Position) (f : Found) :
    List String → Except NoRequest (Found × Option (Position × List String))
  | [] => .ok (f, none)
  | arg :: rest =>
    match form arg with
    | .escape => (rest.foldlM (addValue position) f).map (·, none)
    | .short c => .error (if c = 'h' then .help else .usage)
    | .long name value =>
      match option? position name, value with
      | some .help, none => .error .help
      | some (.flag set), none =>
        match set f with
        | some f => read position f rest
        | none => .error .usage
      | some (.valued set), some value =>
        match set f value with
        | some f => read position f rest
        | none => .error .usage
      | some (.valued set), none =>
        match rest with
        | value :: rest =>
          match form value, set f value with
          | .value, some f => read position f rest
          | _, _ => .error .usage
        | [] => .error .usage
      | _, _ => .error .usage
    | .value =>
      if position = .beforeCommand then
        if arg = "help" then .error (helpOn rest)
        else
          match Position.ofName? arg with
          | some command => .ok (f, some (command, rest))
          | none => .error .usage
      else
        match addValue position f arg with
        | .ok f => read position f rest
        | .error e => .error e
where
  /-- Help is asked for on the program or on one of its commands. -/
  helpOn : List String → NoRequest
    | [] => .help
    | [name] => if name = "help" ∨ (Position.ofName? name).isSome then .help else .usage
    | _ => .usage

/-- The command that the arguments behind its name ask for. -/
def command? (position : Position) (f : Found) : Option Command :=
  match position, f.values with
  | .build, [file] => some (.build ⟨file⟩ f.debug)
  | .workspace, [] => some .workspace
  | .link, file :: files => some (.link ((file :: files).map Path.mk) f.exe)
  | _, _ => none

end CommandLine

open CommandLine in
/-- What a command line asks for. -/
def Request.ofArguments (args : List String) : Except NoRequest Request := do
  let (outer, next) ← read .beforeCommand {} args
  match next with
  | none => throw .usage
  | some (position, rest) =>
    let (inner, _) ← read position {} rest
    match command? position inner with
    | none => throw .usage
    | some command =>
      return {
        root := (inner.root.orElse fun _ => outer.root).map Path.mk
        json := inner.json || outer.json
        command }

end BuildReport
