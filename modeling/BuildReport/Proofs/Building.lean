import BuildReport.Proofs.Objects
import BuildReport.Proofs.Reconcile

/-!
# What a build comes to

A build makes its checks first: the linker is enabled, the sources are found and read, and, if there
are any, the assembler is enabled and the directory for results is there or can be made. Once that
directory is there it stays, so nothing but the reports of the tools decides what happens after.

- `Workspace.assemble_eq`: a source is assembled if the workspace is ready.
- `Workspace.ready_of_ready`: a workspace that is ready stays so.
- `Workspace.compileAll_eq`: the first source decides whether all are assembled.
- `Workspace.checks`, `Workspace.Cleared`: the checks, as they are made and as what they ask for.
- `Workspace.refusal_of_checks`: checks fail for any other reason than compile errors.
- `Workspace.build_eq`: a build makes its checks, and nothing can fail behind them.
-/

namespace BuildReport

/-! ## Steps that can fail -/

theorem bind_eq_error {α β ε : Type} {x : Except ε α} {f : α → Except ε β} {e : ε}
    (h : x >>= f = .error e) : x = .error e ∨ ∃ a, x = .ok a ∧ f a = .error e := by
  cases x with
  | error e' =>
    cases h
    exact .inl rfl
  | ok a => exact .inr ⟨a, rfl, h⟩

theorem bind_eq_ok {α β ε : Type} {x : Except ε α} {f : α → Except ε β} {b : β}
    (h : x >>= f = .ok b) : ∃ a, x = .ok a ∧ f a = .ok b := by
  cases x with
  | error e => cases h
  | ok a => exact ⟨a, rfl, h⟩

theorem mapM_eq_ok_iff {α β ε : Type} {f : α → Except ε β} {l : List α} {r : List β} :
    l.mapM f = .ok r ↔ List.Forall₂ (fun a b => f a = .ok b) l r := by
  induction l generalizing r with
  | nil =>
    rw [List.mapM_nil, List.forall₂_nil_left_iff]
    exact ⟨fun h => (Except.ok.inj h).symm, fun h => congrArg Except.ok h.symm⟩
  | cons a l ih =>
    rw [List.mapM_cons, List.forall₂_cons_left_iff]
    constructor
    · intro h
      obtain ⟨b, hfirst, h⟩ := bind_eq_ok h
      obtain ⟨more, hrest, h⟩ := bind_eq_ok h
      cases h
      exact ⟨b, more, hfirst, ih.mp hrest, rfl⟩
    · rintro ⟨b, more, hfirst, hrest, rfl⟩
      rw [hfirst, ih.mpr hrest]
      rfl

theorem mapM_eq_error {α β ε : Type} {f : α → Except ε β} {l : List α} {e : ε}
    (h : l.mapM f = .error e) : ∃ a ∈ l, f a = .error e := by
  induction l with
  | nil => cases h
  | cons a l ih =>
    rw [List.mapM_cons] at h
    rcases bind_eq_error h with hfirst | ⟨b, -, h⟩
    · exact ⟨a, List.mem_cons_self, hfirst⟩
    · rcases bind_eq_error h with hrest | ⟨more, -, h⟩
      · obtain ⟨a', ha', hfail⟩ := ih hrest
        exact ⟨a', List.mem_cons_of_mem a ha', hfail⟩
      · cases h

/-- The build is refused: it fails, and not for compile errors. -/
def Build.Failure.IsRefusal : Build.Failure → Prop
  | .compileErrors _ => False
  | _ => True

/-! ## Running tools -/

namespace Outcome

/-- What the tool wrote to the standard error. -/
def stderr : Outcome → List UInt8
  | .notStarted => []
  | .finished _ _ stderr => stderr

theorem diagnostics_read {i : Invocation} (h : i.report = .stderr)
    {parse : List Char → List Diagnostic} (hparse : parse [] = []) (o : Outcome) :
    (o.read i parse).diagnostics = parse (Utf8.decode o.stderr) := by
  cases o with
  | notStarted => exact hparse.symm
  | finished success stdout stderr => exact diagnostics_read_stderr h parse success stdout stderr

/-- The lines that show a run do not depend on how its report is read. -/
theorem trace_read (i : Invocation) (parse parse' : List Char → List Diagnostic) (o : Outcome) :
    (o.read i parse).trace = (o.read i parse').trace := by
  cases o with
  | notStarted => rfl
  | finished success stdout stderr =>
    rw [read, read]
    split <;> rfl

end Outcome

namespace Build.Ended

variable {α β : Type} (f : α → Build.State → Build.Ended β)

@[simp] theorem next_ok (a : α) (s : Build.State) :
    (⟨.ok a, s⟩ : Build.Ended α).next f = f a s := rfl

@[simp] theorem next_fail (failure : Build.Failure) (s : Build.State) :
    (Build.fail failure s : Build.Ended α).next f = Build.fail failure s := rfl

end Build.Ended

namespace Workspace

open Build

variable {w : Workspace} {fs files : FileSystem} {s : State} {documents : List Document}
  {failure : Failure}

/-- The lines that show the run of a tool. -/
def shown (w : Workspace) (i : Invocation) : List String :=
  ((w.tools i).read i fun _ => []).trace

/-- The state after tools were run. -/
def ran (w : Workspace) (runs : List Invocation) (s : State) : State :=
  { s with
    transcript := s.transcript.append (runs.flatMap w.shown)
    runs := s.runs ++ runs }

@[simp] theorem ran_nil (w : Workspace) (s : State) : w.ran [] s = s := by
  simp [ran]

theorem ran_ran (w : Workspace) (runs more : List Invocation) (s : State) :
    w.ran more (w.ran runs s) = w.ran (runs ++ more) s := by
  simp [ran, Transcript.append_append]

/-- What a tool reports on the standard error. -/
def report (w : Workspace) (i : Invocation) (parse : List Char → List Diagnostic) :
    List Diagnostic :=
  parse (Utf8.decode (w.tools i).stderr)

/-- A run gives what the tool reports, and shows that it was run. -/
theorem run_eq {i : Invocation} (h : i.report = .stderr) {parse : List Char → List Diagnostic}
    (hparse : parse [] = []) (s : State) :
    w.run i parse s = ⟨.ok (w.report i parse), w.ran [i] s⟩ := by
  rw [run, Outcome.diagnostics_read h hparse, Outcome.trace_read i parse fun _ => []]
  simp [ran, shown, report]

/-! ## What assembling needs -/

/-- The files when a source can be assembled, or why it cannot be. -/
def ready (w : Workspace) (fs : FileSystem) : Except Failure FileSystem :=
  if !w.config.assembler.enabled then .error .assemblerDisabled
  else if !fs.isDirectory w.root then .error (.missingRoot w.root)
  else
    match fs.makeDirectories w.buildDir with
    | .error fault => .error (.createBuildDir w.buildDir fault)
    | .ok files => .ok files

theorem ready_eq_ok_iff : w.ready fs = .ok files ↔
    w.config.assembler.enabled = true ∧ fs.isDirectory w.root = true ∧
      fs.makeDirectories w.buildDir = .ok files := by
  unfold ready
  cases w.config.assembler.enabled with
  | false => simp
  | true =>
    cases fs.isDirectory w.root with
    | false => simp
    | true => cases fs.makeDirectories w.buildDir <;> simp

theorem hasStart_buildDir (h : fs.isDirectory w.root = true) : fs.HasStart w.buildDir := by
  have hroot := FileSystem.ne_nil_of_isDirectory h
  have hstart := FileSystem.hasStart_of_isDirectory h
  rw [buildDir, Config.buildDir]
  cases hdir : w.config.dir.isAbsolute with
  | true =>
    rw [Path.join_of_isAbsolute hdir, FileSystem.HasStart, FileSystem.start, if_pos hdir]
    rfl
  | false =>
    rw [FileSystem.HasStart, FileSystem.start, Path.isAbsolute_join hroot hdir]
    exact hstart

theorem extends_of_ready (h : w.ready fs = .ok files) : fs.Extends files :=
  FileSystem.makeDirectories_extends (ready_eq_ok_iff.mp h).2.2

/-- **A workspace that is ready stays so**: the directory that was made is there. -/
theorem ready_of_ready (h : w.ready fs = .ok files) : w.ready files = .ok files := by
  obtain ⟨henabled, hroot, hmake⟩ := ready_eq_ok_iff.mp h
  have hdir : files.isDirectory w.buildDir = true :=
    FileSystem.isDirectory_of_makeDirectories
      (buildDir_ne_nil (FileSystem.ne_nil_of_isDirectory hroot)) (hasStart_buildDir hroot) hmake
  exact ready_eq_ok_iff.mpr ⟨henabled,
    FileSystem.isDirectory_of_extends (extends_of_ready h) hroot,
    FileSystem.makeDirectories_of_isDirectory hdir⟩

/-- What the assembler says about a source. -/
def heard (w : Workspace) (source : Path) (debug : Bool) : List Diagnostic :=
  w.report (w.assembling source debug) AssemblerReport.parse

/-- What the assembler says about a document, anchored in it. -/
def found (w : Workspace) (debug : Bool) (document : Document) : List Diagnostic :=
  (w.heard document.path debug).map (Diagnostic.anchor document)

theorem assemble_eq (source : Path) (debug : Bool) :
    w.assemble source debug s =
      match w.ready s.files with
      | .error failure => fail failure s
      | .ok files =>
        ⟨.ok (w.heard source debug), w.ran [w.assembling source debug] { s with files }⟩ := by
  unfold assemble ready
  split
  · rfl
  · split
    · rfl
    · cases s.files.makeDirectories w.buildDir with
      | error fault => rfl
      | ok files => exact run_eq rfl (by decide) _

theorem compile_of_refused (h : w.ready s.files = .error failure) (document : Document)
    (debug : Bool) : w.compile document debug s = fail failure s := by
  rw [compile, assemble_eq, h, Ended.next_fail]

theorem compile_of_ready (h : w.ready s.files = .ok files) (document : Document) (debug : Bool) :
    w.compile document debug s = ⟨.ok (w.found debug document),
      w.ran [w.assembling document.path debug] { s with files }⟩ := by
  rw [compile, assemble_eq, h, Ended.next_ok]
  rfl

/-! ## Assembling everything -/

/-- How the documents are assembled. -/
def assemblings (w : Workspace) (documents : List Document) : List Invocation :=
  documents.map fun document => w.assembling document.path false

/-- Where the workspace is ready and stays so, every document is assembled. -/
theorem compileAll_of_settled (h : w.ready s.files = .ok s.files) :
    w.compileAll documents s =
      ⟨.ok (documents.map (w.found false)), w.ran (w.assemblings documents) s⟩ := by
  induction documents generalizing s with
  | nil => simp [compileAll, assemblings]
  | cons document rest ih =>
    have hnext : w.ready (w.ran [w.assembling document.path false] s).files =
        .ok (w.ran [w.assembling document.path false] s).files := h
    rw [compileAll, compile_of_ready h, Ended.next_ok, ih hnext, Ended.next_ok, ran_ran]
    rfl

/-- The files when the documents can be assembled, or why they cannot be. Without documents there is
nothing to get ready for. -/
def settle (w : Workspace) (documents : List Document) (fs : FileSystem) :
    Except Failure FileSystem :=
  match documents with
  | [] => .ok fs
  | _ :: _ => w.ready fs

/-- **The first source decides whether all are assembled.** -/
theorem compileAll_eq : w.compileAll documents s =
    match w.settle documents s.files with
    | .error failure => fail failure s
    | .ok files =>
      ⟨.ok (documents.map (w.found false)), w.ran (w.assemblings documents) { s with files }⟩ := by
  cases documents with
  | nil => simp [compileAll, settle, assemblings]
  | cons document rest =>
    rw [compileAll, settle]
    cases h : w.ready s.files with
    | error failure => rw [compile_of_refused h, Ended.next_fail]
    | ok files =>
      have hnext : w.ready (w.ran [w.assembling document.path false] { s with files }).files =
          .ok (w.ran [w.assembling document.path false] { s with files }).files :=
        ready_of_ready h
      rw [compile_of_ready h, Ended.next_ok, compileAll_of_settled hnext, Ended.next_ok, ran_ran]
      rfl

/-! ## The checks of a build -/

/-- The documents and the files when everything can be built, or why it cannot be. -/
def checks (w : Workspace) (fs : FileSystem) : Except Failure (List Document × FileSystem) :=
  if !w.config.linker.enabled then .error .linkerDisabled
  else
    match w.documents fs with
    | .error failure => .error failure
    | .ok documents =>
      match w.settle documents fs with
      | .error failure => .error failure
      | .ok files => .ok (documents, files)

/-- What the checks ask for: the linker is enabled, the documents are the sources as they can be
read, and, if there are any, the assembler is enabled and there can be a directory for results. -/
structure Cleared (w : Workspace) (fs : FileSystem) (documents : List Document) : Prop where
  linker_enabled : w.config.linker.enabled = true
  sources : Discovery.sources fs w.root w.config w.ignores = .ok (documents.map (·.path))
  read : ∀ document ∈ documents, Document.read fs document.path = .ok document
  assembler_enabled : documents ≠ [] → w.config.assembler.enabled = true
  build_dir : documents ≠ [] → ∃ files, fs.makeDirectories w.buildDir = .ok files

theorem path_of_read {source : Path} {document : Document}
    (h : Document.read fs source = .ok document) : document.path = source := by
  unfold Document.read at h
  split at h
  · cases h
    rfl
  · cases h

theorem forall₂_read_iff {sources : List Path} :
    List.Forall₂ (fun source document => Document.read fs source = .ok document) sources documents ↔
      sources = documents.map (·.path) ∧
        ∀ document ∈ documents, Document.read fs document.path = .ok document := by
  constructor
  · intro h
    induction h with
    | nil => simp
    | cons hread _ ih =>
      obtain ⟨rfl, hall⟩ := ih
      obtain rfl := path_of_read hread
      exact ⟨rfl, List.forall_mem_cons.mpr ⟨hread, hall⟩⟩
  · rintro ⟨rfl, hall⟩
    rw [List.forall₂_map_left_iff, List.forall₂_same]
    exact hall

theorem documents_eq_ok_iff : w.documents fs = .ok documents ↔
    Discovery.sources fs w.root w.config w.ignores = .ok (documents.map (·.path)) ∧
      ∀ document ∈ documents, Document.read fs document.path = .ok document := by
  constructor
  · intro h
    obtain ⟨sources, hsources, hread⟩ := bind_eq_ok h
    obtain ⟨rfl, hall⟩ := forall₂_read_iff.mp (mapM_eq_ok_iff.mp hread)
    exact ⟨hsources, hall⟩
  · rintro ⟨hsources, hall⟩
    rw [Workspace.documents, hsources]
    exact mapM_eq_ok_iff.mpr (forall₂_read_iff.mpr ⟨rfl, hall⟩)

theorem checks_eq_ok_iff : w.checks fs = .ok (documents, files) ↔
    w.config.linker.enabled = true ∧ w.documents fs = .ok documents ∧
      w.settle documents fs = .ok files := by
  constructor
  · intro h
    unfold checks at h
    split at h
    · cases h
    · next hlinker =>
      split at h
      · cases h
      · next hdocuments =>
        split at h
        · cases h
        · next hsettle =>
          cases h
          exact ⟨by simpa using hlinker, hdocuments, hsettle⟩
  · rintro ⟨hlinker, hdocuments, hsettle⟩
    simp [checks, hlinker, hdocuments, hsettle]

/-- **The checks pass where what they ask for is there**, and there only. -/
theorem cleared_iff : w.Cleared fs documents ↔ ∃ files, w.checks fs = .ok (documents, files) := by
  constructor
  · intro h
    have hdocuments := documents_eq_ok_iff.mpr ⟨h.sources, h.read⟩
    cases documents with
    | nil => exact ⟨fs, checks_eq_ok_iff.mpr ⟨h.linker_enabled, hdocuments, rfl⟩⟩
    | cons document rest =>
      obtain ⟨files, hmake⟩ := h.build_dir (List.cons_ne_nil document rest)
      have hready : w.ready fs = .ok files :=
        ready_eq_ok_iff.mpr ⟨h.assembler_enabled (List.cons_ne_nil document rest),
          Discovery.isDirectory_of_sources h.sources, hmake⟩
      exact ⟨files, checks_eq_ok_iff.mpr ⟨h.linker_enabled, hdocuments, hready⟩⟩
  · rintro ⟨files, h⟩
    obtain ⟨hlinker, hdocuments, hsettle⟩ := checks_eq_ok_iff.mp h
    obtain ⟨hsources, hread⟩ := documents_eq_ok_iff.mp hdocuments
    have hready : documents ≠ [] → w.ready fs = .ok files := by
      intro hne
      cases documents with
      | nil => exact absurd rfl hne
      | cons document rest => exact hsettle
    exact {
      linker_enabled := hlinker
      sources := hsources
      read := hread
      assembler_enabled := fun hne => (ready_eq_ok_iff.mp (hready hne)).1
      build_dir := fun hne => ⟨files, (ready_eq_ok_iff.mp (hready hne)).2.2⟩ }

/-! ## Why checks fail -/

theorem refusal_of_patterns {patterns : List String}
    (h : Discovery.patterns patterns = .error failure) : failure.IsRefusal := by
  induction patterns with
  | nil => cases h
  | cons pattern patterns ih =>
    rw [Discovery.patterns] at h
    split at h
    · cases h
      trivial
    · cases hrest : Discovery.patterns patterns with
      | error other =>
        rw [hrest] at h
        cases h
        exact ih hrest
      | ok tokens =>
        rw [hrest] at h
        cases h

theorem refusal_of_sources {root : Path} {config : Config} {ignores : Ignore.UserFile}
    (h : Discovery.sources fs root config ignores = .error failure) : failure.IsRefusal := by
  unfold Discovery.sources at h
  split at h
  · cases h
    trivial
  · split at h
    · rcases bind_eq_error h with hincludes | ⟨includes, -, h⟩
      · exact refusal_of_patterns hincludes
      · rcases bind_eq_error h with hexcludes | ⟨excludes, -, h⟩
        · exact refusal_of_patterns hexcludes
        · cases h
    · cases h
      trivial

theorem refusal_of_read {source : Path} (h : Document.read fs source = .error failure) :
    failure.IsRefusal := by
  unfold Document.read at h
  split at h
  · cases h
  · cases h
    trivial

theorem refusal_of_documents (h : w.documents fs = .error failure) : failure.IsRefusal := by
  rcases bind_eq_error h with hsources | ⟨sources, -, hread⟩
  · exact refusal_of_sources hsources
  · obtain ⟨source, -, hread⟩ := mapM_eq_error hread
    exact refusal_of_read hread

theorem refusal_of_ready (h : w.ready fs = .error failure) : failure.IsRefusal := by
  unfold ready at h
  split at h
  · cases h
    trivial
  · split at h
    · cases h
      trivial
    · split at h
      · cases h
        trivial
      · cases h

/-- **Checks do not fail for compile errors.** -/
theorem refusal_of_checks (h : w.checks fs = .error failure) : failure.IsRefusal := by
  unfold checks at h
  split at h
  · cases h
    trivial
  · split at h
    · next other hdocuments =>
      cases h
      exact refusal_of_documents hdocuments
    · next documents _ =>
      split at h
      · next other hsettle =>
        cases h
        cases documents with
        | nil => cases hsettle
        | cons document rest => exact refusal_of_ready hsettle
      · cases h

/-! ## The build -/

/-- How the objects of the documents are linked into the program. -/
def linkingAll (w : Workspace) (documents : List Document) : Invocation :=
  w.linking (documents.map (·.path)) w.config.linker.exeName

/-- What the linker says about the program. -/
def linkerSays (w : Workspace) (documents : List Document) : List Diagnostic :=
  w.report (w.linkingAll documents) LinkerReport.parse

theorem link_eq (hlinker : w.config.linker.enabled = true)
    (hroot : s.files.isDirectory w.root = true) (sources : List Path) (exe : String) :
    w.link sources exe s = ⟨.ok (w.report (w.linking sources exe) LinkerReport.parse),
      w.ran [w.linking sources exe] s⟩ := by
  rw [link, hlinker, hroot]
  exact run_eq rfl (by decide) s

/-- How many documents the assembler has something to say about. -/
def reported (w : Workspace) (documents : List Document) : Nat :=
  documents.countP fun document => !(w.heard document.path false).isEmpty

theorem countP_found (documents : List Document) :
    (documents.map (w.found false)).countP (!·.isEmpty) = w.reported documents := by
  rw [reported, List.countP_map]
  simp [Function.comp_def, found]

/-- The state when all documents were assembled, and what was found is shown. -/
def assembled (w : Workspace) (documents : List Document) (s : State) : State :=
  w.publish documents (documents.flatMap (w.found false)) (w.ran (w.assemblings documents) s)

/-- What a build comes to behind its checks. -/
def finish (w : Workspace) (documents : List Document) (s : State) : Ended (List Diagnostic) :=
  match w.reported documents with
  | 0 => ⟨.ok (w.linkerSays documents), w.publish [] (w.linkerSays documents)
      (w.ran [w.linkingAll documents] (w.assembled documents s))⟩
  | files => fail (.compileErrors files) (w.assembled documents s)

/-- The root is still there when everything is assembled. -/
theorem isDirectory_of_settle (hdocuments : w.documents fs = .ok documents)
    (hsettle : w.settle documents fs = .ok files) : files.isDirectory w.root = true := by
  have hroot := Discovery.isDirectory_of_sources (documents_eq_ok_iff.mp hdocuments).1
  cases documents with
  | nil =>
    cases hsettle
    exact hroot
  | cons document rest => exact FileSystem.isDirectory_of_extends (extends_of_ready hsettle) hroot

/-- **A build makes its checks, and nothing can fail behind them.** -/
theorem build_eq : w.build s =
    match w.checks s.files with
    | .error failure => fail failure s
    | .ok (documents, files) => w.finish documents { s with files } := by
  unfold build checks
  cases hlinker : w.config.linker.enabled with
  | false => rfl
  | true =>
    cases hdocuments : w.documents s.files with
    | error failure => rfl
    | ok documents =>
      simp only [Bool.not_true, Bool.false_eq_true, if_false, compileAll_eq]
      cases hsettle : w.settle documents s.files with
      | error failure => rfl
      | ok files =>
        have hlink := link_eq (s := w.assembled documents { s with files }) hlinker
          (isDirectory_of_settle hdocuments hsettle) (documents.map (·.path))
          w.config.linker.exeName
        simp only [Ended.next_ok, countP_found, ← List.flatMap_def]
        unfold finish
        cases hreported : w.reported documents with
        | zero => exact congrArg (Ended.next · _) hlink
        | succ n => rfl

end Workspace

end BuildReport
