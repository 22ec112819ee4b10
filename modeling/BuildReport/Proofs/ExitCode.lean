import BuildReport.CommandLine.Session
import BuildReport.Proofs.Protocol
import BuildReport.Proofs.Snapshots
import BuildReport.Proofs.WellFormed

/-!
# What the exit code tells

A session that completes ends with zero if the tools had nothing to say but warnings on lines, and
with one otherwise. The exit code is read off the board: an error is among the markers, or a message
without a place among the notices. No error gets lost on the way there, since every diagnostic either
has a place or is noticed, and only warnings are taken back.

- `Diagnostic.IsLocatedWarning`: the diagnostics that do not stand against success.
- `exit_report_reconcile`: what is reported after a pass over the empty board.
- `Session.Completes`, `Session.AllWell`: a command is carried out, and the tools do not object.
- `exit_tells_truth`: the exit code of every session that is asked for something.
-/

namespace BuildReport

/-- The diagnostic is a warning on a line. -/
def Diagnostic.IsLocatedWarning (d : Diagnostic) : Prop :=
  0 < d.line ∧ d.severity = .warning

/-! ## After one pass -/

theorem exists_marksAt_ne_nil_iff {base : Option Path} {documents : List Document}
    {found : List Diagnostic} : (∃ file, marksAt base documents found file ≠ []) ↔
      ∃ d ∈ found, d.HasPlace documents := by
  constructor
  · rintro ⟨file, hne⟩
    obtain ⟨m, hm⟩ := List.exists_mem_of_ne_nil _ hne
    obtain ⟨d, hd, hplace, -⟩ := mem_marksAt.mp hm
    exact ⟨d, hd, hplace⟩
  · rintro ⟨d, hd, hplace⟩
    exact ⟨d.home base documents, List.ne_nil_of_mem (mem_marksAt.mpr ⟨d, hd, hplace, rfl, rfl⟩)⟩

namespace Board

variable {b : Board} {base : Option Path} {documents : List Document} {found : List Diagnostic}

/-- After a pass over both tables there is an error if something has a place and is no warning. -/
theorem count_error_reconcile_pos_iff (h : b.store.IsSound) :
    0 < (b.reconcile base documents found .both).store.snapshot.count .error ↔
      ∃ d ∈ found, d.severity ≠ .warning ∧ d.HasPlace documents := by
  rw [h.reconcile.count_snapshot_pos_iff]
  simp only [markers_error_both, exists_marksAt_ne_nil_iff, List.mem_filter, decide_eq_true_eq,
    and_assoc]

theorem messages_reconcile_eq_nil_iff (scope : Scope) :
    (empty.reconcile base documents found scope).notices.messages = [] ↔
      ∀ d ∈ found, d.HasPlace documents := by
  rw [notices_reconcile]
  simp [empty, Notices.none, Notices.append]

end Board

namespace Session

open Build

variable {s : State} {base : Option Path} {documents : List Document} {found : List Diagnostic}

theorem exit_report_eq_zero_iff {json : Bool} {aborted : List String} :
    (report s json aborted).exit = 0 ↔
      aborted = [] ∧ ¬ 0 < s.board.store.snapshot.count .error ∧ s.board.notices.messages = [] := by
  unfold report
  grind

theorem exit_report_ne_zero {json : Bool} {aborted : List String}
    (h : (report s json aborted).exit ≠ 0) : (report s json aborted).exit = 1 := by
  unfold report at h ⊢
  grind

/-- **What is reported after a pass over the empty board**: success if every diagnostic has a place
and is a warning. -/
theorem exit_report_reconcile (h : s.board = Board.empty.reconcile base documents found .both)
    {json : Bool} :
    (report s json []).exit = 0 ↔ ∀ d ∈ found, d.HasPlace documents ∧ d.severity = .warning := by
  rw [exit_report_eq_zero_iff, h, Board.count_error_reconcile_pos_iff MarkerStore.isSound_empty,
    Board.messages_reconcile_eq_nil_iff]
  constructor
  · rintro ⟨-, herror, hplace⟩ d hd
    refine ⟨hplace d hd, ?_⟩
    by_contra hne
    exact herror ⟨d, hd, hne, hplace d hd⟩
  · intro h
    refine ⟨rfl, ?_, fun d hd => (h d hd).1⟩
    rintro ⟨d, hd, hne, -⟩
    exact hne (h d hd).2

theorem conclude_exit_eq_zero_iff {α : Type} {e : Ended α} {json : Bool} :
    (conclude json e).exit = 0 ↔ ∃ a, e.result = .ok a ∧ (report e.state json []).exit = 0 := by
  unfold conclude
  cases e.result with
  | ok a => simp
  | error failure =>
    cases failure with
    | compileErrors files => simp [exit_report_eq_zero_iff]
    | _ => simp [refused]

theorem conclude_exit_ne_zero {α : Type} {e : Ended α} {json : Bool}
    (h : (conclude json e).exit ≠ 0) : (conclude json e).exit = 1 := by
  unfold conclude at h ⊢
  cases hresult : e.result with
  | ok a =>
    rw [hresult] at h
    exact exit_report_ne_zero h
  | error failure =>
    rw [hresult] at h
    cases failure with
    | compileErrors files => exact exit_report_ne_zero h
    | _ => rfl

end Session

/-! ## What is shown when a command is done -/

namespace Workspace

open Build

variable {w : Workspace} {s : State} {document : Document} {debug : Bool} {found : List Diagnostic}

theorem board_of_buildDocument (h : (w.buildDocument document debug s).result = .ok found) :
    found = w.found debug document ∧ (w.buildDocument document debug s).state.board =
      s.board.reconcile (some w.root) [document] found .both := by
  rw [buildDocument] at h ⊢
  cases hready : w.ready s.files with
  | error failure =>
    rw [compile_of_refused hready, Ended.next_fail] at h
    cases h
  | ok files =>
    rw [compile_of_ready hready, Ended.next_ok] at h ⊢
    cases h
    exact ⟨rfl, rfl⟩

theorem link_of_ok {sources : List Path} {exe : String}
    (h : (w.link sources exe s).result = .ok found) :
    found = w.report (w.linking sources exe) LinkerReport.parse ∧
      (w.link sources exe s).state = w.ran [w.linking sources exe] s := by
  cases hlinker : w.config.linker.enabled with
  | false =>
    rw [link, hlinker] at h
    cases h
  | true =>
    cases hroot : s.files.isDirectory w.root with
    | false =>
      rw [link, hlinker, hroot] at h
      cases h
    | true =>
      rw [link_eq hlinker hroot] at h ⊢
      cases h
      exact ⟨rfl, rfl⟩

theorem board_finish_clean {documents : List Document} (h : w.IsClean documents) :
    (w.finish documents s).state.board =
      s.board.reconcile (some w.root) [] (w.linkerSays documents) .both := by
  rw [finish_clean h]
  show (s.board.reconcile (some w.root) documents (documents.flatMap (w.found false))
    .both).reconcile (some w.root) [] (w.linkerSays documents) .both = _
  rw [flatMap_found h, Board.reconcile_reconcile_nil]

/-- A build that is not refused has read its sources, and goes on from there. -/
theorem exists_documents_of_build
    (h : ∀ failure : Failure, failure.IsRefusal → (w.build s).result ≠ .error failure) :
    ∃ documents files, w.documents s.files = .ok documents ∧
      w.build s = w.finish documents { s with files } := by
  cases hchecks : w.checks s.files with
  | error failure =>
    refine absurd ?_ (h failure (refusal_of_checks hchecks))
    rw [build_eq, hchecks]
    rfl
  | ok passed =>
    obtain ⟨documents, files⟩ := passed
    refine ⟨documents, files, (checks_eq_ok_iff.mp hchecks).2.1, ?_⟩
    rw [build_eq, hchecks]

/-- If it gets to the linker, the assembler said nothing. -/
theorem exists_documents_of_build_ok (h : (w.build s).result = .ok found) :
    ∃ documents, w.documents s.files = .ok documents ∧ w.IsClean documents ∧
      found = w.linkerSays documents ∧
      (w.build s).state.board = s.board.reconcile (some w.root) [] found .both := by
  obtain ⟨documents, files, hdocuments, hbuild⟩ := exists_documents_of_build (w := w) (s := s)
    fun failure _ hfailure => by
      rw [h] at hfailure
      cases hfailure
  rw [hbuild] at h ⊢
  by_cases hclean : w.IsClean documents
  · have hfound : found = w.linkerSays documents := by
      rw [finish_clean hclean] at h
      exact (Except.ok.inj h).symm
    refine ⟨documents, hdocuments, hclean, hfound, ?_⟩
    rw [hfound]
    exact board_finish_clean hclean
  · rw [finish_unclean hclean] at h
    cases h

/-- If it ends with compile errors, the assembler objects, and what it says is shown in one pass. -/
theorem exists_documents_of_build_compileErrors {n : Nat}
    (h : (w.build s).result = .error (.compileErrors n)) :
    ∃ documents, w.documents s.files = .ok documents ∧ ¬ w.IsClean documents ∧
      (w.build s).state.board =
        s.board.reconcile (some w.root) documents (documents.flatMap (w.found false)) .both := by
  obtain ⟨documents, files, hdocuments, hbuild⟩ := exists_documents_of_build (w := w) (s := s)
    fun failure hrefusal hfailure => by
      rw [h] at hfailure
      cases hfailure
      exact hrefusal
  rw [hbuild] at h ⊢
  have hunclean : ¬ w.IsClean documents := fun hclean => by
    rw [finish_clean hclean] at h
    cases h
  refine ⟨documents, hdocuments, hunclean, ?_⟩
  rw [finish_unclean hunclean]
  rfl

end Workspace

namespace Session

open Build

/-! ## What the exit code of a command tells -/

/-- The command is carried out to its end. Compile errors are such an end, a refusal is none. -/
def Completes (around : Surroundings) (w : Workspace) : Command → Prop
  | .build file debug => ∃ document found,
      Document.read around.files (around.cwd.join file) = .ok document ∧
      (w.buildDocument document debug (start around.files)).result = .ok found
  | .workspace =>
      (∃ found, (w.build (start around.files)).result = .ok found) ∨
      ∃ files, (w.build (start around.files)).result = .error (.compileErrors files)
  | .link files exe => ∃ found,
      (w.link (files.map around.cwd.join) (exe.getD w.config.linker.exeName)
        (start around.files)).result = .ok found

/-- The tools have no objections: to a source that is built, anchored in it, and to what is linked,
they have only warnings on lines, and to the sources of the workspace none at all. -/
def AllWell (around : Surroundings) (w : Workspace) : Command → Prop
  | .build file debug => ∀ document,
      Document.read around.files (around.cwd.join file) = .ok document →
      ∀ d ∈ (w.heard document.path debug).map (Diagnostic.anchor document), d.IsLocatedWarning
  | .workspace => ∀ documents, w.documents around.files = .ok documents →
      (∀ document ∈ documents, w.heard document.path false = []) ∧
      ∀ d ∈ w.linkerSays documents, d.IsLocatedWarning
  | .link files exe =>
      ∀ d ∈ w.report (w.linking (files.map around.cwd.join) (exe.getD w.config.linker.exeName))
        LinkerReport.parse, d.IsLocatedWarning

section

variable {around : Surroundings} {w : Workspace} {json : Bool}

theorem carryOut_of_unread {file : Path} {debug : Bool} {failure : Failure}
    (h : Document.read around.files (around.cwd.join file) = .error failure) :
    carryOut around w json (.build file debug) = refused around.files failure.message := by
  delta carryOut
  dsimp only
  rw [h]

theorem carryOut_of_read {file : Path} {debug : Bool} {document : Document}
    (h : Document.read around.files (around.cwd.join file) = .ok document) :
    carryOut around w json (.build file debug) =
      conclude json (w.buildDocument document debug (start around.files)) := by
  delta carryOut
  dsimp only
  rw [h]

/-- Where its document is open, everything with a line has a place. -/
theorem forall_place_build_iff {document : Document} {found : List Diagnostic} :
    (∀ d ∈ found, d.HasPlace [document] ∧ d.severity = .warning) ↔
      ∀ d ∈ found, d.IsLocatedWarning := by
  simp [Diagnostic.HasPlace, Diagnostic.IsLocatedWarning]

theorem exit_carryOut_build {file : Path} {debug : Bool} :
    (carryOut around w json (.build file debug)).exit = 0 ↔
      Completes around w (.build file debug) ∧ AllWell around w (.build file debug) := by
  rw [Completes, AllWell]
  cases hread : Document.read around.files (around.cwd.join file) with
  | error failure => simp [carryOut_of_unread hread, refused]
  | ok document =>
    rw [carryOut_of_read hread, conclude_exit_eq_zero_iff]
    constructor
    · rintro ⟨found, hresult, hexit⟩
      obtain ⟨rfl, hboard⟩ := Workspace.board_of_buildDocument hresult
      refine ⟨⟨document, _, rfl, hresult⟩, ?_⟩
      rintro _ ⟨⟩
      exact forall_place_build_iff.mp ((exit_report_reconcile hboard).mp hexit)
    · rintro ⟨⟨_, found, ⟨⟩, hresult⟩, hwell⟩
      obtain ⟨rfl, hboard⟩ := Workspace.board_of_buildDocument hresult
      refine ⟨_, hresult, (exit_report_reconcile hboard).mpr ?_⟩
      exact forall_place_build_iff.mpr (hwell document rfl)

/-- Of what the linker says, the warnings on lines are the warnings that have a place. -/
theorem forall_place_linker_iff {i : Invocation} :
    (∀ d ∈ w.report i LinkerReport.parse, d.HasPlace [] ∧ d.severity = .warning) ↔
      ∀ d ∈ w.report i LinkerReport.parse, d.IsLocatedWarning := by
  refine forall₂_congr fun d hd => ?_
  constructor
  · rintro ⟨⟨hline, -⟩, hwarning⟩
    exact ⟨hline, hwarning⟩
  · rintro ⟨hline, hwarning⟩
    refine ⟨⟨hline, .inl ?_⟩, hwarning⟩
    obtain ⟨text, -, hwell⟩ := Diagnostic.exists_isWellFormed (.inr hd)
    exact hwell.file_ne_empty hline

theorem exit_carryOut_workspace :
    (carryOut around w json .workspace).exit = 0 ↔
      Completes around w .workspace ∧ AllWell around w .workspace := by
  show (conclude json (w.build (start around.files))).exit = 0 ↔ _
  rw [conclude_exit_eq_zero_iff, Completes, AllWell]
  constructor
  · rintro ⟨found, hresult, hexit⟩
    obtain ⟨documents, hdocuments, hclean, rfl, hboard⟩ :=
      Workspace.exists_documents_of_build_ok hresult
    refine ⟨.inl ⟨_, hresult⟩, ?_⟩
    intro documents' hdocuments'
    obtain rfl : documents = documents' := Except.ok.inj (hdocuments.symm.trans hdocuments')
    exact ⟨hclean, forall_place_linker_iff.mp ((exit_report_reconcile hboard).mp hexit)⟩
  · rintro ⟨⟨found, hresult⟩ | ⟨files, hresult⟩, hwell⟩
    · obtain ⟨documents, hdocuments, hclean, rfl, hboard⟩ :=
        Workspace.exists_documents_of_build_ok hresult
      have hlinker := forall_place_linker_iff.mpr (hwell documents hdocuments).2
      exact ⟨_, hresult, (exit_report_reconcile hboard).mpr hlinker⟩
    · obtain ⟨documents, hdocuments, hunclean, -⟩ :=
        Workspace.exists_documents_of_build_compileErrors hresult
      exact absurd (hwell documents hdocuments).1 hunclean

theorem exit_carryOut_link {files : List Path} {exe : Option String} :
    (carryOut around w json (.link files exe)).exit = 0 ↔
      Completes around w (.link files exe) ∧ AllWell around w (.link files exe) := by
  show (conclude json ((w.link (files.map around.cwd.join) (exe.getD w.config.linker.exeName)
    (start around.files)).next fun found s => ⟨.ok found, w.publish [] found s⟩)).exit = 0 ↔ _
  rw [conclude_exit_eq_zero_iff, Completes, AllWell, ← forall_place_linker_iff]
  generalize files.map around.cwd.join = sources
  generalize exe.getD w.config.linker.exeName = exe
  cases hresult : (w.link sources exe (start around.files)).result with
  | error failure => simp [Ended.next, hresult]
  | ok found =>
    obtain ⟨rfl, hstate⟩ := Workspace.link_of_ok hresult
    have hboard : (w.publish [] (w.report (w.linking sources exe) LinkerReport.parse)
        (w.link sources exe (start around.files)).state).board = Board.empty.reconcile (some w.root)
          [] (w.report (w.linking sources exe) LinkerReport.parse) .both := by
      rw [hstate]
      rfl
    simp only [Ended.next, hresult, Except.ok.injEq, exists_eq_left', exit_report_reconcile hboard,
      exists_eq', true_and]

/-- Whatever a command comes to, it ends with zero or one. -/
theorem exit_carryOut_ne_zero {command : Command}
    (h : (carryOut around w json command).exit ≠ 0) :
    (carryOut around w json command).exit = 1 := by
  cases command with
  | build file debug =>
    cases hread : Document.read around.files (around.cwd.join file) with
    | error failure =>
      rw [carryOut_of_unread hread]
      rfl
    | ok document =>
      rw [carryOut_of_read hread] at h ⊢
      exact conclude_exit_ne_zero h
  | workspace => exact conclude_exit_ne_zero h
  | link files exe => exact conclude_exit_ne_zero h

theorem exit_carryOut_eq_zero_iff {command : Command} :
    (carryOut around w json command).exit = 0 ↔
      Completes around w command ∧ AllWell around w command := by
  cases command with
  | build file debug => exact exit_carryOut_build
  | workspace => exact exit_carryOut_workspace
  | link files exe => exact exit_carryOut_link

end

/-! ## What the exit code of a session tells -/

variable {around : Surroundings} {args : List String} {r : Request} {config : Config}

theorem run_eq_carryOut (hr : Request.ofArguments args = .ok r)
    (hconfig : Config.load around.files around.environment (rootFrom around.cwd r) = .ok config) :
    run around args =
      carryOut around (workspace around (rootFrom around.cwd r) config) r.json r.command := by
  rw [run, hr]
  delta handle
  dsimp only
  rw [hconfig]

/-- **The exit code tells the truth.** A session that completes ends with zero if the tools have no
objections, and with one if they have any. One that does not complete ends with one. -/
theorem exit_tells_truth (hr : Request.ofArguments args = .ok r)
    (hconfig : Config.load around.files around.environment (rootFrom around.cwd r) = .ok config) :
    let w := workspace around (rootFrom around.cwd r) config
    (Completes around w r.command →
      ((run around args).exit = 0 ↔ AllWell around w r.command) ∧
      ((run around args).exit = 1 ↔ ¬ AllWell around w r.command)) ∧
    (¬ Completes around w r.command → (run around args).exit = 1) := by
  intro w
  rw [run_eq_carryOut hr hconfig]
  have hzero : (carryOut around w r.json r.command).exit = 0 ↔
      Completes around w r.command ∧ AllWell around w r.command := exit_carryOut_eq_zero_iff
  constructor
  · intro hcompletes
    have hwell : (carryOut around w r.json r.command).exit = 0 ↔ AllWell around w r.command :=
      hzero.trans (and_iff_right hcompletes)
    refine ⟨hwell, ?_, fun hobject => exit_carryOut_ne_zero fun h => hobject (hwell.mp h)⟩
    intro hone hwell'
    rw [hwell.mpr hwell'] at hone
    cases hone
  · intro hrefused
    exact exit_carryOut_ne_zero fun h => hrefused (hzero.mp h).1

/-- A session in the directory `/p`, whose assembler finds something odd in one of the sources. -/
def oneWarningAround : Surroundings where
  files := Workspace.twoMainsFiles
  cwd := ⟨"/p"⟩
  environment := ⟨[]⟩
  tools := Workspace.oneWarning.tools

/-- A warning on a line is no reason to fail when a single source is built. -/
theorem exit_tells_truth_oneWarning :
    Request.ofArguments ["build", "b/main.s"] = .ok ⟨none, false, .build ⟨"b/main.s"⟩ false⟩ ∧
    Config.load oneWarningAround.files oneWarningAround.environment ⟨"/p"⟩ = .ok .default ∧
    Completes oneWarningAround Workspace.oneWarning (.build ⟨"b/main.s"⟩ false) ∧
    Workspace.oneWarning.heard ⟨"/p/b/main.s"⟩ false =
      [.located "main.s" 1 "warning 3: odd" .warning] ∧
    (run oneWarningAround ["build", "b/main.s"]).exit = 0 := by
  have hr : Request.ofArguments ["build", "b/main.s"] =
      .ok ⟨none, false, .build ⟨"b/main.s"⟩ false⟩ := by decide +kernel
  have hconfig : Config.load oneWarningAround.files oneWarningAround.environment ⟨"/p"⟩ =
      .ok .default := by decide +kernel
  have hread : Document.read oneWarningAround.files ⟨"/p/b/main.s"⟩ =
      .ok ⟨⟨"/p/b/main.s"⟩, []⟩ := by decide +kernel
  have hheard : Workspace.oneWarning.heard ⟨"/p/b/main.s"⟩ false =
      [.located "main.s" 1 "warning 3: odd" .warning] := by decide +kernel
  have hcompletes : Completes oneWarningAround Workspace.oneWarning
      (.build ⟨"b/main.s"⟩ false) := ⟨_, _, hread, rfl⟩
  have hwell : AllWell oneWarningAround Workspace.oneWarning (.build ⟨"b/main.s"⟩ false) := by
    intro document hdocument
    obtain rfl := Except.ok.inj (hread.symm.trans hdocument)
    rw [hheard]
    simp [Diagnostic.IsLocatedWarning, Diagnostic.anchor, Diagnostic.anchoredLine,
      Diagnostic.located, Diagnostic.isGlobal]
  have htruth := exit_tells_truth hr hconfig
  exact ⟨hr, hconfig, hcompletes, hheard, (htruth.1 hcompletes).1.mpr hwell⟩

end Session

end BuildReport
