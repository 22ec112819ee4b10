import BuildReport.Proofs.Building

/-!
# The course of a build

A build that passes its checks assembles every source once and links the objects if the assembler
had nothing to say about any of them. A build that fails for any other reason than compile errors
has run no tool and leaves what is shown as it was.

- `Workspace.Protocol`: what a build does and what it shows.
- `build_protocol`: every build that passes its checks does and shows that.
- `failed_build_untouched`: a build that does not pass them does and shows nothing.
-/

namespace BuildReport

/-! ## Passes over both tables -/

/-- A pass over both tables leaves nothing of what was shown before. -/
theorem MarkerStore.replace_both (s t : MarkerStore) (placed : List Placed) :
    s.replace .both placed = t.replace .both placed := rfl

/-- A pass that finds nothing makes no difference to the next one. -/
theorem Board.reconcile_reconcile_nil (b : Board) (base : Option Path)
    (documents documents' : List Document) (found : List Diagnostic) :
    (b.reconcile base documents [] .both).reconcile base documents' found .both =
      b.reconcile base documents' found .both := by
  have hnotices : (b.reconcile base documents [] .both).notices = b.notices :=
    Notices.append_nil b.notices
  rw [reconcile, hnotices]
  exact congrArg (Board.mk · _) (MarkerStore.replace_both _ _ _)

namespace Workspace

open Build

variable {w : Workspace} {s : State} {documents : List Document}

/-! ## Every source once -/

/-- Sources that are assembled alike are one. -/
theorem assembling_injective {p q : Path} {debug : Bool}
    (h : w.assembling p debug = w.assembling q debug) : p = q := by
  have hargs := congrArg (fun i => i.args.getLast?) h
  simp only [assembling, Config.assemblerArguments, List.getLast?_append] at hargs
  exact Path.eq_of_text (Option.some.inj hargs)

theorem nodup_assemblings (htree : s.files.tree.IsTree) (h : w.Cleared s.files documents) :
    (w.assemblings documents).Nodup := by
  have hpaths : (documents.map (·.path)).Nodup :=
    (Discovery.nodup_of_sources htree h.sources).of_map Path.trail
  have hmap : w.assemblings documents =
      (documents.map (·.path)).map fun path => w.assembling path false := by
    rw [assemblings, List.map_map]
    rfl
  rw [hmap]
  exact hpaths.map fun _ _ => assembling_injective

/-! ## What a build does -/

/-- The assembler has nothing to say about any of the documents. -/
def IsClean (w : Workspace) (documents : List Document) : Prop :=
  ∀ document ∈ documents, w.heard document.path false = []

theorem isClean_iff : w.IsClean documents ↔ w.reported documents = 0 := by
  simp [IsClean, reported, List.countP_eq_zero]

theorem flatMap_found (h : w.IsClean documents) : documents.flatMap (w.found false) = [] := by
  refine List.flatMap_eq_nil_iff.mpr fun document hdocument => ?_
  rw [found, h document hdocument, List.map_nil]

/-- The course of a build from the state `s`, whose sources are the documents. -/
structure Protocol (w : Workspace) (documents : List Document) (s : State)
    (e : Ended (List Diagnostic)) : Prop where
  /-- The sources stand in the order of their trails. -/
  in_order : documents.Pairwise fun a b => a.path.trail.le b.path.trail = true
  /-- No two of them are assembled alike. -/
  once : s.files.tree.IsTree → (w.assemblings documents).Nodup
  /-- If the assembler says nothing, the objects are linked, and the linker has the last word. -/
  clean : w.IsClean documents →
    e.state.runs = s.runs ++ w.assemblings documents ++ [w.linkingAll documents] ∧
    e.result = .ok (w.linkerSays documents) ∧
    e.state.board = s.board.reconcile (some w.root) [] (w.linkerSays documents) .both
  /-- If it says anything, nothing is linked, and what it says is shown with all sources open. -/
  unclean : ¬ w.IsClean documents →
    e.state.runs = s.runs ++ w.assemblings documents ∧
    e.result = .error (.compileErrors (w.reported documents)) ∧
    e.state.board =
      s.board.reconcile (some w.root) documents (documents.flatMap (w.found false)) .both
  /-- The linker is told the objects that the assembler was told to make. -/
  objects : ∃ objects : List String,
    (w.linkingAll documents).args = w.config.linker.options ++
      ["-o", (w.buildDir.join ⟨w.config.linker.exeName⟩).text] ++ objects ∧
    List.Forall₂ (fun document object => (w.assembling document.path false).args =
      w.config.assembler.options ++ ["-o", object, document.path.text]) documents objects

theorem finish_clean (h : w.IsClean documents) : w.finish documents s =
    ⟨.ok (w.linkerSays documents), w.publish [] (w.linkerSays documents)
      (w.ran [w.linkingAll documents] (w.assembled documents s))⟩ := by
  rw [finish, isClean_iff.mp h]
  rfl

theorem finish_unclean (h : ¬ w.IsClean documents) : w.finish documents s =
    fail (.compileErrors (w.reported documents)) (w.assembled documents s) := by
  rw [isClean_iff] at h
  rw [finish]
  split
  · next hzero => exact absurd hzero h
  · rfl

/-- **The build protocol.** Every build that passes its checks assembles each source once, in the
order of their trails, and links their objects if the assembler said nothing about any of them. -/
theorem build_protocol (h : w.Cleared s.files documents) :
    w.Protocol documents s (w.build s) := by
  obtain ⟨files, hchecks⟩ := cleared_iff.mp h
  have hbuild : w.build s = w.finish documents { s with files } := by
    rw [build_eq, hchecks]
  refine ⟨?_, fun htree => nodup_assemblings htree h, ?_, ?_, ?_⟩
  · exact List.pairwise_map.mp (Discovery.sorted_of_sources h.sources)
  · intro hclean
    rw [hbuild, finish_clean hclean]
    refine ⟨rfl, rfl, ?_⟩
    -- the pass before the linker was run found nothing
    have hshown : (w.assembled documents { s with files }).board =
        s.board.reconcile (some w.root) documents [] .both := by
      rw [assembled, flatMap_found hclean]
      rfl
    show (w.assembled documents { s with files }).board.reconcile _ _ _ _ = _
    rw [hshown, Board.reconcile_reconcile_nil]
  · intro hunclean
    rw [hbuild, finish_unclean hunclean]
    exact ⟨rfl, rfl, rfl⟩
  · refine ⟨documents.map fun document => (objectPath w.buildDir document.path).text, ?_, ?_⟩
    · rw [linkingAll, linking, Config.linkerArguments, List.map_map]
      rfl
    · rw [List.forall₂_map_right_iff, List.forall₂_same]
      intro document _
      simp [assembling, Config.assemblerArguments]

/-- The workspace at `/p` with an assembler that finds something odd in one of its sources. -/
def oneWarning : Workspace where
  root := ⟨"/p"⟩
  config := .default
  tools := fun i =>
    if i.args.getLast? = some "/p/b/main.s" then
      .finished true [] "warning 3 in line 1 of \"main.s\": odd\n".toUTF8.toList
    else .finished true [] []

/-- The documents with no lines that its two sources are. -/
def twoEmpty : List Document :=
  [⟨⟨"/p/a/main.s"⟩, []⟩, ⟨⟨"/p/b/main.s"⟩, []⟩]

/-- The state after an earlier build, which has found an error in the first source and one without a
place. -/
def beforehand : State where
  files := twoMainsFiles
  board := Board.empty.reconcile (some oneWarning.root) []
    [.located "/p/a/main.s" 1 "error 2 in line 1 of \"main.s\": odd" .error,
      .unlocated "fatal error 13 : could not open <x.i>" .error] .both
  transcript := ⟨["/p>Finished running tool: vasmm68k_mot", ""]⟩
  runs := [oneWarning.assembling ⟨"/p/a/main.s"⟩ false]

/-- One warning of the assembler keeps the linker from being run. -/
theorem build_protocol_oneWarning :
    oneWarning.Cleared beforehand.files twoEmpty ∧ ¬ oneWarning.IsClean twoEmpty ∧
    oneWarning.Protocol twoEmpty beforehand (oneWarning.build beforehand) ∧
    (oneWarning.build beforehand).result = .error (.compileErrors 1) := by
  have hcleared : oneWarning.Cleared beforehand.files twoEmpty := {
    linker_enabled := rfl
    sources := sources_twoMains
    read := by decide +kernel
    assembler_enabled := fun _ => rfl
    build_dir := fun _ => ⟨_, rfl⟩ }
  have hreported : oneWarning.reported twoEmpty = 1 := by decide +kernel
  have hunclean : ¬ oneWarning.IsClean twoEmpty := by
    rw [isClean_iff, hreported]
    decide
  have hprotocol := build_protocol hcleared
  refine ⟨hcleared, hunclean, hprotocol, ?_⟩
  rw [(hprotocol.unclean hunclean).2.1, hreported]

/-! ## What a failed build leaves alone -/

/-- No tool was run, and what is shown is what was shown. -/
structure Untouched (s s' : State) : Prop where
  board : s'.board = s.board
  transcript : s'.transcript = s.transcript
  runs : s'.runs = s.runs

theorem untouched_fail (failure : Failure) (s : State) :
    Untouched s (fail failure s : Ended (List Diagnostic)).state :=
  ⟨rfl, rfl, rfl⟩

/-- Behind the checks a build can only fail for compile errors. -/
theorem finish_eq_error {failure : Failure} (h : (w.finish documents s).result = .error failure) :
    failure = .compileErrors (w.reported documents) := by
  by_cases hclean : w.IsClean documents
  · rw [finish_clean hclean] at h
    cases h
  · rw [finish_unclean hclean] at h
    cases h
    rfl

/-- A build is refused by its checks. -/
theorem build_refused_iff {failure : Failure} (hrefusal : failure.IsRefusal) :
    (w.build s).result = .error failure ↔ w.checks s.files = .error failure := by
  constructor
  · intro h
    rw [build_eq] at h
    cases hchecks : w.checks s.files with
    | error other =>
      rw [hchecks] at h
      exact congrArg Except.error (Except.error.inj h)
    | ok passed =>
      rw [hchecks] at h
      rw [finish_eq_error h] at hrefusal
      exact absurd hrefusal id
  · intro h
    rw [build_eq, h]
    rfl

theorem untouched_of_build {failure : Failure} (hrefusal : failure.IsRefusal)
    (h : (w.build s).result = .error failure) : Untouched s (w.build s).state := by
  rw [build_eq, (build_refused_iff hrefusal).mp h]
  exact untouched_fail failure s

theorem untouched_of_buildDocument {document : Document} {debug : Bool} {failure : Failure}
    (h : (w.buildDocument document debug s).result = .error failure) :
    Untouched s (w.buildDocument document debug s).state := by
  rw [buildDocument] at h ⊢
  cases hready : w.ready s.files with
  | error other =>
    rw [compile_of_refused hready, Ended.next_fail]
    exact untouched_fail other s
  | ok files =>
    rw [compile_of_ready hready, Ended.next_ok] at h
    cases h

/-- **A build that is refused leaves everything alone**, and so does assembling a single document
that fails. A build is refused where its checks do not pass, and there only. -/
theorem failed_build_untouched (w : Workspace) (s : State) :
    (∀ failure : Failure, failure.IsRefusal → (w.build s).result = .error failure →
      Untouched s (w.build s).state) ∧
    (∀ document debug failure, (w.buildDocument document debug s).result = .error failure →
      Untouched s (w.buildDocument document debug s).state) ∧
    ((∃ failure : Failure, failure.IsRefusal ∧ (w.build s).result = .error failure) ↔
      ¬ ∃ documents, w.Cleared s.files documents) := by
  refine ⟨fun _ => untouched_of_build, fun _ _ _ => untouched_of_buildDocument, ?_⟩
  constructor
  · rintro ⟨failure, hrefusal, h⟩ ⟨documents, hcleared⟩
    obtain ⟨files, hchecks⟩ := cleared_iff.mp hcleared
    rw [(build_refused_iff hrefusal).mp h] at hchecks
    cases hchecks
  · intro h
    cases hchecks : w.checks s.files with
    | error failure =>
      have hrefusal := refusal_of_checks hchecks
      exact ⟨failure, hrefusal, (build_refused_iff hrefusal).mpr hchecks⟩
    | ok passed => exact absurd ⟨passed.1, cleared_iff.mpr ⟨passed.2, hchecks⟩⟩ h

/-- The same workspace with an assembler that is not to be run. -/
def disabled : Workspace :=
  { oneWarning with
    config :=
      { Config.default with
        assembler := { Config.default.assembler with enabled := false } } }

/-- The sources have been read when it turns out that they cannot be assembled. What the earlier
build has found is still shown. -/
theorem failed_build_untouched_disabled :
    let s := (disabled.build beforehand).state
    (disabled.build beforehand).result = .error .assemblerDisabled ∧
    Untouched beforehand s ∧
    s.board.store.markers .error [.root, .name "p", .name "a", .name "main.s"] =
      [⟨0, 0, 1, "error 2 in line 1 of \"main.s\": odd", .error⟩] ∧
    s.board.notices.messages = ["fatal error 13 : could not open <x.i>"] ∧
    s.transcript.lines = ["/p>Finished running tool: vasmm68k_mot", ""] := by
  intro s
  have hdocuments : disabled.documents beforehand.files = .ok twoEmpty :=
    documents_eq_ok_iff.mpr ⟨sources_twoMains, by decide +kernel⟩
  have hchecks : disabled.checks beforehand.files = .error .assemblerDisabled := by
    rw [checks, hdocuments]
    rfl
  have hrefusal : Failure.IsRefusal .assemblerDisabled := trivial
  have hresult : (disabled.build beforehand).result = .error .assemblerDisabled :=
    (build_refused_iff hrefusal).mpr hchecks
  have huntouched := (failed_build_untouched disabled beforehand).1 _ hrefusal hresult
  refine ⟨hresult, huntouched, ?_, ?_, ?_⟩
  · rw [huntouched.board]
    decide +kernel
  · rw [huntouched.board]
    decide +kernel
  · rw [huntouched.transcript]
    rfl

end Workspace

end BuildReport
