import BuildReport.Proofs.Anchors
import BuildReport.Proofs.ExitCode
import BuildReport.Proofs.Output

/-!
# Errors without a place

An assembler that cannot open a file says so without naming the source that it was told to assemble.
While the reports of a build are shown all sources are open, and an error that names no file is then
one of the first source. It does not come to that: each error is anchored in its own source before
the reports are put together.

- `Board.WithError`, `Board.WithNotice`: a board that shows one error more, or one notice more.
- `reconcile_withError`, `reconcile_withNotice`: what one diagnostic makes of a pass.
- `Discovery.nodup_identity_of_sources`: no two sources are shown as one file.
- `ShownAt`: how an error without a place is shown.
- `Workspace.unplaced_stay_with_source`: every such error of a build is shown that way.
-/

namespace BuildReport

/-! ## One diagnostic more -/

section

variable {base : Option Path} {documents : List Document} {found : List Diagnostic}
  {d : Diagnostic} {file : Trail}

theorem marksAt_append (base : Option Path) (documents : List Document)
    (found more : List Diagnostic) (file : Trail) :
    marksAt base documents (found ++ more) file =
      marksAt base documents found file ++ marksAt base documents more file := by
  rw [marksAt, List.filter_append, List.map_append]
  rfl

theorem marksAt_cons_self (h : d.HasPlace documents) :
    marksAt base documents (d :: found) (d.home base documents) =
      d.mark base documents :: marksAt base documents found (d.home base documents) := by
  rw [marksAt, List.filter_cons_of_pos (by simp [h]), List.map_cons]
  rfl

theorem marksAt_cons_other (h : d.home base documents ≠ file) :
    marksAt base documents (d :: found) file = marksAt base documents found file := by
  rw [marksAt, List.filter_cons_of_neg (by simp [h])]
  rfl

end

namespace Board

/-- The board `b'` shows an error that the board `b` does not, among those of its file. Warnings on
its line are taken back. Nothing else is different: not for any other file, and no notice. -/
structure WithError (file : Trail) (m : Marker) (b b' : Board) : Prop where
  errors : ∃ before after, b.store.markers .error file = before ++ after ∧
    b'.store.markers .error file = before ++ m :: after
  warnings : b'.store.markers .warning file =
    (b.store.markers .warning file).filter fun w => m.line ≠ w.line
  others : ∀ other ≠ file, ∀ level,
    b'.store.markers level other = b.store.markers level other
  notices : b'.notices = b.notices

/-- The board `b'` has a notice that the board `b` does not have, among those that came after the
old ones. Both show the same markers. -/
structure WithNotice (old : Notices) (message : String) (b b' : Board) : Prop where
  notices : ∃ earlier later, b.notices = old.append (earlier ++ later) ∧
    b'.notices = old.append (earlier ++ message :: later)
  store : b'.store = b.store

variable {base : Option Path} {documents : List Document} {d : Diagnostic}

/-- **An error with a place, and what it makes of a pass**, whatever else is found. -/
theorem reconcile_withError (b : Board) (hplace : d.HasPlace documents)
    (herror : d.severity ≠ .warning) (earlier later : List Diagnostic) :
    WithError (d.home base documents) (d.mark base documents)
      (b.reconcile base documents (earlier ++ later) .both)
      (b.reconcile base documents (earlier ++ d :: later) .both) := by
  have herrors : (earlier ++ d :: later).filter (fun d => decide (d.severity ≠ .warning)) =
      earlier.filter (·.severity ≠ .warning) ++ d :: later.filter (·.severity ≠ .warning) := by
    rw [List.filter_append, List.filter_cons_of_pos (by simpa using herror)]
  have hwarnings : (earlier ++ d :: later).filter (fun d => decide (d.severity = .warning)) =
      (earlier ++ later).filter (·.severity = .warning) := by
    rw [List.filter_append, List.filter_cons_of_neg (by simpa using herror), List.filter_append]
  have hwithout (file : Trail) :
      (b.reconcile base documents (earlier ++ later) .both).store.markers .error file =
        marksAt base documents (earlier.filter (·.severity ≠ .warning)) file ++
          marksAt base documents (later.filter (·.severity ≠ .warning)) file := by
    rw [markers_error_both, List.filter_append, marksAt_append]
  have hself : (b.reconcile base documents (earlier ++ d :: later) .both).store.markers .error
      (d.home base documents) =
        marksAt base documents (earlier.filter (·.severity ≠ .warning)) (d.home base documents) ++
          d.mark base documents :: marksAt base documents
            (later.filter (·.severity ≠ .warning)) (d.home base documents) := by
    rw [markers_error_both, herrors, marksAt_append, marksAt_cons_self hplace]
  have hother : ∀ other ≠ d.home base documents,
      (b.reconcile base documents (earlier ++ d :: later) .both).store.markers .error other =
        (b.reconcile base documents (earlier ++ later) .both).store.markers .error other := by
    intro other hne
    rw [hwithout, markers_error_both, herrors, marksAt_append, marksAt_cons_other (Ne.symm hne)]
  refine ⟨⟨_, _, hwithout _, hself⟩, ?_, ?_, ?_⟩
  · -- the other errors of the file take back the same warnings with this one and without it
    rw [markers_warning_both, markers_warning_both, hwarnings, hself, hwithout,
      MarkerStore.unshadowed, MarkerStore.unshadowed, List.filter_filter]
    refine List.filter_congr fun w _ => ?_
    rw [← Bool.decide_and]
    refine decide_eq_decide.mpr ?_
    rw [List.forall_mem_append, List.forall_mem_cons, List.forall_mem_append]
    exact and_left_comm
  · intro other hne level
    cases level with
    | error => exact hother other hne
    | warning => rw [markers_warning_both, markers_warning_both, hwarnings, hother other hne]
  · rw [notices_reconcile, notices_reconcile, List.filter_append, List.filter_append,
      List.filter_cons_of_neg (by simp [hplace])]

/-- **A diagnostic without a place, and what it makes of a pass**, whatever else is found. -/
theorem reconcile_withNotice (b : Board) (hplace : ¬ d.HasPlace documents)
    (earlier later : List Diagnostic) :
    WithNotice b.notices d.message
      (b.reconcile base documents (earlier ++ later) .both)
      (b.reconcile base documents (earlier ++ d :: later) .both) := by
  refine ⟨⟨(earlier.filter fun d => ¬ d.HasPlace documents).map (·.message),
    (later.filter fun d => ¬ d.HasPlace documents).map (·.message), ?_, ?_⟩, ?_⟩
  · rw [notices_reconcile, List.filter_append, List.map_append]
  · rw [notices_reconcile, List.filter_append, List.filter_cons_of_pos (by simp [hplace]),
      List.map_append, List.map_cons]
  · have hnone : Placement.place? (Placement.desk base documents) d = none := by
      rw [Diagnostic.place?_desk, if_neg hplace]
    show b.store.replace .both _ = b.store.replace .both _
    rw [List.filterMap_append, List.filterMap_cons_none hnone, List.filterMap_append]

end Board

/-! ## The files of the sources -/

namespace Path

variable {p : Path}

/-- Only the trail of an absolute path goes to the root. -/
theorem root_mem_trail_iff : .root ∈ p.trail ↔ p.isAbsolute = true := by
  have hsteps : .root ∉ p.steps := fun h => spelled_of_mem_filterMap h
  rw [trail_eq_lead_append, List.mem_append, or_iff_left hsteps, lead]
  split
  · next h => simp [h]
  · next h => split <;> simp [h]

/-- Where a relative path starts makes no difference to a trail that goes on with it. -/
theorem normalize_append_steps (h : p.isAbsolute = false) (t : Trail) :
    Trail.normalize (t ++ p.steps) = Trail.normalize (t ++ p.trail) := by
  rw [trail_eq_lead_append, lead, if_neg (by simp [h])]
  split
  · rw [Trail.normalize, Trail.normalize, List.foldl_append, List.foldl_append]
    rfl
  · rfl

end Path

/-- **The file of a path below the root** stands behind a directory that only depends on the root.
(The root is taken twice if it is relative.) -/
theorem exists_identity_eq {root : Path} (hroot : root.text.toList ≠ []) :
    ∃ above : Trail, ∀ (p : Path) (names : List String),
      p.trail = root.trail ++ names.map .name →
        identity (some root) p = above ++ names.map .name := by
  have hkind {p : Path} {names : List String} (h : p.trail = root.trail ++ names.map .name) :
      p.isAbsolute = root.isAbsolute := by
    rw [Bool.eq_iff_iff, ← Path.root_mem_trail_iff, ← Path.root_mem_trail_iff, h]
    simp
  cases habsolute : root.isAbsolute with
  | true =>
    refine ⟨root.trail.normalize, fun p names h => ?_⟩
    rw [identity, Path.join_of_isAbsolute ((hkind h).trans habsolute), h,
      Trail.normalize_append_names]
  | false =>
    refine ⟨Trail.normalize (root.trail ++ root.trail), fun p names h => ?_⟩
    have hrelative : p.isAbsolute = false := (hkind h).trans habsolute
    rw [identity, Path.trail_join hroot hrelative, Path.normalize_append_steps hrelative, h,
      ← List.append_assoc, Trail.normalize_append_names]

namespace Discovery

variable {fs : FileSystem} {root : Path} {config : Config} {ignores : Ignore.UserFile}
  {found : List Path}

/-- **No two sources are shown as one file.** -/
theorem nodup_identity_of_sources (htree : fs.tree.IsTree)
    (h : sources fs root config ignores = .ok found) : (found.map (identity (some root))).Nodup := by
  have hroot := FileSystem.ne_nil_of_isDirectory (isDirectory_of_sources h)
  obtain ⟨above, habove⟩ := exists_identity_eq hroot
  have hnodup := nodup_of_sources htree h
  refine List.Nodup.map_on ?_ hnodup.of_map
  intro p hp q hq heq
  refine List.inj_on_of_nodup_map hnodup hp hq ?_
  -- the names behind the root can be told from the file
  obtain ⟨way, n, htrail, -⟩ := exists_names_of_sources htree h hp
  obtain ⟨way', n', htrail', -⟩ := exists_names_of_sources htree h hq
  rw [habove p _ htrail, habove q _ htrail'] at heq
  rw [htrail, htrail', List.append_cancel_left heq]

theorem text_ne_empty_of_sources (htree : fs.tree.IsTree) (h : sources fs root config ignores = .ok found)
    {p : Path} (hp : p ∈ found) : p.text ≠ "" := by
  obtain ⟨way, n, htrail, -⟩ := exists_names_of_sources htree h hp
  intro hempty
  have hnil : p.trail = [] := by
    rw [show p = ⟨""⟩ from Path.eq_of_text hempty]
    decide
  rw [hnil] at htrail
  simp at htrail

end Discovery

/-! ## Lines of a report -/

namespace AssemblerReport

open Text

variable {line : List Char}

/-- What a line of a report says. -/
def lineSays? (line : List Char) : Option Diagnostic :=
  if isNoise line then none else ofLine? line

/-- The line is an error without a place. -/
structure IsUnplaced (line : List Char) : Prop where
  no_echo : line.head? ≠ some '>'
  holds : HoldsError line
  not_located : ¬ HoldsLocated line

theorem isUnplaced_iff : IsUnplaced line ↔
    line.head? ≠ some '>' ∧ hasUnlocated line = true ∧ findLocated line = none := by
  rw [hasUnlocated_iff, findLocated_eq_none_iff]
  exact ⟨fun h => ⟨h.no_echo, h.holds, h.not_located⟩, fun ⟨hecho, hholds, hnone⟩ =>
    ⟨hecho, hholds, hnone⟩⟩

instance : DecidablePred IsUnplaced :=
  fun _ => decidable_of_iff' _ isUnplaced_iff

theorem lineSays?_of_isUnplaced (h : IsUnplaced line) :
    lineSays? line = some (.unlocated (String.ofList line) .error) := by
  obtain ⟨-, herror, hnone⟩ := isUnplaced_iff.mp h
  rw [lineSays?, not_isNoise_of_holdsError h.holds h.no_echo, ofLine?, hnone]
  simp only [Bool.false_eq_true, if_false, herror, if_true]

end AssemblerReport

/-- What lines of a report say about the document. -/
def Document.told (document : Document) (lines : List (List Char)) : List Diagnostic :=
  (lines.filterMap AssemblerReport.lineSays?).map (Diagnostic.anchor document)

/-! ## How such an error is shown -/

/-- The marker of an error on a line of a document that includes what the error names. It covers the
text of the line. -/
def includeMark (text : String) (index : Nat) (message : String) : Marker where
  line := index
  startColumn := (columnRange text.toList 0).1
  endColumn := (columnRange text.toList 0).2
  message
  level := .error

/-- How an error without a place is shown that the assembler printed for the document: what the
board `b'` shows with it, against the board `b` without it. -/
structure ShownAt (base : Option Path) (document : Document) (message : String) (old : Notices)
    (b b' : Board) : Prop where
  /-- If a line of the document includes what it names, it is an error of the document there. -/
  included : ∀ index, (Diagnostic.unlocated message .error).includedAt? document = some index →
    ∃ text, document.line? index = some text ∧
      Board.WithError (identity base document.path) (includeMark text index message) b b'
  /-- If none does, it is noticed. -/
  not_included : (Diagnostic.unlocated message .error).includedAt? document = none →
    Board.WithNotice old message b b'

/-- Where no two documents show one file, each is found by its file. -/
theorem find?_identity {base : Option Path} {documents : List Document} {document : Document}
    (h : (documents.map fun doc => identity base doc.path).Nodup) (hopen : document ∈ documents) :
    documents.find? (fun doc => identity base doc.path == identity base document.path) =
      some document := by
  cases hfind : documents.find? _ with
  | none => exact absurd (beq_self_eq_true _) (List.find?_eq_none.mp hfind document hopen)
  | some doc =>
    have heq := List.find?_some hfind
    rw [beq_iff_eq] at heq
    rw [List.inj_on_of_nodup_map h (List.mem_of_find?_eq_some hfind) hopen heq]

namespace Diagnostic

variable {base : Option Path} {documents : List Document} {document : Document}
  {message text : String} {index : Nat}

theorem home_anchor_unlocated (hpath : document.path.text ≠ "") :
    ((unlocated message .error).anchor document).home base documents =
      identity base document.path :=
  if_pos hpath

theorem line_anchor_unlocated : ((unlocated message .error).anchor document).line =
    match (unlocated message .error).includedAt? document with
    | some index => (index : Int) + 1
    | none => 0 :=
  anchor_line_of_global rfl

/-- An error without a place has one if a line of its document includes what it names. -/
theorem hasPlace_anchor_unlocated (hpath : document.path.text ≠ "") :
    ((unlocated message .error).anchor document).HasPlace documents ↔
      ∃ index, (unlocated message .error).includedAt? document = some index := by
  rw [HasPlace, and_iff_left (.inl hpath), line_anchor_unlocated]
  cases (unlocated message .error).includedAt? document with
  | none => simp
  | some index =>
    refine iff_of_true ?_ ⟨index, rfl⟩
    show 0 < (index : Int) + 1
    omega

theorem exists_line?_of_includedAt? {d : Diagnostic} (h : d.includedAt? document = some index) :
    ∃ text, document.line? index = some text := by
  obtain ⟨name, -, hline⟩ := Option.bind_eq_some_iff.mp h
  exact Option.isSome_iff_exists.mp (Document.line?_isSome_iff.mpr (Document.includeLine?_lt hline))

/-- **Its marker is made from its own document**, whichever documents are open beside it. -/
theorem mark_anchor_unlocated (h : (documents.map fun doc => identity base doc.path).Nodup)
    (hopen : document ∈ documents) (hpath : document.path.text ≠ "")
    (hindex : (unlocated message .error).includedAt? document = some index)
    (htext : document.line? index = some text) :
    ((unlocated message .error).anchor document).mark base documents =
      includeMark text index message := by
  have hline : (((unlocated message .error).anchor document).line - 1).toNat = index := by
    rw [line_anchor_unlocated, hindex]
    show ((index : Int) + 1 - 1).toNat = index
    omega
  have hat : ((unlocated message .error).anchor document).textAt? base documents = some text := by
    rw [textAt?, home_anchor_unlocated hpath, find?_identity h hopen, hline]
    exact htext
  rw [mark, columns, hat, hline]
  rfl

/-- **How an error without a place is shown**, whatever else is found. -/
theorem shownAt_unlocated (b : Board)
    (h : (documents.map fun doc => identity base doc.path).Nodup)
    (hopen : document ∈ documents) (hpath : document.path.text ≠ "")
    (earlier later : List Diagnostic) :
    ShownAt base document message b.notices
      (b.reconcile base documents (earlier ++ later) .both)
      (b.reconcile base documents
        (earlier ++ (unlocated message .error).anchor document :: later) .both) where
  included := by
    intro index hindex
    obtain ⟨text, htext⟩ := exists_line?_of_includedAt? hindex
    refine ⟨text, htext, ?_⟩
    rw [← mark_anchor_unlocated h hopen hpath hindex htext, ← home_anchor_unlocated hpath]
    have herror : ((unlocated message .error).anchor document).severity ≠ .warning :=
      fun heq => nomatch heq
    exact Board.reconcile_withError b ((hasPlace_anchor_unlocated hpath).mpr ⟨index, hindex⟩)
      herror earlier later
  not_included := by
    intro hnone
    have hplace : ¬ ((unlocated message .error).anchor document).HasPlace documents := by
      rw [hasPlace_anchor_unlocated hpath, hnone]
      simp
    exact Board.reconcile_withNotice b hplace earlier later

end Diagnostic

namespace Workspace

open Build

variable {w : Workspace} {s : State}

/-- The lines that the assembler prints on the standard error for a document. -/
def printed (w : Workspace) (document : Document) : List (List Char) :=
  Text.reportLines (Utf8.decode (w.tools (w.assembling document.path false)).stderr)

theorem found_eq_told (w : Workspace) (document : Document) :
    w.found false document = document.told (w.printed document) := rfl

/-- **Errors without a place stay with their source.** A build that ends with compile errors has
sources, all with different files. Take any line that the assembler printed for one of them, if it is
an error without a place. If a line of this source includes what it names, it is shown as an error of
the source on the first such line. Else it is noticed. But for that, the board is what it would be
without the line, whatever the sources contain and whatever else was printed. -/
theorem unplaced_stay_with_source (htree : s.files.tree.IsTree) {n : Nat}
    (h : (w.build s).result = .error (.compileErrors n)) :
    ∃ documents, w.documents s.files = .ok documents ∧
      (documents.map fun document => identity (some w.root) document.path).Nodup ∧
      ∀ front document back, documents = front ++ document :: back →
      ∀ before line after, w.printed document = before ++ line :: after →
      AssemblerReport.IsUnplaced line →
        let without := s.board.reconcile (some w.root) documents
          (front.flatMap (w.found false) ++ document.told before ++
            (document.told after ++ back.flatMap (w.found false))) .both
        ShownAt (some w.root) document (String.ofList line) s.board.notices without
          (w.build s).state.board := by
  obtain ⟨documents, hdocuments, -, hboard⟩ := exists_documents_of_build_compileErrors h
  have hsources := (documents_eq_ok_iff.mp hdocuments).1
  have hnodup : (documents.map fun document => identity (some w.root) document.path).Nodup := by
    have hfiles := Discovery.nodup_identity_of_sources htree hsources
    rwa [List.map_map] at hfiles
  refine ⟨documents, hdocuments, hnodup, ?_⟩
  intro front document back hsplit before line after hprinted hline without
  have hopen : document ∈ documents := by
    rw [hsplit]
    exact List.mem_append_cons_self
  have hpath : document.path.text ≠ "" :=
    Discovery.text_ne_empty_of_sources htree hsources (List.mem_map_of_mem hopen)
  have hfound : documents.flatMap (w.found false) =
      front.flatMap (w.found false) ++ document.told before ++
        (Diagnostic.unlocated (String.ofList line) .error).anchor document ::
          (document.told after ++ back.flatMap (w.found false)) := by
    rw [hsplit, List.flatMap_append, List.flatMap_cons, found_eq_told, hprinted, Document.told,
      List.filterMap_append,
      List.filterMap_cons_some (AssemblerReport.lineSays?_of_isUnplaced hline), List.map_append,
      List.map_cons, List.append_assoc, List.append_assoc]
    rfl
  rw [hboard, hfound]
  exact Diagnostic.shownAt_unlocated s.board hnodup hopen hpath _ _

/-- Files with two sources below `/p` that include one file under one name. -/
def twoIncludingFiles : FileSystem where
  tree := .folder "p"
    (.file "a.s" "\tinclude \"x.i\"\n".toUTF8.toList
      (.file "b.s" "\tnop\n\tinclude \"x.i\"\n".toUTF8.toList .empty)) .empty
  here := []

/-- The workspace at `/p`, with an assembler that cannot open this file for the second source, and
another one for the first. -/
def unopened : Workspace where
  root := ⟨"/p"⟩
  config := .default
  tools := fun i =>
    if i.args.getLast? = some "/p/b.s" then
      .finished false [] "fatal error 13 : could not open <x.i>\n".toUTF8.toList
    else .finished false [] "fatal error 13 : could not open <y.i>\n".toUTF8.toList

/-- The first of its sources. -/
def firstIncluding : Document :=
  ⟨⟨"/p/a.s"⟩, ["\tinclude \"x.i\""]⟩

/-- The second of its sources. -/
def secondIncluding : Document :=
  ⟨⟨"/p/b.s"⟩, ["\tnop", "\tinclude \"x.i\""]⟩

theorem isTree_twoIncludingFiles : twoIncludingFiles.tree.IsTree := by
  simp [twoIncludingFiles, Directory.IsTree, Step.Spelled, Directory.names]

theorem documents_unopened : unopened.documents twoIncludingFiles =
    .ok [firstIncluding, secondIncluding] := by
  refine documents_eq_ok_iff.mpr ⟨?_, by decide +kernel⟩
  refine Discovery.sources_eq_ok_iff.mpr
    ⟨["p"], _, _, [], rfl, rfl, Discovery.patterns_default, rfl, ?_⟩
  rw [List.mergeSort_of_pairwise]
  · decide +kernel
  · decide +kernel

/-- What is printed for the second source is an error of the second source, although the first one
includes the file as well. What is printed for the first is noticed. -/
theorem unplaced_stay_with_source_unopened :
    let s : State := ⟨twoIncludingFiles, .empty, .empty, []⟩
    let board := (unopened.build s).state.board
    s.files.tree.IsTree ∧
    (unopened.build s).result = .error (.compileErrors 2) ∧
    "fatal error 13 : could not open <y.i>" ∈ board.notices.messages ∧
    ⟨1, 1, 14, "fatal error 13 : could not open <x.i>", .error⟩ ∈
      board.store.markers .error [.root, .name "p", .name "b.s"] := by
  intro s board
  have htree : s.files.tree.IsTree := isTree_twoIncludingFiles
  have hresult : (unopened.build s).result = .error (.compileErrors 2) := by
    have hreported : unopened.reported [firstIncluding, secondIncluding] = 2 := by decide +kernel
    have hunclean : ¬ unopened.IsClean [firstIncluding, secondIncluding] := by
      rw [isClean_iff, hreported]
      decide
    obtain ⟨files, hchecks⟩ : ∃ files, unopened.checks s.files =
        .ok ([firstIncluding, secondIncluding], files) :=
      ⟨_, checks_eq_ok_iff.mpr ⟨rfl, documents_unopened, rfl⟩⟩
    rw [build_eq, hchecks]
    show (unopened.finish [firstIncluding, secondIncluding] { s with files }).result = _
    rw [finish_unclean hunclean, hreported]
    rfl
  obtain ⟨documents, hdocuments, -, hshown⟩ := unplaced_stay_with_source htree hresult
  obtain rfl : [firstIncluding, secondIncluding] = documents :=
    Except.ok.inj (documents_unopened.symm.trans hdocuments)
  refine ⟨htree, hresult, ?_, ?_⟩
  · have hprinted : unopened.printed firstIncluding =
        [] ++ "fatal error 13 : could not open <y.i>".toList :: [[]] := by
      decide +kernel
    have hline : AssemblerReport.IsUnplaced "fatal error 13 : could not open <y.i>".toList := by
      decide +kernel
    have hshown := hshown [] firstIncluding [secondIncluding] rfl [] _ _ hprinted hline
    obtain ⟨earlier, later, -, hnotices⟩ := (hshown.not_included (by decide +kernel)).notices
    have hmessages : board.notices.messages =
        earlier ++ "fatal error 13 : could not open <y.i>" :: later := by
      rw [hnotices, String.ofList_toList]
      rfl
    rw [hmessages]
    exact List.mem_append_cons_self
  · have hprinted : unopened.printed secondIncluding =
        [] ++ "fatal error 13 : could not open <x.i>".toList :: [[]] := by
      decide +kernel
    have hline : AssemblerReport.IsUnplaced "fatal error 13 : could not open <x.i>".toList := by
      decide +kernel
    have hshown := hshown [firstIncluding] secondIncluding [] rfl [] _ _ hprinted hline
    obtain ⟨text, htext, herror⟩ := hshown.included 1 (by decide +kernel)
    cases htext
    obtain ⟨before, after, -, hmarkers⟩ := herror.errors
    have hfile : identity (some unopened.root) secondIncluding.path =
        [.root, .name "p", .name "b.s"] := by
      decide +kernel
    rw [hfile] at hmarkers
    rw [hmarkers]
    exact List.mem_append_cons_self

end Workspace

end BuildReport
