import BuildReport.Build.Workspace
import BuildReport.Proofs.Extensions
import BuildReport.Proofs.Sources

/-!
# The objects of the sources

All objects go into the one directory for results, and only the stem of a source's file name is
left in the name of its object. So sources have different objects as far as their stems differ, and
no further: what directory a source is in, and which extension it has, makes no difference. Nothing
is said here of names that begin with a dot and have a further one.

- `Path.fileStem`, `Path.fileExtension`: the two parts of a file name.
- `trail_objectPath`: an object stands directly in the directory for results.
- `objectName_eq_iff`: which sources have one object.
- `objects_distinct_iff_stems`: which sources of a workspace share an object, and when none do.
- `same_stem_shares_object`: two sources that do.
-/

namespace BuildReport

/-! ## File names -/

namespace Path

theorem eq_of_text {p q : Path} (h : p.text = q.text) : p = q := by
  cases p
  cases q
  exact congrArg mk h

/-- The characters of the file name. -/
def fileChars (p : Path) : List Char :=
  (p.fileName?.getD "").toList

/-- The stem of the file name. -/
def fileStem (p : Path) : List Char :=
  stem p.fileChars

/-- The extension of the file name. -/
def fileExtension (p : Path) : List Char :=
  extension p.fileChars

/-- The file name begins with a dot and has a further one. -/
def IsDotted (p : Path) : Prop :=
  BuildReport.IsDotted p.fileChars

instance (p : Path) : Decidable p.IsDotted :=
  inferInstanceAs (Decidable (BuildReport.IsDotted p.fileChars))

/-- A file name has no separator in it. -/
theorem no_separator_fileChars (p : Path) : '/' ∉ p.fileChars := by
  rw [fileChars]
  cases hname : p.fileName? with
  | none => decide
  | some n =>
    obtain ⟨first, steps, htrail, hfirst, hsteps⟩ := p.trail_eq
    have hlast : p.trail.getLast? = some (.name n) := by
      unfold fileName? at hname
      split at hname
      · next hlast =>
        cases hname
        exact hlast
      · cases hname
    have hmem : Step.name n ∈ first ++ steps := htrail ▸ List.mem_of_getLast? hlast
    rcases List.mem_append.mp hmem with h | h
    · rcases hfirst with rfl | rfl | rfl <;> simp at h
    · exact (hsteps _ h).1

end Path

/-! ## Where objects are -/

variable {dir : Path}

theorem objectName_eq (p : Path) :
    objectName p = String.ofList (objectStem p.fileChars ++ ['.', 'o']) := rfl

/-- **Which sources have one object**, where no name begins with a dot and has a further one: those
with one stem. -/
theorem objectName_eq_iff {p q : Path} (hp : ¬ p.IsDotted) (hq : ¬ q.IsDotted) :
    objectName p = objectName q ↔ p.fileStem = q.fileStem := by
  rw [objectName_eq, objectName_eq, String.ofList_inj, List.append_cancel_right_eq,
    objectStem_eq_stem hp, objectStem_eq_stem hq]
  rfl

/-- The name of an object can be written down and read back, whatever the source is. -/
theorem spelled_objectName (p : Path) : (Step.name (objectName p)).Spelled := by
  have hsep : '/' ∉ objectStem p.fileChars := fun h =>
    p.no_separator_fileChars ((objectStem_isPrefix _).subset h)
  have hlast : (objectName p).toList.getLast? = some 'o' := by
    rw [objectName_eq, String.toList_ofList, List.getLast?_append]
    rfl
  refine ⟨?_, ?_, ?_, ?_⟩
  · rw [objectName_eq, String.toList_ofList]
    simp [hsep]
  all_goals
    intro h
    rw [h] at hlast
    revert hlast
    decide

/-- **An object stands directly in the directory for results.** -/
theorem trail_objectPath (hdir : dir.text.toList ≠ []) (p : Path) :
    (objectPath dir p).trail = dir.trail ++ [.name (objectName p)] := by
  have hspelled : ∀ s ∈ [Step.name (objectName p)], s.Spelled :=
    List.forall_mem_singleton.mpr (spelled_objectName p)
  show (dir.join ⟨Trail.textOf [.name (objectName p)]⟩).trail = _
  rw [Path.trail_join hdir (Path.isAbsolute_textOf hspelled)]
  exact congrArg (dir.trail ++ ·) (Path.filterMap_step?_textOf hspelled)

/-- One object has one place. -/
theorem trail_objectPath_eq_iff (hdir : dir.text.toList ≠ []) {p q : Path} :
    (objectPath dir p).trail = (objectPath dir q).trail ↔ objectName p = objectName q := by
  rw [trail_objectPath hdir, trail_objectPath hdir, List.append_cancel_left_eq, List.singleton_inj,
    Step.name.injEq]

/-- One object has one spelling. -/
theorem text_objectPath_eq_iff (hdir : dir.text.toList ≠ []) {p q : Path} :
    (objectPath dir p).text = (objectPath dir q).text ↔ objectName p = objectName q := by
  constructor
  · intro h
    exact (trail_objectPath_eq_iff hdir).mp (congrArg Path.trail (Path.eq_of_text h))
  · intro h
    rw [objectPath, objectPath, h]

/-! ## The objects of a workspace -/

namespace Workspace

variable {w : Workspace} {fs : FileSystem} {found : List Path}

theorem buildDir_ne_nil (hroot : w.root.text.toList ≠ []) : w.buildDir.text.toList ≠ [] :=
  Path.join_ne_nil hroot w.config.dir

theorem nodup_map_iff_of_eq_iff {α β γ : Type} {f : α → β} {g : α → γ} {l : List α}
    (h : ∀ a ∈ l, ∀ b ∈ l, f a = f b ↔ g a = g b) : (l.map f).Nodup ↔ (l.map g).Nodup := by
  rw [List.Nodup, List.Nodup, List.pairwise_map, List.pairwise_map]
  exact List.Pairwise.iff_of_mem fun ha hb => not_congr (h _ ha _ hb)

/-- The arguments of the linker behind its options, the program, and the word before that. -/
def linked (w : Workspace) (sources : List Path) (exe : String) : List String :=
  (w.linking sources exe).args.drop (w.config.linker.options.length + 2)

theorem linked_eq (w : Workspace) (sources : List Path) (exe : String) :
    w.linked sources exe = sources.map fun source => (objectPath w.buildDir source).text :=
  List.drop_left' (by simp)

/-- Sources of one directory are told apart by stem and extension. -/
theorem stem_ne_of_extension_eq (htree : fs.tree.IsTree)
    (h : Discovery.sources fs w.root w.config w.ignores = .ok found) {p q : Path} (hp : p ∈ found)
    (hq : q ∈ found) (hne : p.trail ≠ q.trail) (hdir : p.trail.dropLast = q.trail.dropLast)
    (hext : p.fileExtension = q.fileExtension) : p.fileStem ≠ q.fileStem := by
  intro hstem
  obtain ⟨above, n, hp, hpname⟩ := Discovery.exists_names_of_sources htree h hp
  obtain ⟨above', m, hq, hqname⟩ := Discovery.exists_names_of_sources htree h hq
  -- stem and extension make up the name, and what is before the name is the directory
  have hname : n = m := by
    rw [Path.fileStem, Path.fileStem, Path.fileChars, Path.fileChars, hpname, hqname] at hstem
    rw [Path.fileExtension, Path.fileExtension, Path.fileChars, Path.fileChars, hpname, hqname]
      at hext
    have happend := stem_append_extension n.toList
    rw [show stem n.toList = stem m.toList from hstem,
      show extension n.toList = extension m.toList from hext, stem_append_extension] at happend
    exact String.toList_inj.mp happend.symm
  refine hne ?_
  rw [hp, hq, List.map_append, List.map_append, ← List.append_assoc, ← List.append_assoc] at hdir ⊢
  rw [List.map_singleton, List.map_singleton, List.dropLast_concat, List.dropLast_concat] at hdir
  rw [hdir, hname]

/-- **Which sources share an object, and when none do.** A source is assembled to its object. Leave
names out that begin with a dot and have a further one. Then two sources have one object if the stems
of their file names are the same, and only then. So it never happens to two sources of one directory
with one extension. If there are no other names, no object is assembled twice if all stems are
different, and only then, and so it is with what the linker is told to link. -/
theorem objects_distinct_iff_stems (htree : fs.tree.IsTree)
    (h : Discovery.sources fs w.root w.config w.ignores = .ok found) :
    (∀ p ∈ found, ∀ debug,
      ["-o", (objectPath w.buildDir p).text, p.text] <:+ (w.assembling p debug).args) ∧
    (∀ p ∈ found, ∀ q ∈ found, ¬ p.IsDotted → ¬ q.IsDotted →
      ((objectPath w.buildDir p).trail = (objectPath w.buildDir q).trail ↔
        p.fileStem = q.fileStem)) ∧
    (∀ p ∈ found, ∀ q ∈ found, ¬ p.IsDotted → ¬ q.IsDotted → p.trail ≠ q.trail →
      p.trail.dropLast = q.trail.dropLast → p.fileExtension = q.fileExtension →
        (objectPath w.buildDir p).trail ≠ (objectPath w.buildDir q).trail) ∧
    ((∀ p ∈ found, ¬ p.IsDotted) →
      ((found.map fun p => (objectPath w.buildDir p).trail).Nodup ↔
        (found.map Path.fileStem).Nodup) ∧
      ∀ exe, (w.linked found exe).Nodup ↔ (found.map Path.fileStem).Nodup) := by
  have hdir : w.buildDir.text.toList ≠ [] :=
    buildDir_ne_nil (FileSystem.ne_nil_of_isDirectory (Discovery.isDirectory_of_sources h))
  have hshare {p q : Path} (hp : ¬ p.IsDotted) (hq : ¬ q.IsDotted) :
      (objectPath w.buildDir p).trail = (objectPath w.buildDir q).trail ↔
        p.fileStem = q.fileStem :=
    (trail_objectPath_eq_iff hdir).trans (objectName_eq_iff hp hq)
  refine ⟨fun p _ debug => List.suffix_append _ _, fun p _ q _ hp hq => hshare hp hq, ?_, ?_⟩
  · intro p hp q hq hpdots hqdots hne hdirs hext heq
    exact stem_ne_of_extension_eq htree h hp hq hne hdirs hext ((hshare hpdots hqdots).mp heq)
  · intro hdots
    refine ⟨nodup_map_iff_of_eq_iff fun p hp q hq => hshare (hdots p hp) (hdots q hq),
      fun exe => ?_⟩
    rw [linked_eq]
    refine nodup_map_iff_of_eq_iff fun p hp q hq => ?_
    rw [text_objectPath_eq_iff hdir, objectName_eq_iff (hdots p hp) (hdots q hq)]

/-- Files with a source `main.s` in each of the two directories below `/p`. -/
def twoMainsFiles : FileSystem where
  tree := .folder "p"
    (.folder "a" (.file "main.s" [] .empty) (.folder "b" (.file "main.s" [] .empty) .empty)) .empty
  here := []

/-- The workspace at `/p`, with tools that have nothing to say. -/
def twoMains : Workspace where
  root := ⟨"/p"⟩
  config := .default
  tools := fun _ => .finished true [] []

theorem isTree_twoMainsFiles : twoMainsFiles.tree.IsTree := by
  simp [twoMainsFiles, Directory.IsTree, Step.Spelled, Directory.names]

theorem sources_twoMains : Discovery.sources twoMainsFiles twoMains.root twoMains.config =
    .ok [⟨"/p/a/main.s"⟩, ⟨"/p/b/main.s"⟩] := by
  refine Discovery.sources_eq_ok_iff.mpr
    ⟨["p"], _, _, [], rfl, rfl, Discovery.patterns_default, rfl, ?_⟩
  -- the walk comes upon the two in their order
  rw [List.mergeSort_of_pairwise]
  · decide +kernel
  · decide +kernel

/-- The two sources of one name have one stem, so the linker is told one object twice. -/
theorem objects_distinct_iff_stems_twoMains :
    twoMainsFiles.tree.IsTree ∧
    Discovery.sources twoMainsFiles twoMains.root twoMains.config =
      .ok [⟨"/p/a/main.s"⟩, ⟨"/p/b/main.s"⟩] ∧
    (∀ p ∈ [(⟨"/p/a/main.s"⟩ : Path), ⟨"/p/b/main.s"⟩], ¬ p.IsDotted) ∧
    ((twoMains.linked [⟨"/p/a/main.s"⟩, ⟨"/p/b/main.s"⟩] "a.out").Nodup ↔
      (["main".toList, "main".toList]).Nodup) := by
  have hdots : ∀ p ∈ [(⟨"/p/a/main.s"⟩ : Path), ⟨"/p/b/main.s"⟩], ¬ p.IsDotted := by
    decide +kernel
  obtain ⟨-, -, -, hnodup⟩ := objects_distinct_iff_stems isTree_twoMainsFiles sources_twoMains
  exact ⟨isTree_twoMainsFiles, sources_twoMains, hdots, (hnodup hdots).2 "a.out"⟩

/-- **Different sources do not have different objects.** -/
theorem same_stem_shares_object :
    Discovery.sources twoMainsFiles twoMains.root twoMains.config =
      .ok [⟨"/p/a/main.s"⟩, ⟨"/p/b/main.s"⟩] ∧
    Path.trail ⟨"/p/a/main.s"⟩ ≠ Path.trail ⟨"/p/b/main.s"⟩ ∧
    objectPath twoMains.buildDir ⟨"/p/a/main.s"⟩ = ⟨"/p/build/main.o"⟩ ∧
    objectPath twoMains.buildDir ⟨"/p/b/main.s"⟩ = ⟨"/p/build/main.o"⟩ ∧
    ¬ (twoMains.linked [⟨"/p/a/main.s"⟩, ⟨"/p/b/main.s"⟩] "a.out").Nodup := by
  refine ⟨sources_twoMains, ?_, ?_, ?_, ?_⟩ <;> decide +kernel

end Workspace

end BuildReport
