import BuildReport.Proofs.SourceRules
import Mathlib.Data.Set.List

/-!
# The directory for results among the sources

The walk turns back at the directory for results, which it knows by its trail. The trail of an entry
takes the steps of the root, as the root was given, and then goes through names only. So the walk
comes upon the directory if it is written that way. A relative directory is, unless it takes a step
back. Another spelling of the same directory is never come upon, and sources in it are found.

- `Config.IsPlain`: the directory for results is written as the root with names behind it.
- `Path.IsWithin`: a path lies in a directory, by their shortest forms.
- `Config.isPlain_iff_of_relative`: which relative directories are written that way.
- `mem_walk_withDir_iff`: what the walk finds, against a walk with its results elsewhere.
- `results_left_out_iff_plain`: when no source lies in the directory for results.
- `respelled_results_found`: a source that does.
-/

namespace BuildReport

/-! ## Spellings of the directory for results -/

namespace Path

variable {p dir root : Path} {names below : List String}

/-- The path is the directory or lies in it, by their shortest forms. -/
def IsWithin (p dir : Path) : Prop :=
  dir.normalize.trail <+: p.normalize.trail

instance (p dir : Path) : Decidable (p.IsWithin dir) :=
  inferInstanceAs (Decidable (_ <+: _))

/-- Two paths that go on from one directory through names are told apart by the names. -/
theorem isWithin_iff_prefix (hdir : dir.trail = root.trail ++ below.map .name)
    (hp : p.trail = root.trail ++ names.map .name) : p.IsWithin dir ↔ below <+: names := by
  rw [IsWithin, trail_normalize, trail_normalize, hdir, hp, Trail.normalize_append_names,
    Trail.normalize_append_names, List.prefix_append_right_inj]
  exact List.prefix_map_iff_of_injective fun _ _ => Step.name.inj

/-- Steps of which none is a step back go through names. -/
theorem exists_names_of_steps (h : .up ∉ p.steps) :
    ∃ names : List String, p.steps = names.map .name := by
  have hname : ∀ s ∈ p.steps, s ∈ Set.range Step.name := by
    intro s hs
    have hspelled := spelled_of_mem_filterMap hs
    cases s with
    | name n => exact ⟨n, rfl⟩
    | up => exact absurd hs h
    | root => exact absurd hspelled id
    | here => exact absurd hspelled id
  have hnames : p.steps ∈ Set.range (List.map Step.name) := by
    rw [Set.range_list_map]
    exact hname
  obtain ⟨names, hsteps⟩ := hnames
  exact ⟨names, hsteps.symm⟩

end Path

namespace Config

variable {config : Config} {root : Path}

/-- The same settings with another directory for results. -/
def withDir (config : Config) (dir : Path) : Config :=
  { config with dir }

/-- The directory for results is written as the root with names behind it. -/
def IsPlain (config : Config) (root : Path) : Prop :=
  ∃ below : List String, below ≠ [] ∧
    (config.buildDir root).trail = root.trail ++ below.map .name

/-- **A relative directory is written plainly** if it has a name in it and no step back. Repeated
separators and idle steps make no difference. -/
theorem isPlain_iff_of_relative (hroot : root.text.toList ≠ [])
    (h : config.dir.isAbsolute = false) :
    config.IsPlain root ↔ config.dir.steps ≠ [] ∧ .up ∉ config.dir.steps := by
  rw [IsPlain, buildDir, Path.trail_join hroot h]
  simp only [List.append_cancel_left_eq]
  constructor
  · rintro ⟨below, hne, hsteps⟩
    rw [hsteps]
    simp [hne]
  · rintro ⟨hne, hup⟩
    obtain ⟨below, hbelow⟩ := Path.exists_names_of_steps hup
    refine ⟨below, ?_, hbelow⟩
    rintro rfl
    exact hne hbelow

end Config

/-! ## The walk with its results elsewhere -/

namespace Discovery

variable {fs : FileSystem} {tree d : Directory} {place names : List String} {root dir : Path}
  {config : Config} {ignores : Ignore.UserFile} {found all : List Path}

/-- The directory for results is on the way to these names, or it is what they name. -/
def MeetsResults (root : Path) (config : Config) (names : List String) : Prop :=
  ∃ way, way ≠ [] ∧ way <+: names ∧
    (root.join ⟨joined way⟩).trail = (config.buildDir root).trail

theorem trail_join_joined (hroot : root.text.toList ≠ [])
    (h : ∀ n ∈ names, (Step.name n).Spelled) :
    (root.join ⟨joined names⟩).trail = root.trail ++ names.map .name :=
  trail_path (w := ⟨root, [], [], .absent⟩) hroot h

/-- **The walk comes upon the directory for results** if that is written plainly, and then on the
way to what lies in it. -/
theorem meetsResults_iff (hroot : root.text.toList ≠ [])
    (h : ∀ n ∈ names, (Step.name n).Spelled) : MeetsResults root config names ↔
      config.IsPlain root ∧ (root.join ⟨joined names⟩).IsWithin (config.buildDir root) := by
  have htrail := trail_join_joined hroot h
  constructor
  · rintro ⟨way, hne, hway, hdir⟩
    rw [trail_join_joined hroot fun n hn => h n (hway.subset hn)] at hdir
    exact ⟨⟨way, hne, hdir.symm⟩, (Path.isWithin_iff_prefix hdir.symm htrail).mpr hway⟩
  · rintro ⟨⟨below, hne, hdir⟩, hwithin⟩
    have hbelow : below <+: names := (Path.isWithin_iff_prefix hdir htrail).mp hwithin
    refine ⟨below, hne, hbelow, ?_⟩
    rw [hdir, trail_join_joined hroot fun n hn => h n (hbelow.subset hn)]

/-- The directory above the root is not come upon. -/
theorem not_meetsResults_above (config : Config) (hroot : root.text.toList ≠ [])
    (h : ∀ n ∈ names, (Step.name n).Spelled) :
    ¬ MeetsResults root (config.withDir ⟨".."⟩) names := by
  rw [meetsResults_iff hroot h]
  rintro ⟨hplain, -⟩
  have hrelative : (config.withDir ⟨".."⟩).dir.isAbsolute = false := by
    show Path.isAbsolute ⟨".."⟩ = false
    decide
  have hup : .up ∈ (config.withDir ⟨".."⟩).dir.steps := by
    show .up ∈ Path.steps ⟨".."⟩
    decide
  exact ((Config.isPlain_iff_of_relative hroot hrelative).mp hplain).2 hup

/-- The rules for an entry, for a walk with its results elsewhere. -/
theorem isOpen_withDir_iff {isDirectory : Bool}
    (h : (root.join ⟨joined names⟩).trail ≠ ((config.withDir dir).buildDir root).trail) :
    IsOpen ignores tree place root config names isDirectory ↔
      IsOpen ignores tree place root (config.withDir dir) names isDirectory ∧
        (root.join ⟨joined names⟩).trail ≠ (config.buildDir root).trail := by
  simp only [isOpen_iff, h, ne_eq, not_false_eq_true, and_true, and_assoc]

/-- A file that is looked at, in directories that are, is not below the directory for results. -/
theorem not_meetsResults_of_isOpen (hlooked : IsOpen ignores tree place root config names false)
    (hon : ∀ way, IsOnTheWay way names → IsOpen ignores tree place root config way true) :
    ¬ MeetsResults root config names := by
  rintro ⟨way, hbelow, hbefore, heq⟩
  by_cases hway : way = names
  · subst hway
    exact hlooked.not_results heq
  · exact (hon way ⟨hbelow, hbefore, hway⟩).not_results heq

/-- **What the walk finds, against a walk with its results elsewhere**: all but what is in the
directory for results, if the walk comes upon that. -/
theorem mem_walk_withDir_iff (ignores : Ignore.UserFile) (hd : d.IsTree)
    (hat : tree.at? place = some (.folder d))
    (h : ¬ MeetsResults root (config.withDir dir) names) :
    names ∈ walk ⟨root, place, (config.buildDir root).trail, ignores⟩
        (layer place d :: layersAbove tree place) [] d ↔
      names ∈ walk ⟨root, place, ((config.withDir dir).buildDir root).trail, ignores⟩
          (layer place d :: layersAbove tree place) [] d ∧
        ¬ MeetsResults root config names := by
  have hopen : ∀ {way isDirectory}, way ≠ [] → way <+: names →
      (IsOpen ignores tree place root config way isDirectory ↔
        IsOpen ignores tree place root (config.withDir dir) way isDirectory ∧
          (root.join ⟨joined way⟩).trail ≠ (config.buildDir root).trail) :=
    fun hne hbefore => isOpen_withDir_iff fun heq => h ⟨_, hne, hbefore, heq⟩
  rw [mem_walk_iff (w := ⟨root, place, (config.buildDir root).trail, ignores⟩)
      (show _ = (config.buildDir root).trail from rfl) hd hat,
    mem_walk_iff (w := ⟨root, place, ((config.withDir dir).buildDir root).trail, ignores⟩)
      (show _ = ((config.withDir dir).buildDir root).trail from rfl) hd hat,
    and_assoc]
  refine and_congr_right fun ⟨bytes, hfile⟩ => ?_
  have hne : names ≠ [] := Directory.ne_nil_of_at?_file hfile
  constructor
  · rintro ⟨hlooked, hon⟩
    refine ⟨⟨?_, fun way hway => ?_⟩, not_meetsResults_of_isOpen hlooked hon⟩
    · exact ((hopen hne List.prefix_rfl).mp hlooked).1
    · exact ((hopen hway.below hway.before).mp (hon way hway)).1
  · rintro ⟨⟨hlooked, hon⟩, hmeets⟩
    refine ⟨(hopen hne List.prefix_rfl).mpr ⟨hlooked, fun heq => ?_⟩, fun way hway =>
      (hopen hway.below hway.before).mpr ⟨hon way hway, fun heq => ?_⟩⟩
    · exact hmeets ⟨names, hne, List.prefix_rfl, heq⟩
    · exact hmeets ⟨way, hway.below, hway.before, heq⟩

/-! ## The sources with the results elsewhere -/

/-- Where the results go does not decide whether there are sources to tell of. -/
theorem exists_sources_withDir (h : sources fs root config ignores = .ok found) (dir : Path) :
    ∃ all, sources fs root (config.withDir dir) ignores = .ok all := by
  obtain ⟨place, d, includes, excludes, hlocate, hat, hincludes, hexcludes, -⟩ :=
    sources_eq_ok_iff.mp h
  exact ⟨_, sources_eq_ok_iff.mpr
    ⟨place, d, includes, excludes, hlocate, hat, hincludes, hexcludes, rfl⟩⟩

/-- A source of the workspace is a source of the one that has its results above the root, unless
it lies in the directory for results and that is written plainly. -/
theorem mem_sources_iff_above (htree : fs.tree.IsTree) (h : sources fs root config ignores = .ok found)
    (hall : sources fs root (config.withDir ⟨".."⟩) ignores = .ok all) {p : Path} :
    p ∈ found ↔
      p ∈ all ∧ ¬ (config.IsPlain root ∧ p.IsWithin (config.buildDir root)) := by
  obtain ⟨place, d, includes, excludes, hlocate, hat, hincludes, hexcludes, rfl⟩ :=
    sources_eq_ok_iff.mp h
  obtain ⟨place', d', includes', excludes', hlocate', hat', hincludes', hexcludes', rfl⟩ :=
    sources_eq_ok_iff.mp hall
  -- the two find the same root and read the same patterns
  obtain rfl := Except.ok.inj (hlocate.symm.trans hlocate')
  obtain rfl := Entry.folder.inj (Option.some.inj (hat.symm.trans hat'))
  obtain rfl := Except.ok.inj (hincludes.symm.trans hincludes')
  obtain rfl := Except.ok.inj (hexcludes.symm.trans hexcludes')
  have hroot : root.text.toList ≠ [] := (FileSystem.locate_eq_ok_iff.mp hlocate).2.1
  have hd := htree.of_at? hat
  have hwalk {names : List String} (hspelled : ∀ n ∈ names, (Step.name n).Spelled) :=
    mem_walk_withDir_iff ignores hd hat (not_meetsResults_above config hroot hspelled)
  simp only [List.mem_mergeSort, List.mem_map, List.mem_filter, Walk.path]
  constructor
  · rintro ⟨names, ⟨hnames, hchosen⟩, rfl⟩
    have hspelled := spelled_of_mem_walk hd (by simp) hnames
    obtain ⟨habove, hmeets⟩ := (hwalk hspelled).mp hnames
    exact ⟨⟨names, ⟨habove, hchosen⟩, rfl⟩,
      fun hin => hmeets ((meetsResults_iff hroot hspelled).mpr hin)⟩
  · rintro ⟨⟨names, ⟨hnames, hchosen⟩, rfl⟩, hout⟩
    have hspelled := spelled_of_mem_walk hd (by simp) hnames
    have hmeets : ¬ MeetsResults root config names :=
      fun hin => hout ((meetsResults_iff hroot hspelled).mp hin)
    exact ⟨names, ⟨(hwalk hspelled).mpr ⟨hnames, hmeets⟩, hchosen⟩, rfl⟩

/-- Sources are determined by what they are: their order is that of their trails. -/
theorem sources_eq_of_mem_iff (htree : fs.tree.IsTree) (h : sources fs root config ignores = .ok found)
    (hsorted : all.Pairwise fun a b => a.trail.le b.trail = true) (hnodup : all.Nodup)
    (hmem : ∀ p, p ∈ found ↔ p ∈ all) : found = all := by
  have hfound := nodup_of_sources htree h
  have hperm : found.Perm all :=
    (List.perm_ext_iff_of_nodup hfound.of_map hnodup).mpr hmem
  refine hperm.eq_of_pairwise ?_ (sorted_of_sources h) hsorted
  -- one trail is not that of two sources
  intro p q hp hq hle hle'
  exact List.inj_on_of_nodup_map hfound hp ((hmem q).mpr hq) (Trail.le_antisymm hle hle')

/-- **When no source lies in the directory for results.** Against the sources of the workspace that
has its results above the root, where the walk does not come, there are all but those in the
directory for results if that is written as the root with names behind it, and all of them if it is
written in any other way. So none lies in it if it is written plainly or there was none to be left
out, and only then. -/
theorem results_left_out_iff_plain (htree : fs.tree.IsTree)
    (h : sources fs root config ignores = .ok found) :
    ∃ all, sources fs root (config.withDir ⟨".."⟩) ignores = .ok all ∧
      (config.IsPlain root →
        found = all.filter fun p => ¬ p.IsWithin (config.buildDir root)) ∧
      (¬ config.IsPlain root → found = all) ∧
      ((∀ p ∈ found, ¬ p.IsWithin (config.buildDir root)) ↔
        config.IsPlain root ∨ ∀ p ∈ all, ¬ p.IsWithin (config.buildDir root)) := by
  obtain ⟨all, hall⟩ := exists_sources_withDir h ⟨".."⟩
  have hmem {p : Path} := mem_sources_iff_above htree h hall (p := p)
  have hsorted := sorted_of_sources hall
  have hnodup := (nodup_of_sources htree hall).of_map
  have hplain (hp : config.IsPlain root) :
      found = all.filter fun p => ¬ p.IsWithin (config.buildDir root) := by
    refine sources_eq_of_mem_iff htree h (hsorted.filter _) (hnodup.filter _) fun p => ?_
    rw [hmem, List.mem_filter, decide_eq_true_eq]
    simp only [hp, true_and]
  have hother (hp : ¬ config.IsPlain root) : found = all := by
    refine sources_eq_of_mem_iff htree h hsorted hnodup fun p => ?_
    rw [hmem]
    simp only [hp, false_and, not_false_eq_true, and_true]
  refine ⟨all, hall, hplain, hother, ?_⟩
  constructor
  · intro hnone
    by_cases hp : config.IsPlain root
    · exact .inl hp
    · rw [hother hp] at hnone
      exact .inr hnone
  · rintro (hp | hnone) p hfound hwithin
    · exact (hmem.mp hfound).2 ⟨hp, hwithin⟩
    · exact hnone p (hmem.mp hfound).1 hwithin

/-- Files with two that could be sources below `/p`, one of them in the directory `build`. -/
def staleFiles : FileSystem where
  tree := .folder "p"
    (.folder "build" (.file "stale.s" [] .empty)
      (.folder "src" (.file "main.s" [] .empty) .empty)) .empty
  here := []

theorem isTree_staleFiles : staleFiles.tree.IsTree := by
  simp [staleFiles, Directory.IsTree, Step.Spelled, Directory.names]

theorem sources_staleFiles : sources staleFiles ⟨"/p"⟩ .default = .ok [⟨"/p/src/main.s"⟩] := by
  refine sources_eq_ok_iff.mpr ⟨["p"], _, _, [], rfl, rfl, patterns_default, rfl, ?_⟩
  rw [List.mergeSort_of_pairwise]
  · decide +kernel
  · decide +kernel

/-- The directory `build` is written plainly, so nothing in it is a source. -/
theorem results_left_out_iff_plain_build :
    staleFiles.tree.IsTree ∧
    sources staleFiles ⟨"/p"⟩ .default = .ok [⟨"/p/src/main.s"⟩] ∧
    Config.default.IsPlain ⟨"/p"⟩ ∧
    ∀ p ∈ [(⟨"/p/src/main.s"⟩ : Path)], ¬ p.IsWithin (Config.default.buildDir ⟨"/p"⟩) := by
  have hplain : Config.default.IsPlain ⟨"/p"⟩ := ⟨["build"], by decide, by decide +kernel⟩
  obtain ⟨all, -, -, -, hnone⟩ := results_left_out_iff_plain isTree_staleFiles sources_staleFiles
  exact ⟨isTree_staleFiles, sources_staleFiles, hplain, hnone.mpr (.inl hplain)⟩

/-- **Sources are found in the directory for results** where it is spelled in another way, here
with a step back: the normal form of the directory is that of `build` below the root. -/
theorem respelled_results_found :
    staleFiles.tree.IsTree ∧
    ((Config.default.withDir ⟨"src/../build"⟩).buildDir ⟨"/p"⟩).normalize =
      Path.join (Path.normalize ⟨"/p"⟩) ⟨"build"⟩ ∧
    sources staleFiles ⟨"/p"⟩ (Config.default.withDir ⟨"src/../build"⟩) =
      .ok [⟨"/p/build/stale.s"⟩, ⟨"/p/src/main.s"⟩] ∧
    Path.IsWithin ⟨"/p/build/stale.s"⟩
      ((Config.default.withDir ⟨"src/../build"⟩).buildDir ⟨"/p"⟩) := by
  refine ⟨isTree_staleFiles, by decide +kernel, ?_, by decide +kernel⟩
  refine sources_eq_ok_iff.mpr ⟨["p"], _, _, [], rfl, rfl, patterns_default, rfl, ?_⟩
  rw [List.mergeSort_of_pairwise]
  · decide +kernel
  · decide +kernel

end Discovery

end BuildReport
