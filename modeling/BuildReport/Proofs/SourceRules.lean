import BuildReport.Proofs.Sources

/-!
# Which files are sources

The walk goes down from the root and looks at entry after entry. What it finds can be said without
the walk: a file is found if it is looked at and so are all directories on the way to it. The rules
that decide this for an entry are those of the ignore files in all directories above it, up to the
root of the file system, whether or not the walk has been there.

- `Discovery.IsLeftOut`, `Discovery.IsOpen`: the rules for one entry.
- `Discovery.IsSource`: the rules for a source.
- `layersAbove_append`: the walk knows the ignore files of all directories above an entry.
- `append_mem_walk_iff`: what the walk finds.
- `sources_exact`: the sources are the files that satisfy the rules, each once and in order.
-/

namespace BuildReport

namespace Discovery

/-! ## The rules -/

/-- The entry at a place, which the walk comes upon under a path, is left out: the ignore files say
so, of which the user's own is asked last, or none of them says anything and it is hidden. -/
def IsLeftOut (ignores : Ignore.UserFile) (tree : Directory) (place : List String) (path : Path)
    (isDirectory : Bool) : Prop :=
  verdict? ignores (layersAbove tree place) isDirectory place path = some .leaveOut ∨
    verdict? ignores (layersAbove tree place) isDirectory place path = none ∧
      place.getLast?.any isHidden = true

/-- The entry below the root with these names is looked at: it is not left out, it is not the record
of the version control, and not the directory for results. -/
structure IsOpen (ignores : Ignore.UserFile) (tree : Directory) (place : List String) (root : Path)
    (config : Config) (names : List String) (isDirectory : Bool) : Prop where
  not_left_out : ¬ IsLeftOut ignores tree (place ++ names) (root.join ⟨joined names⟩) isDirectory
  not_records : names.getLast? ≠ some ".git"
  not_results : (root.join ⟨joined names⟩).trail ≠ (config.buildDir root).trail

theorem isOpen_iff {ignores : Ignore.UserFile} {tree : Directory} {place : List String}
    {root : Path} {config : Config} {names : List String} {isDirectory : Bool} :
    IsOpen ignores tree place root config names isDirectory ↔
      ¬ IsLeftOut ignores tree (place ++ names) (root.join ⟨joined names⟩) isDirectory ∧
        names.getLast? ≠ some ".git" ∧
        (root.join ⟨joined names⟩).trail ≠ (config.buildDir root).trail :=
  ⟨fun h => ⟨h.not_left_out, h.not_records, h.not_results⟩, fun h => ⟨h.1, h.2.1, h.2.2⟩⟩

instance (ignores : Ignore.UserFile) (tree : Directory) (place : List String) (path : Path)
    (isDirectory : Bool) : Decidable (IsLeftOut ignores tree place path isDirectory) :=
  inferInstanceAs (Decidable (_ ∨ _))

instance (ignores : Ignore.UserFile) (tree : Directory) (place : List String) (root : Path)
    (config : Config) (names : List String) (isDirectory : Bool) :
    Decidable (IsOpen ignores tree place root config names isDirectory) :=
  decidable_of_iff _ isOpen_iff.symm

/-- The directory lies between the root and the entry, both given by their names below the root. -/
structure IsOnTheWay (way names : List String) : Prop where
  below : way ≠ []
  before : way <+: names
  above : way ≠ names

/-- The text is a pattern. -/
def IsPattern (text : String) : Prop :=
  ∃ tokens, Glob.read false text.toList = .ok tokens

/-- The text is a pattern, and it matches the path with these names. -/
def Matches (text : String) (names : List String) : Prop :=
  ∃ tokens, Glob.read false text.toList = .ok tokens ∧
    Glob.isMatch tokens (Glob.bytes (joined names)) = true

/-- The entry below the root with these names is a source: a file that is looked at, in directories
that are, which an include pattern matches and no exclude pattern does. -/
structure IsSource (ignores : Ignore.UserFile) (tree : Directory) (place : List String)
    (root : Path) (config : Config) (names : List String) : Prop where
  file : ∃ bytes, tree.at? (place ++ names) = some (.file bytes)
  looked_at : IsOpen ignores tree place root config names false
  on_the_way : ∀ way, IsOnTheWay way names → IsOpen ignores tree place root config way true
  included : ∃ pattern ∈ config.linker.includes, Matches pattern names
  not_excluded : ∀ pattern ∈ config.linker.excludes, ¬ Matches pattern names

/-! ## Patterns -/

theorem matches_iff {text : String} {tokens : List Glob.Token}
    (h : Glob.read false text.toList = .ok tokens) {names : List String} :
    Matches text names ↔ Glob.isMatch tokens (Glob.bytes (joined names)) = true := by
  constructor
  · rintro ⟨other, hother, hmatch⟩
    obtain rfl := Except.ok.inj (h.symm.trans hother)
    exact hmatch
  · intro hmatch
    exact ⟨tokens, h, hmatch⟩

/-- Patterns can be read, and match what one of them matches. -/
theorem exists_patterns {texts : List String} (h : ∀ text ∈ texts, IsPattern text) :
    ∃ globs, patterns texts = .ok globs ∧
      ∀ names, matchesAny globs names = true ↔ ∃ text ∈ texts, Matches text names := by
  induction texts with
  | nil => exact ⟨[], rfl, by simp [matchesAny]⟩
  | cons text texts ih =>
    obtain ⟨⟨tokens, hread⟩, hrest⟩ := List.forall_mem_cons.mp h
    obtain ⟨globs, hglobs, hmatch⟩ := ih hrest
    refine ⟨tokens :: globs, ?_, fun names => ?_⟩
    · rw [patterns, hread, hglobs]
      rfl
    · rw [List.exists_mem_cons_iff, matches_iff hread, ← hmatch]
      show (Glob.isMatch tokens _ || matchesAny globs names) = true ↔ _
      rw [Bool.or_eq_true]

/-! ## The ignore files that the walk knows -/

section Layers

variable {tree d : Directory} {place : List String}

/-- Below a directory the ignore files are those of the directory and those above it. -/
theorem layersAbove_append (h : tree.at? place = some (.folder d)) (name : String) :
    layersAbove tree (place ++ [name]) = layer place d :: layersAbove tree place := by
  have htake : (place ++ [name]).take place.length = place := by simp
  have hrest : ∀ n ∈ (List.range place.length).reverse,
      (place ++ [name]).take n = place.take n := by
    intro n hn
    have hlt : n < place.length := by simpa using hn
    exact List.take_append_of_le_length (Nat.le_of_lt hlt)
  rw [layersAbove, List.length_append, List.length_singleton, List.range_succ,
    List.reverse_append, List.reverse_singleton, List.singleton_append, List.filterMap_cons, htake,
    h]
  refine congrArg (layer place d :: ·) (List.filterMap_congr fun n hn => ?_)
  rw [hrest n hn]

end Layers

/-! ## What the walk finds -/

section Walk

variable {tree d : Directory} {config : Config} {w : Walk} {layers : List Layer}
  {above more : List String} {n : String}

/-- What is found under a name is not found under the names behind it. -/
theorem append_cons_not_mem_walk (hn : n ∉ d.names) :
    above ++ n :: more ∉ walk w layers above d := by
  intro h
  obtain ⟨m, more', hnames, hm⟩ := exists_of_mem_walk h
  exact ne_of_names hn hm more more' hnames

/-- One step down: a file is found where it is, and all else behind a directory. -/
theorem append_cons_mem_walk_iff (hd : d.IsTree) : above ++ n :: more ∈ walk w layers above d ↔
    (∃ bytes, d.find? n = some (.file bytes) ∧ more = [] ∧
      admits w layers false (above ++ [n]) n = true) ∨
    ∃ inside, d.find? n = some (.folder inside) ∧ admits w layers true (above ++ [n]) n = true ∧
      above ++ n :: more ∈
        walk w (layer (w.place ++ (above ++ [n])) inside :: layers) (above ++ [n]) inside := by
  induction d with
  | empty => simp [walk, Directory.find?]
  | file m bytes rest ih =>
    obtain ⟨-, hm, hrest⟩ := hd
    rw [walk, List.mem_append, Directory.find?]
    by_cases hname : m = n
    · subst hname
      simp [append_cons_not_mem_walk hm, and_comm]
    · rw [if_neg hname, ← ih hrest]
      refine or_iff_right fun h => ?_
      split at h
      · have hcons := List.append_cancel_left (List.mem_singleton.mp h)
        exact hname (List.cons.inj hcons).1.symm
      · cases h
  | folder m inside rest _ ih =>
    obtain ⟨-, hm, -, hrest⟩ := hd
    rw [walk, List.mem_append, Directory.find?]
    by_cases hname : m = n
    · subst hname
      simp [append_cons_not_mem_walk hm]
    · rw [if_neg hname, ← ih hrest]
      refine or_iff_right fun h => ?_
      split at h
      · obtain ⟨m', more', hnames, -⟩ := exists_of_mem_walk h
        rw [List.append_assoc] at hnames
        exact hname (List.cons.inj (List.append_cancel_left hnames)).1.symm
      · cases h

/-- The rules for one entry are those that the walk goes by. -/
theorem admits_iff (hw : w.buildDir = (config.buildDir w.root).trail) {isDirectory : Bool} :
    admits w (layersAbove tree (w.place ++ (above ++ [n]))) isDirectory (above ++ [n]) n = true ↔
      IsOpen w.ignores tree w.place w.root config (above ++ [n]) isDirectory := by
  have hlast : (w.place ++ (above ++ [n])).getLast? = some n := by simp
  have hname : (above ++ [n]).getLast? ≠ some ".git" ↔ n ≠ ".git" := by simp
  rw [isOpen_iff, hname, ← hw, IsLeftOut, hlast, admits, Walk.path]
  cases verdict? w.ignores (layersAbove tree (w.place ++ (above ++ [n]))) isDirectory
      (w.place ++ (above ++ [n])) (w.root.join ⟨joined (above ++ [n])⟩) with
  | none => simp [and_assoc]
  | some verdict => cases verdict <;> simp

theorem isOnTheWay_cons_iff {way : List String} : IsOnTheWay way (n :: more) ↔
    more ≠ [] ∧ ∃ rest, way = n :: rest ∧ (rest = [] ∨ IsOnTheWay rest more) := by
  constructor
  · rintro ⟨hbelow, hbefore, habove⟩
    obtain ⟨m, rest, rfl⟩ := List.exists_cons_of_ne_nil hbelow
    obtain ⟨rfl, hrest⟩ := List.cons_prefix_cons.mp hbefore
    have hne : rest ≠ more := fun heq => habove (heq ▸ rfl)
    refine ⟨?_, rest, rfl, ?_⟩
    · rintro rfl
      exact hne (List.prefix_nil.mp hrest)
    · by_cases hnil : rest = []
      · exact .inl hnil
      · exact .inr ⟨hnil, hrest, hne⟩
  · rintro ⟨hmore, rest, rfl, hnil | hrest⟩
    · subst hnil
      exact ⟨by simp, by simp, by simpa using hmore.symm⟩
    · exact ⟨by simp, List.cons_prefix_cons.mpr ⟨rfl, hrest.before⟩,
        fun heq => hrest.above (List.cons.inj heq).2⟩

/-- **What the walk finds** below a directory: the files that are looked at, in directories that
are. -/
theorem append_mem_walk_iff (hw : w.buildDir = (config.buildDir w.root).trail)
    (names : List String) (hd : d.IsTree)
    (hat : tree.at? (w.place ++ above) = some (.folder d)) : above ++ names ∈
      walk w (layer (w.place ++ above) d :: layersAbove tree (w.place ++ above)) above d ↔
    (∃ bytes, d.at? names = some (.file bytes)) ∧
      IsOpen w.ignores tree w.place w.root config (above ++ names) false ∧
      ∀ way, IsOnTheWay way names → IsOpen w.ignores tree w.place w.root config (above ++ way) true := by
  induction names generalizing above d with
  | nil =>
    rw [Directory.at?_nil]
    constructor
    · intro h
      obtain ⟨m, more, hnames, -⟩ := exists_of_mem_walk h
      cases List.append_cancel_left hnames
    · rintro ⟨⟨bytes, hfile⟩, -⟩
      cases hfile
  | cons n more ih =>
    have hlayers : layer (w.place ++ above) d :: layersAbove tree (w.place ++ above) =
        layersAbove tree (w.place ++ (above ++ [n])) := by
      rw [← List.append_assoc, layersAbove_append hat]
    rw [append_cons_mem_walk_iff hd, hlayers]
    simp only [admits_iff hw]
    cases hfind : d.find? n with
    | none => simp [Directory.at?_cons_none hfind]
    | some e =>
      cases e with
      | file bytes =>
        rw [Directory.at?_cons_file hfind]
        constructor
        · rintro (⟨_, -, rfl, hopen⟩ | ⟨_, h, -⟩)
          · exact ⟨⟨bytes, rfl⟩, hopen, fun way hway => absurd rfl (isOnTheWay_cons_iff.mp hway).1⟩
          · cases h
        · rintro ⟨⟨_, hfile⟩, hopen, -⟩
          split at hfile
          · next hmore =>
            subst hmore
            exact .inl ⟨bytes, rfl, rfl, hopen⟩
          · cases hfile
      | folder inside =>
        have hatInside : tree.at? (w.place ++ (above ++ [n])) = some (.folder inside) := by
          rw [← List.append_assoc, Directory.at?_append hat, Directory.at?_singleton, hfind]
        have hstep := ih (hd.of_find? hfind) hatInside
        rw [← List.append_cons] at hstep
        rw [Directory.at?_cons_folder hfind]
        constructor
        · rintro (⟨_, h, -⟩ | ⟨_, h, hopen, hmem⟩)
          · cases h
          · cases h
            obtain ⟨hfile, hlooked, hways⟩ := hstep.mp hmem
            refine ⟨hfile, hlooked, fun way hway => ?_⟩
            obtain ⟨-, rest, rfl, rfl | hrest⟩ := isOnTheWay_cons_iff.mp hway
            · exact hopen
            · rw [List.append_cons]
              exact hways rest hrest
        · rintro ⟨⟨bytes, hfile⟩, hlooked, hways⟩
          have hmore : more ≠ [] := Directory.ne_nil_of_at?_file hfile
          have hopen := hways [n] (isOnTheWay_cons_iff.mpr ⟨hmore, [], rfl, .inl rfl⟩)
          refine .inr ⟨inside, rfl, hopen, hstep.mpr ⟨⟨bytes, hfile⟩, hlooked, fun rest hrest => ?_⟩⟩
          rw [← List.append_cons]
          exact hways (n :: rest) (isOnTheWay_cons_iff.mpr ⟨hmore, rest, rfl, .inr hrest⟩)

/-- What the walk finds below the root. -/
theorem mem_walk_iff (hw : w.buildDir = (config.buildDir w.root).trail) {names : List String}
    (hd : d.IsTree) (hat : tree.at? w.place = some (.folder d)) :
    names ∈ walk w (layer w.place d :: layersAbove tree w.place) [] d ↔
      (∃ bytes, d.at? names = some (.file bytes)) ∧
        IsOpen w.ignores tree w.place w.root config names false ∧
        ∀ way, IsOnTheWay way names → IsOpen w.ignores tree w.place w.root config way true := by
  have hroot : tree.at? (w.place ++ []) = some (.folder d) := by
    rw [List.append_nil]
    exact hat
  have hwalk := append_mem_walk_iff hw names hd hroot
  rw [List.append_nil, List.nil_append] at hwalk
  exact hwalk

end Walk

/-! ## The sources -/

section Sources

variable {fs : FileSystem} {tree d : Directory} {w : Walk} {names : List String} {root : Path}
  {config : Config} {includes excludes : List (List Glob.Token)}

/-- What the patterns choose from the files that the walk finds are the sources. -/
theorem mem_filter_walk_iff (hw : w.buildDir = (config.buildDir w.root).trail) (hd : d.IsTree)
    (hat : tree.at? w.place = some (.folder d))
    (hincludes : ∀ names, matchesAny includes names = true ↔
      ∃ pattern ∈ config.linker.includes, Matches pattern names)
    (hexcludes : ∀ names, matchesAny excludes names = true ↔
      ∃ pattern ∈ config.linker.excludes, Matches pattern names) :
    names ∈ (walk w (layer w.place d :: layersAbove tree w.place) [] d).filter
        (fun names => matchesAny includes names && !matchesAny excludes names) ↔
      IsSource w.ignores tree w.place w.root config names := by
  have hexcluded : matchesAny excludes names = false ↔
      ∀ pattern ∈ config.linker.excludes, ¬ Matches pattern names := by
    rw [← Bool.not_eq_true, hexcludes]
    simp
  rw [List.mem_filter, mem_walk_iff hw hd hat, Bool.and_eq_true, Bool.not_eq_true', hincludes, hexcluded,
    ← Directory.at?_append hat]
  constructor
  · rintro ⟨⟨hfile, hlooked, hways⟩, hincluded, hnot⟩
    exact ⟨hfile, hlooked, hways, hincluded, hnot⟩
  · intro h
    exact ⟨⟨h.file, h.looked_at, h.on_the_way⟩, h.included, h.not_excluded⟩

/-- **The sources are the files that satisfy the rules**, each once and in the order of their
trails, if the root is a directory and all patterns are patterns. This is so whatever ignore file the
user keeps. -/
theorem sources_exact (ignores : Ignore.UserFile) (htree : fs.tree.IsTree)
    (hroot : fs.isDirectory root = true)
    (hglobs : ∀ pattern ∈ config.linker.includes ++ config.linker.excludes, IsPattern pattern) :
    ∃ place found, fs.locate root = .ok place ∧ sources fs root config ignores = .ok found ∧
      (∀ p, p ∈ found ↔
        ∃ names, p = root.join ⟨joined names⟩ ∧ IsSource ignores fs.tree place root config names) ∧
      found.Pairwise fun a b => Trail.compare a.trail b.trail = .lt := by
  obtain ⟨place, d, hlocate, hat⟩ := FileSystem.isDirectory_iff.mp hroot
  obtain ⟨hincludes, hexcludes⟩ := List.forall_mem_append.mp hglobs
  obtain ⟨includes, hreadIncludes, hincludes⟩ := exists_patterns hincludes
  obtain ⟨excludes, hreadExcludes, hexcludes⟩ := exists_patterns hexcludes
  have hfound : sources fs root config ignores = .ok _ := sources_eq_ok_iff.mpr
    ⟨place, d, includes, excludes, hlocate, hat, hreadIncludes, hreadExcludes, rfl⟩
  refine ⟨place, _, hlocate, hfound, fun p => ?_, ?_⟩
  · rw [List.mem_mergeSort, List.mem_map]
    refine exists_congr fun names => ?_
    rw [mem_filter_walk_iff rfl (htree.of_at? hat) hat hincludes hexcludes, and_comm, eq_comm]
    rfl
  · -- in order, and none twice
    have hsorted := sorted_of_sources hfound
    have hnodup := List.pairwise_map.mp (nodup_of_sources htree hfound)
    exact (hsorted.and hnodup).imp fun h => Trail.compare_eq_lt h.1 h.2

/-- With the settings that count where none are given, the sources are the files with the ending `.s`
that are looked at. -/
theorem isSource_default_iff {ignores : Ignore.UserFile} {place : List String} :
    IsSource ignores tree place root .default names ↔
      (∃ bytes, tree.at? (place ++ names) = some (.file bytes)) ∧
      IsOpen ignores tree place root .default names false ∧
      (∀ way, IsOnTheWay way names → IsOpen ignores tree place root .default way true) ∧
      Glob.isMatch [.leadingComponents, .star, .literal '.', .literal 's']
        (Glob.bytes (joined names)) = true := by
  constructor
  · intro h
    obtain ⟨pattern, hpattern, hmatch⟩ := h.included
    obtain rfl := List.mem_singleton.mp hpattern
    exact ⟨h.file, h.looked_at, h.on_the_way, (matches_iff read_default).mp hmatch⟩
  · rintro ⟨hfile, hlooked, hways, hmatch⟩
    exact ⟨hfile, hlooked, hways, ⟨_, List.mem_singleton_self _, (matches_iff read_default).mpr hmatch⟩,
      by simp [Config.default]⟩

/-- A workspace with hidden files and with files that are made. Its ignore file leaves out what is
made, and keeps one of the hidden files. -/
def sampleFiles : FileSystem where
  tree := .folder "p"
    (.file ".gitignore" (Glob.bytes "gen/\n!.keep.s\n")
      (.file ".keep.s" [] (.file ".other.s" [] (.file ".seen.s" []
        (.folder "gen" (.file "x.s" [] .empty)
          (.folder "src" (.file "main.s" [] (.file "old.s" [] .empty)) .empty))))))
    .empty
  here := []

/-- A user who leaves out what is old and one of the hidden files, and keeps another one. -/
def sampleIgnores : Ignore.UserFile :=
  .fromRoot (Glob.bytes "old.s\n.keep.s\n!.seen.s\n")

/-- Of the hidden files, the one that the workspace keeps is a source, whatever the user's file says
about it, and so is the one that only the user's file is about. What is made and what is old is
none. -/
theorem sources_exact_sample :
    sampleFiles.tree.IsTree ∧ sampleFiles.isDirectory ⟨"/p"⟩ = true ∧
    (∀ pattern ∈ Config.default.linker.includes ++ Config.default.linker.excludes,
      IsPattern pattern) ∧
    ∃ found, sources sampleFiles ⟨"/p"⟩ .default sampleIgnores = .ok found ∧
      ⟨"/p/.keep.s"⟩ ∈ found ∧ ⟨"/p/.seen.s"⟩ ∈ found ∧ ⟨"/p/src/main.s"⟩ ∈ found ∧
      ¬ IsSource sampleIgnores sampleFiles.tree ["p"] ⟨"/p"⟩ .default [".other.s"] ∧
      ¬ IsSource sampleIgnores sampleFiles.tree ["p"] ⟨"/p"⟩ .default ["gen", "x.s"] ∧
      ¬ IsSource sampleIgnores sampleFiles.tree ["p"] ⟨"/p"⟩ .default ["src", "old.s"] := by
  have htree : sampleFiles.tree.IsTree := by
    simp [sampleFiles, Directory.IsTree, Step.Spelled, Directory.names]
  have hroot : sampleFiles.isDirectory ⟨"/p"⟩ = true := by decide +kernel
  have hglobs : ∀ pattern ∈ Config.default.linker.includes ++ Config.default.linker.excludes,
      IsPattern pattern :=
    List.forall_mem_singleton.mpr ⟨_, read_default⟩
  -- nothing lies between the root and an entry of the root
  have hkeep : IsSource sampleIgnores sampleFiles.tree ["p"] ⟨"/p"⟩ .default [".keep.s"] :=
    isSource_default_iff.mpr ⟨⟨[], rfl⟩, by decide +kernel,
      fun way hway => absurd rfl (isOnTheWay_cons_iff.mp hway).1, by decide +kernel⟩
  have hseen : IsSource sampleIgnores sampleFiles.tree ["p"] ⟨"/p"⟩ .default [".seen.s"] :=
    isSource_default_iff.mpr ⟨⟨[], rfl⟩, by decide +kernel,
      fun way hway => absurd rfl (isOnTheWay_cons_iff.mp hway).1, by decide +kernel⟩
  have hmain : IsSource sampleIgnores sampleFiles.tree ["p"] ⟨"/p"⟩ .default ["src", "main.s"] := by
    refine isSource_default_iff.mpr ⟨⟨[], rfl⟩, by decide +kernel, fun way hway => ?_,
      by decide +kernel⟩
    obtain ⟨-, rest, rfl, rfl | hrest⟩ := isOnTheWay_cons_iff.mp hway
    · decide +kernel
    · exact absurd rfl (isOnTheWay_cons_iff.mp hrest).1
  obtain ⟨place, found, hlocate, hfound, hmem, -⟩ :=
    sources_exact sampleIgnores htree hroot hglobs
  obtain rfl : ["p"] = place := Except.ok.inj hlocate
  refine ⟨htree, hroot, hglobs, found, hfound, (hmem _).mpr ⟨_, rfl, hkeep⟩,
    (hmem _).mpr ⟨_, rfl, hseen⟩, (hmem _).mpr ⟨_, rfl, hmain⟩, fun h => ?_, fun h => ?_,
    fun h => ?_⟩
  · exact absurd h.looked_at (by decide +kernel)
  · have hgen : IsOnTheWay ["gen"] ["gen", "x.s"] := ⟨by simp, by simp, by simp⟩
    exact absurd (h.on_the_way _ hgen) (by decide +kernel)
  · exact absurd h.looked_at (by decide +kernel)

end Sources

end Discovery

end BuildReport
