import BuildReport.Discovery
import BuildReport.Proofs.Directories
import BuildReport.Proofs.NormalForm
import BuildReport.Proofs.Order
import Mathlib.Data.List.Nodup

/-!
# The sources that are found

A source is found as a list of names, the way to it from the root, and its path is the path of the
root with these names behind it. The trail of that path takes the steps of the root and then the
names, so no two sources have one trail, and the last name is the file name.

- `Path.trail_join`: the trail of a relative path that is read from a directory.
- `Directory.IsTree`: entries of one directory have different names, and all names can be written.
- `sources_eq_ok_iff`: how the sources come about.
- `sorted_of_sources`, `nodup_of_sources`: they stand in the order of their trails, each once.
- `exists_names_of_sources`: a source stands behind the root with its names.
-/

namespace BuildReport

/-! ## Paths behind a directory -/

namespace Path

theorem pieces_append (s t : List Char) : pieces (s ++ '/' :: t) = pieces s ++ pieces t := by
  induction s with
  | nil =>
    show pieces ('/' :: t) = [] :: pieces t
    rw [pieces, if_pos rfl]
  | cons c s ih =>
    rw [List.cons_append]
    by_cases hc : c = '/'
    · rw [pieces, if_pos hc, pieces, if_pos hc, ih, List.cons_append]
    · obtain ⟨first, more, hs⟩ := List.exists_cons_of_ne_nil (pieces_ne_nil s)
      rw [hs, List.cons_append] at ih
      rw [pieces_cons hc hs, pieces_cons hc ih, List.cons_append]

/-- The steps of a path behind its start. -/
def steps (p : Path) : Trail :=
  (pieces p.text.toList).filterMap step?

/-- The start of a path: the root, an idle step, or neither. -/
def lead (p : Path) : Trail :=
  if p.isAbsolute then [.root]
  else if (pieces p.text.toList).head? = some ['.'] then [.here]
  else []

theorem trail_eq_lead_append (p : Path) : p.trail = p.lead ++ p.steps := by
  simp only [trail, lead, steps]
  split
  · rfl
  · split <;> rfl

/-- More text behind a separator does not change the start and adds its steps. -/
theorem trail_append {b : Path} (hb : b.text.toList ≠ []) (t : String) :
    trail ⟨b.text ++ "/" ++ t⟩ = b.trail ++ steps ⟨t⟩ := by
  have htext : (b.text ++ "/" ++ t).toList = b.text.toList ++ '/' :: t.toList := by simp
  have habsolute : isAbsolute ⟨b.text ++ "/" ++ t⟩ = b.isAbsolute := by
    rw [isAbsolute, isAbsolute, htext, List.head?_append_of_ne_nil _ hb]
  rw [trail_eq_lead_append, trail_eq_lead_append, lead, lead, habsolute, steps, steps, htext,
    pieces_append, List.head?_append_of_ne_nil _ (pieces_ne_nil _), List.filterMap_append,
    List.append_assoc]
  rfl

/-- **A relative path goes on from the directory that it is read from.** -/
theorem trail_join {b p : Path} (hb : b.text.toList ≠ []) (hp : p.isAbsolute = false) :
    (b.join p).trail = b.trail ++ p.steps := by
  rw [join, if_neg (by rw [hp]; decide)]
  by_cases hlast : b.text.toList.getLast? = some '/'
  · -- the separator is there already, and what is before it may be the root
    rw [if_pos (.inr hlast)]
    obtain ⟨before, hbefore⟩ := List.getLast?_eq_some_iff.mp hlast
    have htext : (b.text ++ p.text).toList = before ++ '/' :: p.text.toList := by
      simp [hbefore]
    have habsolute : isAbsolute ⟨b.text ++ p.text⟩ = b.isAbsolute := by
      rw [isAbsolute, isAbsolute, String.toList_append, List.head?_append_of_ne_nil _ hb]
    have hpieces : pieces b.text.toList = pieces before ++ [[]] := by
      rw [hbefore, pieces_append]
      rfl
    rw [trail_eq_lead_append, trail_eq_lead_append, lead, lead, habsolute, steps, steps, htext,
      pieces_append, hpieces, List.head?_append_of_ne_nil _ (pieces_ne_nil _),
      List.head?_append_of_ne_nil _ (pieces_ne_nil _), List.filterMap_append,
      List.filterMap_append, List.append_assoc, List.append_assoc]
    rfl
  · rw [if_neg (by simp [hb, hlast])]
    exact trail_append hb p.text

/-- A path that is read from a directory starts where the directory does, unless it is absolute. -/
theorem isAbsolute_join {b p : Path} (hb : b.text.toList ≠ []) (hp : p.isAbsolute = false) :
    (b.join p).isAbsolute = b.isAbsolute := by
  rw [join, if_neg (by rw [hp]; decide)]
  split
  · rw [isAbsolute, isAbsolute, String.toList_append, List.head?_append_of_ne_nil _ hb]
  · rw [isAbsolute, isAbsolute, String.append_assoc, String.toList_append,
      List.head?_append_of_ne_nil _ hb]

theorem join_ne_nil {b : Path} (hb : b.text.toList ≠ []) (p : Path) :
    (b.join p).text.toList ≠ [] := by
  unfold join
  split
  · next hp =>
    intro hnil
    rw [isAbsolute, hnil] at hp
    cases hp
  · split <;> simp [hb]

end Path

/-! ## Trees of entries -/

namespace Directory

/-- The directory is what a disk can hold: its entries have different names, which can be written
down and read back, and so it is with the directories in it. -/
def IsTree : Directory → Prop
  | .empty => True
  | .file n _ rest => (Step.name n).Spelled ∧ n ∉ rest.names ∧ rest.IsTree
  | .folder n inside rest =>
    (Step.name n).Spelled ∧ n ∉ rest.names ∧ inside.IsTree ∧ rest.IsTree

theorem IsTree.of_find? {d inside : Directory} {name : String} (h : d.IsTree)
    (hfind : d.find? name = some (.folder inside)) : inside.IsTree := by
  induction d with
  | empty => cases hfind
  | file n bytes rest ih =>
    rw [find?] at hfind
    split at hfind
    · cases hfind
    · exact ih h.2.2 hfind
  | folder n next rest _ ih =>
    rw [find?] at hfind
    split at hfind
    · cases hfind
      exact h.2.2.1
    · exact ih h.2.2.2 hfind

theorem IsTree.of_at? {d inside : Directory} {place : List String} (h : d.IsTree)
    (hat : d.at? place = some (.folder inside)) : inside.IsTree := by
  induction place generalizing d with
  | nil =>
    rw [at?_nil] at hat
    cases hat
    exact h
  | cons name place ih =>
    cases hfind : d.find? name with
    | none =>
      rw [at?_cons_none hfind] at hat
      cases hat
    | some e =>
      cases e with
      | folder next =>
        rw [at?_cons_folder hfind] at hat
        exact ih (h.of_find? hfind) hat
      | file bytes =>
        rw [at?_cons_file hfind] at hat
        split at hat <;> cases hat

end Directory

/-! ## The walk -/

namespace Discovery

variable {w : Walk} {layers : List Layer} {above names : List String} {d : Directory}

/-- What the walk finds lies below the directory, under one of its names. -/
theorem exists_of_mem_walk (h : names ∈ walk w layers above d) :
    ∃ n more, names = above ++ n :: more ∧ n ∈ d.names := by
  induction d generalizing layers above with
  | empty => cases h
  | file n bytes rest ih =>
    rw [walk, List.mem_append] at h
    rcases h with h | h
    · split at h
      · exact ⟨n, [], List.mem_singleton.mp h, List.mem_cons_self⟩
      · cases h
    · obtain ⟨m, more, hnames, hm⟩ := ih h
      exact ⟨m, more, hnames, List.mem_cons_of_mem _ hm⟩
  | folder n inside rest ihInside ihRest =>
    rw [walk, List.mem_append] at h
    rcases h with h | h
    · split at h
      · obtain ⟨m, more, hnames, -⟩ := ihInside h
        exact ⟨n, m :: more, by rw [hnames, List.append_assoc]; rfl, List.mem_cons_self⟩
      · cases h
    · obtain ⟨m, more, hnames, hm⟩ := ihRest h
      exact ⟨m, more, hnames, List.mem_cons_of_mem _ hm⟩

/-- All names on the way can be written down. -/
theorem spelled_of_mem_walk (hd : d.IsTree) (habove : ∀ n ∈ above, (Step.name n).Spelled)
    (h : names ∈ walk w layers above d) : ∀ n ∈ names, (Step.name n).Spelled := by
  induction d generalizing layers above with
  | empty => cases h
  | file n bytes rest ih =>
    rw [walk, List.mem_append] at h
    rcases h with h | h
    · split at h
      · rw [List.mem_singleton.mp h]
        exact List.forall_mem_append.mpr ⟨habove, List.forall_mem_singleton.mpr hd.1⟩
      · cases h
    · exact ih hd.2.2 habove h
  | folder n inside rest ihInside ihRest =>
    rw [walk, List.mem_append] at h
    rcases h with h | h
    · split at h
      · refine ihInside hd.2.2.1 ?_ h
        exact List.forall_mem_append.mpr ⟨habove, List.forall_mem_singleton.mpr hd.1⟩
      · cases h
    · exact ihRest hd.2.2.2 habove h

/-- What is found under one name and what is found under the names behind it are not the same. -/
theorem ne_of_names {n m : String} {rest : Directory} (hn : n ∉ rest.names) (hm : m ∈ rest.names)
    (more more' : List String) : above ++ n :: more ≠ above ++ m :: more' := by
  intro heq
  have hhead := (List.cons.inj (List.append_cancel_left heq)).1
  exact hn (hhead ▸ hm)

/-- The walk finds nothing twice. -/
theorem nodup_walk (hd : d.IsTree) : (walk w layers above d).Nodup := by
  induction d generalizing layers above with
  | empty => exact List.nodup_nil
  | file n bytes rest ih =>
    rw [walk, List.nodup_append]
    refine ⟨?_, ih hd.2.2, ?_⟩
    · split
      · exact List.nodup_singleton _
      · exact List.nodup_nil
    · intro a ha b hb
      split at ha
      · obtain ⟨m, more, rfl, hm⟩ := exists_of_mem_walk hb
        rw [List.mem_singleton.mp ha]
        exact ne_of_names hd.2.1 hm [] more
      · cases ha
  | folder n inside rest ihInside ihRest =>
    rw [walk, List.nodup_append]
    refine ⟨?_, ihRest hd.2.2.2, ?_⟩
    · split
      · exact ihInside hd.2.2.1
      · exact List.nodup_nil
    · intro a ha b hb
      split at ha
      · obtain ⟨m, more, rfl, -⟩ := exists_of_mem_walk ha
        obtain ⟨m', more', rfl, hm'⟩ := exists_of_mem_walk hb
        rw [List.append_assoc]
        exact ne_of_names hd.2.1 hm' (m :: more) more'
      · cases ha

/-- What is found has a name. -/
theorem ne_nil_of_mem_walk (h : names ∈ walk w layers above d) : names ≠ [] := by
  obtain ⟨n, more, rfl, -⟩ := exists_of_mem_walk h
  simp

/-! ## Paths of sources -/

theorem joined_eq_textOf (names : List String) : joined names = Trail.textOf (names.map .name) := by
  unfold joined
  induction names with
  | nil => exact String.intercalate_nil
  | cons n names ih =>
    cases names with
    | nil => exact String.intercalate_singleton
    | cons m names =>
      rw [String.intercalate_cons_cons, ih]
      rfl

/-- **The trail of a source** goes from the root through its names. -/
theorem trail_path (hroot : w.root.text.toList ≠ [])
    (h : ∀ n ∈ names, (Step.name n).Spelled) :
    (w.path names).trail = w.root.trail ++ names.map .name := by
  have hspelled : ∀ s ∈ names.map Step.name, s.Spelled := by
    intro s hs
    obtain ⟨n, hn, rfl⟩ := List.mem_map.mp hs
    exact h n hn
  rw [Walk.path, joined_eq_textOf, Path.trail_join hroot (Path.isAbsolute_textOf hspelled)]
  exact congrArg (w.root.trail ++ ·) (Path.filterMap_step?_textOf hspelled)

theorem fileName?_path (hroot : w.root.text.toList ≠ []) {above : List String} {n : String}
    (h : ∀ m ∈ above ++ [n], (Step.name m).Spelled) :
    (w.path (above ++ [n])).fileName? = some n := by
  rw [Path.fileName?, trail_path hroot h, List.map_append, ← List.append_assoc]
  simp

/-! ## The list of sources -/

variable {fs : FileSystem} {root : Path} {config : Config} {ignores : Ignore.UserFile}
  {found : List Path}

/-- How the sources come about: the root is a directory, all patterns can be read, and what the
walk finds is chosen by the patterns and sorted. -/
theorem sources_eq_ok_iff : sources fs root config ignores = .ok found ↔
    ∃ place d includes excludes, fs.locate root = .ok place ∧
      fs.tree.at? place = some (.folder d) ∧
      patterns config.linker.includes = .ok includes ∧
      patterns config.linker.excludes = .ok excludes ∧
      found = (((walk ⟨root, place, (config.buildDir root).trail, ignores⟩
          (layer place d :: layersAbove fs.tree place) [] d).filter fun names =>
            matchesAny includes names && !matchesAny excludes names).map
        (Walk.path ⟨root, place, (config.buildDir root).trail, ignores⟩)).mergeSort pathLe := by
  unfold sources
  cases hlocate : fs.locate root with
  | error fault => simp [throw, throwThe, MonadExceptOf.throw]
  | ok place =>
    cases hat : fs.tree.at? place with
    | none => simp [hat, throw, throwThe, MonadExceptOf.throw]
    | some e =>
      cases e with
      | file bytes => simp [hat, throw, throwThe, MonadExceptOf.throw]
      | folder d =>
        cases hincludes : patterns config.linker.includes with
        | error failure => simp [hat, bind, Except.bind]
        | ok includes =>
          cases hexcludes : patterns config.linker.excludes with
          | error failure => simp [hat, bind, Except.bind]
          | ok excludes => simp [hat, bind, Except.bind, pure, Except.pure, eq_comm]

/-- The pattern for sources that is used when none is given, as it is read. -/
theorem read_default : Glob.read false "**/*.s".toList =
    .ok [.leadingComponents, .star, .literal '.', .literal 's'] := by
  simp [Glob.read, Glob.readFrom, Glob.Reading.twoStars, Glob.Reading.push]
  rfl

theorem patterns_default : patterns Config.default.linker.includes =
    .ok [[.leadingComponents, .star, .literal '.', .literal 's']] := by
  show patterns ["**/*.s"] = _
  rw [patterns, read_default]
  rfl

/-- Sources are found below a directory only. -/
theorem isDirectory_of_sources (h : sources fs root config ignores = .ok found) :
    fs.isDirectory root = true := by
  obtain ⟨place, d, _, _, hlocate, hat, -⟩ := sources_eq_ok_iff.mp h
  exact FileSystem.isDirectory_iff.mpr ⟨place, d, hlocate, hat⟩

/-- **The sources stand in the order of their trails.** -/
theorem sorted_of_sources (h : sources fs root config ignores = .ok found) :
    found.Pairwise fun a b => a.trail.le b.trail = true := by
  obtain ⟨place, d, includes, excludes, -, -, -, -, rfl⟩ := sources_eq_ok_iff.mp h
  have htrans : ∀ a b c : Path, pathLe a b = true → pathLe b c = true → pathLe a c = true :=
    fun _ _ _ => Trail.le_trans
  have htotal : ∀ a b : Path, (pathLe a b || pathLe b a) = true :=
    fun a b => Trail.le_total a.trail b.trail
  exact List.pairwise_mergeSort htrans htotal _

/-- **A source stands behind the root with its names**, the last of which is its file name. -/
theorem exists_names_of_sources (htree : fs.tree.IsTree)
    (h : sources fs root config ignores = .ok found) {p : Path} (hp : p ∈ found) :
    ∃ above n, p.trail = root.trail ++ (above ++ [n]).map .name ∧ p.fileName? = some n := by
  obtain ⟨place, d, includes, excludes, hlocate, hat, -, -, rfl⟩ := sources_eq_ok_iff.mp h
  have hroot : root.text.toList ≠ [] := (FileSystem.locate_eq_ok_iff.mp hlocate).2.1
  obtain ⟨names, hnames, rfl⟩ := List.mem_map.mp (List.mem_mergeSort.mp hp)
  have hwalk := (List.mem_filter.mp hnames).1
  have hspelled := spelled_of_mem_walk (htree.of_at? hat) (by simp) hwalk
  obtain ⟨above, n, rfl⟩ := List.eq_nil_or_concat' names |>.resolve_left (ne_nil_of_mem_walk hwalk)
  exact ⟨above, n, trail_path hroot hspelled, fileName?_path hroot hspelled⟩

/-- **No source is found twice**, not even under two spellings. -/
theorem nodup_of_sources (htree : fs.tree.IsTree) (h : sources fs root config ignores = .ok found) :
    (found.map Path.trail).Nodup := by
  obtain ⟨place, d, includes, excludes, hlocate, hat, -, -, rfl⟩ := sources_eq_ok_iff.mp h
  have hroot : root.text.toList ≠ [] := (FileSystem.locate_eq_ok_iff.mp hlocate).2.1
  have hd := htree.of_at? hat
  refine ((List.mergeSort_perm _ _).map Path.trail).nodup_iff.mpr ?_
  rw [List.map_map]
  refine List.Nodup.map_on ?_ ((nodup_walk hd).filter _)
  -- the names can be told from the trail
  intro names hnames names' hnames' heq
  have hspelled := spelled_of_mem_walk hd (by simp) (List.mem_filter.mp hnames).1
  have hspelled' := spelled_of_mem_walk hd (by simp) (List.mem_filter.mp hnames').1
  rw [Function.comp_apply, Function.comp_apply, trail_path hroot hspelled,
    trail_path hroot hspelled'] at heq
  exact List.map_injective_iff.mpr (fun _ _ h => Step.name.inj h) (List.append_cancel_left heq)

end Discovery

end BuildReport
