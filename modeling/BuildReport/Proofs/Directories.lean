import BuildReport.FileSystem
import BuildReport.Proofs.NormalForm

/-!
# Making directories

Making a directory adds entries to a tree and takes none away: what was a directory stays one, what
was a file keeps its bytes, and every path still leads where it led. So a directory that has been
made is there from then on, and making it once more changes nothing.

- `Directory.Extends`: one tree has all that another has.
- `extends_addAt`: a new entry takes nothing away.
- `locate_of_extends`, `isDirectory_of_extends`: paths lead where they led.
- `makeDirectories_extends`: making directories takes nothing away.
- `isDirectory_of_makeDirectories`: a directory that was made is there.
- `makeDirectories_of_isDirectory`: one that is there is made without any change.
-/

namespace BuildReport

namespace Directory

/-! ## Places in a tree -/

theorem at?_nil (d : Directory) : d.at? [] = some (.folder d) := by
  cases d <;> rfl

theorem at?_cons_folder {d inside : Directory} {name : String}
    (h : d.find? name = some (.folder inside)) (names : List String) :
    d.at? (name :: names) = inside.at? names := by
  conv => lhs; unfold at?
  simp only [h]

theorem at?_cons_file {d : Directory} {name : String} {bytes : List UInt8}
    (h : d.find? name = some (.file bytes)) (names : List String) :
    d.at? (name :: names) = if names = [] then some (.file bytes) else none := by
  unfold at?
  cases names <;> simp [h]

theorem at?_cons_none {d : Directory} {name : String} (h : d.find? name = none)
    (names : List String) : d.at? (name :: names) = none := by
  unfold at?
  simp only [h]

/-- Below a directory the way goes on from there. -/
theorem at?_append {d inside : Directory} {place : List String}
    (h : d.at? place = some (.folder inside)) (names : List String) :
    d.at? (place ++ names) = inside.at? names := by
  induction place generalizing d with
  | nil =>
    rw [at?_nil] at h
    cases h
    rfl
  | cons name place ih =>
    cases hfind : d.find? name with
    | none =>
      rw [at?_cons_none hfind] at h
      cases h
    | some e =>
      cases e with
      | folder next =>
        rw [at?_cons_folder hfind] at h
        rw [List.cons_append, at?_cons_folder hfind, ih h]
      | file bytes =>
        rw [at?_cons_file hfind] at h
        split at h <;> cases h

theorem at?_singleton (d : Directory) (name : String) : d.at? [name] = d.find? name := by
  cases hfind : d.find? name with
  | none => exact at?_cons_none hfind []
  | some e =>
    cases e with
    | folder inside => rw [at?_cons_folder hfind, at?_nil]
    | file bytes => exact at?_cons_file hfind []

/-- A file has a name. -/
theorem ne_nil_of_at?_file {d : Directory} {place : List String} {bytes : List UInt8}
    (h : d.at? place = some (.file bytes)) : place ≠ [] := by
  rintro rfl
  rw [at?_nil] at h
  cases h

/-- The directory of an entry. -/
theorem at?_of_append {d : Directory} {place : List String} {name : String} {e : Entry}
    (h : d.at? (place ++ [name]) = some e) : ∃ inside, d.at? place = some (.folder inside) := by
  induction place generalizing d with
  | nil => exact ⟨d, at?_nil d⟩
  | cons first place ih =>
    rw [List.cons_append] at h
    cases hfind : d.find? first with
    | none =>
      rw [at?_cons_none hfind] at h
      cases h
    | some e' =>
      cases e' with
      | folder next =>
        rw [at?_cons_folder hfind] at h ⊢
        exact ih h
      | file bytes =>
        rw [at?_cons_file hfind, if_neg (by simp)] at h
        cases h

/-! ## Trees that have all that another has -/

/-- The tree `d'` has all that `d` has: its directories, and its files with their bytes. -/
structure Extends (d d' : Directory) : Prop where
  folder : ∀ place inside, d.at? place = some (.folder inside) →
    ∃ inside', d'.at? place = some (.folder inside')
  file : ∀ place bytes, d.at? place = some (.file bytes) → d'.at? place = some (.file bytes)

theorem Extends.refl (d : Directory) : d.Extends d where
  folder _ inside h := ⟨inside, h⟩
  file _ _ h := h

theorem Extends.trans {d d' d'' : Directory} (h : d.Extends d') (h' : d'.Extends d'') :
    d.Extends d'' where
  folder place inside hd := by
    obtain ⟨inside', hd'⟩ := h.folder place inside hd
    exact h'.folder place inside' hd'
  file place bytes hd := h'.file place bytes (h.file place bytes hd)

theorem Extends.isSome {d d' : Directory} (h : d.Extends d') {place : List String}
    (hd : (d.at? place).isSome) : (d'.at? place).isSome := by
  obtain ⟨e, he⟩ := Option.isSome_iff_exists.mp hd
  cases e with
  | folder inside =>
    obtain ⟨inside', hinside⟩ := h.folder place inside he
    rw [hinside]
    rfl
  | file bytes =>
    rw [h.file place bytes he]
    rfl

/-- Entry by entry: a directory must go on to one that has all that it has. -/
theorem extends_of_find? {d d' : Directory}
    (hfolder : ∀ name inside, d.find? name = some (.folder inside) →
      ∃ inside', d'.find? name = some (.folder inside') ∧ inside.Extends inside')
    (hfile : ∀ name bytes, d.find? name = some (.file bytes) →
      d'.find? name = some (.file bytes)) : d.Extends d' where
  folder place inside h := by
    cases place with
    | nil => exact ⟨d', at?_nil d'⟩
    | cons name names =>
      cases hfind : d.find? name with
      | none =>
        rw [at?_cons_none hfind] at h
        cases h
      | some e =>
        cases e with
        | folder next =>
          obtain ⟨next', hnext, hext⟩ := hfolder name next hfind
          rw [at?_cons_folder hfind] at h
          rw [at?_cons_folder hnext]
          exact hext.folder names inside h
        | file bytes =>
          rw [at?_cons_file hfind] at h
          split at h <;> cases h
  file place bytes h := by
    cases place with
    | nil =>
      rw [at?_nil] at h
      cases h
    | cons name names =>
      cases hfind : d.find? name with
      | none =>
        rw [at?_cons_none hfind] at h
        cases h
      | some e =>
        cases e with
        | folder next =>
          obtain ⟨next', hnext, hext⟩ := hfolder name next hfind
          rw [at?_cons_folder hfind] at h
          rw [at?_cons_folder hnext]
          exact hext.file names bytes h
        | file other =>
          rw [at?_cons_file hfind] at h
          rw [at?_cons_file (hfile name other hfind), h]

/-! ## New entries -/

/-- Changing what is in one directory leaves every other entry alone. -/
theorem find?_inFolder (f : Directory → Directory) (d : Directory) (name other : String) :
    (inFolder f d name).find? other =
      if other = name then
        (d.find? name).map fun
          | .folder inside => .folder (f inside)
          | .file bytes => .file bytes
      else d.find? other := by
  induction d with
  | empty => simp [inFolder, find?]
  | file n bytes rest ih =>
    rw [inFolder, find?, find?, find?, ih]
    by_cases hother : other = name
    · subst hother
      by_cases hn : n = other <;> simp [hn]
    · rw [if_neg hother, if_neg hother]
  | folder n inside rest _ ih =>
    rw [inFolder]
    by_cases hn : n = name
    · subst hn
      by_cases hother : other = n
      · subst hother
        simp [find?]
      · simp [find?, hother, Ne.symm hother]
    · rw [if_neg hn, find?, find?, find?, ih, if_neg hn]
      by_cases hother : other = name
      · subst hother
        simp [hn]
      · simp [hother]

theorem extends_add (d : Directory) (name : String) (e : Entry) : d.Extends (d.add name e) := by
  cases hfind : d.find? name with
  | some taken =>
    have hsame : d.add name e = d := by simp only [add, hfind]
    rw [hsame]
    exact .refl d
  | none =>
    -- the name was free, so no entry of `d` has it
    have hother : ∀ {n : String} {old : Entry}, d.find? n = some old →
        (d.add name e).find? n = some old := by
      intro n old h
      rw [find?_add_other d (by rintro rfl; rw [hfind] at h; cases h), h]
    exact extends_of_find? (fun n inside h => ⟨inside, hother h, .refl inside⟩)
      fun n bytes h => hother h

theorem extends_inFolder {f : Directory → Directory} (hf : ∀ d : Directory, d.Extends (f d))
    (d : Directory) (name : String) : d.Extends (inFolder f d name) := by
  refine extends_of_find? ?_ ?_
  · intro n inside h
    rw [find?_inFolder]
    by_cases hn : n = name
    · subst hn
      exact ⟨f inside, by simp [h], hf inside⟩
    · exact ⟨inside, by rw [if_neg hn, h], .refl inside⟩
  · intro n bytes h
    rw [find?_inFolder]
    by_cases hn : n = name
    · subst hn
      simp [h]
    · rw [if_neg hn, h]

/-- **A new entry takes nothing away**, wherever in the tree it is put. -/
theorem extends_addAt (name : String) (e : Entry) (place : List String) (d : Directory) :
    d.Extends (addAt name e place d) := by
  induction place generalizing d with
  | nil => exact extends_add d name e
  | cons first place ih => exact extends_inFolder ih d first

/-- A new entry is found at its place, if its directory is there and the name is free. -/
theorem at?_addAt {d inside : Directory} {place : List String} {name : String}
    (hplace : d.at? place = some (.folder inside)) (hfree : inside.find? name = none) (e : Entry) :
    (addAt name e place d).at? (place ++ [name]) = some e := by
  induction place generalizing d with
  | nil =>
    rw [at?_nil] at hplace
    cases hplace
    rw [addAt, List.nil_append, at?_singleton, find?_add_self hfree]
  | cons first place ih =>
    cases hfind : d.find? first with
    | none =>
      rw [at?_cons_none hfind] at hplace
      cases hplace
    | some entry =>
      cases entry with
      | file bytes =>
        rw [at?_cons_file hfind] at hplace
        split at hplace <;> cases hplace
      | folder next =>
        rw [at?_cons_folder hfind] at hplace
        have hnext : (addAt name e (first :: place) d).find? first =
            some (.folder (addAt name e place next)) := by
          rw [addAt, find?_inFolder, if_pos rfl, hfind]
          rfl
        rw [List.cons_append, at?_cons_folder hnext, ih hplace]

/-- What leads to an entry leads through directories only. -/
theorem isSome_at?_dropLast {d : Directory} {place : List String} (h : (d.at? place).isSome) :
    (d.at? place.dropLast).isSome := by
  rcases List.eq_nil_or_concat place with rfl | ⟨init, name, rfl⟩
  · exact h
  · obtain ⟨e, he⟩ := Option.isSome_iff_exists.mp h
    rw [List.concat_eq_append] at he
    obtain ⟨inside, hinside⟩ := at?_of_append he
    rw [List.concat_eq_append, List.dropLast_concat, hinside]
    rfl

end Directory

namespace FileSystem

/-! ## Paths in a tree that has grown -/

/-- The file system `fs'` has all that `fs` has, and the program runs in the same place. -/
structure Extends (fs fs' : FileSystem) : Prop where
  tree : fs.tree.Extends fs'.tree
  here : fs'.here = fs.here

theorem Extends.refl (fs : FileSystem) : fs.Extends fs :=
  ⟨.refl fs.tree, rfl⟩

theorem Extends.trans {fs fs' fs'' : FileSystem} (h : fs.Extends fs') (h' : fs'.Extends fs'') :
    fs.Extends fs'' :=
  ⟨h.tree.trans h'.tree, h'.here.trans h.here⟩

theorem Extends.start_eq {fs fs' : FileSystem} (h : fs.Extends fs') (p : Path) :
    fs'.start p = fs.start p := by
  rw [start, start, h.here]

/-- The piece can be the name of an entry: it is neither idle nor a step back, nor too long. -/
def IsEntryName (piece : List Char) : Prop :=
  ¬ (piece = [] ∨ piece = ['.']) ∧ piece ≠ ['.', '.'] ∧
    (String.ofList piece).utf8ByteSize ≤ maxName

/-- How a piece of a path leads on from the directory at a place: it stays there, goes back, or
leads to an entry of the directory. -/
inductive Leads (tree : Directory) (place : List String) : List Char → List String → Prop
  | stay {inside piece} (hplace : tree.at? place = some (.folder inside))
      (hidle : piece = [] ∨ piece = ['.']) : Leads tree place piece place
  | back {inside} (hplace : tree.at? place = some (.folder inside)) :
      Leads tree place ['.', '.'] place.dropLast
  | enter {inside piece e} (hplace : tree.at? place = some (.folder inside))
      (hname : IsEntryName piece) (hfind : inside.find? (String.ofList piece) = some e) :
      Leads tree place piece (place ++ [String.ofList piece])

variable {tree tree' : Directory} {place q : List String} {piece : List Char}

theorem step_eq_ok_iff : step tree place piece = .ok q ↔ Leads tree place piece q := by
  constructor
  · intro h
    unfold step at h
    split at h
    · next inside hplace =>
      split at h
      · next hidle =>
        cases h
        exact .stay hplace hidle
      · next hidle =>
        split at h
        · next hup =>
          cases h
          subst hup
          exact .back hplace
        · next hup =>
          dsimp only at h
          split at h
          · cases h
          · next hlong =>
            split at h
            · next e hfind =>
              cases h
              exact .enter hplace ⟨hidle, hup, Nat.not_lt.mp hlong⟩ hfind
            · cases h
    · cases h
    · cases h
  · intro h
    cases h with
    | stay hplace hidle => simp only [step, hplace, if_pos hidle]
    | back hplace => simp [step, hplace]
    | enter hplace hname hfind =>
      simp only [step, hplace, if_neg hname.1, if_neg hname.2.1,
        if_neg (Nat.not_lt.mpr hname.2.2), hfind]

/-- A step that leads nowhere is for a name that the directory does not have. -/
theorem step_eq_notFound (h : step tree place piece = .error .notFound)
    (hplace : (tree.at? place).isSome) :
    ∃ inside, tree.at? place = some (.folder inside) ∧ IsEntryName piece ∧
      inside.find? (String.ofList piece) = none := by
  unfold step at h
  split at h
  · next inside hat =>
    split at h
    · cases h
    · next hidle =>
      split at h
      · cases h
      · next hup =>
        dsimp only at h
        split at h
        · cases h
        · next hlong =>
          split at h
          · cases h
          · next hfind => exact ⟨inside, hat, ⟨hidle, hup, Nat.not_lt.mp hlong⟩, hfind⟩
  · cases h
  · next hat =>
    rw [hat] at hplace
    cases hplace

/-- A piece leads where it led when the tree has grown. -/
theorem Leads.of_extends (hext : tree.Extends tree') (h : Leads tree place piece q) :
    Leads tree' place piece q := by
  cases h with
  | stay hplace hidle =>
    obtain ⟨_, hplace'⟩ := hext.folder place _ hplace
    exact .stay hplace' hidle
  | back hplace =>
    obtain ⟨_, hplace'⟩ := hext.folder place _ hplace
    exact .back hplace'
  | enter hplace hname hfind =>
    obtain ⟨inside', hplace'⟩ := hext.folder place _ hplace
    have hentry : (tree.at? (place ++ [String.ofList piece])).isSome := by
      rw [Directory.at?_append hplace, Directory.at?_singleton, hfind]
      rfl
    have hentry' := hext.isSome hentry
    rw [Directory.at?_append hplace', Directory.at?_singleton] at hentry'
    obtain ⟨e', hfind'⟩ := Option.isSome_iff_exists.mp hentry'
    exact .enter hplace' hname hfind'

/-- A piece leads to something that is there. -/
theorem Leads.isSome (h : Leads tree place piece q) : (tree.at? q).isSome := by
  cases h with
  | stay hplace _ =>
    rw [hplace]
    rfl
  | back hplace =>
    refine Directory.isSome_at?_dropLast ?_
    rw [hplace]
    rfl
  | enter hplace _ hfind =>
    rw [Directory.at?_append hplace, Directory.at?_singleton, hfind]
    rfl

theorem foldlM_step_of_extends (hext : tree.Extends tree') {pieces : List (List Char)}
    (h : pieces.foldlM (step tree) place = .ok q) : pieces.foldlM (step tree') place = .ok q := by
  induction pieces generalizing place with
  | nil => exact h
  | cons piece pieces ih =>
    rw [List.foldlM_cons] at h ⊢
    cases hstep : step tree place piece with
    | error fault =>
      rw [hstep] at h
      cases h
    | ok next =>
      rw [hstep] at h
      rw [step_eq_ok_iff.mpr ((step_eq_ok_iff.mp hstep).of_extends hext)]
      exact ih h

theorem isSome_of_foldlM_step (hplace : (tree.at? place).isSome) {pieces : List (List Char)}
    (h : pieces.foldlM (step tree) place = .ok q) : (tree.at? q).isSome := by
  induction pieces generalizing place with
  | nil =>
    cases h
    exact hplace
  | cons piece pieces ih =>
    rw [List.foldlM_cons] at h
    cases hstep : step tree place piece with
    | error fault =>
      rw [hstep] at h
      cases h
    | ok next =>
      rw [hstep] at h
      exact ih (step_eq_ok_iff.mp hstep).isSome h

/-- Separators at the end of a path stay in the directory that it leads to. -/
theorem foldlM_step_separators {inside : Directory} (h : tree.at? place = some (.folder inside))
    (n : Nat) : (List.replicate n []).foldlM (step tree) place = .ok place := by
  induction n with
  | zero => rfl
  | succ n ih =>
    rw [List.replicate_succ, List.foldlM_cons, step_eq_ok_iff.mpr (.stay h (.inl rfl))]
    exact ih

/-! ## Paths in a file system -/

variable {fs fs' : FileSystem} {p : Path}

theorem locate_eq_ok_iff : fs.locate p = .ok q ↔
    Char.ofNat 0 ∉ p.text.toList ∧ p.text.toList ≠ [] ∧
      (Path.pieces p.text.toList).foldlM (step fs.tree) (fs.start p) = .ok q := by
  unfold locate
  by_cases hnul : Char.ofNat 0 ∈ p.text.toList
  · simp [hnul]
  · by_cases hempty : p.text.toList = []
    · simp [hempty]
    · simp [hnul, hempty]

theorem isDirectory_iff : fs.isDirectory p = true ↔
    ∃ place inside, fs.locate p = .ok place ∧ fs.tree.at? place = some (.folder inside) := by
  unfold isDirectory entry
  cases hlocate : fs.locate p with
  | error fault => simp [bind, Except.bind]
  | ok place =>
    cases hat : fs.tree.at? place with
    | none => simp [bind, Except.bind, hat, throw, throwThe, MonadExceptOf.throw]
    | some e => cases e <;> simp [bind, Except.bind, hat, pure, Except.pure]

/-- The empty path leads nowhere. -/
theorem ne_nil_of_isDirectory (h : fs.isDirectory p = true) : p.text.toList ≠ [] := by
  obtain ⟨_, _, hlocate, -⟩ := isDirectory_iff.mp h
  exact (locate_eq_ok_iff.mp hlocate).2.1

/-- **A path leads where it led** when the file system has grown. -/
theorem locate_of_extends (hext : fs.Extends fs') (h : fs.locate p = .ok q) :
    fs'.locate p = .ok q := by
  rw [locate_eq_ok_iff] at h ⊢
  rw [hext.start_eq]
  exact ⟨h.1, h.2.1, foldlM_step_of_extends hext.tree h.2.2⟩

/-- **A directory stays one** when the file system has grown. -/
theorem isDirectory_of_extends (hext : fs.Extends fs') (h : fs.isDirectory p = true) :
    fs'.isDirectory p = true := by
  rw [isDirectory_iff] at h ⊢
  obtain ⟨place, inside, hlocate, hat⟩ := h
  obtain ⟨inside', hat'⟩ := hext.tree.folder place inside hat
  exact ⟨place, inside', locate_of_extends hext hlocate, hat'⟩

/-- The place where a path starts is there. -/
def HasStart (fs : FileSystem) (p : Path) : Prop :=
  (fs.tree.at? (fs.start p)).isSome

theorem HasStart.of_extends (hext : fs.Extends fs') (h : fs.HasStart p) : fs'.HasStart p := by
  rw [HasStart, hext.start_eq]
  exact hext.tree.isSome h

/-- What leads to a directory starts at one. -/
theorem hasStart_of_isDirectory (h : fs.isDirectory p = true) : fs.HasStart p := by
  obtain ⟨place, inside, hlocate, -⟩ := isDirectory_iff.mp h
  obtain ⟨-, -, hfold⟩ := locate_eq_ok_iff.mp hlocate
  obtain ⟨piece, pieces, hpieces⟩ := List.exists_cons_of_ne_nil (Path.pieces_ne_nil p.text.toList)
  rw [hpieces, List.foldlM_cons] at hfold
  cases hstep : step fs.tree (fs.start p) piece with
  | error fault =>
    rw [hstep] at hfold
    cases hfold
  | ok next =>
    unfold HasStart
    cases step_eq_ok_iff.mp hstep with
    | stay hplace _ => rw [hplace]; rfl
    | back hplace => rw [hplace]; rfl
    | enter hplace _ _ => rw [hplace]; rfl

/-! ## Making a directory -/

theorem eq_withoutEnd_append (pieces : List (List Char)) :
    ∃ n, pieces = withoutEnd pieces ++ List.replicate n [] := by
  refine ⟨(pieces.reverse.takeWhile (· = [])).length, ?_⟩
  have hend : ∀ piece ∈ pieces.reverse.takeWhile (· = []), piece = [] := by
    intro piece hpiece
    simpa using List.all_eq_true.mp List.all_takeWhile piece hpiece
  have hrun := List.eq_replicate_of_mem hend
  rw [← List.reverse_replicate, ← hrun, withoutEnd, ← List.reverse_append,
    List.takeWhile_append_dropWhile, List.reverse_reverse]

/-- A directory is made where all but the last piece of its path leads, under a name that is free
there. -/
theorem makeDirectory_eq_ok (h : fs.makeDirectory p = .ok fs') :
    ∃ earlier last place, withoutEnd (Path.pieces p.text.toList) = earlier ++ [last] ∧
      Char.ofNat 0 ∉ p.text.toList ∧ p.text.toList ≠ [] ∧
      earlier.foldlM (step fs.tree) (fs.start p) = .ok place ∧
      step fs.tree place last = .error .notFound ∧
      fs' = { fs with tree := fs.tree.addAt (String.ofList last) (.folder .empty) place } := by
  unfold makeDirectory at h
  split at h
  · cases h
  · next hnul =>
    split at h
    · cases h
    · next hempty =>
      split at h
      · cases h
      · next last earlier hrev =>
        cases hfold : earlier.reverse.foldlM (step fs.tree) (fs.start p) with
        | error fault =>
          rw [hfold] at h
          cases h
        | ok place =>
          rw [hfold] at h
          refine ⟨earlier.reverse, last, place, ?_, hnul, hempty, hfold, ?_⟩
          · rw [← List.reverse_reverse (withoutEnd _), hrev, List.reverse_cons]
          · cases hstep : step fs.tree place last with
            | ok next =>
              simp only [bind, Except.bind, hstep] at h
              cases h
            | error fault =>
              simp only [bind, Except.bind, hstep] at h
              cases fault <;> cases h
              exact ⟨rfl, rfl⟩

theorem extends_of_makeDirectory (h : fs.makeDirectory p = .ok fs') : fs.Extends fs' := by
  obtain ⟨_, last, place, -, -, -, -, -, rfl⟩ := makeDirectory_eq_ok h
  exact ⟨Directory.extends_addAt (String.ofList last) (.folder .empty) place fs.tree, rfl⟩

/-- A directory that was made is there. -/
theorem isDirectory_of_makeDirectory (hstart : fs.HasStart p) (h : fs.makeDirectory p = .ok fs') :
    fs'.isDirectory p = true := by
  have hext := extends_of_makeDirectory h
  obtain ⟨earlier, last, place, hpieces, hnul, hempty, hfold, hstep, rfl⟩ := makeDirectory_eq_ok h
  obtain ⟨inside, hplace, hname, hfree⟩ :=
    step_eq_notFound hstep (isSome_of_foldlM_step hstart hfold)
  have hnew := Directory.at?_addAt hplace hfree (.folder .empty)
  obtain ⟨inside', hplace'⟩ := hext.tree.folder place inside hplace
  -- the last piece now leads to the new entry, and separators behind it stay there
  have hlast : step (fs.tree.addAt (String.ofList last) (.folder .empty) place) place last =
      .ok (place ++ [String.ofList last]) := by
    have hfind := hnew
    rw [Directory.at?_append hplace', Directory.at?_singleton] at hfind
    exact step_eq_ok_iff.mpr (.enter hplace' hname hfind)
  obtain ⟨n, hall⟩ := eq_withoutEnd_append (Path.pieces p.text.toList)
  refine isDirectory_iff.mpr ⟨place ++ [String.ofList last], .empty, ?_, hnew⟩
  refine locate_eq_ok_iff.mpr ⟨hnul, hempty, ?_⟩
  rw [hall, hpieces, List.foldlM_append, List.foldlM_append, hext.start_eq,
    foldlM_step_of_extends hext.tree hfold]
  show (do
    let q ← [last].foldlM (step _) place
    (List.replicate n []).foldlM (step _) q) = _
  rw [List.foldlM_cons, hlast]
  exact foldlM_step_separators hnew n

/-- A directory that is there cannot be made. -/
theorem makeDirectory_of_isDirectory (h : fs.isDirectory p = true) :
    fs.makeDirectory p = .error .alreadyExists := by
  obtain ⟨place, inside, hlocate, -⟩ := isDirectory_iff.mp h
  obtain ⟨hnul, hempty, hfold⟩ := locate_eq_ok_iff.mp hlocate
  unfold makeDirectory
  rw [if_neg hnul, if_neg hempty]
  obtain ⟨n, hall⟩ := eq_withoutEnd_append (Path.pieces p.text.toList)
  cases hrev : (withoutEnd (Path.pieces p.text.toList)).reverse with
  | nil => rfl
  | cons last earlier =>
    have hpieces : withoutEnd (Path.pieces p.text.toList) = earlier.reverse ++ [last] := by
      rw [← List.reverse_reverse (withoutEnd _), hrev, List.reverse_cons]
    rw [hall, hpieces, List.foldlM_append, List.foldlM_append] at hfold
    cases hearlier : earlier.reverse.foldlM (step fs.tree) (fs.start p) with
    | error fault =>
      rw [hearlier] at hfold
      cases hfold
    | ok before =>
      cases hlast : step fs.tree before last with
      | error fault =>
        rw [hearlier] at hfold
        simp only [bind, Except.bind, List.foldlM, hlast] at hfold
        cases hfold
      | ok next =>
        simp only [bind, Except.bind, hearlier, hlast]
        rfl

/-! ## Making a directory and what leads to it -/

/-- How a directory comes about: it is made at once, or it was there, or what leads to it is made
first and then one of the two. -/
theorem makeWay_eq_ok {fuel : Nat} (hp : p.text.toList ≠ [])
    (h : fs.makeWay (fuel + 1) p = .ok fs') :
    fs.makeDirectory p = .ok fs' ∨ (fs.isDirectory p = true ∧ fs' = fs) ∨
      ∃ above made, fs.makeWay fuel above = .ok made ∧
        (made.makeDirectory p = .ok fs' ∨ (made.isDirectory p = true ∧ fs' = made)) := by
  unfold makeWay at h
  rw [if_neg hp] at h
  split at h
  · next made hmake =>
    cases h
    exact .inl hmake
  · split at h
    · cases h
    · next above _ =>
      refine .inr (.inr ?_)
      cases hway : fs.makeWay fuel above with
      | error fault =>
        simp only [hway, bind, Except.bind] at h
        cases h
      | ok made =>
        refine ⟨above, made, hway, ?_⟩
        simp only [hway, bind, Except.bind] at h
        split at h
        · next made' hmake =>
          cases h
          exact .inl hmake
        · split at h
          · next hdir =>
            cases h
            exact .inr ⟨hdir, rfl⟩
          · cases h
  · split at h
    · next hdir =>
      cases h
      exact .inr (.inl ⟨hdir, rfl⟩)
    · cases h

theorem makeWay_extends {fuel : Nat} (h : fs.makeWay fuel p = .ok fs') : fs.Extends fs' := by
  induction fuel generalizing fs' p with
  | zero => cases h
  | succ fuel ih =>
    by_cases hp : p.text.toList = []
    · rw [makeWay, if_pos hp] at h
      cases h
      exact .refl fs
    · rcases makeWay_eq_ok hp h with hmake | ⟨-, rfl⟩ | ⟨above, made, hway, hmake | ⟨-, rfl⟩⟩
      · exact extends_of_makeDirectory hmake
      · exact .refl _
      · exact (ih hway).trans (extends_of_makeDirectory hmake)
      · exact ih hway

theorem isDirectory_of_makeWay {fuel : Nat} (hp : p.text.toList ≠ []) (hstart : fs.HasStart p)
    (h : fs.makeWay fuel p = .ok fs') : fs'.isDirectory p = true := by
  cases fuel with
  | zero => cases h
  | succ fuel =>
    rcases makeWay_eq_ok hp h with hmake | ⟨hdir, rfl⟩ | ⟨above, made, hway, hmake | ⟨hdir, rfl⟩⟩
    · exact isDirectory_of_makeDirectory hstart hmake
    · exact hdir
    · exact isDirectory_of_makeDirectory (hstart.of_extends (makeWay_extends hway)) hmake
    · exact hdir

/-- **Making directories takes nothing away.** -/
theorem makeDirectories_extends (h : fs.makeDirectories p = .ok fs') : fs.Extends fs' :=
  makeWay_extends h

/-- **A directory that was made is there.** -/
theorem isDirectory_of_makeDirectories (hp : p.text.toList ≠ []) (hstart : fs.HasStart p)
    (h : fs.makeDirectories p = .ok fs') : fs'.isDirectory p = true :=
  isDirectory_of_makeWay hp hstart h

/-- **A directory that is there is made without any change.** -/
theorem makeDirectories_of_isDirectory (h : fs.isDirectory p = true) :
    fs.makeDirectories p = .ok fs := by
  obtain ⟨place, inside, hlocate, -⟩ := isDirectory_iff.mp h
  rw [makeDirectories, makeWay, if_neg (locate_eq_ok_iff.mp hlocate).2.1,
    makeDirectory_of_isDirectory h]
  exact if_pos h

end FileSystem

end BuildReport
