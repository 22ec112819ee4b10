import BuildReport.Placement
import Mathlib.Data.List.Basic

/-!
# Normal forms of trails

A trail is folded without looking at the disk: idle steps go, and every step back undoes the name
before it. What is left is a normal trail. It comes from the root and then goes through names
only, or it takes some steps back and then goes through names.

- `Trail.IsNormal`: the shape of a normal trail.
- `Trail.Spelled`: every step can be written down and read back, as the steps of any path can.
- `normalize_isNormal`, `normalize_of_isNormal`: folding reaches a normal trail and stays there.
- `trail_path`: a spelled normal trail is the trail of the path that it spells.
- `normalize_normalize`: the shortest form of a path is its own shortest form.
- `isFile_identity`: the file that a path names is its own normal form.
-/

namespace BuildReport

/-! ## Steps that can be written down -/

/-- The text of a step that stands between two separators: not empty, not idle, no separator. -/
def Step.Spelled : Step → Prop
  | .root => False
  | .here => False
  | .up => True
  | .name n => '/' ∉ n.toList ∧ n.toList ≠ [] ∧ n.toList ≠ ['.'] ∧ n.toList ≠ ['.', '.']

theorem Step.Spelled.no_separator {s : Step} (h : s.Spelled) : '/' ∉ s.text.toList := by
  cases s with
  | root => exact absurd h id
  | here => exact absurd h id
  | up => decide
  | name n => exact h.1

theorem Step.Spelled.text_ne_nil {s : Step} (h : s.Spelled) : s.text.toList ≠ [] := by
  cases s with
  | root => exact absurd h id
  | here => exact absurd h id
  | up => decide
  | name n => exact h.2.1

theorem Step.Spelled.text_ne_dot {s : Step} (h : s.Spelled) : s.text.toList ≠ ['.'] := by
  cases s with
  | root => exact absurd h id
  | here => exact absurd h id
  | up => decide
  | name n => exact h.2.2.1

/-- A spelled step is read back from its text. -/
theorem Path.step?_text {s : Step} (h : s.Spelled) : Path.step? s.text.toList = some s := by
  rw [Path.step?, if_neg (by simp [h.text_ne_nil, h.text_ne_dot])]
  cases s with
  | root => exact absurd h id
  | here => exact absurd h id
  | up => rfl
  | name n =>
    rw [if_neg (show (Step.name n).text.toList ≠ ['.', '.'] from h.2.2.2)]
    exact congrArg (fun t => some (Step.name t)) String.ofList_toList

theorem Path.spelled_of_step? {piece : List Char} {s : Step} (hp : '/' ∉ piece)
    (h : Path.step? piece = some s) : s.Spelled := by
  unfold Path.step? at h
  split at h
  · cases h
  · next hidle =>
    rw [not_or] at hidle
    split at h
    · cases h
      trivial
    · next hup =>
      cases h
      simpa [Step.Spelled] using ⟨hp, hidle.1, hidle.2, hup⟩

/-! ## Pieces between separators -/

namespace Path

theorem pieces_ne_nil (s : List Char) : pieces s ≠ [] := by
  cases s with
  | nil => simp [pieces]
  | cons c rest =>
    rw [pieces]
    split
    · simp
    · split <;> simp

theorem pieces_cons {c : Char} (h : c ≠ '/') {rest piece : List Char} {more : List (List Char)}
    (hr : pieces rest = piece :: more) : pieces (c :: rest) = (c :: piece) :: more := by
  rw [pieces, if_neg h, hr]

theorem no_separator_of_mem_pieces {s piece : List Char} (h : piece ∈ pieces s) : '/' ∉ piece := by
  induction s generalizing piece with
  | nil =>
    rw [pieces, List.mem_singleton] at h
    rw [h]
    exact List.not_mem_nil
  | cons c rest ih =>
    by_cases hc : c = '/'
    · rw [pieces, if_pos hc] at h
      rcases List.mem_cons.mp h with rfl | h
      · exact List.not_mem_nil
      · exact ih h
    · -- the first piece grows by one character, which is no separator
      obtain ⟨first, more, hr⟩ := List.exists_cons_of_ne_nil (pieces_ne_nil rest)
      rw [pieces_cons hc hr] at h
      rw [hr] at ih
      rcases List.mem_cons.mp h with rfl | h
      · intro hmem
        rcases List.mem_cons.mp hmem with hsep | hmem
        · exact hc hsep.symm
        · exact ih List.mem_cons_self hmem
      · exact ih (List.mem_cons_of_mem _ h)

theorem pieces_of_no_separator {s : List Char} (h : '/' ∉ s) : pieces s = [s] := by
  induction s with
  | nil => rfl
  | cons c rest ih =>
    simp only [List.mem_cons, not_or] at h
    exact pieces_cons (Ne.symm h.1) (ih h.2)

theorem pieces_append_separator {piece : List Char} (h : '/' ∉ piece) (rest : List Char) :
    pieces (piece ++ '/' :: rest) = piece :: pieces rest := by
  induction piece with
  | nil => rw [List.nil_append, pieces, if_pos rfl]
  | cons c piece ih =>
    simp only [List.mem_cons, not_or] at h
    exact pieces_cons (Ne.symm h.1) (ih h.2)

/-- The pieces of a text that was put together from steps are the texts of the steps. -/
theorem pieces_textOf {t : Trail} (hne : t ≠ []) (h : ∀ s ∈ t, s.Spelled) :
    pieces (Trail.textOf t).toList = t.map (·.text.toList) := by
  induction t with
  | nil => exact absurd rfl hne
  | cons s rest ih =>
    have hs : '/' ∉ s.text.toList := (h s List.mem_cons_self).no_separator
    cases rest with
    | nil => exact pieces_of_no_separator hs
    | cons s' more =>
      -- the separator between the first two steps ends the first piece
      have hrest := ih (by simp) fun r hr => h r (List.mem_cons_of_mem _ hr)
      have htext : (Trail.textOf (s :: s' :: more)).toList =
          s.text.toList ++ '/' :: (Trail.textOf (s' :: more)).toList := by
        simp [Trail.textOf]
      rw [htext, pieces_append_separator hs, hrest]
      rfl

theorem filterMap_step?_textOf {t : Trail} (h : ∀ s ∈ t, s.Spelled) :
    (pieces (Trail.textOf t).toList).filterMap step? = t := by
  cases t with
  | nil => decide
  | cons s rest =>
    rw [pieces_textOf (by simp) h, List.filterMap_map]
    have hread : ∀ r ∈ s :: rest, (step? ∘ fun r => r.text.toList) r = some r :=
      fun r hr => step?_text (h r hr)
    rw [List.filterMap_congr hread, List.filterMap_some]

/-- What a path has behind its start are spelled steps. -/
theorem spelled_of_mem_filterMap {s : List Char} {r : Step} (h : r ∈ (pieces s).filterMap step?) :
    r.Spelled := by
  obtain ⟨piece, hpiece, hstep⟩ := List.mem_filterMap.mp h
  exact spelled_of_step? (no_separator_of_mem_pieces hpiece) hstep

/-- A path goes on from the root, from an idle step, or from neither, through spelled steps. -/
theorem trail_eq (p : Path) : ∃ first steps : Trail, p.trail = first ++ steps ∧
    (first = [] ∨ first = [.root] ∨ first = [.here]) ∧ ∀ s ∈ steps, s.Spelled := by
  have hsteps : ∀ s ∈ (pieces p.text.toList).filterMap step?, s.Spelled :=
    fun _ => spelled_of_mem_filterMap
  simp only [trail]
  split
  · exact ⟨[.root], _, rfl, .inr (.inl rfl), hsteps⟩
  · split
    · exact ⟨[.here], _, rfl, .inr (.inr rfl), hsteps⟩
    · exact ⟨[], _, rfl, .inl rfl, hsteps⟩

end Path

/-! ## Folding -/

namespace Trail

/-- Where a normal trail begins: at the root, or a number of steps back. -/
inductive IsStart : Trail → Prop
  | root : IsStart [.root]
  | back (n : Nat) : IsStart (List.replicate n .up)

/-- A normal trail goes from its start through names only. -/
def IsNormal (t : Trail) : Prop :=
  ∃ (start : Trail) (names : List String), IsStart start ∧ t = start ++ names.map .name

/-- A folded trail with its newest step first, as it is kept while folding. -/
def IsFolded (done : Trail) : Prop :=
  ∃ (start : Trail) (names : List String), IsStart start ∧ done = names.map .name ++ start

theorem IsStart.reverse_eq {start : Trail} (h : IsStart start) : start.reverse = start := by
  cases h with
  | root => rfl
  | back n => exact List.reverse_replicate

theorem IsFolded.reverse {done : Trail} (h : IsFolded done) : IsNormal done.reverse := by
  obtain ⟨start, names, hstart, rfl⟩ := h
  refine ⟨start, names.reverse, hstart, ?_⟩
  rw [List.reverse_append, hstart.reverse_eq, List.map_reverse]

/-- One more step keeps a folded trail folded; the root can only be the first step. -/
theorem IsFolded.fold {done : Trail} (h : IsFolded done) {s : Step} (hs : s ≠ .root) :
    IsFolded (fold done s) := by
  obtain ⟨start, names, hstart, rfl⟩ := h
  cases s with
  | root => exact absurd rfl hs
  | here => exact ⟨start, names, hstart, by simp [Trail.fold]⟩
  | name n => exact ⟨start, n :: names, hstart, by simp [Trail.fold]⟩
  | up =>
    cases names with
    | cons n names => exact ⟨start, names, hstart, rfl⟩
    | nil =>
      -- no name is left to undo: the root stays where it is, and other trails go further back
      cases hstart with
      | root => exact ⟨_, [], .root, rfl⟩
      | back n =>
        refine ⟨_, [], .back (n + 1), ?_⟩
        cases n <;> rfl

theorem isFolded_fold_nil (s : Step) : IsFolded (fold [] s) := by
  cases s with
  | root => exact ⟨_, [], .root, rfl⟩
  | here => exact ⟨_, [], .back 0, rfl⟩
  | up => exact ⟨_, [], .back 1, rfl⟩
  | name n => exact ⟨_, [n], .back 0, rfl⟩

theorem isFolded_foldl {done t : Trail} (h : IsFolded done) (ht : .root ∉ t) :
    IsFolded (t.foldl fold done) := by
  induction t generalizing done with
  | nil => exact h
  | cons s t ih =>
    simp only [List.mem_cons, not_or] at ht
    exact ih (h.fold (Ne.symm ht.1)) ht.2

/-- **Folding reaches a normal trail**, wherever the root is the first step if it is one. -/
theorem normalize_isNormal {t : Trail} (h : .root ∉ t.tail) : IsNormal t.normalize := by
  refine IsFolded.reverse ?_
  cases t with
  | nil => exact ⟨_, [], .back 0, rfl⟩
  | cons s t =>
    show IsFolded (t.foldl fold (fold [] s))
    exact isFolded_foldl (isFolded_fold_nil s) h

theorem foldl_fold_back (m n : Nat) :
    (List.replicate n Step.up).foldl fold (List.replicate m .up) =
      List.replicate (m + n) .up := by
  induction n generalizing m with
  | zero => rfl
  | succ n ih =>
    have hstep : fold (List.replicate m .up) .up = List.replicate (m + 1) .up := by
      cases m <;> rfl
    rw [List.replicate_succ, List.foldl_cons, hstep, ih]
    congr 1
    omega

theorem foldl_fold_names (names : List String) (done : Trail) :
    (names.map Step.name).foldl fold done = (names.map .name).reverse ++ done := by
  induction names generalizing done with
  | nil => rfl
  | cons n names ih =>
    have hstep : fold done (.name n) = .name n :: done := by
      simp [fold]
    rw [List.map_cons, List.foldl_cons, hstep, ih]
    simp

/-- Names behind a trail stay behind its normal form. -/
theorem normalize_append_names (t : Trail) (names : List String) :
    normalize (t ++ names.map .name) = t.normalize ++ names.map .name := by
  rw [normalize, List.foldl_append, foldl_fold_names, List.reverse_append, List.reverse_reverse]
  rfl

/-- **A normal trail stays as it is.** -/
theorem normalize_of_isNormal {t : Trail} (h : IsNormal t) : t.normalize = t := by
  obtain ⟨start, names, hstart, rfl⟩ := h
  have hfold : start.foldl fold [] = start := by
    cases hstart with
    | root => rfl
    | back n => simpa using foldl_fold_back 0 n
  rw [normalize_append_names, normalize, hfold, hstart.reverse_eq]

/-- Folding keeps or drops steps and makes up none. -/
theorem mem_fold {done : Trail} {s r : Step} (h : r ∈ fold done s) : r ∈ s :: done := by
  unfold fold at h
  split at h <;> simp_all

theorem mem_of_mem_normalize {t : Trail} {r : Step} (h : r ∈ t.normalize) : r ∈ t := by
  -- what has been folded so far comes along, since a step back may still undo it
  have hmem : ∀ (t done : Trail), r ∈ t.foldl fold done → r ∈ t ∨ r ∈ done := by
    intro t
    induction t with
    | nil => exact fun _ h => .inr h
    | cons s t ih =>
      intro done h
      rcases ih _ h with h | h
      · exact .inl (List.mem_cons_of_mem _ h)
      · rcases List.mem_cons.mp (mem_fold h) with rfl | h
        · exact .inl List.mem_cons_self
        · exact .inr h
  rcases hmem t [] (List.mem_reverse.mp h) with h | h
  · exact h
  · exact absurd h List.not_mem_nil

end Trail

/-! ## Normal trails as paths -/

namespace Path

theorem isAbsolute_textOf {t : Trail} (h : ∀ s ∈ t, s.Spelled) :
    isAbsolute ⟨Trail.textOf t⟩ = false := by
  cases t with
  | nil => rfl
  | cons s rest =>
    have hpieces := pieces_textOf (List.cons_ne_nil s rest) h
    cases htext : (Trail.textOf (s :: rest)).toList with
    | nil => simp [isAbsolute, htext]
    | cons c cs =>
      -- a separator in front would make the first piece empty
      have hc : c ≠ '/' := by
        rintro rfl
        rw [htext, pieces, if_pos rfl, List.map_cons] at hpieces
        exact (h s List.mem_cons_self).text_ne_nil (List.cons.inj hpieces).1.symm
      simp [isAbsolute, htext, hc]

theorem head?_pieces_textOf {t : Trail} (h : ∀ s ∈ t, s.Spelled) :
    (pieces (Trail.textOf t).toList).head? ≠ some ['.'] := by
  cases t with
  | nil => decide
  | cons s rest =>
    rw [pieces_textOf (List.cons_ne_nil s rest) h, List.map_cons, List.head?_cons]
    intro hdot
    exact (h s List.mem_cons_self).text_ne_dot (Option.some.inj hdot)

end Path

namespace Trail

/-- The names of the trail can be written down and read back. -/
def NamesSpelled (t : Trail) : Prop :=
  ∀ n, .name n ∈ t → (Step.name n).Spelled

theorem NamesSpelled.map_name {names : List String}
    (h : NamesSpelled (names.map .name)) : ∀ s ∈ names.map Step.name, s.Spelled := by
  intro s hs
  obtain ⟨n, -, rfl⟩ := List.mem_map.mp hs
  exact h n hs

/-- **A spelled normal trail is the trail of the path that it spells.** -/
theorem trail_path {t : Trail} (hn : IsNormal t) (hs : NamesSpelled t) : t.path.trail = t := by
  obtain ⟨start, names, hstart, rfl⟩ := hn
  have hnames : ∀ s ∈ names.map Step.name, s.Spelled :=
    NamesSpelled.map_name fun n hn => hs n (List.mem_append_right _ hn)
  cases hstart with
  | root =>
    -- the separator in front makes the path absolute and leaves an empty piece before it
    have htext : ("/" ++ textOf (names.map .name)).toList =
        [] ++ '/' :: (textOf (names.map .name)).toList := by simp
    simp only [List.singleton_append, path, Path.trail, Path.isAbsolute, htext,
      Path.pieces_append_separator List.not_mem_nil]
    simpa [Path.step?] using Path.filterMap_step?_textOf hnames
  | back k =>
    -- nothing in front is taken for the root or for an idle step, so every piece is read back
    have hsteps : ∀ s ∈ List.replicate k Step.up ++ names.map .name, s.Spelled := by
      intro s hs
      rcases List.mem_append.mp hs with hs | hs
      · rw [(List.mem_replicate.mp hs).2]
        trivial
      · exact hnames s hs
    have hpath : path (List.replicate k Step.up ++ names.map .name) =
        ⟨textOf (List.replicate k Step.up ++ names.map .name)⟩ := by
      cases k <;> cases names <;> rfl
    rw [hpath, Path.trail, Path.isAbsolute_textOf hsteps]
    simp only [Bool.false_eq_true, if_false, if_neg (Path.head?_pieces_textOf hsteps)]
    exact Path.filterMap_step?_textOf hsteps

end Trail

namespace Path

theorem normalize_trail_isNormal (p : Path) : p.trail.normalize.IsNormal := by
  obtain ⟨first, steps, htrail, hfirst, hsteps⟩ := p.trail_eq
  -- the root cannot be written down as a step, so it comes first or not at all
  have hroot : Step.root ∉ steps := fun h => hsteps _ h
  refine Trail.normalize_isNormal ?_
  rw [htrail]
  rcases hfirst with rfl | rfl | rfl
  · exact fun h => hroot (List.mem_of_mem_tail h)
  · exact hroot
  · exact hroot

theorem normalize_trail_namesSpelled (p : Path) : p.trail.normalize.NamesSpelled := by
  intro n hn
  obtain ⟨first, steps, htrail, hfirst, hsteps⟩ := p.trail_eq
  have hmem : Step.name n ∈ first ++ steps := htrail ▸ Trail.mem_of_mem_normalize hn
  rcases List.mem_append.mp hmem with h | h
  · rcases hfirst with rfl | rfl | rfl <;> simp at h
  · exact hsteps _ h

/-- Folding the trail of a path and writing it down loses nothing. -/
theorem trail_normalize (p : Path) : p.normalize.trail = p.trail.normalize :=
  Trail.trail_path p.normalize_trail_isNormal p.normalize_trail_namesSpelled

/-- **The shortest form of a path is its own shortest form.** -/
theorem normalize_normalize (p : Path) : p.normalize.normalize = p.normalize := by
  rw [normalize, trail_normalize, Trail.normalize_of_isNormal p.normalize_trail_isNormal]
  rfl

end Path

/-- A trail that files are told apart by: it is written down as a path in its shortest form. -/
def Trail.IsFile (file : Trail) : Prop :=
  file.path.trail = file ∧ file.path.normalize = file.path

theorem Path.isFile_normalize_trail (p : Path) : p.trail.normalize.IsFile := by
  have htrail : p.trail.normalize.path.trail = p.trail.normalize := p.trail_normalize
  exact ⟨htrail, p.normalize_normalize⟩

/-- **The file that a path names is its own normal form**, read from whatever directory. -/
theorem isFile_identity (base : Option Path) (p : Path) : (identity base p).IsFile := by
  cases base with
  | none => exact p.isFile_normalize_trail
  | some dir => exact (dir.join p).isFile_normalize_trail

end BuildReport
