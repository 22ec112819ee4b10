import BuildReport.Proofs.Sources
import Mathlib.Data.Set.Finite.Basic
import Mathlib.Data.Set.Finite.Range

/-!
# What a path does

A path leads from one directory to another. It is read piece by piece: a separator in front resets
to the root, an idle piece stays, a step back drops the last name, and any other piece is a name
that is gone into. The shortest form of a path says just this. Two paths have the same shortest form
if they lead to the same place from wherever they are read, and only then. So files can be told
apart by the shortest forms of their paths, without looking at the disk.

- `Path.goFrom`: where a path leads, read off its text.
- `Path.Alike`: two paths lead to the same place from every directory.
- `Trail.goFrom_normalize`: folding a trail does not change where it leads.
- `Trail.eq_of_goFrom`: normal trails that lead to the same places are the same.
- `goFrom_join`: a path that is read from a directory goes on from where the directory is.
- `normalize_tells_apart`: what the shortest form of a path says, and what it is good for.
-/

namespace BuildReport

/-! ## Where paths lead -/

/-- The names lead from the root to a directory that there can be. -/
def IsPlace (place : List String) : Prop :=
  ∀ n ∈ place, (Step.name n).Spelled

namespace Path

/-- Where a piece of a path leads. The directory that it is read from is given by the names on the
way to it. -/
def goPiece (place : List String) (piece : List Char) : List String :=
  if piece = [] ∨ piece = ['.'] then place
  else if piece = ['.', '.'] then place.dropLast
  else place ++ [String.ofList piece]

/-- Where a path leads from a directory. -/
def goFrom (p : Path) (place : List String) : List String :=
  (pieces p.text.toList).foldl goPiece (if p.isAbsolute then [] else place)

/-- The two paths lead to the same place, wherever they are read from. -/
def Alike (p q : Path) : Prop :=
  ∀ place, IsPlace place → p.goFrom place = q.goFrom place

end Path

/-- Where a step leads. There is nothing above the root to go back to. -/
def Step.goFrom (place : List String) : Step → List String
  | .root => []
  | .here => place
  | .up => place.dropLast
  | .name n => place ++ [n]

namespace Trail

/-- Where a trail leads. -/
def goFrom (t : Trail) (place : List String) : List String :=
  t.foldl Step.goFrom place

@[simp] theorem goFrom_nil (place : List String) : goFrom [] place = place := rfl

@[simp] theorem goFrom_cons (s : Step) (t : Trail) (place : List String) :
    goFrom (s :: t) place = t.goFrom (s.goFrom place) := rfl

@[simp] theorem goFrom_append (s t : Trail) (place : List String) :
    goFrom (s ++ t) place = t.goFrom (s.goFrom place) :=
  List.foldl_append

end Trail

namespace Path

theorem goPiece_eq (place : List String) (piece : List Char) :
    goPiece place piece = (step? piece).elim place (Step.goFrom place) := by
  unfold goPiece step?
  split
  · rfl
  · split <;> rfl

/-- Pieces that stand for no step lead nowhere else. -/
theorem foldl_goPiece (ps : List (List Char)) (place : List String) :
    ps.foldl goPiece place = Trail.goFrom (ps.filterMap step?) place := by
  induction ps generalizing place with
  | nil => rfl
  | cons piece ps ih =>
    rw [List.foldl_cons, ih, goPiece_eq, List.filterMap_cons]
    cases step? piece <;> rfl

/-- **A path leads where its trail does.** -/
theorem goFrom_eq_trail (p : Path) (place : List String) :
    p.goFrom place = p.trail.goFrom place := by
  rw [goFrom, foldl_goPiece, trail_eq_lead_append, Trail.goFrom_append, lead]
  show Trail.goFrom p.steps _ = _
  split
  · rfl
  · split <;> rfl

end Path

/-! ## Folding -/

namespace Trail

/-- Folding one more step onto a trail is taking it. A step that is undone leads nowhere, and at the
root a step back leads nowhere either. -/
theorem goFrom_reverse_fold (done : Trail) (s : Step) (place : List String) :
    goFrom (fold done s).reverse place = s.goFrom (goFrom done.reverse place) := by
  cases s with
  | root => simp [fold]
  | here => simp [fold, Step.goFrom]
  | name n => simp [fold]
  | up =>
    cases done with
    | nil => rfl
    | cons last done => cases last <;> simp [fold, Step.goFrom]

theorem goFrom_reverse_foldl (t done : Trail) (place : List String) :
    goFrom (t.foldl fold done).reverse place = t.goFrom (goFrom done.reverse place) := by
  induction t generalizing done with
  | nil => rfl
  | cons s t ih => rw [List.foldl_cons, ih, goFrom_reverse_fold, goFrom_cons]

/-- **Folding a trail does not change where it leads.** -/
theorem goFrom_normalize (t : Trail) (place : List String) :
    t.normalize.goFrom place = t.goFrom place :=
  goFrom_reverse_foldl t [] place

theorem goFrom_names (names place : List String) :
    goFrom (names.map .name) place = place ++ names := by
  induction names generalizing place with
  | nil => simp
  | cons n names ih => simp [ih, Step.goFrom]

/-- Steps back drop as many names as there are steps, while there are names. -/
theorem goFrom_back (n : Nat) (place : List String) :
    goFrom (List.replicate n .up) place = place.take (place.length - n) := by
  induction n generalizing place with
  | zero => simp
  | succ n ih =>
    rw [List.replicate_succ, goFrom_cons, ih, Step.goFrom, List.dropLast_eq_take, List.take_take,
      List.length_take]
    congr 1
    omega

end Trail

/-! ## Telling trails apart -/

/-- There is always another name. -/
theorem exists_name_not_mem (names : List String) : ∃ n, (Step.name n).Spelled ∧ n ∉ names := by
  have hinjective : Function.Injective fun k => String.ofList (List.replicate (k + 1) 'x') := by
    intro j k h
    have hlength := congrArg String.length h
    simpa using hlength
  obtain ⟨_, ⟨k, rfl⟩, hnot⟩ :=
    (Set.infinite_range_of_injective hinjective).exists_notMem_finset names.toFinset
  refine ⟨_, ?_, fun h => hnot (List.mem_toFinset.mpr h)⟩
  simp [Step.Spelled, List.replicate_succ]

namespace Trail

variable {names : List String} {n : String}

/-- An absolute trail keeps no name of the directory that it is read from. -/
theorem count_goFrom_root (hn : n ∉ names) (place : List String) :
    (goFrom ([.root] ++ names.map .name) place).count n = 0 := by
  rw [goFrom_append, goFrom_names]
  exact List.count_eq_zero_of_not_mem hn

/-- A relative trail takes a name of the directory away with every step back. -/
theorem count_goFrom_back (hn : n ∉ names) (k depth : Nat) :
    (goFrom (List.replicate k .up ++ names.map .name) (List.replicate depth n)).count n =
      depth - k := by
  rw [goFrom_append, goFrom_back, goFrom_names, List.count_append,
    List.count_eq_zero_of_not_mem hn, List.take_replicate, List.count_replicate_self,
    List.length_replicate]
  omega

/-- **Normal trails that lead to the same places are the same.** They are told apart by a directory
that is deep enough and whose names all are one that neither of them takes. How many of these names
are left shows how a trail starts. -/
theorem eq_of_goFrom {s t : Trail} (hs : IsNormal s) (ht : IsNormal t)
    (h : ∀ place, IsPlace place → s.goFrom place = t.goFrom place) : s = t := by
  obtain ⟨first, names, hfirst, rfl⟩ := hs
  obtain ⟨second, others, hsecond, rfl⟩ := ht
  obtain ⟨n, hspelled, hn⟩ := exists_name_not_mem (names ++ others)
  obtain ⟨hnames, hothers⟩ := not_or.mp (mt List.mem_append.mpr hn)
  have hdeep := h (List.replicate (first.length + second.length + 1) n)
    fun _ hmem => (List.mem_replicate.mp hmem).2 ▸ hspelled
  have hcount := congrArg (List.count n) hdeep
  have hstart : first = second := by
    cases hfirst with
    | root =>
      cases hsecond with
      | root => rfl
      | back k =>
        rw [count_goFrom_root hnames, count_goFrom_back hothers, List.length_replicate] at hcount
        omega
    | back j =>
      cases hsecond with
      | root =>
        rw [count_goFrom_root hothers, count_goFrom_back hnames, List.length_replicate] at hcount
        omega
      | back k =>
        rw [count_goFrom_back hnames, count_goFrom_back hothers, List.length_replicate,
          List.length_replicate] at hcount
        have hjk : j = k := by omega
        rw [hjk]
  rw [hstart, goFrom_append, goFrom_append, goFrom_names, goFrom_names] at hdeep
  rw [hstart, List.append_cancel_left hdeep]

end Trail

/-! ## Paths -/

namespace Path

/-- **The shortest form of a path leads where the path does.** -/
theorem goFrom_normalize (p : Path) (place : List String) :
    p.normalize.goFrom place = p.goFrom place := by
  rw [goFrom_eq_trail, trail_normalize, Trail.goFrom_normalize, goFrom_eq_trail]

/-- Paths have one shortest form if they lead to the same places, and only then. -/
theorem normalize_eq_iff_alike {p q : Path} : p.normalize = q.normalize ↔ Alike p q := by
  constructor
  · intro h place _
    rw [← goFrom_normalize p, h, goFrom_normalize]
  · intro h
    refine congrArg Trail.path ?_
    refine Trail.eq_of_goFrom p.normalize_trail_isNormal q.normalize_trail_isNormal ?_
    intro place hplace
    have hsame := h place hplace
    rwa [goFrom_eq_trail, goFrom_eq_trail, ← Trail.goFrom_normalize p.trail,
      ← Trail.goFrom_normalize q.trail] at hsame

/-- Behind its start a relative path leads where the whole path does. -/
theorem goFrom_steps {p : Path} (hp : p.isAbsolute = false) (place : List String) :
    p.steps.goFrom place = p.goFrom place := by
  rw [goFrom_eq_trail, trail_eq_lead_append, lead, if_neg (by simp [hp])]
  split <;> rfl

/-- **A path that is read from a directory goes on from where the directory is.** -/
theorem goFrom_join (b p : Path) (place : List String) :
    (b.join p).goFrom place = p.goFrom (b.goFrom place) := by
  cases hp : p.isAbsolute with
  | true => rw [join_of_isAbsolute hp, goFrom, goFrom, if_pos hp, if_pos hp]
  | false =>
    by_cases hb : b.text.toList = []
    · have hstay : b.goFrom place = place := by
        rw [goFrom, isAbsolute, hb]
        rfl
      have hempty : b.text = "" := by simpa using hb
      rw [hstay, join, if_neg (by simp [hp]), if_pos (.inl hb), hempty, String.empty_append]
    · rw [goFrom_eq_trail, trail_join hb hp, Trail.goFrom_append, goFrom_steps hp,
        ← goFrom_eq_trail]

theorem identity_eq_iff {b c p q : Path} :
    identity (some b) p = identity (some c) q ↔ (b.join p).normalize = (c.join q).normalize := by
  constructor
  · exact congrArg Trail.path
  · intro h
    rw [identity, identity, ← trail_normalize, ← trail_normalize, h]

/-- **The shortest forms of paths tell apart what they do, and nothing else.** Two paths have one
shortest form if they lead to the same place from every directory, and only then. The shortest form
is its own shortest form. Of a path that is read from a directory, both can be brought into their
shortest form first. So the file that a path names, read from the directory of a tool, is the same
for all spellings of either, and different if they lead to different places. -/
theorem normalize_tells_apart (b c p q : Path) :
    (p.normalize.text = q.normalize.text ↔ Alike p q) ∧
    p.normalize.normalize = p.normalize ∧
    (b.join p).normalize = (b.normalize.join p.normalize).normalize ∧
    (identity (some b) p = identity (some c) q ↔
      ∀ place, IsPlace place → p.goFrom (b.goFrom place) = q.goFrom (c.goFrom place)) := by
  refine ⟨?_, p.normalize_normalize, ?_, ?_⟩
  · rw [← normalize_eq_iff_alike, Path.mk.injEq]
  · refine normalize_eq_iff_alike.mpr fun place _ => ?_
    rw [goFrom_join, goFrom_join, goFrom_normalize, goFrom_normalize]
  · rw [identity_eq_iff, normalize_eq_iff_alike]
    simp only [Alike, goFrom_join]

end Path

end BuildReport
