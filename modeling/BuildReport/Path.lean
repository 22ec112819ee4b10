/-!
# Paths

A path is kept as it was written, because messages and tool arguments repeat it. What it denotes
is its trail: the steps it takes, with repeated separators and idle steps left out. Two paths are
the same when their trails are, and they sort by their trails, step by step.

- `Path.trail`: the steps of a path.
- `Trail.path`: a path that takes the given steps.
- `Trail.normalize`: the trail with every step back folded into the step it undoes.
- `Path.join`: a path read from a directory.
- `Trail.compare`: the order of trails.
-/

namespace BuildReport

/-- A file path, as it was written. -/
structure Path where
  text : String
  deriving DecidableEq, Repr, Inhabited

/-- One step of a path: to the root, staying, to the parent, or into a named entry. -/
inductive Step where
  | root
  | here
  | up
  | name (text : String)
  deriving DecidableEq, Repr

/-- The steps that a path takes, which decide what file it denotes. -/
abbrev Trail := List Step

namespace Path

/-- The pieces between separators; there is always at least one. -/
def pieces : List Char → List (List Char)
  | [] => [[]]
  | c :: rest =>
    if c = '/' then [] :: pieces rest
    else match pieces rest with
      | [] => [[c]]
      | piece :: more => (c :: piece) :: more

/-- The step that a piece stands for, if it is neither empty nor idle. -/
def step? (piece : List Char) : Option Step :=
  if piece = [] ∨ piece = ['.'] then none
  else if piece = ['.', '.'] then some .up
  else some (.name (String.ofList piece))

/-- The path starts at the root. -/
def isAbsolute (p : Path) : Bool :=
  p.text.toList.head? == some '/'

/-- The steps of a path. Only a path that begins with `.` keeps an idle step, its first. -/
def trail (p : Path) : Trail :=
  let parts := pieces p.text.toList
  let steps := parts.filterMap step?
  if p.isAbsolute then .root :: steps
  else if parts.head? = some ['.'] then .here :: steps
  else steps

/-- The path `p` read from the directory `base`: an absolute path stands for itself. -/
def join (base p : Path) : Path :=
  if p.isAbsolute then p
  else if base.text.toList = [] ∨ base.text.toList.getLast? = some '/' then ⟨base.text ++ p.text⟩
  else ⟨base.text ++ "/" ++ p.text⟩

/-- The last step, if it is a name. -/
def fileName? (p : Path) : Option String :=
  match p.trail.getLast? with
  | some (.name n) => some n
  | _ => none

theorem join_of_isAbsolute {base p : Path} (h : p.isAbsolute = true) : base.join p = p := by
  simp [join, h]

end Path

namespace Step

/-- The text of a step. -/
def text : Step → String
  | .root => "/"
  | .here => "."
  | .up => ".."
  | .name n => n

/-- Steps of different kinds sort in the order root, staying, parent, name. -/
def rank : Step → Nat
  | .root => 0
  | .here => 1
  | .up => 2
  | .name _ => 3

/-- The order of steps; names sort by their characters' code points. -/
def compare : Step → Step → Ordering
  | .name a, .name b => Ord.compare a b
  | a, b => Ord.compare a.rank b.rank

end Step

namespace Trail

/-- The text of a trail that is not at its start: its steps with a separator between two. -/
def textOf : Trail → String
  | [] => ""
  | [s] => s.text
  | s :: t :: rest => s.text ++ "/" ++ textOf (t :: rest)

/-- A path that takes the steps of the trail. -/
def path : Trail → Path
  | .root :: rest => ⟨"/" ++ textOf rest⟩
  | steps => ⟨textOf steps⟩

/-- One step taken onto a folded trail, whose newest step comes first. A step back undoes a name,
is lost at the root, and is kept where there is nothing to undo. -/
def fold (done : Trail) (s : Step) : Trail :=
  match s, done with
  | .here, _ => done
  | .up, .name _ :: rest => rest
  | .up, .root :: rest => .root :: rest
  | _, _ => s :: done

/-- The trail with every step back folded into the step that it undoes. -/
def normalize (t : Trail) : Trail :=
  (t.foldl fold []).reverse

/-- The order of trails, by their steps from the first on. -/
def compare : Trail → Trail → Ordering
  | [], [] => .eq
  | [], _ :: _ => .lt
  | _ :: _, [] => .gt
  | a :: s, b :: t => (Step.compare a b).then (compare s t)

/-- The trail `s` comes before or with `t`. -/
def le (s t : Trail) : Bool :=
  compare s t != .gt

end Trail

namespace Path

/-- The path in its shortest form, without looking at any file. -/
def normalize (p : Path) : Path :=
  p.trail.normalize.path

end Path

end BuildReport
