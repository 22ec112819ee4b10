import BuildReport.Build.Object
import Mathlib.Data.List.TakeWhile
import Mathlib.Logic.ExistsUnique
import Mathlib.Tactic.Push

/-!
# Names of objects

An object is named for its source: the extension of the source's name becomes `.o`, and a name
without an extension gets one. An extension begins at the last dot of a name, unless there is
nothing in front of it, and what is in front of it is the stem. A name that begins with a dot and has
a further one has an extension by this rule. But its object is named as if it had none.

- `NamesObject`: the rule.
- `stem`, `namesObject_iff`: the object that it names, for each name one.
- `IsDotted`: a name that begins with a dot and has a further one.
- `objectStem_of_isDotted`, `objectStem_eq_stem`: what an object keeps of such a name, and of all the
  others.
- `objectName_documented_iff`: which sources have an object that is named by the rule.
- `hidden_keeps_extension`: a source whose object is not.
-/

namespace BuildReport

variable {name object object' before letters : List Char}

/-! ## The last dot -/

theorem beforeLastDot_isPrefix (name : List Char) : beforeLastDot name <+: name := by
  have hsuffix : (name.reverse.dropWhile (· ≠ '.')).drop 1 <:+ name.reverse :=
    (List.drop_suffix 1 _).trans (List.dropWhile_suffix _)
  rw [beforeLastDot, ← List.reverse_suffix, List.reverse_reverse]
  exact hsuffix

theorem exists_last_dot (h : '.' ∈ name) :
    ∃ before letters, name = before ++ '.' :: letters ∧ '.' ∉ letters := by
  obtain ⟨after, before, hsplit, hafter⟩ := List.eq_append_cons_of_mem (List.mem_reverse.mpr h)
  refine ⟨before.reverse, after.reverse, ?_, List.mem_reverse.not.mpr hafter⟩
  rw [← List.reverse_reverse name, hsplit]
  simp

theorem beforeLastDot_append (before : List Char) (h : '.' ∉ letters) :
    beforeLastDot (before ++ '.' :: letters) = before := by
  have hletters : ∀ c ∈ letters.reverse, decide (c ≠ '.') = true := by
    intro c hc
    exact decide_eq_true fun heq => h (heq ▸ List.mem_reverse.mp hc)
  rw [beforeLastDot, List.reverse_append, List.reverse_cons, List.append_assoc,
    List.dropWhile_append_of_pos hletters]
  simp

theorem beforeLastDot_of_not_mem (h : '.' ∉ name) : beforeLastDot name = [] := by
  have hname : ∀ c ∈ name.reverse, decide (c ≠ '.') = true := by
    intro c hc
    exact decide_eq_true fun heq => h (heq ▸ List.mem_reverse.mp hc)
  rw [beforeLastDot, List.dropWhile_eq_nil_iff.mpr hname]
  rfl

/-! ## The rule -/

/-- The object that belongs to the name of a source. -/
inductive NamesObject : List Char → List Char → Prop
  /-- The extension, which has something in front of it, becomes `.o`. -/
  | extension {before letters : List Char} (hbefore : before ≠ []) (hletters : '.' ∉ letters) :
      NamesObject (before ++ '.' :: letters) (before ++ ['.', 'o'])
  /-- A name without a dot, or whose only dot is in front, gets an extension. -/
  | plain {name : List Char}
      (hdots : ∀ before letters, name = before ++ '.' :: letters → before = []) :
      NamesObject name (name ++ ['.', 'o'])

/-- The stem of a name: what is in front of its extension, or all of it if it has none. -/
def stem (name : List Char) : List Char :=
  if beforeLastDot name = [] then name else beforeLastDot name

/-- What a name has behind its stem: its last dot and the text after it, or nothing. -/
def extension (name : List Char) : List Char :=
  name.drop (stem name).length

/-- A name is its stem and its extension. -/
theorem stem_append_extension (name : List Char) : stem name ++ extension name = name := by
  refine List.prefix_iff_eq_append.mp ?_
  unfold stem
  split
  · exact List.prefix_rfl
  · exact beforeLastDot_isPrefix name

theorem stem_append (hbefore : before ≠ []) (hletters : '.' ∉ letters) :
    stem (before ++ '.' :: letters) = before := by
  rw [stem, beforeLastDot_append before hletters, if_neg hbefore]

/-- A name whose dots are all in front has no extension. -/
theorem stem_of_plain (hdots : ∀ before letters, name = before ++ '.' :: letters → before = []) :
    stem name = name := by
  by_cases hdot : '.' ∈ name
  · obtain ⟨before, letters, rfl, hletters⟩ := exists_last_dot hdot
    rw [stem, if_pos]
    rw [beforeLastDot_append before hletters]
    exact hdots before letters rfl
  · rw [stem, if_pos (beforeLastDot_of_not_mem hdot)]

/-- **The rule names one object for each name**, and it has the stem of the name in front of its
`.o`. -/
theorem namesObject_iff : NamesObject name object ↔ object = stem name ++ ['.', 'o'] := by
  constructor
  · intro h
    cases h with
    | extension hbefore hletters => rw [stem_append hbefore hletters]
    | plain hdots => rw [stem_of_plain hdots]
  · rintro rfl
    by_cases hdots : ∀ before letters, name = before ++ '.' :: letters → before = []
    · rw [stem_of_plain hdots]
      exact .plain hdots
    · -- some dot is not in front, so the last one is not
      push Not at hdots
      obtain ⟨before, letters, rfl, hbefore⟩ := hdots
      by_cases hletters : '.' ∈ letters
      · obtain ⟨more, letters, rfl, hlast⟩ := exists_last_dot hletters
        have hmore : before ++ '.' :: more ≠ [] := List.append_ne_nil_of_left_ne_nil hbefore _
        rw [← List.cons_append, ← List.append_assoc, stem_append hmore hlast]
        exact .extension hmore hlast
      · rw [stem_append hbefore hletters]
        exact .extension hbefore hletters

theorem NamesObject.unique (h : NamesObject name object) (h' : NamesObject name object') :
    object = object' := by
  rw [namesObject_iff.mp h, namesObject_iff.mp h']

/-! ## What an object keeps of a name -/

/-- The name begins with a dot and has a further one. -/
def IsDotted (name : List Char) : Prop :=
  ∃ rest, name = '.' :: rest ∧ '.' ∈ rest

theorem isDotted_iff : IsDotted name ↔ name.head? = some '.' ∧ '.' ∈ name.tail := by
  constructor
  · rintro ⟨rest, rfl, hrest⟩
    exact ⟨rfl, hrest⟩
  · rintro ⟨hhead, htail⟩
    cases name with
    | nil => cases hhead
    | cons c rest =>
      obtain rfl : c = '.' := Option.some.inj hhead
      exact ⟨rest, rfl, htail⟩

instance : DecidablePred IsDotted :=
  fun _ => decidable_of_iff _ isDotted_iff.symm

theorem objectStem_cons_dot (rest : List Char) : objectStem ('.' :: rest) = '.' :: rest := by
  simp [objectStem]

theorem objectStem_isPrefix (name : List Char) : objectStem name <+: name := by
  unfold objectStem
  split
  · exact beforeLastDot_isPrefix name
  · exact List.prefix_rfl

/-- A dotted name is kept as one without an extension. -/
theorem objectStem_of_isDotted (h : IsDotted name) : objectStem name = name := by
  obtain ⟨rest, rfl, -⟩ := h
  exact objectStem_cons_dot rest

/-- By the rule it has one. -/
theorem stem_ne_of_isDotted (h : IsDotted name) : stem name ≠ name := by
  obtain ⟨rest, rfl, hrest⟩ := h
  obtain ⟨before, letters, rfl, hletters⟩ := exists_last_dot hrest
  rw [← List.cons_append, stem_append (List.cons_ne_nil '.' before) hletters]
  simp

/-- Of any other name the stem is kept. -/
theorem objectStem_eq_stem (h : ¬ IsDotted name) : objectStem name = stem name := by
  cases name with
  | nil => rfl
  | cons c rest =>
    by_cases hc : c = '.'
    · -- the only dot is in front
      subst hc
      have hrest : '.' ∉ rest := fun hdot => h ⟨rest, rfl, hdot⟩
      rw [objectStem_cons_dot, stem, if_pos]
      exact beforeLastDot_append [] hrest
    · by_cases hrest : '.' ∈ rest
      · obtain ⟨before, letters, rfl, hletters⟩ := exists_last_dot hrest
        rw [← List.cons_append, stem_append (List.cons_ne_nil c before) hletters, objectStem,
          if_pos, beforeLastDot_append (c :: before) hletters]
        simp [hc]
      · have hdot : '.' ∉ c :: rest := List.not_mem_cons_of_ne_of_not_mem (Ne.symm hc) hrest
        rw [objectStem, if_neg (by simp [hdot]), stem, if_pos (beforeLastDot_of_not_mem hdot)]

/-- **Which objects are named by the rule.** The rule names one object for each source that has a
name. It is the object that the source has unless the name is a dotted one, and then the object has
the whole name of the source in front of its `.o`. -/
theorem objectName_documented_iff {source : Path} {name : String}
    (h : source.fileName? = some name) :
    (∃! object, NamesObject name.toList object) ∧
    (NamesObject name.toList (objectName source).toList ↔ ¬ IsDotted name.toList) ∧
    (IsDotted name.toList → objectName source = name ++ ".o") := by
  have hobject : (objectName source).toList = objectStem name.toList ++ ['.', 'o'] := by
    rw [objectName, h, String.toList_ofList]
    rfl
  refine ⟨⟨_, namesObject_iff.mpr rfl, fun _ => namesObject_iff.mp⟩, ⟨fun hrule hdotted => ?_,
    fun hdotted => ?_⟩, fun hdotted => ?_⟩
  · rw [hobject, objectStem_of_isDotted hdotted, namesObject_iff, List.append_cancel_right_eq]
      at hrule
    exact stem_ne_of_isDotted hdotted hrule.symm
  · rw [hobject, objectStem_eq_stem hdotted, namesObject_iff]
  · rw [← String.toList_inj, hobject, objectStem_of_isDotted hdotted, String.toList_append]
    rfl

theorem objectName_documented_iff_main :
    Path.fileName? ⟨"/src/main.s"⟩ = some "main.s" ∧
    (NamesObject "main.s".toList (objectName ⟨"/src/main.s"⟩).toList ↔
      ¬ IsDotted "main.s".toList) := by
  have hname : Path.fileName? ⟨"/src/main.s"⟩ = some "main.s" := by decide +kernel
  exact ⟨hname, (objectName_documented_iff hname).2.1⟩

/-- **A hidden source keeps its extension.** -/
theorem hidden_keeps_extension :
    Path.fileName? ⟨"src/.types.s"⟩ = some ".types.s" ∧
    NamesObject ".types.s".toList ".types.o".toList ∧
    objectName ⟨"src/.types.s"⟩ = ".types.s.o" ∧
    ¬ NamesObject ".types.s".toList ".types.s.o".toList := by
  have hrule : NamesObject (".types".toList ++ '.' :: "s".toList) (".types".toList ++ ['.', 'o']) :=
    .extension (by decide) (by decide)
  refine ⟨by decide +kernel, hrule, by decide +kernel, fun hplain => ?_⟩
  have hsame : ".types.o".toList = ".types.s.o".toList := hrule.unique hplain
  revert hsame
  decide

end BuildReport
