import BuildReport.Proofs.Anchors
import BuildReport.Proofs.Brackets
import BuildReport.Proofs.Reading

/-!
# The line that is taken for the cause

A diagnostic that could not be placed brackets the name of the file that could not be opened, and is
moved to the first line of the document that begins with the directive and this name. The closing
quote is not looked at. So a line that includes a file whose name goes on behind the bracketed one
is taken for the cause as well, if it comes first.

- `Include.Brackets`: a message brackets one name and nothing else; `bracketedName?_of_brackets`.
- `Include.Includes`, `Include.GoesOn`: a line includes the file, or one with a longer name.
- `opens_iff`: the lines that begin with the directive and the name.
- `Diagnostic.ResolvedRightly`: a diagnostic is moved to the line that caused it.
- `resolved_rightly_iff`: when it is; `longer_name_resolved`: a document for which it is not.
-/

namespace BuildReport

open Text

namespace Text

/-! ## Names up to letter case -/

/-- The character with a code has this code, or the code zero if there is none with it. -/
theorem toNat_ofNat (n : Nat) : (Char.ofNat n).toNat = n ∨ (Char.ofNat n).toNat = 0 := by
  by_cases h : n.isValidChar
  · exact .inl (congrArg Char.toNat (dif_pos h))
  · exact .inr (congrArg Char.toNat (dif_neg h))

/-- No character but the quote itself folds to a quote: what folding changes becomes a letter. -/
theorem fold_ne_quote {c : Char} (h : c ≠ '"') : fold c ≠ '"' := by
  have htargets : ∀ run ∈ foldRuns, 0x22 < run.target := by decide +kernel
  unfold fold
  split
  · next run hrun =>
    have htarget := htargets run (List.mem_of_find?_eq_some hrun)
    intro hquote
    have hcode : (Char.ofNat (run.target + (c.toNat - run.first))).toNat = 0x22 :=
      congrArg Char.toNat hquote
    rcases toNat_ofNat (run.target + (c.toNat - run.first)) with heq | hzero
    · omega
    · omega
  · exact h

/-- A name without a quote has none in another case either. -/
theorem quote_not_mem_of_fold {a b : List Char} (ha : '"' ∉ a) (h : b.map fold = a.map fold) :
    '"' ∉ b := by
  intro hb
  have hquote : '"' ∈ a.map fold := by
    rw [← h]
    exact List.mem_map.mpr ⟨'"', hb, by decide +kernel⟩
  obtain ⟨c, hc, hfold⟩ := List.mem_map.mp hquote
  exact fold_ne_quote (fun heq => ha (heq ▸ hc)) hfold

/-! ## Stretches of a text -/

/-- Text without a line feed belongs to the first piece of what follows. -/
theorem splitLines_append_of_no_newline {s : List Char} (h : '\n' ∉ s) (t : List Char) :
    splitLines (s ++ t) = prependToFirst s (splitLines t) := by
  induction s with
  | nil => exact (prependToFirst_nil_splitLines t).symm
  | cons c s ih =>
    simp only [List.mem_cons, not_or] at h
    rw [List.cons_append, splitLines_cons (Ne.symm h.1), ih h.2]
    cases splitLines t <;> rfl

end Text

namespace Include

variable {message name line s : List Char}

/-! ## The bracketed name -/

/-- The message brackets the name, and holds no other bracket. The name could stand between the
quotes of a directive. -/
structure Brackets (message name : List Char) : Prop where
  ne_nil : name ≠ []
  no_quote : '"' ∉ name
  no_newline : '\n' ∉ name
  no_open : '<' ∉ name
  no_close : '>' ∉ name
  only : ∃ before after, message = before ++ '<' :: (name ++ '>' :: after) ∧
    '<' ∉ before ∧ '>' ∉ before ∧ '<' ∉ after ∧ '>' ∉ after

theorem nameInLine?_cons_of_ne {c : Char} (h : c ≠ '<') (s : List Char) :
    nameInLine? (c :: s) = nameInLine? s := by
  rw [nameInLine?]
  cases nameInLine? s with
  | some found => rfl
  | none => exact if_neg h

/-- Text without an opening bracket in front makes no difference, whatever its lines. -/
theorem bracketedName?_append {before : List Char} (h : '<' ∉ before) (t : List Char) :
    bracketedName? (before ++ t) = bracketedName? t := by
  unfold bracketedName?
  induction before with
  | nil => rfl
  | cons c before ih =>
    simp only [List.mem_cons, not_or] at h
    rw [← ih h.2, List.cons_append]
    by_cases hc : c = '\n'
    · rw [hc, splitLines_newline]
      rfl
    · obtain ⟨first, more, hsplit⟩ := List.exists_cons_of_ne_nil (splitLines_ne_nil (before ++ t))
      rw [splitLines_cons hc, hsplit, prependToFirst, List.findSome?_cons, List.findSome?_cons,
        List.singleton_append, nameInLine?_cons_of_ne (Ne.symm h.1)]

/-- **The name that a message brackets is found**, whatever lines the message has. -/
theorem bracketedName?_of_brackets (h : Brackets message name) :
    bracketedName? message = some name := by
  obtain ⟨before, after, rfl, hbefore, -, hopen, hclose⟩ := h.only
  obtain ⟨first, more, hsplit⟩ := List.exists_cons_of_ne_nil (splitLines_ne_nil after)
  have hfirst : ∀ c ∈ first, c ∈ after := fun c hc =>
    mem_of_mem_splitLines (hsplit ▸ List.mem_cons_self) hc
  have hline : '\n' ∉ '<' :: (name ++ ['>']) := by
    simpa using h.no_newline
  -- the line that has the brackets ends in the part of the message behind them
  have hlines : splitLines ('<' :: (name ++ '>' :: after)) =
      ('<' :: (name ++ '>' :: first)) :: more := by
    have hjoined := splitLines_append_of_no_newline hline after
    rw [hsplit] at hjoined
    simpa [prependToFirst] using hjoined
  have hbracketed : IsBracketed ('<' :: (name ++ '>' :: first)) name := by
    refine ⟨[], first, rfl, h.ne_nil, fun hmem => hclose (hfirst _ hmem), fun b n a heq _ => ?_⟩
    cases b with
    | nil => exact Nat.le_refl 0
    | cons c b =>
      have hbehind : '<' ∈ name ++ '>' :: first := (List.cons.inj heq).2 ▸ by simp
      have hnot : '<' ∉ first := fun hmem => hopen (hfirst _ hmem)
      simp [h.no_open, hnot] at hbehind
  rw [bracketedName?_append hbefore, names_iff]
  exact ⟨[], _, more, hlines, hbracketed, by simp⟩

/-! ## Lines that include a file -/

/-- The line is an include directive for the file: what stands between the quotes is the name, up to
letter case. -/
def Includes (name line : List Char) : Prop :=
  ∃ file after, quoted? line = some (file ++ '"' :: after) ∧ '"' ∉ file ∧
    file.map fold = name.map fold

/-- The line is an include directive whose text goes on behind the name, where it should close. -/
def GoesOn (name line : List Char) : Prop :=
  ∃ t rest, quoted? line = some (t ++ rest) ∧ t.map fold = name.map fold ∧ rest.head? ≠ some '"'

theorem startsWithName_iff : startsWithName name s = true ↔
    ∃ t rest, s = t ++ rest ∧ t.map fold = name.map fold := by
  induction name generalizing s with
  | nil => exact iff_of_true (by simp [startsWithName]) ⟨[], s, rfl, rfl⟩
  | cons n name ih =>
    cases s with
    | nil =>
      refine iff_of_false (by simp [startsWithName]) ?_
      rintro ⟨t, rest, hnil, hfold⟩
      obtain ⟨rfl, -⟩ := List.append_eq_nil_iff.mp hnil.symm
      cases hfold
    | cons c s =>
      rw [startsWithName, Bool.and_eq_true, ih, sameLetter, beq_iff_eq]
      constructor
      · rintro ⟨hletter, t, rest, rfl, hfold⟩
        exact ⟨c :: t, rest, rfl, by rw [List.map_cons, List.map_cons, hletter, hfold]⟩
      · rintro ⟨t, rest, heq, hfold⟩
        cases t with
        | nil => cases hfold
        | cons d t =>
          obtain ⟨rfl, rfl⟩ := List.cons.inj heq
          obtain ⟨hletter, hfold⟩ := List.cons.inj hfold
          exact ⟨hletter.symm, t, rest, rfl, hfold⟩

/-- **A line that begins with the directive and the name** includes the file, or goes on. -/
theorem opens_iff (hname : '"' ∉ name) :
    opens name line = true ↔ Includes name line ∨ GoesOn name line := by
  rw [opens, Option.any_eq_true]
  constructor
  · rintro ⟨s, hquoted, hstarts⟩
    obtain ⟨t, rest, rfl, hfold⟩ := startsWithName_iff.mp hstarts
    by_cases hhead : rest.head? = some '"'
    · obtain ⟨after, rfl⟩ := List.head?_eq_some_iff.mp hhead
      exact .inl ⟨t, after, hquoted, quote_not_mem_of_fold hname hfold, hfold⟩
    · exact .inr ⟨t, rest, hquoted, hfold, hhead⟩
  · rintro (⟨file, after, hquoted, -, hfold⟩ | ⟨t, rest, hquoted, hfold, -⟩)
    · exact ⟨_, hquoted, startsWithName_iff.mpr ⟨file, _, rfl, hfold⟩⟩
    · exact ⟨_, hquoted, startsWithName_iff.mpr ⟨t, rest, rfl, hfold⟩⟩

/-- No line does both: behind the name there is the closing quote, or there is not. -/
theorem not_includes_of_goesOn (h : GoesOn name line) : ¬ Includes name line := by
  rintro ⟨file, after, hquoted, -, hfold⟩
  obtain ⟨t, rest, hquoted', hfold', hhead⟩ := h
  have hlength : file.length = t.length := by
    simpa using congrArg List.length (hfold.trans hfold'.symm)
  have heq : file ++ '"' :: after = t ++ rest := Option.some.inj (hquoted.symm.trans hquoted')
  obtain ⟨-, rfl⟩ := List.append_inj heq hlength
  exact hhead rfl

end Include

/-! ## The line that is chosen -/

namespace Document

variable {document : Document} {name : List Char} {k : Nat}

/-- The line with this number, counted from zero, includes the file. -/
def IncludesAt (document : Document) (name : List Char) (k : Nat) : Prop :=
  ∃ line, document.line? k = some line ∧ Include.Includes name line.toList

/-- The line with this number, counted from zero, goes on behind the name. -/
def GoesOnAt (document : Document) (name : List Char) (k : Nat) : Prop :=
  ∃ line, document.line? k = some line ∧ Include.GoesOn name line.toList

theorem not_includesAt_of_goesOnAt (h : document.GoesOnAt name k) :
    ¬ document.IncludesAt name k := by
  obtain ⟨line, hline, hgoes⟩ := h
  rintro ⟨line', hline', hincludes⟩
  obtain rfl : line = line' := Option.some.inj (hline.symm.trans hline')
  exact Include.not_includes_of_goesOn hgoes hincludes

/-- The line with this number, counted from zero, begins with the directive and the name. -/
def OpensAt (document : Document) (name : List Char) (k : Nat) : Prop :=
  ∃ line, document.line? k = some line ∧ Include.opens name line.toList = true

theorem opensAt_iff (hname : '"' ∉ name) :
    document.OpensAt name k ↔ document.IncludesAt name k ∨ document.GoesOnAt name k := by
  simp only [OpensAt, IncludesAt, GoesOnAt, Include.opens_iff hname, and_or_left, exists_or]

/-- The line that is looked for is the first that begins with the directive and the name. -/
theorem includeLine?_eq_some_iff : document.includeLine? name = some k ↔
    document.OpensAt name k ∧ ∀ j < k, ¬ document.OpensAt name j := by
  rw [includeLine?, List.findIdx?_eq_some_iff_getElem]
  simp only [OpensAt, line?, List.getElem?_eq_some_iff]
  constructor
  · rintro ⟨hk, hopens, hfirst⟩
    refine ⟨⟨_, ⟨hk, rfl⟩, hopens⟩, ?_⟩
    rintro j hj ⟨_, ⟨_, rfl⟩, hopens⟩
    exact hfirst j hj hopens
  · rintro ⟨⟨_, ⟨hk, rfl⟩, hopens⟩, hfirst⟩
    exact ⟨hk, hopens, fun j hj hj' => hfirst j hj ⟨_, ⟨_, rfl⟩, hj'⟩⟩

/-- It is found where there is one, or before. -/
theorem exists_includeLine?_of_opensAt (h : document.OpensAt name k) :
    ∃ j ≤ k, document.includeLine? name = some j := by
  cases hfound : document.includeLine? name with
  | none =>
    obtain ⟨line, hline, hopens⟩ := h
    rw [includeLine?, List.findIdx?_eq_none_iff] at hfound
    rw [hfound line (List.mem_of_getElem? hline)] at hopens
    cases hopens
  | some j =>
    have hfirst := (includeLine?_eq_some_iff.mp hfound).2
    exact ⟨j, Nat.le_of_not_lt fun hlt => hfirst k hlt h, rfl⟩

end Document

namespace Diagnostic

variable {document : Document} {d : Diagnostic} {name : List Char} {k : Nat}

/-- The diagnostic is moved to the line that caused it: to the first line of the document that
includes the file, and it is moved if there is such a line. -/
structure ResolvedRightly (document : Document) (name : List Char) (d : Diagnostic) : Prop where
  /-- Where it is moved, the line includes the file, and none before it does. -/
  cause : ∀ k : Nat, (d.anchor document).line ≠ d.line → (d.anchor document).line = (k : Int) + 1 →
    document.IncludesAt name k ∧ ∀ j < k, ¬ document.IncludesAt name j
  /-- Where a line includes the file, it is moved. -/
  moved : ∀ k, document.IncludesAt name k → (d.anchor document).line ≠ d.line

theorem anchored_at_iff (hglobal : d.isGlobal = true)
    (hname : Include.Brackets d.message.toList name) :
    (d.anchor document).line ≠ d.line ∧ (d.anchor document).line = (k : Int) + 1 ↔
      document.includeLine? name = some k := by
  have hat : d.includedAt? document = document.includeLine? name := by
    rw [includedAt?, Include.bracketedName?_of_brackets hname, Option.bind_some]
  have hline : d.line ≤ 0 := by simpa [isGlobal] using hglobal
  rw [anchor_line_of_global hglobal, hat]
  cases document.includeLine? name with
  | none =>
    refine iff_of_false (fun h => h.1 rfl) (by simp)
  | some index =>
    rw [Option.some_inj]
    constructor
    · rintro ⟨-, heq⟩
      show index = k
      have heq : (index : Int) + 1 = k + 1 := heq
      omega
    · rintro rfl
      refine ⟨?_, rfl⟩
      show (index : Int) + 1 ≠ d.line
      omega

/-- **When a diagnostic is moved to the line that caused it.** Let a diagnostic have no line and
bracket one name. If a line of the document includes this file, the diagnostic is moved. It is moved
to the line that caused it if no line goes on behind the name before the first that includes the
file, and only then. -/
theorem resolved_rightly_iff (document : Document) (hglobal : d.isGlobal = true)
    (hname : Include.Brackets d.message.toList name) :
    (∀ k, document.IncludesAt name k → (d.anchor document).line ≠ d.line) ∧
    (∀ k : Nat, (d.anchor document).line ≠ d.line → (d.anchor document).line = (k : Int) + 1 →
      (document.IncludesAt name k ∨ document.GoesOnAt name k) ∧
        ∀ j < k, ¬ (document.IncludesAt name j ∨ document.GoesOnAt name j)) ∧
    (d.ResolvedRightly document name ↔
      ∀ k, document.GoesOnAt name k → ∃ j < k, document.IncludesAt name j) := by
  have hopens {j : Nat} : document.OpensAt name j ↔
      document.IncludesAt name j ∨ document.GoesOnAt name j :=
    Document.opensAt_iff hname.no_quote
  have hmoved : ∀ k, document.IncludesAt name k → (d.anchor document).line ≠ d.line := by
    intro k hk
    obtain ⟨j, -, hj⟩ := Document.exists_includeLine?_of_opensAt (hopens.mpr (.inl hk))
    exact ((anchored_at_iff hglobal hname).mpr hj).1
  have hchosen : ∀ k : Nat, (d.anchor document).line ≠ d.line →
      (d.anchor document).line = (k : Int) + 1 →
      document.OpensAt name k ∧ ∀ j < k, ¬ document.OpensAt name j := by
    intro k hne heq
    exact Document.includeLine?_eq_some_iff.mp ((anchored_at_iff hglobal hname).mp ⟨hne, heq⟩)
  refine ⟨hmoved, by simpa only [hopens] using hchosen, ?_, ?_⟩
  · intro hright k hk
    obtain ⟨j, hjk, hj⟩ := Document.exists_includeLine?_of_opensAt (hopens.mpr (.inr hk))
    obtain ⟨hne, heq⟩ := (anchored_at_iff hglobal hname).mpr hj
    have hincludes := (hright.cause j hne heq).1
    refine ⟨j, lt_of_le_of_ne hjk ?_, hincludes⟩
    rintro rfl
    exact Document.not_includesAt_of_goesOnAt hk hincludes
  · intro hcondition
    refine ⟨fun k hne heq => ?_, hmoved⟩
    obtain ⟨hk, hfirst⟩ := hchosen k hne heq
    refine ⟨(hopens.mp hk).resolve_right fun hgoes => ?_,
      fun j hj hincludes => hfirst j hj (hopens.mpr (.inl hincludes))⟩
    obtain ⟨j, hj, hincludes⟩ := hcondition k hgoes
    exact hfirst j hj (hopens.mpr (.inl hincludes))

/-- A source that includes a file and then one with a longer name. -/
def includingShort : Document :=
  .ofText ⟨"/work/main.s"⟩ "\tinclude \"exec/types.i\"\n\tINCLUDE \"exec/types.inc\"\n".toList

/-- A source that includes a file and before it one with a longer name. -/
def includingLong : Document :=
  .ofText ⟨"/work/main.s"⟩ "\tINCLUDE \"exec/types.inc\"\n\tinclude \"exec/types.i\"\n".toList

/-- What the assembler says when it cannot open one of the files. -/
def unopened : Diagnostic :=
  .unlocated "fatal error 13 : could not open <Exec/Types.i> for input" .error

theorem brackets_unopened : Include.Brackets unopened.message.toList "Exec/Types.i".toList where
  ne_nil := by decide
  no_quote := by decide
  no_newline := by decide
  no_open := by decide
  no_close := by decide
  only := ⟨"fatal error 13 : could not open ".toList, " for input".toList, by decide +kernel,
    by decide, by decide, by decide, by decide⟩

/-- A longer name behind the line that includes the file does no harm. -/
theorem resolved_rightly_iff_short :
    unopened.isGlobal = true ∧ Include.Brackets unopened.message.toList "Exec/Types.i".toList ∧
    includingShort.GoesOnAt "Exec/Types.i".toList 1 ∧
    unopened.ResolvedRightly includingShort "Exec/Types.i".toList := by
  have hincludes : includingShort.IncludesAt "Exec/Types.i".toList 0 :=
    ⟨_, rfl, "exec/types.i".toList, [], by decide +kernel, by decide, by decide +kernel⟩
  have hgoes : includingShort.GoesOnAt "Exec/Types.i".toList 1 :=
    ⟨_, rfl, "exec/types.i".toList, "nc\"".toList, by decide +kernel, by decide +kernel,
      by decide⟩
  refine ⟨rfl, brackets_unopened, hgoes, ?_⟩
  refine (resolved_rightly_iff includingShort rfl brackets_unopened).2.2.mpr fun k hk => ?_
  have hk0 : k ≠ 0 := by
    rintro rfl
    exact Document.not_includesAt_of_goesOnAt hk hincludes
  exact ⟨0, Nat.pos_of_ne_zero hk0, hincludes⟩

/-- **A line with a longer name is taken for the cause.** The first line includes another file. Its
name goes on behind the bracketed one. It is the second line that includes the file. -/
theorem longer_name_resolved :
    Include.Brackets unopened.message.toList "Exec/Types.i".toList ∧
    (unopened.anchor includingLong).line = 1 ∧
    ¬ includingLong.IncludesAt "Exec/Types.i".toList 0 ∧
    includingLong.IncludesAt "Exec/Types.i".toList 1 ∧
    ¬ unopened.ResolvedRightly includingLong "Exec/Types.i".toList := by
  have hgoes : includingLong.GoesOnAt "Exec/Types.i".toList 0 :=
    ⟨_, rfl, "exec/types.i".toList, "nc\"".toList, by decide +kernel, by decide +kernel,
      by decide⟩
  have hline : (unopened.anchor includingLong).line = 1 := by decide +kernel
  have hnot := Document.not_includesAt_of_goesOnAt hgoes
  refine ⟨brackets_unopened, hline, hnot,
    ⟨_, rfl, "exec/types.i".toList, [], by decide +kernel, by decide, by decide +kernel⟩,
    fun hright => hnot (hright.cause 0 ?_ hline).1⟩
  rw [hline]
  decide

end Diagnostic

end BuildReport
