import BuildReport.Include

/-!
# The name that a message brackets

A message may bracket several names on several lines. The one that is looked for stands on the first
line that brackets any. It begins behind the last opening bracket that has one of its own, and it
goes on to the last closing bracket.

- `Include.IsBracketed`: the name that a line brackets; `IsBracketed.unique`.
- `Include.Names`: the name that a message brackets.
- `names_iff`: what is read in a message is this name.
-/

namespace BuildReport

open Text

namespace Include

variable {line message name : List Char}

/-! ## Names in brackets -/

/-- The line has a name in brackets. -/
def HasBrackets (line : List Char) : Prop :=
  ∃ before name after, line = before ++ '<' :: (name ++ '>' :: after) ∧ name ≠ []

/-- The name that a line brackets: it stands between the last opening bracket that a name and a
closing one follow, and the last closing bracket. -/
def IsBracketed (line name : List Char) : Prop :=
  ∃ before after, line = before ++ '<' :: (name ++ '>' :: after) ∧ name ≠ [] ∧ '>' ∉ after ∧
    ∀ b n a, line = b ++ '<' :: (n ++ '>' :: a) → n ≠ [] → b.length ≤ before.length

/-- The name that a message brackets, on the first of its lines that has one in brackets. -/
def Names (message name : List Char) : Prop :=
  ∃ earlier line later, splitLines message = earlier ++ line :: later ∧ IsBracketed line name ∧
    ∀ l ∈ earlier, ¬ HasBrackets l

/-! ## Reading them -/

theorem hasBrackets_cons {c : Char} {rest : List Char} : HasBrackets (c :: rest) ↔
    HasBrackets rest ∨ c = '<' ∧ ∃ name after, rest = name ++ '>' :: after ∧ name ≠ [] := by
  constructor
  · rintro ⟨before, name, after, hline, hne⟩
    cases before with
    | nil =>
      obtain ⟨rfl, rfl⟩ := List.cons.inj hline
      exact .inr ⟨rfl, name, after, rfl, hne⟩
    | cons d before =>
      obtain ⟨rfl, rfl⟩ := List.cons.inj hline
      exact .inl ⟨before, name, after, rfl, hne⟩
  · rintro (⟨before, name, after, rfl, hne⟩ | ⟨rfl, name, after, rfl, hne⟩)
    · exact ⟨c :: before, name, after, rfl, hne⟩
    · exact ⟨[], name, after, rfl, hne⟩

theorem nameAfterBracket?_eq_some {s : List Char} (h : nameAfterBracket? s = some name) :
    ∃ after, s = name ++ '>' :: after ∧ name ≠ [] ∧ '>' ∉ after := by
  unfold nameAfterBracket? at h
  split at h
  · next c stretch hlast =>
    cases h
    obtain ⟨after, hs, hafter⟩ := upToLast_eq_some hlast
    exact ⟨after, hs, List.cons_ne_nil c stretch, hafter⟩
  · cases h

theorem nameAfterBracket?_eq_none_iff {s : List Char} : nameAfterBracket? s = none ↔
    ¬ ∃ name after, s = name ++ '>' :: after ∧ name ≠ [] := by
  constructor
  · rintro h ⟨name, after, rfl, hne⟩
    obtain ⟨c, name, rfl⟩ := List.exists_cons_of_ne_nil hne
    have hmem : '>' ∈ name ++ '>' :: after := List.mem_append_right _ List.mem_cons_self
    obtain ⟨stretch, hstretch⟩ := Option.ne_none_iff_exists'.mp fun h => upToLast_eq_none.mp h hmem
    rw [List.cons_append, nameAfterBracket?, upToLast, hstretch] at h
    cases h
  · intro h
    refine Option.eq_none_iff_forall_ne_some.mpr fun name hname => ?_
    obtain ⟨after, hs, hne, -⟩ := nameAfterBracket?_eq_some hname
    exact h ⟨name, after, hs, hne⟩

theorem nameInLine?_eq_none_iff : nameInLine? line = none ↔ ¬ HasBrackets line := by
  induction line with
  | nil =>
    refine iff_of_true rfl ?_
    rintro ⟨before, name, after, hnil, -⟩
    exact absurd hnil (by simp)
  | cons c rest ih =>
    rw [hasBrackets_cons, not_or, ← ih, nameInLine?]
    cases nameInLine? rest with
    | some found => simp
    | none =>
      by_cases hc : c = '<'
      · simp [hc, nameAfterBracket?_eq_none_iff]
      · simp [hc]

/-- A name that is read in a line is the one that the line brackets. -/
theorem isBracketed_of_nameInLine? (h : nameInLine? line = some name) : IsBracketed line name := by
  induction line with
  | nil => cases h
  | cons c rest ih =>
    rw [nameInLine?] at h
    split at h
    · next found hrest =>
      cases h
      obtain ⟨before, after, rfl, hne, hafter, hlast⟩ := ih hrest
      refine ⟨c :: before, after, rfl, hne, hafter, fun b n a hline hn => ?_⟩
      cases b with
      | nil => exact Nat.zero_le _
      | cons d b => exact Nat.succ_le_succ (hlast b n a (List.cons.inj hline).2 hn)
    · next hrest =>
      split at h
      · next hc =>
        obtain ⟨after, rfl, hne, hafter⟩ := nameAfterBracket?_eq_some h
        refine ⟨[], after, by rw [hc]; rfl, hne, hafter, fun b n a hline hn => ?_⟩
        -- a bracket further on would have been found in the rest
        cases b with
        | nil => exact Nat.le_refl 0
        | cons d b =>
          exact absurd ⟨b, n, a, (List.cons.inj hline).2, hn⟩ (nameInLine?_eq_none_iff.mp hrest)
      · cases h

/-- A line brackets one name at most. -/
theorem IsBracketed.unique {other : List Char} (h : IsBracketed line name)
    (h' : IsBracketed line other) : name = other := by
  obtain ⟨before, after, hline, hne, hafter, hlast⟩ := h
  obtain ⟨before', after', hline', hne', hafter', hlast'⟩ := h'
  have hlength : before.length = before'.length :=
    Nat.le_antisymm (hlast' _ _ _ hline hne) (hlast _ _ _ hline' hne')
  obtain ⟨-, hbehind⟩ := List.append_inj (hline.symm.trans hline') hlength
  have hsame := (List.cons.inj hbehind).2
  rw [← Option.some_inj, ← upToLast_append hafter, hsame, upToLast_append hafter']

theorem nameInLine?_eq_some_iff : nameInLine? line = some name ↔ IsBracketed line name := by
  refine ⟨isBracketed_of_nameInLine?, fun h => ?_⟩
  cases hread : nameInLine? line with
  | none =>
    obtain ⟨before, after, hline, hne, -⟩ := h
    exact absurd ⟨before, name, after, hline, hne⟩ (nameInLine?_eq_none_iff.mp hread)
  | some found => rw [(isBracketed_of_nameInLine? hread).unique h]

/-- **The name that is read is the one that the message brackets.** -/
theorem names_iff : bracketedName? message = some name ↔ Names message name := by
  simp only [bracketedName?, Names, List.findSome?_eq_some_iff, nameInLine?_eq_some_iff,
    nameInLine?_eq_none_iff]

end Include

end BuildReport
