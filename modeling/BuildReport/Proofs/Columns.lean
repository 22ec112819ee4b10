import BuildReport.Placement
import Mathlib.Data.List.TakeWhile

/-!
# The columns that are covered

A diagnostic without a column covers the text of its line without the blanks at the two ends. These
are counted apart from each other, so that a line of blanks has all of them at both ends. A
diagnostic with a column covers the line from there to the last character that is no blank. Where
nothing is left to cover, one column is covered all the same.

- `Text.EndsAt`: the index behind the last character of a text that is no blank.
- `exists_trimmed`: a text is its trimmed text between blanks, and these are the counted ones.
- `endsAt_length_sub`: the blanks at the end are what is behind that index.
- `columnRange_covers`: what is covered, for every line and every column.
-/

namespace BuildReport

namespace Text

variable {text : List Char} {n : Nat}

/-- The index just behind the last character that is no blank, or zero if there is none. -/
structure EndsAt (text : List Char) (n : Nat) : Prop where
  /-- From this index on there are blanks only. -/
  blank : ∀ c ∈ text.drop n, isBlank c = true
  /-- The character before this index, if there is one, is no blank. -/
  last : n = 0 ∨ ∃ c, text[n - 1]? = some c ∧ isBlank c = false

theorem EndsAt.le {m : Nat} (hn : EndsAt text n) (hm : EndsAt text m) : n ≤ m := by
  rcases hn.last with rfl | ⟨c, hc, hblank⟩
  · exact Nat.zero_le m
  · refine Nat.le_of_not_lt fun hlt => ?_
    have hmem : c ∈ text.drop m := by
      refine List.mem_of_getElem? (i := n - 1 - m) ?_
      rw [List.getElem?_drop, Nat.add_sub_cancel' (by omega), hc]
    rw [hm.blank c hmem] at hblank
    cases hblank

/-- There is only one such index. -/
theorem EndsAt.unique {m : Nat} (hn : EndsAt text n) (hm : EndsAt text m) : n = m :=
  Nat.le_antisymm (hn.le hm) (hm.le hn)

theorem endsAt_append {s after : List Char} (hafter : ∀ c ∈ after, isBlank c = true)
    (hlast : ∀ c ∈ s.getLast?, isBlank c = false) : EndsAt (s ++ after) s.length where
  blank := by rwa [List.drop_left]
  last := by
    cases hs : s.getLast? with
    | none => exact .inl (by rw [List.getLast?_eq_none_iff.mp hs]; rfl)
    | some c =>
      refine .inr ⟨c, ?_, hlast c hs⟩
      obtain ⟨before, rfl⟩ := List.getLast?_eq_some_iff.mp hs
      simp

/-! ## Blanks at the ends -/

/-- What follows a character that is no blank makes no difference to the blanks at the start. -/
theorem leadingBlanks_append {s : List Char} (h : ∃ c ∈ s, isBlank c = false) (t : List Char) :
    leadingBlanks (s ++ t) = leadingBlanks s := by
  induction s with
  | nil =>
    obtain ⟨c, hc, -⟩ := h
    exact absurd hc List.not_mem_nil
  | cons d s ih =>
    cases hd : isBlank d with
    | false => simp [leadingBlanks, hd]
    | true =>
      have hrest := ih (by simpa [hd] using h)
      simp only [leadingBlanks] at hrest
      simp [leadingBlanks, hd, hrest]

/-- A text is what is left of it without the blanks at its end, and these blanks. -/
theorem trimEnd_append_blanks (s : List Char) :
    trimEnd s ++ (s.reverse.takeWhile isBlank).reverse = s := by
  rw [trimEnd, ← List.reverse_append, List.takeWhile_append_dropWhile, List.reverse_reverse]

theorem isBlank_of_mem_takeWhile_reverse {s : List Char} :
    ∀ c ∈ (s.reverse.takeWhile isBlank).reverse, isBlank c = true := fun _ hc =>
  List.mem_takeWhile_imp (List.mem_reverse.mp hc)

theorem isBlank_getLast?_trimEnd {s : List Char} :
    ∀ c ∈ (trimEnd s).getLast?, isBlank c = false := by
  intro c hc
  rw [trimEnd, List.getLast?_reverse, ← List.find?_not_eq_head?_dropWhile] at hc
  simpa using List.find?_some hc

/-- **The blanks at the end of a text** are what is behind its last character that is no blank. -/
theorem endsAt_length_sub (text : List Char) :
    EndsAt text (text.length - trailingBlanks text) := by
  have hends : EndsAt (trimEnd text ++ (text.reverse.takeWhile isBlank).reverse)
      (trimEnd text).length :=
    endsAt_append isBlank_of_mem_takeWhile_reverse isBlank_getLast?_trimEnd
  have hlength : (trimEnd text).length = text.length - trailingBlanks text := by
    rw [trimEnd_eq_take, List.length_take]
    omega
  rwa [trimEnd_append_blanks, hlength] at hends

theorem takeWhile_append_trim (s : List Char) :
    s.takeWhile isBlank ++ (trim s ++ ((trimStart s).reverse.takeWhile isBlank).reverse) = s := by
  rw [trim, trimEnd_append_blanks]
  exact List.takeWhile_append_dropWhile

/-- **A text is its trimmed text between blanks**, and these are the blanks that are counted. -/
theorem exists_trimmed (h : ∃ c ∈ text, isBlank c = false) : ∃ before after,
    text = before ++ (trim text ++ after) ∧
    (∀ c ∈ before, isBlank c = true) ∧ (∀ c ∈ after, isBlank c = true) ∧
    leadingBlanks text = before.length ∧ trailingBlanks text = after.length ∧ trim text ≠ [] := by
  have hstart : text = text.takeWhile isBlank ++ trimStart text :=
    List.takeWhile_append_dropWhile.symm
  -- the character that is no blank is not among those at the start
  have hinner : ∃ c ∈ (trimStart text).reverse, isBlank c = false := by
    obtain ⟨c, hc, hblank⟩ := h
    rw [hstart, List.mem_append] at hc
    rcases hc with hc | hc
    · rw [List.mem_takeWhile_imp hc] at hblank
      cases hblank
    · exact ⟨c, List.mem_reverse.mpr hc, hblank⟩
  refine ⟨text.takeWhile isBlank, ((trimStart text).reverse.takeWhile isBlank).reverse,
    (takeWhile_append_trim text).symm, fun _ => List.mem_takeWhile_imp,
    isBlank_of_mem_takeWhile_reverse, rfl, ?_, ?_⟩
  · have htrailing : trailingBlanks text = leadingBlanks (trimStart text).reverse := by
      rw [trailingBlanks, hstart, List.reverse_append, ← hstart, leadingBlanks_append hinner]
    rw [htrailing, List.length_reverse, leadingBlanks]
  · obtain ⟨c, hc, hblank⟩ := hinner
    rw [trim, trimEnd, ne_eq, List.reverse_eq_nil_iff, List.dropWhile_eq_nil_iff]
    intro hall
    rw [hall c hc] at hblank
    cases hblank

end Text

/-! ## Columns -/

open Text

variable {text : List Char}

/-- **Without a column it is the trimmed text that is covered**, and around it there are blanks. -/
theorem columnRange_zero (h : ∃ c ∈ text, isBlank c = false) :
    (columnRange text 0).2 ≤ text.length ∧
    text.extract (columnRange text 0).1 (columnRange text 0).2 = trim text ∧
    ∀ c ∈ text.take (columnRange text 0).1 ++ text.drop (columnRange text 0).2,
      isBlank c = true := by
  obtain ⟨before, after, htext, hbefore, hafter, hleading, htrailing, hne⟩ := exists_trimmed h
  generalize trim text = inner at htext hne ⊢
  have hpositive : 0 < inner.length := List.length_pos_iff.mpr hne
  have hstart : (columnRange text 0).1 = before.length := hleading
  have hstop : (columnRange text 0).2 = before.length + inner.length := by
    have hlength := congrArg List.length htext
    rw [List.length_append, List.length_append] at hlength
    show max (text.length - trailingBlanks text) (leadingBlanks text + 1) = _
    omega
  rw [hstart, hstop, htext]
  refine ⟨?_, ?_, ?_⟩
  · simp only [List.length_append]
    omega
  · rw [List.extract_eq_take_drop, List.drop_left, Nat.add_sub_cancel_left, List.take_left]
  · rw [List.take_left, ← List.append_assoc, ← List.length_append, List.drop_left]
    exact List.forall_mem_append.mpr ⟨hbefore, hafter⟩

/-- With a column the text is covered from there to its last character that is no blank. -/
theorem columnRange_of_pos {column : Nat} (h : 1 ≤ column) {n : Nat} (hn : EndsAt text n) :
    columnRange text column = (column - 1, max (column - 1 + 1) n) := by
  rw [hn.unique (endsAt_length_sub text), columnRange, if_neg (by omega), Nat.max_comm]

/-- **What is covered.** At least one column is covered on every line. Without a column, on a line
that has a character which is no blank, it is exactly the text without the blanks at its ends. With
a column it is what stands from there to the last character that is no blank, if anything does. -/
theorem columnRange_covers (text : List Char) (column : Nat) :
    let start := (columnRange text column).1
    let stop := (columnRange text column).2
    start < stop ∧
    (column = 0 → (∃ c ∈ text, isBlank c = false) →
      stop ≤ text.length ∧ text.extract start stop = trim text ∧
        ∀ c ∈ text.take start ++ text.drop stop, isBlank c = true) ∧
    (1 ≤ column → start = column - 1 ∧ ∀ n, EndsAt text n → stop = max (start + 1) n) ∧
    ∃ n, EndsAt text n := by
  refine ⟨columnRange_lt text column, ?_, ?_, _, endsAt_length_sub text⟩
  · rintro rfl h
    exact columnRange_zero h
  · intro h
    have hrange := columnRange_of_pos h (endsAt_length_sub text)
    refine ⟨congrArg Prod.fst hrange, fun n hn => ?_⟩
    rw [columnRange_of_pos h hn]

end BuildReport
