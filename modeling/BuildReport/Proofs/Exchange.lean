import BuildReport.Diagnostic.Exchange
import BuildReport.Proofs.Columns
import BuildReport.Proofs.Patterns

/-!
# Diagnostics that are written and read back

A severity is written as its label and read from it. A label that no severity is named for stays as
it is, but for the blanks around it and the case of its letters. So the way back is right because
there is nothing left to trim in a label that was trimmed, and nothing to change in one in lower
case. The line and the column are written as integers, and read back if they are in the range of
their words.

- `Text.Padded`: a text with blanks around it; `Text.trim_trim`: trimming it once is enough.
- `Severity.Alike`: labels that differ in blanks around them and in case only.
- `Severity.plainLabel_eq_iff`, `Severity.ofLabel_eq_iff`: these are the labels of one severity.
- `Json.field?_eq_some_iff`: what the members of an object are when no name is there twice.
- `Diagnostic.HasMembers`: an object that holds five values, in any order and among others.
- `Diagnostic.survives_iff`: which diagnostics come back as they were.
- `Diagnostic.written_survives`: all that tools give do, and all that were read.
-/

namespace BuildReport

namespace Text

variable {core s : List Char}

/-! ## Trimming -/

/-- The text `s` is `core` with blanks around it. -/
def Padded (core s : List Char) : Prop :=
  ∃ before after, s = before ++ (core ++ after) ∧
    (∀ c ∈ before, isBlank c = true) ∧ ∀ c ∈ after, isBlank c = true

theorem padded_trim (s : List Char) : Padded (trim s) s :=
  ⟨_, _, (takeWhile_append_trim s).symm, fun _ => List.mem_takeWhile_imp,
    isBlank_of_mem_takeWhile_reverse⟩

/-- Blanks around a text make no difference to what is left of it. -/
theorem Padded.trim_eq (h : Padded core s) : trim s = trim core := by
  obtain ⟨before, after, rfl, hbefore, hafter⟩ := h
  have hend (t : List Char) : trimEnd (t ++ after) = trimEnd t := by
    rw [trimEnd, List.reverse_append, List.dropWhile_append_of_pos, trimEnd]
    exact fun c hc => hafter c (List.mem_reverse.mp hc)
  have hstart : trimStart (before ++ (core ++ after)) = trimStart (core ++ after) :=
    List.dropWhile_append_of_pos hbefore
  rw [trim, hstart, trimStart, List.dropWhile_append]
  split
  · next hblank =>
    -- nothing but blanks, in front and behind alike
    rw [List.dropWhile_eq_nil_iff.mpr hafter, trim, trimStart, List.isEmpty_iff.mp hblank]
  · exact hend _

theorem trim_trim (s : List Char) : trim (trim s) = trim s :=
  (padded_trim s).trim_eq.symm

/-! ## Lower case -/

theorem eq_ofNat_of_capital {c : Char} (h : 0x41 ≤ c.toNat ∧ c.toNat ≤ 0x5A) :
    ∃ n < 26, c = Char.ofNat (0x41 + n) := by
  refine ⟨c.toNat - 0x41, by omega, ?_⟩
  rw [Nat.add_sub_cancel' h.1, Char.ofNat_toNat]

theorem toLower_toLower (c : Char) : c.toLower.toLower = c.toLower := by
  by_cases h : 0x41 ≤ c.toNat ∧ c.toNat ≤ 0x5A
  · obtain ⟨n, hn, rfl⟩ := eq_ofNat_of_capital h
    revert n
    decide
  · rw [toLower_of_not_capital h]
    exact toLower_of_not_capital h

theorem isBlank_toLower (c : Char) : isBlank c.toLower = isBlank c := by
  by_cases h : 0x41 ≤ c.toNat ∧ c.toNat ≤ 0x5A
  · obtain ⟨n, hn, rfl⟩ := eq_ofNat_of_capital h
    revert n
    decide
  · rw [toLower_of_not_capital h]

theorem trim_map_toLower (s : List Char) :
    trim (s.map Char.toLower) = (trim s).map Char.toLower := by
  have hcomp : isBlank ∘ Char.toLower = isBlank := funext isBlank_toLower
  rw [trim, trimEnd, trimStart, List.dropWhile_map, hcomp, ← List.map_reverse,
    List.dropWhile_map, hcomp, ← List.map_reverse]
  rfl

end Text

namespace Severity

open Text

variable {x y : String}

/-! ## Labels -/

/-- Two labels that differ in the blanks around them and in the case of their ASCII letters only. -/
def Alike (x y : String) : Prop :=
  ∃ core core', Padded core x.toList ∧ Padded core' y.toList ∧
    core.map Char.toLower = core'.map Char.toLower

/-- **Alike labels are those with one plain form.** -/
theorem plainLabel_eq_iff : plainLabel x = plainLabel y ↔ Alike x y := by
  rw [plainLabel, plainLabel, String.ofList_inj]
  constructor
  · intro h
    exact ⟨_, _, padded_trim _, padded_trim _, h⟩
  · rintro ⟨core, core', hx, hy, h⟩
    rw [hx.trim_eq, hy.trim_eq, ← trim_map_toLower, ← trim_map_toLower, h]

/-- A label is plain once it has been made so. -/
theorem plainLabel_plainLabel (x : String) : plainLabel (plainLabel x) = plainLabel x := by
  have hlower : Char.toLower ∘ Char.toLower = Char.toLower := funext toLower_toLower
  rw [plainLabel, plainLabel, String.toList_ofList, trim_map_toLower, trim_trim, List.map_map,
    hlower]

/-- **A severity is read back from its label**, whichever label it was first read from. -/
theorem ofLabel_label_ofLabel (x : String) : ofLabel (ofLabel x).label = ofLabel x := by
  rw [label_ofLabel]
  exact ofLabel_congr (plainLabel_plainLabel x)

/-- Labels of one severity have one plain form, and only they do. -/
theorem ofLabel_eq_iff : ofLabel x = ofLabel y ↔ plainLabel x = plainLabel y := by
  constructor
  · intro h
    rw [← label_ofLabel, h, label_ofLabel]
  · exact ofLabel_congr

end Severity

namespace Json

variable {members members' : List (String × Json)} {key : String} {value : Json}

/-! ## Members of objects -/

theorem field?_eq_some_iff (h : (members.map Prod.fst).Nodup) :
    field? members key = some value ↔ (key, value) ∈ members := by
  induction members with
  | nil => simp [field?]
  | cons member members ih =>
    obtain ⟨first, v⟩ := member
    rw [List.map_cons, List.nodup_cons] at h
    by_cases hkey : first = key
    · -- the name stands in front, and nowhere else
      have hrest : (key, value) ∉ members := by
        intro hmem
        rw [hkey] at h
        exact h.1 (List.mem_map.mpr ⟨_, hmem, rfl⟩)
      simp [field?, hkey, hrest, eq_comm]
    · have hfield : field? ((first, v) :: members) key = field? members key := by
        simp [field?, hkey]
      rw [hfield, ih h.2]
      simp [Ne.symm hkey]

/-- The order of members makes no difference. -/
theorem field?_perm (h : members.Perm members') (hnodup : (members.map Prod.fst).Nodup) :
    field? members key = field? members' key := by
  refine Option.ext fun value => ?_
  rw [field?_eq_some_iff hnodup, field?_eq_some_iff ((h.map Prod.fst).nodup_iff.mp hnodup),
    h.mem_iff]

/-- Other members make no difference. -/
theorem field?_filter {names : List String} (h : key ∈ names) (members : List (String × Json)) :
    field? (members.filter (·.1 ∈ names)) key = field? members key := by
  rw [field?, field?, List.find?_filter]
  congr 2
  funext member
  by_cases hkey : member.1 = key
  · simp [hkey, h]
  · simp [hkey]

theorem asInt?_eq_some {low high n : Int} (h : asInt? low high value = some n) :
    low ≤ n ∧ n ≤ high := by
  cases value with
  | int m =>
    rw [asInt?] at h
    split at h
    · next hrange =>
      cases h
      exact hrange
    · cases h
  | _ => cases h

end Json

namespace Diagnostic

variable {members : List (String × Json)} {d : Diagnostic}
  {file line column message severity value : Json}

/-! ## Objects that hold a diagnostic -/

/-- The names of the five members. -/
def memberNames : List String :=
  ["file", "line", "col", "msg", "severity"]

/-- An object with these members holds the five values under their names, in any order and among
any others. -/
def HasMembers (members : List (String × Json)) (values : List Json) : Prop :=
  (members.filter (·.1 ∈ memberNames)).Perm (memberNames.zip values)

theorem HasMembers.field? (h : HasMembers members [file, line, column, message, severity])
    {key : String} (hkey : key ∈ memberNames) :
    Json.field? members key =
      Json.field? (memberNames.zip [file, line, column, message, severity]) key := by
  rw [← Json.field?_filter hkey]
  refine (Json.field?_perm h.symm ?_).symm
  show memberNames.Nodup
  decide

/-- **An object is read as the array of its five values**, whatever these are. -/
theorem ofJson?_object (h : HasMembers members [file, line, column, message, severity]) :
    ofJson? (.object members) = ofJson? (.array [file, line, column, message, severity]) := by
  have hfield (key : String) (hkey : key ∈ memberNames) := h.field? hkey
  simp only [memberNames, List.forall_mem_cons] at hfield
  obtain ⟨hfile, hline, hcolumn, hmessage, hseverity, -⟩ := hfield
  rw [ofJson?, hfile, hline, hcolumn, hmessage, hseverity]
  rfl

theorem hasMembers_zip (values : List Json) : HasMembers (memberNames.zip values) values := by
  have hknown : (memberNames.zip values).filter (·.1 ∈ memberNames) = memberNames.zip values := by
    refine List.filter_eq_self.mpr fun member hmember => ?_
    exact decide_eq_true (List.of_mem_zip hmember).1
  exact List.Perm.of_eq hknown

/-! ## Diagnostics that come back -/

/-- The diagnostic can be exchanged: its line and its column are in range, and its severity is the
one with its label. -/
structure IsExchangeable (d : Diagnostic) : Prop where
  line_ge : minLine ≤ d.line
  line_le : d.line ≤ maxLine
  column_le : (d.column : Int) ≤ maxColumn
  severity : Severity.ofLabel d.severity.label = d.severity

/-- The diagnostic comes back as it was, whichever way it is written. -/
structure Survives (d : Diagnostic) : Prop where
  written : ofJson? d.toJson = some d
  array : ofJson? (.array d.toFields) = some d
  object : ∀ members, HasMembers members d.toFields → ofJson? (.object members) = some d

theorem isExchangeable_of_ofFields? (h : ofFields? file line column message severity = some d) :
    d.IsExchangeable := by
  simp only [ofFields?, Option.bind_eq_bind, Option.bind_eq_some_iff, Option.pure_def,
    Option.some.injEq] at h
  obtain ⟨file, -, line, hline, column, hcolumn, message, -, label, -, rfl⟩ := h
  have hline := Json.asInt?_eq_some hline
  have hcolumn := Json.asInt?_eq_some hcolumn
  constructor
  · exact hline.1
  · exact hline.2
  · rw [Int.toNat_of_nonneg hcolumn.1]
    exact hcolumn.2
  · dsimp only
    exact Severity.ofLabel_label_ofLabel label

theorem isExchangeable_of_ofJson? (h : ofJson? value = some d) : d.IsExchangeable := by
  unfold ofJson? at h
  split at h
  · simp only [Option.bind_eq_bind, Option.bind_eq_some_iff] at h
    obtain ⟨file, -, line, -, column, -, message, -, severity, -, hfields⟩ := h
    exact isExchangeable_of_ofFields? hfields
  · exact isExchangeable_of_ofFields? h
  · cases h

/-- **Which diagnostics come back as they were.** -/
theorem survives_iff : d.Survives ↔ d.IsExchangeable := by
  constructor
  · intro h
    exact isExchangeable_of_ofJson? h.array
  · intro h
    have harray : ofJson? (.array d.toFields) = some d := by
      have hfields := ofFields?_of_valid d h.line_ge h.line_le h.column_le
      rw [h.severity] at hfields
      exact hfields
    have hobject (members : List (String × Json)) (hmembers : HasMembers members d.toFields) :
        ofJson? (.object members) = some d := by
      rw [← harray]
      exact ofJson?_object hmembers
    exact ⟨hobject _ (hasMembers_zip _), harray, hobject⟩

/-- The diagnostic that a tool gives: three texts, a signed word and a short unsigned word. -/
def ofWords (file message label : String) (line : Int64) (column : UInt32) : Diagnostic where
  file := file
  line := line.toInt
  column := column.toNat
  message := message
  severity := .ofLabel label

theorem isExchangeable_ofWords (file message label : String) (line : Int64) (column : UInt32) :
    (ofWords file message label line column).IsExchangeable where
  line_ge := line.le_toInt
  line_le := Int.le_of_lt_add_one line.toInt_lt
  column_le := Int.ofNat_le.mpr (Nat.le_of_lt_succ column.toNat_lt)
  severity := by
    dsimp only [ofWords]
    exact Severity.ofLabel_label_ofLabel label

/-- **What is written and read back.** A severity is read back from its label. Two labels are those
of one severity if they are the same when trimmed and in lower case, and only then; so it is with
labels that differ in blanks around them and in case only, and these are filed at one level. Every
diagnostic that a tool can give comes back as it was, written as an object with its members in any
order and among others, or as an array. So does every diagnostic that was read, whatever from. -/
theorem written_survives :
    (∀ x, Severity.ofLabel (Severity.ofLabel x).label = Severity.ofLabel x) ∧
    (∀ x y, (Severity.ofLabel x = Severity.ofLabel y ↔
        Severity.plainLabel x = Severity.plainLabel y) ∧
      (Severity.plainLabel x = Severity.plainLabel y ↔ Severity.Alike x y) ∧
      (Severity.Alike x y → (Severity.ofLabel x).level = (Severity.ofLabel y).level)) ∧
    (∀ file message label line column, (ofWords file message label line column).Survives) ∧
    ∀ value d, ofJson? value = some d → d.Survives := by
  refine ⟨Severity.ofLabel_label_ofLabel, fun x y => ⟨Severity.ofLabel_eq_iff,
    Severity.plainLabel_eq_iff, fun halike => ?_⟩, fun file message label line column => ?_,
    fun value d hread => ?_⟩
  · rw [Severity.ofLabel_congr (Severity.plainLabel_eq_iff.mpr halike)]
  · exact survives_iff.mpr (isExchangeable_ofWords file message label line column)
  · exact survives_iff.mpr (isExchangeable_of_ofJson? hread)

end Diagnostic

end BuildReport
