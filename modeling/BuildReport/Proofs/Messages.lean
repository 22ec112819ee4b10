import BuildReport.Proofs.Headers
import Mathlib.Data.List.Infix

/-!
# The messages of a report

A report is read line by line with one message open at most. What comes out can be said without the
open message: every header gives one diagnostic, whose message goes on over the indented lines that
follow the header directly.

- `LinkerReport.carriesOn`: the lines that a message goes on over.
- `message?`: the diagnostic of a header and the lines behind it.
- `foldl_step`: what is closed and open after any number of lines.
- `parse_eq_messages`: a report says what its headers say, each with the lines that carry it on.
-/

namespace BuildReport

namespace LinkerReport

open Text

/-- The line carries on a message: it is indented, has text, and opens no message itself. -/
def carriesOn (line : List Char) : Bool :=
  (header? line).isNone && continues line

/-- A diagnostic whose message goes on over further lines, each trimmed and after one blank. -/
def carried (d : Diagnostic) (lines : List (List Char)) : Diagnostic :=
  { d with
    message := d.message ++ String.join (lines.map fun line => " " ++ String.ofList (trim line)) }

/-- What the first of the lines opens, carried on by those that follow it directly. -/
def message? : List (List Char) → Option Diagnostic
  | [] => none
  | line :: rest => (header? line).map fun d => carried d (rest.takeWhile carriesOn)

/-- A diagnostic without its message. -/
def bare (d : Diagnostic) : Diagnostic :=
  { d with message := "" }

variable {line : List Char} {lines : List (List Char)} {d : Diagnostic}

@[simp] theorem carried_nil (d : Diagnostic) : carried d [] = d := by
  simp [carried]

theorem carried_extend (d : Diagnostic) (line : List Char) (lines : List (List Char)) :
    carried (extend d line) lines = carried d (line :: lines) := by
  simp [carried, extend, String.append_assoc]

/-! ## Lines one by one -/

theorem carriesOn_of_header (h : header? line = some d) : carriesOn line = false := by
  rw [carriesOn, h]
  rfl

theorem carriesOn_of_not_header (h : header? line = none) : carriesOn line = continues line := by
  rw [carriesOn, h]
  rfl

/-- **What is closed and open after further lines.** The open message is carried on by the lines up
to the first that does not carry on, and then every header opens one. -/
theorem foldl_step (closed : List Diagnostic) (opened : Option Diagnostic) :
    (lines.foldl step ⟨closed, opened⟩).close.closed =
      (lines.tails.filterMap message?).reverse ++
        (opened.map (carried · (lines.takeWhile carriesOn))).toList ++ closed := by
  induction lines generalizing closed opened with
  | nil => cases opened <;> simp [message?, State.close]
  | cons line lines ih =>
    rw [List.foldl_cons, List.tails_cons, List.filterMap_cons, message?, step]
    cases hheader : header? line with
    | some d =>
      -- the header closes the open message, which nothing carries on, and opens its own
      rw [List.takeWhile_cons_of_neg (by simp [carriesOn_of_header hheader])]
      show (lines.foldl step ⟨opened.toList ++ closed, some d⟩).close.closed = _
      rw [ih]
      cases opened <;> simp
    | none =>
      cases hcontinues : continues line with
      | true =>
        have hcarries : carriesOn line = true := by
          rw [carriesOn_of_not_header hheader, hcontinues]
        rw [List.takeWhile_cons_of_pos hcarries]
        show (lines.foldl step ⟨closed, opened.map (extend · line)⟩).close.closed = _
        rw [ih]
        cases opened <;> simp [carried_extend]
      | false =>
        have hcarries : carriesOn line = false := by
          rw [carriesOn_of_not_header hheader, hcontinues]
        rw [List.takeWhile_cons_of_neg (by simp [hcarries])]
        show (lines.foldl step ⟨opened.toList ++ closed, none⟩).close.closed = _
        rw [ih]
        cases opened <;> simp

theorem parse_eq (text : List Char) :
    parse text = (reportLines text).tails.filterMap message? := by
  rw [parse, foldl_step]
  simp

/-- Leaving the messages out, every header gives one diagnostic. -/
theorem map_bare_messages (lines : List (List Char)) :
    (lines.tails.filterMap message?).map bare = (lines.filterMap header?).map bare := by
  induction lines with
  | nil => rfl
  | cons line lines ih =>
    rw [List.tails_cons, List.filterMap_cons, List.filterMap_cons, message?]
    cases header? line with
    | none => exact ih
    | some d => exact congrArg (bare d :: ·) ih

/-- **What a report says.** It gives one diagnostic for every header, in their order, whose message
goes on over the lines that directly follow the header and carry it on. But for the messages no
line matters that is not a header. -/
theorem parse_eq_messages (text : List Char) :
    parse text = (reportLines text).tails.filterMap message? ∧
    (parse text).map bare = ((reportLines text).filterMap header?).map bare ∧
    (∀ line d, header? line = some d ↔ IsHeader line d) := by
  refine ⟨parse_eq text, ?_, fun line d => header?_eq_some_iff⟩
  rw [parse_eq, map_bare_messages]

example : parse "error 1: a\n  b \nc\n  d".toList = [.unlocated "error 1: a b" .error] := by
  decide +kernel

end LinkerReport

end BuildReport
