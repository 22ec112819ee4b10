import BuildReport.Text.Scan
import BuildReport.Text.Utf8

/-!
# Environments

An environment is a list of settings, each a name, an equals sign and a value. A reference `${name}`
in a text stands for the value of that name. References are replaced once, from left to right: what
comes out of the environment is never searched for references.

- `Environment.value?`: the value of a name.
- `upToBrace`: the name of a reference and the text after it.
- `Environment.expand`: a text with its references replaced.
- `expand_of_no_dollar`: a text without a dollar sign stands for itself.
-/

namespace BuildReport

/-- Names with their values, in the order in which they are looked up. -/
structure Environment where
  settings : List (String × String)
  deriving DecidableEq, Repr, Inhabited

namespace Environment

/-- The setting that a name, an equals sign and a value stand for. A value that is no text counts as
the empty one. A name that is no text is never asked for. -/
def setting? (bytes : List UInt8) : Option (String × String) :=
  match bytes.dropWhile (· ≠ 61) with
  | [] => none
  | _ :: value =>
    (Utf8.decode? (bytes.takeWhile (· ≠ 61))).map fun name =>
      (String.ofList name, String.ofList ((Utf8.decode? value).getD []))

/-- The environment written in one block, a NUL behind each setting. -/
def ofBlock (block : List UInt8) : Environment where
  settings := (Utf8.pieces 0 block).filterMap setting?

/-- The value that a setting gives to a name: what follows the name and an equals sign. -/
def valueIn? (name : List Char) (setting : String × String) : Option (List Char) :=
  Text.afterWord (name ++ ['=']) (setting.1.toList ++ '=' :: setting.2.toList)

/-- The value of a name, which the first setting that begins with it gives. No name holds a NUL
character. -/
def value? (env : Environment) (name : List Char) : Option (List Char) :=
  if Char.ofNat 0 ∈ name then none else env.settings.findSome? (valueIn? name)

/-- The text before the first closing brace, and the text after it. -/
def upToBrace : List Char → Option (List Char × List Char)
  | [] => none
  | c :: s =>
    if c = '}' then some ([], s) else (upToBrace s).map fun (name, rest) => (c :: name, rest)

theorem length_upToBrace {s name rest : List Char} (h : upToBrace s = some (name, rest)) :
    rest.length < s.length := by
  induction s generalizing name rest with
  | nil => cases h
  | cons c s ih =>
    simp only [upToBrace] at h
    split at h
    · cases h; simp
    · obtain ⟨⟨n, r⟩, hr, heq⟩ := Option.map_eq_some_iff.mp h
      cases heq
      exact Nat.lt_succ_of_lt (ih hr)

/-- What a reference stands for. A name without a value stands for nothing, and so does the empty
name. -/
def referenced (env : Environment) (name : List Char) : List Char :=
  if name = [] then [] else (env.value? name).getD []

/-- The text with every reference replaced. An opening brace that is never closed ends the search:
from there on the text stands for itself. -/
def expandChars (env : Environment) : List Char → List Char
  | [] => []
  | '$' :: '{' :: s =>
    match _h : upToBrace s with
    | some (name, rest) => env.referenced name ++ expandChars env rest
    | none => '$' :: '{' :: s
  | c :: s => c :: expandChars env s
termination_by s => s.length
decreasing_by
  · have := length_upToBrace _h
    simp only [List.length_cons]
    omega
  · simp

/-- The text with every reference replaced. -/
def expand (env : Environment) (text : String) : String :=
  String.ofList (env.expandChars text.toList)

@[simp] theorem expandChars_nil (env : Environment) : env.expandChars [] = [] := by
  rw [expandChars]

theorem expandChars_cons (env : Environment) {c : Char} (h : c ≠ '$') (s : List Char) :
    env.expandChars (c :: s) = c :: env.expandChars s := by
  rw [expandChars]
  rintro _ rfl
  exact absurd rfl h

/-- A text without a dollar sign stands for itself. -/
theorem expand_of_no_dollar (env : Environment) {s : List Char} (h : '$' ∉ s) :
    env.expandChars s = s := by
  induction s with
  | nil => simp
  | cons c s ih =>
    simp only [List.mem_cons, not_or] at h
    rw [expandChars_cons env (Ne.symm h.1), ih h.2]

end Environment

end BuildReport
