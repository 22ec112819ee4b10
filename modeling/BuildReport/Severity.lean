import BuildReport.Text.Blank

/-!
# Severities

A tool puts a label of its own choice on each diagnostic. Two labels are known, whatever their
case and surroundings: `error` and `warning`. Any other label is kept in lower case. Diagnostics
are filed at two levels only, and everything that is no warning is filed with the errors.

- `Severity.ofLabel`, `Severity.label`: reading and writing labels.
- `Severity.level`: where a diagnostic is filed.
- `label_ofLabel`: the label read back is the trimmed one in lower case.
-/

namespace BuildReport

/-- What a tool calls a diagnostic. -/
inductive Severity where
  | error
  | warning
  | other (label : String)
  deriving DecidableEq, Repr

/-- The two levels at which diagnostics are filed. -/
inductive Level where
  | error
  | warning
  deriving DecidableEq, Repr

namespace Level

/-- The name of a level. -/
def label : Level → String
  | .error => "error"
  | .warning => "warning"

/-- The level with this name, which must be written exactly so. -/
def ofLabel? (label : String) : Option Level :=
  if label = "error" then some .error
  else if label = "warning" then some .warning
  else none

/-- Errors come before warnings. -/
def rank : Level → Nat
  | .error => 0
  | .warning => 1

end Level

namespace Severity

/-- A label without surrounding blanks and with its ASCII letters in lower case. -/
def plainLabel (label : String) : String :=
  String.ofList ((Text.trim label.toList).map Char.toLower)

/-- The severity with this label. -/
def ofLabel (label : String) : Severity :=
  if plainLabel label = "error" then .error
  else if plainLabel label = "warning" then .warning
  else .other (plainLabel label)

/-- The label of a severity. -/
def label : Severity → String
  | .error => "error"
  | .warning => "warning"
  | .other label => label

/-- The severity is `error` itself. -/
def isError : Severity → Bool
  | .error => true
  | _ => false

/-- The level at which a diagnostic of this severity is filed. -/
def level : Severity → Level
  | .warning => .warning
  | _ => .error

/-- A severity writes the plain form of the label it was read from. -/
theorem label_ofLabel (s : String) : (ofLabel s).label = plainLabel s := by
  unfold ofLabel
  split
  · next h => exact h.symm
  · split
    · next h => exact h.symm
    · rfl

/-- Only the label matters, up to its plain form. -/
theorem ofLabel_congr {s t : String} (h : plainLabel s = plainLabel t) : ofLabel s = ofLabel t := by
  simp [ofLabel, h]

end Severity

end BuildReport
