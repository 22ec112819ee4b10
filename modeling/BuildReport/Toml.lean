/-!
# TOML values

A settings file is a TOML table. Of a float and of a date only what the settings need to know is
kept: whether the float is too large for one, and that there is a date.

- `Toml`: the values.
- `Toml.lookup`: the value of a key.
- `Toml.representable`: every number in the value can be stored.
-/

namespace BuildReport

/-- A TOML value. The keys of a table stand in the order in which they were first written. -/
inductive Toml where
  | string (value : String)
  | integer (value : Int)
  | float (tooLarge : Bool)
  | boolean (value : Bool)
  | date
  | array (items : List Toml)
  | table (entries : List (String × Toml))
  deriving Repr

namespace Toml

/-- The value of a key. -/
def lookup (entries : List (String × Toml)) (key : String) : Option Toml :=
  (entries.find? (·.1 == key)).map (·.2)

/-- The text of a string. -/
def asString? : Toml → Option String
  | .string value => some value
  | _ => none

/-- The value of a boolean. -/
def asBool? : Toml → Option Bool
  | .boolean value => some value
  | _ => none

/-- The texts of a list of strings. -/
def asStrings? : Toml → Option (List String)
  | .array items => items.mapM asString?
  | _ => none

mutual

/-- Every number in the value can be stored: an integer in 128 bits, with or without a sign, and a
float as a double. -/
def representable : Toml → Bool
  | .integer value => -2 ^ 127 ≤ value && value < 2 ^ 128
  | .float tooLarge => !tooLarge
  | .array items => allRepresentable items
  | .table entries => allEntriesRepresentable entries
  | _ => true

/-- Every item can be stored. -/
def allRepresentable : List Toml → Bool
  | [] => true
  | item :: items => representable item && allRepresentable items

/-- Every entry can be stored. -/
def allEntriesRepresentable : List (String × Toml) → Bool
  | [] => true
  | (_, value) :: entries => representable value && allEntriesRepresentable entries

end

end Toml

end BuildReport
