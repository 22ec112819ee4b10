/-!
# Decimal digits and numbers

A report counts in decimal digits of any script: Unicode's general category `Nd` consists of runs
of ten characters, a zero and its nine successors. Only the ASCII run is read as a number.

- `isDigit`: the character is a decimal digit of some script.
- `number?`: the value of a run of ASCII digits, of any length.
- `lineNumber?`: the same, bounded by the largest signed 64-bit integer.
-/

namespace BuildReport

namespace Text

/-- The zero of every run of ten decimal digits in Unicode. -/
def digitZeros : List Nat :=
  [
    0x30, 0x660, 0x6F0, 0x7C0, 0x966, 0x9E6, 0xA66, 0xAE6, 0xB66, 0xBE6, 0xC66, 0xCE6, 0xD66,
    0xDE6, 0xE50, 0xED0, 0xF20, 0x1040, 0x1090, 0x17E0, 0x1810, 0x1946, 0x19D0, 0x1A80, 0x1A90,
    0x1B50, 0x1BB0, 0x1C40, 0x1C50, 0xA620, 0xA8D0, 0xA900, 0xA9D0, 0xA9F0, 0xAA50, 0xABF0,
    0xFF10, 0x104A0, 0x10D30, 0x10D40, 0x11066, 0x110F0, 0x11136, 0x111D0, 0x112F0, 0x11450,
    0x114D0, 0x11650, 0x116C0, 0x116D0, 0x116DA, 0x11730, 0x118E0, 0x11950, 0x11BF0, 0x11C50,
    0x11D50, 0x11DA0, 0x11F50, 0x16130, 0x16A60, 0x16AC0, 0x16B50, 0x16D70, 0x1CCF0, 0x1D7CE,
    0x1D7D8, 0x1D7E2, 0x1D7EC, 0x1D7F6, 0x1E140, 0x1E2F0, 0x1E4F0, 0x1E5F1, 0x1E950, 0x1FBF0
  ]

/-- The character is a decimal digit of some script. -/
def isDigit (c : Char) : Bool :=
  digitZeros.any fun first => first ≤ c.toNat && c.toNat < first + 10

/-- The value of an ASCII digit. -/
def asciiDigit? (c : Char) : Option Nat :=
  if '0' ≤ c ∧ c ≤ '9' then some (c.toNat - '0'.toNat) else none

/-- Reads on from a value already read. -/
def numberFrom (value : Nat) : List Char → Option Nat
  | [] => some value
  | c :: rest =>
    match asciiDigit? c with
    | some d => numberFrom (value * 10 + d) rest
    | none => none

/-- The value of a non-empty run of ASCII digits. A digit of another script has no value here. -/
def number? : List Char → Option Nat
  | [] => none
  | c :: rest => numberFrom 0 (c :: rest)

/-- The largest line number that a report can carry. -/
def maxLineNumber : Nat := 9223372036854775807

/-- The value of a run of ASCII digits, if a line number can be that large. -/
def lineNumber? (digits : List Char) : Option Nat :=
  match number? digits with
  | some n => if n ≤ maxLineNumber then some n else none
  | none => none

theorem numberFrom_cons {c : Char} {d : Nat} (h : asciiDigit? c = some d) (value : Nat)
    (rest : List Char) : numberFrom value (c :: rest) = numberFrom (value * 10 + d) rest := by
  simp [numberFrom, h]

end Text

end BuildReport
