import BuildReport.Text.Digit
import BuildReport.Text.Scan
import BuildReport.Toml

/-!
# Unquoted values in TOML

What stands unquoted behind an equals sign is a boolean, an integer, a float or a date. Each is
recognised by its whole text. Digits may be set apart by single underscores, which stand between
two digits. A decimal integer has no leading zero.

- `Scalar.integer?`, `Scalar.float?`, `Scalar.isDate`: the kinds that have a form of their own.
- `Scalar.ofText?`: the value of an unquoted text.
-/

namespace BuildReport

namespace Toml

namespace Scalar

/-- The value of a digit of a base up to sixteen. -/
def digit? (base : Nat) (c : Char) : Option Nat :=
  let value :=
    if '0' ≤ c ∧ c ≤ '9' then c.toNat - '0'.toNat
    else if 'a' ≤ c ∧ c ≤ 'f' then c.toNat - 'a'.toNat + 10
    else if 'A' ≤ c ∧ c ≤ 'F' then c.toNat - 'A'.toNat + 10
    else 16
  if value < base then some value else none

/-- Reads on behind a digit, with the value of the digits so far. -/
def digitsFrom (base value : Nat) : List Char → Option Nat
  | [] => some value
  | '_' :: c :: rest =>
    match digit? base c with
    | some d => digitsFrom base (value * base + d) rest
    | none => none
  | c :: rest =>
    match digit? base c with
    | some d => digitsFrom base (value * base + d) rest
    | none => none

/-- The value of one or more digits, any two of them with an underscore between them or not. -/
def digits? (base : Nat) : List Char → Option Nat
  | [] => none
  | c :: rest =>
    match digit? base c with
    | some d => digitsFrom base d rest
    | none => none

/-- The value of a decimal number without a sign and without a leading zero. -/
def plainNumber? : List Char → Option Nat
  | ['0'] => some 0
  | '0' :: _ => none
  | s => digits? 10 s

/-- The text without the sign it may start with, and whether it was a minus sign. -/
def sign : List Char → Bool × List Char
  | '-' :: s => (true, s)
  | '+' :: s => (false, s)
  | s => (false, s)

/-- The integer with this text. -/
def integer? : List Char → Option Int
  | '0' :: 'x' :: s => (digits? 16 s).map Int.ofNat
  | '0' :: 'o' :: s => (digits? 8 s).map Int.ofNat
  | '0' :: 'b' :: s => (digits? 2 s).map Int.ofNat
  | s =>
    let (negative, s) := sign s
    (plainNumber? s).map fun n => if negative then -(n : Int) else (n : Int)

/-- The two parts of a text around the first character that satisfies the condition. -/
def cut (p : Char → Bool) (s : List Char) : List Char × Option (List Char) :=
  (s.takeWhile (!p ·), match s.dropWhile (!p ·) with
    | [] => none
    | _ :: rest => some rest)

/-- The least positive number that rounds to no double: the greatest double and half the distance
to what would be the next. -/
def doubleLimit : Nat := Nat.pow 2 1024 - Nat.pow 2 970

/-- The number `value * 10 ^ exponent` rounds to no double. The value has at most `size` decimal
digits; far from the limit the exponent decides. -/
def tooLarge (value size : Nat) (exponent : Int) : Bool :=
  if value = 0 ∨ exponent + size < 300 then false
  else if exponent > 400 then true
  else if 0 ≤ exponent then doubleLimit ≤ value * Nat.pow 10 exponent.toNat
  else doubleLimit * Nat.pow 10 (-exponent).toNat ≤ value

/-- The value of an exponent, leading zeros allowed. -/
def exponent? (s : List Char) : Option Int :=
  let (negative, s) := sign s
  (digits? 10 s).map fun n => if negative then -(n : Int) else (n : Int)

/-- The float with this text, which has a fraction, an exponent, or both. -/
def float? (s : List Char) : Option Toml := do
  let (_, s) := sign s
  if s = "inf".toList ∨ s = "nan".toList then
    return .float false
  let (mantissa, exponent) := cut (fun c => c = 'e' || c = 'E') s
  let (whole, fraction) := cut (· = '.') mantissa
  guard (fraction.isSome || exponent.isSome)
  let _ ← plainNumber? whole
  let _ ← (fraction.getD ['0'] |> digits? 10)
  let e ← exponent? (exponent.getD ['0'])
  let places := (fraction.getD []).filter (· ≠ '_')
  let all := whole.filter (· ≠ '_') ++ places
  let value ← digits? 10 all
  return .float (tooLarge value all.length (e - places.length))

/-- The value of exactly `n` decimal digits, and the text after them. -/
def fixed? (n : Nat) (s : List Char) : Option (Nat × List Char) :=
  if (s.take n).length = n then (Text.number? (s.take n)).map fun value => (value, s.drop n)
  else none

/-- How many days a month has. -/
def daysIn (year month : Nat) : Nat :=
  if month = 2 then
    if year % 4 = 0 ∧ (year % 100 ≠ 0 ∨ year % 400 = 0) then 29 else 28
  else if month ∈ [4, 6, 9, 11] then 30
  else 31

/-- The text after a day of a year. -/
def afterDay? (s : List Char) : Option (List Char) := do
  let (year, s) ← fixed? 4 s
  let s ← Text.afterWord ['-'] s
  let (month, s) ← fixed? 2 s
  let s ← Text.afterWord ['-'] s
  let (day, s) ← fixed? 2 s
  guard (1 ≤ month && month ≤ 12 && 1 ≤ day && day ≤ daysIn year month)
  return s

/-- The text after the seconds of a time, with a fraction or without; they may be missing. -/
def afterSeconds? (s : List Char) : Option (List Char) :=
  match Text.afterWord [':'] s with
  | none => some s
  | some s => do
    let (second, s) ← fixed? 2 s
    guard (second ≤ 60)
    match Text.afterWord ['.'] s with
    | none => return s
    | some s => (Text.digits? s).map (·.2)

/-- The text after the hour and the minute of a time. -/
def afterMinute? (s : List Char) : Option (List Char) := do
  let (hour, s) ← fixed? 2 s
  let s ← Text.afterWord [':'] s
  let (minute, s) ← fixed? 2 s
  guard (hour ≤ 23 && minute ≤ 59)
  return s

/-- The text after a time of a day. -/
def afterTime? (s : List Char) : Option (List Char) :=
  (afterMinute? s).bind afterSeconds?

/-- The text is a distance from universal time, or missing. -/
def isOffset : List Char → Bool
  | [] => true
  | ['Z'] => true
  | ['z'] => true
  | '+' :: s => afterMinute? s == some []
  | '-' :: s => afterMinute? s == some []
  | _ => false

/-- The text is a day, a time, or a day and a time, these perhaps at a distance from universal
time. -/
def isDate (s : List Char) : Bool :=
  match afterDay? s with
  | none => afterTime? s == some []
  | some [] => true
  | some (c :: rest) => (c = 'T' || c = 't' || c = ' ') && (afterTime? rest).any isOffset

/-- The value of an unquoted text. -/
def ofText? (s : List Char) : Option Toml :=
  if s = "true".toList then some (.boolean true)
  else if s = "false".toList then some (.boolean false)
  else
    match integer? s with
    | some n => some (.integer n)
    | none =>
      match float? s with
      | some value => some value
      | none => if isDate s then some .date else none

/-- The character may stand in an unquoted value. -/
def isPart (c : Char) : Bool :=
  c.isAlphanum || c = '+' || c = '-' || c = '_' || c = '.' || c = ':'

/-- The text of an unquoted value, and what follows. One blank may stand in it, between a day and a
time. -/
def span (s : List Char) : List Char × List Char :=
  let first := s.takeWhile isPart
  match s.dropWhile isPart with
  | ' ' :: c :: rest =>
    if afterDay? first = some [] ∧ (Text.asciiDigit? c).isSome then
      (first ++ ' ' :: (c :: rest).takeWhile isPart, (c :: rest).dropWhile isPart)
    else (first, ' ' :: c :: rest)
  | rest => (first, rest)

end Scalar

/-- An unquoted value, and what follows. -/
def scalar? (s : List Char) : Option (Toml × List Char) :=
  let (text, rest) := Scalar.span s
  (Scalar.ofText? text).map fun value => (value, rest)

end Toml

end BuildReport
