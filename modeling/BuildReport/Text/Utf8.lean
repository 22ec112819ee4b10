/-!
# Decoding UTF-8

Bytes are read by a machine that stands either between two characters or inside one. Bytes that
form no character are replaced: each longest run that could have begun a character, or else the one
byte that begins none, counts as one replacement character.

- `Decoder`: where the machine stands.
- `scan`: the characters read, with a hole for every ill-formed run.
- `decode`: the text, with U+FFFD in the holes.
- `decode?`: the text, if there is no hole.
- `pieces`: the bytes cut at every byte of one kind.
-/

namespace BuildReport

namespace Utf8

/-- Where the machine stands: between two characters, or inside one that still owes `owed + 1`
bytes, the next of them from `low` to `high`, with the bits read so far. -/
inductive Decoder where
  | between
  | inside (owed low high bits : Nat)
  deriving DecidableEq, Repr

/-- The machine after a byte that starts a character, and what that byte yields: a character of
one byte, a hole, or nothing yet. -/
def first (b : Nat) : List (Option Char) × Decoder :=
  if b < 0x80 then ([some (Char.ofNat b)], .between)
  else if 0xC2 ≤ b ∧ b ≤ 0xDF then ([], .inside 0 0x80 0xBF (b - 0xC0))
  else if b = 0xE0 then ([], .inside 1 0xA0 0xBF 0)
  else if b = 0xED then ([], .inside 1 0x80 0x9F 0xD)
  else if 0xE1 ≤ b ∧ b ≤ 0xEF then ([], .inside 1 0x80 0xBF (b - 0xE0))
  else if b = 0xF0 then ([], .inside 2 0x90 0xBF 0)
  else if 0xF1 ≤ b ∧ b ≤ 0xF3 then ([], .inside 2 0x80 0xBF (b - 0xF0))
  else if b = 0xF4 then ([], .inside 2 0x80 0x8F 4)
  else ([none], .between)

/-- One byte: what it yields, and the machine after it. A byte that cannot continue the open
character leaves a hole for it and starts afresh. -/
def step : Decoder → Nat → List (Option Char) × Decoder
  | .between, b => first b
  | .inside owed low high bits, b =>
    if low ≤ b ∧ b ≤ high then
      match owed with
      | 0 => ([some (Char.ofNat (bits * 64 + (b - 0x80)))], .between)
      | more + 1 => ([], .inside more 0x80 0xBF (bits * 64 + (b - 0x80)))
    else (none :: (first b).1, (first b).2)

/-- Reads on with the characters read so far, kept in reverse. -/
def scanFrom (read : List (Option Char)) : Decoder → List UInt8 → List (Option Char)
  | .between, [] => read.reverse
  | .inside .., [] => (none :: read).reverse
  | state, b :: rest =>
    scanFrom ((step state b.toNat).1.reverse ++ read) (step state b.toNat).2 rest

/-- The characters read from the bytes, with a hole for every ill-formed run. -/
def scan (state : Decoder) (bytes : List UInt8) : List (Option Char) :=
  scanFrom [] state bytes

theorem scanFrom_eq (read : List (Option Char)) (state : Decoder) (bytes : List UInt8) :
    scanFrom read state bytes = read.reverse ++ scan state bytes := by
  unfold scan
  induction bytes generalizing read state with
  | nil => cases state <;> simp [scanFrom]
  | cons b rest ih => rw [scanFrom, scanFrom, ih, ih ((step state b.toNat).1.reverse ++ [])]; simp

theorem scan_cons (state : Decoder) (b : UInt8) (rest : List UInt8) :
    scan state (b :: rest) = (step state b.toNat).1 ++ scan (step state b.toNat).2 rest := by
  rw [scan, scanFrom, scanFrom_eq]
  simp

/-- The character that stands for an ill-formed run of bytes. -/
def replacement : Char := '\uFFFD'

/-- The text that the bytes spell, with a replacement character for every ill-formed run. -/
def decode (bytes : List UInt8) : List Char :=
  (scan .between bytes).map (·.getD replacement)

/-- All values, if none is missing. -/
def allSome : List (Option Char) → Option (List Char)
  | [] => some []
  | none :: _ => none
  | some c :: rest => (allSome rest).map (c :: ·)

/-- The text that the bytes spell, if they are well-formed throughout. -/
def decode? (bytes : List UInt8) : Option (List Char) :=
  allSome (scan .between bytes)

/-- Reads on with the finished pieces and the open one, both kept in reverse. -/
def piecesFrom (stop : UInt8) (done : List (List UInt8)) (piece : List UInt8) :
    List UInt8 → List (List UInt8)
  | [] => (piece.reverse :: done).reverse
  | b :: rest =>
    if b = stop then piecesFrom stop (piece.reverse :: done) [] rest
    else piecesFrom stop done (b :: piece) rest

/-- The bytes cut at every `stop`, of which none is left. -/
def pieces (stop : UInt8) (bytes : List UInt8) : List (List UInt8) :=
  piecesFrom stop [] [] bytes

end Utf8

end BuildReport
