/-!
# Glob patterns

A pattern describes paths by their bytes. A star stands for any bytes but separators, two stars that
make up a whole component stand for any number of components, and braces list alternatives.

- `Glob.Token`: the pieces of a pattern.
- `Glob.ends`: what may be left of a text after a pattern has matched its beginning.
- `Glob.isMatch`: the pattern matches a whole path.
-/

namespace BuildReport

namespace Glob

/-- A piece of a pattern. -/
inductive Token where
  | literal (c : Char)
  | anyByte
  | star
  | leadingComponents
  | innerComponents
  | trailingComponents
  | oneOf (negated : Bool) (ranges : List (Char × Char))
  | alternatives (branches : List (List Token))
  deriving Repr

/-- The bytes of a character. -/
def bytesOf (c : Char) : List UInt8 :=
  String.utf8EncodeChar c

/-- The bytes of a text. -/
def bytes (s : String) : List UInt8 :=
  s.toList.flatMap bytesOf

/-- The separator of components. -/
def separator : UInt8 := 47

/-- The dot before an extension. -/
def dot : UInt8 := 46

/-- What is left after the given bytes. -/
def afterBytes : (front s : List UInt8) → Option (List UInt8)
  | [], s => some s
  | _ :: _, [] => none
  | b :: front, c :: s => if b = c then afterBytes front s else none

/-- A class matches single bytes. The bytes of the two ends of a range count one by one, but the
last byte of the lower end and the first of the upper one span a range of bytes. -/
def byteRanges (range : Char × Char) : List (UInt8 × UInt8) :=
  let low := bytesOf range.1
  let high := bytesOf range.2
  let single := fun b => (b, b)
  if range.1 = range.2 then low.map single
  else low.dropLast.map single ++ [(low.getLastD 0, high.headD 0)] ++ high.tail.map single

/-- The class contains the byte. -/
def inClass (negated : Bool) (ranges : List (Char × Char)) (b : UInt8) : Bool :=
  (ranges.flatMap byteRanges).any (fun (low, high) => low ≤ b && b ≤ high) != negated

/-- The text itself and all that is left of it after one byte or more that satisfy the condition. -/
def suffixes (p : UInt8 → Bool) : List UInt8 → List (List UInt8)
  | [] => [[]]
  | b :: s => if p b then (b :: s) :: suffixes p s else [b :: s]

/-- All that is left of a text after a separator in it. -/
def afterSeparators : List UInt8 → List (List UInt8)
  | [] => []
  | b :: s => if b = separator then s :: afterSeparators s else afterSeparators s

/-- What is left of a text after one separator at its start, or after that and any bytes up to a
later one. -/
def innerEnds : List UInt8 → List (List UInt8)
  | [] => []
  | b :: s => if b = separator then s :: afterSeparators s else []

/-- The alternative is empty, or made up of nothing but empty alternatives. -/
def isVoid : List Token → Bool
  | [] => true
  | .alternatives branches :: rest => allVoid branches && isVoid rest
  | _ :: _ => false
where
  /-- Every alternative is void. -/
  allVoid : List (List Token) → Bool
    | [] => true
    | branch :: branches => isVoid branch && allVoid branches

mutual

/-- What may be left of a text after a token has matched its beginning. -/
def endsOfToken : Token → List UInt8 → List (List UInt8)
  | .literal c, s => (afterBytes (bytesOf c) s).toList
  | .anyByte, s =>
    match s with
    | [] => []
    | b :: s => if b = separator then [] else [s]
  | .star, s => suffixes (· ≠ separator) s
  | .leadingComponents, s => s :: afterSeparators s
  | .innerComponents, s => innerEnds s
  | .trailingComponents, s =>
    match s with
    | [] => []
    | b :: s => if b = separator then suffixes (fun _ => true) s else []
  | .oneOf negated ranges, s =>
    match s with
    | [] => []
    | b :: s => if inClass negated ranges b then [s] else []
  | .alternatives branches, s =>
    if isVoid.allVoid branches then [s] else endsOfBranches branches s

/-- What may be left of a text after one of the alternatives has matched its beginning. Void
alternatives do not count. -/
def endsOfBranches : List (List Token) → List UInt8 → List (List UInt8)
  | [], _ => []
  | branch :: branches, s =>
    (if isVoid branch then [] else ends branch [s]) ++ endsOfBranches branches s

/-- What may be left of one of the texts after all tokens, one after the other, have matched its
beginning. -/
def ends : List Token → List (List UInt8) → List (List UInt8)
  | [], texts => texts
  | token :: tokens, texts => ends tokens (texts.flatMap (endsOfToken token)).eraseDups

end

/-- The token is a character that stands for itself. -/
def isLiteral : Token → Bool
  | .literal _ => true
  | _ => false

/-- The token is this character. -/
def isChar (c : Char) : Token → Bool
  | .literal d => c == d
  | _ => false

/-- The pattern is decided by the last component of a path: it is a name in any directory, or it
ends with an extension and is neither a text nor the end of one. Such a pattern matches no path
that ends with a dot. -/
def needsName (tokens : List Token) : Bool :=
  match tokens with
  | .leadingComponents :: rest =>
    if rest.all isLiteral then !rest.isEmpty && !rest.any (isChar '/') else endsWithExtension tokens
  | _ => !tokens.all isLiteral && endsWithExtension tokens
where
  /-- The last tokens are a dot and other characters, none of them a separator. -/
  endsWithExtension (tokens : List Token) : Bool :=
    match tokens.reverse.dropWhile fun t => isLiteral t && !isChar '/' t && !isChar '.' t with
    | t :: _ => isChar '.' t
    | [] => false

/-- The tokens stand for the whole path. Two stars alone stand for any path. -/
def matchesAll (tokens : List Token) (path : List UInt8) : Bool :=
  match tokens with
  | [.leadingComponents] => true
  | _ => (ends tokens [path]).any List.isEmpty

/-- The pattern matches a whole path. -/
def isMatch (tokens : List Token) (path : List UInt8) : Bool :=
  if path.getLast? == some dot && needsName tokens then false else matchesAll tokens path

end Glob

end BuildReport
