import BuildReport.Toml

/-!
# Tables while they are written

A table may be written in pieces: by a header, by headers of tables inside it, by dotted keys. How a
table came about decides which later pieces may add to it. A header defines a table once, and may
still define one that was only named on the way to another. A dotted key adds to tables that dotted
keys made, and passes through those that a header named on its way. A list of tables grows by its
own headers alone, and a path through it leads into its last table. A value that is written out in
one place, an inline table too, is never added to.

- `Draft`: what a key holds while the file is read.
- `Draft.put?`: a value put at a dotted key.
- `Draft.define?`, `Draft.append?`: the two kinds of headers.
- `Draft.finish`: the tables as values.
-/

namespace BuildReport

namespace Toml

/-- How a table came about. -/
inductive Origin where
  | header
  | passed
  | dotted
  deriving DecidableEq, Repr

/-- What a key holds while the file is read: a value, a table, or a list of tables of which the
last comes first. -/
inductive Draft where
  | value (v : Toml)
  | table (origin : Origin) (entries : List (String × Draft))
  | tables (last : List (String × Draft)) (earlier : List (List (String × Draft)))

namespace Draft

/-- The keys of a table that is being written. -/
abbrev Entries := List (String × Draft)

/-- What a key holds. -/
def lookup (entries : Entries) (key : String) : Option Draft :=
  (entries.find? (·.1 == key)).map (·.2)

/-- The entries with what a key holds replaced. -/
def replace (entries : Entries) (key : String) (d : Draft) : Entries :=
  entries.map fun entry => if entry.1 == key then (key, d) else entry

/-- A value put at a dotted key. The table that the path leads to must be `open`: the one that the
key is written in, or one that dotted keys made. -/
def put? (isOpen : Bool) : (path : List String) → (key : String) → Toml → Entries → Option Entries
  | [], key, v, entries =>
    if isOpen && (lookup entries key).isNone then some (entries ++ [(key, .value v)]) else none
  | step :: path, key, v, entries =>
    match lookup entries step with
    | none =>
      (put? true path key v []).map fun inner => entries ++ [(step, .table .dotted inner)]
    | some (.value _) => none
    | some (.table .header _) => none
    | some (.table origin inner) =>
      (put? (origin == .dotted) path key v inner).map fun inner =>
        replace entries step (.table origin inner)
    | some (.tables last earlier) =>
      (put? false path key v last).map fun last => replace entries step (.tables last earlier)

/-- The entries with the table at a path changed. Tables that are missing on the way are made. -/
def change? (f : Entries → Option Entries) : (path : List String) → Entries → Option Entries
  | [], entries => f entries
  | step :: path, entries =>
    match lookup entries step with
    | none => (change? f path []).map fun inner => entries ++ [(step, .table .passed inner)]
    | some (.value _) => none
    | some (.table origin inner) =>
      (change? f path inner).map fun inner => replace entries step (.table origin inner)
    | some (.tables last earlier) =>
      (change? f path last).map fun last => replace entries step (.tables last earlier)

/-- A header for a table defines it, unless it is defined already. -/
def define? (key : String) (entries : Entries) : Option Entries :=
  match lookup entries key with
  | none => some (entries ++ [(key, .table .header [])])
  | some (.table .passed inner) => some (replace entries key (.table .header inner))
  | some _ => none

/-- A header for a list of tables begins a further one. -/
def append? (key : String) (entries : Entries) : Option Entries :=
  match lookup entries key with
  | none => some (entries ++ [(key, .tables [] [])])
  | some (.tables last earlier) => some (replace entries key (.tables [] (last :: earlier)))
  | some _ => none

mutual

/-- The value that a key holds in the end. -/
def toValue : Draft → Toml
  | .value v => v
  | .table _ entries => .table (finish entries)
  | .tables last earlier => .array ((.table (finish last) :: finishAll earlier).reverse)

/-- The entries of a table in the end. -/
def finish : List (String × Draft) → List (String × Toml)
  | [] => []
  | (key, d) :: entries => (key, toValue d) :: finish entries

/-- The tables of a list in the end. -/
def finishAll : List (List (String × Draft)) → List Toml
  | [] => []
  | entries :: rest => .table (finish entries) :: finishAll rest

end

end Draft

end Toml

end BuildReport
