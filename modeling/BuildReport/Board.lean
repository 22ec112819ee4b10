import BuildReport.Placement

/-!
# The board

The board shows what the last passes had to say: the markers of all files, and notices, the
messages of diagnostics that have no place. Markers are replaced by later passes. Notices pile up
until they are taken.

- `Notices`: the messages not yet taken, unless they are only written to the log.
- `Board.reconcile`: a pass over new diagnostics.
- `Board.clear`, `Board.clearFile`: taking markers away.
-/

namespace BuildReport

/-- The messages not yet taken. Where `kept` is false they go to the log alone. -/
structure Notices where
  kept : Bool
  messages : List String
  deriving DecidableEq, Repr

namespace Notices

/-- No messages so far. -/
def none (kept : Bool) : Notices := ⟨kept, []⟩

/-- The notices with further messages behind them. -/
def append (n : Notices) (messages : List String) : Notices :=
  if n.kept then { n with messages := n.messages ++ messages } else n

/-- The messages, and the notices without them. -/
def take (n : Notices) : List String × Notices :=
  (n.messages, { n with messages := [] })

@[simp] theorem append_nil (n : Notices) : n.append [] = n := by
  cases n with
  | mk kept messages => cases kept <;> simp [append]

end Notices

/-- The markers of all files, and the messages without a place. -/
structure Board where
  store : MarkerStore
  notices : Notices
  deriving Repr

namespace Board

/-- The board with nothing on it, which keeps notices. -/
def empty : Board := ⟨.empty, .none true⟩

/-- A pass: the tables in scope show the new diagnostics, and those without a place are noticed. -/
def reconcile (b : Board) (base : Option Path) (documents : List Document)
    (found : List Diagnostic) (scope : Scope) : Board :=
  let desk := Placement.desk base documents
  { store := b.store.replace scope (found.filterMap (Placement.place? desk))
    notices := b.notices.append
      ((found.filter fun d => (Placement.place? desk d).isNone).map (·.message)) }

/-- The board without markers. -/
def clear (b : Board) : Board :=
  { b with store := .empty }

/-- The board without the markers of a file. -/
def clearFile (b : Board) (file : Trail) : Board :=
  { b with store := b.store.eraseFile file }

/-- The messages not yet taken, and the board without them. -/
def takeNotices (b : Board) : List String × Board :=
  (b.notices.take.1, { b with notices := b.notices.take.2 })

end Board

end BuildReport
