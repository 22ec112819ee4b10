import BuildReport.Tool

/-!
# Stopping tools

A run can be stopped by a signal that is given at most once. The tool is then killed, and so are the
processes that it has started, as far as the way of killing reaches them. What a killed tool had
written is still read, unless a process that survives keeps the streams open: then nothing is.

- `StopSignal`: given or not.
- `Killer`: how far killing reaches.
- `Hanging.stopped`: what becomes of a tool that is killed.
-/

namespace BuildReport

/-- A signal that is given at most once. All who hold it see the same. -/
structure StopSignal where
  given : Bool
  deriving DecidableEq, Repr

namespace StopSignal

/-- The signal before it is given. -/
def waiting : StopSignal := ⟨false⟩

/-- The signal after it is given, the first time or again. -/
def give (_ : StopSignal) : StopSignal := ⟨true⟩

@[simp] theorem give_give (s : StopSignal) : s.give.give = s.give := rfl

end StopSignal

/-- How far killing reaches: the tool with all that it has started, or the tool alone. -/
inductive Killer where
  | group
  | toolAlone
  deriving DecidableEq, Repr

/-- A tool that does not end by itself: what it has written, and how many processes it has started
that do not end either. -/
structure Hanging where
  stdout : List UInt8
  stderr : List UInt8
  children : Nat
  deriving DecidableEq, Repr

/-- How many of the started processes survive. -/
def Killer.survivors : Killer → Hanging → Nat
  | .group, _ => 0
  | .toolAlone, h => h.children

namespace Hanging

/-- What becomes of the tool when it is killed. -/
def stopped (h : Hanging) (k : Killer) : Outcome :=
  if k.survivors h = 0 then .finished false h.stdout h.stderr else .finished false [] []

/-- A tool that is killed before it has written anything. -/
def fresh : Hanging := ⟨[], [], 0⟩

/-- How many processes the tool has running, itself included. -/
def processes (h : Hanging) : Nat :=
  h.children + 1

end Hanging

end BuildReport
