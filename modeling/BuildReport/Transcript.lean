/-!
# Transcripts

A transcript shows a person which tools were run. Lines are put behind it one after the other, and
it can be emptied.

- `Transcript.append`: further lines.
- `append_append`: lines put behind in two parts are lines put behind at once.
-/

namespace BuildReport

/-- The lines of a transcript, the oldest first. -/
structure Transcript where
  lines : List String
  deriving DecidableEq, Repr

namespace Transcript

/-- The transcript without lines. -/
def empty : Transcript := ⟨[]⟩

/-- The transcript with further lines behind it. -/
def append (t : Transcript) (lines : List String) : Transcript :=
  ⟨t.lines ++ lines⟩

/-- An emptied transcript. -/
def clear (_ : Transcript) : Transcript := empty

@[simp] theorem append_nil (t : Transcript) : t.append [] = t := by
  simp [append]

theorem append_append (t : Transcript) (a b : List String) :
    (t.append a).append b = t.append (a ++ b) := by
  simp [append]

end Transcript

end BuildReport
