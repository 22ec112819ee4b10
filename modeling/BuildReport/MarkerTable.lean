import BuildReport.Marker

/-!
# Marker tables

A marker table keeps the markers of every file that has any. Files are told apart by their trails,
and each has at most one entry.

- `MarkerTable.get`: the markers of a file, none if it has no entry.
- `MarkerTable.set`: replaces the markers of a file; an empty list takes its entry away.
- `get_set_self`, `get_set_other`: what setting does to the markers of any file.
-/

namespace BuildReport

/-- The markers of each file. -/
structure MarkerTable where
  entries : List (Trail × List Marker)
  nodup : (entries.map (·.1)).Nodup
  deriving Repr

namespace MarkerTable

/-- The table without markers. -/
def empty : MarkerTable := ⟨[], List.nodup_nil⟩

instance : Inhabited MarkerTable := ⟨empty⟩

/-- The files that have an entry. -/
def files (t : MarkerTable) : List Trail :=
  t.entries.map (·.1)

/-- The markers of a file. -/
def get (t : MarkerTable) (file : Trail) : List Marker :=
  ((t.entries.find? (·.1 == file)).map (·.2)).getD []

/-- The table without the entry of a file. -/
def erase (t : MarkerTable) (file : Trail) : MarkerTable where
  entries := t.entries.filter (·.1 ≠ file)
  nodup := t.nodup.sublist (List.filter_sublist.map _)

theorem not_mem_files_erase (t : MarkerTable) (file : Trail) : file ∉ (t.erase file).files := by
  simp [files, erase]

/-- The table with a new entry for a file. -/
def put (t : MarkerTable) (file : Trail) (markers : List Marker) : MarkerTable where
  entries := (t.erase file).entries ++ [(file, markers)]
  nodup := by
    rw [List.map_append, List.nodup_append]
    refine ⟨(t.erase file).nodup, by simp, ?_⟩
    intro a ha b hb hab
    simp only [List.map_cons, List.map_nil, List.mem_singleton] at hb
    subst hab hb
    exact not_mem_files_erase t _ ha

/-- The table with the markers of a file replaced. -/
def set (t : MarkerTable) (file : Trail) (markers : List Marker) : MarkerTable :=
  if markers = [] then t.erase file else t.put file markers

/-- How many markers the table holds. -/
def count (t : MarkerTable) : Nat :=
  (t.entries.map (·.2.length)).foldr (· + ·) 0

theorem find?_erase_self (t : MarkerTable) (file : Trail) :
    (t.erase file).entries.find? (·.1 == file) = none := by
  rw [List.find?_eq_none]
  intro e he
  simpa using (List.mem_filter.mp he).2

@[simp] theorem get_erase_self (t : MarkerTable) (file : Trail) :
    (t.erase file).get file = [] := by
  rw [get, find?_erase_self]
  rfl

theorem get_erase_other (t : MarkerTable) {file other : Trail} (h : other ≠ file) :
    (t.erase file).get other = t.get other := by
  have hp : ∀ e : Trail × List Marker,
      decide (decide (e.1 ≠ file) = true ∧ (e.1 == other) = true) = (e.1 == other) := by
    intro e
    by_cases he : e.1 = other
    · subst he; simp [h]
    · simp [he]
  simp only [get, erase, List.find?_filter, hp]

theorem get_put_self (t : MarkerTable) (file : Trail) (markers : List Marker) :
    (t.put file markers).get file = markers := by
  rw [get, put, List.find?_append, find?_erase_self]
  simp

theorem get_put_other (t : MarkerTable) {file other : Trail} (h : other ≠ file)
    (markers : List Marker) : (t.put file markers).get other = t.get other := by
  rw [← get_erase_other t h, get, put, List.find?_append, get]
  simp [Ne.symm h]

/-- Setting replaces the markers of the file. -/
@[simp] theorem get_set_self (t : MarkerTable) (file : Trail) (markers : List Marker) :
    (t.set file markers).get file = markers := by
  unfold set
  split
  · next h => simp [h]
  · exact get_put_self t file markers

/-- Setting leaves every other file alone. -/
theorem get_set_other (t : MarkerTable) {file other : Trail} (h : other ≠ file)
    (markers : List Marker) : (t.set file markers).get other = t.get other := by
  unfold set
  split
  · exact get_erase_other t h
  · exact get_put_other t h markers

end MarkerTable

end BuildReport
