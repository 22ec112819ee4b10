import BuildReport.Proofs.Shown

/-!
# The order of diagnostics

Diagnostics that are shown at different spots may be found in any order: a snapshot sorts them, and
a warning is taken back because of the errors on its line, whichever of them was found first. What
is left of the order is seen within a spot. There the markers stand as they were found.

- `Diagnostic.spot?`: where the marker of a diagnostic is shown.
- `Rearranged`: the diagnostics are in another order, but not those of one spot.
- `filter_markers_reconcile`: after a pass, the markers at a spot are the same.
- `Board.snapshot_reconcile_rearranged`: and so is the snapshot.
-/

namespace BuildReport

/-! ## Spots -/

/-- Where a marker is shown: its file, its line, its first column and its level. -/
structure Spot where
  file : Trail
  line : Nat
  startColumn : Nat
  level : Level
  deriving DecidableEq, Repr

/-- The spot of a marker of a file. -/
def Marker.spot (file : Trail) (m : Marker) : Spot where
  file
  line := m.line
  startColumn := m.startColumn
  level := m.level

theorem Marker.spot_eq_iff {file other : Trail} {a b : Marker} :
    a.spot file = b.spot other ↔ file = other ∧ a.key = b.key := by
  rw [Marker.key_eq_iff, Marker.spot, Marker.spot, Spot.mk.injEq]

/-- The spot of a diagnostic that has a place. -/
def Diagnostic.spot? (base : Option Path) (documents : List Document) (d : Diagnostic) :
    Option Spot :=
  if d.HasPlace documents then some ((d.mark base documents).spot (d.home base documents))
  else none

/-- At every spot the two lists have the same diagnostics in the same order. Diagnostics of different
spots may stand in any order, and so may those without a place. -/
def Rearranged (base : Option Path) (documents : List Document)
    (found found' : List Diagnostic) : Prop :=
  ∀ spot, found.filter (·.spot? base documents = some spot) =
    found'.filter (·.spot? base documents = some spot)

section Pass

variable {base : Option Path} {documents : List Document} {found found' : List Diagnostic}
  {file : Trail} {m : Marker}

theorem Diagnostic.spot?_eq_some_iff {d : Diagnostic} :
    d.spot? base documents = some (m.spot file) ↔
      d.HasPlace documents ∧ d.home base documents = file ∧ (d.mark base documents).key = m.key := by
  unfold spot?
  split
  · next h => rw [Option.some.injEq, Marker.spot_eq_iff, and_iff_right h]
  · next h => exact iff_of_false nofun fun h' => h h'.1

/-! ## The markers at a spot -/

/-- The markers of a file that tie come from the diagnostics of one spot. -/
theorem filter_marksAt (p : Diagnostic → Bool) :
    (marksAt base documents (found.filter p) file).filter (·.key = m.key) =
      ((found.filter (·.spot? base documents = some (m.spot file))).filter p).map
        (·.mark base documents) := by
  rw [marksAt, List.filter_map, List.filter_filter, List.filter_filter, List.filter_filter]
  refine congrArg _ (List.filter_congr fun d _ => ?_)
  rw [Bool.eq_iff_iff]
  simp only [Bool.and_eq_true, Function.comp_apply, decide_eq_true_eq,
    Diagnostic.spot?_eq_some_iff]
  tauto

theorem Rearranged.filter_marksAt (h : Rearranged base documents found found')
    (p : Diagnostic → Bool) (file : Trail) (m : Marker) :
    (marksAt base documents (found.filter p) file).filter (·.key = m.key) =
      (marksAt base documents (found'.filter p) file).filter (·.key = m.key) := by
  rw [BuildReport.filter_marksAt, BuildReport.filter_marksAt, h]

namespace MarkerStore

theorem filter_unshadowed (errors warnings : List Marker) (p : Marker → Bool) :
    (unshadowed errors warnings).filter p = unshadowed errors (warnings.filter p) :=
  List.filter_comm _ _ _

/-- Which errors there are decides what is taken back, and not their order. -/
theorem unshadowed_congr {errors errors' : List Marker} (h : ∀ e, e ∈ errors ↔ e ∈ errors')
    (warnings : List Marker) : unshadowed errors warnings = unshadowed errors' warnings := by
  simp only [unshadowed, h]

end MarkerStore

variable (b : Board) (scope : Scope)

/-- **After a pass, the markers that tie are the same**, whichever way the diagnostics of different
spots are ordered. -/
theorem Rearranged.filter_markers (h : Rearranged base documents found found') (level : Level)
    (file : Trail) (m : Marker) :
    ((b.reconcile base documents found scope).store.markers level file).filter (·.key = m.key) =
      ((b.reconcile base documents found' scope).store.markers level file).filter
        (·.key = m.key) := by
  have herrors : ∀ m : Marker,
      ((b.reconcile base documents found scope).store.markers .error file).filter
          (·.key = m.key) =
        ((b.reconcile base documents found' scope).store.markers .error file).filter
          (·.key = m.key) := by
    intro m
    rw [Board.markers_error_reconcile, Board.markers_error_reconcile]
    split
    · exact h.filter_marksAt _ file m
    · rfl
  cases level with
  | error => exact herrors m
  | warning =>
    have hsame : ∀ e, e ∈ (b.reconcile base documents found scope).store.markers .error file ↔
        e ∈ (b.reconcile base documents found' scope).store.markers .error file :=
      fun e => ⟨mem_of_ties herrors, mem_of_ties fun m => (herrors m).symm⟩
    rw [Board.markers_warning_reconcile, Board.markers_warning_reconcile,
      MarkerStore.filter_unshadowed, MarkerStore.filter_unshadowed,
      MarkerStore.unshadowed_congr hsame]
    split
    · rw [h.filter_marksAt]
    · rfl

end Pass

/-! ## Snapshots -/

namespace MarkerStore

variable {s t : MarkerStore}

/-- Stores with the same markers at every spot, in the same order, have the same snapshot. -/
theorem IsSound.snapshot_eq_of_ties (hs : s.IsSound) (ht : t.IsSound)
    (h : ∀ level file, ∀ m : Marker, (t.markers level file).filter (·.key = m.key) =
      (s.markers level file).filter (·.key = m.key)) : t.snapshot = s.snapshot := by
  have hshown : ∀ file, t.shown file = s.shown file := by
    intro file
    refine eq_of_sorted_of_ties (t.sorted_shown file) (s.sorted_shown file) fun m => ?_
    rw [filter_shown, filter_shown, held, held, List.filter_append, List.filter_append, h, h]
  refine hs.snapshotIn_congr hshown ?_
  refine (List.perm_ext_iff_of_nodup t.nodup_files s.nodup_files).mpr fun file => ?_
  rw [ht.mem_files_iff, hs.mem_files_iff]
  refine exists_congr fun level => not_congr ?_
  rw [List.eq_nil_iff_forall_not_mem, List.eq_nil_iff_forall_not_mem]
  exact forall_congr' fun m => not_congr
    ⟨mem_of_ties (h level file), mem_of_ties fun m => (h level file m).symm⟩

end MarkerStore

namespace Board

/-- **The order of diagnostics of different spots does not show.** On every board that a session
reaches, two passes over diagnostics that are the same in another order, where those of one spot
keep their order, leave the same snapshot. -/
theorem snapshot_reconcile_rearranged (start : Option Path) (actions : List Action)
    (base : Option Path) (documents : List Document) (scope : Scope)
    {found found' : List Diagnostic} (h : Rearranged base documents found found') :
    ((run start actions).reconcile base documents found scope).store.snapshot =
      ((run start actions).reconcile base documents found' scope).store.snapshot := by
  have hsound : (run start actions).store.IsSound :=
    isSound_foldl_act MarkerStore.isSound_empty start actions
  exact hsound.reconcile.snapshot_eq_of_ties hsound.reconcile
    (h.filter_markers (run start actions) scope)

/-- A warning and two errors that tie. The warning may come first or last. -/
theorem snapshot_reconcile_rearranged_ties :
    let warning : Diagnostic := .located "a.s" 1 "odd" .warning
    let error : Diagnostic := .located "a.s" 2 "bad" .error
    let later : Diagnostic := .located "./a.s" 2 "worse" (.other "fatal")
    Rearranged none [] [warning, error, later] [error, later, warning] ∧
    ((run none []).reconcile none [] [warning, error, later] .both).store.snapshot =
      ((run none []).reconcile none [] [error, later, warning] .both).store.snapshot := by
  intro warning error later
  have h : Rearranged none [] [warning, error, later] [error, later, warning] := by
    have hwarning : warning.spot? none [] = some ⟨[.name "a.s"], 0, 0, .warning⟩ := by decide
    have herror : error.spot? none [] = some ⟨[.name "a.s"], 1, 0, .error⟩ := by decide
    have hlater : later.spot? none [] = some ⟨[.name "a.s"], 1, 0, .error⟩ := by decide
    intro spot
    by_cases hspot : (⟨[.name "a.s"], 0, 0, .warning⟩ : Spot) = spot
    · subst hspot
      simp [hwarning, herror, hlater]
    · simp [List.filter_cons, hwarning, herror, hlater, hspot]
  exact ⟨h, snapshot_reconcile_rearranged none [] none [] .both h⟩

end Board

end BuildReport
