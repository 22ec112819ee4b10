import BuildReport.Proofs.Session

/-!
# The order of passes

A pass over errors and one over warnings may come in either order. The errors do not depend on the
order. The warnings do: the pass over warnings takes back those on a line with an error, and if it
comes first, these are the errors of an earlier time, which the pass over errors is about to
replace. A warning that an old error hides is lost, even if no new error stands on its line.

With the errors first there is nothing old to hide behind, and so the two passes over the same
diagnostics show what a single pass over both tables shows.

- `Board.errorsFirst`, `Board.warningsFirst`: the two orders.
- `Board.split_pass_same`: one pass over both tables shows what the two passes show.
- `Board.passes_commute_iff`: the errors agree, and the warnings agree exactly when every new
  warning on a line with an old error is on a line with a new one.
- `Board.stale_error_hides_warning`: a session where they do not.
-/

namespace BuildReport

namespace MarkerStore

/-- Errors of an earlier time hide nothing for good exactly when the later ones hide it too. -/
theorem unshadowed_unshadowed_eq_iff {errors others warnings : List Marker} :
    unshadowed errors warnings = unshadowed errors (unshadowed others warnings) ↔
      ∀ w ∈ warnings, (∃ e ∈ others, e.line = w.line) → ∃ e ∈ errors, e.line = w.line := by
  constructor
  · rintro heq w hw ⟨e, he, hline⟩
    by_contra hnone
    -- a warning that only an old error hides is kept on the left and lost on the right
    have hkept : w ∈ unshadowed errors warnings :=
      mem_unshadowed.mpr ⟨hw, fun e' he' hl => hnone ⟨e', he', hl⟩⟩
    rw [heq] at hkept
    have hother := (mem_unshadowed.mp hkept).1
    exact (mem_unshadowed.mp hother).2 e he hline
  · intro h
    rw [unshadowed_unshadowed, unshadowed]
    refine List.filter_congr fun w hw => ?_
    by_cases hclear : ∀ e ∈ errors, e.line ≠ w.line
    · -- what no later error hides, no earlier one has hidden
      have hothers : ∀ e ∈ others, e.line ≠ w.line := by
        intro e he hline
        obtain ⟨e', he', hl⟩ := h w hw ⟨e, he, hline⟩
        exact hclear e' he' hl
      simp only [decide_eq_true hclear, decide_eq_true hothers, Bool.and_self]
    · simp only [decide_eq_false hclear, Bool.false_and]

end MarkerStore

namespace Board

variable (b : Board) (base : Option Path) (documents : List Document)
  (errors warnings : List Diagnostic)

/-- The board after a pass over errors and then one over warnings. -/
def errorsFirst : Board :=
  (b.reconcile base documents errors .errors).reconcile base documents warnings .warnings

/-- The board after a pass over warnings and then one over errors. -/
def warningsFirst : Board :=
  (b.reconcile base documents warnings .warnings).reconcile base documents errors .errors

/-! ## The two orders, file by file -/

theorem markers_error_errorsFirst (file : Trail) :
    (b.errorsFirst base documents errors warnings).store.markers .error file =
      marksAt base documents (errors.filter (·.severity ≠ .warning)) file := by
  rw [errorsFirst, markers_error_reconcile, if_neg (by decide), markers_error_reconcile,
    if_pos (by decide)]

theorem markers_error_warningsFirst (file : Trail) :
    (b.warningsFirst base documents errors warnings).store.markers .error file =
      marksAt base documents (errors.filter (·.severity ≠ .warning)) file := by
  rw [warningsFirst, markers_error_reconcile, if_pos (by decide)]

theorem markers_warning_errorsFirst (file : Trail) :
    (b.errorsFirst base documents errors warnings).store.markers .warning file =
      MarkerStore.unshadowed
        (marksAt base documents (errors.filter (·.severity ≠ .warning)) file)
        (marksAt base documents (warnings.filter (·.severity = .warning)) file) := by
  rw [← markers_error_errorsFirst b base documents errors warnings, errorsFirst,
    markers_warning_reconcile, if_pos (by decide)]

theorem markers_warning_warningsFirst (file : Trail) :
    (b.warningsFirst base documents errors warnings).store.markers .warning file =
      MarkerStore.unshadowed
        (marksAt base documents (errors.filter (·.severity ≠ .warning)) file)
        (MarkerStore.unshadowed (b.store.markers .error file)
          (marksAt base documents (warnings.filter (·.severity = .warning)) file)) := by
  rw [← markers_error_warningsFirst b base documents errors warnings, warningsFirst,
    markers_warning_reconcile, if_neg (by decide), markers_warning_reconcile, if_pos (by decide),
    markers_error_reconcile b, if_neg (by decide)]

theorem isSound_errorsFirst (h : b.store.IsSound) :
    (b.errorsFirst base documents errors warnings).store.IsSound :=
  h.reconcile.reconcile

theorem isSound_warningsFirst (h : b.store.IsSound) :
    (b.warningsFirst base documents errors warnings).store.IsSound :=
  h.reconcile.reconcile

/-! ## One pass or two -/

/-- Over the same diagnostics, the two passes leave the markers that a single pass leaves. -/
theorem markers_errorsFirst_self (found : List Diagnostic) (level : Level) (file : Trail) :
    (b.errorsFirst base documents found found).store.markers level file =
      (b.reconcile base documents found .both).store.markers level file := by
  cases level with
  | error => rw [markers_error_errorsFirst, markers_error_both]
  | warning => rw [markers_warning_errorsFirst, markers_warning_both, markers_error_both]

theorem notices_errorsFirst_self (found : List Diagnostic) :
    (b.errorsFirst base documents found found).notices =
      (b.reconcile base documents found .both).notices.append
        ((found.filter fun d => ¬ d.HasPlace documents).map (·.message)) := by
  rw [errorsFirst, notices_reconcile, notices_reconcile, notices_reconcile]

/-- **A pass over both tables can be split** into one over errors and then one over warnings. From
any board that a session reaches, this shows the same errors and the same warnings. Only the
messages of diagnostics without a place come twice. -/
theorem split_pass_same (start : Option Path) (actions : List Action) (found : List Diagnostic) :
    let b := run start actions
    let split := b.errorsFirst base documents found found
    let whole := b.reconcile base documents found .both
    split.store.errors.Same whole.store.errors ∧
      split.store.warnings.Same whole.store.warnings ∧
      split.notices = whole.notices.append
        ((found.filter fun d => ¬ d.HasPlace documents).map (·.message)) := by
  intro b split whole
  have hsound : b.store.IsSound := isSound_foldl_act MarkerStore.isSound_empty start actions
  have hsplit := (isSound_errorsFirst b base documents found found hsound).tight
  have hwhole : ∀ level, (whole.store.table level).IsTight := hsound.reconcile.tight
  refine ⟨?_, ?_, notices_errorsFirst_self b base documents found⟩
  · exact (MarkerTable.same_iff (hsplit .error) (hwhole .error)).mpr
      (markers_errorsFirst_self b base documents found .error)
  · exact (MarkerTable.same_iff (hsplit .warning) (hwhole .warning)).mpr
      (markers_errorsFirst_self b base documents found .warning)

/-! ## When the order shows -/

/-- **Passes over errors and over warnings commute unless an old error hides a new warning.** From
any board that a session reaches, both orders show the same errors, and they show the same
warnings exactly when each new warning on a line with an old error is on a line with a new one. -/
theorem passes_commute_iff (actions : List Action) :
    let b := run base actions
    (b.errorsFirst base documents errors warnings).store.errors.Same
        (b.warningsFirst base documents errors warnings).store.errors ∧
      ((b.errorsFirst base documents errors warnings).store.warnings.Same
          (b.warningsFirst base documents errors warnings).store.warnings ↔
        ∀ file, ∀ w ∈ marksAt base documents (warnings.filter (·.severity = .warning)) file,
          (∃ e ∈ b.store.markers .error file, e.line = w.line) →
          ∃ e ∈ marksAt base documents (errors.filter (·.severity ≠ .warning)) file,
            e.line = w.line) := by
  intro b
  have hsound : b.store.IsSound := isSound_foldl_act MarkerStore.isSound_empty base actions
  have htight := (isSound_errorsFirst b base documents errors warnings hsound).tight
  have htight' := (isSound_warningsFirst b base documents errors warnings hsound).tight
  constructor
  · refine (MarkerTable.same_iff (htight .error) (htight' .error)).mpr fun file => ?_
    exact (markers_error_errorsFirst b base documents errors warnings file).trans
      (markers_error_warningsFirst b base documents errors warnings file).symm
  · refine (MarkerTable.same_iff (htight .warning) (htight' .warning)).trans ?_
    refine forall_congr' fun file => ?_
    show (b.errorsFirst base documents errors warnings).store.markers .warning file =
      (b.warningsFirst base documents errors warnings).store.markers .warning file ↔ _
    rw [markers_warning_errorsFirst, markers_warning_warningsFirst]
    exact MarkerStore.unshadowed_unshadowed_eq_iff

/-- An old error hides a new warning on its line for good, although it is gone in the end. -/
theorem stale_error_hides_warning :
    let old : Diagnostic := .located "a.s" 1 "old" .error
    let new : Diagnostic := .located "a.s" 1 "new" .warning
    let b := run none [.reconcile [] [old] .both]
    ¬ (b.errorsFirst none [] [] [new]).store.warnings.Same
      (b.warningsFirst none [] [] [new]).store.warnings := by
  intro old new b h
  have hget := h.get_eq [.name "a.s"]
  revert hget
  decide

end Board

end BuildReport
