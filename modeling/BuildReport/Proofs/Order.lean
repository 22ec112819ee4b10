import BuildReport.Path

/-!
# The order of trails

Trails are compared step by step, and a trail comes before those that go on from it. The order is
total, and only equal trails stand at the same place in it.

- `Step.compare_eq_compareLex`: steps are compared by their kind and then by their name.
- `Trail.compare_eq_compareLex`: trails are compared in the lexicographic order over steps.
- `Trail.le_total`, `Trail.le_trans`, `Trail.le_antisymm`: it is a total order.
- `Trail.compare_eq_lt`: different trails are strictly in order.
-/

namespace BuildReport

namespace Step

/-- The name of a step, which is empty for the steps of the other kinds. -/
def label : Step → String
  | .name n => n
  | _ => ""

theorem compare_eq_compareLex : compare = compareLex (compareOn rank) (compareOn label) := by
  funext a b
  cases a <;> cases b <;> rfl

instance : Std.TransCmp compare := by
  rw [compare_eq_compareLex]
  infer_instance

theorem eq_of_compare {a b : Step} (h : compare a b = .eq) : a = b := by
  rw [compare_eq_compareLex, compareLex, Ordering.then_eq_eq] at h
  have hrank : a.rank = b.rank := Std.LawfulEqOrd.eq_of_compare h.1
  have hlabel : a.label = b.label := Std.LawfulEqOrd.eq_of_compare h.2
  cases a <;> cases b <;> simp_all [rank, label]

instance : Std.LawfulEqCmp compare where
  compare_self := Std.ReflCmp.compare_self
  eq_of_compare := eq_of_compare

end Step

namespace Trail

theorem compare_eq_compareLex (s t : Trail) : compare s t = List.compareLex Step.compare s t := by
  induction s generalizing t with
  | nil => cases t <;> rfl
  | cons a s ih =>
    cases t with
    | nil => rfl
    | cons b t => rw [compare, ih, List.compareLex_cons_cons]

theorem le_eq_isLE (s t : Trail) : s.le t = (List.compareLex Step.compare s t).isLE := by
  rw [le, compare_eq_compareLex]
  cases List.compareLex Step.compare s t <;> rfl

theorem compareLex_eq_swap (s t : Trail) :
    List.compareLex Step.compare s t = (List.compareLex Step.compare t s).swap :=
  Std.OrientedCmp.eq_swap

theorem le_total (s t : Trail) : (s.le t || t.le s) = true := by
  rw [le_eq_isLE, le_eq_isLE, compareLex_eq_swap]
  cases List.compareLex Step.compare t s <;> rfl

theorem le_trans {s t u : Trail} (h : s.le t = true) (h' : t.le u = true) : s.le u = true := by
  rw [le_eq_isLE] at h h' ⊢
  exact Std.TransCmp.isLE_trans h h'

/-- Only equal trails come before each other. -/
theorem le_antisymm {s t : Trail} (h : s.le t = true) (h' : t.le s = true) : s = t := by
  rw [le_eq_isLE] at h h'
  rw [compareLex_eq_swap] at h'
  suffices h : List.compareLex Step.compare s t = .eq from Std.LawfulEqCmp.eq_of_compare h
  cases hcmp : List.compareLex Step.compare s t with
  | eq => rfl
  | lt =>
    rw [hcmp] at h'
    cases h'
  | gt =>
    rw [hcmp] at h
    cases h

/-- A trail that comes before another one comes strictly before it. -/
theorem compare_eq_lt {s t : Trail} (h : s.le t = true) (hne : s ≠ t) : s.compare t = .lt := by
  cases hcmp : s.compare t with
  | lt => rfl
  | eq =>
    rw [compare_eq_compareLex] at hcmp
    exact absurd (Std.LawfulEqCmp.eq_of_compare hcmp) hne
  | gt =>
    rw [le, hcmp] at h
    cases h

end Trail

end BuildReport
