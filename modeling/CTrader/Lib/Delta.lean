import Mathlib.Algebra.Group.Basic

/-! Lists as the differences of neighbours, and the running sums that undo them. -/

namespace Delta

variable {G : Type} [AddCommGroup G]

/-- Each value against its predecessor, and the first one against a value before it. -/
def differences : G → List G → List G
  | _, [] => []
  | previous, value :: values => (value - previous) :: differences value values

/-- Each delta added to all that came before it, from a value before the first. -/
def runningSums : G → List G → List G
  | _, [] => []
  | current, delta :: deltas => (current + delta) :: runningSums (current + delta) deltas

/-- Running sums give back the values that were taken apart. -/
theorem runningSums_differences (previous : G) (values : List G) :
    runningSums previous (differences previous values) = values := by
  induction values generalizing previous with
  | nil => rfl
  | cons value values ih =>
    -- The sum is the value itself, which is what the next difference was taken against.
    rw [differences, runningSums, add_sub_cancel, ih]

/-- Differences give back the deltas that were summed up. -/
theorem differences_runningSums (current : G) (deltas : List G) :
    differences current (runningSums current deltas) = deltas := by
  induction deltas generalizing current with
  | nil => rfl
  | cons delta deltas ih =>
    -- The next difference is taken against the sum that the delta led to.
    rw [runningSums, differences, add_sub_cancel_left, ih]

end Delta
