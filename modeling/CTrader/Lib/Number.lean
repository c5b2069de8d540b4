import CTrader.Lib.Binary64

/-! Numbers that may be exact integers or floats, with the mixed arithmetic of the two types. -/

/-- An `int` or a `float`. -/
inductive Number
  | int (n : ℤ)
  | float (x : Binary64)
deriving DecidableEq

namespace Number

/-- The product with a power of two, or none when the power is too large to meet a float. -/
def mulTwoPow (x : Number) (k : ℕ) : Option Number :=
  match x with
  | int n => some (int (n * 2 ^ k))
  | float x => (Binary64.ofInt (2 ^ k)).map fun factor => float (x.mul factor)

/-- The comparison `x < y`, which takes an integer at its exact value. -/
def lt : Number → Number → Bool
  | int m, int n => m < n
  | float x, float y => x.lt y
  | int m, float (.finite b _) => (m : ℚ) < b
  | int _, float .posInf => true
  | int _, float _ => false
  | float (.finite a _), int n => a < (n : ℚ)
  | float .negInf, int _ => true
  | float _, int _ => false

/-- The built-in minimum, which keeps the first unless the second is smaller. -/
def min (x y : Number) : Number := if y.lt x then y else x

/-- The conversion to a float, or none for an integer that is too large. -/
def toFloat : Number → Option Binary64
  | int n => Binary64.ofInt n
  | float x => some x

/-- Among floats the minimum is the one of the format. -/
@[simp] theorem min_float (x y : Binary64) : (float x).min (float y) = float (x.min y) := by
  exact (apply_ite float (y.lt x = true) y x).symm

/-- The minimum is one of the two numbers. -/
theorem min_cases (x y : Number) : (x.min y = y ∧ y.lt x = true) ∨ (x.min y = x ∧ y.lt x = false) := by
  unfold min
  cases less : y.lt x with
  | true => exact .inl ⟨rfl, rfl⟩
  | false => exact .inr ⟨rfl, rfl⟩

end Number
