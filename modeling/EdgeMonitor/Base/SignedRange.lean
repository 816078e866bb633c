import Mathlib

/-!
# Signed 32-bit results

Library `Base`. Arithmetic on `int32_t` whose exact result leaves the type is undefined in C.
A computation that asks for every result to stay in range has a value exactly when none of them
leaves it, and then the value is that of the exact computation.
-/

namespace EdgeMonitor.Base

/-- The values of an `int32_t`. -/
def InInt32 (x : Int) : Prop := -2147483648 ≤ x ∧ x ≤ 2147483647

instance decidableInInt32 (x : Int) : Decidable (InInt32 x) :=
  inferInstanceAs (Decidable (-2147483648 ≤ x ∧ x ≤ 2147483647))

/-- A result as an `int32_t`, none when it overflows. -/
def int32 (x : Int) : Option Int := if InInt32 x then some x else none

theorem int32_bind_eq_some_iff {α : Type} {x : Int} {f : Int → Option α} {a : α} :
    (int32 x >>= f) = some a ↔ InInt32 x ∧ f x = some a := by
  change (int32 x).bind f = some a ↔ _
  rw [int32]
  by_cases h : InInt32 x
  · rw [if_pos h, Option.bind_some]
    exact (and_iff_right h).symm
  · rw [if_neg h, Option.bind_none]
    simp [h]

/-! ### Bounds of products -/

theorem mul_bounds {a b m n : Int} (ha : -m ≤ a ∧ a ≤ m) (hb : -n ≤ b ∧ b ≤ n) :
    -(m * n) ≤ a * b ∧ a * b ≤ m * n := by
  rw [← abs_le] at ha hb ⊢
  rw [abs_mul]
  exact mul_le_mul ha hb (abs_nonneg b) ((abs_nonneg a).trans ha)

/-- The square of a number is in range up to the root of the largest value. -/
theorem inInt32_square_iff (x : Int) : InInt32 (x * x) ↔ -46340 ≤ x ∧ x ≤ 46340 := by
  constructor
  · rintro ⟨-, hle⟩
    constructor
    · by_contra h
      have hroot : 46341 ≤ -x := by omega
      have hlarge : 46341 * 46341 ≤ -x * -x := mul_le_mul hroot hroot (by decide) (by omega)
      rw [neg_mul_neg] at hlarge
      omega
    · by_contra h
      have hroot : 46341 ≤ x := by omega
      have hlarge : 46341 * 46341 ≤ x * x := mul_le_mul hroot hroot (by decide) (by omega)
      omega
  · intro h
    have hsquare := mul_bounds (m := 46340) (n := 46340) h h
    rw [InInt32]
    omega

end EdgeMonitor.Base
