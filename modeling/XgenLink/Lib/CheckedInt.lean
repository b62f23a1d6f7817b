import Mathlib.Data.Int.Basic
import Mathlib.Tactic.Linarith

/-!
# `XgenLink.Lib.CheckedInt`: signed 32-bit arithmetic that may overflow

A signed operation of C whose exact result leaves the 32-bit range is undefined, and so is all
that the program does from there on. `int32Checked` is the result of an operation from its exact
value, and `none` where there is none, so that a computation over it is `some` exactly when no
step of it overflows. Whether it does is then a question about exact integers.

* `int32Checked_eq_some`, `int32Checked_eq_none`: when an operation has a result.
* `int32ShiftRight`, `toInt_int32ShiftRight`: the arithmetic shift, which cannot overflow.
-/

set_option autoImplicit false

namespace XgenLink

/-- The 32-bit integer with an exact value, `none` when the value has no place. -/
def int32Checked (exact : Int) : Option Int32 :=
  if -2 ^ 31 ≤ exact ∧ exact < 2 ^ 31 then some (Int32.ofInt exact) else none

/-- `value >> bits` of a signed value: the sign is kept, so it rounds down. -/
def int32ShiftRight (value : Int32) (bits : Nat) : Int32 :=
  Int32.ofInt (value.toInt / 2 ^ bits)

/-- A checked result is the exact value. -/
theorem int32Checked_eq_some {exact : Int} {result : Int32} :
    int32Checked exact = some result ↔ result.toInt = exact := by
  have hlow := result.le_toInt
  have hhigh := result.toInt_lt
  rw [int32Checked]
  constructor
  · intro h
    split at h
    · rename_i hrange
      rw [← Option.some.inj h]
      exact Int32.toInt_ofInt_of_le hrange.1 hrange.2
    · cases h
  · intro h
    subst h
    rw [if_pos ⟨hlow, hhigh⟩, Int32.ofInt_toInt]

/-- A value in range has a checked result. -/
theorem int32Checked_of_range {exact : Int} (hlow : -2 ^ 31 ≤ exact) (hhigh : exact < 2 ^ 31) :
    ∃ result, int32Checked exact = some result ∧ result.toInt = exact :=
  ⟨Int32.ofInt exact, if_pos ⟨hlow, hhigh⟩, Int32.toInt_ofInt_of_le hlow hhigh⟩

/-- A value out of range has none. -/
theorem int32Checked_eq_none {exact : Int} :
    int32Checked exact = none ↔ ¬ (-2 ^ 31 ≤ exact ∧ exact < 2 ^ 31) := by
  rw [int32Checked]
  split <;> simp_all

/-- A shift to the right is a division that rounds down. -/
theorem toInt_int32ShiftRight (value : Int32) (bits : Nat) :
    (int32ShiftRight value bits).toInt = value.toInt / 2 ^ bits := by
  have hlow := value.le_toInt
  have hhigh := value.toInt_lt
  have hpos : (0 : Int) < 2 ^ bits := Int.pow_pos (by decide)
  apply Int32.toInt_ofInt_of_le
  · -- the divisor is at least one, so rounding down stays above the bound
    refine Int.le_ediv_of_mul_le hpos ?_
    have hone : (1 : Int) ≤ 2 ^ bits := hpos
    nlinarith
  · rcases Int.le_total 0 value.toInt with h | h
    · have := Int.ediv_le_self (2 ^ bits) h
      omega
    · have := Int.ediv_nonpos_of_nonpos_of_neg h hpos
      omega

end XgenLink
