import Mathlib

/-!
# `XgenLink.Lib.WrapClock`: instants of a wrapping 32-bit clock

A clock of 32 bits names an instant only up to a multiple of `2 ^ 32`. Seen from the
current time an instant lies at most half a turn ahead or behind, `clockOffset`. The
signed difference of two instants orders them as their offsets are ordered, as long as
they are less than half a turn apart.

* `sub_toInt32_neg_iff`: the signed difference of two instants.
* `clockOffset_add`: an instant some time behind another, seen from the current time.
-/

set_option autoImplicit false

namespace XgenLink

/-- How far an instant lies ahead of the current time, negative when it lies behind. -/
def clockOffset (now t : UInt32) : Int := (t - now).toInt32.toInt

/-- The signed value of a word, by its halves. -/
theorem toInt_toInt32 (x : UInt32) :
    x.toNat < 2 ^ 31 ∧ x.toInt32.toInt = x.toNat ∨
      2 ^ 31 ≤ x.toNat ∧ x.toInt32.toInt = (x.toNat : Int) - 2 ^ 32 := by
  have hcast : x.toInt32.toInt = (x.toNat : Int).bmod (2 ^ 32) :=
    BitVec.toInt_eq_toNat_bmod x.toBitVec
  have hbound := x.toNat_lt
  rw [hcast, Int.bmod_def]
  split <;> omega

/-- Two instants less than half a turn apart are ordered by their signed difference. -/
theorem sub_toInt32_neg_iff (now a b : UInt32)
    (hlow : -2 ^ 31 ≤ clockOffset now a - clockOffset now b)
    (hhigh : clockOffset now a - clockOffset now b < 2 ^ 31) :
    (a - b).toInt32 < 0 ↔ clockOffset now a < clockOffset now b := by
  have ha := a.toNat_lt
  have hb := b.toNat_lt
  have hnow := now.toNat_lt
  have hseen := UInt32.toNat_sub a now
  have hseen' := UInt32.toNat_sub b now
  have hword := UInt32.toNat_sub a b
  rw [Int32.lt_iff_toInt_lt, Int32.toInt_zero]
  simp only [clockOffset] at hlow hhigh ⊢
  -- the words behind the three signed values
  rcases toInt_toInt32 (a - now) with ⟨hahalf, haoff⟩ | ⟨hahalf, haoff⟩ <;>
    rcases toInt_toInt32 (b - now) with ⟨hbhalf, hboff⟩ | ⟨hbhalf, hboff⟩ <;>
    rcases toInt_toInt32 (a - b) with ⟨hhalf, hoff⟩ | ⟨hhalf, hoff⟩ <;>
    rw [haoff, hboff] at hlow hhigh ⊢ <;> rw [hoff] <;> omega

/-- An instant `span` after `start`, when the current time is less than half a turn before it and
at most half a turn behind it. -/
theorem clockOffset_add (now start span : UInt32)
    (hlow : (now - start).toNat ≤ span.toNat + 2 ^ 31)
    (hhigh : span.toNat < (now - start).toNat + 2 ^ 31) :
    clockOffset now (start + span) = (span.toNat : Int) - ((now - start).toNat : Int) := by
  have hspan := span.toNat_lt
  have hstart := start.toNat_lt
  have hnow := now.toNat_lt
  have hword : (start + span - now).toNat
      = (2 ^ 32 - now.toNat + (start.toNat + span.toNat) % 2 ^ 32) % 2 ^ 32 := by
    rw [UInt32.toNat_sub, UInt32.toNat_add]
  rw [UInt32.toNat_sub] at hlow hhigh ⊢
  rw [clockOffset]
  rcases toInt_toInt32 (start + span - now) with ⟨hhalf, hoff⟩ | ⟨hhalf, hoff⟩ <;>
    rw [hoff] <;> omega

end XgenLink
