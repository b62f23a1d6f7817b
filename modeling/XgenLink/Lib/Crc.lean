import Mathlib.Data.List.Basic

/-!
# `XgenLink.Lib.Crc`: reflected checksums, bit by bit and byte by byte

A reflected checksum of width `w` shifts its register to the right and adds the
polynomial whenever a one falls out. Eight such steps are linear in exclusive
or, and they only shift a register whose low byte is zero, so they are one
lookup of the low byte and one shift by eight.

* `crcBits_xor`: the steps are linear.
* `crcBits_of_low_zero`: they only shift what has no low bits.
* `reflectedCrc_append`: a message may be fed in two parts.
-/

set_option autoImplicit false

namespace XgenLink

section Crc

variable {w : Nat} (poly : BitVec w)

/-- One step of the register. -/
def crcBit (crc : BitVec w) : BitVec w :=
  if crc.getLsbD 0 then (crc >>> 1) ^^^ poly else crc >>> 1

/-- Several steps of the register. -/
def crcBits : Nat → BitVec w → BitVec w
  | 0, crc => crc
  | n + 1, crc => crcBits n (crcBit poly crc)

/-- The register after one more byte of the message. -/
def crcByte (crc : BitVec w) (byte : BitVec 8) : BitVec w :=
  crcBits poly 8 (crc ^^^ byte.setWidth w)

/-- The reflected checksum of a message, from an initial register. -/
def reflectedCrc (initial : BitVec w) (message : List (BitVec 8)) : BitVec w :=
  message.foldl (crcByte poly) initial

/-- A message may be fed in two parts. -/
theorem reflectedCrc_append (initial : BitVec w) (front back : List (BitVec 8)) :
    reflectedCrc poly initial (front ++ back)
      = reflectedCrc poly (reflectedCrc poly initial front) back :=
  List.foldl_append

/-! ### Linearity -/

/-- One step is linear. -/
theorem crcBit_xor (a b : BitVec w) :
    crcBit poly (a ^^^ b) = crcBit poly a ^^^ crcBit poly b := by
  simp only [crcBit, BitVec.getLsbD_xor, BitVec.ushiftRight_xor_distrib]
  -- the polynomial is added on each side as often as a one falls out there
  cases a.getLsbD 0 <;> cases b.getLsbD 0
  · simp
  · simp [BitVec.xor_assoc]
  · simp [BitVec.xor_assoc, BitVec.xor_comm poly]
  · have hcancel : (a >>> 1 ^^^ poly) ^^^ (b >>> 1 ^^^ poly)
        = (a >>> 1 ^^^ b >>> 1) ^^^ (poly ^^^ poly) := by
      ac_rfl
    simp [hcancel]

/-- So are several steps. The induction is on the number of steps. -/
theorem crcBits_xor (n : Nat) (a b : BitVec w) :
    crcBits poly n (a ^^^ b) = crcBits poly n a ^^^ crcBits poly n b := by
  induction n generalizing a b with
  | zero => rfl
  | succ n ih => rw [crcBits, crcBits, crcBits, crcBit_xor, ih]

/-- While no one falls out, the steps only shift. -/
theorem crcBits_of_low_zero (n : Nat) (crc : BitVec w)
    (hlow : ∀ i, i < n → crc.getLsbD i = false) : crcBits poly n crc = crc >>> n := by
  induction n generalizing crc with
  | zero => rfl
  | succ n ih =>
    have hbit : crcBit poly crc = crc >>> 1 := by
      simp [crcBit, hlow 0 (Nat.succ_pos n)]
    have hshift : ∀ i, i < n → (crc >>> 1).getLsbD i = false := by
      intro i hi
      rw [BitVec.getLsbD_ushiftRight]
      exact hlow (1 + i) (by omega)
    rw [crcBits, hbit, ih _ hshift, ← BitVec.shiftRight_add, Nat.add_comm]

/-! ### The table -/

/-- A register is its high part and its low byte. -/
theorem register_split (x : BitVec w) : x = (x >>> 8 <<< 8) ^^^ (x.setWidth 8).setWidth w := by
  apply BitVec.eq_of_getLsbD_eq
  intro i hi
  simp only [BitVec.getLsbD_xor, BitVec.getLsbD_shiftLeft, BitVec.getLsbD_ushiftRight,
    BitVec.getLsbD_setWidth, hi]
  by_cases hbyte : i < 8
  · simp [hbyte]
  · have hback : 8 + (i - 8) = i := by omega
    simp [hbyte, hback]

/-- One byte of the message is one shift by eight and one look at the low byte. -/
theorem crcByte_table (crc : BitVec w) (byte : BitVec 8) :
    crcByte poly crc byte
      = (crc >>> 8) ^^^ crcBits poly 8 (((crc ^^^ byte.setWidth w).setWidth 8).setWidth w) := by
  have hhigh : crcBits poly 8 ((crc ^^^ byte.setWidth w) >>> 8 <<< 8) = crc >>> 8 := by
    rw [crcBits_of_low_zero]
    · apply BitVec.eq_of_getLsbD_eq
      intro i hi
      simp only [BitVec.getLsbD_ushiftRight, BitVec.getLsbD_shiftLeft, BitVec.getLsbD_xor,
        BitVec.getLsbD_setWidth]
      have hback : 8 + i - 8 = i := by omega
      by_cases hin : 8 + i < w
      · simp [hin, hback]
      · simp [hin, BitVec.getLsbD_of_ge crc (8 + i) (by omega)]
    · intro i hi
      simp [hi]
  calc crcByte poly crc byte
      = crcBits poly 8 (((crc ^^^ byte.setWidth w) >>> 8 <<< 8)
          ^^^ ((crc ^^^ byte.setWidth w).setWidth 8).setWidth w) := by
        rw [crcByte, ← register_split]
    _ = _ := by rw [crcBits_xor, hhigh]

end Crc

end XgenLink
