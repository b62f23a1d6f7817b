import Mathlib.Algebra.Ring.Parity
import Mathlib.Data.List.GetD
import XgenLink.Lib.Crc

/-!
# `XgenLink.Lib.CrcErrors`: the errors a reflected checksum detects

A reflected checksum takes the bits of a message one by one, the least significant bit of a byte
first. Its steps are linear, so what an error does to the register is what the register does from
zero with the bits that it flips. An error goes undetected when that register ends at zero.

Two kinds of errors are always detected. With a polynomial of odd parity, a step keeps the parity
of the register but for the bit fed to it, so an odd number of flipped bits leaves a register that
is not zero. With a polynomial whose highest bit is set, a step loses nothing, so bits that lie
within the width of the register are held by it when the stretch is over and never cleared.

* `feedBits`: the register bit by bit. `reflectedCrc_eq_feedBits` connects it to the bytes.
* `reflectedCrc_xor`: errors are added to the register.
* `feedBits_odd`: with an odd polynomial an odd number of flipped bits shows.
* `feedBits_burst`: flipped bits no further apart than the register is wide show.
-/

set_option autoImplicit false

namespace XgenLink

section Bits

variable {w : Nat} (poly : BitVec w)

/-! ### Bit by bit -/

/-- A bit in the lowest place. -/
def lowBit (bit : Bool) : BitVec w :=
  (BitVec.ofBool bit).setWidth w

/-- The register after more bits of the message. -/
def feedBits (crc : BitVec w) (bits : List Bool) : BitVec w :=
  bits.foldl (fun crc bit => crcBit poly (crc ^^^ lowBit bit)) crc

/-- The bits of a byte, the least significant first. -/
def byteBits (byte : BitVec 8) : List Bool :=
  (List.range 8).map byte.getLsbD

/-- The bits of a message. -/
def wireBits (message : List (BitVec 8)) : List Bool :=
  message.flatMap byteBits

/-- The number with these bits, the least significant first. -/
def bitsValue : List Bool → BitVec w
  | [] => 0#w
  | bit :: rest => (bitsValue rest <<< 1) ^^^ lowBit bit

/-- Only the lowest place can be set. -/
@[simp] theorem getLsbD_lowBit (bit : Bool) (i : Nat) :
    (lowBit bit : BitVec w).getLsbD i = (decide (i < w) && decide (i = 0) && bit) := by
  unfold lowBit
  rw [BitVec.getLsbD_setWidth, BitVec.getLsbD_ofBool, Bool.and_assoc]

/-- The places of the number are the bits. -/
theorem getLsbD_bitsValue (bits : List Bool) {i : Nat} (hi : i < w) :
    (bitsValue bits : BitVec w).getLsbD i = bits.getD i false := by
  induction bits generalizing i with
  | nil => simp [bitsValue]
  | cons bit rest ih =>
    unfold bitsValue
    rw [BitVec.getLsbD_xor, BitVec.getLsbD_shiftLeft, getLsbD_lowBit]
    cases i with
    | zero => simp [hi]
    | succ i =>
      rw [Nat.add_sub_cancel, ih (by omega)]
      simp [hi]

/-- The register behind two stretches of bits. -/
theorem feedBits_append (crc : BitVec w) (front back : List Bool) :
    feedBits poly crc (front ++ back) = feedBits poly (feedBits poly crc front) back :=
  List.foldl_append

/-- A register whose highest bit is free may be shifted up and stepped down again. -/
theorem crcBit_shiftLeft {x : BitVec w} (hfree : x.getLsbD (w - 1) = false) :
    crcBit poly (x <<< 1) = x := by
  unfold crcBit
  have hlow : (x <<< 1).getLsbD 0 = false := by simp
  rw [hlow, if_neg Bool.false_ne_true]
  apply BitVec.eq_of_getLsbD_eq
  intro i hi
  rw [BitVec.getLsbD_ushiftRight, BitVec.getLsbD_shiftLeft]
  by_cases htop : 1 + i < w
  · simp [htop]
  · have hlast : i = w - 1 := by omega
    rw [hlast, hfree]
    simp [show ¬ 1 + (w - 1) < w by omega]

/-- No more bits than the register is wide may be added to it at once. The induction is on the
bits. -/
theorem feedBits_eq (crc : BitVec w) {bits : List Bool} (hlen : bits.length ≤ w) :
    feedBits poly crc bits = crcBits poly bits.length (crc ^^^ bitsValue bits) := by
  induction bits generalizing crc with
  | nil => simp [feedBits, crcBits, bitsValue]
  | cons bit rest ih =>
    rw [List.length_cons] at hlen
    have hfree : (bitsValue rest : BitVec w).getLsbD (w - 1) = false := by
      rw [getLsbD_bitsValue rest (by omega), List.getD_eq_default _ _ (by omega)]
    have hsplit : crc ^^^ bitsValue (bit :: rest)
        = (crc ^^^ lowBit bit) ^^^ bitsValue rest <<< 1 := by
      rw [bitsValue, BitVec.xor_assoc, BitVec.xor_comm (lowBit bit)]
    show feedBits poly (crcBit poly (crc ^^^ lowBit bit)) rest = _
    rw [ih _ (by omega), List.length_cons, crcBits, hsplit,
      crcBit_xor poly (crc ^^^ lowBit bit), crcBit_shiftLeft poly hfree]

/-- A byte is fed bit by bit. -/
theorem crcByte_eq_feedBits (hw : 8 ≤ w) (crc : BitVec w) (byte : BitVec 8) :
    crcByte poly crc byte = feedBits poly crc (byteBits byte) := by
  have hlen : (byteBits byte).length = 8 := by simp [byteBits]
  have hvalue : (bitsValue (byteBits byte) : BitVec w) = byte.setWidth w := by
    apply BitVec.eq_of_getLsbD_eq
    intro i hi
    rw [getLsbD_bitsValue _ hi, BitVec.getLsbD_setWidth]
    by_cases hbyte : i < 8
    · simp [byteBits, hi, List.getD_eq_getElem?_getD, hbyte]
    · rw [List.getD_eq_default _ _ (by omega), BitVec.getLsbD_of_ge _ _ (by omega)]
      simp
  rw [feedBits_eq poly crc (by omega), hlen, hvalue, crcByte]

/-- A message is fed bit by bit. -/
theorem reflectedCrc_eq_feedBits (hw : 8 ≤ w) (crc : BitVec w) (message : List (BitVec 8)) :
    reflectedCrc poly crc message = feedBits poly crc (wireBits message) := by
  induction message generalizing crc with
  | nil => rfl
  | cons byte rest ih =>
    show reflectedCrc poly (crcByte poly crc byte) rest = _
    rw [ih, crcByte_eq_feedBits poly hw]
    exact (feedBits_append poly crc (byteBits byte) (wireBits rest)).symm

/-! ### Errors -/

/-- An error in the message is an error in the register. -/
theorem reflectedCrc_xor (a b : BitVec w) {message error : List (BitVec 8)}
    (hlen : message.length = error.length) :
    reflectedCrc poly (a ^^^ b) (List.zipWith (· ^^^ ·) message error)
      = reflectedCrc poly a message ^^^ reflectedCrc poly b error := by
  induction message generalizing error a b with
  | nil =>
    cases error with
    | nil => rfl
    | cons _ _ => cases hlen
  | cons byte rest ih =>
    cases error with
    | nil => cases hlen
    | cons flipped others =>
      have hstep : crcByte poly (a ^^^ b) (byte ^^^ flipped)
          = crcByte poly a byte ^^^ crcByte poly b flipped := by
        unfold crcByte
        rw [← crcBits_xor, BitVec.setWidth_xor]
        congr 1
        ac_rfl
      show reflectedCrc poly (crcByte poly (a ^^^ b) (byte ^^^ flipped))
        (List.zipWith (· ^^^ ·) rest others) = _
      rw [hstep]
      exact ih _ _ (Nat.succ.inj hlen)

/-! ### Bursts -/

/-- A polynomial with its highest bit set loses nothing in a step. -/
theorem crcBit_eq_zero (hpoly : poly.getLsbD (w - 1) = true) {x : BitVec w}
    (h : crcBit poly x = 0#w) : x = 0#w := by
  have hbits : ∀ i, (crcBit poly x).getLsbD i = false := by
    intro i
    rw [h]
    exact BitVec.getLsbD_zero
  unfold crcBit at hbits
  by_cases hlow : x.getLsbD 0 = true
  · -- the highest bit of the polynomial would be left
    have htop := hbits (w - 1)
    rw [if_pos hlow, BitVec.getLsbD_xor, BitVec.getLsbD_ushiftRight, hpoly,
      BitVec.getLsbD_of_ge x _ (by omega)] at htop
    cases htop
  · apply BitVec.eq_of_getLsbD_eq
    intro i hi
    rw [BitVec.getLsbD_zero]
    cases i with
    | zero => simpa using hlow
    | succ i =>
      have hbit := hbits i
      rw [if_neg hlow, BitVec.getLsbD_ushiftRight, Nat.add_comm] at hbit
      exact hbit

/-- Several steps lose nothing either. -/
theorem crcBits_eq_zero (hpoly : poly.getLsbD (w - 1) = true) {n : Nat} {x : BitVec w}
    (h : crcBits poly n x = 0#w) : x = 0#w := by
  induction n generalizing x with
  | zero => exact h
  | succ n ih => exact crcBit_eq_zero poly hpoly (ih h)

/-- A register that is zero stays zero. -/
theorem crcBits_zero (n : Nat) : crcBits poly n 0#w = 0#w := by
  induction n with
  | zero => rfl
  | succ n ih =>
    rw [crcBits, show crcBit poly 0#w = 0#w from by simp [crcBit], ih]

/-- Bits that are not set only step the register. -/
theorem feedBits_clear (crc : BitVec w) {bits : List Bool} (hclear : ∀ bit ∈ bits, bit = false) :
    feedBits poly crc bits = crcBits poly bits.length crc := by
  induction bits generalizing crc with
  | nil => rfl
  | cons bit rest ih =>
    have hbit : bit = false := hclear bit List.mem_cons_self
    have hzero : (lowBit false : BitVec w) = 0#w := by
      apply BitVec.eq_of_getLsbD_eq
      intro i _
      simp
    show feedBits poly (crcBit poly (crc ^^^ lowBit bit)) rest = _
    rw [ih _ fun other hmem => hclear other (List.mem_cons_of_mem _ hmem), hbit, hzero,
      BitVec.xor_zero]
    rfl

/-- Flipped bits that lie in one stretch of the width of the register are not forgotten: the
register holds them when the stretch is over, and no later step clears it. -/
theorem feedBits_burst (hpoly : poly.getLsbD (w - 1) = true) {before burst after : List Bool}
    (hbefore : ∀ bit ∈ before, bit = false) (hafter : ∀ bit ∈ after, bit = false)
    (hlen : burst.length ≤ w) (hset : true ∈ burst) :
    feedBits poly 0#w (before ++ burst ++ after) ≠ 0#w := by
  intro hzero
  rw [feedBits_append, feedBits_append, feedBits_clear poly 0#w hbefore, crcBits_zero,
    feedBits_clear poly _ hafter, feedBits_eq poly 0#w hlen, BitVec.zero_xor] at hzero
  have hvalue : (bitsValue burst : BitVec w) = 0#w :=
    crcBits_eq_zero poly hpoly (crcBits_eq_zero poly hpoly hzero)
  obtain ⟨i, hi, hbit⟩ := List.mem_iff_getElem.mp hset
  have hfound := getLsbD_bitsValue (w := w) burst (Nat.lt_of_lt_of_le hi hlen)
  rw [hvalue, BitVec.getLsbD_zero, List.getD_eq_getElem _ _ hi, hbit] at hfound
  cases hfound

/-! ### Parity -/

/-- Whether an odd number of bits is set. -/
def bitsParity (bits : List Bool) : Bool :=
  bits.foldr xor false

/-- Whether an odd number of bits of a register is set. -/
def parity (x : BitVec w) : Bool :=
  bitsParity ((List.range w).map x.getLsbD)

/-- The parity is that of the number of set bits. -/
theorem bitsParity_iff (bits : List Bool) : bitsParity bits = true ↔ Odd (bits.count true) := by
  induction bits with
  | nil => simp [bitsParity]
  | cons bit rest ih =>
    have hstep : bitsParity (bit :: rest) = xor bit (bitsParity rest) := rfl
    rw [hstep, List.count_cons]
    cases bit with
    | false => simpa using ih
    | true =>
      rw [Bool.true_xor, Bool.not_eq_true', ← Bool.not_eq_true, ih]
      simp [Nat.odd_add_one]

/-- The parity of two stretches. -/
theorem bitsParity_append (front back : List Bool) :
    bitsParity (front ++ back) = xor (bitsParity front) (bitsParity back) := by
  induction front with
  | nil => simp [bitsParity]
  | cons bit rest ih =>
    show xor bit (bitsParity (rest ++ back)) = xor (xor bit (bitsParity rest)) (bitsParity back)
    rw [ih, Bool.xor_assoc]

/-- The bits of a sum. -/
theorem bitsParity_map_xor (indices : List Nat) (f g : Nat → Bool) :
    bitsParity (indices.map fun i => xor (f i) (g i))
      = xor (bitsParity (indices.map f)) (bitsParity (indices.map g)) := by
  induction indices with
  | nil => rfl
  | cons i rest ih =>
    show xor (xor (f i) (g i)) (bitsParity (rest.map fun i => xor (f i) (g i)))
      = xor (xor (f i) (bitsParity (rest.map f))) (xor (g i) (bitsParity (rest.map g)))
    rw [ih]
    cases f i <;> cases g i <;> cases bitsParity (rest.map f) <;>
      cases bitsParity (rest.map g) <;> rfl

/-- Bits that are not set have even parity. -/
theorem bitsParity_clear {bits : List Bool} (hclear : ∀ bit ∈ bits, bit = false) :
    bitsParity bits = false := by
  rw [← Bool.not_eq_true, bitsParity_iff, List.count_eq_zero.mpr]
  · simp
  · intro hmem
    exact Bool.noConfusion (hclear true hmem)

/-- The parity of a sum of registers. -/
theorem parity_xor (x y : BitVec w) : parity (x ^^^ y) = xor (parity x) (parity y) := by
  unfold parity
  rw [← bitsParity_map_xor]
  congr 2
  funext i
  exact BitVec.getLsbD_xor

/-- An empty register has even parity. -/
theorem parity_zero : parity 0#w = false := by
  have hself := parity_xor (0#w) (0#w)
  rw [BitVec.xor_self, Bool.xor_self] at hself
  exact hself

/-- What falls out of a register that is shifted is its lowest bit. -/
theorem parity_shift (x : BitVec w) : parity (x >>> 1) = xor (parity x) (x.getLsbD 0) := by
  cases w with
  | zero => simp [parity, bitsParity]
  | succ n =>
    have hshifted : (List.range (n + 1)).map (x >>> 1).getLsbD
        = (List.range n).map (fun i => x.getLsbD (i + 1)) ++ [false] := by
      rw [List.range_succ, List.map_append]
      congr 1
      · refine List.map_congr_left fun i _ => ?_
        rw [BitVec.getLsbD_ushiftRight, Nat.add_comm 1 i]
      · show [(x >>> 1).getLsbD n] = [false]
        rw [BitVec.getLsbD_ushiftRight, BitVec.getLsbD_of_ge x _ (by omega)]
    have hwhole : (List.range (n + 1)).map x.getLsbD
        = x.getLsbD 0 :: (List.range n).map fun i => x.getLsbD (i + 1) := by
      rw [List.range_succ_eq_map, List.map_cons, List.map_map]
      rfl
    unfold parity
    rw [hshifted, hwhole, bitsParity_append]
    show xor (bitsParity _) false = xor (xor (x.getLsbD 0) (bitsParity _)) (x.getLsbD 0)
    rw [Bool.xor_false, Bool.xor_comm (x.getLsbD 0), Bool.xor_assoc, Bool.xor_self, Bool.xor_false]

/-- The parity of a single bit is that bit. -/
theorem parity_lowBit (hw : 0 < w) (bit : Bool) : parity (lowBit bit : BitVec w) = bit := by
  obtain ⟨n, rfl⟩ := Nat.exists_eq_succ_of_ne_zero (Nat.ne_of_gt hw)
  have hbits : (List.range (n + 1)).map (lowBit bit : BitVec (n + 1)).getLsbD
      = bit :: (List.range n).map fun i => (lowBit bit : BitVec (n + 1)).getLsbD (i + 1) := by
    rw [List.range_succ_eq_map, List.map_cons, List.map_map, getLsbD_lowBit]
    congr 1
  have hclear : ∀ other ∈ (List.range n).map fun i =>
      (lowBit bit : BitVec (n + 1)).getLsbD (i + 1), other = false := by
    intro other hmem
    obtain ⟨i, _, rfl⟩ := List.mem_map.mp hmem
    simp
  unfold parity
  rw [hbits]
  show xor bit (bitsParity _) = bit
  rw [bitsParity_clear hclear, Bool.xor_false]

/-- With a polynomial of odd parity a step keeps the parity of the register. -/
theorem parity_crcBit (hpoly : parity poly = true) (x : BitVec w) :
    parity (crcBit poly x) = parity x := by
  unfold crcBit
  split
  · rename_i hlow
    rw [parity_xor, parity_shift, hlow, hpoly]
    simp
  · rename_i hlow
    rw [Bool.not_eq_true] at hlow
    rw [parity_shift, hlow, Bool.xor_false]

/-- The parity of the register follows that of the bits fed to it. -/
theorem parity_feedBits (hw : 0 < w) (hpoly : parity poly = true) (crc : BitVec w)
    (bits : List Bool) : parity (feedBits poly crc bits) = xor (parity crc) (bitsParity bits) := by
  induction bits generalizing crc with
  | nil => simp [feedBits, bitsParity]
  | cons bit rest ih =>
    show parity (feedBits poly (crcBit poly (crc ^^^ lowBit bit)) rest)
      = xor (parity crc) (xor bit (bitsParity rest))
    rw [ih, parity_crcBit poly hpoly, parity_xor, parity_lowBit hw, Bool.xor_assoc]

/-- An odd number of flipped bits is not forgotten. -/
theorem feedBits_odd (hw : 0 < w) (hpoly : parity poly = true) {bits : List Bool}
    (hodd : Odd (bits.count true)) : feedBits poly 0#w bits ≠ 0#w := by
  intro hzero
  have hparity := parity_feedBits poly hw hpoly 0#w bits
  rw [hzero, parity_zero, (bitsParity_iff bits).mpr hodd] at hparity
  cases hparity

end Bits

end XgenLink
