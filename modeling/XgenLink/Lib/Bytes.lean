import Mathlib.Data.List.GetD
import Mathlib.Data.List.TakeDrop
import Mathlib.Tactic.Ring

/-!
# `XgenLink.Lib.Bytes`: byte strings, padded reads and little-endian numbers

A buffer is a list of bytes and a pointer into it is the list from that point
on. A C read may run past the bytes the caller meant to expose, so `readBytes`
returns exactly the number of bytes it was asked for and fills the missing ones
with zero; within bounds it is the ordinary slice (`readBytes_of_le`).

The second half is the arithmetic of little-endian numbers, once for every
width: `natToLe w n` writes `w` bytes, `natOfLe` reads them back, and the two
are inverse (`natOfLe_natToLe`, `natToLe_natOfLe`).
-/

set_option autoImplicit false

namespace XgenLink

/-- A byte string, as it lies in a buffer or on a link. -/
abbrev Bytes := List UInt8

/-- The byte a C read of `buffer[i]` returns. -/
def byteAt (buffer : Bytes) (i : Nat) : UInt8 :=
  buffer.getD i 0

/-- The `len` bytes from `offset` on, zero filled past the end. -/
def readBytes (buffer : Bytes) (offset len : Nat) : Bytes :=
  (buffer.drop offset).takeD len 0

/-! ### Reads -/

/-- A read has the length that was asked for. -/
@[simp] theorem length_readBytes (buffer : Bytes) (offset len : Nat) :
    (readBytes buffer offset len).length = len :=
  List.takeD_length _ _ _

/-- Within the buffer a read is the slice. -/
theorem readBytes_of_le (buffer : Bytes) (offset len : Nat)
    (h : offset + len ≤ buffer.length) :
    readBytes buffer offset len = (buffer.drop offset).take len := by
  unfold readBytes
  rw [List.takeD_eq_take]
  rw [List.length_drop]
  omega

/-- Reading nothing gives nothing. -/
@[simp] theorem readBytes_zero (buffer : Bytes) (offset : Nat) :
    readBytes buffer offset 0 = [] := rfl

/-- Reading a whole buffer gives it back. -/
@[simp] theorem readBytes_self (buffer : Bytes) :
    readBytes buffer 0 buffer.length = buffer := by
  rw [readBytes_of_le _ _ _ (by omega), List.drop_zero, List.take_length]

/-- What follows the bytes read has no influence on the read. -/
theorem readBytes_append_left (a b : Bytes) (offset len : Nat)
    (h : offset + len ≤ a.length) :
    readBytes (a ++ b) offset len = readBytes a offset len := by
  rw [readBytes_of_le _ _ _ (by rw [List.length_append]; omega), readBytes_of_le _ _ _ h,
    List.drop_append_of_le_length (by omega),
    List.take_append_of_le_length (by rw [List.length_drop]; omega)]

/-- A read that starts behind `a` sees only what follows `a`. -/
theorem readBytes_append_right (a b : Bytes) (offset len : Nat)
    (h : a.length ≤ offset) :
    readBytes (a ++ b) offset len = readBytes b (offset - a.length) len := by
  unfold readBytes
  rw [List.drop_append, List.drop_eq_nil_of_le h, List.nil_append]

/-- The part in the middle of three is read by its own bounds. -/
theorem readBytes_middle (a b c : Bytes) :
    readBytes (a ++ (b ++ c)) a.length b.length = b := by
  rw [readBytes_append_right _ _ _ _ (le_refl _), Nat.sub_self,
    readBytes_append_left _ _ _ _ (by omega), readBytes_self]

/-- A read taken apart byte by byte. -/
theorem readBytes_succ (buffer : Bytes) (offset len : Nat) :
    readBytes buffer offset (len + 1)
      = byteAt buffer offset :: readBytes buffer (offset + 1) len := by
  unfold readBytes byteAt
  rw [← List.tail_drop]
  cases h : buffer.drop offset with
  | nil =>
    have hlen : buffer.length ≤ offset := List.drop_eq_nil_iff.mp h
    rw [List.getD_eq_default _ _ hlen]
    rfl
  | cons b rest =>
    have hget : buffer.getD offset 0 = b := by
      rw [List.getD_eq_getElem?_getD]
      have := congrArg List.head? h
      rw [List.head?_drop] at this
      simp [this]
    rw [hget]
    rfl

/-- An index behind the first byte. -/
theorem byteAt_cons_succ (b : UInt8) (bs : Bytes) (i : Nat) :
    byteAt (b :: bs) (i + 1) = byteAt bs i := rfl

/-- The bytes of a read are the bytes of the buffer. -/
theorem byteAt_readBytes (buffer : Bytes) (offset len i : Nat) (h : i < len) :
    byteAt (readBytes buffer offset len) i = byteAt buffer (offset + i) := by
  induction len generalizing offset i with
  | zero => omega
  | succ len ih =>
    rw [readBytes_succ]
    cases i with
    | zero => rfl
    | succ i => rw [byteAt_cons_succ, ih _ _ (by omega), Nat.add_right_comm, Nat.add_assoc]

/-- A read inside a read is a read of the buffer. -/
theorem readBytes_readBytes (buffer : Bytes) (base size offset len : Nat)
    (h : offset + len ≤ size) :
    readBytes (readBytes buffer base size) offset len = readBytes buffer (base + offset) len := by
  induction len generalizing offset with
  | zero => rfl
  | succ len ih =>
    rw [readBytes_succ, readBytes_succ, ih _ (by omega), byteAt_readBytes _ _ _ _ (by omega),
      Nat.add_assoc]

/-- Reads of buffers that agree byte by byte are equal. -/
theorem readBytes_congr {a b : Bytes} {offset len : Nat}
    (h : ∀ i, offset ≤ i → i < offset + len → byteAt a i = byteAt b i) :
    readBytes a offset len = readBytes b offset len := by
  induction len generalizing offset with
  | zero => rfl
  | succ len ih =>
    rw [readBytes_succ, readBytes_succ, h offset (le_refl _) (by omega),
      ih fun i hlo hhi => h i (by omega) (by omega)]

/-- Equal reads of the same place agree byte by byte. -/
theorem byteAt_eq_of_readBytes_eq {a b : Bytes} {offset len : Nat}
    (h : readBytes a offset len = readBytes b offset len) (i : Nat)
    (hlo : offset ≤ i) (hhi : i < offset + len) : byteAt a i = byteAt b i := by
  have ha := byteAt_readBytes a offset len (i - offset) (by omega)
  have hb := byteAt_readBytes b offset len (i - offset) (by omega)
  rw [Nat.add_sub_cancel' hlo] at ha hb
  rw [← ha, ← hb, h]

/-- A byte string is what a read of its whole length returns. -/
theorem ext_byteAt {a b : Bytes} (hlen : a.length = b.length)
    (h : ∀ i, i < a.length → byteAt a i = byteAt b i) : a = b := by
  rw [← readBytes_self a, ← readBytes_self b, ← hlen]
  exact readBytes_congr fun i _ hi => h i (by omega)

/-- Inside the buffer the byte is the one at the index. -/
theorem byteAt_of_lt (buffer : Bytes) (i : Nat) (h : i < buffer.length) :
    byteAt buffer i = buffer[i] := by
  unfold byteAt
  rw [List.getD_eq_getElem _ _ h]

/-- What follows has no influence on the first bytes. -/
theorem byteAt_append_left (a b : Bytes) (i : Nat) (h : i < a.length) :
    byteAt (a ++ b) i = byteAt a i := by
  unfold byteAt
  rw [List.getD_append _ _ _ _ h]

/-- Nor does what is cut off behind an index. -/
theorem byteAt_take (a : Bytes) (n i : Nat) (h : i < n) :
    byteAt (a.take n) i = byteAt a i := by
  unfold byteAt
  rw [List.getD_eq_getElem?_getD, List.getD_eq_getElem?_getD, List.getElem?_take_of_lt h]

/-- Cutting bytes off in front moves the indices. -/
theorem byteAt_drop (a : Bytes) (n i : Nat) :
    byteAt (a.drop n) i = byteAt a (n + i) := by
  unfold byteAt
  rw [List.getD_eq_getElem?_getD, List.getD_eq_getElem?_getD, List.getElem?_drop]

/-- A byte that was written is there. -/
theorem byteAt_set_self (a : Bytes) (i : Nat) (b : UInt8) (h : i < a.length) :
    byteAt (a.set i b) i = b := by
  unfold byteAt
  rw [List.getD_eq_getElem?_getD, List.getElem?_set_self h]
  rfl

/-- The other bytes are as before. -/
theorem byteAt_set_ne (a : Bytes) (i j : Nat) (b : UInt8) (h : i ≠ j) :
    byteAt (a.set i b) j = byteAt a j := by
  unfold byteAt
  rw [List.getD_eq_getElem?_getD, List.getD_eq_getElem?_getD, List.getElem?_set_ne h]

/-- A read is the reads of its two pieces. -/
theorem readBytes_add (buffer : Bytes) (offset m n : Nat) :
    readBytes buffer offset (m + n)
      = readBytes buffer offset m ++ readBytes buffer (offset + m) n := by
  induction m generalizing offset with
  | zero => rw [Nat.zero_add, readBytes_zero, List.nil_append, Nat.add_zero]
  | succ m ih =>
    rw [Nat.add_right_comm, readBytes_succ, readBytes_succ, ih, Nat.add_right_comm offset,
      List.cons_append, Nat.add_assoc offset]

/-- A read taken apart at its last byte. -/
theorem readBytes_snoc (buffer : Bytes) (n : Nat) :
    readBytes buffer 0 (n + 1) = readBytes buffer 0 n ++ [byteAt buffer n] := by
  rw [readBytes_add, Nat.zero_add, readBytes_succ, readBytes_zero]

/-! ### Writes -/

/-- The buffer after `bytes` were written at `offset`. -/
def writeBytes (buffer : Bytes) (offset : Nat) (bytes : Bytes) : Bytes :=
  buffer.take offset ++ (bytes ++ buffer.drop (offset + bytes.length))

/-- Writing nothing changes nothing. -/
@[simp] theorem writeBytes_nil (buffer : Bytes) (offset : Nat) :
    writeBytes buffer offset [] = buffer :=
  List.take_append_drop offset buffer

section Writes

variable {buffer bytes : Bytes} {offset : Nat} (h : offset + bytes.length ≤ buffer.length)

include h

/-- A write inside the buffer keeps its size. -/
theorem length_writeBytes : (writeBytes buffer offset bytes).length = buffer.length := by
  simp only [writeBytes, List.length_append, List.length_take, List.length_drop]
  omega

/-- What was written is read back. -/
theorem readBytes_writeBytes_self :
    readBytes (writeBytes buffer offset bytes) offset bytes.length = bytes := by
  have hlen : (buffer.take offset).length = offset := by
    rw [List.length_take]
    omega
  have hmiddle := readBytes_middle (buffer.take offset) bytes (buffer.drop (offset + bytes.length))
  rwa [hlen] at hmiddle

/-- A write does not change what lies in front of it or behind it. -/
theorem readBytes_writeBytes_apart {i len : Nat}
    (hapart : i + len ≤ offset ∨ offset + bytes.length ≤ i) :
    readBytes (writeBytes buffer offset bytes) i len = readBytes buffer i len := by
  have hlen : (buffer.take offset).length = offset := by
    rw [List.length_take]
    omega
  rcases hapart with hbefore | hafter
  · rw [writeBytes, readBytes_append_left _ _ _ _ (by omega)]
    refine readBytes_congr fun j _ hj => ?_
    exact byteAt_take _ _ _ (by omega)
  · rw [writeBytes, readBytes_append_right _ _ _ _ (by omega), hlen,
      readBytes_append_right _ _ _ _ (by omega)]
    simp only [readBytes, List.drop_drop]
    congr 2
    omega

/-- Two writes one behind the other are one. -/
theorem writeBytes_append (more : Bytes) :
    writeBytes (writeBytes buffer offset bytes) (offset + bytes.length) more
      = writeBytes buffer offset (bytes ++ more) := by
  have hlen : (buffer.take offset ++ bytes).length = offset + bytes.length := by
    rw [List.length_append, List.length_take]
    omega
  have hfirst : writeBytes buffer offset bytes
      = (buffer.take offset ++ bytes) ++ buffer.drop (offset + bytes.length) := by
    rw [writeBytes, List.append_assoc]
  rw [hfirst, writeBytes, ← hlen, List.take_left, List.drop_append, hlen, writeBytes,
    List.length_append, List.append_assoc, List.append_assoc]
  rw [List.drop_eq_nil_of_le (by omega), List.nil_append, List.drop_drop]
  congr 4
  omega

end Writes

/-! ### Little-endian numbers -/

/-- The low `w` bytes of `n`, least significant first. -/
def natToLe : Nat → Nat → Bytes
  | 0, _ => []
  | w + 1, n => UInt8.ofNat n :: natToLe w (n / 256)

/-- The number whose little-endian bytes are given. -/
def natOfLe : Bytes → Nat
  | [] => 0
  | b :: bs => b.toNat + 256 * natOfLe bs

/-- As many bytes are written as were asked for. -/
@[simp] theorem length_natToLe (w n : Nat) : (natToLe w n).length = w := by
  induction w generalizing n with
  | zero => rfl
  | succ w ih => simp [natToLe, ih]

/-- A number read from `bs` fits in as many bytes. -/
theorem natOfLe_lt (bs : Bytes) : natOfLe bs < 256 ^ bs.length := by
  induction bs with
  | nil => exact Nat.one_pos
  | cons b bs ih =>
    have hb := b.toNat_lt
    rw [natOfLe, List.length_cons, pow_succ]
    omega

/-- Bytes behind `as` count with the weight of their place. -/
theorem natOfLe_append (as bs : Bytes) :
    natOfLe (as ++ bs) = natOfLe as + 256 ^ as.length * natOfLe bs := by
  induction as with
  | nil => simp [natOfLe]
  | cons a as ih =>
    rw [List.cons_append, natOfLe, natOfLe, ih, List.length_cons, pow_succ]
    ring

/-- Reading back what was written keeps the number modulo the width. -/
theorem natOfLe_natToLe (w n : Nat) : natOfLe (natToLe w n) = n % 256 ^ w := by
  induction w generalizing n with
  | zero => simp [natToLe, natOfLe, Nat.mod_one]
  | succ w ih =>
    rw [natToLe, natOfLe, ih, pow_succ, Nat.mul_comm (256 ^ w) 256, Nat.mod_mul]
    rfl

/-- Writing back what was read gives the same bytes. -/
theorem natToLe_natOfLe (bs : Bytes) : natToLe bs.length (natOfLe bs) = bs := by
  induction bs with
  | nil => rfl
  | cons b bs ih =>
    have hb : b.toNat < 256 := b.toNat_lt
    have hlow : UInt8.ofNat (b.toNat + 256 * natOfLe bs) = b := by
      apply UInt8.toNat_inj.mp
      rw [UInt8.toNat_ofNat']
      omega
    have hhigh : (b.toNat + 256 * natOfLe bs) / 256 = natOfLe bs := by omega
    rw [List.length_cons, natToLe, natOfLe, hlow, hhigh, ih]

end XgenLink
