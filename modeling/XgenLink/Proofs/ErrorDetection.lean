import XgenLink.Lib.CrcErrors
import XgenLink.Proofs.Forwarding
import XgenLink.Proofs.ParserSound
import XgenLink.Wire.Crc

/-!
# `XgenLink.Proofs.ErrorDetection`: the errors the frame checksum detects

A frame ends with two bytes of checksum over all bytes before them. The parser makes this check,
and the datalink makes it again on the frame it is handed. An error flips bits of the frame, the
two bytes of checksum included; it goes undetected when the check holds for the flipped bytes too.

The check is that of a polynomial. `Lib.CrcErrors` follows a register that takes bits one at a
time: it ends at zero exactly for the multiples of the generator, and an error is undetected
exactly when the flipped bits alone are such a multiple. Two facts about the generator remain. It
is divisible by one more than the variable, so an odd number of flipped bits shows. Its highest
and its lowest bit are set, so a burst within sixteen consecutive bits shows. The checksum is sent
in the order in which the register takes bits, so bursts across the end of the message count too.

* `FrameCrcFits`, `frameCrcFits_iff`: the check of parser and datalink, as a register that ends at
  zero.
* `frameCrcFits_corrupt`: the check of a flipped frame, from the flipped bits alone.
* `Burst.split`: a burst between two stretches of clear bits.
* `crc_detects`: the errors that the check detects, for messages of any length.
-/

set_option autoImplicit false

namespace XgenLink

/-- The check that the parser and the datalink make of a frame: the checksum of all but the last
two bytes is the number in these. -/
def FrameCrcFits (frame : Bytes) : Prop :=
  xglCrc16Modbus (readBytes frame 0 (frame.length - XGL_CRC16_SIZE)) =
    xglDeserializeU16Le (frame.drop (frame.length - XGL_CRC16_SIZE))

/-- The frame with bits of it flipped. -/
def corrupt (frame error : Bytes) : Bytes :=
  List.zipWith (· ^^^ ·) frame error

/-- The bits an error flips, the least significant of a byte first. -/
def errorBits (error : Bytes) : List Bool :=
  wireBits (messageBits error)

/-- All the bits set lie within so many consecutive places. -/
def Burst (width : Nat) (bits : List Bool) : Prop :=
  ∃ start, ∀ i, bits.getD i false = true → start ≤ i ∧ i < start + width

/-! ### The check -/

/-- Two bytes are the bits of the number they hold. The low byte comes first on the wire, and its
least significant bit is the first the register takes. -/
theorem toBitVec_xglDeserializeU16Le (b0 b1 : UInt8) :
    (xglDeserializeU16Le [b0, b1]).toBitVec = bitsValue (errorBits [b0, b1]) := by
  have hshift : (xglDeserializeU16Le [b0, b1]).toBitVec
      = b0.toBitVec.setWidth 16 ||| (b1.toBitVec.setWidth 16 <<< 8) := rfl
  have hbits : errorBits [b0, b1] = byteBits b0.toBitVec ++ byteBits b1.toBitVec := by
    simp [errorBits, wireBits, messageBits]
  have hlength : (byteBits b0.toBitVec).length = 8 := by simp [byteBits]
  rw [hshift, hbits]
  apply BitVec.eq_of_getLsbD_eq
  intro i hi
  rw [getLsbD_bitsValue _ hi, BitVec.getLsbD_or, BitVec.getLsbD_shiftLeft, BitVec.getLsbD_setWidth,
    BitVec.getLsbD_setWidth]
  by_cases hlow : i < 8
  · rw [List.getD_append _ _ _ _ (by omega)]
    simp [byteBits, hi, hlow, List.getD_eq_getElem?_getD]
  · rw [List.getD_append_right _ _ _ _ (by omega), hlength]
    simp [byteBits, hi, hlow, List.getD_eq_getElem?_getD, show i - 8 < 8 by omega,
      show i - 8 < 16 by omega, BitVec.getLsbD_of_ge b0.toBitVec i (by omega)]

/-- The polynomial is odd and has its highest bit set. -/
theorem modbus_poly : parity CRC16_MODBUS_POLY = true ∧
    CRC16_MODBUS_POLY.getLsbD (16 - 1) = true := by
  decide

/-- The check holds when the register ends at zero behind the whole frame. -/
theorem frameCrcFits_iff {frame : Bytes} (hlen : XGL_CRC16_SIZE ≤ frame.length) :
    FrameCrcFits frame ↔
      reflectedCrc CRC16_MODBUS_POLY 0xFFFF#16 (messageBits frame) = 0#16 := by
  unfold XGL_CRC16_SIZE at hlen
  obtain ⟨front, b0, b1, rfl⟩ : ∃ front b0 b1, frame = front ++ [b0, b1] := by
    have htwo : (frame.drop (frame.length - 2)).length = 2 := by
      rw [List.length_drop]
      omega
    obtain ⟨b0, b1, hlast⟩ := List.length_eq_two.mp htwo
    exact ⟨frame.take (frame.length - 2), b0, b1, by rw [← hlast, List.take_append_drop]⟩
  have hfront : (front ++ [b0, b1]).length - XGL_CRC16_SIZE = front.length := by
    simp [XGL_CRC16_SIZE]
  have hbits : (errorBits [b0, b1]).length = 16 := by
    simp [errorBits, wireBits, messageBits, byteBits]
  have hread : readBytes (front ++ [b0, b1]) 0 front.length = front := by
    rw [readBytes_append_left _ _ _ _ (by omega), readBytes_self]
  have hcrc : (xglCrc16Modbus front).toBitVec
      = reflectedCrc CRC16_MODBUS_POLY 0xFFFF#16 (messageBits front) :=
    xglCrc16ModbusUpdate_toBitVec 0xFFFF front
  unfold FrameCrcFits
  rw [hfront, hread, List.drop_left, ← UInt16.toBitVec_inj, toBitVec_xglDeserializeU16Le,
    hcrc,
    show messageBits (front ++ [b0, b1]) = messageBits front ++ messageBits [b0, b1] from
      List.map_append,
    reflectedCrc_append, reflectedCrc_eq_feedBits _ (by omega) _ (messageBits [b0, b1]),
    show wireBits (messageBits [b0, b1]) = errorBits [b0, b1] from rfl,
    feedBits_eq _ _ (by omega), hbits]
  constructor
  · intro hfits
    rw [hfits, BitVec.xor_self, crcBits_zero]
  · intro hzero
    exact BitVec.xor_eq_zero_iff.mp (crcBits_eq_zero _ modbus_poly.2 hzero)

/-! ### Errors -/

/-- What an error does to the register does not depend on the frame. -/
theorem frameCrcFits_corrupt {frame error : Bytes} (hlen : frame.length = error.length)
    (htwo : XGL_CRC16_SIZE ≤ frame.length) (hfits : FrameCrcFits frame) :
    FrameCrcFits (corrupt frame error) ↔
      feedBits CRC16_MODBUS_POLY 0#16 (errorBits error) = 0#16 := by
  have hcorrupt : (corrupt frame error).length = frame.length := by
    unfold corrupt
    rw [List.length_zipWith, hlen, Nat.min_self]
  have hmessage : messageBits (corrupt frame error)
      = List.zipWith (· ^^^ ·) (messageBits frame) (messageBits error) := by
    unfold messageBits corrupt
    rw [List.map_zipWith, List.zipWith_map]
    rfl
  have hsum := reflectedCrc_xor CRC16_MODBUS_POLY 0xFFFF#16 0#16
    (show (messageBits frame).length = (messageBits error).length by simpa [messageBits] using hlen)
  rw [(frameCrcFits_iff htwo).mp hfits, BitVec.zero_xor, BitVec.xor_zero, ← hmessage,
    reflectedCrc_eq_feedBits CRC16_MODBUS_POLY (by omega) 0#16] at hsum
  rw [frameCrcFits_iff (hcorrupt ▸ htwo), hsum]
  rfl

/-- A list whose set bits are a burst is clear, a stretch, and clear again. The stretch is no
longer than the burst is wide. -/
theorem Burst.split {width : Nat} {bits : List Bool} (h : Burst width bits)
    (hset : true ∈ bits) :
    ∃ before burst after, bits = before ++ burst ++ after ∧ burst.length ≤ width ∧
      true ∈ burst ∧ (∀ bit ∈ before, bit = false) ∧ ∀ bit ∈ after, bit = false := by
  obtain ⟨start, hwithin⟩ := h
  have hbefore : ∀ bit ∈ bits.take start, bit = false := by
    intro bit hmem
    obtain ⟨i, hi, rfl⟩ := List.mem_iff_getElem.mp hmem
    rw [List.length_take] at hi
    rw [List.getElem_take, ← Bool.not_eq_true]
    intro hbit
    have := hwithin i (by rw [List.getD_eq_getElem _ _ (by omega)]; exact hbit)
    omega
  have hafter : ∀ bit ∈ bits.drop (start + width), bit = false := by
    intro bit hmem
    obtain ⟨i, hi, rfl⟩ := List.mem_iff_getElem.mp hmem
    rw [List.length_drop] at hi
    rw [List.getElem_drop, ← Bool.not_eq_true]
    intro hbit
    have := hwithin (start + width + i) (by rw [List.getD_eq_getElem _ _ (by omega)]; exact hbit)
    omega
  have hsplit : bits = bits.take start ++ (bits.drop start).take width ++
      bits.drop (start + width) := by
    rw [List.append_assoc, ← List.drop_drop, List.take_append_drop, List.take_append_drop]
  refine ⟨_, _, _, hsplit, List.length_take_le _ _, ?_, hbefore, hafter⟩
  rw [hsplit, List.mem_append, List.mem_append] at hset
  rcases hset with (hset | hset) | hset
  · exact absurd (hbefore true hset) (by simp)
  · exact hset
  · exact absurd (hafter true hset) (by simp)

/-- A byte that is not zero has a bit set. -/
theorem true_mem_errorBits {error : Bytes} (h : ∃ byte ∈ error, byte ≠ 0) :
    true ∈ errorBits error := by
  obtain ⟨byte, hmem, hne⟩ := h
  by_contra hclear
  refine hne (UInt8.toBitVec_inj.mp (BitVec.eq_of_getLsbD_eq fun i hi => ?_))
  have hzero : (0 : UInt8).toBitVec.getLsbD i = false := BitVec.getLsbD_zero
  rw [hzero, ← Bool.not_eq_true]
  intro hbit
  refine hclear ?_
  unfold errorBits wireBits messageBits
  rw [List.mem_flatMap]
  refine ⟨byte.toBitVec, List.mem_map_of_mem hmem, ?_⟩
  unfold byteBits
  rw [← hbit]
  exact List.mem_map_of_mem (List.mem_range.mpr hi)

/-- An error that flips an odd number of the bits of a codeword, or only bits within sixteen
consecutive places of it, fails the check. So neither the datalink accepts the corrupted bytes
nor does a parser report them. -/
theorem crc_detects (message error : Bytes)
    (hlen : error.length = (appendFrameCrc message).length) (hne : ∃ byte ∈ error, byte ≠ 0)
    (hpattern : Odd ((errorBits error).count true) ∨ Burst 16 (errorBits error)) :
    let corrupted := corrupt (appendFrameCrc message) error
    xglCrc16Modbus (readBytes corrupted 0 (corrupted.length - XGL_CRC16_SIZE)) ≠
        xglDeserializeU16Le (corrupted.drop (corrupted.length - XGL_CRC16_SIZE)) ∧
      (∀ authRequired key,
        (xglDatalinkDecodeRxMetadata corrupted corrupted.length authRequired key).1 ≠ .ok) ∧
      ∀ header exts, ¬ WellFormedFrame corrupted header exts := by
  intro corrupted
  have htwo : XGL_CRC16_SIZE ≤ (appendFrameCrc message).length := by
    rw [length_appendFrameCrc]
    omega
  have hfails : ¬ FrameCrcFits corrupted := by
    rw [frameCrcFits_corrupt hlen.symm htwo (appendFrameCrc_crc message)]
    -- an odd number of flipped bits, or a burst
    rcases hpattern with hodd | hburst
    · exact feedBits_odd CRC16_MODBUS_POLY (by omega) modbus_poly.1 hodd
    · obtain ⟨before, burst, after, hsplit, hwidth, hset, hbefore, hafter⟩ :=
        hburst.split (true_mem_errorBits hne)
      rw [hsplit]
      exact feedBits_burst CRC16_MODBUS_POLY modbus_poly.2 hbefore hafter hwidth hset
  refine ⟨hfails, ?_, ?_⟩
  · intro authRequired key haccepted
    generalize hdecoded : xglDatalinkDecodeRxMetadata corrupted corrupted.length authRequired key
      = decoded at haccepted
    obtain ⟨err, metadata⟩ := decoded
    cases haccepted
    exact hfails (xglDatalinkDecodeRxMetadata_eq_ok hdecoded).crc
  · intro header exts hwell
    exact hfails hwell.crc

/-- Three bits flipped in the message and one in its checksum, within sixteen places. -/
theorem crc_detects_across_the_end :
    let corrupted := corrupt (appendFrameCrc [1, 2, 3]) [0, 0, 0xA8, 0x01, 0]
    corrupted ≠ appendFrameCrc [1, 2, 3] ∧
      xglCrc16Modbus (readBytes corrupted 0 (corrupted.length - XGL_CRC16_SIZE)) ≠
        xglDeserializeU16Le (corrupted.drop (corrupted.length - XGL_CRC16_SIZE)) := by
  intro corrupted
  have hburst : Burst 16 (errorBits [0, 0, 0xA8, 0x01, 0]) := by
    have hplaces : ∀ i, i < 40 → (errorBits [0, 0, 0xA8, 0x01, 0]).getD i false = true →
        19 ≤ i ∧ i < 19 + 16 := by decide +kernel
    refine ⟨19, fun i hbit => hplaces i ?_ hbit⟩
    by_contra hout
    rw [List.getD_eq_default _ _ (by
      show (errorBits [0, 0, 0xA8, 0x01, 0]).length ≤ i
      rw [show (errorBits [0, 0, 0xA8, 0x01, 0]).length = 40 from by decide +kernel]
      omega)] at hbit
    cases hbit
  exact ⟨by decide +kernel, (crc_detects [1, 2, 3] [0, 0, 0xA8, 0x01, 0] (by decide +kernel)
    ⟨0xA8, by simp, by decide⟩ (.inr hburst)).1⟩

end XgenLink
