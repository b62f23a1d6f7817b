import XgenLink.Transport.AckReceive

/-!
# `XgenLink.Proofs.FeedbackDecoding`: what ACK and SACK packets say

An acknowledgement packet carries one extension and no payload. ACK_RANGE names a largest number
and ranges that count down from it. SACK names a base and a bitmap: bit `i` stands for the number
`base + i`. A sender that reads such a packet takes the numbers out of its queue.

This module reads the packets that the library builds itself. `transport_send_ack` names the one
number that arrived. `transport_send_sack` sets a bit for every packet on the out-of-order list
that the bitmap has room for, and shortens the bitmap behind the last byte that is used.

* `packetCovers`: the numbers a packet acknowledges, as the sender reads it.
* `packetCovers_ackPacket`: an ACK covers its one number.
* `foldl_sackStep_bit`: the bits of a SACK and the list they are set for.
* `packetCovers_sackPacket`: a SACK covers only numbers of the out-of-order list.
-/

set_option autoImplicit false

namespace XgenLink

/-- The packet carries an ACK_RANGE over `n` or a SACK with the bit of `n` set. -/
def packetCovers (packet : Packet) (n : UInt32) : Prop :=
  ∃ ext ∈ (wireExts packet.extensions packet.extensions.length).1,
    (ext.type = XGL_WIRE_EXT_ACK_RANGE ∧
      ∃ ack, xglWireDecodeAckRangeExtValue ext.value 64 = .ok ack ∧
        n ∈ ackRangeNumbers true ack.largestAck.toNat ack.ranges) ∨
    (ext.type = XGL_WIRE_EXT_SACK ∧
      ∃ sack, xglWireDecodeSackExtValue ext.value 64 = .ok sack ∧
        ∃ i < sack.bitmap.length * 8, transportSackBitIsSet sack.bitmap i = true ∧
          n = sack.basePacket + UInt32.ofNat i)

/-! ### ACK -/

/-- The extensions of a feedback packet are its one record. -/
theorem wireExts_single (type : UInt8) (value : Bytes) (htype : type ≠ 0)
    (hlen : value.length ≤ 255) :
    wireExts (type :: UInt8.ofNat value.length :: value)
        (type :: UInt8.ofNat value.length :: value).length
      = ([{ type := type, value := value }], .notFound) := by
  have h := wireExts_encode [{ type := type, value := value }]
    (by simp [WireExt.Encodable, htype, hlen]) []
  simpa [encodeWireExts] using h

/-- An ACK names the one number. -/
theorem xglWireDecodeAckRangeExtValue_ackValue (n : UInt32) :
    xglWireDecodeAckRangeExtValue (ackValue n) 64
      = .ok { largestAck := n, ackDelayUs := 0, ranges := [{ gap := 0, length := 1 }] } := by
  have hlen := length_ackValue n
  have hcount : byteAt (ackValue n) 8 = 1 := rfl
  have hlargest : xglDeserializeU32Le (ackValue n) = n := by
    unfold ackValue
    rw [List.append_assoc, List.append_assoc]
    exact xglDeserializeU32Le_serialize n _
  unfold xglWireDecodeAckRangeExtValue
  rw [if_neg (by omega), hcount]
  dsimp only
  have hrest : List.drop 4 (ackValue n) = xglSerializeU32Le 0 ++ [1, 0, 0, 1, 0] := rfl
  have hranges : List.drop 9 (ackValue n) = xglSerializeU16Le 0 ++ xglSerializeU16Le 1 := rfl
  have hlength : List.drop 11 (ackValue n) = xglSerializeU16Le 1 ++ [] := rfl
  rw [if_neg (by simp [hlen]), if_neg (by decide), hlargest, hrest,
    xglDeserializeU32Le_serialize]
  simp [List.range_succ, hranges, hlength, -List.append_nil]

/-- Walking a single range of length one visits the largest number only. -/
theorem ackRangeNumbers_single (n : UInt32) :
    ackRangeNumbers true n.toNat [{ gap := 0, length := 1 }] = [n] := by
  have hlow : (if n.toNat + 1 > (1 : UInt16).toNat then n.toNat - (1 : UInt16).toNat + 1 else 0)
      = n.toNat := by
    have hone : (1 : UInt16).toNat = 1 := rfl
    rw [hone]
    split <;> omega
  unfold ackRangeNumbers
  rw [if_neg (by decide)]
  dsimp only
  rw [if_neg (by simp), if_pos rfl, Nat.sub_zero, hlow]
  simp [numbersDown, ackRangeNumbers, List.range_succ]

/-- An ACK covers its number and no other. -/
theorem packetCovers_ackPacket {config : TransportConfig} {scope : FeedbackScope} {m n : UInt32} :
    packetCovers (ackPacket config scope m) n ↔ n = m := by
  have hexts : (wireExts (ackPacket config scope m).extensions
      (ackPacket config scope m).extensions.length).1
        = [{ type := XGL_WIRE_EXT_ACK_RANGE, value := ackValue m }] := by
    have := wireExts_single XGL_WIRE_EXT_ACK_RANGE (ackValue m) (by decide)
      (by rw [length_ackValue]; omega)
    exact congrArg Prod.fst this
  unfold packetCovers
  rw [hexts]
  simp only [List.mem_singleton, exists_eq_left]
  constructor
  · rintro (⟨_, ack, hdec, hmem⟩ | ⟨htype, _⟩)
    · rw [xglWireDecodeAckRangeExtValue_ackValue] at hdec
      cases hdec
      rw [ackRangeNumbers_single] at hmem
      simpa using hmem
    · exact absurd htype (by decide)
  · rintro rfl
    exact .inl ⟨trivial, _, xglWireDecodeAckRangeExtValue_ackValue n, by
      rw [ackRangeNumbers_single]
      exact List.mem_singleton_self n⟩

/-! ### SACK -/

/-- A SACK decodes to its base and bitmap. -/
theorem xglWireDecodeSackExtValue_sackValue (base : UInt32) (bitmap : Bytes)
    (h : bitmap.length ≤ 64) :
    xglWireDecodeSackExtValue (sackValue base bitmap) 64
      = .ok { basePacket := base, bitmap := bitmap } := by
  have hlen : (sackValue base bitmap).length = 5 + bitmap.length := by
    simp [sackValue]
    omega
  have hcount : (byteAt (sackValue base bitmap) 4).toNat = bitmap.length := by
    have : byteAt (sackValue base bitmap) 4 = UInt8.ofNat bitmap.length := rfl
    rw [this, UInt8.toNat_ofNat']
    omega
  have hbase : xglDeserializeU32Le (sackValue base bitmap) = base := by
    unfold sackValue
    rw [List.append_assoc]
    exact xglDeserializeU32Le_serialize base _
  have hbitmap : readBytes (sackValue base bitmap) 5 bitmap.length = bitmap := by
    unfold sackValue
    rw [readBytes_append_right _ _ _ _ (by simp)]
    simp
  unfold xglWireDecodeSackExtValue
  rw [if_neg (by omega)]
  dsimp only
  rw [hcount, if_neg (by simp [hlen]), if_neg (by omega), hbase, hbitmap]

/-- Distinct single bits do not meet. -/
theorem single_bits_disjoint : ∀ j k : Fin 8, j ≠ k →
    ((1 : UInt8) <<< UInt8.ofNat j) &&& ((1 : UInt8) <<< UInt8.ofNat k) = 0 := by
  decide

/-- Bits outside both operands are outside their union. -/
theorem or_and_eq_zero {x y mask : UInt8} (hx : x &&& mask = 0) (hy : y &&& mask = 0) :
    (x ||| y) &&& mask = 0 := by
  rw [← UInt8.toBitVec_inj] at hx hy ⊢
  apply BitVec.eq_of_getLsbD_eq
  intro i hi
  have hxi := congrArg (fun v => v.getLsbD i) hx
  have hyi := congrArg (fun v => v.getLsbD i) hy
  simp only [UInt8.toBitVec_and, UInt8.toBitVec_or, BitVec.getLsbD_and, BitVec.getLsbD_or] at *
  rw [Bool.and_or_distrib_right, hxi, hyi]
  simp

/-- The bits after setting one: those before and the new one. -/
theorem transportSackBitIsSet_sackSetBit {bitmap : Bytes} {d i : Nat}
    (h : transportSackBitIsSet (sackSetBit bitmap d) i = true) :
    i = d ∨ transportSackBitIsSet bitmap i = true := by
  unfold transportSackBitIsSet sackSetBit at h
  unfold transportSackBitIsSet
  by_cases hbyte : d / 8 = i / 8
  · by_cases hbit : d % 8 = i % 8
    · left
      omega
    · right
      rcases Nat.lt_or_ge (i / 8) bitmap.length with hin | hout
      · rw [hbyte, byteAt_set_self _ _ _ hin] at h
        have hdisjoint := single_bits_disjoint ⟨d % 8, Nat.mod_lt _ (by omega)⟩
          ⟨i % 8, Nat.mod_lt _ (by omega)⟩ (by simpa [Fin.ext_iff] using hbit)
        rw [bne_iff_ne] at h ⊢
        intro hzero
        apply h
        exact or_and_eq_zero hzero hdisjoint
      · rw [hbyte, List.set_eq_of_length_le hout] at h
        exact h
  · right
    rwa [byteAt_set_ne _ _ _ _ hbyte] at h

/-- Every bit the loop sets stands for a buffered packet. The induction is on the packets, with
the bits set so far. -/
theorem foldl_sackStep_bit {base : UInt32} {buffered : List Packet} {bits : SackBits} {i : Nat}
    (h : transportSackBitIsSet (buffered.foldl (sackStep base) bits).bitmap i = true) :
    transportSackBitIsSet bits.bitmap i = true ∨
      ∃ b ∈ buffered, base ≤ b.packetNumber ∧ (b.packetNumber - base).toNat = i := by
  induction buffered generalizing bits with
  | nil => exact .inl h
  | cons first rest ih =>
    rw [List.foldl_cons] at h
    rcases ih h with hset | ⟨b, hb, hge, hi⟩
    · unfold sackStep at hset
      split at hset
      · exact .inl hset
      · rename_i hge
        dsimp only at hset
        split at hset
        · exact .inl hset
        · rcases transportSackBitIsSet_sackSetBit hset with rfl | hold
          · exact .inr ⟨first, List.mem_cons_self, by simpa using hge, rfl⟩
          · exact .inl hold
    · exact .inr ⟨b, List.mem_cons_of_mem _ hb, hge, hi⟩

/-- A SACK covers only numbers of the out-of-order list. -/
theorem packetCovers_sackPacket {config : TransportConfig} {scope : FeedbackScope}
    {buffered : List Packet} {base n : UInt32}
    (h : packetCovers (sackPacket config scope buffered base) n) :
    ∃ b ∈ buffered, b.packetNumber = n := by
  have hshort := length_sackBitmap_le buffered base
  have hexts : (wireExts (sackPacket config scope buffered base).extensions
      (sackPacket config scope buffered base).extensions.length).1
        = [{ type := XGL_WIRE_EXT_SACK, value := sackValue base (sackBitmap buffered base) }] := by
    have := wireExts_single XGL_WIRE_EXT_SACK (sackValue base (sackBitmap buffered base))
      (by decide) (by simp [sackValue]; omega)
    exact congrArg Prod.fst this
  unfold packetCovers at h
  rw [hexts] at h
  simp only [List.mem_singleton, exists_eq_left] at h
  -- the packet is no ACK_RANGE, so it covers by its SACK
  rcases h with ⟨htype, _⟩ | ⟨_, sack, hdec, i, _, hbit, rfl⟩
  · exact absurd htype (by decide)
  rw [xglWireDecodeSackExtValue_sackValue _ _ (by omega)] at hdec
  cases hdec
  dsimp only at hbit ⊢
  -- a bit of the shortened bitmap is a bit of the whole one
  have hfull : transportSackBitIsSet (buffered.foldl (sackStep base) {}).bitmap i = true := by
    unfold sackBitmap at hbit
    dsimp only at hbit
    unfold transportSackBitIsSet at hbit ⊢
    rcases Nat.lt_or_ge (i / 8) (if (buffered.foldl (sackStep base) {}).hasReceived
        then (buffered.foldl (sackStep base) {}).highestBit / 8 + 1 else 1) with hin | hout
    · rwa [byteAt_take _ _ _ hin] at hbit
    · have hzero : byteAt ((buffered.foldl (sackStep base) {}).bitmap.take
          (if (buffered.foldl (sackStep base) {}).hasReceived
            then (buffered.foldl (sackStep base) {}).highestBit / 8 + 1 else 1)) (i / 8) = 0 := by
        unfold byteAt
        rw [List.getD_eq_getElem?_getD, List.getElem?_eq_none (by rw [List.length_take]; omega)]
        rfl
      rw [hzero] at hbit
      simp at hbit
  rcases foldl_sackStep_bit hfull with hnone | ⟨b, hb, hge, hi⟩
  · -- the empty bitmap has no bits
    exfalso
    have hzero : byteAt ({} : SackBits).bitmap (i / 8) = 0 := by
      unfold byteAt
      rw [List.getD_eq_getElem?_getD, List.getElem?_replicate]
      split <;> rfl
    unfold transportSackBitIsSet at hnone
    rw [hzero] at hnone
    simp at hnone
  · refine ⟨b, hb, ?_⟩
    rw [← hi, UInt32.ofNat_toNat, UInt32.add_comm, UInt32.sub_add_cancel]

end XgenLink
