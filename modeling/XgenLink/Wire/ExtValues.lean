import XgenLink.Lib.ValueCodec
import XgenLink.Wire.Ext

/-!
# `XgenLink.Wire.ExtValues`: the six extension value codecs

`XgenLink.Wire.Ext` has the layouts as the transport uses them, into buffers that are always large
enough. Here each encoder has its room check back, and the two layouts only tools and tests use,
the SESSION encoder and the ROUTE codec, are added.

`ext_values_exact` says that every one of the six pairs is exact: a value that fits is read back
as it was written, and a byte string that is accepted is what the encoder writes for the fields
read from it. ACK_RANGE and SACK have a list behind their fixed fields, with a length that has to
agree with the size of the value; the others have a fixed size.

* `xglSerializeU16Le_field` and its siblings: a field at an offset of a value.
* `ackRangesAt`, `ackRangeBytes`: the list of an ACK_RANGE, read and written.
* `ackRangeCodec` to `routeCodec`: the six codecs as values of `ValueCodec`.
* `ext_values_exact`: all of them are exact.
-/

set_option autoImplicit false

namespace XgenLink

/-! ### Encoders with their room checks -/

/-- `xgl_wire_encode_fragment_ext_value` into a buffer of the given size. -/
def xglWireEncodeFragmentExtValueInto (bufferSize : Nat) (fragment : FragmentExt) :
    Except XglError Bytes :=
  if bufferSize < XGL_FRAGMENT_EXT_VALUE_SIZE then .error .bufferTooSmall
  else
    .ok (xglWireEncodeFragmentExtValue fragment.messageId fragment.fragmentOffset
      fragment.messageLen)

/-- `xgl_wire_encode_session_ext_value`. -/
def xglWireEncodeSessionExtValue (bufferSize : Nat) (sessionEpoch : UInt32)
    (incarnationId : UInt64) : Except XglError Bytes :=
  if bufferSize < XGL_SESSION_EXT_VALUE_SIZE then .error .bufferTooSmall
  else .ok (xglSerializeU32Le sessionEpoch ++ wireSerializeU64Le incarnationId)

/-- `xgl_wire_encode_security_ext_value` into a buffer of the given size. The tag
length is looked at before the room. -/
def xglWireEncodeSecurityExtValueInto (bufferSize : Nat) (security : SecurityExt) :
    Except XglError Bytes :=
  match xglWireEncodeSecurityExtValue security.keyId security.nonceId security.tagLen with
  | .error err => .error err
  | .ok value =>
    if bufferSize < XGL_SECURITY_EXT_VALUE_SIZE then .error .bufferTooSmall else .ok value

/-- The size of a ROUTE_EXT value, a literal of the source. -/
def XGL_ROUTE_EXT_VALUE_SIZE : Nat := 10

/-- The fields of a ROUTE_EXT. -/
structure RouteExt where
  previousHop : UInt16
  nextHop : UInt16
  routeEpoch : UInt32
  metric : UInt16
  deriving DecidableEq, Repr

/-- `xgl_wire_encode_route_ext_value`. -/
def xglWireEncodeRouteExtValue (bufferSize : Nat) (route : RouteExt) : Except XglError Bytes :=
  if bufferSize < XGL_ROUTE_EXT_VALUE_SIZE then .error .bufferTooSmall
  else
    .ok (xglSerializeU16Le route.previousHop ++ xglSerializeU16Le route.nextHop ++
      xglSerializeU32Le route.routeEpoch ++ xglSerializeU16Le route.metric)

/-- `xgl_wire_decode_route_ext_value`. -/
def xglWireDecodeRouteExtValue (buffer : Bytes) : Except XglError RouteExt :=
  if buffer.length != XGL_ROUTE_EXT_VALUE_SIZE then .error .invalidFrame
  else
    .ok { previousHop := xglDeserializeU16Le buffer
          nextHop := xglDeserializeU16Le (buffer.drop 2)
          routeEpoch := xglDeserializeU32Le (buffer.drop 4)
          metric := xglDeserializeU16Le (buffer.drop 8) }

/-! ### 64-bit fields -/

/-- The 64-bit serializer writes the little-endian bytes. -/
theorem wireSerializeU64Le_eq (value : UInt64) :
    wireSerializeU64Le value = natToLe 8 value.toNat := by
  show [_, _, _, _, _, _, _, _] = natToLe 8 value.toNat
  simp only [natToLe, List.cons.injEq, and_true]
  refine ⟨?_, ?_, ?_, ?_, ?_, ?_, ?_, ?_⟩ <;> apply UInt8.toNat_inj.mp <;>
    simp [Nat.shiftRight_eq_div_pow, Nat.and_two_pow_sub_one_eq_mod _ 8,
      Nat.div_div_eq_div_mul]

/-- The first `n` rounds of the 64-bit deserializer have read the first `n` bytes. -/
theorem toNat_wireDeserializeU64Le_rounds (buffer : Bytes) (n : Nat) (hn : n ≤ 8) :
    ((List.range n).foldl (fun value i =>
      value ||| ((byteAt buffer i).toUInt64 <<< UInt64.ofNat (8 * i))) (0 : UInt64)).toNat
      = natOfLe (readBytes buffer 0 n) := by
  induction n with
  | zero => rfl
  | succ n ih =>
    have hlow : natOfLe (readBytes buffer 0 n) < 2 ^ (8 * n) := by
      have hlt := natOfLe_lt (readBytes buffer 0 n)
      rw [length_readBytes] at hlt
      rwa [pow_mul]
    have hbyte := (byteAt buffer n).toNat_lt
    have hshift : (UInt64.ofNat (8 * n)).toNat % 64 = 8 * n := by
      rw [UInt64.toNat_ofNat']
      omega
    -- the byte lands above the ones read so far and inside the word
    have hfits : (byteAt buffer n).toNat <<< (8 * n) < 2 ^ 64 := by
      rw [Nat.shiftLeft_eq]
      calc (byteAt buffer n).toNat * 2 ^ (8 * n) < 2 ^ 8 * 2 ^ (8 * n) :=
            Nat.mul_lt_mul_of_pos_right hbyte (Nat.two_pow_pos _)
        _ = 2 ^ (8 + 8 * n) := (pow_add 2 8 (8 * n)).symm
        _ ≤ 2 ^ 64 := Nat.pow_le_pow_right (by omega) (by omega)
    rw [List.range_succ, List.foldl_append, List.foldl_cons, List.foldl_nil, UInt64.toNat_or,
      ih (by omega), UInt64.toNat_shiftLeft, hshift, UInt8.toNat_toUInt64,
      Nat.mod_eq_of_lt hfits, or_shiftLeft_eq_add _ _ _ hlow, readBytes_snoc, natOfLe_append,
      length_readBytes, pow_mul]
    simp [natOfLe]

/-- The 64-bit deserializer reads the number of its eight bytes. -/
theorem toNat_wireDeserializeU64Le (buffer : Bytes) :
    (wireDeserializeU64Le buffer).toNat = natOfLe (readBytes buffer 0 8) :=
  toNat_wireDeserializeU64Le_rounds buffer 8 (le_refl _)

/-- A 64-bit field is read back from the bytes written for it. -/
@[simp] theorem wireDeserializeU64Le_serialize (value : UInt64) (rest : Bytes) :
    wireDeserializeU64Le (wireSerializeU64Le value ++ rest) = value := by
  have hlt : value.toNat < 256 ^ 8 := value.toNat_lt
  have hread : readBytes (wireSerializeU64Le value ++ rest) 0 8 = wireSerializeU64Le value :=
    (readBytes_append_left _ rest 0 8 (le_refl _)).trans (readBytes_self _)
  apply UInt64.toNat_inj.mp
  rw [toNat_wireDeserializeU64Le, hread, wireSerializeU64Le_eq, natOfLe_natToLe,
    Nat.mod_eq_of_lt hlt]

/-! ### Fields inside a value -/

/-- Writing back the 16-bit field at `offset` gives the bytes it was read from. -/
theorem xglSerializeU16Le_field (buffer : Bytes) (offset : Nat) :
    xglSerializeU16Le (xglDeserializeU16Le (buffer.drop offset)) = readBytes buffer offset 2 := by
  rw [xglSerializeU16Le_deserialize]
  simp only [byteAt_drop, readBytes_succ, readBytes_zero, Nat.add_zero]

/-- Writing back the 32-bit field at `offset` gives the bytes it was read from. -/
theorem xglSerializeU32Le_field (buffer : Bytes) (offset : Nat) :
    xglSerializeU32Le (xglDeserializeU32Le (buffer.drop offset)) = readBytes buffer offset 4 := by
  rw [xglSerializeU32Le_deserialize]
  simp only [byteAt_drop, readBytes_succ, readBytes_zero, Nat.add_zero, Nat.add_assoc]

/-- Writing back the 64-bit field at `offset` gives the bytes it was read from. -/
theorem wireSerializeU64Le_field (buffer : Bytes) (offset : Nat) :
    wireSerializeU64Le (wireDeserializeU64Le (buffer.drop offset)) = readBytes buffer offset 8 := by
  have hread : readBytes (buffer.drop offset) 0 8 = readBytes buffer offset 8 := by
    rw [readBytes, readBytes, List.drop_drop, Nat.add_zero]
  rw [wireSerializeU64Le_eq, toNat_wireDeserializeU64Le, hread]
  have hback := natToLe_natOfLe (readBytes buffer offset 8)
  rwa [length_readBytes] at hback

/-! ### The list of an ACK_RANGE -/

/-- The ranges `xgl_wire_decode_ack_range_ext_value` reads from `offset` on. -/
def ackRangesAt (buffer : Bytes) (offset count : Nat) : List WireAckRange :=
  (List.range count).map fun i =>
    { gap := xglDeserializeU16Le (buffer.drop (offset + 4 * i))
      length := xglDeserializeU16Le (buffer.drop (offset + 4 * i + 2)) }

/-- The bytes `xgl_wire_encode_ack_range_ext_value` writes for its ranges. -/
def ackRangeBytes (ranges : List WireAckRange) : Bytes :=
  ranges.flatMap fun r => xglSerializeU16Le r.gap ++ xglSerializeU16Le r.length

/-- The ranges by their first one. -/
theorem ackRangesAt_succ (buffer : Bytes) (offset count : Nat) :
    ackRangesAt buffer offset (count + 1)
      = { gap := xglDeserializeU16Le (buffer.drop offset)
          length := xglDeserializeU16Le (buffer.drop (offset + 2)) }
        :: ackRangesAt buffer (offset + 4) count := by
  have hshift : ∀ i, offset + 4 * (i + 1) = offset + 4 + 4 * i := fun i => by omega
  simp only [ackRangesAt, List.range_succ_eq_map, List.map_cons, List.map_map, Nat.mul_zero,
    Nat.add_zero, Function.comp_def, Nat.succ_eq_add_one, hshift]

/-- A range takes four bytes. -/
@[simp] theorem length_ackRangeBytes (ranges : List WireAckRange) :
    (ackRangeBytes ranges).length = 4 * ranges.length := by
  induction ranges with
  | nil => rfl
  | cons r ranges ih =>
    show (xglSerializeU16Le r.gap ++ xglSerializeU16Le r.length ++ ackRangeBytes ranges).length
      = _
    simp only [List.length_append, ih, length_xglSerializeU16Le, List.length_cons]
    omega

/-- Ranges are read back as they were written. -/
theorem ackRangesAt_ackRangeBytes (ranges : List WireAckRange) (before : Bytes) :
    ackRangesAt (before ++ ackRangeBytes ranges) before.length ranges.length = ranges := by
  induction ranges generalizing before with
  | nil => rfl
  | cons r ranges ih =>
    have hsplit : before ++ ackRangeBytes (r :: ranges)
        = (before ++ (xglSerializeU16Le r.gap ++ xglSerializeU16Le r.length)) ++
          ackRangeBytes ranges := by
      rw [List.append_assoc]
      rfl
    have hgap : (before ++ ackRangeBytes (r :: ranges)).drop before.length
        = xglSerializeU16Le r.gap ++ (xglSerializeU16Le r.length ++ ackRangeBytes ranges) := by
      rw [List.drop_left]
      exact List.append_assoc _ _ _
    have hlength : (before ++ ackRangeBytes (r :: ranges)).drop (before.length + 2)
        = xglSerializeU16Le r.length ++ ackRangeBytes ranges := by
      rw [← List.drop_drop, hgap]
      rfl
    have hrest := ih (before ++ (xglSerializeU16Le r.gap ++ xglSerializeU16Le r.length))
    rw [← hsplit] at hrest
    rw [List.length_cons, ackRangesAt_succ, hgap, hlength, xglDeserializeU16Le_serialize,
      xglDeserializeU16Le_serialize]
    congr 1
    simpa using hrest

/-- Ranges that were read are written as the bytes they were read from. -/
theorem ackRangeBytes_ackRangesAt (buffer : Bytes) (offset count : Nat) :
    ackRangeBytes (ackRangesAt buffer offset count) = readBytes buffer offset (4 * count) := by
  induction count generalizing offset with
  | zero => rfl
  | succ count ih =>
    have hlen : 4 * (count + 1) = 2 + (2 + 4 * count) := by omega
    rw [ackRangesAt_succ, hlen, readBytes_add, readBytes_add]
    show xglSerializeU16Le _ ++ xglSerializeU16Le _ ++ ackRangeBytes _ = _
    rw [ih, xglSerializeU16Le_field, xglSerializeU16Le_field, List.append_assoc]

/-! ### The six codecs -/

/-- The ACK_RANGE codec: at most 61 ranges, decoded into the caller's array. -/
def ackRangeCodec : ValueCodec AckRangeExt XglError where
  Valid value := value.ranges.length ≤ 61
  size value := 9 + value.ranges.length * 4
  room value := value.ranges.length
  encode bufferSize value :=
    xglWireEncodeAckRangeExtValue bufferSize value.largestAck value.ackDelayUs value.ranges
  decode capacity buffer := xglWireDecodeAckRangeExtValue buffer capacity

/-- The SACK codec: at most 250 bytes of bitmap, decoded into the caller's array. -/
def sackCodec : ValueCodec SackExt XglError where
  Valid value := value.bitmap.length ≤ 250
  size value := 5 + value.bitmap.length
  room value := value.bitmap.length
  encode bufferSize value := xglWireEncodeSackExtValue bufferSize value.basePacket value.bitmap
  decode capacity buffer := xglWireDecodeSackExtValue buffer capacity

/-- The FRAGMENT codec. -/
def fragmentCodec : ValueCodec FragmentExt XglError where
  Valid _ := True
  size _ := XGL_FRAGMENT_EXT_VALUE_SIZE
  room _ := 0
  encode := xglWireEncodeFragmentExtValueInto
  decode _ buffer := xglWireDecodeFragmentExtValue buffer

/-- The SESSION codec, over the epoch and the incarnation id. -/
def sessionCodec : ValueCodec (UInt32 × UInt64) XglError where
  Valid _ := True
  size _ := XGL_SESSION_EXT_VALUE_SIZE
  room _ := 0
  encode bufferSize value := xglWireEncodeSessionExtValue bufferSize value.1 value.2
  decode _ buffer := xglWireDecodeSessionExtValue buffer

/-- The SECURITY codec, over fields that announce a tag. -/
def securityCodec : ValueCodec SecurityExt XglError where
  Valid value := value.tagLen ≠ 0
  size _ := XGL_SECURITY_EXT_VALUE_SIZE
  room _ := 0
  encode := xglWireEncodeSecurityExtValueInto
  decode _ buffer := xglWireDecodeSecurityExtValue buffer

/-- The ROUTE codec. -/
def routeCodec : ValueCodec RouteExt XglError where
  Valid _ := True
  size _ := XGL_ROUTE_EXT_VALUE_SIZE
  room _ := 0
  encode := xglWireEncodeRouteExtValue
  decode _ buffer := xglWireDecodeRouteExtValue buffer

/-- A whole value of `n` bytes, read in two pieces. -/
theorem readBytes_pieces {buffer : Bytes} {n : Nat} (hlen : buffer.length = n) :
    readBytes buffer 0 n = buffer := by
  rw [← hlen, readBytes_self]

/-- The ACK_RANGE codec is exact. The count of ranges is a byte of the value and has to agree with
its length. -/
theorem ackRangeCodec_exact : ackRangeCodec.Exact 255 := by
  apply ValueCodec.Exact.of_inverse
  · intro value bufferSize capacity hvalid hsize hroom
    simp only [ackRangeCodec] at hvalid hsize hroom ⊢
    have hcount : (UInt8.ofNat value.ranges.length).toNat = value.ranges.length := by
      rw [UInt8.toNat_ofNat']
      omega
    let head : Bytes := xglSerializeU32Le value.largestAck ++ xglSerializeU32Le value.ackDelayUs ++
      [UInt8.ofNat value.ranges.length]
    have hlen : (head ++ ackRangeBytes value.ranges).length = 9 + value.ranges.length * 4 := by
      rw [List.length_append, length_ackRangeBytes]
      show 9 + _ = _
      omega
    have hcountByte : byteAt (head ++ ackRangeBytes value.ranges) 8
        = UInt8.ofNat value.ranges.length := rfl
    refine ⟨head ++ ackRangeBytes value.ranges, ?_, hlen, by omega, ?_⟩
    · unfold xglWireEncodeAckRangeExtValue
      dsimp only
      rw [if_neg (by omega), if_neg (by omega)]
      rfl
    · have hranges := ackRangesAt_ackRangeBytes value.ranges head
      unfold xglWireDecodeAckRangeExtValue
      dsimp only
      rw [hcountByte, hcount, hlen, if_neg (by omega), if_neg (by simp),
        if_neg (by omega)]
      have hlargest : xglDeserializeU32Le (head ++ ackRangeBytes value.ranges)
          = value.largestAck := by
        show xglDeserializeU32Le (xglSerializeU32Le value.largestAck ++ _) = _
        rw [xglDeserializeU32Le_serialize]
      have hdelay : xglDeserializeU32Le ((head ++ ackRangeBytes value.ranges).drop 4)
          = value.ackDelayUs := by
        show xglDeserializeU32Le (xglSerializeU32Le value.ackDelayUs ++ _) = _
        rw [xglDeserializeU32Le_serialize]
      rw [hlargest, hdelay]
      exact congrArg (fun r => Except.ok (AckRangeExt.mk _ _ r)) hranges
  · intro bytes capacity value hlimit hdecode
    simp only [ackRangeCodec, xglWireDecodeAckRangeExtValue] at hdecode ⊢
    split at hdecode
    · cases hdecode
    · split at hdecode
      · cases hdecode
      · rename_i hcount
        split at hdecode
        · cases hdecode
        · rename_i hroom
          have hlen : 9 + (byteAt bytes 8).toNat * 4 = bytes.length := by simpa using hcount
          injection hdecode with hvalue
          subst hvalue
          dsimp only
          have hlength : ((List.range (byteAt bytes 8).toNat).map fun i => WireAckRange.mk
              (xglDeserializeU16Le (bytes.drop (9 + 4 * i)))
              (xglDeserializeU16Le (bytes.drop (9 + 4 * i + 2)))).length
              = (byteAt bytes 8).toNat := by
            rw [List.length_map, List.length_range]
          refine ⟨by omega, by omega, by omega, ?_⟩
          intro bufferSize hsize
          unfold xglWireEncodeAckRangeExtValue
          dsimp only
          rw [hlength, if_neg (by omega), if_neg (by omega), UInt8.ofNat_toNat]
          congr 1
          -- the value is its head of nine bytes and the ranges behind it
          have hhead : readBytes bytes 0 9 = xglSerializeU32Le (xglDeserializeU32Le bytes) ++
              xglSerializeU32Le (xglDeserializeU32Le (bytes.drop 4)) ++ [byteAt bytes 8] := by
            have hfirst := xglSerializeU32Le_field bytes 0
            rw [List.drop_zero] at hfirst
            rw [hfirst, xglSerializeU32Le_field, ← readBytes_add]
            exact readBytes_snoc bytes 8
          have htail := ackRangeBytes_ackRangesAt bytes 9 (byteAt bytes 8).toNat
          have hwhole : readBytes bytes 0 (9 + 4 * (byteAt bytes 8).toNat) = bytes :=
            readBytes_pieces (by omega)
          rw [readBytes_add, hhead, Nat.zero_add, ← htail] at hwhole
          exact hwhole

/-- The SACK codec is exact. The bitmap is what follows the base and its length. -/
theorem sackCodec_exact : sackCodec.Exact 255 := by
  apply ValueCodec.Exact.of_inverse
  · intro value bufferSize capacity hvalid hsize hroom
    simp only [sackCodec] at hvalid hsize hroom ⊢
    have hcount : (UInt8.ofNat value.bitmap.length).toNat = value.bitmap.length := by
      rw [UInt8.toNat_ofNat']
      omega
    let head : Bytes := xglSerializeU32Le value.basePacket ++ [UInt8.ofNat value.bitmap.length]
    have hlen : (head ++ value.bitmap).length = 5 + value.bitmap.length := List.length_append
    have hcountByte : byteAt (head ++ value.bitmap) 4 = UInt8.ofNat value.bitmap.length := rfl
    refine ⟨head ++ value.bitmap, ?_, hlen, by omega, ?_⟩
    · unfold xglWireEncodeSackExtValue
      dsimp only
      rw [if_neg (by simp; omega), if_neg (by omega)]
    · have hbitmap : readBytes (head ++ value.bitmap) 5 value.bitmap.length = value.bitmap := by
        have hmiddle := readBytes_middle head value.bitmap []
        rwa [List.append_nil] at hmiddle
      have hbase : xglDeserializeU32Le (head ++ value.bitmap) = value.basePacket := by
        show xglDeserializeU32Le (xglSerializeU32Le value.basePacket ++ _) = _
        rw [xglDeserializeU32Le_serialize]
      unfold xglWireDecodeSackExtValue
      dsimp only
      rw [hcountByte, hcount, hlen, if_neg (by omega), if_neg (by simp), if_neg (by omega),
        hbitmap, hbase]
  · intro bytes capacity value hlimit hdecode
    simp only [sackCodec, xglWireDecodeSackExtValue] at hdecode ⊢
    split at hdecode
    · cases hdecode
    · split at hdecode
      · cases hdecode
      · rename_i hcount
        split at hdecode
        · cases hdecode
        · rename_i hroom
          have hlen : 5 + (byteAt bytes 4).toNat = bytes.length := by simpa using hcount
          injection hdecode with hvalue
          subst hvalue
          rw [length_readBytes]
          refine ⟨by omega, by omega, hlen, ?_⟩
          intro bufferSize hsize
          unfold xglWireEncodeSackExtValue
          dsimp only
          rw [length_readBytes, if_neg (by simp; omega), if_neg (by omega), UInt8.ofNat_toNat]
          congr 1
          have hfirst := xglSerializeU32Le_field bytes 0
          rw [List.drop_zero] at hfirst
          have hhead : readBytes bytes 0 5
              = xglSerializeU32Le (xglDeserializeU32Le bytes) ++ [byteAt bytes 4] := by
            rw [hfirst]
            exact readBytes_snoc bytes 4
          have hwhole : readBytes bytes 0 (5 + (byteAt bytes 4).toNat) = bytes :=
            readBytes_pieces hlen.symm
          rw [readBytes_add, hhead] at hwhole
          exact hwhole

/-- The FRAGMENT codec is exact. -/
theorem fragmentCodec_exact : fragmentCodec.Exact 255 := by
  apply ValueCodec.Exact.of_inverse
  · intro value bufferSize capacity _ hsize _
    simp only [fragmentCodec] at hsize ⊢
    let bytes : Bytes := xglWireEncodeFragmentExtValue value.messageId value.fragmentOffset
      value.messageLen
    have hshort : bytes.length ≤ 255 := (by decide : 12 ≤ 255)
    refine ⟨bytes, if_neg (by omega), rfl, hshort, ?_⟩
    have hmessage : xglDeserializeU32Le bytes = value.messageId := by
      show xglDeserializeU32Le (xglSerializeU32Le value.messageId ++ _) = _
      rw [xglDeserializeU32Le_serialize]
    have hoffset : xglDeserializeU32Le (bytes.drop 4) = value.fragmentOffset := by
      show xglDeserializeU32Le (xglSerializeU32Le value.fragmentOffset ++ _) = _
      rw [xglDeserializeU32Le_serialize]
    have hlength : xglDeserializeU32Le (bytes.drop 8) = value.messageLen := by
      have hback := xglDeserializeU32Le_serialize value.messageLen []
      rwa [List.append_nil] at hback
    show Except.ok (FragmentExt.mk _ _ _) = Except.ok value
    rw [hmessage, hoffset, hlength]
  · intro bytes capacity value _ hdecode
    simp only [fragmentCodec, xglWireDecodeFragmentExtValue] at hdecode ⊢
    split at hdecode
    · cases hdecode
    · rename_i hsize
      have hlen : bytes.length = 12 := by simpa [XGL_FRAGMENT_EXT_VALUE_SIZE] using hsize
      injection hdecode with hvalue
      subst hvalue
      refine ⟨trivial, Nat.zero_le _, hlen.symm, ?_⟩
      intro bufferSize hroom
      unfold xglWireEncodeFragmentExtValueInto
      rw [if_neg (by simp only [XGL_FRAGMENT_EXT_VALUE_SIZE]; omega)]
      congr 1
      have hfirst := xglSerializeU32Le_field bytes 0
      rw [List.drop_zero] at hfirst
      rw [xglWireEncodeFragmentExtValue, hfirst, xglSerializeU32Le_field,
        xglSerializeU32Le_field, ← readBytes_add, ← readBytes_add bytes 0 8 4]
      exact readBytes_pieces hlen

/-- The SESSION codec is exact. -/
theorem sessionCodec_exact : sessionCodec.Exact 255 := by
  apply ValueCodec.Exact.of_inverse
  · intro value bufferSize capacity _ hsize _
    simp only [sessionCodec] at hsize ⊢
    let bytes : Bytes := xglSerializeU32Le value.1 ++ wireSerializeU64Le value.2
    have hshort : bytes.length ≤ 255 := (by decide : 12 ≤ 255)
    refine ⟨bytes, if_neg (by omega), rfl, hshort, ?_⟩
    have hepoch : xglDeserializeU32Le bytes = value.1 := xglDeserializeU32Le_serialize _ _
    have hincarnation : wireDeserializeU64Le (bytes.drop 4) = value.2 := by
      have hback := wireDeserializeU64Le_serialize value.2 []
      rwa [List.append_nil] at hback
    show Except.ok (_, _) = Except.ok value
    rw [hepoch, hincarnation]
  · intro bytes capacity value _ hdecode
    simp only [sessionCodec, xglWireDecodeSessionExtValue] at hdecode ⊢
    split at hdecode
    · cases hdecode
    · rename_i hsize
      have hlen : bytes.length = 12 := by simpa [XGL_SESSION_EXT_VALUE_SIZE] using hsize
      injection hdecode with hvalue
      subst hvalue
      refine ⟨trivial, Nat.zero_le _, hlen.symm, ?_⟩
      intro bufferSize hroom
      unfold xglWireEncodeSessionExtValue
      rw [if_neg (by simp only [XGL_SESSION_EXT_VALUE_SIZE]; omega)]
      congr 1
      have hfirst := xglSerializeU32Le_field bytes 0
      rw [List.drop_zero] at hfirst
      rw [hfirst, wireSerializeU64Le_field, ← readBytes_add bytes 0 4 8]
      exact readBytes_pieces hlen

/-- The SECURITY codec is exact, for fields that announce a tag. -/
theorem securityCodec_exact : securityCodec.Exact 255 := by
  apply ValueCodec.Exact.of_inverse
  · intro value bufferSize capacity hvalid hsize _
    simp only [securityCodec] at hvalid hsize ⊢
    let bytes : Bytes :=
      xglSerializeU32Le value.keyId ++ wireSerializeU64Le value.nonceId ++ [value.tagLen]
    have hshort : bytes.length ≤ 255 := (by decide : 13 ≤ 255)
    have hencode : xglWireEncodeSecurityExtValue value.keyId value.nonceId value.tagLen
        = .ok bytes := if_neg (by simpa using hvalid)
    have htag : byteAt bytes 12 = value.tagLen := rfl
    refine ⟨bytes, ?_, rfl, hshort, ?_⟩
    · unfold xglWireEncodeSecurityExtValueInto
      rw [hencode]
      exact if_neg (by omega)
    · have hkey : xglDeserializeU32Le bytes = value.keyId := by
        show xglDeserializeU32Le (xglSerializeU32Le value.keyId ++ _) = _
        rw [xglDeserializeU32Le_serialize]
      have hnonce : wireDeserializeU64Le (bytes.drop 4) = value.nonceId := by
        show wireDeserializeU64Le (wireSerializeU64Le value.nonceId ++ [value.tagLen]) = _
        rw [wireDeserializeU64Le_serialize]
      have hlen : bytes.length = XGL_SECURITY_EXT_VALUE_SIZE := rfl
      unfold xglWireDecodeSecurityExtValue
      rw [hlen, htag, hkey, hnonce, if_neg (by simp), if_neg (by simpa using hvalid)]
  · intro bytes capacity value _ hdecode
    have htag := xglWireDecodeSecurityExtValue_tagLen hdecode
    simp only [securityCodec, xglWireDecodeSecurityExtValue] at hdecode ⊢
    split at hdecode
    · cases hdecode
    · rename_i hsize
      have hlen : bytes.length = 13 := by simpa [XGL_SECURITY_EXT_VALUE_SIZE] using hsize
      split at hdecode
      · cases hdecode
      · injection hdecode with hvalue
        subst hvalue
        refine ⟨htag, Nat.zero_le _, hlen.symm, ?_⟩
        intro bufferSize hroom
        unfold xglWireEncodeSecurityExtValueInto xglWireEncodeSecurityExtValue
        rw [if_neg (by simpa using htag)]
        dsimp only
        rw [if_neg (by simp only [XGL_SECURITY_EXT_VALUE_SIZE]; omega)]
        congr 1
        have hfirst := xglSerializeU32Le_field bytes 0
        rw [List.drop_zero] at hfirst
        rw [hfirst, wireSerializeU64Le_field, ← readBytes_add bytes 0 4 8,
          ← readBytes_snoc bytes 12]
        exact readBytes_pieces hlen

/-- The ROUTE codec is exact. -/
theorem routeCodec_exact : routeCodec.Exact 255 := by
  apply ValueCodec.Exact.of_inverse
  · intro value bufferSize capacity _ hsize _
    simp only [routeCodec] at hsize ⊢
    let bytes : Bytes := xglSerializeU16Le value.previousHop ++ xglSerializeU16Le value.nextHop ++
      xglSerializeU32Le value.routeEpoch ++ xglSerializeU16Le value.metric
    have hshort : bytes.length ≤ 255 := (by decide : 10 ≤ 255)
    refine ⟨bytes, if_neg (by omega), rfl, hshort, ?_⟩
    have hprevious : xglDeserializeU16Le bytes = value.previousHop := by
      show xglDeserializeU16Le (xglSerializeU16Le value.previousHop ++ _) = _
      rw [xglDeserializeU16Le_serialize]
    have hnext : xglDeserializeU16Le (bytes.drop 2) = value.nextHop := by
      show xglDeserializeU16Le (xglSerializeU16Le value.nextHop ++ _) = _
      rw [xglDeserializeU16Le_serialize]
    have hepoch : xglDeserializeU32Le (bytes.drop 4) = value.routeEpoch := by
      show xglDeserializeU32Le (xglSerializeU32Le value.routeEpoch ++ _) = _
      rw [xglDeserializeU32Le_serialize]
    have hmetric : xglDeserializeU16Le (bytes.drop 8) = value.metric := by
      have hback := xglDeserializeU16Le_serialize value.metric []
      rwa [List.append_nil] at hback
    show Except.ok (RouteExt.mk _ _ _ _) = Except.ok value
    rw [hprevious, hnext, hepoch, hmetric]
  · intro bytes capacity value _ hdecode
    simp only [routeCodec, xglWireDecodeRouteExtValue] at hdecode ⊢
    split at hdecode
    · cases hdecode
    · rename_i hsize
      have hlen : bytes.length = 10 := by simpa [XGL_ROUTE_EXT_VALUE_SIZE] using hsize
      injection hdecode with hvalue
      subst hvalue
      refine ⟨trivial, Nat.zero_le _, hlen.symm, ?_⟩
      intro bufferSize hroom
      unfold xglWireEncodeRouteExtValue
      rw [if_neg (by simp only [XGL_ROUTE_EXT_VALUE_SIZE]; omega)]
      congr 1
      have hfirst := xglSerializeU16Le_field bytes 0
      rw [List.drop_zero] at hfirst
      rw [hfirst, xglSerializeU16Le_field, xglSerializeU32Le_field, xglSerializeU16Le_field,
        ← readBytes_add bytes 0 2 2, ← readBytes_add bytes 0 4 4, ← readBytes_add bytes 0 8 2]
      exact readBytes_pieces hlen

/-- The extension value codecs are inverse to each other: ACK_RANGE with at most 61 ranges, SACK
with at most 250 bytes of bitmap, FRAGMENT, SESSION, SECURITY with a tag, and ROUTE. -/
theorem ext_values_exact :
    ackRangeCodec.Exact 255 ∧ sackCodec.Exact 255 ∧ fragmentCodec.Exact 255 ∧
      sessionCodec.Exact 255 ∧ securityCodec.Exact 255 ∧ routeCodec.Exact 255 :=
  ⟨ackRangeCodec_exact, sackCodec_exact, fragmentCodec_exact, sessionCodec_exact,
    securityCodec_exact, routeCodec_exact⟩

end XgenLink
