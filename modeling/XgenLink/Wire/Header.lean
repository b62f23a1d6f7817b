import XgenLink.Wire.Codec

/-!
# `XgenLink.Wire.Header`: the 24-byte base header

Every frame begins with a base header of 24 bytes: two magic bytes, the version, type and flags,
the lengths of header and payload, addresses, hop limit, packet number, connection id and a
checksum. `xgl_wire_encode_header` and `xgl_wire_decode_header` with the header checksum, which is
computed over the header with its own two bytes zeroed.

Encoder and decoder make the same checks of the fields, so a header that was decoded can be encoded
again, and differs from the bytes it came from only where a field was changed.

* `xglWireDecodeHeader_encode`: what was encoded decodes to the same header.
* `xglWireEncodeHeader_decode`: re-encoding a decoded header with another `ttl`
  keeps every byte but byte 6 and the checksum.
* `xglWireDecodeHeader_eq_ok`: what an accepted header guarantees.
* `xglWireDecodeHeader_congr`: only the first 24 bytes matter.
-/

set_option autoImplicit false

namespace XgenLink

/-- `XGL_WIRE_MAGIC_0`. -/
def XGL_WIRE_MAGIC_0 : UInt8 := 0xA5

/-- `XGL_WIRE_MAGIC_1`. -/
def XGL_WIRE_MAGIC_1 : UInt8 := 0x5A

/-- `XGL_WIRE_VERSION`. -/
def XGL_WIRE_VERSION : UInt8 := 2

/-- `XGL_WIRE_BASE_HEADER_SIZE`, also `XGL_FRAME_HEADER_SIZE`. -/
def XGL_WIRE_BASE_HEADER_SIZE : Nat := 24

/-- `XGL_WIRE_FLAG_ACK_ELICITING`. -/
def XGL_WIRE_FLAG_ACK_ELICITING : UInt8 := 0x01

/-- `XGL_WIRE_FLAG_HAS_EXTENSIONS`. -/
def XGL_WIRE_FLAG_HAS_EXTENSIONS : UInt8 := 0x02

/-- `XGL_WIRE_FLAG_FRAGMENTED`. -/
def XGL_WIRE_FLAG_FRAGMENTED : UInt8 := 0x04

/-- `XGL_WIRE_FLAG_ENCRYPTED`. -/
def XGL_WIRE_FLAG_ENCRYPTED : UInt8 := 0x08

/-- `XGL_WIRE_FLAG_AUTHENTICATED`. -/
def XGL_WIRE_FLAG_AUTHENTICATED : UInt8 := 0x10

/-- `XGL_WIRE_FLAG_CONTROL`. -/
def XGL_WIRE_FLAG_CONTROL : UInt8 := 0x20

/-- `xgl_wire_header_t`. -/
structure WireHeader where
  version : UInt8 := 0
  headerLen : UInt8 := 0
  packetType : UInt8 := 0
  flags : UInt8 := 0
  ttl : UInt8 := 0
  trafficClass : UInt8 := 0
  sourceId : UInt16 := 0
  targetId : UInt16 := 0
  connectionId : UInt32 := 0
  packetNumber : UInt32 := 0
  payloadLen : UInt16 := 0
  headerCrc16 : UInt16 := 0
  deriving DecidableEq, Repr, Inhabited

/-- `wire_header_crc16`: the checksum of the base header with bytes 22 and 23
read as zero. -/
def wireHeaderCrc16 (buffer : Bytes) : UInt16 :=
  xglCrc16Modbus (((readBytes buffer 0 XGL_WIRE_BASE_HEADER_SIZE).set 22 0).set 23 0)

/-- `wire_packet_type_valid`. -/
def wirePacketTypeValid (packetType : UInt8) : Bool :=
  packetType > XGL_PACKET_TYPE_INVALID && packetType ≤ XGL_PACKET_TYPE_CLOSE

/-- The field checks shared by the encoder and the decoder. -/
def wireHeaderFieldsValid (header : WireHeader) : Bool :=
  header.version == XGL_WIRE_VERSION &&
  header.headerLen.toNat ≥ XGL_WIRE_BASE_HEADER_SIZE &&
  wirePacketTypeValid header.packetType &&
  header.sourceId != 0 &&
  header.targetId != 0

/-- The 22 bytes `xgl_wire_encode_header` writes before the checksum. -/
def wireHeaderFront (header : WireHeader) : Bytes :=
  [XGL_WIRE_MAGIC_0, XGL_WIRE_MAGIC_1, header.version, header.headerLen, header.packetType,
    header.flags, header.ttl, header.trafficClass] ++
  xglSerializeU16Le header.sourceId ++
  xglSerializeU16Le header.targetId ++
  xglSerializeU32Le header.connectionId ++
  xglSerializeU32Le header.packetNumber ++
  xglSerializeU16Le header.payloadLen

/-- The encoded base header. -/
def wireHeaderBytes (header : WireHeader) : Bytes :=
  wireHeaderFront header ++
    xglSerializeU16Le (wireHeaderCrc16 (wireHeaderFront header ++ [0, 0]))

/-- `xgl_wire_encode_header`: the base header written at the front of the
buffer. -/
def xglWireEncodeHeader (bufferSize : Nat) (header : WireHeader) : Except XglError Bytes :=
  if bufferSize < XGL_WIRE_BASE_HEADER_SIZE then .error .bufferTooSmall
  else if !wireHeaderFieldsValid header then .error .invalidParam
  else .ok (wireHeaderBytes header)

/-- The fields `xgl_wire_decode_header` reads. -/
def wireHeaderOfBytes (buffer : Bytes) : WireHeader where
  version := byteAt buffer 2
  headerLen := byteAt buffer 3
  packetType := byteAt buffer 4
  flags := byteAt buffer 5
  ttl := byteAt buffer 6
  trafficClass := byteAt buffer 7
  sourceId := xglDeserializeU16Le (buffer.drop 8)
  targetId := xglDeserializeU16Le (buffer.drop 10)
  connectionId := xglDeserializeU32Le (buffer.drop 12)
  packetNumber := xglDeserializeU32Le (buffer.drop 16)
  payloadLen := xglDeserializeU16Le (buffer.drop 20)
  headerCrc16 := xglDeserializeU16Le (buffer.drop 22)

/-- `xgl_wire_decode_header`. -/
def xglWireDecodeHeader (buffer : Bytes) (bufferSize : Nat) : Except XglError WireHeader :=
  if bufferSize < XGL_WIRE_BASE_HEADER_SIZE then .error .bufferTooSmall
  else if byteAt buffer 0 != XGL_WIRE_MAGIC_0 || byteAt buffer 1 != XGL_WIRE_MAGIC_1 then
    .error .invalidFrame
  else if wireHeaderCrc16 buffer != xglDeserializeU16Le (buffer.drop 22) then
    .error .crcFailed
  else if !wireHeaderFieldsValid (wireHeaderOfBytes buffer) then .error .invalidFrame
  else .ok (wireHeaderOfBytes buffer)

/-! ### Shape of the encoded header -/

/-- The checksum lies behind the first 22 bytes. -/
@[simp] theorem length_wireHeaderFront (header : WireHeader) :
    (wireHeaderFront header).length = 22 := rfl

/-- The encoded header has 24 bytes. -/
@[simp] theorem length_wireHeaderBytes (header : WireHeader) :
    (wireHeaderBytes header).length = XGL_WIRE_BASE_HEADER_SIZE := rfl

/-- The header checksum ignores its own two bytes. -/
theorem wireHeaderCrc16_front (front tail : Bytes) (c0 c1 : UInt8) (h : front.length = 22) :
    wireHeaderCrc16 (front ++ (c0 :: c1 :: tail)) = wireHeaderCrc16 (front ++ [0, 0]) := by
  have hset : ∀ (x y : UInt8) (t : Bytes),
      ((readBytes (front ++ (x :: y :: t)) 0 XGL_WIRE_BASE_HEADER_SIZE).set 22 0).set 23 0
        = front ++ [0, 0] := by
    intro x y t
    have hread : readBytes (front ++ (x :: y :: t)) 0 XGL_WIRE_BASE_HEADER_SIZE
        = front ++ [x, y] := by
      have hlen : (front ++ [x, y]).length = 24 := by simp [h]
      have happ : front ++ (x :: y :: t) = (front ++ [x, y]) ++ t := by simp
      unfold XGL_WIRE_BASE_HEADER_SIZE
      rw [happ, readBytes_append_left _ _ _ _ (by omega), ← hlen, readBytes_self]
    rw [hread, List.set_append_right _ _ (by omega), List.set_append_right _ _ (by omega), h]
    rfl
  unfold wireHeaderCrc16
  rw [hset c0 c1 tail, hset 0 0 []]

/-- The checksum depends on the first 24 bytes only. -/
theorem wireHeaderCrc16_append (a b : Bytes) (h : XGL_WIRE_BASE_HEADER_SIZE ≤ a.length) :
    wireHeaderCrc16 (a ++ b) = wireHeaderCrc16 a := by
  unfold wireHeaderCrc16
  rw [readBytes_append_left _ _ _ _ (by omega)]

/-! ### Decoding what was encoded -/

/-- The fields read from an encoded header are the fields written. -/
theorem wireHeaderOfBytes_wireHeaderBytes (header : WireHeader) (rest : Bytes) :
    wireHeaderOfBytes (wireHeaderBytes header ++ rest)
      = { header with headerCrc16 := wireHeaderCrc16 (wireHeaderFront header ++ [0, 0]) } := by
  unfold wireHeaderOfBytes wireHeaderBytes wireHeaderFront
  simp only [List.append_assoc]
  congr 1
  all_goals
    simp only [List.cons_append, List.nil_append, List.drop_succ_cons, List.drop_zero]
  all_goals first
    | exact xglDeserializeU16Le_serialize _ _
    | exact xglDeserializeU32Le_serialize _ _

/-- The decoder accepts an encoded header and returns it, with the checksum
filled in. -/
theorem xglWireDecodeHeader_encode (header : WireHeader) (rest : Bytes) (size : Nat)
    (hsize : XGL_WIRE_BASE_HEADER_SIZE ≤ size) (hvalid : wireHeaderFieldsValid header = true) :
    xglWireDecodeHeader (wireHeaderBytes header ++ rest) size
      = .ok { header with
          headerCrc16 := wireHeaderCrc16 (wireHeaderFront header ++ [0, 0]) } := by
  have hcrc : wireHeaderCrc16 (wireHeaderBytes header ++ rest)
      = wireHeaderCrc16 (wireHeaderFront header ++ [0, 0]) := by
    rw [wireHeaderCrc16_append _ _ (le_refl _)]
    exact wireHeaderCrc16_front _ [] _ _ rfl
  have hfields := wireHeaderOfBytes_wireHeaderBytes header rest
  have hread : xglDeserializeU16Le ((wireHeaderBytes header ++ rest).drop 22)
      = wireHeaderCrc16 (wireHeaderFront header ++ [0, 0]) :=
    congrArg WireHeader.headerCrc16 hfields
  have hvalid' : wireHeaderFieldsValid (wireHeaderOfBytes (wireHeaderBytes header ++ rest))
      = true := by
    rw [hfields]
    exact hvalid
  unfold xglWireDecodeHeader
  rw [if_neg (by omega), if_neg (by exact Bool.not_eq_true _ ▸ rfl),
    if_neg (by rw [hcrc, hread]; simp),
    if_neg (by rw [hvalid']; simp), hfields]

/-! ### What an accepted header says -/

/-- The decoder accepts exactly a buffer of at least 24 bytes with the magic, a
matching checksum and valid fields, and returns the fields. -/
theorem xglWireDecodeHeader_eq_ok {buffer : Bytes} {size : Nat} {header : WireHeader} :
    xglWireDecodeHeader buffer size = .ok header ↔
      XGL_WIRE_BASE_HEADER_SIZE ≤ size ∧ byteAt buffer 0 = XGL_WIRE_MAGIC_0 ∧
      byteAt buffer 1 = XGL_WIRE_MAGIC_1 ∧
      wireHeaderCrc16 buffer = xglDeserializeU16Le (buffer.drop 22) ∧
      wireHeaderFieldsValid header = true ∧ wireHeaderOfBytes buffer = header := by
  constructor
  · intro h
    unfold xglWireDecodeHeader at h
    split at h
    · cases h
    · split at h
      · cases h
      · split at h
        · cases h
        · split at h
          · cases h
          · rename_i hsize hmagic hcrc hvalid
            cases h
            simp only [bne_iff_ne, ne_eq, Bool.or_eq_true, not_or, not_not] at hmagic hcrc
            exact ⟨by omega, hmagic.1, hmagic.2, hcrc, by simpa using hvalid, rfl⟩
  · rintro ⟨hsize, h0, h1, hcrc, hvalid, rfl⟩
    unfold xglWireDecodeHeader
    rw [if_neg (by omega), if_neg (by simp [h0, h1]), if_neg (by simp [hcrc]),
      if_neg (by simp [hvalid])]

/-- An accepted header covers at least the base header. -/
theorem wireHeaderFieldsValid.headerLen_ge {header : WireHeader}
    (h : wireHeaderFieldsValid header = true) :
    XGL_WIRE_BASE_HEADER_SIZE ≤ header.headerLen.toNat := by
  unfold wireHeaderFieldsValid at h
  simp only [Bool.and_eq_true, decide_eq_true_eq, ge_iff_le] at h
  exact h.1.1.1.2

/-! ### Dependence on the first 24 bytes -/

/-- The header fields are those of the first 24 bytes. -/
theorem wireHeaderOfBytes_congr {a b : Bytes}
    (h : ∀ i, i < XGL_WIRE_BASE_HEADER_SIZE → byteAt a i = byteAt b i) :
    wireHeaderOfBytes a = wireHeaderOfBytes b := by
  unfold XGL_WIRE_BASE_HEADER_SIZE at h
  simp (disch := omega) only [wireHeaderOfBytes, xglDeserializeU16Le, xglDeserializeU32Le,
    byteAt_drop, Nat.reduceAdd, h]

/-- Buffers with the same first 24 bytes decode alike. -/
theorem xglWireDecodeHeader_congr {a b : Bytes} {m n : Nat} (hm : XGL_WIRE_BASE_HEADER_SIZE ≤ m)
    (hn : XGL_WIRE_BASE_HEADER_SIZE ≤ n)
    (h : ∀ i, i < XGL_WIRE_BASE_HEADER_SIZE → byteAt a i = byteAt b i) :
    xglWireDecodeHeader a m = xglWireDecodeHeader b n := by
  have hfields := wireHeaderOfBytes_congr h
  have hcrcField : xglDeserializeU16Le (a.drop 22) = xglDeserializeU16Le (b.drop 22) :=
    congrArg WireHeader.headerCrc16 hfields
  have hread : readBytes a 0 XGL_WIRE_BASE_HEADER_SIZE = readBytes b 0 XGL_WIRE_BASE_HEADER_SIZE :=
    readBytes_congr fun i _ hi => h i (by omega)
  unfold xglWireDecodeHeader wireHeaderCrc16
  rw [if_neg (Nat.not_lt.mpr hm), if_neg (Nat.not_lt.mpr hn), h 0 (by decide), h 1 (by decide),
    hcrcField, hread, hfields]

/-! ### Re-encoding a decoded header -/

/-- Writing decoded fields with another `ttl` changes byte 6 only. -/
theorem wireHeaderFront_wireHeaderOfBytes (buffer : Bytes) (ttl : UInt8)
    (h0 : byteAt buffer 0 = XGL_WIRE_MAGIC_0) (h1 : byteAt buffer 1 = XGL_WIRE_MAGIC_1) :
    wireHeaderFront { wireHeaderOfBytes buffer with ttl := ttl }
      = (readBytes buffer 0 22).set 6 ttl := by
  simp [wireHeaderFront, wireHeaderOfBytes, readBytes_succ, byteAt_drop, h0, h1]

/-- Re-encoding a decoded header with another `ttl` succeeds and keeps every
byte but byte 6 and the checksum. -/
theorem xglWireEncodeHeader_decode {buffer : Bytes} {size : Nat} {header : WireHeader}
    (ttl : UInt8) (h : xglWireDecodeHeader buffer size = .ok header) :
    xglWireEncodeHeader size { header with ttl := ttl }
        = .ok (wireHeaderBytes { header with ttl := ttl }) ∧
      wireHeaderFront { header with ttl := ttl } = (readBytes buffer 0 22).set 6 ttl := by
  obtain ⟨hsize, h0, h1, _, hvalid, rfl⟩ := xglWireDecodeHeader_eq_ok.mp h
  refine ⟨?_, wireHeaderFront_wireHeaderOfBytes buffer ttl h0 h1⟩
  unfold xglWireEncodeHeader
  rw [if_neg (by omega), if_neg]
  -- the field checks never look at the ttl
  have hvalid' : wireHeaderFieldsValid { wireHeaderOfBytes buffer with ttl := ttl } = true := hvalid
  simp [hvalid']

end XgenLink
