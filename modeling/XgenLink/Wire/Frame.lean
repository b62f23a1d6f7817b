import XgenLink.Wire.Auth

/-!
# `XgenLink.Wire.Frame`: building and serializing frames

`xgl_frame_build` turns the parameters of the network layer into a frame: it derives the traffic
class and the flags and falls back to the session id when the connection id is zero.
`xgl_frame_serialize` and `xgl_frame_serialize_authenticated` write the frame with its trailing
CRC16, into a buffer of a given size.

The plain form is header, extensions, payload and checksum. The authenticated form has one
SECURITY_EXT behind the extensions and the tag behind the payload; its header is that of the longer
extension area, with the AUTHENTICATED flag set.

* `xglFrameSerialize_eq_ok`: a serialized frame is header, extensions, payload
  and checksum.
* `xglFrameSerialize_ok`: a frame with room for it serializes.
* `xglFrameSerializeAuthenticated_eq_ok`: the authenticated form adds one
  SECURITY_EXT behind the extensions and the tag behind the payload.
-/

set_option autoImplicit false

namespace XgenLink

/-! ### Traffic class -/

/-- `xgl_frame_set_reliability`. -/
def xglFrameSetReliability (trafficClass : UInt8) (reliable : Bool) : UInt8 :=
  (trafficClass &&& ~~~XGL_RELIABILITY_CLASS_MASK) |||
    (if reliable then XGL_RELIABILITY_ACK_ELICITING else XGL_RELIABILITY_NONE)

/-- `xgl_frame_set_reliability_class`. -/
def xglFrameSetReliabilityClass (trafficClass reliabilityClass : UInt8) : UInt8 :=
  (trafficClass &&& ~~~XGL_RELIABILITY_CLASS_MASK) |||
    (reliabilityClass &&& XGL_RELIABILITY_CLASS_MASK)

/-- `xgl_frame_set_fragmented`. -/
def xglFrameSetFragmented (trafficClass : UInt8) (fragment : Bool) : UInt8 :=
  if fragment then trafficClass ||| XGL_TRAFFIC_FRAGMENTED_MASK
  else trafficClass &&& ~~~XGL_TRAFFIC_FRAGMENTED_MASK

/-- `xgl_frame_set_priority`. -/
def xglFrameSetPriority (trafficClass priority : UInt8) : UInt8 :=
  (trafficClass &&& ~~~XGL_TRAFFIC_PRIORITY_MASK) ||| (priority &&& XGL_TRAFFIC_PRIORITY_MASK)

/-! ### Sizes -/

/-- `xgl_frame_auth_overhead`. -/
def xglFrameAuthOverhead (authTagLen : Nat) : Nat :=
  if authTagLen > 0 then XGL_SECURITY_EXT_SIZE + authTagLen else 0

/-- `xgl_frame_serialized_size`. -/
def xglFrameSerializedSize (payloadLen extensionsLen authTagLen : Nat) : Nat :=
  XGL_WIRE_BASE_HEADER_SIZE + extensionsLen + xglFrameAuthOverhead authTagLen + payloadLen +
    XGL_CRC16_SIZE

/-- `xgl_frame_payload_budget`; `none` when it returns false. -/
def xglFramePayloadBudget (maxFrameSize extensionsLen authTagLen : Nat) : Option Nat :=
  let overhead := XGL_WIRE_BASE_HEADER_SIZE + extensionsLen + xglFrameAuthOverhead authTagLen +
    XGL_CRC16_SIZE
  if maxFrameSize < overhead then none else some (maxFrameSize - overhead)

/-! ### Frames -/

/-- `xgl_frame_t`; a NULL payload or extension pointer is the empty list. -/
structure Frame where
  header : WireHeader
  extensions : Bytes
  payload : Bytes
  deriving DecidableEq, Repr

/-- `xgl_frame_params_t`. -/
structure FrameParams where
  sourceId : UInt16
  targetId : UInt16
  packetType : UInt8
  flags : UInt8
  trafficClass : UInt8
  connectionId : UInt32
  packetNumber : UInt32
  extensions : Bytes
  payload : Bytes
  reliable : Bool
  reliabilityClass : UInt8
  fragment : Bool
  priority : UInt8
  sessionId : UInt16
  ttl : UInt8

/-- The traffic class `xgl_frame_build` derives from the parameters. -/
def frameTrafficClassBits (params : FrameParams) : UInt8 :=
  let bits :=
    -- the class of the parameters, when they name one, goes before the flag for reliable
    if params.reliabilityClass != XGL_RELIABILITY_NONE then
      xglFrameSetReliabilityClass 0 params.reliabilityClass
    else xglFrameSetReliability 0 params.reliable
  xglFrameSetPriority (xglFrameSetFragmented bits params.fragment) params.priority

/-- The flags and the packet type `xgl_frame_build` derives from the
parameters. -/
def frameFlagsAndType (params : FrameParams) : UInt8 × UInt8 :=
  let bits := frameTrafficClassBits params
  let reliable := bits &&& XGL_RELIABILITY_CLASS_MASK
  let flags := params.flags
  let flags :=
    if reliable == XGL_RELIABILITY_ACK_ELICITING then flags ||| XGL_WIRE_FLAG_ACK_ELICITING
    else flags
  let flags :=
    -- a fragment has its FRAGMENT_EXT among the extensions
    if bits &&& XGL_TRAFFIC_FRAGMENTED_MASK != 0 then
      flags ||| (XGL_WIRE_FLAG_FRAGMENTED ||| XGL_WIRE_FLAG_HAS_EXTENSIONS)
    else flags
  let flags :=
    if params.extensions.length > 0 then flags ||| XGL_WIRE_FLAG_HAS_EXTENSIONS else flags
  let packetType :=
    if params.packetType == XGL_PACKET_TYPE_INVALID then XGL_PACKET_TYPE_DATA
    else params.packetType
  let packetType :=
    -- an acknowledgement is an ACK packet whatever the parameters say
    if reliable == XGL_RELIABILITY_ACK_ONLY then XGL_PACKET_TYPE_ACK else packetType
  let flags :=
    if packetType == XGL_PACKET_TYPE_CONTROL then flags ||| XGL_WIRE_FLAG_CONTROL else flags
  (flags, packetType)

/-- `xgl_frame_build`. -/
def xglFrameBuild (params : FrameParams) : Except XglError Frame :=
  if params.payload.length > 65535 then .error .bufferTooSmall
  else
    .ok
      { header :=
          { version := XGL_WIRE_VERSION
            headerLen := UInt8.ofNat XGL_WIRE_BASE_HEADER_SIZE
            packetType := (frameFlagsAndType params).2
            flags := (frameFlagsAndType params).1
            ttl := params.ttl
            -- a traffic class that the parameters give goes before the derived one
            trafficClass :=
              if params.trafficClass != 0 then params.trafficClass
              else frameTrafficClassBits params
            sourceId := params.sourceId
            targetId := params.targetId
            -- the connection id falls back to the session id
            connectionId :=
              if params.connectionId != 0 then params.connectionId
              else params.sessionId.toUInt32
            packetNumber := params.packetNumber
            payloadLen := UInt16.ofNat params.payload.length
            headerCrc16 := 0 }
        extensions := params.extensions
        payload := params.payload }

/-- The header `encode_frame_wire_header` encodes. -/
def frameWireHeader (frame : Frame) : WireHeader :=
  { frame.header with
    version := XGL_WIRE_VERSION
    headerLen := UInt8.ofNat (XGL_WIRE_BASE_HEADER_SIZE + frame.extensions.length)
    flags :=
      if frame.extensions.length > 0 then frame.header.flags ||| XGL_WIRE_FLAG_HAS_EXTENSIONS
      else frame.header.flags
    payloadLen := UInt16.ofNat frame.payload.length
    headerCrc16 := 0 }

/-- A frame body followed by its checksum. -/
def appendFrameCrc (body : Bytes) : Bytes :=
  body ++ xglSerializeU16Le (xglCrc16Modbus body)

/-- `xgl_frame_serialize`. -/
def xglFrameSerialize (bufferSize : Nat) (frame : Frame) : Except XglError Bytes :=
  -- the length of the header is one byte
  if frame.extensions.length > 255 - XGL_WIRE_BASE_HEADER_SIZE then .error .bufferTooSmall
  else if bufferSize < XGL_WIRE_BASE_HEADER_SIZE + frame.extensions.length +
      frame.payload.length + XGL_CRC16_SIZE then .error .bufferTooSmall
  else
    match xglWireEncodeHeader bufferSize (frameWireHeader frame) with
    | .error err => .error err
    | .ok header => .ok (appendFrameCrc (header ++ frame.extensions ++ frame.payload))

/-- The header `encode_authenticated_header` encodes. -/
def frameAuthenticatedHeader (frame : Frame) (headerLen : Nat) : WireHeader :=
  { frame.header with
    version := XGL_WIRE_VERSION
    headerLen := UInt8.ofNat headerLen
    flags := frame.header.flags |||
      (XGL_WIRE_FLAG_HAS_EXTENSIONS ||| XGL_WIRE_FLAG_AUTHENTICATED)
    payloadLen := UInt16.ofNat frame.payload.length
    headerCrc16 := 0 }

/-- `encode_authenticated_header`: the base header, the frame's extensions and
one SECURITY_EXT. -/
def encodeAuthenticatedHeader (bufferSize : Nat) (frame : Frame) (keyId : UInt32)
    (tagLen : UInt8) : Except XglError Bytes :=
  let baseExtLen := frame.extensions.length
  -- the same bound, before the SECURITY_EXT is added
  if baseExtLen > 255 - XGL_WIRE_BASE_HEADER_SIZE then .error .bufferTooSmall
  else if bufferSize < XGL_WIRE_BASE_HEADER_SIZE + baseExtLen + XGL_WIRE_EXT_HEADER_SIZE + 13 then
    .error .bufferTooSmall
  else
    -- the nonce is the packet number
    match xglWireEncodeSecurityExtValue keyId frame.header.packetNumber.toUInt64 tagLen with
    | .error err => .error err
    | .ok securityValue =>
      match xglWireEncodeExt (bufferSize - XGL_WIRE_BASE_HEADER_SIZE - baseExtLen)
          XGL_WIRE_EXT_SECURITY securityValue with
      | .error err => .error err
      | .ok securityExt =>
        let producedHeaderLen := XGL_WIRE_BASE_HEADER_SIZE + baseExtLen + securityExt.length
        -- now with the SECURITY_EXT
        if producedHeaderLen > 255 then .error .bufferTooSmall
        else
          match xglWireEncodeHeader bufferSize
              (frameAuthenticatedHeader frame producedHeaderLen) with
          | .error err => .error err
          | .ok header => .ok (header ++ frame.extensions ++ securityExt)

/-- `xgl_frame_serialize_authenticated`. -/
def xglFrameSerializeAuthenticated (bufferSize : Nat) (frame : Frame) (keyId : UInt32)
    (provider : AuthProvider) : Except XglError Bytes :=
  if provider.sign.isNone then .error .nullPointer
  -- the payload length is a field of two bytes
  else if frame.payload.length > 65535 then .error .bufferTooSmall
  else if provider.tagLen == 0 || provider.tagLen > XGL_AUTH_TAG_MAX_LEN then .error .invalidParam
  else
    match encodeAuthenticatedHeader bufferSize frame keyId (UInt8.ofNat provider.tagLen) with
    | .error err => .error err
    | .ok header =>
      if bufferSize < header.length + frame.payload.length + provider.tagLen + XGL_CRC16_SIZE then
        .error .bufferTooSmall
      else
        match xglWireAppendAuthTrailer (header ++ frame.payload) (bufferSize - XGL_CRC16_SIZE)
            header.length frame.payload.length keyId provider with
        | .error err => .error err
        | .ok tag =>
          -- the source computes with what the trailer function returned, and not with `tag_len`
          let frameLenWithoutCrc := header.length + frame.payload.length + tag.length
          if frameLenWithoutCrc != header.length + frame.payload.length + provider.tagLen ||
              frameLenWithoutCrc + XGL_CRC16_SIZE > bufferSize then .error .bufferTooSmall
          else .ok (appendFrameCrc (header ++ frame.payload ++ tag))

/-! ### Shape of a serialized frame -/

/-- The checksum adds two bytes. -/
@[simp] theorem length_appendFrameCrc (body : Bytes) :
    (appendFrameCrc body).length = body.length + XGL_CRC16_SIZE := by
  simp [appendFrameCrc, XGL_CRC16_SIZE]

/-- A serialized frame is the encoded header, the extensions, the payload and
the checksum of the three. -/
theorem xglFrameSerialize_eq_ok {bufferSize : Nat} {frame : Frame} {bytes : Bytes}
    (h : xglFrameSerialize bufferSize frame = .ok bytes) :
    bytes = appendFrameCrc
        (wireHeaderBytes (frameWireHeader frame) ++ frame.extensions ++ frame.payload) ∧
      wireHeaderFieldsValid (frameWireHeader frame) = true ∧
      frame.extensions.length ≤ 231 := by
  unfold xglFrameSerialize xglWireEncodeHeader XGL_WIRE_BASE_HEADER_SIZE at h
  split at h
  · cases h
  · split at h
    · cases h
    · split at h
      · cases h
      · rename_i hext hsize _ header hheader
        cases h
        split at hheader
        · cases hheader
        · split at hheader
          · cases hheader
          · rename_i hvalid
            cases hheader
            exact ⟨rfl, by simpa using hvalid, by omega⟩

/-- With room for it and valid addresses a frame always serializes. -/
theorem xglFrameSerialize_ok {bufferSize : Nat} {frame : Frame}
    (hext : frame.extensions.length ≤ 231)
    (hsize : xglFrameSerializedSize frame.payload.length frame.extensions.length 0 ≤ bufferSize)
    (hvalid : wireHeaderFieldsValid (frameWireHeader frame) = true) :
    xglFrameSerialize bufferSize frame
      = .ok (appendFrameCrc
          (wireHeaderBytes (frameWireHeader frame) ++ frame.extensions ++ frame.payload)) := by
  unfold xglFrameSerializedSize xglFrameAuthOverhead XGL_WIRE_BASE_HEADER_SIZE
    XGL_CRC16_SIZE at hsize
  rw [if_neg (by omega)] at hsize
  unfold xglFrameSerialize xglWireEncodeHeader XGL_WIRE_BASE_HEADER_SIZE XGL_CRC16_SIZE
  rw [if_neg (by omega), if_neg (by omega), if_neg (by omega), if_neg (by simp [hvalid])]

/-! ### Shape of an authenticated frame -/

/-- The SECURITY_EXT of an authenticated frame. -/
def frameSecurityExt (frame : Frame) (keyId : UInt32) (tagLen : UInt8) : WireExt where
  type := XGL_WIRE_EXT_SECURITY
  value := xglSerializeU32Le keyId ++ wireSerializeU64Le frame.header.packetNumber.toUInt64 ++
    [tagLen]

/-- The header that an authenticated frame carries. -/
def frameSecuredHeader (frame : Frame) : WireHeader :=
  frameAuthenticatedHeader frame
    (XGL_WIRE_BASE_HEADER_SIZE + frame.extensions.length + XGL_SECURITY_EXT_SIZE)

/-- Header and extensions of an authenticated frame. -/
def frameAuthenticatedFront (frame : Frame) (keyId : UInt32) (tagLen : UInt8) : Bytes :=
  wireHeaderBytes (frameSecuredHeader frame) ++ frame.extensions ++
    encodeWireExts [frameSecurityExt frame keyId tagLen]

/-- The front of an authenticated frame is header, extensions and SECURITY_EXT. -/
theorem length_frameAuthenticatedFront (frame : Frame) (keyId : UInt32) (tagLen : UInt8) :
    (frameAuthenticatedFront frame keyId tagLen).length
      = XGL_WIRE_BASE_HEADER_SIZE + frame.extensions.length + XGL_SECURITY_EXT_SIZE := by
  unfold frameAuthenticatedFront
  rw [List.length_append, List.length_append, length_wireHeaderBytes]
  rfl

/-- When the header of an authenticated frame is encoded, and what it is. -/
theorem encodeAuthenticatedHeader_eq_ok {bufferSize : Nat} {frame : Frame} {keyId : UInt32}
    {tagLen : UInt8} {header : Bytes} :
    encodeAuthenticatedHeader bufferSize frame keyId tagLen = .ok header ↔
      frame.extensions.length ≤ 216 ∧ tagLen ≠ 0 ∧
      XGL_WIRE_BASE_HEADER_SIZE + frame.extensions.length + XGL_SECURITY_EXT_SIZE ≤ bufferSize ∧
      wireHeaderFieldsValid (frameSecuredHeader frame) = true ∧
      header = frameAuthenticatedFront frame keyId tagLen := by
  have hvalue : (xglSerializeU32Le keyId ++
      wireSerializeU64Le frame.header.packetNumber.toUInt64 ++ [tagLen]).length = 13 := rfl
  unfold encodeAuthenticatedHeader xglWireEncodeSecurityExtValue xglWireEncodeExt
    XGL_SECURITY_EXT_SIZE XGL_SECURITY_EXT_VALUE_SIZE XGL_WIRE_EXT_HEADER_SIZE
    XGL_WIRE_BASE_HEADER_SIZE
  dsimp only
  -- the checks of the encoder, one after the other
  by_cases hlong : frame.extensions.length > 255 - 24
  · rw [if_pos hlong]
    exact ⟨fun h => (by cases h), fun h => absurd h.1 (by omega)⟩
  rw [if_neg hlong]
  by_cases hroom : bufferSize < 24 + frame.extensions.length + 2 + 13
  · rw [if_pos hroom]
    exact ⟨fun h => (by cases h), fun h => absurd h.2.2.1 (by omega)⟩
  rw [if_neg hroom]
  by_cases htag : tagLen = 0
  · rw [if_pos (by simp [htag])]
    exact ⟨fun h => (by cases h), fun h => absurd htag h.2.1⟩
  rw [if_neg (by simpa using htag)]
  dsimp only
  rw [if_neg (by rw [hvalue]; decide), if_neg (by rw [hvalue]; omega)]
  dsimp only
  have hext : (XGL_WIRE_EXT_SECURITY :: UInt8.ofNat (xglSerializeU32Le keyId ++
      wireSerializeU64Le frame.header.packetNumber.toUInt64 ++ [tagLen]).length ::
        (xglSerializeU32Le keyId ++ wireSerializeU64Le frame.header.packetNumber.toUInt64 ++
          [tagLen]) : Bytes)
      = encodeWireExts [frameSecurityExt frame keyId tagLen] := by
    unfold encodeWireExts frameSecurityExt
    rw [List.flatMap_cons, List.flatMap_nil, List.append_nil]
  have hextLen : (encodeWireExts [frameSecurityExt frame keyId tagLen]).length = 15 := rfl
  rw [hext, hextLen]
  by_cases hmax : 24 + frame.extensions.length + 15 > 255
  · rw [if_pos hmax]
    exact ⟨fun h => (by cases h), fun h => absurd h.1 (by omega)⟩
  rw [if_neg hmax]
  unfold xglWireEncodeHeader XGL_WIRE_BASE_HEADER_SIZE
  rw [if_neg (by omega)]
  rw [show frameAuthenticatedHeader frame (24 + frame.extensions.length + 15)
    = frameSecuredHeader frame from rfl]
  by_cases hvalid : wireHeaderFieldsValid (frameSecuredHeader frame) = true
  · rw [if_neg (by simp [hvalid])]
    constructor
    · intro h
      cases h
      exact ⟨by omega, htag, by omega, hvalid, rfl⟩
    · rintro ⟨_, _, _, _, rfl⟩
      rfl
  · rw [if_pos (by simpa using hvalid)]
    exact ⟨fun h => (by cases h), fun h => absurd h.2.2.2.1 hvalid⟩

/-- The canonical form of the front of an authenticated frame. -/
theorem wireAuthCanonicalAad_front {frame : Frame} {keyId : UInt32} {tagLen : UInt8}
    (hext : frame.extensions.length ≤ 216) (payload : Bytes) :
    wireAuthCanonicalAad (readBytes (frameAuthenticatedFront frame keyId tagLen ++ payload) 0
        (frameAuthenticatedFront frame keyId tagLen).length)
      = .ok (zeroMutableHeaderBytes (frameAuthenticatedFront frame keyId tagLen)) := by
  have hlen := length_frameAuthenticatedFront frame keyId tagLen
  unfold XGL_WIRE_BASE_HEADER_SIZE XGL_SECURITY_EXT_SIZE XGL_SECURITY_EXT_VALUE_SIZE
    XGL_WIRE_EXT_HEADER_SIZE at hlen
  rw [readBytes_append_left _ _ _ _ (by omega), readBytes_self]
  exact wireAuthCanonicalAad_of_header (by unfold XGL_WIRE_BASE_HEADER_SIZE; omega) (by omega) rfl
    rfl

/-- An authenticated frame is its front, the payload, the tag that the provider made
of the canonical front and the payload, and the checksum. -/
theorem xglFrameSerializeAuthenticated_eq_ok {bufferSize : Nat} {frame : Frame} {keyId : UInt32}
    {provider : AuthProvider} {bytes : Bytes} :
    xglFrameSerializeAuthenticated bufferSize frame keyId provider = .ok bytes ↔
      0 < provider.tagLen ∧ provider.tagLen ≤ XGL_AUTH_TAG_MAX_LEN ∧
      frame.extensions.length ≤ 216 ∧ frame.payload.length ≤ 65535 ∧
      wireHeaderFieldsValid (frameSecuredHeader frame) = true ∧
      xglFrameSerializedSize frame.payload.length frame.extensions.length provider.tagLen
        ≤ bufferSize ∧
      ∃ sign tag, provider.sign = some sign ∧ tag.length = provider.tagLen ∧
        sign keyId
            (zeroMutableHeaderBytes
              (frameAuthenticatedFront frame keyId (UInt8.ofNat provider.tagLen)))
            frame.payload
            (bufferSize - XGL_CRC16_SIZE -
              (XGL_WIRE_BASE_HEADER_SIZE + frame.extensions.length + XGL_SECURITY_EXT_SIZE +
                frame.payload.length)) = .ok tag ∧
        bytes = appendFrameCrc (frameAuthenticatedFront frame keyId (UInt8.ofNat provider.tagLen) ++
          frame.payload ++ tag) := by
  have hlen := length_frameAuthenticatedFront frame keyId (UInt8.ofNat provider.tagLen)
  have hcanonical := fun hext : frame.extensions.length ≤ 216 =>
    @wireAuthCanonicalAad_front _ keyId
      (UInt8.ofNat provider.tagLen) hext frame.payload
  unfold xglFrameSerializeAuthenticated xglFrameSerializedSize xglFrameAuthOverhead
  cases hsign : provider.sign with
  | none =>
    rw [if_pos (by simp)]
    refine ⟨fun h => (by cases h), fun h => ?_⟩
    obtain ⟨_, _, _, _, _, _, sign, _, hsome, _⟩ := h
    -- a provider that signs
    cases hsome
  | some sign =>
    rw [if_neg (by simp)]
    -- the payload has to fit its length field
    by_cases hpayload : frame.payload.length > 65535
    · rw [if_pos hpayload]
      exact ⟨fun h => (by cases h), fun h => absurd h.2.2.2.1 (by omega)⟩
    rw [if_neg hpayload]
    -- the tag has to have a length that a byte holds
    by_cases htag : (provider.tagLen == 0 || decide (provider.tagLen > XGL_AUTH_TAG_MAX_LEN)) = true
    · rw [if_pos htag]
      simp only [Bool.or_eq_true, beq_iff_eq, decide_eq_true_eq] at htag
      exact ⟨fun h => (by cases h), fun h => absurd htag (by omega)⟩
    rw [if_neg htag]
    have htagLen : 0 < provider.tagLen ∧ provider.tagLen ≤ XGL_AUTH_TAG_MAX_LEN := by
      simp only [Bool.or_eq_true, beq_iff_eq, decide_eq_true_eq, not_or] at htag
      omega
    have htagByte : UInt8.ofNat provider.tagLen ≠ 0 := by
      intro hzero
      have := congrArg UInt8.toNat hzero
      rw [UInt8.toNat_ofNat', UInt8.toNat_zero] at this
      unfold XGL_AUTH_TAG_MAX_LEN at htagLen
      omega
    rw [if_pos htagLen.1]
    cases hheader : encodeAuthenticatedHeader bufferSize frame keyId
        (UInt8.ofNat provider.tagLen) with
    | error err =>
      refine ⟨fun h => (by cases h), fun h => ?_⟩
      obtain ⟨_, _, hext, _, hvalid, hroom, _⟩ := h
      have hok := (@encodeAuthenticatedHeader_eq_ok bufferSize _ keyId _ _).mpr
        ⟨hext, htagByte, by omega, hvalid, rfl⟩
      rw [hok] at hheader
      cases hheader
    | ok header =>
      obtain ⟨hext, _, hroom, hvalid, rfl⟩ := encodeAuthenticatedHeader_eq_ok.mp hheader
      dsimp only
      rw [hlen]
      by_cases hfit : bufferSize < XGL_WIRE_BASE_HEADER_SIZE + frame.extensions.length +
          XGL_SECURITY_EXT_SIZE + frame.payload.length + provider.tagLen + XGL_CRC16_SIZE
      · rw [if_pos hfit]
        exact ⟨fun h => (by cases h), fun h => absurd h.2.2.2.2.2.1 (by omega)⟩
      rw [if_neg hfit]
      unfold xglWireAppendAuthTrailer
      rw [hsign]
      dsimp only
      rw [if_neg htag, if_neg (by omega), if_neg (by omega), ← hlen, hcanonical hext]
      dsimp only
      rw [hlen]
      have hread : readBytes (frameAuthenticatedFront frame keyId (UInt8.ofNat provider.tagLen) ++
          frame.payload) (XGL_WIRE_BASE_HEADER_SIZE + frame.extensions.length +
            XGL_SECURITY_EXT_SIZE) frame.payload.length = frame.payload := by
        have hmiddle := readBytes_middle
          (frameAuthenticatedFront frame keyId (UInt8.ofNat provider.tagLen)) frame.payload []
        rw [hlen, List.append_nil] at hmiddle
        exact hmiddle
      rw [hread]
      cases hsigned : sign keyId
          (zeroMutableHeaderBytes (frameAuthenticatedFront frame keyId
            (UInt8.ofNat provider.tagLen))) frame.payload
          (bufferSize - XGL_CRC16_SIZE - (XGL_WIRE_BASE_HEADER_SIZE + frame.extensions.length +
            XGL_SECURITY_EXT_SIZE + frame.payload.length)) with
      | error err =>
        refine ⟨fun h => (by cases h), fun h => ?_⟩
        obtain ⟨_, _, _, _, _, _, sign', tag, hsome, _, hok, _⟩ := h
        cases hsome
        rw [hsigned] at hok
        cases hok
      | ok tag =>
        dsimp only
        -- the provider returned as many bytes as it announced
        by_cases hshort : tag.length = provider.tagLen
        · rw [if_neg (by simp [hshort]), if_neg (by
            simp only [Bool.or_eq_true, beq_iff_eq, decide_eq_true_eq]
            omega)]
          dsimp only
          rw [if_neg (by
            simp only [Bool.or_eq_true, bne_iff_ne, decide_eq_true_eq]
            omega)]
          constructor
          · intro h
            cases h
            exact ⟨htagLen.1, htagLen.2, hext, by omega, hvalid, by omega, sign, tag, rfl, hshort,
              hsigned, rfl⟩
          · rintro ⟨_, _, _, _, _, _, sign', tag', hsome, _, hok, rfl⟩
            cases hsome
            rw [hsigned] at hok
            cases hok
            rfl
        · rw [if_pos (by simpa using hshort)]
          refine ⟨fun h => (by cases h), fun h => ?_⟩
          obtain ⟨_, _, _, _, _, _, sign', tag', hsome, hsame, hok, _⟩ := h
          cases hsome
          rw [hsigned] at hok
          cases hok
          exact absurd hsame hshort

end XgenLink
