import XgenLink.Api.Send
import XgenLink.Proofs.FeedbackFits
import XgenLink.Proofs.QueueEntries
import XgenLink.Proofs.WireRoundTrip

/-!
# `XgenLink.Proofs.ZeroCopySend`: copying and zero-copy sends

There are two ways to send. `xgl_send` takes a payload and passes it through three layers that
each contribute to the frame: the transport numbers the packet, the network layer completes its
extensions and builds the frame, and the datalink serializes it into a buffer of its own.
`xgl_send_zerocopy` takes a buffer with room in front of the payload and behind it, and writes the
frame around the payload in one go. It looks up the route itself and does no part of the work of
the transport, so it only takes unreliable requests in one piece.

The bytes that reach the PHY are the same, and the payload is never written over. With
authentication this needs a provider whose tag depends on nothing but the key, the authenticated
bytes and the payload.

The proof goes through the writers from the inside out. Each of them leaves the payload where it
is, also when it fails, and when it succeeds the bytes in the buffer are those that the
corresponding serializer returns.

* `xglFrameBuildZerocopy_ok`, `xglFrameSerializeAuthenticatedInto_cases`: the frame in the
  buffer is the one the serializers return.
* `datalinkSerialize_unique`: a frame is serialized to the same bytes in any buffer.
* `xglSend_ok`, `xglSendZerocopy_ok`: the frame of a request that was sent, and its PHY.
* `xglSendZerocopy_payload`: the payload of a failed request.
* `zerocopy_sends_same_bytes`: the two send functions agree.
-/

set_option autoImplicit false

namespace XgenLink

/-! ### Writing around a payload -/

section Front

variable {buffer header extensions : Bytes} (hheader : header.length = 24)
  (hroom : 24 + extensions.length ≤ buffer.length)

include hheader hroom

/-- Writing header and extensions keeps the size of the buffer and what lies behind them. -/
theorem writeFront_keeps :
    (writeBytes (writeBytes buffer 24 extensions) 0 header).length = buffer.length ∧
      ∀ i len, 24 + extensions.length ≤ i →
        readBytes (writeBytes (writeBytes buffer 24 extensions) 0 header) i len
          = readBytes buffer i len := by
  have hlen := length_writeBytes hroom
  refine ⟨(length_writeBytes (by omega)).trans hlen, fun i len hi => ?_⟩
  rw [readBytes_writeBytes_apart (by omega) (.inr (by omega)),
    readBytes_writeBytes_apart hroom (.inr hi)]

/-- The front of the buffer is then the header and the extensions. -/
theorem readBytes_writeFront :
    readBytes (writeBytes (writeBytes buffer 24 extensions) 0 header) 0 (24 + extensions.length)
      = header ++ extensions := by
  have hlen := length_writeBytes hroom
  rw [readBytes_add]
  congr 1
  · have hself := @readBytes_writeBytes_self (writeBytes buffer 24 extensions) header 0 (by omega)
    rwa [hheader] at hself
  · rw [readBytes_writeBytes_apart (by omega) (.inr (by omega)), Nat.zero_add]
    exact readBytes_writeBytes_self hroom

end Front

/-- Appending the checksum of the first `n` bytes. -/
theorem readBytes_writeCrc {buffer : Bytes} {n : Nat} (hroom : n + 2 ≤ buffer.length) :
    readBytes (writeBytes buffer n (xglSerializeU16Le (xglCrc16Modbus (readBytes buffer 0 n)))) 0
        (n + 2) = appendFrameCrc (readBytes buffer 0 n) := by
  have hwrite : n + (xglSerializeU16Le (xglCrc16Modbus (readBytes buffer 0 n))).length
      ≤ buffer.length := hroom
  rw [readBytes_add, readBytes_writeBytes_apart hwrite (.inl (by omega)), Nat.zero_add]
  exact congrArg (readBytes buffer 0 n ++ ·) (readBytes_writeBytes_self hwrite)

/-- With room for it, the header is encoded when its fields are valid. -/
theorem xglWireEncodeHeader_eq {bufferSize : Nat} (hroom : 24 ≤ bufferSize) (header : WireHeader) :
    xglWireEncodeHeader bufferSize header
      = if wireHeaderFieldsValid header then .ok (wireHeaderBytes header)
        else .error .invalidParam := by
  rw [xglWireEncodeHeader, if_neg (show ¬ bufferSize < XGL_WIRE_BASE_HEADER_SIZE from by
    rw [XGL_WIRE_BASE_HEADER_SIZE]
    omega)]
  cases wireHeaderFieldsValid header <;> rfl

/-! ### Without authentication -/

/-- The size of the extension a data type takes. -/
theorem length_dataExtensions (dataType : UInt8) :
    (dataExtensions dataType).length = if dataType != 0 then XGL_DATA_TYPE_EXT_SIZE else 0 := by
  by_cases hzero : dataType = 0
  · simp [dataExtensions, hzero]
  · simp [dataExtensions, hzero, XGL_DATA_TYPE_EXT_SIZE]

/-- The extension is written behind the header. -/
theorem zerocopyWriteExt_eq {buffer : Bytes} {dataType : UInt8}
    (hroom : 24 + (dataExtensions dataType).length ≤ buffer.length) :
    zerocopyWriteExt buffer dataType
      = (.ok, writeBytes buffer 24 (dataExtensions dataType)) := by
  by_cases hzero : dataType = 0
  · simp [zerocopyWriteExt, dataExtensions, hzero]
  · have hext : dataExtensions dataType = [XGL_WIRE_EXT_DATA_TYPE, 1, dataType] := by
      simp [dataExtensions, hzero]
    have henough : ¬ buffer.length - XGL_WIRE_BASE_HEADER_SIZE < XGL_WIRE_EXT_HEADER_SIZE +
        [dataType].length := by
      rw [hext] at hroom
      simp only [XGL_WIRE_BASE_HEADER_SIZE, XGL_WIRE_EXT_HEADER_SIZE, List.length_cons,
        List.length_nil] at hroom ⊢
      omega
    have hencode : xglWireEncodeExt (buffer.length - XGL_WIRE_BASE_HEADER_SIZE)
        XGL_WIRE_EXT_DATA_TYPE [dataType] = .ok [XGL_WIRE_EXT_DATA_TYPE, 1, dataType] := by
      rw [xglWireEncodeExt, if_neg (by simp [XGL_WIRE_EXT_DATA_TYPE]), if_neg henough]
      rfl
    rw [zerocopyWriteExt, if_neg (by simp [hzero]), hencode, hext]
    rfl

section Build

variable {buffer : Bytes} {dataOffset dataLen : Nat} {sourceId targetId : UInt16}
  {dataType : UInt8} {packetNumber : UInt32} {reliable : Bool} {priority : UInt8}

/-- The header of a frame built in place. -/
def zerocopyHeader (dataLen : Nat) (sourceId targetId : UInt16) (dataType : UInt8)
    (packetNumber : UInt32) (reliable : Bool) (priority : UInt8) : WireHeader :=
  zerocopyWireHeader (24 + (dataExtensions dataType).length) dataLen sourceId targetId
    ((if reliable then XGL_WIRE_FLAG_ACK_ELICITING else 0) |||
      (if dataType != 0 then XGL_WIRE_FLAG_HAS_EXTENSIONS else 0)) packetNumber reliable priority

/-- What `xgl_frame_build_zerocopy` does: it leaves the buffer behind the extensions alone or
finishes the frame. -/
theorem xglFrameBuildZerocopy_cases :
    let built := xglFrameBuildZerocopy buffer dataOffset dataLen sourceId targetId dataType
      packetNumber reliable priority
    let front := writeBytes (writeBytes buffer 24 (dataExtensions dataType)) 0
      (wireHeaderBytes (zerocopyHeader dataLen sourceId targetId dataType packetNumber reliable
        priority))
    (∃ err, built.1 = .error err ∧ err ≠ .ok ∧ ∀ len, readBytes built.2 dataOffset len
        = readBytes buffer dataOffset len) ∨
      (dataOffset = 24 + (dataExtensions dataType).length ∧
        dataOffset + dataLen + 2 ≤ buffer.length ∧ dataLen ≤ 65535 ∧
        wireHeaderFieldsValid (zerocopyHeader dataLen sourceId targetId dataType packetNumber
          reliable priority) = true ∧
        built = (.ok (dataOffset + dataLen + 2), writeBytes front (dataOffset + dataLen)
          (xglSerializeU16Le (xglCrc16Modbus (readBytes front 0 (dataOffset + dataLen)))))) := by
  intro built front
  simp only [built, front, xglFrameBuildZerocopy]
  -- the payload is longer than its length field can say
  by_cases hlong : dataLen > 65535
  · rw [if_pos hlong]
    exact .inl ⟨_, rfl, by decide, fun _ => rfl⟩
  rw [if_neg hlong, ← length_dataExtensions]
  -- the payload does not begin where header and extensions end
  by_cases hoffset : (decide (XGL_WIRE_BASE_HEADER_SIZE + (dataExtensions dataType).length > 255) ||
      dataOffset != XGL_WIRE_BASE_HEADER_SIZE + (dataExtensions dataType).length) = true
  · rw [if_pos hoffset]
    exact .inl ⟨_, rfl, by decide, fun _ => rfl⟩
  rw [if_neg hoffset]
  have hplace : dataOffset = 24 + (dataExtensions dataType).length := by
    simp only [Bool.or_eq_true, bne_iff_ne, not_or, not_not] at hoffset
    exact hoffset.2
  -- the buffer has no room for the checksum
  by_cases hsmall : buffer.length < dataOffset + dataLen + XGL_CRC16_SIZE
  · rw [if_pos hsmall]
    exact .inl ⟨_, rfl, by decide, fun _ => rfl⟩
  simp only [XGL_CRC16_SIZE] at hsmall
  have hroom : 24 + (dataExtensions dataType).length ≤ buffer.length := by omega
  rw [if_neg (by simpa only [XGL_CRC16_SIZE] using hsmall), zerocopyWriteExt_eq hroom]
  have hencode := xglWireEncodeHeader_eq (le_refl 24) (zerocopyHeader dataLen sourceId targetId
    dataType packetNumber reliable priority)
  by_cases hvalid : wireHeaderFieldsValid (zerocopyHeader dataLen sourceId targetId dataType
      packetNumber reliable priority) = true
  · rw [if_pos hvalid] at hencode
    refine .inr ⟨hplace, by omega, by omega, hvalid, ?_⟩
    simp only [zerocopyHeader, XGL_WIRE_BASE_HEADER_SIZE] at hencode ⊢
    rw [hencode]
    rfl
  · rw [if_neg hvalid] at hencode
    refine .inl ⟨.invalidParam, ?_⟩
    simp only [zerocopyHeader, XGL_WIRE_BASE_HEADER_SIZE] at hencode ⊢
    rw [hencode]
    exact ⟨rfl, by decide, fun len => readBytes_writeBytes_apart hroom (.inr hplace.ge)⟩

/-- The payload stays where it is. -/
theorem xglFrameBuildZerocopy_payload :
    readBytes (xglFrameBuildZerocopy buffer dataOffset dataLen sourceId targetId dataType
      packetNumber reliable priority).2 dataOffset dataLen
        = readBytes buffer dataOffset dataLen := by
  rcases @xglFrameBuildZerocopy_cases buffer dataOffset dataLen sourceId targetId dataType
    packetNumber reliable priority with ⟨_, _, _, hkeeps⟩ | ⟨hplace, hroom, _, _, hbuilt⟩
  · exact hkeeps dataLen
  · obtain ⟨hlen, hkeeps⟩ := @writeFront_keeps buffer (wireHeaderBytes (zerocopyHeader dataLen
      sourceId targetId dataType packetNumber reliable priority)) (dataExtensions dataType) rfl
      (by omega)
    rw [hbuilt]
    show readBytes (writeBytes _ (dataOffset + dataLen) _) dataOffset dataLen = _
    rw [readBytes_writeBytes_apart (by rw [hlen]; exact hroom) (.inl (le_refl _)),
      hkeeps _ _ hplace.ge]

/-- A frame built in place is header, extensions, the payload that was there and the
checksum. -/
theorem xglFrameBuildZerocopy_ok {frameLen : Nat}
    (h : (xglFrameBuildZerocopy buffer dataOffset dataLen sourceId targetId dataType packetNumber
      reliable priority).1 = .ok frameLen) :
    frameLen ≠ 0 ∧ dataLen ≤ 65535 ∧
      24 + (dataExtensions dataType).length + dataLen + 2 ≤ buffer.length ∧
      wireHeaderFieldsValid (zerocopyHeader dataLen sourceId targetId dataType packetNumber reliable
        priority) = true ∧
      readBytes (xglFrameBuildZerocopy buffer dataOffset dataLen sourceId targetId dataType
        packetNumber reliable priority).2 0 frameLen
        = appendFrameCrc (wireHeaderBytes (zerocopyHeader dataLen sourceId targetId dataType
          packetNumber reliable priority) ++ dataExtensions dataType ++
            readBytes buffer dataOffset dataLen) := by
  rcases @xglFrameBuildZerocopy_cases buffer dataOffset dataLen sourceId targetId dataType
    packetNumber reliable priority with ⟨err, herr, _⟩ | ⟨hplace, hroom, hshort, hvalid, hbuilt⟩
  · rw [herr] at h
    cases h
  · have hfront : 24 + (dataExtensions dataType).length ≤ buffer.length := by omega
    obtain ⟨hlen, hkeeps⟩ := @writeFront_keeps buffer (wireHeaderBytes (zerocopyHeader dataLen
      sourceId targetId dataType packetNumber reliable priority)) (dataExtensions dataType) rfl
      hfront
    rw [hbuilt] at h ⊢
    cases h
    refine ⟨by omega, hshort, by omega, hvalid, ?_⟩
    show readBytes (writeBytes _ (dataOffset + dataLen) _) 0 (dataOffset + dataLen + 2) = _
    rw [readBytes_writeCrc (by rw [hlen]; exact hroom), readBytes_add, Nat.zero_add,
      hkeeps _ _ hplace.ge]
    congr 2
    rw [hplace]
    exact readBytes_writeFront rfl hfront

end Build

/-! ### With authentication -/

section Authenticated

variable {buffer : Bytes} {frame : Frame} {keyId : UInt32} {tagLen : UInt8}

/-- `encode_authenticated_header` writes in front of the payload only, and when it succeeds
what it wrote is the front of the frame. -/
theorem encodeAuthenticatedHeaderInto_cases :
    let encoded := encodeAuthenticatedHeaderInto buffer frame keyId tagLen
    encoded.2.length = buffer.length ∧
      (∀ i len, 24 + frame.extensions.length + 15 ≤ i →
        readBytes encoded.2 i len = readBytes buffer i len) ∧
      (∀ headerLen, encoded.1 = .ok headerLen →
        headerLen = 24 + frame.extensions.length + 15 ∧
        encodeAuthenticatedHeader buffer.length frame keyId tagLen
          = .ok (readBytes encoded.2 0 headerLen)) ∧
      encoded.1 ≠ .error .ok := by
  intro encoded
  simp only [encoded, encodeAuthenticatedHeaderInto, xglWireEncodeSecurityExtValue]
  -- the extensions do not fit the header length
  by_cases hlong : frame.extensions.length > 255 - XGL_WIRE_BASE_HEADER_SIZE
  · rw [if_pos hlong]
    exact ⟨rfl, fun _ _ _ => rfl, fun _ h => (by cases h), by simp⟩
  rw [if_neg hlong]
  by_cases hsmall : buffer.length < XGL_WIRE_BASE_HEADER_SIZE + frame.extensions.length +
      XGL_WIRE_EXT_HEADER_SIZE + 13
  · rw [if_pos hsmall]
    exact ⟨rfl, fun _ _ _ => rfl, fun _ h => (by cases h), by simp⟩
  rw [if_neg hsmall]
  simp only [XGL_WIRE_BASE_HEADER_SIZE, XGL_WIRE_EXT_HEADER_SIZE] at hsmall hlong
  have hexts : 24 + frame.extensions.length ≤ buffer.length := by omega
  have hlen := length_writeBytes hexts
  by_cases htag : (tagLen == 0) = true
  · rw [if_pos htag]
    exact ⟨hlen, fun i len hi => readBytes_writeBytes_apart hexts (.inr (by omega)),
      fun _ h => (by cases h), by simp⟩
  rw [if_neg htag]
  -- the SECURITY_EXT fits, so header and extensions are written in one piece
  have hsecurity : xglWireEncodeExt ((writeBytes buffer XGL_WIRE_BASE_HEADER_SIZE
      frame.extensions).length - XGL_WIRE_BASE_HEADER_SIZE - frame.extensions.length)
      XGL_WIRE_EXT_SECURITY (xglSerializeU32Le keyId ++
        wireSerializeU64Le frame.header.packetNumber.toUInt64 ++ [tagLen])
        = .ok (encodeWireExts [frameSecurityExt frame keyId tagLen]) := by
    have hvalue : (xglSerializeU32Le keyId ++
        wireSerializeU64Le frame.header.packetNumber.toUInt64 ++ [tagLen]).length = 13 := rfl
    rw [xglWireEncodeExt, hvalue, if_neg (by decide), if_neg]
    · rfl
    · show ¬ (writeBytes buffer 24 frame.extensions).length - 24 - frame.extensions.length < 2 + 13
      omega
  have hsize : (encodeWireExts [frameSecurityExt frame keyId tagLen]).length = 15 := rfl
  simp only [hsecurity, hsize]
  have hboth : writeBytes (writeBytes buffer XGL_WIRE_BASE_HEADER_SIZE frame.extensions)
      (XGL_WIRE_BASE_HEADER_SIZE + frame.extensions.length)
      (encodeWireExts [frameSecurityExt frame keyId tagLen])
        = writeBytes buffer 24 (frame.extensions ++
          encodeWireExts [frameSecurityExt frame keyId tagLen]) :=
    writeBytes_append hexts _
  have hall : (frame.extensions ++ encodeWireExts [frameSecurityExt frame keyId tagLen]).length
      = frame.extensions.length + 15 := by
    rw [List.length_append, hsize]
  have hroom : 24 + (frame.extensions ++
      encodeWireExts [frameSecurityExt frame keyId tagLen]).length ≤ buffer.length := by omega
  rw [hboth]
  -- the SECURITY_EXT makes the header too long
  by_cases hmax : XGL_WIRE_BASE_HEADER_SIZE + frame.extensions.length + 15 > 255
  · rw [if_pos hmax]
    exact ⟨length_writeBytes hroom,
      fun i len hi => readBytes_writeBytes_apart hroom (.inr (by omega)),
      fun _ h => (by cases h), by simp⟩
  rw [if_neg hmax]
  have hencode : xglWireEncodeHeader (writeBytes buffer 24 (frame.extensions ++
      encodeWireExts [frameSecurityExt frame keyId tagLen])).length
        (frameAuthenticatedHeader frame (XGL_WIRE_BASE_HEADER_SIZE + frame.extensions.length + 15))
      = if wireHeaderFieldsValid (frameSecuredHeader frame) then
          .ok (wireHeaderBytes (frameSecuredHeader frame)) else .error .invalidParam := by
    rw [length_writeBytes hroom]
    exact xglWireEncodeHeader_eq (by omega) (frameSecuredHeader frame)
  by_cases hvalid : wireHeaderFieldsValid (frameSecuredHeader frame) = true
  · rw [hencode, if_pos hvalid]
    obtain ⟨hkept, hkeeps⟩ := @writeFront_keeps buffer (wireHeaderBytes (frameSecuredHeader frame))
      (frame.extensions ++ encodeWireExts [frameSecurityExt frame keyId tagLen]) rfl hroom
    refine ⟨hkept, fun i len hi => hkeeps i len (by omega), fun headerLen h => ?_, by simp⟩
    cases h
    refine ⟨rfl, encodeAuthenticatedHeader_eq_ok.mpr ⟨?_, by simpa using htag, ?_, hvalid, ?_⟩⟩
    · simp only [XGL_WIRE_BASE_HEADER_SIZE] at hmax
      omega
    · show 24 + frame.extensions.length + 15 ≤ buffer.length
      omega
    · have hfront := @readBytes_writeFront buffer (wireHeaderBytes (frameSecuredHeader frame))
        (frame.extensions ++ encodeWireExts [frameSecurityExt frame keyId tagLen]) rfl hroom
      rw [hall, ← Nat.add_assoc] at hfront
      rw [frameAuthenticatedFront, List.append_assoc]
      exact hfront
  · rw [hencode, if_neg hvalid]
    exact ⟨length_writeBytes hroom,
      fun i len hi => readBytes_writeBytes_apart hroom (.inr (by omega)),
      fun _ h => (by cases h), by simp⟩

/-- A failure is reported with a code of its own: `XGL_OK` is not an error. -/
def AuthProvider.FailsWithError (provider : AuthProvider) : Prop :=
  ∀ sign, provider.sign = some sign →
    ∀ keyId aad payload capacity, sign keyId aad payload capacity ≠ .error .ok

/-- So is that of the canonical form. -/
theorem wireAuthCanonicalAad_ne_ok {aad : Bytes} {err : XglError}
    (h : wireAuthCanonicalAad aad = .error err) : err ≠ .ok := by
  simp only [wireAuthCanonicalAad] at h
  split at h
  · cases h
  · split at h
    · cases h
      decide
    · cases h

/-- The trailer depends on the header and the payload in the buffer only. -/
theorem xglWireAppendAuthTrailer_congr {a b : Bytes} {bufferSize aadLen payloadLen : Nat}
    {provider : AuthProvider} (haad : readBytes a 0 aadLen = readBytes b 0 aadLen)
    (hpayload : readBytes a aadLen payloadLen = readBytes b aadLen payloadLen) :
    xglWireAppendAuthTrailer a bufferSize aadLen payloadLen keyId provider
      = xglWireAppendAuthTrailer b bufferSize aadLen payloadLen keyId provider := by
  simp only [xglWireAppendAuthTrailer, haad, hpayload]

/-- `xgl_wire_append_auth_trailer` writes behind the payload only, and when it succeeds what
it wrote is the tag. -/
theorem xglWireAppendAuthTrailerInto_cases {bufferSize aadLen payloadLen : Nat}
    {provider : AuthProvider} (leftover : Bytes) (hsize : bufferSize ≤ buffer.length) :
    let appended := xglWireAppendAuthTrailerInto buffer bufferSize aadLen payloadLen keyId provider
      leftover
    appended.2.length = buffer.length ∧
      (∀ i len, i + len ≤ aadLen + payloadLen →
        readBytes appended.2 i len = readBytes buffer i len) ∧
      (∀ frameLen, appended.1 = .ok frameLen →
        ∃ tag, xglWireAppendAuthTrailer buffer bufferSize aadLen payloadLen keyId provider
            = .ok tag ∧ frameLen = aadLen + payloadLen + tag.length ∧
          readBytes appended.2 (aadLen + payloadLen) tag.length = tag) ∧
      (provider.FailsWithError → appended.1 ≠ .error .ok) := by
  intro appended
  -- nothing is written before the provider is called
  have hidle : ∀ err : XglError, err ≠ .ok →
      let failed : Except XglError Nat × Bytes := (.error err, buffer)
      failed.2.length = buffer.length ∧
        (∀ i len, i + len ≤ aadLen + payloadLen →
          readBytes failed.2 i len = readBytes buffer i len) ∧
        (∀ frameLen, failed.1 = .ok frameLen →
          ∃ tag, xglWireAppendAuthTrailer buffer bufferSize aadLen payloadLen keyId provider
              = .ok tag ∧ frameLen = aadLen + payloadLen + tag.length ∧
            readBytes failed.2 (aadLen + payloadLen) tag.length = tag) ∧
        (provider.FailsWithError → failed.1 ≠ .error .ok) :=
    fun err herr =>
      ⟨rfl, fun _ _ _ => rfl, fun _ h => (by cases h), fun _ => by simpa using herr⟩
  simp only [appended, xglWireAppendAuthTrailerInto]
  cases hsign : provider.sign with
  | none => exact hidle _ (by decide)
  | some sign =>
    dsimp only
    by_cases htag : (provider.tagLen == 0 || decide (provider.tagLen > XGL_AUTH_TAG_MAX_LEN)) = true
    · rw [if_pos htag]
      exact hidle _ (by decide)
    rw [if_neg htag]
    -- the buffer ends before the payload does
    by_cases hfull : aadLen + payloadLen > bufferSize
    · rw [if_pos hfull]
      exact hidle _ (by decide)
    rw [if_neg hfull]
    -- the tag does not fit the buffer
    by_cases hroom : bufferSize - (aadLen + payloadLen) < provider.tagLen
    · rw [if_pos hroom]
      exact hidle _ (by decide)
    rw [if_neg hroom]
    cases hcanonical : wireAuthCanonicalAad (readBytes buffer 0 aadLen) with
    | error err => exact hidle _ (wireAuthCanonicalAad_ne_ok hcanonical)
    | ok signingAad =>
      -- the provider stays in its room
      have hwrite : ∀ left : Bytes, aadLen + payloadLen +
          (left.take (bufferSize - (aadLen + payloadLen))).length ≤ buffer.length := by
        intro left
        rw [List.length_take]
        omega
      have hkeeps : ∀ (left : Bytes) (i len : Nat), i + len ≤ aadLen + payloadLen →
          readBytes (writeBytes buffer (aadLen + payloadLen)
            (left.take (bufferSize - (aadLen + payloadLen)))) i len = readBytes buffer i len :=
        fun left i len hi => readBytes_writeBytes_apart (hwrite left) (.inl hi)
      dsimp only
      cases hsigned : sign keyId signingAad (readBytes buffer aadLen payloadLen)
          (bufferSize - (aadLen + payloadLen)) with
      | error err =>
        refine ⟨length_writeBytes (hwrite leftover), hkeeps leftover, fun _ h => (by cases h), ?_⟩
        intro hprovider hok
        cases hok
        exact hprovider _ hsign _ _ _ _ hsigned
      | ok tag =>
        dsimp only
        -- the provider returns a tag of another length
        by_cases hlength : tag.length = provider.tagLen
        · have hshort : ¬ (tag.length == 0 ||
              decide (aadLen + payloadLen + tag.length > bufferSize)) = true := by
            simp only [Bool.or_eq_true, beq_iff_eq, decide_eq_true_eq] at htag ⊢
            omega
          have htake : tag.take (bufferSize - (aadLen + payloadLen)) = tag :=
            List.take_of_length_le (by omega)
          rw [if_neg (by simp [hlength]), if_neg hshort]
          refine ⟨length_writeBytes (hwrite tag), hkeeps tag, fun frameLen h => ?_,
              fun _ => by simp⟩
          cases h
          refine ⟨tag, ?_, rfl, ?_⟩
          · simp only [xglWireAppendAuthTrailer, hsign]
            rw [if_neg htag, if_neg hfull, if_neg hroom, hcanonical]
            dsimp only
            rw [hsigned]
            dsimp only
            rw [if_neg (by simp [hlength]), if_neg hshort]
          · have hself := readBytes_writeBytes_self (hwrite tag)
            rw [htake] at hself
            rw [htake]
            exact hself
        · rw [if_pos (by simpa using hlength)]
          exact ⟨length_writeBytes (hwrite tag), hkeeps tag, fun _ h => (by cases h),
              fun _ => by simp⟩

/-- `xgl_frame_serialize_authenticated` around the payload of its frame: the payload stays
where it is, and a finished frame is the one the serializer returns. -/
theorem xglFrameSerializeAuthenticatedInto_cases {payloadOffset : Nat} {provider : AuthProvider}
    (leftover : Bytes) (hplace : payloadOffset = 24 + frame.extensions.length + 15)
    (hpayload : readBytes buffer payloadOffset frame.payload.length = frame.payload) :
    let done := xglFrameSerializeAuthenticatedInto buffer payloadOffset frame keyId provider
        leftover
    readBytes done.2 payloadOffset frame.payload.length = frame.payload ∧
      (∀ frameLen, done.1 = .ok frameLen → frameLen ≠ 0 ∧
        xglFrameSerializeAuthenticated buffer.length frame keyId provider
          = .ok (readBytes done.2 0 frameLen)) ∧
      (provider.FailsWithError → done.1 ≠ .error .ok) := by
  intro done
  simp only [done, xglFrameSerializeAuthenticatedInto, xglFrameSerializeAuthenticated]
  by_cases hnone : provider.sign.isNone = true
  · rw [if_pos hnone]
    exact ⟨hpayload, fun _ h => (by cases h), fun _ => by simp⟩
  rw [if_neg hnone, if_neg hnone]
  by_cases hlong : frame.payload.length > 65535
  · rw [if_pos hlong]
    exact ⟨hpayload, fun _ h => (by cases h), fun _ => by simp⟩
  rw [if_neg hlong, if_neg hlong]
  by_cases htag : (provider.tagLen == 0 || decide (provider.tagLen > XGL_AUTH_TAG_MAX_LEN)) = true
  · rw [if_pos htag]
    exact ⟨hpayload, fun _ h => (by cases h), fun _ => by simp⟩
  rw [if_neg htag, if_neg htag]
  obtain ⟨hlen, hkeeps, hheader, hheaderErr⟩ :=
    @encodeAuthenticatedHeaderInto_cases buffer frame keyId
    (UInt8.ofNat provider.tagLen)
  generalize encodeAuthenticatedHeaderInto buffer frame keyId (UInt8.ofNat provider.tagLen)
    = encoded at hlen hkeeps hheader hheaderErr
  obtain ⟨result, front⟩ := encoded
  have hstill : readBytes front payloadOffset frame.payload.length = frame.payload := by
    rw [hkeeps _ _ hplace.ge, hpayload]
  cases result with
  | error err => exact ⟨hstill, fun _ h => (by cases h), fun _ => hheaderErr⟩
  | ok headerLen =>
    obtain ⟨hheaderLen, hencode⟩ := hheader headerLen rfl
    have hoffset : payloadOffset = headerLen := by rw [hplace, hheaderLen]
    subst hoffset
    dsimp only at hlen hkeeps hencode hstill ⊢
    rw [hencode]
    dsimp only
    rw [length_readBytes, hlen]
    by_cases hsmall : buffer.length < payloadOffset + frame.payload.length + provider.tagLen +
        XGL_CRC16_SIZE
    · rw [if_pos hsmall]
      exact ⟨hstill, fun _ h => (by cases h), fun _ => by simp⟩
    rw [if_neg hsmall, if_neg hsmall, hstill]
    -- the payload is copied onto itself
    have hroom : payloadOffset + frame.payload.length ≤ front.length := by omega
    have hcopied : (writeBytes front payloadOffset frame.payload).length = buffer.length :=
      (length_writeBytes hroom).trans hlen
    have haad : readBytes (writeBytes front payloadOffset frame.payload) 0 payloadOffset
        = readBytes front 0 payloadOffset :=
      readBytes_writeBytes_apart hroom (.inl (by omega))
    have hcopy : readBytes (writeBytes front payloadOffset frame.payload) payloadOffset
        frame.payload.length = frame.payload := readBytes_writeBytes_self hroom
    obtain ⟨hlen', hkeeps', htrailer, htrailerErr⟩ := @xglWireAppendAuthTrailerInto_cases
      (writeBytes front payloadOffset frame.payload) keyId (buffer.length - XGL_CRC16_SIZE)
      payloadOffset frame.payload.length provider leftover (by omega)
    rw [hcopied]
    generalize xglWireAppendAuthTrailerInto (writeBytes front payloadOffset frame.payload)
      (buffer.length - XGL_CRC16_SIZE) payloadOffset frame.payload.length keyId provider leftover
      = appended at hlen' hkeeps' htrailer htrailerErr
    obtain ⟨result, signed⟩ := appended
    dsimp only at hlen' hkeeps' htrailer htrailerErr
    have hpayload' : readBytes signed payloadOffset frame.payload.length = frame.payload := by
      rw [hkeeps' _ _ (le_refl _), hcopy]
    cases result with
    | error err => exact ⟨hpayload', fun _ h => (by cases h), htrailerErr⟩
    | ok frameLenWithoutCrc =>
      obtain ⟨tag, hserial, rfl, htagRead⟩ := htrailer _ rfl
      have hsame : xglWireAppendAuthTrailer (readBytes front 0 payloadOffset ++ frame.payload)
          (buffer.length - XGL_CRC16_SIZE) payloadOffset frame.payload.length keyId provider
            = .ok tag := by
        rw [← hserial]
        apply xglWireAppendAuthTrailer_congr
        · rw [readBytes_append_left _ _ _ _ (by rw [length_readBytes]; omega), haad,
            readBytes_readBytes _ _ _ _ _ (by omega)]
        · rw [readBytes_append_right _ _ _ _ (by rw [length_readBytes]), length_readBytes,
            Nat.sub_self, readBytes_self, hcopy]
      have hbody : readBytes signed 0 (payloadOffset + frame.payload.length + tag.length)
          = readBytes front 0 payloadOffset ++ frame.payload ++ tag := by
        rw [readBytes_add, readBytes_add, Nat.zero_add, Nat.zero_add, htagRead, hpayload',
          hkeeps' _ _ (by omega), haad]
      rw [hsame]
      dsimp only
      rw [hlen', hcopied]
      by_cases hwrong : (payloadOffset + frame.payload.length + tag.length !=
          payloadOffset + frame.payload.length + provider.tagLen ||
            decide (payloadOffset + frame.payload.length + tag.length + XGL_CRC16_SIZE >
              buffer.length)) = true
      · rw [if_pos hwrong]
        exact ⟨hpayload', fun _ h => (by cases h), fun _ => by simp⟩
      rw [if_neg hwrong, if_neg hwrong]
      have hend : payloadOffset + frame.payload.length + tag.length + 2 ≤ signed.length := by
        have hfits : ¬ payloadOffset + frame.payload.length + tag.length + XGL_CRC16_SIZE >
            buffer.length := fun hover => hwrong (by simp [hover])
        simp only [XGL_CRC16_SIZE] at hfits
        omega
      have hcrc := readBytes_writeCrc hend
      refine ⟨?_, fun frameLen h => ?_, fun _ => by simp⟩
      · rw [readBytes_writeBytes_apart hend (.inl (by omega)), hpayload']
      · cases h
        refine ⟨by omega, ?_⟩
        rw [← hbody]
        exact congrArg Except.ok hcrc.symm

end Authenticated

/-! ### `xgl_send` -/

/-- The request to `xgl_send` with the parameters and the payload of a zero-copy request. -/
def TxDataZerocopy.copied (txData : TxDataZerocopy) : TxData where
  targetId := txData.targetId
  dataType := txData.dataType
  data := some txData.payload
  priority := txData.priority

/-- The packet of that request. -/
def TxDataZerocopy.packet (txData : TxDataZerocopy) (config : TransportConfig) : Packet :=
  txPacket config none txData.copied txData.payload 0 false []

/-- The tag length is refused with an error. -/
theorem datalinkAuthTagLen_ne_ok {authRequired : Bool} {authProvider : Option AuthProvider}
    {err : XglError} (h : datalinkAuthTagLen authRequired authProvider = .error err) :
    err ≠ .ok := by
  simp only [datalinkAuthTagLen] at h
  split at h
  · cases h
  split at h
  · cases h
    decide
  split at h
  · cases h
    decide
  · cases h

/-- So is a header. -/
theorem xglWireEncodeHeader_ne_ok (bufferSize : Nat) (header : WireHeader) :
    xglWireEncodeHeader bufferSize header ≠ .error .ok := by
  simp only [xglWireEncodeHeader]
  split
  · simp
  split <;> simp

/-- So is a frame. -/
theorem xglFrameSerialize_ne_ok (bufferSize : Nat) (frame : Frame) :
    xglFrameSerialize bufferSize frame ≠ .error .ok := by
  simp only [xglFrameSerialize]
  split
  · simp
  split
  · simp
  split
  · rename_i err hencode
    intro h
    cases h
    exact xglWireEncodeHeader_ne_ok _ _ hencode
  · simp

/-- So is the header of an authenticated frame. -/
theorem encodeAuthenticatedHeader_ne_ok (bufferSize : Nat) (frame : Frame) (keyId : UInt32)
    (tagLen : UInt8) : encodeAuthenticatedHeader bufferSize frame keyId tagLen ≠ .error .ok := by
  simp only [encodeAuthenticatedHeader, xglWireEncodeSecurityExtValue, xglWireEncodeExt]
  split
  · simp
  split
  · simp
  by_cases htag : (tagLen == 0) = true
  · rw [if_pos htag]
    simp
  rw [if_neg htag]
  dsimp only
  split
  · rename_i err hencode
    intro h
    cases h
    split at hencode
    · cases hencode
    split at hencode <;> cases hencode
  split
  · simp
  split
  · rename_i err hencode
    intro h
    cases h
    exact xglWireEncodeHeader_ne_ok _ _ hencode
  · simp

/-- So is the trailer, by a provider that reports its errors. -/
theorem xglWireAppendAuthTrailer_ne_ok {buffer : Bytes} {bufferSize aadLen payloadLen : Nat}
    {keyId : UInt32} {provider : AuthProvider} (hprovider : provider.FailsWithError) :
    xglWireAppendAuthTrailer buffer bufferSize aadLen payloadLen keyId provider ≠ .error .ok := by
  simp only [xglWireAppendAuthTrailer]
  split
  · simp
  rename_i sign hsign
  split
  · simp
  split
  · simp
  split
  · simp
  split
  · rename_i err hcanonical
    simpa using wireAuthCanonicalAad_ne_ok hcanonical
  split
  · rename_i err hsigned
    intro h
    cases h
    exact hprovider sign hsign _ _ _ _ hsigned
  split
  · simp
  split <;> simp

/-- So is an authenticated frame. -/
theorem xglFrameSerializeAuthenticated_ne_ok {bufferSize : Nat} {frame : Frame} {keyId : UInt32}
    {provider : AuthProvider} (hprovider : provider.FailsWithError) :
    xglFrameSerializeAuthenticated bufferSize frame keyId provider ≠ .error .ok := by
  simp only [xglFrameSerializeAuthenticated]
  split
  · simp
  split
  · simp
  split
  · simp
  split
  · rename_i err hencode
    intro h
    cases h
    exact encodeAuthenticatedHeader_ne_ok _ _ _ _ hencode
  split
  · simp
  split
  · rename_i err htrailer
    intro h
    cases h
    exact xglWireAppendAuthTrailer_ne_ok hprovider htrailer
  split <;> simp

/-- A successful datalink send gave the serialized frame to the PHY. -/
theorem xglDatalinkSend_ok {datalink : DatalinkCtx} {phyTx : Option (Bytes → XglError)}
    {allocOk : Bool} {frame : Frame}
    (hprovider : ∀ provider, datalink.authProvider = some provider → provider.FailsWithError)
    (h : (xglDatalinkSend datalink phyTx allocOk frame).error = .ok) :
    ∃ size bytes, datalinkSerialize datalink size frame = .ok bytes ∧
      (xglDatalinkSend datalink phyTx allocOk frame).transmitted = some bytes := by
  have hserialize : ∀ size, datalinkSerialize datalink size frame ≠ .error .ok := by
    intro size
    simp only [datalinkSerialize]
    split
    · rename_i provider _ hauth
      exact xglFrameSerializeAuthenticated_ne_ok (hprovider provider hauth)
    · simp
    · exact xglFrameSerialize_ne_ok _ _
  simp only [xglDatalinkSend] at h ⊢
  cases phyTx with
  | none => cases h
  | some tx =>
    dsimp only at h ⊢
    cases hauth : datalinkAuthTagLen datalink.authRequired datalink.authProvider with
    | error err =>
      rw [hauth] at h
      exact absurd h (datalinkAuthTagLen_ne_ok hauth)
    | ok authTagLen =>
      rw [hauth] at h
      dsimp only at h ⊢
      split at h
      · cases h
      rename_i halloc
      rw [if_neg halloc]
      cases hbytes : datalinkSerialize datalink (xglFrameSerializedSize frame.payload.length
          frame.extensions.length authTagLen) frame with
      | error err =>
        rw [hbytes] at h
        cases h
        exact absurd hbytes (hserialize _)
      | ok bytes =>
        refine ⟨_, bytes, hbytes, ?_⟩
        dsimp only
        split <;> rfl

/-- A packet that is sent goes as one frame to the PHY of its route. -/
theorem xglNetworkSendWithHandle_ok {net : NetworkCtx} {datalink : DatalinkCtx} {allocOk : Bool}
    {packet : Packet} (hsource : packet.sourceId = net.localId)
    (hbuilds : networkBuildTxFrame packet ≠ .error .ok)
    (hprovider : ∀ provider, datalink.authProvider = some provider → provider.FailsWithError)
    (h : (xglNetworkSendWithHandle net datalink allocOk packet).error = .ok) :
    ∃ route phy frame size bytes, xglRouteTableLookup net.routeTable packet.targetId = some route ∧
      route.phy = some phy ∧ networkBuildTxFrame packet = .ok frame ∧
      datalinkSerialize datalink size frame = .ok bytes ∧
      (xglNetworkSendWithHandle net datalink allocOk packet).transmitted = some bytes := by
  have hpacket : (if packet.sourceId == 0 then { packet with sourceId := net.localId } else packet)
      = packet := by
    rw [← hsource]
    split <;> rfl
  simp only [xglNetworkSendWithHandle, hpacket] at h ⊢
  split at h
  · cases h
  rename_i hdata
  rw [if_neg hdata]
  cases hlook : xglRouteTableLookup net.routeTable packet.targetId with
  | none =>
    rw [hlook] at h
    cases h
  | some route =>
    rw [hlook] at h
    dsimp only at h ⊢
    cases hbuild : networkBuildTxFrame packet with
    | error err =>
      rw [hbuild] at h
      cases h
      exact absurd hbuild hbuilds
    | ok frame =>
      rw [hbuild] at h
      dsimp only at h ⊢
      cases hbudget : networkValidateAuthTxBudget net frame route with
      | ok =>
        rw [hbudget] at h
        simp only [networkSendFrameToLower] at h ⊢
        split at h
        · cases h
        rename_i hlower
        rw [if_neg hlower]
        cases hphy : route.phy with
        | none =>
          rw [hphy] at h
          cases h
        | some phy =>
          rw [hphy] at h
          obtain ⟨size, bytes, hbytes, hsent⟩ := xglDatalinkSend_ok hprovider h
          exact ⟨route, phy, frame, size, bytes, rfl, hphy, rfl, hbytes, hsent⟩
      | _ =>
        rw [hbudget] at h
        cases h

/-- The extensions of the packet are those of its data type. -/
theorem TxDataZerocopy.networkBuildTxFrame_packet (txData : TxDataZerocopy)
    (config : TransportConfig) :
    networkBuildTxFrame (txData.packet config)
      = xglFrameBuild (zerocopyFrameParams config.localId txData
          (dataExtensions txData.dataType)) := by
  have hcopy : networkCopyPacketExtensions (txData.packet config)
      = .ok (dataExtensions txData.dataType) := networkAppendDataTypeExt_nil txData.dataType
  rw [networkBuildTxFrame, hcopy]
  rfl

/-- An unreliable request that needs no fragments is one packet. -/
theorem xglTransportSend_copied {env : TransportEnv} {ctx : TransportCtx}
    {txData : TxDataZerocopy}
    (hplan : ∀ plan, transportBuildSendPlan ctx.config txData.copied txData.payload.length
      = .ok plan → plan.needsFragmentation = false)
    (h : (xglTransportSend env ctx txData.copied).1 = .ok) :
    env.layerSend ctx.io.sendCount (txData.packet ctx.config) = .ok ∧
      (xglTransportSend env ctx txData.copied).2.io.events
        = ctx.io.events ++ [.layerSend (txData.packet ctx.config) .ok] := by
  simp only [xglTransportSend, show txData.copied.data = some txData.payload from rfl] at h ⊢
  split at h
  · cases h
  rename_i hdata
  rw [if_neg hdata]
  split at h
  · cases h
  rename_i hlower
  rw [if_neg hlower]
  -- the request is unreliable, so there is no peer
  rw [show txData.copied.reliable = false from rfl, if_neg (by decide)] at h ⊢
  simp only [transportSendPlanned] at h ⊢
  cases hbuilt : transportBuildSendPlan ctx.config txData.copied txData.payload.length with
  | error err =>
    rw [hbuilt] at h
    cases h
    exact absurd rfl (transportBuildSendPlan_error hbuilt)
  | ok plan =>
    have hone : transportTransmit env ctx none txData.copied txData.payload plan
        = (env.layerSend ctx.io.sendCount (txData.packet ctx.config),
          { ctx with io := (xglLayerSend env ctx.io (txData.packet ctx.config)).2 }, none) := by
      rw [transportTransmit, hplan plan hbuilt, if_neg (by decide)]
      rfl
    rw [hbuilt] at h
    simp only [hone] at h ⊢
    have hok : env.layerSend ctx.io.sendCount (txData.packet ctx.config) = .ok := by
      split at h
      · assumption
      · exact h
    refine ⟨hok, ?_⟩
    simp only [hok]
    show ctx.io.events ++ [.layerSend (txData.packet ctx.config)
      (env.layerSend ctx.io.sendCount (txData.packet ctx.config))] = _
    rw [hok]

/-! ### The frame of both -/

/-- The traffic class of an unreliable packet is its priority. -/
theorem unreliable_traffic_class (priority : UInt8) :
    xglFrameSetPriority (xglFrameSetFragmented (xglFrameSetReliability 0 false) false) priority
        = 0 ||| (priority &&& XGL_TRAFFIC_PRIORITY_MASK) ∧
      (0 ||| (priority &&& XGL_TRAFFIC_PRIORITY_MASK)) &&& XGL_RELIABILITY_CLASS_MASK = 0 ∧
      (0 ||| (priority &&& XGL_TRAFFIC_PRIORITY_MASK)) &&& XGL_TRAFFIC_FRAGMENTED_MASK = 0 := by
  revert priority
  exact forall_uint8 (by decide +kernel)

/-- The frame of a zero-copy request. -/
def TxDataZerocopy.frame (txData : TxDataZerocopy) (sourceId : UInt16) : Frame :=
  frameOfParams (zerocopyFrameParams sourceId txData (dataExtensions txData.dataType))

section Requests

variable {txData : TxDataZerocopy} {sourceId : UInt16}

/-- The frame is built from payloads of up to 65535 bytes. -/
theorem TxDataZerocopy.xglFrameBuild_eq :
    xglFrameBuild (zerocopyFrameParams sourceId txData (dataExtensions txData.dataType))
      = if txData.payload.length > 65535 then .error .bufferTooSmall
        else .ok (txData.frame sourceId) := rfl

/-- The header of that frame is the one written in place. -/
theorem TxDataZerocopy.frameWireHeader_frame :
    frameWireHeader (txData.frame sourceId)
      = zerocopyHeader txData.dataLen sourceId txData.targetId txData.dataType 0 false
        txData.priority := by
  obtain ⟨hbits, hclass, hfrag⟩ := unreliable_traffic_class txData.priority
  have hclassBits : frameTrafficClassBits (zerocopyFrameParams sourceId txData
      (dataExtensions txData.dataType))
        = 0 ||| (txData.priority &&& XGL_TRAFFIC_PRIORITY_MASK) := hbits
  have hflags : frameFlagsAndType (zerocopyFrameParams sourceId txData
      (dataExtensions txData.dataType))
        = (if (dataExtensions txData.dataType).length > 0 then XGL_WIRE_FLAG_HAS_EXTENSIONS else 0,
          XGL_PACKET_TYPE_DATA) := by
    simp only [frameFlagsAndType, hclassBits, hclass, hfrag]
    show ((if (dataExtensions txData.dataType).length > 0 then
        (0 : UInt8) ||| XGL_WIRE_FLAG_HAS_EXTENSIONS else 0), XGL_PACKET_TYPE_DATA) = _
    split <;> rfl
  have hlen : txData.payload.length = txData.dataLen := length_readBytes _ _ _
  simp only [frameWireHeader, TxDataZerocopy.frame, frameOfParams, hflags, hclassBits]
  simp only [zerocopyFrameParams, hlen, zerocopyHeader, zerocopyWireHeader]
  by_cases hzero : txData.dataType = 0
  · simp [dataExtensions, hzero, XGL_WIRE_BASE_HEADER_SIZE]
  · simp [dataExtensions, hzero, XGL_WIRE_BASE_HEADER_SIZE]

end Requests

/-- The tag is determined by the key, the authenticated bytes and the payload; how much room
there is for it does not matter. -/
structure AuthProvider.Deterministic (provider : AuthProvider) : Prop where
  unique : ∀ sign, provider.sign = some sign →
    ∀ keyId aad payload roomA roomB tagA tagB, sign keyId aad payload roomA = .ok tagA →
      sign keyId aad payload roomB = .ok tagB → tagA = tagB
  fails : provider.FailsWithError

/-- The same frame is serialized to the same bytes, whatever buffer it is given. -/
theorem datalinkSerialize_unique {datalink : DatalinkCtx} {frame : Frame} {a b : Bytes}
    {sizeA sizeB : Nat}
    (hsign : ∀ provider, datalink.authProvider = some provider → provider.Deterministic)
    (ha : datalinkSerialize datalink sizeA frame = .ok a)
    (hb : datalinkSerialize datalink sizeB frame = .ok b) : a = b := by
  simp only [datalinkSerialize] at ha hb
  split at ha
  · rename_i provider hrequired hprovider
    rw [hrequired, hprovider] at hb
    obtain ⟨_, _, _, _, _, _, sign, tagA, hsome, _, htagA, rfl⟩ :=
      xglFrameSerializeAuthenticated_eq_ok.mp ha
    obtain ⟨_, _, _, _, _, _, sign', tagB, hsome', _, htagB, rfl⟩ :=
      xglFrameSerializeAuthenticated_eq_ok.mp hb
    rw [hsome] at hsome'
    cases hsome'
    rw [(hsign provider hprovider).unique sign hsome _ _ _ _ _ _ _ htagA htagB]
  · cases ha
  · rename_i hrequired
    rw [hrequired] at hb
    rw [(xglFrameSerialize_eq_ok ha).1, (xglFrameSerialize_eq_ok hb).1]

/-! ### `xgl_send_zerocopy` -/

section Instances

variable {inst : XglInstance} {txData : TxDataZerocopy}

/-- The header length of the frame in place. -/
def zerocopyHeaderLen (config : XglConfig) (txData : TxDataZerocopy) : Nat :=
  24 + (dataExtensions txData.dataType).length + (if config.authRequired then 15 else 0)

/-- The extension of the authenticated frame is that of the data type. -/
theorem zerocopyAppTypeExt_eq (dataType : UInt8) :
    zerocopyAppTypeExt dataType = .ok (dataExtensions dataType) := by
  by_cases hzero : dataType = 0
  · simp [zerocopyAppTypeExt, dataExtensions, hzero]
  · simp only [zerocopyAppTypeExt, dataExtensions, bne_iff_ne, ne_eq, hzero, not_false_eq_true,
      if_true, beq_iff_eq, if_false]
    rfl

/-- What building the frame in place does: the payload stays where it is, and a finished frame
is the one the datalink would have serialized. -/
theorem zerocopyFrame_cases (hwired : inst.Wired) (leftover : Bytes) :
    let built := zerocopyFrame inst.config txData (zerocopyHeaderLen inst.config txData) leftover
    readBytes built.2 txData.dataOffset txData.dataLen = txData.payload ∧
      (∀ frameLen, built.1 = .ok frameLen → frameLen ≠ 0 ∧
        datalinkSerialize inst.layers.datalink txData.buffer.length
          (txData.frame inst.config.sourceId) = .ok (readBytes built.2 0 frameLen)) ∧
      ((∀ provider, inst.config.authProvider = some provider → provider.FailsWithError) →
        built.1 ≠ .error .ok) := by
  intro built
  have hlen : txData.payload.length = txData.dataLen := length_readBytes _ _ _
  simp only [built, zerocopyFrame, datalinkSerialize, hwired.authRequired, hwired.authProvider,
    hwired.authKeyId]
  -- without authentication the frame is built in place, with it around the payload
  cases hrequired : inst.config.authRequired with
  | false =>
    dsimp only
    refine ⟨xglFrameBuildZerocopy_payload, fun frameLen h => ?_, fun _ h => ?_⟩
    · obtain ⟨hpos, hshort, hroom, hvalid, hread⟩ := xglFrameBuildZerocopy_ok h
      refine ⟨hpos, ?_⟩
      rw [← TxDataZerocopy.frameWireHeader_frame] at hvalid hread
      rw [hread]
      apply xglFrameSerialize_ok
      · show (dataExtensions txData.dataType).length ≤ 231
        rw [length_dataExtensions]
        split <;> simp [XGL_DATA_TYPE_EXT_SIZE]
      · show 24 + (dataExtensions txData.dataType).length + xglFrameAuthOverhead 0 +
          txData.payload.length + 2 ≤ txData.buffer.length
        rw [show xglFrameAuthOverhead 0 = 0 from rfl, hlen]
        omega
      · exact hvalid
    · rcases @xglFrameBuildZerocopy_cases txData.buffer txData.dataOffset txData.dataLen
        inst.config.sourceId txData.targetId txData.dataType 0 false txData.priority with
        ⟨err, herr, hne, _⟩ | ⟨_, _, _, _, hbuilt⟩
      · rw [herr] at h
        cases h
        exact hne rfl
      · rw [hbuilt] at h
        cases h
  | true =>
    cases hprovider : inst.config.authProvider with
    | none => exact ⟨rfl, fun _ h => (by cases h), fun _ => by simp⟩
    | some provider =>
      simp only [zerocopyAuthenticated, zerocopyHeaderLen, hrequired, if_true,
        zerocopyAppTypeExt_eq, TxDataZerocopy.xglFrameBuild_eq]
      by_cases hoffset : (txData.dataOffset != 24 + (dataExtensions txData.dataType).length + 15)
          = true
      · rw [if_pos hoffset]
        exact ⟨rfl, fun _ h => (by cases h), fun _ => by simp⟩
      rw [if_neg hoffset]
      have hplace : txData.dataOffset = 24 + (dataExtensions txData.dataType).length + 15 := by
        simpa using hoffset
      by_cases hlong : txData.payload.length > 65535
      · rw [if_pos hlong]
        exact ⟨rfl, fun _ h => (by cases h), fun _ => by simp⟩
      rw [if_neg hlong]
      have hpayload : (txData.frame inst.config.sourceId).payload.length = txData.dataLen := hlen
      have hkept : readBytes txData.buffer txData.dataOffset
          (txData.frame inst.config.sourceId).payload.length
            = (txData.frame inst.config.sourceId).payload := by
        rw [hpayload]
        rfl
      obtain ⟨hstill, hdone, herr⟩ := @xglFrameSerializeAuthenticatedInto_cases txData.buffer
        (txData.frame inst.config.sourceId) inst.config.authKeyId txData.dataOffset provider
          leftover
        hplace hkept
      rw [hpayload] at hstill
      exact ⟨hstill, hdone, fun hall => herr (hall provider rfl)⟩

/-- A zero-copy request is refused and its buffer left alone, or its frame is built and sent
to the PHY of the route. -/
theorem xglSendZerocopy_cases (leftover : Bytes) :
    (∃ err, err ≠ .ok ∧
      xglSendZerocopy inst txData leftover = { error := err, buffer := txData.buffer }) ∨
      ∃ route phy, xglRouteTableLookup inst.routeTable txData.targetId = some route ∧
        route.phy = some phy ∧
        xglSendZerocopy inst txData leftover = zerocopyTransmit phy
          (zerocopyFrame inst.config txData (zerocopyHeaderLen inst.config txData) leftover) := by
  simp only [xglSendZerocopy, ← length_dataExtensions]
  by_cases hready : (!inst.initialized) = true
  · rw [if_pos hready]
    exact .inl ⟨_, by decide, rfl⟩
  rw [if_neg hready]
  cases hcheck : validateTxDataZerocopy txData with
  | ok =>
    dsimp only
    -- zero-copy requests are unreliable
    by_cases hreliable : txData.reliable = true
    · rw [if_pos hreliable]
      exact .inl ⟨_, by decide, rfl⟩
    rw [if_neg hreliable]
    cases hlook : xglRouteTableLookup inst.routeTable txData.targetId with
    | none => exact .inl ⟨_, by decide, rfl⟩
    | some route =>
      dsimp only
      -- the route has no PHY, or one that does not transmit
      cases hphy : route.phy with
      | none => exact .inl ⟨_, by decide, rfl⟩
      | some phy =>
        dsimp only
        by_cases htx : phy.tx.isNone = true
        · rw [if_pos htx]
          exact .inl ⟨_, by decide, rfl⟩
        rw [if_neg htx]
        cases hauth : datalinkAuthTagLen inst.config.authRequired inst.config.authProvider with
        | error err => exact .inl ⟨err, datalinkAuthTagLen_ne_ok hauth, rfl⟩
        | ok authTagLen =>
          dsimp only
          by_cases hbig : xglFrameSerializedSize txData.dataLen
              (dataExtensions txData.dataType).length authTagLen > route.maxFrameSize.toNat
          · rw [if_pos hbig]
            exact .inl ⟨_, by decide, rfl⟩
          rw [if_neg hbig]
          exact .inr ⟨route, phy, rfl, hphy, rfl⟩
  | _ => exact .inl ⟨_, by decide, rfl⟩

/-- The frame of a zero-copy request that was sent, and the PHY it was given to. -/
theorem xglSendZerocopy_ok (hwired : inst.Wired) {leftover : Bytes}
    (hfails : ∀ provider, inst.config.authProvider = some provider → provider.FailsWithError)
    (h : (xglSendZerocopy inst txData leftover).error = .ok) :
    ∃ route phy bytes, xglRouteTableLookup inst.routeTable txData.targetId = some route ∧
      route.phy = some phy ∧
      datalinkSerialize inst.layers.datalink txData.buffer.length
        (txData.frame inst.config.sourceId) = .ok bytes ∧
      (xglSendZerocopy inst txData leftover).calls = [{ phy := phy, bytes := bytes }] := by
  rcases @xglSendZerocopy_cases inst txData leftover with ⟨err, hne, heq⟩ |
    ⟨route, phy, hlook, hphy, heq⟩
  · rw [heq] at h
    exact absurd h hne
  · obtain ⟨_, hdone, herr⟩ := @zerocopyFrame_cases inst txData hwired leftover
    rw [heq] at h ⊢
    generalize zerocopyFrame inst.config txData (zerocopyHeaderLen inst.config txData) leftover
      = built at hdone herr h
    obtain ⟨result, buffer⟩ := built
    cases result with
    | error err =>
      have hok : err = .ok := h
      exact absurd (congrArg Except.error hok) (herr hfails)
    | ok frameLen =>
      obtain ⟨hpos, hbytes⟩ := hdone frameLen rfl
      refine ⟨route, phy, readBytes buffer 0 frameLen, hlook, hphy, hbytes, ?_⟩
      simp only [zerocopyTransmit, xglDatalinkSendRaw] at h ⊢
      split at h
      · cases h
      · rw [if_neg (by simpa using hpos)]

/-- Whatever becomes of it, a zero-copy request keeps its payload. -/
theorem xglSendZerocopy_payload (hwired : inst.Wired) (leftover : Bytes) :
    readBytes (xglSendZerocopy inst txData leftover).buffer txData.dataOffset txData.dataLen
      = txData.payload := by
  rcases @xglSendZerocopy_cases inst txData leftover with ⟨err, _, heq⟩ | ⟨_, phy, _, _, heq⟩
  · rw [heq]
    rfl
  · obtain ⟨hstill, _, _⟩ := @zerocopyFrame_cases inst txData hwired leftover
    rw [heq]
    generalize zerocopyFrame inst.config txData (zerocopyHeaderLen inst.config txData) leftover
      = built at hstill
    obtain ⟨result, buffer⟩ := built
    have hbuffer : (zerocopyTransmit phy (result, buffer)).buffer = buffer := by
      cases result with
      | error err => rfl
      | ok frameLen =>
        simp only [zerocopyTransmit, xglDatalinkSendRaw]
        split
        · rfl
        · split <;> rfl
    rw [hbuffer]
    exact hstill

/-- A copied request that was sent in one piece: its frame, and the PHY it was given to. -/
theorem xglSend_ok (hwired : inst.Wired) {world : InstanceEnv}
    (hfails : ∀ provider, inst.config.authProvider = some provider → provider.FailsWithError)
    (hplan : ∀ plan, transportBuildSendPlan inst.layers.transport.config txData.copied
      txData.payload.length = .ok plan → plan.needsFragmentation = false)
    (h : (xglSend world inst txData.copied).1 = .ok) :
    ∃ route phy size bytes, xglRouteTableLookup inst.routeTable txData.targetId = some route ∧
      route.phy = some phy ∧
      datalinkSerialize inst.layers.datalink size (txData.frame inst.config.sourceId) = .ok bytes ∧
      (xglSend world inst txData.copied).2.2 = [{ phy := phy, bytes := bytes }] := by
  simp only [xglSend] at h ⊢
  split at h
  · cases h
  rename_i hready
  rw [if_neg hready]
  cases hcheck : validateTxData txData.copied with
  | ok =>
    rw [hcheck] at h
    dsimp only at h ⊢
    obtain ⟨hlower, hevents⟩ := xglTransportSend_copied hplan h
    have hlocal : inst.layers.transport.config.localId = inst.config.sourceId := by
      rw [hwired.transport]
      rfl
    have hnet : inst.layers.network.localId = inst.config.sourceId := by
      rw [hwired.network]
      rfl
    have htable : inst.layers.network.routeTable = inst.routeTable := by
      rw [hwired.network]
      rfl
    have hbuild := txData.networkBuildTxFrame_packet inst.layers.transport.config
    rw [hlocal, TxDataZerocopy.xglFrameBuild_eq] at hbuild
    have hbuilds : networkBuildTxFrame (txData.packet inst.layers.transport.config)
        ≠ .error .ok := by
      rw [hbuild]
      split <;> simp
    obtain ⟨route, phy, frame, size, bytes, hlook, hphy, hframe, hbytes, hsent⟩ :=
      xglNetworkSendWithHandle_ok (hlocal.trans hnet.symm) hbuilds
        (by rwa [hwired.authProvider]) hlower
    have hthis : frame = txData.frame inst.config.sourceId := by
      rw [hbuild] at hframe
      split at hframe
      · cases hframe
      · cases hframe
        rfl
    subst hthis
    rw [htable] at hlook
    refine ⟨route, phy, size, bytes, hlook, hphy, hbytes, ?_⟩
    -- the one packet of the transport is the one call
    have hcall : inst.phyCall world inst.layers.transport.io.sendCount
        (txData.packet inst.layers.transport.config) = some { phy := phy, bytes := bytes } := by
      simp only [XglInstance.phyCall, XglInstance.lowerSend, htable, hsent]
      rw [hlook, Option.bind_some, hphy]
    simp only [XglInstance.phyCalls, hevents, List.drop_left, List.filterMap_cons,
      List.filterMap_nil, List.zipIdx_cons, List.zipIdx_nil, hcall]
  | _ =>
    rw [hcheck] at h
    cases h

/-- The two send functions give the same bytes to the same PHY, and the payload in the buffer
of the caller is not changed. -/
theorem zerocopy_sends_same_bytes (inst : XglInstance) (hwired : inst.Wired)
    (txData : TxDataZerocopy) (leftover : Bytes) :
    readBytes (xglSendZerocopy inst txData leftover).buffer txData.dataOffset txData.dataLen
        = readBytes txData.buffer txData.dataOffset txData.dataLen ∧
      ∀ world, (∀ provider, inst.config.authProvider = some provider → provider.Deterministic) →
        (xglSendZerocopy inst txData leftover).error = .ok →
        (xglSend world inst txData.copied).1 = .ok →
        (∀ plan, transportBuildSendPlan inst.layers.transport.config txData.copied
          txData.payload.length = .ok plan → plan.needsFragmentation = false) →
        ∃ call, (xglSendZerocopy inst txData leftover).calls = [call] ∧
          (xglSend world inst txData.copied).2.2 = [call] := by
  refine ⟨xglSendZerocopy_payload hwired leftover, fun world hsign hzerocopy hsend hplan => ?_⟩
  have hfails := fun provider hprovider => (hsign provider hprovider).fails
  obtain ⟨route, phy, bytes, hlook, hphy, hbytes, hcalls⟩ :=
    xglSendZerocopy_ok hwired hfails hzerocopy
  obtain ⟨route', phy', size, bytes', hlook', hphy', hbytes', hcalls'⟩ :=
    xglSend_ok hwired hfails hplan hsend
  rw [hlook] at hlook'
  cases hlook'
  rw [hphy] at hphy'
  cases hphy'
  have hsame : bytes = bytes' :=
    datalinkSerialize_unique (by rwa [hwired.authProvider]) hbytes hbytes'
  exact ⟨_, hcalls, hsame ▸ hcalls'⟩

/-- Sending keeps an instance wired. -/
theorem xglSend_wired (hwired : inst.Wired) (world : InstanceEnv) (request : TxData) :
    (xglSend world inst request).2.1.Wired := by
  simp only [xglSend]
  split
  · exact hwired
  split
  · exact ⟨hwired.network, hwired.authRequired, hwired.authKeyId, hwired.authProvider,
      (xglTransportSend_config _ _ request).trans hwired.transport⟩
  · exact hwired

end Instances

/-- Two bytes for node 2 behind the room for a signed header with a data type. -/
def zerocopySample : TxDataZerocopy where
  buffer := List.replicate 42 0 ++ [0x11, 0x22] ++ List.replicate 20 0
  dataOffset := 42
  dataLen := 2
  targetId := 2
  dataType := 9
  priority := 3

set_option maxRecDepth 4096 in
/-- A fresh instance sends them signed, the same way with and without a copy. -/
theorem sample_sent_alike :
    ∃ inst, xglInit (signedConfig 128) (List.replicate 256 0) = .ok inst ∧
      ∃ call, (xglSendZerocopy inst zerocopySample []).calls = [call] ∧
        (xglSend { allocOk := fun _ => true, frameAllocOk := fun _ => true, clock := fun _ => 0 }
          inst zerocopySample.copied).2.2 = [call] := by
  refine ⟨_, rfl, (zerocopy_sends_same_bytes _ ⟨rfl, rfl, rfl, rfl, rfl⟩ zerocopySample []).2 _ ?_
    ?_ ?_ ?_⟩
  · intro provider hprovider
    cases hprovider
    refine ⟨?_, ?_⟩
    · intro sign hsign keyId aad payload roomA roomB tagA tagB hA hB
      cases hsign
      rw [hA] at hB
      cases hB
      rfl
    · intro sign hsign keyId aad payload capacity
      cases hsign
      simp
  · decide +kernel
  · decide +kernel
  · intro plan hplan
    cases hplan
    rfl

end XgenLink
