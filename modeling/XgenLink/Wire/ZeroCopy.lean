import XgenLink.Wire.Frame

/-!
# `XgenLink.Wire.ZeroCopy`: frames built around a payload in its buffer

`xgl_frame_build_zerocopy` writes the header, the DATA_TYPE_EXT and the checksum around a payload
that lies in the buffer already. `xgl_frame_serialize_authenticated` is used the same way, on the
buffer its frame's payload points into: there the payload is copied onto itself.

Every function returns the frame length or its error, and the buffer as it leaves it, also when it
fails half way. Which bytes a failed call has written shows in the buffer of the caller, so the
checks and the writes are in the order of the source.
-/

set_option autoImplicit false

namespace XgenLink

/-! ### Without authentication -/

/-- The header `xgl_frame_build_zerocopy` encodes. -/
def zerocopyWireHeader (headerLen dataLen : Nat) (sourceId targetId : UInt16) (flags : UInt8)
    (packetNumber : UInt32) (reliable : Bool) (priority : UInt8) : WireHeader where
  version := XGL_WIRE_VERSION
  headerLen := UInt8.ofNat headerLen
  packetType := XGL_PACKET_TYPE_DATA
  flags := flags
  ttl := XGL_DEFAULT_TTL
  trafficClass :=
    (if reliable then XGL_RELIABILITY_ACK_ELICITING else 0) |||
      (priority &&& XGL_TRAFFIC_PRIORITY_MASK)
  sourceId := sourceId
  targetId := targetId
  connectionId := 0
  packetNumber := packetNumber
  payloadLen := UInt16.ofNat dataLen
  headerCrc16 := 0

/-- The extension `xgl_frame_build_zerocopy` writes behind the header. -/
def zerocopyWriteExt (buffer : Bytes) (dataType : UInt8) : XglError × Bytes :=
  if dataType == 0 then (.ok, buffer)
  else
    match xglWireEncodeExt (buffer.length - XGL_WIRE_BASE_HEADER_SIZE) XGL_WIRE_EXT_DATA_TYPE
        [dataType] with
    | .error err => (err, buffer)
    | .ok ext =>
      (if ext.length != XGL_DATA_TYPE_EXT_SIZE then .invalidFrame else .ok,
        writeBytes buffer XGL_WIRE_BASE_HEADER_SIZE ext)

/-- `xgl_frame_build_zerocopy`. -/
def xglFrameBuildZerocopy (buffer : Bytes) (dataOffset dataLen : Nat) (sourceId targetId : UInt16)
    (dataType : UInt8) (packetNumber : UInt32) (reliable : Bool) (priority : UInt8) :
    Except XglError Nat × Bytes :=
  let headerLen :=
    XGL_WIRE_BASE_HEADER_SIZE + (if dataType != 0 then XGL_DATA_TYPE_EXT_SIZE else 0)
  let requiredSize := dataOffset + dataLen + XGL_CRC16_SIZE
  let flags :=
    (if reliable then XGL_WIRE_FLAG_ACK_ELICITING else 0) |||
      (if dataType != 0 then XGL_WIRE_FLAG_HAS_EXTENSIONS else 0)
  if dataLen > 65535 then (.error .bufferTooSmall, buffer)
  -- the payload lies in the buffer already, so it has to start where the header ends
  else if headerLen > 255 || dataOffset != headerLen then (.error .invalidParam, buffer)
  else if buffer.length < requiredSize then (.error .bufferTooSmall, buffer)
  else
    match zerocopyWriteExt buffer dataType with
    | (.ok, buffer) =>
      -- the header goes in front of the extension that is there already
      match xglWireEncodeHeader XGL_WIRE_BASE_HEADER_SIZE (zerocopyWireHeader headerLen dataLen
          sourceId targetId flags packetNumber reliable priority) with
      | .error err => (.error err, buffer)
      | .ok header =>
        let buffer := writeBytes buffer 0 header
        -- the checksum goes behind the payload
        let crcOffset := dataOffset + dataLen
        (.ok requiredSize, writeBytes buffer crcOffset
          (xglSerializeU16Le (xglCrc16Modbus (readBytes buffer 0 crcOffset))))
    -- what was written before the failure stays in the buffer
    | (err, buffer) => (.error err, buffer)

/-! ### With authentication -/

/-- `encode_authenticated_header` on its buffer. -/
def encodeAuthenticatedHeaderInto (buffer : Bytes) (frame : Frame) (keyId : UInt32)
    (tagLen : UInt8) : Except XglError Nat × Bytes :=
  let baseExtLen := frame.extensions.length
  if baseExtLen > 255 - XGL_WIRE_BASE_HEADER_SIZE then (.error .bufferTooSmall, buffer)
  else if buffer.length <
      XGL_WIRE_BASE_HEADER_SIZE + baseExtLen + XGL_WIRE_EXT_HEADER_SIZE + 13 then
    (.error .bufferTooSmall, buffer)
  else
    -- from here on the buffer is changed, whatever comes of it
    let buffer := writeBytes buffer XGL_WIRE_BASE_HEADER_SIZE frame.extensions
    match xglWireEncodeSecurityExtValue keyId frame.header.packetNumber.toUInt64 tagLen with
    | .error err => (.error err, buffer)
    | .ok securityValue =>
      match xglWireEncodeExt (buffer.length - XGL_WIRE_BASE_HEADER_SIZE - baseExtLen)
          XGL_WIRE_EXT_SECURITY securityValue with
      | .error err => (.error err, buffer)
      | .ok securityExt =>
        let buffer := writeBytes buffer (XGL_WIRE_BASE_HEADER_SIZE + baseExtLen) securityExt
        let producedHeaderLen := XGL_WIRE_BASE_HEADER_SIZE + baseExtLen + securityExt.length
        if producedHeaderLen > 255 then (.error .bufferTooSmall, buffer)
        else
          match xglWireEncodeHeader buffer.length
              (frameAuthenticatedHeader frame producedHeaderLen) with
          | .error err => (.error err, buffer)
          | .ok header => (.ok producedHeaderLen, writeBytes buffer 0 header)

/-- `xgl_wire_append_auth_trailer` on its buffer. A provider writes into the room behind the
payload and nowhere else: its tag, or what a failed call leaves there, `leftover`. -/
def xglWireAppendAuthTrailerInto (buffer : Bytes) (bufferSize aadLen payloadLen : Nat)
    (keyId : UInt32) (provider : AuthProvider) (leftover : Bytes) : Except XglError Nat × Bytes :=
  match provider.sign with
  | none => (.error .nullPointer, buffer)
  | some sign =>
    if provider.tagLen == 0 || provider.tagLen > XGL_AUTH_TAG_MAX_LEN then
      (.error .invalidParam, buffer)
    else
      let tagOffset := aadLen + payloadLen
      let capacity := bufferSize - tagOffset
      if tagOffset > bufferSize then (.error .bufferTooSmall, buffer)
      else if capacity < provider.tagLen then (.error .bufferTooSmall, buffer)
      else
        match wireAuthCanonicalAad (readBytes buffer 0 aadLen) with
        | .error err => (.error err, buffer)
        | .ok signingAad =>
          match sign keyId signingAad (readBytes buffer aadLen payloadLen) capacity with
          -- a provider that fails may have left something in the room for the tag
          | .error err => (.error err, writeBytes buffer tagOffset (leftover.take capacity))
          | .ok tag =>
            -- a provider that returns more than it was offered wrote no more than that
            let buffer := writeBytes buffer tagOffset (tag.take capacity)
            if tag.length != provider.tagLen then (.error .invalidFrame, buffer)
            else if tag.length == 0 || tagOffset + tag.length > bufferSize then
              (.error .bufferTooSmall, buffer)
            else (.ok (tagOffset + tag.length), buffer)

/-- `xgl_frame_serialize_authenticated` on its buffer, for a frame whose payload is the one
that lies at `payloadOffset` of the buffer. -/
def xglFrameSerializeAuthenticatedInto (buffer : Bytes) (payloadOffset : Nat) (frame : Frame)
    (keyId : UInt32) (provider : AuthProvider) (leftover : Bytes) : Except XglError Nat × Bytes :=
  let payloadLen := frame.payload.length
  if provider.sign.isNone then (.error .nullPointer, buffer)
  else if payloadLen > 65535 then (.error .bufferTooSmall, buffer)
  else if provider.tagLen == 0 || provider.tagLen > XGL_AUTH_TAG_MAX_LEN then
    (.error .invalidParam, buffer)
  else
    match encodeAuthenticatedHeaderInto buffer frame keyId (UInt8.ofNat provider.tagLen) with
    | (.error err, buffer) => (.error err, buffer)
    | (.ok headerLen, buffer) =>
      if buffer.length < headerLen + payloadLen + provider.tagLen + XGL_CRC16_SIZE then
        (.error .bufferTooSmall, buffer)
      else
        -- the copy reads the payload where it lies now, behind the header just written
        let buffer := writeBytes buffer headerLen (readBytes buffer payloadOffset payloadLen)
        match xglWireAppendAuthTrailerInto buffer (buffer.length - XGL_CRC16_SIZE) headerLen
            payloadLen keyId provider leftover with
        | (.error err, buffer) => (.error err, buffer)
        | (.ok frameLenWithoutCrc, buffer) =>
          if frameLenWithoutCrc != headerLen + payloadLen + provider.tagLen ||
              frameLenWithoutCrc + XGL_CRC16_SIZE > buffer.length then
            (.error .bufferTooSmall, buffer)
          else
            (.ok (frameLenWithoutCrc + XGL_CRC16_SIZE), writeBytes buffer frameLenWithoutCrc
              (xglSerializeU16Le (xglCrc16Modbus (readBytes buffer 0 frameLenWithoutCrc))))

end XgenLink
