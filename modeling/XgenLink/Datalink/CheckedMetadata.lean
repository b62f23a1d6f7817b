import XgenLink.Datalink.Receive
import XgenLink.Wire.ExtWalk

/-!
# `XgenLink.Datalink.CheckedMetadata`: what the datalink reads of a frame

`xgl_datalink_decode_rx_metadata` and the verification step of
`xgl_datalink_process_frame` over a buffer that is exactly the frame: every read
of a byte is checked, and the result is nothing where one lies behind the end.
Where there is a result it is that of the unchecked functions
(`xglDatalinkDecodeRxMetadataChecked_eq`).
-/

set_option autoImplicit false

namespace XgenLink

/-- `xgl_wire_decode_header`: it reads the base header and nothing else. -/
def xglWireDecodeHeaderChecked (buffer : Bytes) (bufferSize : Nat) :
    Option (Except XglError WireHeader) :=
  if bufferSize < XGL_WIRE_BASE_HEADER_SIZE then some (.error .bufferTooSmall)
  else do
    let base ← checkedBytes buffer 0 XGL_WIRE_BASE_HEADER_SIZE
    return xglWireDecodeHeader base bufferSize

/-- A value decoder that looks at values of `size` bytes only. -/
def decodeExtValueChecked {Fields : Type} (size : Nat) (decode : Bytes → Except XglError Fields)
    (buffer : Bytes) (ext : WireExtSlice) : Option (Except XglError Fields) :=
  if ext.valueLen != size then some (.error .invalidFrame)
  else do
    let value ← checkedBytes buffer ext.valueOffset ext.valueLen
    return decode value

/-- `xgl_wire_decode_security_ext_value`. -/
def xglWireDecodeSecurityExtValueChecked (buffer : Bytes) (ext : WireExtSlice) :
    Option (Except XglError SecurityExt) :=
  decodeExtValueChecked XGL_SECURITY_EXT_VALUE_SIZE xglWireDecodeSecurityExtValue buffer ext

/-- `xgl_wire_decode_session_ext_value`. -/
def xglWireDecodeSessionExtValueChecked (buffer : Bytes) (ext : WireExtSlice) :
    Option (Except XglError (UInt32 × UInt64)) :=
  decodeExtValueChecked XGL_SESSION_EXT_VALUE_SIZE xglWireDecodeSessionExtValue buffer ext

/-- The body of the loop of `datalink_decode_rx_extensions`: the error it returns or the metadata
it goes on with. -/
def datalinkRxExtStepChecked (authRequired : Bool) (requiredAuthKeyId : UInt32) (buffer : Bytes)
    (ext : WireExtSlice) (metadata : DatalinkRxMetadata) :
    Option (Except (XglError × DatalinkRxMetadata) DatalinkRxMetadata) :=
  if ext.type == XGL_WIRE_EXT_SECURITY then do
    match ← xglWireDecodeSecurityExtValueChecked buffer ext with
    | .error _ => return .error (.invalidFrame, metadata)
    | .ok security =>
      let metadata := { metadata with authKeyId := security.keyId }
      if authRequired && metadata.authKeyId != requiredAuthKeyId then
        return .error (.invalidFrame, { metadata with authKeyRejected := true })
      else
        return .ok { metadata with authTagLen := security.tagLen, hasSecurityExt := true }
  else if ext.type == XGL_WIRE_EXT_SESSION then do
    match ← xglWireDecodeSessionExtValueChecked buffer ext with
    | .error _ => return .error (.invalidFrame, metadata)
    | .ok session => return .ok { metadata with sessionEpoch := session.1 }
  else some (.ok metadata)

/-- `datalink_decode_rx_extensions`. -/
def datalinkDecodeRxExtensionsChecked (frame : Bytes) (header : WireHeader) (authRequired : Bool)
    (requiredAuthKeyId : UInt32) (metadata : DatalinkRxMetadata) :
    Option (XglError × DatalinkRxMetadata) :=
  if header.headerLen.toNat ≤ XGL_WIRE_BASE_HEADER_SIZE then some (.ok, metadata)
  else do
    let area := frame.drop XGL_WIRE_BASE_HEADER_SIZE
    let areaLen := header.headerLen.toNat - XGL_WIRE_BASE_HEADER_SIZE
    match ← walkExtsChecked (datalinkRxExtStepChecked authRequired requiredAuthKeyId area)
        (areaLen + 1) { buffer := area, len := areaLen, offset := 0 } metadata with
    | .error refusal => return refusal
    | .ok (final, metadata) =>
      return (if final == .notFound then .ok else .invalidFrame, metadata)

/-- The part of `xgl_datalink_decode_rx_metadata` behind the extensions. -/
def datalinkCheckRxFrameChecked (frame : Bytes) (metadata : DatalinkRxMetadata) :
    Option (XglError × DatalinkRxMetadata) := do
  let authenticated := metadata.header.flags &&& XGL_WIRE_FLAG_AUTHENTICATED != 0
  let metadata :=
    { metadata with
      authenticated := authenticated
      shouldVerifyAuth := authenticated || metadata.hasSecurityExt }
  let crcOffset := frame.length - XGL_CRC16_SIZE
  let body ← checkedBytes frame 0 crcOffset
  let received ← checkedBytes frame crcOffset XGL_CRC16_SIZE
  if xglCrc16Modbus body != xglDeserializeU16Le received then
    return (.crcFailed, { metadata with frameCrcFailed := true })
  else
    let metadata := { metadata with payloadLen := metadata.header.payloadLen.toNat }
    let expectedFrameLen := metadata.header.headerLen.toNat + metadata.payloadLen +
      metadata.authTagLen.toNat + XGL_CRC16_SIZE
    if frame.length != expectedFrameLen then return (.invalidFrame, metadata)
    else return (.ok, metadata)

/-- `xgl_datalink_decode_rx_metadata` on a buffer of exactly `frame_len` bytes. -/
def xglDatalinkDecodeRxMetadataChecked (frame : Bytes) (authRequired : Bool)
    (requiredAuthKeyId : UInt32) : Option (XglError × DatalinkRxMetadata) :=
  if frame.length < XGL_WIRE_BASE_HEADER_SIZE + XGL_CRC16_SIZE ||
      frame.length > XGL_DATALINK_MAX_FRAME_SIZE then some (.invalidFrame, {})
  else do
    let magic0 ← checkedByte frame 0
    let magic1 ← checkedByte frame 1
    if magic0 != XGL_WIRE_MAGIC_0 || magic1 != XGL_WIRE_MAGIC_1 then return (.invalidFrame, {})
    else
      match ← xglWireDecodeHeaderChecked frame frame.length with
      | .error _ => return (.crcFailed, { headerCrcFailed := true })
      | .ok header =>
        match ← datalinkDecodeRxExtensionsChecked frame header authRequired requiredAuthKeyId
            { header := header } with
        | (.ok, metadata) => datalinkCheckRxFrameChecked frame metadata
        | (err, metadata) => return (err, metadata)

/-- `xgl_wire_verify_auth_trailer` up to the call of the provider. -/
def wireAuthInputChecked (buffer : Bytes) (frameLen aadLen payloadLen : Nat) (keyId : UInt32)
    (provider : AuthProvider) : Option (Except XglError AuthInput) :=
  if provider.tagLen == 0 || provider.tagLen > XGL_AUTH_TAG_MAX_LEN then
    some (.error .invalidParam)
  else
    let tagOffset := aadLen + payloadLen
    if tagOffset ≥ frameLen then some (.error .invalidFrame)
    else if frameLen - tagOffset != provider.tagLen then some (.error .invalidFrame)
    else do
      let aad ← checkedBytes buffer 0 aadLen
      match wireAuthCanonicalAad aad with
      | .error err => return .error err
      | .ok verifyingAad =>
        let payload ← checkedBytes buffer aadLen payloadLen
        let tag ← checkedBytes buffer tagOffset (frameLen - tagOffset)
        return .ok { keyId := keyId, aad := verifyingAad, payload := payload, tag := tag }

/-- What `xgl_datalink_process_frame` reads of a frame: the metadata and, where it comes to the
verification step, what that step reads for the provider. -/
def datalinkProcessFrameChecked (ctx : DatalinkCtx) (frame : Bytes) :
    Option ((XglError × DatalinkRxMetadata) × Option (Except XglError AuthInput)) := do
  let decoded ← xglDatalinkDecodeRxMetadataChecked frame ctx.authRequired ctx.authKeyId
  if decoded.1 == .ok && decoded.2.shouldVerifyAuth && decoded.2.authenticated &&
      decoded.2.hasSecurityExt then
    match ctx.authProvider with
    | none => return (decoded, none)
    | some provider =>
      if provider.verify.isNone then return (decoded, none)
      else
        let input ← wireAuthInputChecked frame (frame.length - XGL_CRC16_SIZE)
          decoded.2.header.headerLen.toNat decoded.2.payloadLen decoded.2.authKeyId provider
        return (decoded, some input)
  else return (decoded, none)

end XgenLink
