import XgenLink.Datalink.CheckedMetadata
import XgenLink.Network.Metadata

/-!
# `XgenLink.Network.CheckedMetadata`: what the network layer reads of a frame

`xgl_network_decode_frame_metadata` over a buffer that is exactly the frame, with
every read checked, in the order of the source: the extensions before the length
check.
-/

set_option autoImplicit false

namespace XgenLink

/-- The body of the loop of `xgl_network_decode_ext_metadata`. -/
def networkExtStepChecked (buffer : Bytes) (ext : WireExtSlice) (metadata : NetworkExtMetadata) :
    Option (Except XglError NetworkExtMetadata) :=
  if ext.type == XGL_WIRE_EXT_DATA_TYPE then
    if metadata.dataTypeFound || ext.valueLen != 1 then some (.error .invalidFrame)
    else do
      let dataType ← checkedByte buffer ext.valueOffset
      return .ok { metadata with dataType := dataType, dataTypeFound := true }
  else if ext.type == XGL_WIRE_EXT_SESSION then
    if metadata.sessionEpochFound then some (.error .invalidFrame)
    else do
      match ← xglWireDecodeSessionExtValueChecked buffer ext with
      | .error err => return .error err
      | .ok session =>
        return .ok { metadata with sessionEpoch := session.1, sessionEpochFound := true }
  else some (.ok metadata)

/-- `xgl_network_decode_ext_metadata`. -/
def xglNetworkDecodeExtMetadataChecked (extensions : Bytes) (extensionsLen : Nat) :
    Option (Except XglError NetworkExtMetadata) :=
  if extensionsLen == 0 then some (.ok {})
  else do
    match ← walkExtsChecked (networkExtStepChecked extensions) (extensionsLen + 1)
        { buffer := extensions, len := extensionsLen, offset := 0 } {} with
    | .error err => return .error err
    | .ok (final, metadata) => return if final == .notFound then .ok metadata else .error final

/-- `xgl_network_decode_frame_metadata` on a buffer of exactly `frame_len` bytes. The pointers to
extensions and payload are followed over their whole lengths. -/
def xglNetworkDecodeFrameMetadataChecked (frame : Bytes) :
    Option (Except XglError NetworkFrameMetadata) :=
  if frame.length < XGL_WIRE_BASE_HEADER_SIZE + XGL_CRC16_SIZE then some (.error .invalidFrame)
  else do
    match ← xglWireDecodeHeaderChecked frame frame.length with
    | .error _ => return .error .invalidFrame
    | .ok header =>
      let extensionsLen := header.headerLen.toNat - XGL_WIRE_BASE_HEADER_SIZE
      match ← xglNetworkDecodeExtMetadataChecked (frame.drop XGL_WIRE_BASE_HEADER_SIZE)
          extensionsLen with
      | .error err => return .error err
      | .ok ext =>
        if frame.length < header.headerLen.toNat + header.payloadLen.toNat + XGL_CRC16_SIZE then
          return .error .invalidFrame
        else
          let extensions ← checkedBytes frame XGL_WIRE_BASE_HEADER_SIZE extensionsLen
          let payload ← checkedBytes frame header.headerLen.toNat header.payloadLen.toNat
          return .ok
            { header := header
              dataType := ext.dataType
              sessionEpoch := ext.sessionEpoch
              extensions := extensions
              payload := payload
              reliable := networkReliable header
              fragment := if header.flags &&& XGL_WIRE_FLAG_FRAGMENTED != 0 then 1 else 0
              priority := header.trafficClass &&& XGL_TRAFFIC_PRIORITY_MASK }

end XgenLink
