import XgenLink.Wire.Frame

/-!
# `XgenLink.Network.Metadata`: what the network layer reads from a frame

`xgl_network_decode_ext_metadata` and `xgl_network_decode_frame_metadata` of
`xgl_network_metadata.c`. The network layer decodes a frame for itself and takes nothing over from
the datalink. It reads DATA_TYPE_EXT and SESSION_EXT, and each of them may be there once.

The walk over the extensions comes before the length check, as in the source. A frame from the
datalink has passed that check already; `XgenLink.Network.CheckedMetadata` is about frames that
come from anywhere else.
-/

set_option autoImplicit false

namespace XgenLink

/-- `xgl_network_ext_metadata_t`. -/
structure NetworkExtMetadata where
  dataType : UInt8 := 0
  dataTypeFound : Bool := false
  sessionEpoch : UInt32 := 0
  sessionEpochFound : Bool := false
  deriving DecidableEq, Repr, Inhabited

/-- The loop of `xgl_network_decode_ext_metadata`; `final` is the code that ended
the walk over the extensions. -/
def networkExtLoop (final : XglError) :
    List WireExt → NetworkExtMetadata → Except XglError NetworkExtMetadata
  | [], metadata => if final == .notFound then .ok metadata else .error final
  | ext :: rest, metadata =>
    if ext.type == XGL_WIRE_EXT_DATA_TYPE then
      -- a second DATA_TYPE_EXT, or one that is not a byte
      if metadata.dataTypeFound || ext.value.length != 1 then .error .invalidFrame
      else
        networkExtLoop final rest
          { metadata with dataType := byteAt ext.value 0, dataTypeFound := true }
    else if ext.type == XGL_WIRE_EXT_SESSION then
      -- a second SESSION_EXT
      if metadata.sessionEpochFound then .error .invalidFrame
      else
        match xglWireDecodeSessionExtValue ext.value with
        | .error err => .error err
        | .ok session =>
          networkExtLoop final rest
            { metadata with sessionEpoch := session.1, sessionEpochFound := true }
    else networkExtLoop final rest metadata

/-- `xgl_network_decode_ext_metadata`. -/
def xglNetworkDecodeExtMetadata (extensions : Bytes) (extensionsLen : Nat) :
    Except XglError NetworkExtMetadata :=
  if extensionsLen == 0 then .ok {}
  else networkExtLoop (wireExts extensions extensionsLen).2 (wireExts extensions extensionsLen).1 {}

/-- `xgl_network_frame_metadata_t`. -/
structure NetworkFrameMetadata where
  header : WireHeader
  dataType : UInt8
  sessionEpoch : UInt32
  extensions : Bytes
  payload : Bytes
  reliable : UInt8
  fragment : UInt8
  priority : UInt8
  deriving DecidableEq, Repr

/-- The reliability the network layer reads from the traffic class, the flags and
the packet type. -/
def networkReliable (header : WireHeader) : UInt8 :=
  let trafficReliability := header.trafficClass &&& XGL_RELIABILITY_CLASS_MASK
  -- the traffic class or the flag, either is enough
  if trafficReliability == XGL_RELIABILITY_ACK_ELICITING ||
      header.flags &&& XGL_WIRE_FLAG_ACK_ELICITING != 0 then XGL_RELIABILITY_ACK_ELICITING
  else if trafficReliability == XGL_RELIABILITY_ACK_ONLY ||
      header.packetType == XGL_PACKET_TYPE_ACK then XGL_RELIABILITY_ACK_ONLY
  else XGL_RELIABILITY_NONE

/-- `xgl_network_decode_frame_metadata`. -/
def xglNetworkDecodeFrameMetadata (frameBuf : Bytes) (frameLen : Nat) :
    Except XglError NetworkFrameMetadata :=
  if frameLen < XGL_WIRE_BASE_HEADER_SIZE + XGL_CRC16_SIZE then .error .invalidFrame
  else
    match xglWireDecodeHeader frameBuf frameLen with
    | .error _ => .error .invalidFrame
    | .ok header =>
      let extensionsLen := header.headerLen.toNat - XGL_WIRE_BASE_HEADER_SIZE
      match xglNetworkDecodeExtMetadata (frameBuf.drop XGL_WIRE_BASE_HEADER_SIZE)
          extensionsLen with
      | .error err => .error err
      | .ok ext =>
        -- payload and checksum have to be inside the frame
        if frameLen < header.headerLen.toNat + header.payloadLen.toNat + XGL_CRC16_SIZE then
          .error .invalidFrame
        else
          .ok { header := header
                dataType := ext.dataType
                sessionEpoch := ext.sessionEpoch
                extensions := readBytes frameBuf XGL_WIRE_BASE_HEADER_SIZE extensionsLen
                payload := readBytes frameBuf header.headerLen.toNat header.payloadLen.toNat
                reliable := networkReliable header
                fragment := if header.flags &&& XGL_WIRE_FLAG_FRAGMENTED != 0 then 1 else 0
                priority := header.trafficClass &&& XGL_TRAFFIC_PRIORITY_MASK }

end XgenLink
