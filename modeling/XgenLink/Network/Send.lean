import XgenLink.Datalink.Send
import XgenLink.Network.Receive

/-!
# `XgenLink.Network.Send`: the network transmit path

`xgl_network_send_with_handle` looks up the route of a packet, completes its extensions with the
DATA_TYPE_EXT, builds the frame and sends it through the datalink to the PHY of the route.

The extensions are copied into a buffer that is as long as a header has room for them. Those a
packet brings along are decoded first, so a packet with malformed extensions is not sent.

An authenticated frame is longer than the packet shows, by the SECURITY_EXT and the tag, and its
size is compared with what the route takes before the frame goes down.
-/

set_option autoImplicit false

namespace XgenLink

/-- The size of the extension buffer, `UINT8_MAX - XGL_WIRE_BASE_HEADER_SIZE`. -/
def networkExtensionsCapacity : Nat := 255 - XGL_WIRE_BASE_HEADER_SIZE

/-- `network_append_data_type_ext`. -/
def networkAppendDataTypeExt (extensions : Bytes) (dataType : UInt8) : Except XglError Bytes :=
  if dataType == 0 then .ok extensions
  else if extensions.length > networkExtensionsCapacity then .error .bufferTooSmall
  else
    match xglWireEncodeExt (networkExtensionsCapacity - extensions.length)
        XGL_WIRE_EXT_DATA_TYPE [dataType] with
    | .error err => .error err
    | .ok ext => .ok (extensions ++ ext)

/-- `network_copy_packet_extensions`. -/
def networkCopyPacketExtensions (packet : Packet) : Except XglError Bytes :=
  if packet.extensions.length > networkExtensionsCapacity then .error .bufferTooSmall
  else
    match xglNetworkDecodeExtMetadata packet.extensions packet.extensions.length with
    | .error err => .error err
    | .ok metadata =>
      if metadata.dataTypeFound then
        -- the extension and the packet may not name different types
        if packet.dataType != 0 && packet.dataType != metadata.dataType then .error .invalidParam
        else .ok packet.extensions
      else networkAppendDataTypeExt packet.extensions packet.dataType

/-- `network_reliability_class`. -/
def networkReliabilityClass (packet : Packet) : UInt8 :=
  if packet.reliable == XGL_RELIABILITY_ACK_ONLY then XGL_RELIABILITY_ACK_ONLY
  -- any value but `ACK_ONLY` that is not 0 stands for a reliable packet
  else if packet.reliable != 0 then XGL_RELIABILITY_ACK_ELICITING
  else XGL_RELIABILITY_NONE

/-- The parameters `network_build_tx_frame` fills in. -/
def networkFrameParams (packet : Packet) (extensions : Bytes) : FrameParams where
  sourceId := packet.sourceId
  targetId := packet.targetId
  packetType := packet.packetType
  flags := packet.flags
  trafficClass := packet.trafficClass
  connectionId := packet.connectionId
  packetNumber := packet.packetNumber
  extensions := extensions
  payload := packet.payload?.getD []
  reliable := packet.reliable != 0
  reliabilityClass := networkReliabilityClass packet
  fragment := packet.fragment != 0
  priority := packet.priority
  sessionId := packet.sessionId
  ttl := XGL_DEFAULT_TTL

/-- `network_build_tx_frame`. -/
def networkBuildTxFrame (packet : Packet) : Except XglError Frame :=
  match networkCopyPacketExtensions packet with
  | .error err => .error err
  | .ok extensions => xglFrameBuild (networkFrameParams packet extensions)

/-- `network_validate_auth_tx_budget`. -/
def networkValidateAuthTxBudget (ctx : NetworkCtx) (frame : Frame) (route : RouteItem) : XglError :=
  match datalinkAuthTagLen ctx.authRequired ctx.authProvider with
  | .error err => err
  | .ok authTagLen =>
    -- the whole frame, with trailer and checksum
    if xglFrameSerializedSize frame.payload.length frame.extensions.length authTagLen >
        route.maxFrameSize.toNat then .bufferTooSmall
    else .ok

/-- `datalink_send_impl` through the layer interface. -/
def networkSendFrameToLower (ctx : NetworkCtx) (datalink : DatalinkCtx) (allocOk : Bool)
    (phy : Option Phy) (frame : Frame) : TxResult :=
  if !ctx.lowerLayer then { error := .invalidParam }
  else
    match phy with
    | none => { error := .nullPointer }
    | some phy => xglDatalinkSend datalink phy.tx allocOk frame

/-- `xgl_network_send_with_handle` over the datalink below it. -/
def xglNetworkSendWithHandle (ctx : NetworkCtx) (datalink : DatalinkCtx) (allocOk : Bool)
    (packet : Packet) : TxResult :=
  if packet.data.isNone then { error := .invalidParam }
  else
    match xglRouteTableLookup ctx.routeTable packet.targetId with
    | none =>
      { error := .routeNotFound
        report := networkReport ctx .routeNotFound
          ("Route not found for target ID: " ++ toString packet.targetId.toNat) }
    | some route =>
      -- the source of a packet that names none is this node
      let packet :=
        if packet.sourceId == 0 then { packet with sourceId := ctx.localId } else packet
      match networkBuildTxFrame packet with
      | .error err => { error := err }
      | .ok frame =>
        match networkValidateAuthTxBudget ctx frame route with
        | .ok => networkSendFrameToLower ctx datalink allocOk route.phy frame
        | err => { error := err }

end XgenLink
