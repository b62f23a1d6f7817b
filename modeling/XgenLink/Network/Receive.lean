import XgenLink.Network.Metadata

/-!
# `XgenLink.Network.Receive`: local delivery and forwarding

`xgl_network_receive` hands a frame for this node to the transport layer and forwards any other
along its route, with the hop limit decreased and both checksums recomputed. A broadcast frame is
for this node, and it is not forwarded.

A frame goes to exactly one place, so the result says which: the transport, a PHY, or none. The
transport is not called here. `NetworkRx.deliver` has the packet it would be called with.
-/

set_option autoImplicit false

namespace XgenLink

/-- `xgl_network_ctx_t`; the callback and the adjacent layers are flags that say
whether they are registered. -/
structure NetworkCtx where
  localId : UInt16
  routeTable : RouteTable := []
  upperLayer : Bool := true
  lowerLayer : Bool := true
  errorCallback : Bool := false
  authRequired : Bool := false
  authProvider : Option AuthProvider := none

/-- How `xgl_network_receive` ends: with a code and perhaps an error callback,
with the transport's receive function called on a packet (whose code it
returns), or with a frame handed to a PHY. -/
inductive NetworkRx where
  | done (error : XglError) (report : Option (XglError × String))
  | deliver (packet : Packet)
  | transmitted (error : XglError) (phy : Nat) (frame : Bytes)
  deriving DecidableEq, Repr

/-- The error callback, when one is registered. -/
def networkReport (ctx : NetworkCtx) (error : XglError) (message : String) :
    Option (XglError × String) :=
  if ctx.errorCallback then some (error, message) else none

/-- `xgl_network_validate_address`. -/
def xglNetworkValidateAddress (targetId sourceId : UInt16) : Bool :=
  if sourceId == XGL_BROADCAST_ID then false
  else if sourceId == 0 then false
  -- no node sends to itself
  else if sourceId == targetId && targetId != XGL_BROADCAST_ID then false
  else true

/-- `xgl_network_is_local`. -/
def xglNetworkIsLocal (ctx : NetworkCtx) (targetId : UInt16) : Bool :=
  targetId == ctx.localId || targetId == XGL_BROADCAST_ID

/-- The packet `network_deliver_local` builds. The session id is the low half of
the connection id. -/
def networkLocalPacket (metadata : NetworkFrameMetadata) : Packet where
  sourceId := metadata.header.sourceId
  targetId := metadata.header.targetId
  sessionId := (metadata.header.connectionId &&& 0xFFFF).toUInt16
  connectionId := metadata.header.connectionId
  packetNumber := metadata.header.packetNumber
  sessionEpoch := metadata.sessionEpoch
  packetType := metadata.header.packetType
  flags := metadata.header.flags
  dataType := metadata.dataType
  reliable := metadata.reliable
  fragment := metadata.fragment
  priority := metadata.priority
  ttl := metadata.header.ttl
  trafficClass := metadata.header.trafficClass
  data := some { data := some metadata.payload }
  extensions := metadata.extensions

/-- `network_deliver_local`. -/
-- without a transport layer the frame is dropped and the call succeeds
def networkDeliverLocal (ctx : NetworkCtx) (metadata : NetworkFrameMetadata) : NetworkRx :=
  if !ctx.upperLayer then .done .ok none else .deliver (networkLocalPacket metadata)

/-- `network_rewrite_forward_frame`: the frame copied, its header re-encoded with
the hop limit decreased and its checksum recomputed. -/
def networkRewriteForwardFrame (frameBuf : Bytes) (frameLen : Nat) (incoming : WireHeader) :
    Except XglError Bytes :=
  match xglWireEncodeHeader frameLen { incoming with ttl := incoming.ttl - 1 } with
  | .error _ => .error .invalidFrame
  | .ok header =>
    -- extensions, payload and tag are copied as they are
    .ok (appendFrameCrc (header ++
      readBytes frameBuf XGL_WIRE_BASE_HEADER_SIZE
        (frameLen - XGL_CRC16_SIZE - XGL_WIRE_BASE_HEADER_SIZE)))

/-- `network_forward_remote`. `allocOk` says whether the copy of a large frame
can be allocated. -/
def networkForwardRemote (ctx : NetworkCtx) (allocOk : Bool) (frameBuf : Bytes) (frameLen : Nat)
    (metadata : NetworkFrameMetadata) : NetworkRx :=
  match xglRouteTableLookup ctx.routeTable metadata.header.targetId with
  | none =>
    .done .routeNotFound (networkReport ctx .routeNotFound
      ("No route for forwarding to target ID: " ++ toString metadata.header.targetId.toNat))
  | some route =>
    -- the hop limit is looked at before the size
    if metadata.header.ttl ≤ 1 then
      .done .ttlExpired (networkReport ctx .ttlExpired "Packet TTL expired")
    else if frameLen > XGL_DATALINK_MAX_FRAME_SIZE || frameLen > route.maxFrameSize.toNat then
      .done .bufferTooSmall none
    -- a small frame is rewritten on the stack
    else if frameLen > XGL_NETWORK_FORWARD_STACK_BUFFER_SIZE && !allocOk then
      .done .noMemory none
    else
      match networkRewriteForwardFrame frameBuf frameLen metadata.header with
      | .error err => .done err none
      | .ok forward =>
        match route.phy with
        -- the PHY gets the rewritten frame
        | some { id := id, tx := some tx } =>
          .transmitted (if tx forward == .ok then .ok else .txFailed) id forward
        -- a route without a transmit function succeeds and sends nothing
        | _ => .done .ok none

/-- `xgl_network_receive`. -/
def xglNetworkReceive (ctx : NetworkCtx) (allocOk : Bool) (frameBuf : Bytes) (frameLen : Nat) :
    NetworkRx :=
  match xglNetworkDecodeFrameMetadata frameBuf frameLen with
  | .error err => .done err none
  | .ok metadata =>
    if !xglNetworkValidateAddress metadata.header.targetId metadata.header.sourceId then
      .done .invalidParam none
    else if xglNetworkIsLocal ctx metadata.header.targetId then networkDeliverLocal ctx metadata
    else networkForwardRemote ctx allocOk frameBuf frameLen metadata

end XgenLink
