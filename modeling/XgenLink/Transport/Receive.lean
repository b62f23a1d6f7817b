import XgenLink.Transport.AckReceive
import XgenLink.Transport.Delivery

/-!
# `XgenLink.Transport.Receive`: the transport receive path

`xgl_transport_receive` with its peer selection (`xgl_transport_receive_peer.c`) and control
packets (`xgl_transport_control.c`).

A packet is a control packet, an acknowledgement, or data. A RESET resets the peer it selects, and
a HELLO does when the peer has another session. A data packet with a session selects a peer, which
has to have that session, and counts as activity; one without is not checked. A reliable packet
goes through the ordering of its peer, any other is delivered at once.
-/

set_option autoImplicit false

namespace XgenLink

/-! ### Control packets -/

/-- `transport_process_control_packet`. -/
def transportProcessControlPacket (env : TransportEnv) (ctx : TransportCtx) (packet : Packet) :
    XglError × TransportCtx :=
  let sessionId := packet.sessionId &&& XGL_SESSION_ID_MASK
  -- any other control type is refused
  if packet.packetType != XGL_PACKET_TYPE_CONTROL ||
      (packet.dataType != XGL_TRANSPORT_CONTROL_HELLO &&
        packet.dataType != XGL_TRANSPORT_CONTROL_RESET) then (.invalidFrame, ctx)
  -- session ids start at 1
  else if sessionId == 0 then (.invalidFrame, ctx)
  else
    match transportGetOrCreatePeer env ctx packet.peerKey with
    | (ctx, none) => (.noMemory, ctx)
    | (ctx, some peer) =>
      -- a HELLO of another session resets the peer like a RESET
      if packet.dataType == XGL_TRANSPORT_CONTROL_RESET || peer.sessionId != sessionId then
        let reset := transportResetPeerState env ctx peer sessionId packet.connectionId
          packet.sessionEpoch
        (.ok, reset.1.put reset.2)
      else
        let now := xglTimeMs env ctx.io
        (.ok, { ctx with io := now.2 }.put
          { peer with sessionEstablished := true, lastActiveMs := now.1 })

/-! ### Peer selection -/

/-- `transport_prepare_rx_peer`. A packet without a session id selects no peer
here. -/
def transportPrepareRxPeer (env : TransportEnv) (ctx : TransportCtx) (packet : Packet) :
    XglError × TransportCtx × Option PeerState :=
  -- not a packet of a session
  if packet.sessionId == 0 then (.ok, ctx, none)
  else
    match lookupPeer ctx.peers packet.peerKey with
    | some peer =>
      -- the session of a peer is fixed until it is reset
      if packet.sessionId != peer.sessionId then (.sequenceError, ctx, some peer)
      else (.ok, ctx, some peer)
    -- a source that is not known yet starts a new peer with the session of the packet
    | none =>
      match transportGetOrCreatePeer env ctx packet.peerKey with
      | (ctx, none) => (.noMemory, ctx, none)
      | (ctx, some peer) =>
        let reset := transportResetPeerState env ctx peer packet.sessionId packet.connectionId
          packet.sessionEpoch
        (.ok, reset.1.put reset.2, some reset.2)

/-- The activity timestamp of the selected peer. -/
def transportTouchPeer (env : TransportEnv) (ctx : TransportCtx) (peer : Option PeerState) :
    TransportCtx × Option PeerState :=
  match peer with
  | none => (ctx, none)
  | some peer =>
    let now := xglTimeMs env ctx.io
    let peer := { peer with lastActiveMs := now.1 }
    ({ ctx with io := now.2 }.put peer, some peer)

/-- The peer a reliable packet is ordered by: the one already selected, or the
one of the packet's scope. -/
def transportOrderPeer (env : TransportEnv) (ctx : TransportCtx) (packet : Packet)
    (peer : Option PeerState) : TransportCtx × Option PeerState :=
  match peer with
  | some peer => (ctx, some peer)
  | none => transportGetOrCreatePeer env ctx packet.peerKey

/-! ### Data packets -/

/-- The payload after decompression; it stays as it is when no codec matches or
decoding fails. -/
def transportDecodeData (config : TransportConfig) (packet : Packet) (data : Bytes) : Bytes :=
  if packet.compress == 0 then data
  else
    match xglCodecFind config.codecRegistry .compression packet.compress with
    | none => data
    | some codec =>
      match codec.decode data XGL_DATALINK_STACK_BUFFER_SIZE with
      -- a payload that does not decode is delivered as it came
      | .error _ => data
      | .ok decoded => decoded

/-- Delivery of the packet itself. -/
def transportDeliverData (env : TransportEnv) (ctx : TransportCtx) (packet : Packet)
    (data : Bytes) : XglError × TransportCtx :=
  let delivered := transportDeliverPacket env ctx.config ctx.fragmentMgr ctx.io packet
    (transportDecodeData ctx.config packet data)
  (delivered.1, { ctx with fragmentMgr := delivered.2.1, io := delivered.2.2 })

/-- Delivery of the expected packet of a peer, followed by the buffered packets
that are now in order. -/
def transportDeliverInOrder (env : TransportEnv) (ctx : TransportCtx) (peer : PeerState)
    (packet : Packet) (data : Bytes) : XglError × TransportCtx :=
  match transportDeliverData env ctx packet data with
  | (.ok, ctx) =>
    let drained := transportDrainRxBuffered env ctx.config ctx.fragmentMgr ctx.io
      { peer with rxNextPacketNumber := packet.packetNumber + 1 }
    (drained.1,
      { ctx with fragmentMgr := drained.2.1, io := drained.2.2.1 }.put drained.2.2.2)
  | (err, ctx) => (err, ctx)

/-- The reliable branch of `xgl_transport_receive` once the peer is known. -/
def transportReceiveReliable (env : TransportEnv) (ctx : TransportCtx) (peer : PeerState)
    (packet : Packet) (data : Bytes) : XglError × TransportCtx :=
  let ordered := transportProcessReliableRxOrder env ctx.config ctx.io peer packet
  let ctx := { ctx with io := ordered.2.1 }.put ordered.2.2
  match ordered.1 with
  | .ok =>
    -- duplicates and packets out of order end here
    if packet.packetNumber != ordered.2.2.rxNextPacketNumber then (.ok, ctx)
    else transportDeliverInOrder env ctx ordered.2.2 packet data
  | err => (err, ctx)

/-- The part of `xgl_transport_receive` for packets with a payload. -/
def transportReceiveData (env : TransportEnv) (ctx : TransportCtx) (packet : Packet)
    (data : Bytes) : XglError × TransportCtx :=
  match transportPrepareRxPeer env ctx packet with
  | (.ok, ctx, peer) =>
    let touched := transportTouchPeer env ctx peer
    if packet.reliable == XGL_RELIABILITY_ACK_ELICITING then
      match transportOrderPeer env touched.1 packet touched.2 with
      | (ctx, none) => (.noMemory, ctx)
      | (ctx, some peer) => transportReceiveReliable env ctx peer packet data
    else transportDeliverData env touched.1 packet data
  | (err, ctx, _) => (err, ctx)

/-- `xgl_transport_receive`. -/
def xglTransportReceive (env : TransportEnv) (ctx : TransportCtx) (packet : Packet) :
    XglError × TransportCtx :=
  if packet.packetType == XGL_PACKET_TYPE_CONTROL then transportProcessControlPacket env ctx packet
  else if packet.packetType == XGL_PACKET_TYPE_ACK ||
      packet.reliable == XGL_RELIABILITY_ACK_ONLY then transportProcessAckPacket env ctx packet
  else
    match packet.payload? with
    | none => (.nullPointer, ctx)
    | some data => transportReceiveData env ctx packet data

end XgenLink
