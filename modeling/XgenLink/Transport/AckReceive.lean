import XgenLink.Transport.Feedback

/-!
# `XgenLink.Transport.AckReceive`: processing received acknowledgements

`xgl_transport_receive_ack.c`, `xgl_transport_ack.c`, `xgl_transport_sack.c` and the retransmission
of a single packet from `xgl_transport_retransmit.c`.

An ACK packet selects a peer and is checked against its session. Its extensions are looked at in
two passes, first for an ACK_RANGE and then for a SACK, and the first record found decides. An
ACK_RANGE takes its numbers out of the queue and marks them in the windows of peer and context. A
SACK walks the bits up to the highest one set: a set bit is an acknowledgement, a clear one asks
for the packet again.

The functions return a code and the context and peer they leave. Behind a failed retransmission a
SACK returns at once: what the bits before have changed stays, and the bases of the windows and the
deadline of the peer are not brought up to date.
-/

set_option autoImplicit false

namespace XgenLink

/-! ### Windows -/

/-- Marking a number in the window of the peer and, when it lies in it, in the
window of the context. -/
def markAcked (windows : SlidingWindow × SlidingWindow) (packetNumber : UInt32) :
    SlidingWindow × SlidingWindow :=
  (xglWindowMarkAckPacketNumber windows.1 packetNumber,
    -- the window of the context is marked only inside of its range
    if xglWindowIsInWindowPacketNumber windows.2 packetNumber then
      xglWindowMarkAckPacketNumber windows.2 packetNumber
    else windows.2)

/-- Moving both bases. -/
def advanceBases (windows : SlidingWindow × SlidingWindow) : SlidingWindow × SlidingWindow :=
  (xglWindowAdvanceBasePacketNumber windows.1, xglWindowAdvanceBasePacketNumber windows.2)

/-- `transport_mark_ack_range_windows` on the windows of peer and context. -/
def transportMarkAckRangeWindows (windows : SlidingWindow × SlidingWindow) (largestAck : UInt32)
    (ranges : List WireAckRange) : SlidingWindow × SlidingWindow :=
  advanceBases ((ackRangeNumbers true largestAck.toNat ranges).foldl markAcked windows)

/-! ### ACK_RANGE -/

/-- The outcome of looking for an acknowledgement extension: the code, whether
one was handled, and the new context and peer. -/
structure AckOutcome where
  error : XglError
  handled : Bool
  ctx : TransportCtx
  peer : PeerState

/-- The processing of a decoded ACK_RANGE. -/
def transportProcessAckRange (ctx : TransportCtx) (peer : PeerState) (sourceId : UInt16)
    (ack : AckRangeExt) : AckOutcome :=
  let removed := xglReliableRemoveAckRanges peer.reliableQueue sourceId ack.largestAck ack.ranges
  let peer := { peer with reliableQueue := removed.2 }
  -- not one packet of the ranges was in the queue
  if removed.1 == 0 then { error := .sequenceError, handled := false, ctx := ctx, peer := peer }
  else
    let windows :=
      transportMarkAckRangeWindows (peer.txWindow, ctx.window) ack.largestAck ack.ranges
    { error := .ok
      handled := true
      ctx := { ctx with window := windows.2 }
      peer := transportUpdatePeerDeadline { peer with txWindow := windows.1 } }

/-- `transport_try_process_ack_range_ext`: the first ACK_RANGE decides. -/
def transportTryProcessAckRangeExt (ctx : TransportCtx) (peer : PeerState) (sourceId : UInt16)
    (extensions : Bytes) : AckOutcome :=
  let exts := wireExts extensions extensions.length
  match exts.1.find? fun ext => ext.type == XGL_WIRE_EXT_ACK_RANGE with
  | some ext =>
    -- at most 64 ranges
    match xglWireDecodeAckRangeExtValue ext.value 64 with
    | .error err => { error := err, handled := false, ctx := ctx, peer := peer }
    | .ok ack => transportProcessAckRange ctx peer sourceId ack
  -- no ACK_RANGE is not an error, a broken extension is
  | none =>
    { error := if exts.2 == .notFound then .ok else exts.2
      handled := false
      ctx := ctx
      peer := peer }

/-! ### Retransmission -/

/-- The packet `transport_retransmit_reliable_packet` builds. The reliability is
the boolean `true`, which the network layer reads as acknowledgement-eliciting. -/
def retransmitPacket (packet : ReliablePacket) : Packet where
  sourceId := packet.sourceId
  targetId := packet.targetId
  sessionId := packet.sessionId
  connectionId := packet.connectionId
  packetNumber := packet.packetNumber
  sessionEpoch := packet.sessionEpoch
  packetType := packet.packetType
  flags := packet.flags
  dataType := packet.dataType
  -- any value but 0 and `ACK_ONLY` would do
  reliable := 1
  fragment := if packet.fragment then 1 else 0
  priority := packet.priority
  data := some { data := some packet.data }
  extensions := packet.extensions

/-- The fields a successful retransmission updates. -/
def markRetransmitted (currentTimeMs : UInt32) (packet : ReliablePacket) : ReliablePacket :=
  { packet with
    retryCount := packet.retryCount + 1
    timeoutMs := xglReliableCalcBackoff packet.initialTimeoutMs (packet.retryCount + 1)
    sendTimestamp := currentTimeMs
    retransmissions := packet.retransmissions + 1 }

/-- `transport_retransmit_reliable_packet`: the code and the updated packet. -/
def transportRetransmitReliablePacket (env : TransportEnv) (config : TransportConfig)
    (io : TransportIo) (packet : ReliablePacket) (currentTimeMs : UInt32) :
    XglError × TransportIo × ReliablePacket :=
  let sent := transportLowerSend env config io (retransmitPacket packet)
  match sent.1 with
  | .ok => (.ok, sent.2, markRetransmitted currentTimeMs packet)
  -- a packet that could not be sent is left as it was, and its timer with it
  | err => (err, sent.2, packet)

/-! ### SACK -/

/-- What the bits of a SACK work on: queue, windows of peer and context, and the
calls made. -/
structure SackState where
  queue : ReliableQueue
  windows : SlidingWindow × SlidingWindow
  io : TransportIo

/-- Retransmitting the queued packet with a number, when there is one. -/
def sackRetransmit (env : TransportEnv) (config : TransportConfig) (sourceId : UInt16)
    (packetNumber now : UInt32) (state : SackState) : XglError × SackState :=
  match xglReliableFindPacketNumber state.queue packetNumber sourceId with
  -- the bits may well name numbers that are not queued
  | none => (.ok, state)
  | some missing =>
    let sent := transportRetransmitReliablePacket env config state.io missing now
    (sent.1,
      { state with
        queue := reliableUpdate state.queue packetNumber sourceId fun _ => sent.2.2
        io := sent.2.1 })

/-- One bit of the loop of `transport_process_sack_value`. -/
def sackBitStep (env : TransportEnv) (config : TransportConfig) (sourceId : UInt16)
    (basePacket now : UInt32) (bitmap : Bytes) (state : SackState) (i : Nat) :
    XglError × SackState :=
  let packetNumber := basePacket + UInt32.ofNat i
  if transportSackBitIsSet bitmap i then
    -- a set bit acknowledges, and only a packet that is still queued
    match xglReliableFindPacketNumber state.queue packetNumber sourceId with
    | none => (.ok, state)
    | some _ =>
      (.ok,
        { state with
          queue := (xglReliableRemovePacketNumber state.queue packetNumber sourceId).2
          windows := markAcked state.windows packetNumber })
  -- a clear bit below the highest set one is a loss
  else sackRetransmit env config sourceId packetNumber now state

/-- The loop of `transport_process_sack_value` over bits; it stops at the first
failed retransmission. -/
def sackLoop (env : TransportEnv) (config : TransportConfig) (sourceId : UInt16)
    (basePacket now : UInt32) (bitmap : Bytes) : List Nat → SackState → XglError × SackState
  | [], state => (.ok, state)
  | i :: rest, state =>
    match sackBitStep env config sourceId basePacket now bitmap state i with
    | (.ok, state) => sackLoop env config sourceId basePacket now bitmap rest state
    | (err, state) => (err, state)

/-- The bit indices the loop visits: up to the highest bit set. -/
def sackIndices (bitmap : Bytes) : List Nat :=
  -- a trailing zero bit says nothing, since the bitmap is padded to whole bytes
  let set := (List.range (bitmap.length * 8)).filter (transportSackBitIsSet bitmap)
  List.range (set.getLast?.elim 0 (· + 1))

/-- The context and peer after the bits of a SACK. -/
def SackState.finish (state : SackState) (ctx : TransportCtx) (peer : PeerState) :
    TransportCtx × PeerState :=
  ({ ctx with window := state.windows.2, io := state.io },
    { peer with txWindow := state.windows.1, reliableQueue := state.queue })

/-- `transport_process_sack_value`. -/
def transportProcessSackValue (env : TransportEnv) (ctx : TransportCtx) (peer : PeerState)
    (sourceId : UInt16) (value : Bytes) : XglError × TransportCtx × PeerState :=
  match xglWireDecodeSackExtValue value 64 with
  | .error err => (err, ctx, peer)
  | .ok sack =>
    if sack.bitmap.length == 0 then (.invalidFrame, ctx, peer)
    else
      let indices := sackIndices sack.bitmap
      if indices.isEmpty then
        -- nothing received: the base packet itself is missing
        match xglReliableFindPacketNumber peer.reliableQueue sack.basePacket sourceId with
        | none => (.sequenceError, ctx, peer)
        | some _ =>
          let now := xglTimeMs env ctx.io
          let sent := sackRetransmit env ctx.config sourceId sack.basePacket now.1
            { queue := peer.reliableQueue, windows := (peer.txWindow, ctx.window), io := now.2 }
          (sent.1, sent.2.finish ctx peer)
      else
        let now := xglTimeMs env ctx.io
        let looped := sackLoop env ctx.config sourceId sack.basePacket now.1 sack.bitmap indices
          { queue := peer.reliableQueue, windows := (peer.txWindow, ctx.window), io := now.2 }
        -- the bases and the deadline move only when every bit was worked off
        match looped.1 with
        | .ok =>
          let after := { looped.2 with windows := advanceBases looped.2.windows }.finish ctx peer
          (.ok, after.1, transportUpdatePeerDeadline after.2)
        -- an early return leaves the queue changed and the deadline of the peer as it was
        | err => (err, looped.2.finish ctx peer)

/-- `transport_try_process_sack_ext`: the first SACK decides. -/
def transportTryProcessSackExt (env : TransportEnv) (ctx : TransportCtx) (peer : PeerState)
    (sourceId : UInt16) (extensions : Bytes) : AckOutcome :=
  let exts := wireExts extensions extensions.length
  match exts.1.find? fun ext => ext.type == XGL_WIRE_EXT_SACK with
  | some ext =>
    let processed := transportProcessSackValue env ctx peer sourceId ext.value
    { error := processed.1
      -- a SACK that failed counts as not handled
      handled := processed.1 == .ok
      ctx := processed.2.1
      peer := processed.2.2 }
  | none =>
    { error := if exts.2 == .notFound then .ok else exts.2
      handled := false
      ctx := ctx
      peer := peer }

/-! ### Dispatch -/

/-- `transport_find_ack_peer`: a scoped ACK without a scoped peer falls back to
the first peer of its source. -/
def transportFindAckPeer (peers : List PeerState) (packet : Packet) : Option PeerState :=
  if packet.scoped then
    match transportFindPeerScope peers packet.sourceId packet.connectionId packet.sessionEpoch with
    | some peer => some peer
    | none => transportFindPeer peers packet.sourceId
  else transportFindPeer peers packet.sourceId

/-- The extensions of an ACK packet applied to the peer it selects. -/
def transportApplyAck (env : TransportEnv) (ctx : TransportCtx) (peer : PeerState)
    (packet : Packet) : AckOutcome :=
  let range := transportTryProcessAckRangeExt ctx peer packet.sourceId packet.extensions
  if range.error != .ok || range.handled then range
  else
    let sack := transportTryProcessSackExt env range.ctx range.peer packet.sourceId
      packet.extensions
    if sack.error != .ok || sack.handled then sack
    else { sack with error := .invalidFrame }

/-- `transport_process_ack_packet`. -/
def transportProcessAckPacket (env : TransportEnv) (ctx : TransportCtx) (packet : Packet) :
    XglError × TransportCtx :=
  if packet.packetType != XGL_PACKET_TYPE_ACK then (.invalidFrame, ctx)
  else
    match transportFindAckPeer ctx.peers packet with
    | none => (.sequenceError, ctx)
    | some peer =>
      if packet.sessionId != 0 && packet.sessionId != peer.sessionId then (.sequenceError, ctx)
      else if packet.flags &&& XGL_WIRE_FLAG_HAS_EXTENSIONS == 0 || packet.extensions.isEmpty then
        (.invalidFrame, ctx)
      else
        let applied := transportApplyAck env ctx peer packet
        (applied.error, applied.ctx.put applied.peer)

end XgenLink
