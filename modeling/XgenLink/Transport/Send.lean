import XgenLink.Transport.Feedback
import XgenLink.Wire.Frame

/-!
# `XgenLink.Transport.Send`: the transport send path

`xgl_transport_send` with its send plan, the reliable queue entry of every packet and the
fragmented path.

The plan decides from the frame size of the route how the payload is cut. A reliable request then
selects its peer, opens it with a HELLO when it is new, and needs room in its window. Every packet
is queued, handed down and committed; the commit takes the number in the windows of peer and
context and stamps the entry. A packet that cannot be handed down is taken out of the queue again.
An unreliable request has no peer, and its packets have the number 0.
-/

set_option autoImplicit false

namespace XgenLink

/-! ### Send plan -/

/-- `transport_effective_max_frame_size`. -/
def transportEffectiveMaxFrameSize (config : TransportConfig) (targetId : UInt16) : UInt16 :=
  match config.routeTable with
  | none => config.maxFrameSize
  | some table =>
    match xglRouteTableLookup table targetId with
    | some route =>
      -- the smaller of route and instance
      if route.maxFrameSize < config.maxFrameSize then route.maxFrameSize else config.maxFrameSize
    | none => config.maxFrameSize

/-- The part of `xgl_transport_send_plan_t` the send path reads. -/
structure SendPlan where
  needsFragmentation : Bool
  fragmentPayloadBudget : Nat
  fragmentCount : Nat
  deriving DecidableEq, Repr

/-- `transport_build_send_plan`. -/
def transportBuildSendPlan (config : TransportConfig) (txData : TxData) (dataLen : Nat) :
    Except XglError SendPlan :=
  let maxFrameSize := (transportEffectiveMaxFrameSize config txData.targetId).toNat
  let appExtensionsLen := if txData.dataType != 0 then XGL_DATA_TYPE_EXT_SIZE else 0
  match xglFramePayloadBudget maxFrameSize 0 config.authTagLen.toNat with
  -- not even an empty payload fits
  | none => .error .invalidParam
  | some _ =>
    match xglFramePayloadBudget maxFrameSize appExtensionsLen config.authTagLen.toNat with
    | none => .error .bufferTooSmall
    | some budget =>
      -- one packet is enough
      if dataLen ≤ budget then
        .ok { needsFragmentation := false, fragmentPayloadBudget := budget, fragmentCount := 1 }
      else if !config.enableFragmentation then .error .bufferTooSmall
      -- the FRAGMENT_EXT takes room from every fragment
      else if budget ≤ XGL_FRAGMENT_EXT_SIZE then .error .bufferTooSmall
      else
        .ok { needsFragmentation := true
              fragmentPayloadBudget := budget - XGL_FRAGMENT_EXT_SIZE
              fragmentCount := (dataLen + (budget - XGL_FRAGMENT_EXT_SIZE) - 1) /
                (budget - XGL_FRAGMENT_EXT_SIZE) }

/-- A plan is refused with an error. -/
theorem transportBuildSendPlan_error {config : TransportConfig} {txData : TxData} {dataLen : Nat}
    {err : XglError} (h : transportBuildSendPlan config txData dataLen = .error err) :
    err ≠ .ok := by
  rintro rfl
  simp only [transportBuildSendPlan] at h
  split at h
  · cases h
  · split at h
    · cases h
    · split at h
      · cases h
      · split at h
        · cases h
        · split at h <;> cases h

/-! ### Queue entry -/

/-- `transport_send_timeout_ms`. -/
def transportSendTimeoutMs (config : TransportConfig) (peer : PeerState) (txData : TxData) :
    Int32 :=
  -- the timeout of the request goes before the estimate
  if txData.timeoutMs > 0 then txData.timeoutMs.toInt32
  else
    let timeout := xglRttGetRto peer.rttEst
    if timeout == 0 then config.defaultTimeoutMs.toInt32 else timeout

/-- The queue entry that `transport_queue_reliable_tx` ends up with. -/
def reliableTxPacket (config : TransportConfig) (peer : PeerState) (txData : TxData)
    (data : Bytes) (packetNumber : UInt32) (fragment : Bool) (extensions : Bytes) :
    ReliablePacket where
  data := data
  sourceId := config.localId
  targetId := txData.targetId
  packetNumber := packetNumber
  sessionId := peer.sessionId
  connectionId := txData.connectionId
  sessionEpoch := txData.sessionEpoch
  dataType := txData.dataType
  packetType := XGL_PACKET_TYPE_DATA
  flags :=
    -- the flags of a fragment, which a retransmission sends again
    if fragment then XGL_WIRE_FLAG_FRAGMENTED ||| XGL_WIRE_FLAG_HAS_EXTENSIONS else 0
  fragment := fragment
  priority := txData.priority
  extensions := if fragment then extensions else []
  timeoutMs := transportSendTimeoutMs config peer txData
  initialTimeoutMs := transportSendTimeoutMs config peer txData

/-- The allocations of `transport_queue_reliable_tx`: the entry, the payload copy
and, for a fragment, the extension copy. -/
def reliableTxAlloc (env : TransportEnv) (io : TransportIo) (data : Bytes) (fragment : Bool)
    (extensions : Bytes) : Bool × TransportIo :=
  let node := transportMalloc env io structSize
  if !node.1 then node
  else
    let bytes := transportMalloc env node.2 data.length
    if !bytes.1 || !fragment || extensions.isEmpty then bytes
    else transportMalloc env bytes.2 extensions.length

/-- `transport_queue_reliable_tx` for a reliable request. The lookup after the
insertion finds the packet just added, and when its extensions cannot be copied
it is removed again. -/
def transportQueueReliableTx (env : TransportEnv) (config : TransportConfig) (io : TransportIo)
    (peer : PeerState) (txData : TxData) (data : Bytes) (packetNumber : UInt32) (fragment : Bool)
    (extensions : Bytes) : XglError × TransportIo × PeerState :=
  -- `xgl_reliable_add_packet_number` refuses an empty payload
  if data.length == 0 then (.invalidParam, io, peer)
  else
    let alloc := reliableTxAlloc env io data fragment extensions
    if !alloc.1 then (.noMemory, alloc.2, peer)
    else
      (.ok, alloc.2,
        { peer with
          reliableQueue := reliableAppend peer.reliableQueue
            (reliableTxPacket config peer txData data packetNumber fragment extensions) })

/-! ### Packets -/

/-- The packet of `transport_send_packet_view`. -/
def txPacket (config : TransportConfig) (peer : Option PeerState) (txData : TxData) (data : Bytes)
    (packetNumber : UInt32) (fragment : Bool) (extensions : Bytes) : Packet where
  sourceId := config.localId
  targetId := txData.targetId
  packetNumber := packetNumber
  -- an unreliable packet has no session
  sessionId := peer.elim 0 PeerState.sessionId
  connectionId := txData.connectionId
  sessionEpoch := txData.sessionEpoch
  dataType := txData.dataType
  reliable := if txData.reliable then 1 else 0
  fragment := if fragment then 1 else 0
  priority := txData.priority
  data := some { data := some data }
  extensions := extensions

/-- `transport_commit_packet_number` on the windows of peer and context. -/
def transportCommitPacketNumber (ctx : TransportCtx) (peer : PeerState) :
    TransportCtx × PeerState :=
  ({ ctx with
      window :=
        -- the window of the context moves when it can; it never keeps a packet back here
        if xglWindowCanSendPacketNumber ctx.window then
          xglWindowAdvanceNextPacketNumber ctx.window
        else ctx.window },
    { peer with txWindow := xglWindowAdvanceNextPacketNumber peer.txWindow })

/-- `transport_send_packet_view` for a reliable request: on failure the queue
entry is taken out again, otherwise the number is committed and the entry gets
its timestamp. -/
def transportSendReliableView (env : TransportEnv) (ctx : TransportCtx) (peer : PeerState)
    (txData : TxData) (data : Bytes) (packetNumber : UInt32) (fragment : Bool)
    (extensions : Bytes) : XglError × TransportCtx × PeerState :=
  let sent := xglLayerSend env ctx.io
    (txPacket ctx.config (some peer) txData data packetNumber fragment extensions)
  match sent.1 with
  | .ok =>
    let committed := transportCommitPacketNumber { ctx with io := sent.2 } peer
    let now := xglTimeMs env committed.1.io
    (.ok, { committed.1 with io := now.2 },
      transportUpdatePeerDeadline
        { committed.2 with
          -- the packet just queued is the newest of its number
          reliableQueue := reliableUpdate committed.2.reliableQueue packetNumber txData.targetId
            fun packet => { packet with sendTimestamp := now.1 } })
  -- the number is not committed, so the next packet gets it again
  | err =>
    (err, { ctx with io := sent.2 },
      { peer with
        reliableQueue :=
          (xglReliableRemovePacketNumber peer.reliableQueue packetNumber txData.targetId).2 })

/-- One reliable packet: queued, sent and committed. -/
def transportSendReliablePacket (env : TransportEnv) (ctx : TransportCtx) (peer : PeerState)
    (txData : TxData) (data : Bytes) (fragment : Bool) (extensions : Bytes) :
    XglError × TransportCtx × PeerState :=
  -- the number that the packet will have, if it goes out
  let packetNumber := xglWindowGetNextPacketNumber peer.txWindow
  match transportQueueReliableTx env ctx.config ctx.io peer txData data packetNumber fragment
      extensions with
  | (.ok, io, peer) =>
    transportSendReliableView env { ctx with io := io } peer txData data packetNumber fragment
      extensions
  | (err, io, peer) => (err, { ctx with io := io }, peer)

/-- One packet of a request without a peer, with packet number zero. -/
def transportSendUnreliablePacket (env : TransportEnv) (ctx : TransportCtx) (txData : TxData)
    (data : Bytes) (fragment : Bool) (extensions : Bytes) : XglError × TransportCtx :=
  let sent := xglLayerSend env ctx.io
    (txPacket ctx.config none txData data 0 fragment extensions)
  (sent.1, { ctx with io := sent.2 })

/-! ### Fragmented sends -/

/-- `transport_encode_fragment_ext`. -/
def transportEncodeFragmentExt (messageId : UInt32) (fragmentOffset totalLen : Nat) :
    Except XglError Bytes :=
  xglWireEncodeExt XGL_FRAGMENT_EXT_SIZE XGL_WIRE_EXT_FRAGMENT
    (xglWireEncodeFragmentExtValue messageId (UInt32.ofNat fragmentOffset) (UInt32.ofNat totalLen))

/-- One round of the loop of `transport_send_fragmented`, with the peer of a
reliable request. -/
def transportSendOneFragment (env : TransportEnv) (txData : TxData) (data : Bytes)
    (messageId : UInt32) (payloadMax : Nat) (ctx : TransportCtx) (peer : Option PeerState)
    (i : Nat) : XglError × TransportCtx × Option PeerState :=
  let offset := i * payloadMax
  -- the last piece is what is left
  let piece := readBytes data offset (min (data.length - offset) payloadMax)
  match peer with
  | some state =>
    -- asked anew for every fragment
    if !xglWindowCanSendPacketNumber state.txWindow then (.windowFull, ctx, some state)
    else
      match transportEncodeFragmentExt messageId offset data.length with
      | .error err => (err, ctx, some state)
      | .ok ext =>
        let sent := transportSendReliablePacket env ctx state txData piece true ext
        (sent.1, sent.2.1, some sent.2.2)
  | none =>
    match transportEncodeFragmentExt messageId offset data.length with
    | .error err => (err, ctx, none)
    | .ok ext =>
      let sent := transportSendUnreliablePacket env ctx txData piece true ext
      (sent.1, sent.2, none)

/-- The loop of `transport_send_fragmented`; it stops at the first failure. -/
def transportFragmentLoop (env : TransportEnv) (txData : TxData) (data : Bytes)
    (messageId : UInt32) (payloadMax : Nat) :
    List Nat → TransportCtx → Option PeerState → XglError × TransportCtx × Option PeerState
  | [], ctx, peer => (.ok, ctx, peer)
  | i :: rest, ctx, peer =>
    match transportSendOneFragment env txData data messageId payloadMax ctx peer i with
    | (.ok, ctx, peer) => transportFragmentLoop env txData data messageId payloadMax rest ctx peer
    -- the fragments before the failure stay queued and committed
    | (err, ctx, peer) => (err, ctx, peer)

/-- `transport_send_fragmented`. -/
def transportSendFragmented (env : TransportEnv) (ctx : TransportCtx) (peer : Option PeerState)
    (txData : TxData) (data : Bytes) (plan : SendPlan) :
    XglError × TransportCtx × Option PeerState :=
  match ctx.fragmentMgr with
  | none => (.invalidParam, ctx, peer)
  | some manager =>
    transportFragmentLoop env txData data manager.nextMessageId plan.fragmentPayloadBudget
      (List.range plan.fragmentCount)
      { ctx with
        -- the message id is used up, also when no fragment goes out
        fragmentMgr := some { manager with nextMessageId := manager.nextMessageId + 1 } }
      peer

/-! ### Send -/

/-- `transport_prepare_reliable_send` for a reliable request. -/
def transportPrepareReliableSend (env : TransportEnv) (ctx : TransportCtx) (txData : TxData) :
    XglError × TransportCtx × Option PeerState :=
  match transportGetOrCreatePeer env ctx txData.peerKey with
  | (ctx, none) => (.noMemory, ctx, none)
  | (ctx, some peer) =>
    -- a full window is refused before anything is sent
    if !xglWindowCanSendPacketNumber peer.txWindow then (.windowFull, ctx, some peer)
    else if peer.helloSent then (.ok, ctx, some peer)
    else
      -- the first packet of a peer is announced by a HELLO
      let sent := transportSendControl env ctx.config ctx.io
        { targetId := txData.targetId
          sessionId := peer.sessionId
          connectionId := peer.connectionId
          sessionEpoch := peer.sessionEpoch }
        XGL_TRANSPORT_CONTROL_HELLO 0
      let ctx := { ctx with io := sent.2 }
      match sent.1 with
      -- once sent, no packet waits for an answer to it
      | .ok => (.ok, ctx.put { peer with helloSent := true }, some { peer with helloSent := true })
      | err => (err, ctx, some peer)

/-- The payload after compression; it stays as it is when no codec matches,
encoding fails or does not make it shorter. -/
def transportEncodeData (config : TransportConfig) (txData : TxData) (data : Bytes) : Bytes :=
  if txData.compressionId == 0 then data
  else
    match xglCodecFind config.codecRegistry .compression txData.compressionId with
    | none => data
    | some codec =>
      match codec.encode data XGL_DATALINK_STACK_BUFFER_SIZE with
      | .error _ => data
      | .ok encoded => if encoded.length < data.length then encoded else data

/-- The error callback, when one is registered. -/
def transportReport (config : TransportConfig) (io : TransportIo) (error : XglError)
    (message : String) : TransportIo :=
  if config.errorCallback then io.emit (.errorCallback error message) else io

/-- Writing back the peer of a request, when it has one. -/
def TransportCtx.put? (ctx : TransportCtx) : Option PeerState → TransportCtx
  | none => ctx
  | some peer => ctx.put peer

/-- The transmission step of `xgl_transport_send`. -/
def transportTransmit (env : TransportEnv) (ctx : TransportCtx) (peer : Option PeerState)
    (txData : TxData) (data : Bytes) (plan : SendPlan) :
    XglError × TransportCtx × Option PeerState :=
  -- a fragmented message is not compressed
  if plan.needsFragmentation then transportSendFragmented env ctx peer txData data plan
  else
    let encoded := transportEncodeData ctx.config txData data
    match peer with
    | some state =>
      let sent := transportSendReliablePacket env ctx state txData encoded false []
      (sent.1, sent.2.1, some sent.2.2)
    | none =>
      let sent := transportSendUnreliablePacket env ctx txData encoded false []
      (sent.1, sent.2, none)

/-- The part of `xgl_transport_send` behind the peer selection. -/
def transportSendPlanned (env : TransportEnv) (ctx : TransportCtx) (peer : Option PeerState)
    (txData : TxData) (data : Bytes) : XglError × TransportCtx :=
  match transportBuildSendPlan ctx.config txData data.length with
  | .error err =>
    (err,
      -- only a frame size that no packet fits into is reported
      if err == .invalidParam then
        { ctx with
          io := transportReport ctx.config ctx.io .invalidParam
            "max_frame_size too small for headers" }
      else ctx)
  | .ok plan =>
    let sent := transportTransmit env ctx peer txData data plan
    match sent.1, sent.2.2 with
    -- only a reliable send counts as activity of its peer
    | .ok, some peer =>
      let now := xglTimeMs env sent.2.1.io
      (.ok, { sent.2.1 with io := now.2 }.put { peer with lastActiveMs := now.1 })
    | err, peer => (err, sent.2.1.put? peer)

/-- `xgl_transport_send`. -/
def xglTransportSend (env : TransportEnv) (ctx : TransportCtx) (txData : TxData) :
    XglError × TransportCtx :=
  match txData.data with
  | none => (.nullPointer, ctx)
  | some data =>
    if data.length == 0 then (.invalidParam, ctx)
    else if !ctx.config.lowerLayer then
      (.invalidParam,
        { ctx with
          io := transportReport ctx.config ctx.io .invalidParam
            "Transport layer not connected to network layer" })
    else if txData.reliable then
      match transportPrepareReliableSend env ctx txData with
      | (.ok, ctx, peer) => transportSendPlanned env ctx peer txData data
      | (err, ctx, _) => (err, ctx)
    else transportSendPlanned env ctx none txData data

end XgenLink
