import XgenLink.Transport.Feedback

/-!
# `XgenLink.Transport.Delivery`: ordering and delivery of received payloads

The out-of-order list of `xgl_transport_rx_buffer.c`, payload delivery with reassembly
(`xgl_transport_delivery.c`), the drain loop (`xgl_transport_rx_order.c`) and the ordering decision
(`xgl_transport_receive_order.c`).

A peer has the number it expects next and a list of packets that came too early, in order of their
numbers. The expected packet is delivered and the list behind it is drained; a later packet is
put on the list, with copies of its payload and its extensions, when it lies in the window and
there is room and memory for it; an earlier one was delivered before and is acknowledged again.
Delivery hands a payload to the callback, or a fragment to the reassembly manager.
-/

set_option autoImplicit false

namespace XgenLink

/-! ### Out-of-order list -/

/-- `transport_find_rx_buffered`: the walk stops behind the place of the number. -/
def transportFindRxBuffered (packetNumber : UInt32) : List Packet → Option Packet
  | [] => none
  | node :: rest =>
    if node.packetNumber == packetNumber then some node
    -- the list is ordered by packet number
    else if node.packetNumber > packetNumber then none
    else transportFindRxBuffered packetNumber rest

/-- `transport_insert_rx_buffered` on the list. -/
def transportInsertRxBuffered (buffered : Packet) : List Packet → List Packet
  | [] => [buffered]
  | node :: rest =>
    -- a packet with an equal number would go in front; the lookup before it excludes that
    if node.packetNumber ≥ buffered.packetNumber then buffered :: node :: rest
    else node :: transportInsertRxBuffered buffered rest

/-- The walk of `transport_take_rx_buffered`: the packet found and the list
without it. -/
def takeRxBuffered (packetNumber : UInt32) : List Packet → Option (Packet × List Packet)
  | [] => none
  | node :: rest =>
    if node.packetNumber == packetNumber then some (node, rest)
    else if node.packetNumber > packetNumber then none
    else (takeRxBuffered packetNumber rest).map fun found => (found.1, node :: found.2)

/-- `transport_take_rx_buffered`. -/
def transportTakeRxBuffered (peer : PeerState) (packetNumber : UInt32) :
    Option (Packet × PeerState) :=
  (takeRxBuffered packetNumber peer.rxBuffered).map fun found =>
    (found.1,
      { peer with
        rxBuffered := found.2
        rxBufferedCount :=
          if peer.rxBufferedCount > 0 then peer.rxBufferedCount - 1 else peer.rxBufferedCount })

/-- The allocations of `transport_cache_out_of_order_packet`: the node, the
payload and, when there are any, the extensions. -/
def rxBufferedAlloc (env : TransportEnv) (io : TransportIo) (data extensions : Bytes) :
    Bool × TransportIo :=
  let node := transportMalloc env io structSize
  if !node.1 then node
  else
    let bytes := transportMalloc env node.2 data.length
    -- no third allocation for a packet without extensions
    if !bytes.1 || extensions.isEmpty then bytes
    else transportMalloc env bytes.2 extensions.length

/-- `transport_cache_out_of_order_packet`. -/
def transportCacheOutOfOrderPacket (env : TransportEnv) (io : TransportIo) (peer : PeerState)
    (packet : Packet) (packetNumber : UInt32) : XglError × TransportIo × PeerState :=
  match packet.payload? with
  | none => (.invalidParam, io, peer)
  | some data =>
    if data.length == 0 then (.invalidParam, io, peer)
    else
      -- the size of the send window bounds the cache, a window of size 0 has room for one packet
      let window : UInt32 :=
        if peer.txWindow.windowSize == 0 then 1 else peer.txWindow.windowSize.toUInt32
      -- the distance is taken modulo 2^32
      if packetNumber - peer.rxNextPacketNumber ≥ window then (.windowFull, io, peer)
      else if peer.rxBufferedCount.toUInt32 ≥ window then (.windowFull, io, peer)
      -- a packet that is cached already is not cached again
      else if (transportFindRxBuffered packetNumber peer.rxBuffered).isSome then (.ok, io, peer)
      else
        let alloc := rxBufferedAlloc env io data packet.extensions
        if !alloc.1 then (.noMemory, alloc.2, peer)
        else
          (.ok, alloc.2,
            { peer with
              rxBuffered := transportInsertRxBuffered
                { packet with packetNumber := packetNumber } peer.rxBuffered
              rxBufferedCount := peer.rxBufferedCount + 1 })

/-! ### Delivery -/

/-- The FRAGMENT_EXT that `transport_deliver_packet` looks for. -/
def deliveredFragmentExt (extensions : Bytes) : Except XglError FragmentExt :=
  if extensions.isEmpty then .error .invalidFrame
  else
    let exts := wireExts extensions extensions.length
    -- the first FRAGMENT_EXT is the one that counts
    match exts.1.find? fun ext => ext.type == XGL_WIRE_EXT_FRAGMENT with
    | some ext => xglWireDecodeFragmentExtValue ext.value
    | none => if exts.2 == .notFound then .error .invalidFrame else .error exts.2

/-- The receive callback, when one is registered. -/
def emitRx (config : TransportConfig) (io : TransportIo) (packet : Packet) (data : Bytes) :
    TransportIo :=
  if config.rxCallback then io.emit (.rxCallback packet.sourceId packet.dataType data packet)
  else io

/-- Recording that a payload went into a reassembly buffer. -/
def emitStored (io : TransportIo) (packet : Packet) (stored : Bool) : TransportIo :=
  if stored then io.emit (.fragmentStored packet) else io

/-- The message a fragment belongs to. -/
def fragmentKey (packet : Packet) (ext : FragmentExt) : MessageKey where
  sourceId := packet.sourceId
  connectionId := packet.connectionId
  sessionEpoch := packet.sessionEpoch
  messageId := ext.messageId

/-- The fragment branch of `transport_deliver_packet`. -/
def transportDeliverFragment (env : TransportEnv) (config : TransportConfig)
    (manager : FragmentManager) (io : TransportIo) (packet : Packet) (data : Bytes) :
    XglError × Option FragmentManager × TransportIo :=
  match deliveredFragmentExt packet.extensions with
  | .error err => (err, some manager, io)
  | .ok ext =>
    let processed := xglFragmentProcessExt env io manager (fragmentKey packet ext) packet.dataType
      ext.fragmentOffset ext.messageLen data 0
    -- the log says that the payload went into a buffer, also when the message is still short
    let io := emitStored processed.2.2 packet processed.1.stored
    match processed.1.error with
    | .ok =>
      (.ok, some processed.2.1, emitRx config io packet (processed.1.complete.getD []))
    -- `XGL_ERR_BUSY` is a message that is not complete yet
    | .busy => (.ok, some processed.2.1, io)
    | err => (err, some processed.2.1, io)

/-- `transport_deliver_packet`. -/
def transportDeliverPacket (env : TransportEnv) (config : TransportConfig)
    (manager : Option FragmentManager) (io : TransportIo) (packet : Packet) (data : Bytes) :
    XglError × Option FragmentManager × TransportIo :=
  match manager with
  | some manager =>
    -- a fragment goes into its message
    if packet.fragment != 0 then transportDeliverFragment env config manager io packet data
    else (.ok, some manager, emitRx config io packet data)
  -- without one a fragment is handed over like a packet
  | none => (.ok, none, emitRx config io packet data)

/-- The loop of `transport_drain_rx_buffered`. Every round takes a packet off the
list, so as many rounds as there are packets suffice. -/
def drainLoop (env : TransportEnv) (config : TransportConfig) :
    Nat → Option FragmentManager → TransportIo → PeerState →
      XglError × Option FragmentManager × TransportIo × PeerState
  | 0, manager, io, peer => (.ok, manager, io, peer)
  | fuel + 1, manager, io, peer =>
    match transportTakeRxBuffered peer peer.rxNextPacketNumber with
    | none => (.ok, manager, io, peer)
    | some (buffered, peer) =>
      -- the packet is off the list already
      let delivered := transportDeliverPacket env config manager io buffered
        (buffered.payload?.getD [])
      -- acknowledged whatever the delivery answered
      let acked := transportSendAck env config delivered.2.2 buffered.feedbackScope
        buffered.packetNumber
      match delivered.1 with
      | .ok =>
        drainLoop env config fuel delivered.2.1 acked.2
          { peer with rxNextPacketNumber := buffered.packetNumber + 1 }
      -- the expected number stays, and the packet is neither on the list nor delivered
      | err => (err, delivered.2.1, acked.2, peer)

/-- `transport_drain_rx_buffered`. -/
def transportDrainRxBuffered (env : TransportEnv) (config : TransportConfig)
    (manager : Option FragmentManager) (io : TransportIo) (peer : PeerState) :
    XglError × Option FragmentManager × TransportIo × PeerState :=
  drainLoop env config peer.rxBuffered.length manager io peer

/-! ### Ordering -/

/-- The first packet of a peer sets up its receive state. -/
def rxOrderInit (peer : PeerState) : PeerState :=
  if peer.rxHasPacketNumberState then peer
  else { peer with rxNextPacketNumber := 0, rxHasPacketNumberState := true }

/-- `transport_process_reliable_rx_order` once the peer is known: duplicates and
the expected packet are acknowledged, later packets are cached and answered with
a SACK. -/
def transportProcessReliableRxOrder (env : TransportEnv) (config : TransportConfig)
    (io : TransportIo) (peer : PeerState) (packet : Packet) :
    XglError × TransportIo × PeerState :=
  let peer := rxOrderInit peer
  -- later than expected
  if packet.packetNumber > peer.rxNextPacketNumber then
    let cached := transportCacheOutOfOrderPacket env io peer packet packet.packetNumber
    let sent := transportSendSack env config cached.2.1 cached.2.2.rxBuffered packet.feedbackScope
      peer.rxNextPacketNumber
    (cached.1, sent.2, cached.2.2)
  else
    -- expected, or a duplicate whose acknowledgement may have been lost
    let sent := transportSendAck env config io packet.feedbackScope packet.packetNumber
    (.ok, sent.2, peer)

end XgenLink
