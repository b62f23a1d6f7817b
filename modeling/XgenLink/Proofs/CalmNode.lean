import XgenLink.Proofs.SendSteps
import XgenLink.Proofs.WireRoundTrip

/-!
# `XgenLink.Proofs.CalmNode`: one node over a link that does not fail

Two nodes, each with a route to the other, whose allocators serve them and whose PHYs take every
frame. This module follows one of them through its entry points, for the packets the two
exchange: reliable unfragmented sends, and received HELLO, data and ACK frames. What a step does
is said completely: the peers after it, the frames it puts on the wire, the payloads it hands to
the application. So a run of the two needs to look at these descriptions only.

Each entry point has an inductive type that lists how it can end, and a theorem that says that
these are all the ends there are.

* `CalmNode`: what makes the node calm. None of it changes along a run (`Steady`).
* `Planned`, `NodeSent`, `nodeSend_cases`: a send is refused without a trace, fails behind the
  greeting, or goes out.
* `DataReceived`, `nodeReceive_data`: the next data packet of a peer is refused for its session,
  or acknowledged and delivered.
* `nodeReceive_hello`, `AckReceived`, `nodeReceive_ack`: the other two.
* `Item`, `Item.Arrives`: the frames on the way, as the other node reads them. What a node sends
  arrives as what it meant (`greeting_arrives`, `dataPacket_arrives`, `ackPacket_arrives`).
-/

set_option autoImplicit false

namespace XgenLink

/-! ### Calm nodes -/

/-- What stays fixed in a transport context. -/
structure Steady (before after : TransportCtx) : Prop where
  config : after.config = before.config
  window : after.window.windowSize = before.window.windowSize

/-- Nothing has changed. -/
theorem Steady.refl (ctx : TransportCtx) : Steady ctx ctx := ⟨rfl, rfl⟩

/-- What is fixed stays fixed over two steps. -/
theorem Steady.trans {a b c : TransportCtx} (hab : Steady a b) (hbc : Steady b c) : Steady a c :=
  ⟨hbc.config.trans hab.config, hbc.window.trans hab.window⟩

/-- Node `me` is connected to `other`, without authentication. -/
structure CalmNode (node : Node) (me other : UInt16) : Prop where
  transportId : node.transport.config.localId = me
  networkId : node.network.localId = me
  lower : node.transport.config.lowerLayer = true
  rx : node.transport.config.rxCallback = true
  upper : node.network.upperLayer = true
  route : PlainRoute node other
  window : node.transport.window.windowSize ≠ 0 ∧
    node.transport.window.windowSize ≤ XGL_WINDOW_MAX_SIZE
  meValid : me ≠ 0 ∧ me ≠ XGL_BROADCAST_ID
  otherValid : other ≠ 0
  distinct : me ≠ other

/-- A step that keeps what is fixed keeps a node calm. -/
theorem CalmNode.step {node : Node} {me other : UInt16} (h : CalmNode node me other)
    {transport : TransportCtx} (hsteady : Steady node.transport transport) :
    CalmNode { node with transport := transport } me other where
  transportId := hsteady.config ▸ h.transportId
  networkId := h.networkId
  lower := hsteady.config ▸ h.lower
  rx := hsteady.config ▸ h.rx
  upper := h.upper
  route := ⟨h.route.networkAuth, h.route.datalinkAuth, h.route.lower, h.route.route⟩
  window := hsteady.window ▸ h.window
  meValid := h.meValid
  otherValid := h.otherValid
  distinct := h.distinct

/-! ### Events and frames -/

/-- The frames of two lists of events. -/
theorem Node.frames_append (node : Node) (a b : List TransportEvent) :
    node.frames (a ++ b) = node.frames a ++ node.frames b :=
  List.filterMap_append

/-- The frame of a packet handed down, if it went out. -/
theorem Node.frames_layerSend (node : Node) (packet : Packet) (error : XglError) :
    node.frames [.layerSend packet error] = (node.lowerSend packet).transmitted.toList := by
  unfold Node.frames
  rw [List.filterMap_cons, List.filterMap_nil]
  dsimp only
  cases (node.lowerSend packet).transmitted <;> rfl

/-- What the receive callback was handed, with the peer it was ordered by. -/
def rxDeliveries (events : List TransportEvent) : List (PeerKey × Bytes) :=
  events.filterMap fun event =>
    match event with
    | .rxCallback _ _ data origin => some (origin.peerKey, data)
    | _ => none

/-- The deliveries of two lists of events. -/
theorem rxDeliveries_append (a b : List TransportEvent) :
    rxDeliveries (a ++ b) = rxDeliveries a ++ rxDeliveries b :=
  List.filterMap_append

/-- A step that keeps what is fixed and delivers nothing. -/
structure Quiet (before after : TransportCtx) : Prop extends Steady before after where
  deliveries : rxDeliveries after.io.events = rxDeliveries before.io.events

/-- Two quiet steps are one. -/
theorem Quiet.trans {a b c : TransportCtx} (hab : Quiet a b) (hbc : Quiet b c) : Quiet a c :=
  ⟨hab.toSteady.trans hbc.toSteady, hbc.deliveries.trans hab.deliveries⟩

/-- The frames of a step are those of its new events. -/
theorem Node.advance_eq (node : Node) {transport : TransportCtx} {new : List TransportEvent}
    (h : transport.io.events = node.transport.io.events ++ new) :
    node.advance transport = ({ node with transport := transport }, node.frames new) := by
  unfold Node.advance
  rw [h, List.drop_left]

/-- A packet of at most 15 bytes of extensions and payload goes out. -/
theorem CalmNode.lowerSend_short {node : Node} {me other : UInt16} (h : CalmNode node me other)
    {packet : Packet} {extensions : Bytes} {metadata : NetworkExtMetadata}
    (hencodable : Encodable packet extensions metadata) (htarget : packet.targetId = other)
    (hshort : extensions.length + (packet.payload?.getD []).length ≤ 15) :
    node.lowerSend packet
      = { error := .ok, transmitted := some (wireFrame packet extensions) } := by
  rcases lowerSend_plain (htarget ▸ h.route) hencodable with ⟨heq, _⟩ | ⟨_, _, hlong⟩
  · exact heq
  · omega

/-- So the transport's send of it succeeds with one event and one frame. -/
theorem CalmNode.transportLowerSend_short {node : Node} {me other : UInt16}
    (h : CalmNode node me other) (clock : Nat → UInt32) {packet : Packet} {extensions : Bytes}
    {metadata : NetworkExtMetadata} (hencodable : Encodable packet extensions metadata)
    (htarget : packet.targetId = other)
    (hshort : extensions.length + (packet.payload?.getD []).length ≤ 15) (io : TransportIo) :
    (transportLowerSend (node.env clock) node.transport.config io packet).1 = .ok ∧
      (transportLowerSend (node.env clock) node.transport.config io packet).2.events
        = io.events ++ [.layerSend packet .ok] ∧
      node.frames [.layerSend packet .ok] = [wireFrame packet extensions] := by
  have hsend := h.lowerSend_short hencodable htarget hshort
  unfold transportLowerSend
  rw [if_pos h.lower]
  unfold xglLayerSend Node.env
  dsimp only
  rw [hsend]
  refine ⟨rfl, rfl, ?_⟩
  rw [Node.frames_layerSend, hsend]
  rfl

/-! ### Peers can always be created -/

/-- An allocator that serves every request serves this one. -/
theorem transportMalloc_ok {env : TransportEnv} (halloc : ∀ n, env.allocOk n = true)
    (io : TransportIo) {size : Nat} (hsize : size ≠ 0) :
    transportMalloc env io size = (true, { io with allocCount := io.allocCount + 1 }) := by
  unfold transportMalloc
  rw [if_neg (by simpa using hsize), halloc]

/-- With memory and a window of a proper size, getting a peer never fails. -/
theorem transportGetOrCreatePeer_calm {env : TransportEnv} (halloc : ∀ n, env.allocOk n = true)
    {ctx : TransportCtx} (hwindow : ctx.window.windowSize ≠ 0 ∧
      ctx.window.windowSize ≤ XGL_WINDOW_MAX_SIZE) (key : PeerKey) :
    ∃ base peer, transportGetOrCreatePeer env ctx key = (base, some peer) ∧
      GetOrCreate ctx key (base, some peer) := by
  have hcases := transportGetOrCreatePeer_cases env ctx key
  have hsome : (transportGetOrCreatePeer env ctx key).2.isSome = true := by
    unfold transportGetOrCreatePeer
    split
    · rfl
    · have hsize : ctx.window.windowSize.toNat ≠ 0 := by
        intro hzero
        exact hwindow.1 (UInt8.toNat_inj.mp hzero)
      rw [transportMalloc_ok halloc _ (by decide)]
      dsimp only
      rw [if_neg (by decide), if_neg (by simp [hwindow.1, UInt8.not_lt.mpr hwindow.2]),
        transportMalloc_ok halloc _ hsize]
      rfl
  generalize transportGetOrCreatePeer env ctx key = got at hcases hsome ⊢
  obtain ⟨base, peer⟩ := got
  obtain ⟨peer, rfl⟩ := Option.isSome_iff_exists.mp hsome
  exact ⟨base, peer, rfl, hcases⟩

/-- One entry of the peers is new or changed. -/
structure PeerUpdate (before after : List PeerState) (peer : PeerState) : Prop where
  entry : peerOf after peer.key = some peer
  others : ∀ key, key ≠ peer.key → peerOf after key = peerOf before key

/-- Writing the entry back once more. -/
theorem PeerUpdate.put {before mid : List PeerState} {old peer : PeerState}
    (h : PeerUpdate before mid old) (hkey : peer.key = old.key) :
    PeerUpdate before (putPeer peer mid) peer where
  entry := by rw [peerOf_putPeer, if_pos rfl, hkey, h.entry]; rfl
  others := by
    intro key hne
    rw [peerOf_putPeer, if_neg (Ne.symm hne)]
    exact h.others key (hkey ▸ hne)

/-- Writing back an entry of the list. -/
theorem PeerUpdate.of_put {peers : List PeerState} {old peer : PeerState}
    (h : peerOf peers old.key = some old) (hkey : peer.key = old.key) :
    PeerUpdate peers (putPeer peer peers) peer :=
  PeerUpdate.put ⟨h, fun _ _ => rfl⟩ hkey

/-- Getting a peer keeps the context and delivers nothing. -/
theorem GetOrCreate.quiet {ctx base : TransportCtx} {key : PeerKey} {peer : PeerState}
    (h : GetOrCreate ctx key (base, some peer)) : Quiet ctx base := by
  cases h with
  | found _ hlook => exact ⟨.refl _, rfl⟩
  | created hlook io hevents => exact ⟨⟨rfl, rfl⟩, congrArg rxDeliveries hevents⟩

/-- The peer is an entry of the new list, and no other entry changed. -/
theorem GetOrCreate.update {ctx base : TransportCtx} {key : PeerKey} {peer : PeerState}
    (h : GetOrCreate ctx key (base, some peer)) : PeerUpdate ctx.peers base.peers peer := by
  cases h with
  | found _ hlook => exact ⟨peerOf_of_lookupPeer hlook, fun _ _ => rfl⟩
  | created hlook io hevents =>
    refine ⟨by rw [peerOf_cons, if_pos rfl], fun key hne => ?_⟩
    rw [peerOf_cons, if_neg (Ne.symm hne)]

/-- The peer a request gets: the one found, or a new one. -/
def SendPeer (ctx : TransportCtx) (txData : TxData) (peer : PeerState) : Prop :=
  lookupPeer ctx.peers txData.peerKey = some peer ∨
    lookupPeer ctx.peers txData.peerKey = none ∧ peer = freshPeer ctx txData.peerKey

/-- The peer that a call gets is the one found or a new one. -/
theorem GetOrCreate.sendPeer {ctx base : TransportCtx} {txData : TxData} {peer : PeerState}
    (h : GetOrCreate ctx txData.peerKey (base, some peer)) : SendPeer ctx txData peer := by
  cases h with
  | found _ hlook => exact .inl hlook
  | created hlook io hevents => exact .inr ⟨hlook, rfl⟩

/-! ### Sends -/

section Send

variable {node : Node} {me other : UInt16} {txData : TxData} {data : Bytes}

/-- The requests the two nodes make: reliable, to the other node and not
fragmented. -/
structure PlainRequest (config : TransportConfig) (other : UInt16) (txData : TxData) : Prop where
  reliable : txData.reliable = true
  target : txData.targetId = other
  whole : ∀ data plan, txData.data = some data →
    transportBuildSendPlan config txData data.length = .ok plan → plan.needsFragmentation = false

/-- The payload as it travels. -/
def travelling (config : TransportConfig) (txData : TxData) : Bytes :=
  transportEncodeData config txData (txData.data.getD [])

/-- The data packet of a request over a peer. -/
def dataPacket (config : TransportConfig) (txData : TxData) (peer : PeerState) : Packet :=
  txPacket config (some peer) txData (travelling config txData) peer.txWindow.nextPacketNumber
    false []

/-- The peer behind a send that went out: one more entry and one more number. -/
structure SentPeer (config : TransportConfig) (txData : TxData) (peer after : PeerState) :
    Prop where
  frame : ∃ queue deadline now, after = { peer with
    txWindow := xglWindowAdvanceNextPacketNumber peer.txWindow
    reliableQueue := queue
    earliestDeadlineMs := deadline
    lastActiveMs := now }
  queue : contents after.reliableQueue.waitAckList
    = contents peer.reliableQueue.waitAckList ++ [(reliableTxPacket config peer txData
        (travelling config txData) peer.txWindow.nextPacketNumber false []).content]

/-- The part of a send behind the peer selection: a failure leaves the peers as they
are and puts nothing on the wire. -/
inductive Planned (node : Node) (ctx : TransportCtx) (peer : PeerState) (txData : TxData) :
    XglError × TransportCtx → Prop where
  | failed (err : XglError) (hne : err ≠ .ok) (after : TransportCtx)
      (hpeers : after.peers = ctx.peers) (hquiet : Quiet ctx after)
      (new : List TransportEvent) (hevents : after.io.events = ctx.io.events ++ new)
      (hframes : node.frames new = []) :
      Planned node ctx peer txData (err, after)
  | sent (after : TransportCtx) (peer' : PeerState)
      (hpeers : after.peers = putPeer peer' ctx.peers)
      (hsent : SentPeer ctx.config txData peer peer') (hquiet : Quiet ctx after)
      (hevents : after.io.events
        = ctx.io.events ++ [.layerSend (dataPacket ctx.config txData peer) .ok])
      (hframe : node.frames [.layerSend (dataPacket ctx.config txData peer) .ok]
        = [wireFrame (dataPacket ctx.config txData peer) (dataExtensions txData.dataType)])
      (hpayload : (travelling ctx.config txData).length ≤ 65535) :
      Planned node ctx peer txData (.ok, after)

/-- A report to the error callback is no frame and no delivery. -/
theorem transportReport_quiet (node : Node) (config : TransportConfig) (io : TransportIo)
    (error : XglError) (message : String) :
    ∃ new, (transportReport config io error message).events = io.events ++ new ∧
      node.frames new = [] ∧ rxDeliveries new = [] := by
  unfold transportReport
  split
  · exact ⟨[.errorCallback error message], rfl, rfl, rfl⟩
  · exact ⟨[], (List.append_nil _).symm, rfl, rfl⟩

/-- Every planned send ends in one of the outcomes. What can fail is the plan, a payload that
compresses to nothing, and a frame that does not fit the route. -/
theorem transportSendPlanned_plain (h : CalmNode node me other) (clock : Nat → UInt32)
    {ctx : TransportCtx} {peer : PeerState} (hconfig : ctx.config = node.transport.config)
    (hrequest : PlainRequest ctx.config other txData) (hdata : txData.data = some data)
    (hentry : peerOf ctx.peers peer.key = some peer) :
    Planned node ctx peer txData
      (transportSendPlanned (node.env clock) ctx (some peer) txData data) := by
  unfold transportSendPlanned
  split
  · rename_i err herr
    have hne := transportBuildSendPlan_error herr
    split
    · obtain ⟨new, hnew, hframes, hquiet⟩ := transportReport_quiet node ctx.config ctx.io
        .invalidParam "max_frame_size too small for headers"
      refine .failed err hne _ rfl ⟨⟨rfl, rfl⟩, ?_⟩ new hnew hframes
      dsimp only
      rw [hnew, rxDeliveries_append, hquiet, List.append_nil]
    · exact .failed err hne _ rfl ⟨.refl _, rfl⟩ [] (List.append_nil _).symm rfl
  · rename_i plan hplan
    -- the request is reliable and whole, so it travels as one queued packet
    have htravel : transportEncodeData ctx.config txData data = travelling ctx.config txData := by
      unfold travelling
      rw [hdata]
      rfl
    unfold transportTransmit
    rw [if_neg (by simp [hrequest.whole data plan hdata hplan])]
    dsimp only
    rw [htravel]
    unfold transportSendReliablePacket transportQueueReliableTx xglWindowGetNextPacketNumber
    dsimp only
    by_cases hlen : (travelling ctx.config txData).length = 0
    · -- a payload compressed to nothing cannot be queued
      rw [if_pos (by simpa using hlen)]
      exact .failed _ (by simp) _ (putPeer_self hentry) ⟨⟨rfl, rfl⟩, rfl⟩ []
        (List.append_nil _).symm rfl
    rw [if_neg (by simpa using hlen)]
    have halloc : reliableTxAlloc (node.env clock) ctx.io (travelling ctx.config txData) false []
        = (true, { ctx.io with allocCount := ctx.io.allocCount + 1 + 1 }) := by
      unfold reliableTxAlloc
      rw [transportMalloc_ok (fun _ => rfl) _ (by decide)]
      dsimp only
      rw [transportMalloc_ok (fun _ => rfl) _ hlen]
      rfl
    rw [halloc]
    dsimp only
    rw [if_neg (by decide)]
    dsimp only
    unfold transportSendReliableView xglLayerSend
    dsimp only
    have hencodable := @txPacket_encodable ctx.config _ peer hrequest.reliable
      (travelling ctx.config txData) peer.txWindow.nextPacketNumber
      (by rw [hconfig, h.transportId]; exact h.meValid.1)
      (by rw [hrequest.target]; exact h.otherValid)
    have hroute : PlainRoute node (dataPacket ctx.config txData peer).targetId := by
      change PlainRoute node txData.targetId
      rw [hrequest.target]
      exact h.route
    -- the queued entry does not change the packet
    have hpacket : ∀ queue, txPacket ctx.config (some { peer with reliableQueue := queue }) txData
        (travelling ctx.config txData) peer.txWindow.nextPacketNumber false []
          = dataPacket ctx.config txData peer := fun _ => rfl
    rw [hpacket]
    have henv : ∀ i p, (node.env clock).layerSend i p = (node.lowerSend p).error := fun _ _ => rfl
    rw [henv]
    -- the frame goes out, or it is too long for the route
    rcases lowerSend_plain hroute hencodable with ⟨hok, hpayload⟩ | ⟨hne, hnone, _⟩
    · change node.lowerSend (dataPacket ctx.config txData peer) = _ at hok
      rw [hok]
      dsimp only
      refine .sent _ _ rfl ⟨⟨_, _, _, rfl⟩, ?_⟩ ⟨⟨rfl, ?_⟩, ?_⟩ rfl ?_ hpayload
      · refine (reliableUpdate_contents ?_).trans (contents_append _ _)
        exact fun packet _ => rfl
      · change SlidingWindow.windowSize (if _ then _ else _) = _
        split <;> rfl
      · exact (rxDeliveries_append _ _).trans (List.append_nil _)
      · rw [Node.frames_layerSend, hok]
        rfl
    -- a failed send takes its packet off the queue again
    · change (node.lowerSend (dataPacket ctx.config txData peer)).error ≠ .ok at hne
      change (node.lowerSend (dataPacket ctx.config txData peer)).transmitted = none at hnone
      generalize (node.lowerSend (dataPacket ctx.config txData peer)).error = err at hne
      have hkeep : putPeer { peer with
            reliableQueue := (xglReliableRemovePacketNumber
              (reliableAppend peer.reliableQueue (reliableTxPacket ctx.config peer txData
                (travelling ctx.config txData) peer.txWindow.nextPacketNumber false []))
              peer.txWindow.nextPacketNumber txData.targetId).2 } ctx.peers = ctx.peers := by
        unfold xglReliableRemovePacketNumber reliableAppend
        dsimp only
        rw [reliableUnlink_append_self (by simp [ReliablePacket.isFor, reliableTxPacket])]
        exact putPeer_self hentry
      have hframes : ∀ e, node.frames [.layerSend (dataPacket ctx.config txData peer) e] = [] := by
        intro e
        rw [Node.frames_layerSend, hnone]
        rfl
      have hquiet : ∀ e, rxDeliveries
          (ctx.io.events ++ [.layerSend (dataPacket ctx.config txData peer) e])
            = rxDeliveries ctx.io.events := fun e =>
        (rxDeliveries_append _ _).trans (List.append_nil _)
      cases err <;> first
        | exact absurd rfl hne
        | exact .failed _ (by simp) _ hkeep ⟨⟨rfl, rfl⟩, hquiet _⟩ _ rfl (hframes _)

/-- The frames in front of the first data packet of a peer. -/
def greeting (config : TransportConfig) (txData : TxData) (peer : PeerState) : List Bytes :=
  if peer.helloSent then []
  else [wireFrame (openingHello config txData peer)
    [XGL_WIRE_EXT_DATA_TYPE, 1, XGL_TRANSPORT_CONTROL_HELLO]]

/-- A peer that has greeted. -/
def greeted (peer : PeerState) : PeerState :=
  { peer with helloSent := true }

/-- The outcomes of a send: refused without a trace, failed behind the greeting, or
sent. -/
inductive NodeSent (node : Node) (txData : TxData) : XglError × Node × List Bytes → Prop where
  | refused (err : XglError) (hne : err ≠ .ok) : NodeSent node txData (err, node, [])
  | failed (err : XglError) (hne : err ≠ .ok) (after : TransportCtx) (peer : PeerState)
      (hpeer : SendPeer node.transport txData peer)
      (hupdate : PeerUpdate node.transport.peers after.peers (greeted peer))
      (hquiet : Quiet node.transport after) :
      NodeSent node txData
        (err, { node with transport := after }, greeting node.transport.config txData peer)
  | sent (after : TransportCtx) (peer peer' : PeerState)
      (hpeer : SendPeer node.transport txData peer)
      (hsent : SentPeer node.transport.config txData (greeted peer) peer')
      (hupdate : PeerUpdate node.transport.peers after.peers peer')
      (hquiet : Quiet node.transport after)
      (hpayload : (travelling node.transport.config txData).length ≤ 65535) :
      NodeSent node txData
        (.ok, { node with transport := after },
          greeting node.transport.config txData peer ++
            [wireFrame (dataPacket node.transport.config txData peer)
              (dataExtensions txData.dataType)])

/-- The peer behind the peer selection, and what went out on the way. -/
structure Opened (node : Node) (txData : TxData) (ctx : TransportCtx) (peer : PeerState) :
    Prop where
  selected : SendPeer node.transport txData peer
  update : PeerUpdate node.transport.peers ctx.peers (greeted peer)
  quiet : Quiet node.transport ctx
  events : ∃ new, ctx.io.events = node.transport.io.events ++ new ∧
    node.frames new = greeting node.transport.config txData peer

/-- What follows an opened peer. -/
theorem Opened.finish {ctx : TransportCtx} {peer : PeerState}
    (hopened : Opened node txData ctx peer)
    {out : XglError × TransportCtx} (hplanned : Planned node ctx (greeted peer) txData out) :
    NodeSent node txData (out.1, node.advance out.2) := by
  obtain ⟨new, hnew, hgreeting⟩ := hopened.events
  have hconfig : ctx.config = node.transport.config := hopened.quiet.config
  cases hplanned with
  -- the greeting went out, the packet did not
  | failed err hne after hpeers hquiet more hmore hframes =>
    have hevents : after.io.events = node.transport.io.events ++ (new ++ more) := by
      rw [hmore, hnew, List.append_assoc]
    dsimp only
    rw [Node.advance_eq node hevents, Node.frames_append, hgreeting, hframes, List.append_nil]
    exact .failed err hne after peer hopened.selected (hpeers ▸ hopened.update)
      (hopened.quiet.trans hquiet)
  | sent after peer' hpeers hsent hquiet hevents hframe hpayload =>
    have hall : after.io.events = node.transport.io.events ++
        (new ++ [.layerSend (dataPacket ctx.config txData (greeted peer)) .ok]) := by
      rw [hevents, hnew, List.append_assoc]
    have hkey : peer'.key = (greeted peer).key := by
      obtain ⟨queue, deadline, now, rfl⟩ := hsent.frame
      rfl
    dsimp only
    rw [Node.advance_eq node hall, Node.frames_append, hgreeting, hframe, hconfig]
    rw [hconfig] at hsent hpayload
    refine .sent after peer peer' hopened.selected hsent ?_ (hopened.quiet.trans hquiet) hpayload
    rw [hpeers]
    exact hopened.update.put hkey

/-- A new peer can send. -/
theorem xglWindowCanSendPacketNumber_fresh {size : UInt8} (h : size ≠ 0) :
    xglWindowCanSendPacketNumber (freshWindow size) = true := by
  unfold xglWindowCanSendPacketNumber freshWindow
  rw [decide_eq_true_eq, UInt32.lt_iff_toNat_lt]
  dsimp only
  rw [UInt32.sub_self, UInt8.toNat_toUInt32]
  have : size.toNat ≠ 0 := fun hzero => h (UInt8.toNat_inj.mp hzero)
  change 0 < size.toNat
  omega

/-- The greeting always goes out. -/
theorem CalmNode.openingHello_sent (h : CalmNode node me other) (clock : Nat → UInt32)
    (hrequest : PlainRequest node.transport.config other txData) (peer : PeerState)
    (io : TransportIo) :
    let hello := openingHello node.transport.config txData peer
    (transportLowerSend (node.env clock) node.transport.config io hello).1 = .ok ∧
      (transportLowerSend (node.env clock) node.transport.config io hello).2.events
        = io.events ++ [.layerSend hello .ok] ∧
      node.frames [.layerSend hello .ok]
        = [wireFrame hello [XGL_WIRE_EXT_DATA_TYPE, 1, XGL_TRANSPORT_CONTROL_HELLO]] := by
  have htarget : (openingHello node.transport.config txData peer).targetId = other :=
    hrequest.target
  have hshort : [XGL_WIRE_EXT_DATA_TYPE, 1, XGL_TRANSPORT_CONTROL_HELLO].length +
      ((openingHello node.transport.config txData peer).payload?.getD []).length ≤ 15 := by
    change 3 + 0 ≤ 15
    omega
  exact h.transportLowerSend_short clock
    (helloPacket_encodable _ (by rw [h.transportId]; exact h.meValid.1)
      (by rw [hrequest.target]; exact h.otherValid)) htarget hshort io

/-- A send always gets a peer. -/
theorem CalmNode.transportPrepareReliableSend_peer (h : CalmNode node me other)
    (clock : Nat → UInt32) (txData : TxData) :
    (transportPrepareReliableSend (node.env clock) node.transport txData).2.2 ≠ none := by
  obtain ⟨base, peer, hget, _⟩ := @transportGetOrCreatePeer_calm (node.env clock)
    (fun _ => rfl) _ h.window txData.peerKey
  unfold transportPrepareReliableSend
  rw [hget]
  dsimp only
  split
  · simp
  · split
    · simp
    · split <;> simp

/-- Every send ends in one of the outcomes. -/
theorem nodeSend_cases (h : CalmNode node me other) (clock : Nat → UInt32)
    (hrequest : PlainRequest node.transport.config other txData) :
    NodeSent node txData (nodeSend clock node txData) := by
  unfold nodeSend xglTransportSend
  have hidle : ∀ err, err ≠ .ok → NodeSent node txData (err, node.advance node.transport) := by
    intro err hne
    rw [Node.advance_eq node (List.append_nil _).symm]
    exact .refused err hne
  cases hdata : txData.data with
  | none => exact hidle _ (by simp)
  -- the payload is there, and a peer is prepared for it
  | some data =>
    dsimp only
    split
    · exact hidle _ (by simp)
    rw [if_neg (by simp [h.lower]), if_pos hrequest.reliable]
    have hprepared := transportPrepareReliableSend_cases (node.env clock) node.transport txData
    have hpeer := h.transportPrepareReliableSend_peer clock txData
    generalize transportPrepareReliableSend (node.env clock) node.transport txData = prepared
      at hprepared hpeer ⊢
    cases hprepared with
    | refused hlook session io hevents => exact absurd rfl hpeer
    -- a new peer has an empty window, so a full one was there before
    | full base peer hgot hfull =>
      cases hgot with
      | found _ hlook => exact hidle _ (by simp)
      | created hlook io hevents =>
        have := xglWindowCanSendPacketNumber_fresh h.window.1
        rw [show (freshPeer node.transport txData.peerKey).txWindow
          = freshWindow node.transport.window.windowSize from rfl, this] at hfull
        cases hfull
    -- the peer had greeted before
    | ready base peer hgot hcan hhello =>
      have hsame : greeted peer = peer := by
        unfold greeted
        rw [← hhello]
      have hevents : base.io.events = node.transport.io.events ++ [] := by
        rw [List.append_nil]
        cases hgot with
        | found _ hlook => rfl
        | created hlook io hevents => exact hevents
      have hopened : Opened node txData base peer :=
        ⟨hgot.sendPeer, hsame.symm ▸ hgot.update, hgot.quiet, [], hevents, by
          unfold greeting
          rw [if_pos hhello]
          rfl⟩
      have hplanned := transportSendPlanned_plain h clock hgot.quiet.config
        (hgot.quiet.config ▸ hrequest) hdata hgot.update.entry
      dsimp only
      exact hopened.finish (hsame.symm ▸ hplanned)
    -- the greeting goes out first
    | greeted base peer hgot hcan hhello io hsent =>
      obtain ⟨_, hio, hframe⟩ := h.openingHello_sent clock hrequest peer base.io
      rw [hgot.quiet.config] at hsent
      rw [hsent] at hio
      have hbase : PeerUpdate _ _ (XgenLink.greeted peer) := hgot.update.put rfl
      have hevents : base.io.events = node.transport.io.events := by
        cases hgot with
        | found _ hlook => rfl
        | created hlook io hevents => exact hevents
      have hopened : Opened node txData { base with
          io := io
          peers := putPeer { peer with helloSent := true } base.peers } peer := by
        refine ⟨hgot.sendPeer, hbase, hgot.quiet.trans ⟨⟨rfl, rfl⟩, ?_⟩, _,
          hio.trans (congrArg (· ++ _) hevents), ?_⟩
        · dsimp only
          rw [hio, rxDeliveries_append]
          exact List.append_nil _
        · unfold greeting
          rw [if_neg (by simp [hhello])]
          exact hframe
      exact hopened.finish (transportSendPlanned_plain h clock hgot.quiet.config
        (show PlainRequest base.config other txData by rw [hgot.quiet.config]; exact hrequest)
        hdata hbase.entry)
    -- a calm node cannot fail to greet
    | mute base peer hgot hhello err hne io hsent =>
      obtain ⟨hok, _, _⟩ := h.openingHello_sent clock hrequest peer base.io
      rw [hgot.quiet.config] at hsent
      rw [hsent] at hok
      exact absurd hok hne

end Send

/-! ### Receives -/

section Receive

variable {node : Node} {me other : UInt16} {frame : Bytes} {q : Packet}

/-- A frame that is handed up goes to the transport. -/
theorem nodeReceive_eq (clock : Nat → UInt32)
    (hup : xglNetworkReceive node.network true frame frame.length = .deliver q) :
    nodeReceive clock node frame
      = ((xglTransportReceive (node.env clock) node.transport q).1,
          node.advance (xglTransportReceive (node.env clock) node.transport q).2) := by
  unfold nodeReceive
  rw [hup]

/-- With memory for it, a data packet gets a peer unless its session is another. -/
theorem selectRxPeer_calm {env : TransportEnv} (halloc : ∀ n, env.allocOk n = true)
    {ctx : TransportCtx} (hwindow : ctx.window.windowSize ≠ 0 ∧
      ctx.window.windowSize ≤ XGL_WINDOW_MAX_SIZE)
    (hsession : ∀ peer, lookupPeer ctx.peers q.peerKey = some peer →
      q.sessionId = 0 ∨ q.sessionId = peer.sessionId) :
    selectRxPeer env ctx q ≠ none := by
  obtain ⟨base, peer, hget, _⟩ := transportGetOrCreatePeer_calm halloc hwindow q.peerKey
  unfold selectRxPeer transportPrepareRxPeer
  by_cases hzero : q.sessionId = 0
  · rw [if_pos (by simp [hzero])]
    dsimp only [transportTouchPeer, transportOrderPeer]
    rw [hget]
    simp
  rw [if_neg (by simp [hzero])]
  cases hlook : lookupPeer ctx.peers q.peerKey with
  | some found =>
    have hsame := (hsession found hlook).resolve_left hzero
    dsimp only
    rw [if_neg (by simp [hsame])]
    simp [transportTouchPeer, transportOrderPeer]
  | none =>
    dsimp only
    rw [hget]
    simp [transportTouchPeer, transportOrderPeer]

/-- The outcomes of a data packet that is the next one of its peer: refused for its
session, or acknowledged and delivered. -/
inductive DataReceived (node : Node) (q : Packet) (payload : Bytes) :
    XglError × Node × List Bytes → Prop where
  | refused (peer : PeerState) (hlook : lookupPeer node.transport.peers q.peerKey = some peer)
      (hsession : q.sessionId ≠ 0 ∧ q.sessionId ≠ peer.sessionId) (err : XglError)
      (after : TransportCtx) (hpeers : after.peers = node.transport.peers)
      (hquiet : Quiet node.transport after) :
      DataReceived node q payload (err, { node with transport := after }, [])
  | taken (selected : TransportCtx) (peer : PeerState)
      (hsel : RxSelected node.transport q selected peer) (after : TransportCtx)
      (hupdate : PeerUpdate node.transport.peers after.peers
        { rxOrderInit peer with rxNextPacketNumber := q.packetNumber + 1 })
      (hsteady : Steady node.transport after)
      (hdelivered : rxDeliveries after.io.events
        = rxDeliveries node.transport.io.events ++ [(q.peerKey, payload)]) :
      DataReceived node q payload
        (.ok, { node with transport := after },
          [wireFrame (ackPacket node.transport.config q.feedbackScope q.packetNumber)
            (ackExtensions q.packetNumber)])

/-- Selecting a peer keeps what is fixed. -/
theorem RxSelected.steady {ctx selected : TransportCtx} {peer : PeerState}
    (h : RxSelected ctx q selected peer) : Steady ctx selected := by
  cases h <;> exact ⟨rfl, rfl⟩

/-- The expected packet of a peer without buffered packets. -/
theorem rxReliable_next (h : CalmNode node me other) (clock : Nat → UInt32)
    {config : TransportConfig} (hconfig : config = node.transport.config)
    (manager : Option FragmentManager) (io : TransportIo) {peer : PeerState} {connection n : UInt32}
    {payload : Bytes} (hq : DataArrival q other connection n payload)
    (hbuffered : peer.rxBuffered = [])
    (hnext : q.packetNumber = (rxOrderInit peer).rxNextPacketNumber) :
    let out := rxReliable (node.env clock) config manager io peer q payload
    let ack := ackPacket config q.feedbackScope q.packetNumber
    out.1 = .ok ∧
      out.2.2.1.events = io.events ++
        [.layerSend ack .ok, .rxCallback q.sourceId q.dataType payload q] ∧
      out.2.2.2 = { rxOrderInit peer with rxNextPacketNumber := q.packetNumber + 1 } ∧
      node.frames [.layerSend ack .ok] = [wireFrame ack (ackExtensions q.packetNumber)] := by
  subst hconfig
  have htarget : (ackPacket node.transport.config q.feedbackScope q.packetNumber).targetId
      = other := hq.sourceId
  have hshort : (ackExtensions q.packetNumber).length +
      ((ackPacket node.transport.config q.feedbackScope q.packetNumber).payload?.getD []).length
        ≤ 15 := by
    unfold ackExtensions
    rw [List.length_cons, List.length_cons, length_ackValue]
    change 15 + 0 ≤ 15
    omega
  have hsource : q.feedbackScope.targetId ≠ 0 := by
    change q.sourceId ≠ 0
    rw [hq.sourceId]
    exact h.otherValid
  obtain ⟨hok, hevents, hframe⟩ := h.transportLowerSend_short clock
    (ackPacket_encodable q.feedbackScope q.packetNumber
      (by rw [h.transportId]; exact h.meValid.1) hsource) htarget hshort io
  intro out ack
  -- the payload of such a packet is not compressed
  have hdecode : transportDecodeData node.transport.config q payload = payload := by
    unfold transportDecodeData
    rw [if_pos (by simp [hq.compress])]
  have hempty : (rxOrderInit peer).rxBuffered = [] := by
    unfold rxOrderInit
    split <;> exact hbuffered
  -- nor is it a fragment, so it goes straight to the callback
  have hdeliver : ∀ io', transportDeliverPacket (node.env clock) node.transport.config manager io'
      q payload = (.ok, manager, io'.emit (.rxCallback q.sourceId q.dataType payload q)) := by
    intro io'
    unfold transportDeliverPacket emitRx
    rw [if_pos h.rx]
    cases manager with
    | none => rfl
    | some manager => exact if_neg (by simp [hq.fragment])
  have hout : out = (.ok, manager,
      ((transportLowerSend (node.env clock) node.transport.config io ack).2.emit
        (.rxCallback q.sourceId q.dataType payload q)),
      { rxOrderInit peer with rxNextPacketNumber := q.packetNumber + 1 }) := by
    unfold out
    rw [rxReliable_expected _ _ _ _ _ hnext, hdecode, hdeliver]
    dsimp only
    unfold transportDrainRxBuffered
    dsimp only
    rw [hempty]
    rfl
  rw [hout]
  refine ⟨rfl, ?_, rfl, hframe⟩
  rw [TransportIo.emit_events, hevents, List.append_assoc]
  rfl

/-- Every data packet that is the next one of its peer ends in one of the
outcomes. -/
theorem nodeReceive_data (h : CalmNode node me other) (clock : Nat → UInt32)
    {connection n : UInt32} {payload : Bytes}
    (hup : xglNetworkReceive node.network true frame frame.length = .deliver q)
    (hq : DataArrival q other connection n payload)
    (hnext : ∀ selected peer, RxSelected node.transport q selected peer →
      peer.rxBuffered = [] ∧ q.packetNumber = (rxOrderInit peer).rxNextPacketNumber) :
    DataReceived node q payload (nodeReceive clock node frame) := by
  rw [nodeReceive_eq clock hup]
  unfold xglTransportReceive
  rw [if_neg (by simp [hq.packetType, XGL_PACKET_TYPE_DATA, XGL_PACKET_TYPE_CONTROL]),
    if_neg (by simp [hq.packetType, hq.reliable, XGL_PACKET_TYPE_DATA, XGL_PACKET_TYPE_ACK,
      XGL_RELIABILITY_ACK_ELICITING, XGL_RELIABILITY_ACK_ONLY]), hq.payload]
  dsimp only
  rcases transportReceiveData_cases (node.env clock) node.transport q payload hq.reliable with
    ⟨err, session, io, hne, hevents, hnone, heq⟩ | ⟨selected, peer, hsel, hselect, heq⟩
  -- no peer could be selected, and for want of memory that cannot be
  · rw [heq]
    dsimp only
    rw [Node.advance_eq node (by rw [List.append_nil]; exact hevents)]
    -- only a foreign session can refuse the packet
    by_cases hsession : ∀ peer, lookupPeer node.transport.peers q.peerKey = some peer →
        q.sessionId = 0 ∨ q.sessionId = peer.sessionId
    · exact absurd hnone (selectRxPeer_calm (fun _ => rfl) h.window hsession)
    · push Not at hsession
      obtain ⟨peer, hlook, hforeign⟩ := hsession
      exact .refused peer hlook hforeign err _ rfl ⟨⟨rfl, rfl⟩, congrArg rxDeliveries hevents⟩
  · rw [heq, transportReceiveReliable_eq]
    obtain ⟨hbuffered, hexpected⟩ := hnext selected peer hsel
    obtain ⟨hok, hevents, hpeer, hframe⟩ := rxReliable_next h clock hsel.steady.config
      selected.fragmentMgr selected.io hq hbuffered hexpected
    dsimp only
    generalize rxReliable (node.env clock) selected.config selected.fragmentMgr selected.io peer q
      payload = out at hok hevents hpeer ⊢
    obtain ⟨err, manager, io, after⟩ := out
    dsimp only at hok hevents hpeer ⊢
    subst hok hpeer
    rw [hsel.frame.1] at hevents
    rw [Node.advance_eq node hevents]
    have hframes : node.frames [.layerSend (ackPacket selected.config q.feedbackScope
          q.packetNumber) .ok, .rxCallback q.sourceId q.dataType payload q]
        = [wireFrame (ackPacket node.transport.config q.feedbackScope q.packetNumber)
            (ackExtensions q.packetNumber)] := by
      rw [hsel.steady.config] at hframe ⊢
      rw [← hframe]
      exact (Node.frames_append node [_] [_]).trans (List.append_nil _)
    rw [hframes]
    refine .taken selected peer hsel _ ?_ ⟨hsel.steady.config, hsel.steady.window⟩ ?_
    · obtain ⟨hentry, hothers⟩ := hsel.lookup
      exact PeerUpdate.put ⟨hentry, hothers⟩ (rxOrderInit_key peer)
    · dsimp only
      rw [hevents, rxDeliveries_append]
      rfl

/-- A HELLO puts nothing on the wire. -/
theorem nodeReceive_hello (clock : Nat → UInt32) {source : UInt16} {connection : UInt32}
    (hup : xglNetworkReceive node.network true frame frame.length = .deliver q)
    (hq : HelloArrival q source connection) :
    ∃ after, (nodeReceive clock node frame).2 = ({ node with transport := after }, []) ∧
      ControlEffect node.transport q after ∧ Quiet node.transport after := by
  rw [nodeReceive_eq clock hup]
  unfold xglTransportReceive
  rw [if_pos (by simp [hq.packetType])]
  have heffect := transportProcessControlPacket_cases (node.env clock) node.transport q
  generalize transportProcessControlPacket (node.env clock) node.transport q = out at heffect ⊢
  obtain ⟨err, after⟩ := out
  have hevents : after.io.events = node.transport.io.events ∧ Steady node.transport after := by
    cases heffect with
    | refused session io hevents => exact ⟨hevents, rfl, rfl⟩
    | reset hsid peer hlook hreset now io hevents => exact ⟨hevents, rfl, rfl⟩
    | established hsid peer hlook hsession now io hevents => exact ⟨hevents, rfl, rfl⟩
    | created hsid hlook window hwindow manager now io peer hevents hpeer =>
      exact ⟨hevents, rfl, hwindow⟩
  refine ⟨after, ?_, heffect, hevents.2, congrArg rxDeliveries hevents.1⟩
  dsimp only
  rw [Node.advance_eq node (by rw [List.append_nil]; exact hevents.1)]
  rfl

/-- The peer behind an ACK of one number. -/
structure AckedPeer (n : UInt32) (source : UInt16) (peer after : PeerState) : Prop where
  frame : ∃ window queue deadline, after = { peer with
    txWindow := window, reliableQueue := queue, earliestDeadlineMs := deadline }
  next : after.txWindow.nextPacketNumber = peer.txWindow.nextPacketNumber
  queue : after.reliableQueue.waitAckList
    = reliableUnlink n source peer.reliableQueue.waitAckList

/-- An ACK of one number takes that number off the queue and emits nothing. -/
theorem transportApplyAck_single (env : TransportEnv) (ctx : TransportCtx) (peer : PeerState)
    {n : UInt32} (hext : q.extensions = ackExtensions n) :
    AckedPeer n q.sourceId peer (transportApplyAck env ctx peer q).peer ∧
      (transportApplyAck env ctx peer q).ctx.io = ctx.io := by
  have hspec := transportApplyAck_spec env ctx peer q
  suffices hrange : (transportApplyAck env ctx peer q).peer.reliableQueue.waitAckList
      = reliableUnlink n q.sourceId peer.reliableQueue.waitAckList ∧
        (transportApplyAck env ctx peer q).ctx.io = ctx.io from
    ⟨⟨hspec.peerFrame, hspec.windows.peer.next, hrange.1⟩, hrange.2⟩
  have hwalk : wireExts (ackExtensions n) (ackExtensions n).length
      = ([{ type := XGL_WIRE_EXT_ACK_RANGE, value := ackValue n }], .notFound) :=
    wireExts_single XGL_WIRE_EXT_ACK_RANGE (ackValue n) (by decide)
      (by rw [length_ackValue]; omega)
  have htry : transportTryProcessAckRangeExt ctx peer q.sourceId q.extensions
      = transportProcessAckRange ctx peer q.sourceId
        { largestAck := n, ackDelayUs := 0, ranges := [{ gap := 0, length := 1 }] } := by
    unfold transportTryProcessAckRangeExt
    rw [hext, hwalk]
    dsimp only
    rw [List.find?_cons_of_pos (by rfl)]
    dsimp only
    rw [xglWireDecodeAckRangeExtValue_ackValue]
  unfold transportApplyAck
  rw [htry]
  unfold transportProcessAckRange xglReliableRemoveAckRanges
  dsimp only
  rw [ackRangeNumbers_single]
  unfold reliableRemoveNumbers reliableRemoveNumbers
  dsimp only
  split
  · exact ⟨rfl, rfl⟩
  · exact ⟨rfl, rfl⟩

/-- The outcomes of an ACK of one number. -/
inductive AckReceived (node : Node) (q : Packet) (n : UInt32) :
    XglError × Node × List Bytes → Prop where
  | ignored (hwhy : ∀ peer, transportFindAckPeer node.transport.peers q = some peer →
      q.sessionId ≠ 0 ∧ q.sessionId ≠ peer.sessionId) (err : XglError) :
      AckReceived node q n (err, node, [])
  | applied (peer : PeerState) (hfind : transportFindAckPeer node.transport.peers q = some peer)
      (hsession : q.sessionId = 0 ∨ q.sessionId = peer.sessionId) (err : XglError)
      (after : TransportCtx) (peer' : PeerState) (hacked : AckedPeer n q.sourceId peer peer')
      (hupdate : PeerUpdate node.transport.peers after.peers peer')
      (hquiet : Quiet node.transport after) :
      AckReceived node q n (err, { node with transport := after }, [])

/-- Every ACK of one number ends in one of the outcomes. -/
theorem nodeReceive_ack (clock : Nat → UInt32) {source : UInt16} {connection n : UInt32}
    (hup : xglNetworkReceive node.network true frame frame.length = .deliver q)
    (hq : AckArrival q source connection n) :
    AckReceived node q n (nodeReceive clock node frame) := by
  rw [nodeReceive_eq clock hup]
  unfold xglTransportReceive
  rw [if_neg (by simp [hq.packetType, XGL_PACKET_TYPE_ACK, XGL_PACKET_TYPE_CONTROL]),
    if_pos (by simp [hq.packetType])]
  unfold transportProcessAckPacket
  rw [if_neg (by simp [hq.packetType])]
  have hidle : ∀ err, (∀ peer, transportFindAckPeer node.transport.peers q = some peer →
      q.sessionId ≠ 0 ∧ q.sessionId ≠ peer.sessionId) →
      AckReceived node q n (err, node.advance node.transport) := by
    intro err hwhy
    rw [Node.advance_eq node (List.append_nil _).symm]
    exact .ignored hwhy err
  -- an ACK is ignored without a peer, and for a peer of another session
  cases hfind : transportFindAckPeer node.transport.peers q with
  | none => exact hidle _ fun peer h => by rw [hfind] at h; cases h
  | some peer =>
    dsimp only
    split
    · rename_i hsession
      simp only [Bool.and_eq_true, bne_iff_ne] at hsession
      refine hidle _ fun other hother => ?_
      rw [hfind] at hother
      cases hother
      exact hsession
    rename_i hsession
    have hne : q.extensions.isEmpty = false := by
      rw [hq.extensions]
      rfl
    rw [if_neg (by simp [hq.flags, hne])]
    obtain ⟨hacked, hio⟩ := transportApplyAck_single (node.env clock) node.transport peer
      hq.extensions
    have hspec := transportApplyAck_spec (node.env clock) node.transport peer q
    generalize transportApplyAck (node.env clock) node.transport peer q = applied
      at hacked hio hspec ⊢
    have hentry := peerOf_of_transportFindAckPeer hfind
    obtain ⟨window, io, hctx⟩ := hspec.ctxFrame
    have hkey : applied.peer.key = peer.key := by
      obtain ⟨window, queue, deadline, hpeer⟩ := hacked.frame
      rw [hpeer]
      rfl
    have hevents : (applied.ctx.put applied.peer).io.events = node.transport.io.events ++ [] := by
      rw [List.append_nil]
      exact congrArg TransportIo.events hio
    dsimp only
    rw [Node.advance_eq node hevents]
    simp only [Bool.and_eq_true, bne_iff_ne, not_and, not_not] at hsession
    refine .applied peer hfind (or_iff_not_imp_left.mpr hsession) applied.error _ applied.peer
      hacked ?_ ⟨⟨?_, hspec.windows.ctx.size⟩, ?_⟩
    · unfold TransportCtx.put
      rw [show applied.ctx.peers = node.transport.peers by rw [hctx]]
      exact PeerUpdate.of_put hentry hkey
    · change applied.ctx.config = node.transport.config
      rw [hctx]
    · exact congrArg rxDeliveries (congrArg TransportIo.events hio)

end Receive

/-! ### What is on the wire -/

/-- A frame as the other node reads it. -/
inductive Item where
  | hello (connection : UInt32)
  | data (connection n : UInt32) (payload : Bytes)
  | ack (connection n : UInt32)
  deriving DecidableEq

/-- The frame is read as the item, from node `source`. -/
def Item.Arrives (net : NetworkCtx) (source : UInt16) (frame : Bytes) : Item → Prop
  | .hello connection => Carries net frame fun q => HelloArrival q source connection
  | .data connection n payload =>
    Carries net frame fun q => DataArrival q source connection n payload
  | .ack connection n => Carries net frame fun q => AckArrival q source connection n

/-- The connection a request travels under when its peer has the session. -/
def streamOf (connectionId : UInt32) (sessionId : UInt16) : UInt32 :=
  if connectionId != 0 then connectionId else sessionId.toUInt32

section Wire

variable {node far : Node} {me other : UInt16} {txData : TxData}

/-- The greeting is read as a HELLO of the peer's scope. -/
theorem greeting_arrives (h : CalmNode node me other) (hfar : CalmNode far other me)
    (hrequest : PlainRequest node.transport.config other txData) (peer : PeerState) :
    List.Forall₂ (fun frame item => Item.Arrives far.network me frame item)
      (greeting node.transport.config txData peer)
      (if peer.helloSent then [] else [.hello (streamOf peer.connectionId peer.sessionId)]) := by
  unfold greeting
  split
  · exact .nil
  · have harrives := hello_arrives
      { targetId := txData.targetId
        sessionId := peer.sessionId
        connectionId := peer.connectionId
        sessionEpoch := peer.sessionEpoch }
      (by rw [h.transportId]; exact h.meValid.1)
      (by dsimp only; rw [hrequest.target]; exact h.otherValid)
      (by dsimp only; rw [hrequest.target, hfar.networkId]) hfar.upper
      (by rw [h.transportId]; exact h.meValid.2)
      (by dsimp only; rw [h.transportId, hrequest.target]; exact h.distinct)
    rw [h.transportId] at harrives
    exact .cons harrives .nil

/-- The data frame is read as the payload under its number. -/
theorem dataPacket_arrives (h : CalmNode node me other) (hfar : CalmNode far other me)
    (hrequest : PlainRequest node.transport.config other txData) (peer : PeerState)
    (hpayload : (travelling node.transport.config txData).length ≤ 65535) :
    Item.Arrives far.network me
      (wireFrame (dataPacket node.transport.config txData peer) (dataExtensions txData.dataType))
      (.data (streamOf txData.connectionId peer.sessionId) peer.txWindow.nextPacketNumber
        (travelling node.transport.config txData)) := by
  have harrives := data_arrives peer
    hrequest.reliable (travelling node.transport.config txData) peer.txWindow.nextPacketNumber
    (by rw [h.transportId]; exact h.meValid.1) (by rw [hrequest.target]; exact h.otherValid)
    hpayload (by rw [hrequest.target, hfar.networkId]) hfar.upper
    (by rw [h.transportId]; exact h.meValid.2)
    (by rw [h.transportId, hrequest.target]; exact h.distinct)
  rw [h.transportId] at harrives
  exact harrives

/-- The ACK frame for a packet with a connection is read as an ACK under it. -/
theorem ackPacket_arrives (h : CalmNode node me other) (hfar : CalmNode far other me)
    {q : Packet} (hsource : q.sourceId = other) (hconnection : q.connectionId ≠ 0) :
    Item.Arrives far.network me
      (wireFrame (ackPacket node.transport.config q.feedbackScope q.packetNumber)
        (ackExtensions q.packetNumber))
      (.ack q.connectionId q.packetNumber) := by
  have htarget : q.feedbackScope.targetId = other := hsource
  have harrives := ack_arrives
    q.feedbackScope q.packetNumber (by rw [h.transportId]; exact h.meValid.1)
    (by rw [htarget]; exact h.otherValid) (by rw [htarget, hfar.networkId]) hfar.upper
    (by rw [h.transportId]; exact h.meValid.2)
    (by rw [h.transportId, htarget]; exact h.distinct)
  have hwire : wireConnection (ackPacket node.transport.config q.feedbackScope q.packetNumber)
      = q.connectionId := if_pos (bne_iff_ne.mpr hconnection)
  rw [h.transportId, hwire] at harrives
  exact harrives

end Wire

/-! ### Two calm nodes -/

/-- Two nodes just set up and joined. -/
structure Joined (sys : System) (ids : Side → UInt16) : Prop where
  calm : ∀ side, CalmNode (sys.node side) (ids side) (ids side.other)
  init : ∀ side, xglTransportInit (sys.node side).transport.config
    = .ok (sys.node side).transport
  link : ∀ side, sys.link side = []
  sent : ∀ side, sys.sent side = []

/-- A context just set up: no peers, no events, and the session id of its node. -/
theorem xglTransportInit_ok {config : TransportConfig} {ctx : TransportCtx}
    (h : xglTransportInit config = .ok ctx) :
    ctx.peers = [] ∧ ctx.io.events = [] ∧ ctx.nextSessionId = newSessionId config.localId := by
  unfold xglTransportInit at h
  split at h
  · cases h
  · cases h
    exact ⟨rfl, rfl, rfl⟩

/-- The frames on the way to a node, as it will read them. -/
def Holds (sys : System) (ids : Side → UInt16) (side : Side) (items : List Item) : Prop :=
  List.Forall₂ (fun frame item => Item.Arrives (sys.node side).network (ids side.other) frame item)
    (sys.link side) items

end XgenLink
