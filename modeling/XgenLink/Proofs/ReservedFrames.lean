import XgenLink.Proofs.DeliverOnce
import XgenLink.Proofs.DeliveryRule

/-!
# `XgenLink.Proofs.ReservedFrames`: frames with reserved semantics

The ENCRYPTED flag, the encryption class and the packet types HANDSHAKE, ROUTE, PROBE and CLOSE
are reserved: the protocol names them and the library does not implement them. No layer checks for
them. A frame that carries one is dropped only where any frame would be, and else it is taken for
what the rest of its header says.

So whether such a frame comes to nothing depends on the rest. As an acknowledgement or a control
packet it does, as long as it clears no peer with receive state. As data it is acknowledged and
handed over, and the payload of an encrypted frame is handed over as it came.

* `reservedFields`, `reservedPacket`: a header, and a packet, with reserved semantics.
* `Harmless`: the ways in which a packet of a reserved frame comes to nothing.
* `Harmless.nothing`: and that it does.
* `NothingReserved`, `reserved_rule`: nothing reserved is held, handed over or put into a message.
* `reserved_comes_to_nothing`: runs in which every such packet is harmless.
* `reserved_is_delivered`: an encrypted frame and a PROBE that are acknowledged and handed
  over.
-/

set_option autoImplicit false

namespace XgenLink

/-! ### Reserved frames -/

/-- The header has the ENCRYPTED flag, an encryption class or a reserved packet type. -/
def reservedFields (flags trafficClass packetType : UInt8) : Bool :=
  flags &&& XGL_WIRE_FLAG_ENCRYPTED != 0 || trafficClass &&& XGL_TRAFFIC_ENCRYPTION_MASK != 0 ||
    packetType == XGL_PACKET_TYPE_HANDSHAKE || packetType == XGL_PACKET_TYPE_ROUTE ||
    packetType == XGL_PACKET_TYPE_PROBE || packetType == XGL_PACKET_TYPE_CLOSE

/-- A frame with such a header. -/
def frameReserved (frame : Bytes) : Bool :=
  let header := wireHeaderOfBytes frame
  reservedFields header.flags header.trafficClass header.packetType

/-- The packet of such a frame. -/
def reservedPacket (packet : Packet) : Bool :=
  reservedFields packet.flags packet.trafficClass packet.packetType

/-- The packet that the network layer hands up has the fields of the frame. -/
theorem reservedPacket_eq {ctx : NetworkCtx} {allocOk : Bool} {frame : Bytes} {frameLen : Nat}
    {packet : Packet} (h : xglNetworkReceive ctx allocOk frame frameLen = .deliver packet) :
    reservedPacket packet = frameReserved frame := by
  simp only [xglNetworkReceive] at h
  split at h
  · cases h
  rename_i metadata hmeta
  have hheader : metadata.header = wireHeaderOfBytes frame := by
    simp only [xglNetworkDecodeFrameMetadata] at hmeta
    split at hmeta
    · cases hmeta
    split at hmeta
    · cases hmeta
    rename_i header hdecode
    have hof := (xglWireDecodeHeader_eq_ok.mp hdecode).2.2.2.2.2
    split at hmeta
    · cases hmeta
    split at hmeta
    · cases hmeta
    cases hmeta
    exact hof.symm
  have hpacket : packet = networkLocalPacket metadata := by
    split at h
    · cases h
    split at h
    · simp only [networkDeliverLocal] at h
      split at h
      · cases h
      · cases h
        rfl
    · simp only [networkForwardRemote] at h
      split at h
      · cases h
      split at h
      · cases h
      split at h
      · cases h
      split at h
      · cases h
      split at h
      · cases h
      split at h <;> cases h
  rw [hpacket]
  show reservedFields metadata.header.flags metadata.header.trafficClass metadata.header.packetType
    = _
  rw [hheader]
  rfl

/-! ### One packet -/

/-- The packet is no data packet of the session, and as a control packet it clears no peer
that has taken a packet in order. -/
structure Harmless (ctx : TransportCtx) (packet : Packet) : Prop where
  data : ¬ TakenAsData ctx packet
  control : packet.packetType = XGL_PACKET_TYPE_CONTROL →
    packet.sessionId &&& XGL_SESSION_ID_MASK ≠ 0 →
    ∀ peer, lookupPeer ctx.peers packet.peerKey = some peer → ClearsPeer packet peer →
      peer.rxNextPacketNumber = 0

/-- Nothing is handed over, nothing is acknowledged, and every peer expects the number it
expected before. -/
structure ComesToNothing (before after : TransportCtx) : Prop where
  events : SendsAgain before.io.events after.io.events
  next : ∀ key, nextNumber after key = nextNumber before key

section Packet

variable {env : TransportEnv} {ctx : TransportCtx} {packet : Packet} {peer old : PeerState}

/-- Writing back a peer that expects the same number. -/
theorem nextNumber_put {after : TransportCtx} (hpeers : after.peers = putPeer peer ctx.peers)
    (hsame : peer.key = old.key) (hold : peerOf ctx.peers old.key = some old)
    (hnext : peer.rxNextPacketNumber = old.rxNextPacketNumber) (key : PeerKey) :
    nextNumber after key = nextNumber ctx key := by
  simp only [nextNumber, hpeers, peerOf_putPeer]
  by_cases hkey : peer.key = key
  · rw [if_pos hkey, ← hkey, hsame, hold]
    simp [hnext]
  · rw [if_neg hkey]

/-- A new peer that expects the first number. -/
theorem nextNumber_cons {after : TransportCtx} (hpeers : after.peers = peer :: ctx.peers)
    (hsame : peer.key = packet.peerKey) (hnone : peerOf ctx.peers packet.peerKey = none)
    (hnext : peer.rxNextPacketNumber = 0) (key : PeerKey) :
    nextNumber after key = nextNumber ctx key := by
  simp only [nextNumber, hpeers, peerOf_cons]
  by_cases hkey : peer.key = key
  · rw [if_pos hkey, ← hkey, hsame, hnone]
    simp [hnext]
  · rw [if_neg hkey]

/-- An ACK packet. -/
theorem transportProcessAckPacket_nothing :
    ComesToNothing ctx (transportProcessAckPacket env ctx packet).2 := by
  refine ⟨transportProcessAckPacket_again env ctx packet, fun key => ?_⟩
  have hpeers := transportProcessAckPacket_peers env ctx packet
  cases hfind : transportFindAckPeer ctx.peers packet with
  | none =>
    rw [hfind] at hpeers
    simp only [nextNumber, hpeers, Option.elim_none]
  | some peer =>
    rw [hfind, Option.elim_some] at hpeers
    split at hpeers
    · have hentry := peerOf_of_transportFindAckPeer hfind
      obtain ⟨_, _, _, hframe⟩ := (transportApplyAck_spec env ctx peer packet).peerFrame
      exact nextNumber_put hpeers (transportApplyAck_key env ctx peer packet) hentry
        (by rw [hframe]) key
    · simp only [nextNumber, hpeers]

/-- A control packet that clears no receive state. -/
theorem transportProcessControlPacket_nothing
    (hclear : packet.sessionId &&& XGL_SESSION_ID_MASK ≠ 0 →
      ∀ peer, lookupPeer ctx.peers packet.peerKey = some peer → ClearsPeer packet peer →
        peer.rxNextPacketNumber = 0) :
    ComesToNothing ctx (transportProcessControlPacket env ctx packet).2 := by
  refine ⟨.of_eq transportProcessControlPacket_senders.1, fun key => ?_⟩
  have hcases := transportProcessControlPacket_cases env ctx packet
  generalize (transportProcessControlPacket env ctx packet).2 = after at hcases ⊢
  cases hcases with
  | refused session io hevents => rfl
  | reset hsid peer hlook hreset now io hevents =>
    exact nextNumber_put rfl (resetPeer_key ..) (peerOf_of_lookupPeer hlook)
      (hclear hsid peer hlook hreset).symm key
  | established hsid peer hlook hsession now io hevents =>
    exact @nextNumber_put ctx { peer with sessionEstablished := true, lastActiveMs := now } peer _
      rfl rfl (peerOf_of_lookupPeer hlook) rfl key
  | created hsid hlook window hwindow manager now io peer hevents hpeer hsize =>
    have hnone := peerOf_none_of_lookupPeer hlook
    have hkey : peer.key = packet.peerKey ∧ peer.rxNextPacketNumber = 0 := by
      rcases hpeer with rfl | ⟨_, rfl⟩ <;> exact ⟨freshPeer_key ctx packet, rfl⟩
    exact nextNumber_cons rfl hkey.1 hnone hkey.2 key

/-- Any harmless packet. -/
theorem Harmless.nothing (h : Harmless ctx packet) :
    ComesToNothing ctx (xglTransportReceive env ctx packet).2 := by
  simp only [xglTransportReceive, beq_iff_eq]
  split
  · rename_i htype
    exact transportProcessControlPacket_nothing (h.control htype)
  rename_i hcontrol
  split
  · exact transportProcessAckPacket_nothing
  rename_i hack
  rw [Bool.or_eq_true, not_or, beq_iff_eq, beq_iff_eq] at hack
  split
  · exact ⟨.refl _, fun _ => rfl⟩
  · -- only the session is left to stop it
    have hrefused : SessionRefused ctx packet := by
      by_contra hno
      exact h.data ⟨hcontrol, hack.1, hack.2, hno⟩
    rw [hrefused.receiveData]
    exact ⟨.refl _, fun _ => rfl⟩

end Packet

/-! ### What is accepted -/

/-- No packet of a reserved frame waits on an out-of-order list, was handed to the receive
callback or went into a reassembly buffer. -/
structure NothingReserved (ctx : TransportCtx) : Prop where
  held : ∀ peer ∈ ctx.peers, ∀ b ∈ peer.rxBuffered, reservedPacket b = false
  accepted : ∀ event ∈ ctx.io.events, ∀ origin, acceptedPacket event = some origin →
    reservedPacket origin = false

/-- A delivery accepts its own packet or none. -/
theorem transportDeliverPacket_accepts (env : TransportEnv) (config : TransportConfig)
    (manager : Option FragmentManager) (io : TransportIo) (packet : Packet) (data : Bytes) :
    ∃ new, (transportDeliverPacket env config manager io packet data).2.2.events
        = io.events ++ new ∧ ∀ event ∈ new, acceptedPacket event = some packet := by
  have hrx : ∀ (io : TransportIo) (data : Bytes),
      ∃ new, (emitRx config io packet data).events = io.events ++ new ∧
        ∀ event ∈ new, acceptedPacket event = some packet := by
    intro io data
    simp only [emitRx]
    split
    · exact ⟨_, rfl, fun event hmem => by rw [List.mem_singleton.mp hmem]; rfl⟩
    · exact ⟨[], (List.append_nil _).symm, fun event hmem => absurd hmem List.not_mem_nil⟩
  -- with a manager the packet may be a fragment
  cases manager with
  | none => exact hrx io data
  | some manager =>
    simp only [transportDeliverPacket]
    split
    swap
    · exact hrx io data
    simp only [transportDeliverFragment]
    split
    · exact ⟨[], (List.append_nil _).symm, fun event hmem => absurd hmem List.not_mem_nil⟩
    rename_i ext _
    have hevents := xglFragmentProcessExt_events env io manager (fragmentKey packet ext)
      packet.dataType ext.fragmentOffset ext.messageLen data 0
    generalize xglFragmentProcessExt env io manager (fragmentKey packet ext) packet.dataType
      ext.fragmentOffset ext.messageLen data 0 = processed at hevents
    have hstored : ∃ new, (emitStored processed.2.2 packet processed.1.stored).events
        = io.events ++ new ∧ ∀ event ∈ new, acceptedPacket event = some packet := by
      rw [← hevents]
      simp only [emitStored]
      split
      · exact ⟨_, rfl, fun event hmem => by rw [List.mem_singleton.mp hmem]; rfl⟩
      · exact ⟨[], (List.append_nil _).symm, fun event hmem => absurd hmem List.not_mem_nil⟩
    split
    · obtain ⟨first, hfirst, hall⟩ := hstored
      obtain ⟨second, hsecond, hall'⟩ := hrx (emitStored processed.2.2 packet processed.1.stored)
        (processed.1.complete.getD [])
      refine ⟨first ++ second, by rw [hsecond, hfirst, List.append_assoc], ?_⟩
      intro event hmem
      rcases List.mem_append.mp hmem with hmem | hmem
      · exact hall event hmem
      · exact hall' event hmem
    · exact hstored
    · exact hstored

/-- The events accept nothing reserved, while every packet that is delivered is not. -/
theorem reserved_rule (config : TransportConfig) :
    DeliveryRule config (fun packet => reservedPacket packet = false)
      (fun _ events => ∀ event ∈ events, ∀ origin, acceptedPacket event = some origin →
        reservedPacket origin = false) where
  other := by
    intro manager events event hnone h e he origin horigin
    rcases List.mem_append.mp he with he | he
    · exact h e he origin horigin
    · rw [List.mem_singleton.mp he, hnone] at horigin
      cases horigin
  freed := fun _ h => h
  delivered := by
    intro manager io packet bytes env _ hplain _ h e he origin horigin
    obtain ⟨new, hnew, hall⟩ := transportDeliverPacket_accepts env config manager io packet bytes
    rw [hnew] at he
    rcases List.mem_append.mp he with he | he
    · exact h e he origin horigin
    · rw [hall e he] at horigin
      cases horigin
      exact hplain

/-! ### Runs over byte streams -/

/-- What a node does while it listens: it polls a PHY, or its timers run. -/
inductive ListenAction where
  | poll (poll : DatalinkPoll)
  | run (currentTimeMs : UInt32)

/-- One action. -/
def listenStep (clock : Nat → UInt32) (node : Node) : ListenAction → Node
  | .poll poll => nodePoll clock node poll
  | .run currentTimeMs => (nodeRun clock node currentTimeMs).1

/-- What holds of every event that an action hands to the layers above, in the state in
which they get it. -/
def EachPassedUp (clock : Nat → UInt32) (P : Node → DatalinkEvent → Prop) (node : Node) :
    ListenAction → Prop
  | .poll poll =>
    let received := xglDatalinkReceive node.datalink poll.phyRx poll.currentTimeMs poll.timeoutMs
    Along (nodeUpper clock) P received.2.2 { node with datalink := received.2.1 }
  | .run _ => True

/-- A reserved frame for this node is harmless. -/
def ReservedHarmless (node : Node) (event : DatalinkEvent) : Prop :=
  ∀ frame frameLen packet, event = .upperReceive frame frameLen → frameReserved frame = true →
    xglNetworkReceive node.network true frame frameLen = .deliver packet →
    Harmless node.transport packet

/-- A reserved frame comes to nothing. -/
def ReservedNothing (clock : Nat → UInt32) (node : Node) (event : DatalinkEvent) : Prop :=
  ∀ frame frameLen, event = .upperReceive frame frameLen → frameReserved frame = true →
    ComesToNothing node.transport (nodeUpper clock node event).transport

section Listen

variable {clock : Nat → UInt32} {node : Node}

/-- One event. -/
theorem nodeUpper_reserved {event : DatalinkEvent} (h : NothingReserved node.transport)
    (hharmless : ReservedHarmless node event) :
    NothingReserved (nodeUpper clock node event).transport ∧ ReservedNothing clock node event := by
  have hsame : ComesToNothing node.transport node.transport := ⟨.refl _, fun _ => rfl⟩
  cases event with
  | upperReceive frame frameLen =>
    simp only [ReservedNothing, nodeUpper]
    cases hreceive : xglNetworkReceive node.network true frame frameLen with
    | done error report => exact ⟨h, fun _ _ _ _ => hsame⟩
    | transmitted error phy forward => exact ⟨h, fun _ _ _ _ => hsame⟩
    | deliver packet =>
      have hpacket : frameReserved frame = true → Harmless node.transport packet :=
        fun hreserved => hharmless frame frameLen packet rfl hreserved hreceive
      have hdelivers := @xglTransportReceive_delivers _ _ _ _ (reserved_rule node.transport.config)
        (node.env clock) node.transport packet (fun _ => trivial) ⟨rfl, h.held, h.accepted⟩
        fun htaken => by
          rw [reservedPacket_eq hreceive, Bool.eq_false_iff]
          exact fun hreserved => (hpacket hreserved).data htaken
      refine ⟨⟨hdelivers.held, hdelivers.log⟩, ?_⟩
      intro frame' frameLen' heq hreserved
      cases heq
      exact (hpacket hreserved).nothing
  | _ => exact ⟨h, fun _ _ heq _ => nomatch heq⟩

/-- One action. -/
theorem listenStep_reserved {action : ListenAction} (h : NothingReserved node.transport)
    (hharmless : EachPassedUp clock ReservedHarmless node action) :
    NothingReserved (listenStep clock node action).transport ∧
      NothingReserved node.transport ∧
      EachPassedUp clock (ReservedNothing clock) node action := by
  cases action with
  | poll poll =>
    have hevents : ∀ (node : Node) (event : DatalinkEvent), NothingReserved node.transport →
        ReservedHarmless node event → NothingReserved (nodeUpper clock node event).transport ∧
          ReservedNothing clock node event :=
      fun _ _ h hharmless => nodeUpper_reserved h hharmless
    simp only [EachPassedUp, listenStep, nodePoll] at hharmless ⊢
    generalize xglDatalinkReceive node.datalink poll.phyRx poll.currentTimeMs poll.timeoutMs
      = received at hharmless ⊢
    obtain ⟨hafter, hnothing⟩ := hharmless.keeps
      (fun node : Node => NothingReserved node.transport) hevents received.2.2
      { node with datalink := received.2.1 } h
    exact ⟨hafter, h, hnothing⟩
  | run now =>
    have hdelivers := @xglTransportRun_delivers _ _ _ _ (reserved_rule node.transport.config)
      (node.env clock) node.transport now ⟨rfl, h.held, h.accepted⟩
    exact ⟨⟨hdelivers.held, hdelivers.log⟩, h, trivial⟩

end Listen

/-- Whatever bytes a node receives, in whatever state it starts that holds nothing reserved:
when every reserved frame for the node is harmless where it is received, each of them comes
to nothing, and in no state on the way is one held, handed over or part of a message. -/
theorem reserved_comes_to_nothing (clock : Nat → UInt32) (node : Node)
    (hstart : NothingReserved node.transport) (actions : List ListenAction)
    (hharmless : Along (listenStep clock) (EachPassedUp clock ReservedHarmless) actions node) :
    NothingReserved (actions.foldl (listenStep clock) node).transport ∧
      Along (listenStep clock) (fun node action => NothingReserved node.transport ∧
        EachPassedUp clock (ReservedNothing clock) node action) actions node :=
  hharmless.keeps (fun node : Node => NothingReserved node.transport)
    (fun _ _ h hstep => listenStep_reserved h hstep) actions node hstart

/-! ### A node without authentication -/

/-- A fresh node with a route to node 1. -/
def openNode : Node where
  transport :=
    { config := { localId := 2 }
      nextSessionId := 2
      window := freshWindow 8 }
  network :=
    { localId := 2
      routeTable := [{ targetId := 1, phy := some { id := 0, tx := some fun _ => .ok }
                       maxFrameSize := 256 }] }
  datalink :=
    { parser :=
        { state := .magic, cache := List.replicate 32 0, cacheSize := 32, cacheLen := 0, index := 0
          timestamp := 0, expectedHeaderLen := 0, expectedPayloadLen := 0,
          expectedAuthTagLen := 0 } }

/-- A reliable data frame of node 1 with the ENCRYPTED flag and class, and payload 7. -/
def encryptedFrame : Bytes :=
  [165, 90, 2, 24, 1, 9, 8, 72, 1, 0, 2, 0, 5, 0, 0, 0, 0, 0, 0, 0, 1, 0, 141, 72, 7, 111, 140]

/-- A PROBE of node 1 with payload 8. -/
def probeFrame : Bytes :=
  [165, 90, 2, 24, 6, 0, 8, 0, 1, 0, 2, 0, 5, 0, 0, 0, 1, 0, 0, 0, 1, 0, 144, 184, 8, 203, 135]

/-- A data frame with the ENCRYPTED flag, in the class of acknowledgements. -/
def encryptedAckFrame : Bytes :=
  [165, 90, 2, 24, 1, 8, 8, 136, 1, 0, 2, 0, 5, 0, 0, 0, 0, 0, 0, 0, 1, 0, 224, 136, 9, 46, 120]

/-- The node reads these bytes. -/
def readBytesAction (bytes : Bytes) : ListenAction :=
  .poll { phyRx := some (.ok bytes), currentTimeMs := 1, timeoutMs := 1000 }

/-- The encrypted frame in the class of acknowledgements comes to nothing. -/
theorem encrypted_ack_comes_to_nothing :
    xglTransportInit { localId := 2 } = .ok openNode.transport ∧
      frameReserved encryptedAckFrame = true ∧
      NothingReserved ([readBytesAction encryptedAckFrame].foldl (listenStep fun _ => 0)
        openNode).transport ∧
      Along (listenStep fun _ => 0) (fun node action => NothingReserved node.transport ∧
        EachPassedUp (fun _ => 0) (ReservedNothing fun _ => 0) node action)
        [readBytesAction encryptedAckFrame] openNode := by
  refine ⟨rfl, by decide, reserved_comes_to_nothing (fun _ => 0) openNode ?_ _ ⟨?_, trivial⟩⟩
  · exact ⟨fun peer hpeer => (nomatch hpeer), fun event hevent => (nomatch hevent)⟩
  have hevents : (xglDatalinkReceive openNode.datalink (some (.ok encryptedAckFrame)) 1 1000).2.2
      = [.upperReceive (encryptedAckFrame ++ List.replicate 5 0) 27] := by decide +kernel
  have hpacket : xglNetworkReceive openNode.network true
      (encryptedAckFrame ++ List.replicate 5 0) 27
      = .deliver { sourceId := 1, targetId := 2, sessionId := 5, connectionId := 5,
                   packetType := XGL_PACKET_TYPE_DATA, flags := 8,
                   reliable := XGL_RELIABILITY_ACK_ONLY, ttl := 8, trafficClass := 136,
                   data := some { data := some [9] } } := by decide +kernel
  simp only [EachPassedUp, readBytesAction, hevents]
  refine ⟨?_, trivial⟩
  intro frame frameLen packet heq _ hreceive
  cases heq
  rw [show ({ openNode with datalink := (xglDatalinkReceive openNode.datalink
      (some (.ok encryptedAckFrame)) 1 1000).2.1 } : Node).network = openNode.network from rfl,
    hpacket] at hreceive
  cases hreceive
  exact ⟨fun htaken => htaken.ackOnly rfl, fun hcontrol => absurd hcontrol (by decide)⟩

/-- The node reads an encrypted frame and a PROBE: both payloads are handed over, the first
is acknowledged, and the peer expects the next number. -/
theorem reserved_is_delivered :
    xglTransportInit { localId := 2 } = .ok openNode.transport ∧
      frameReserved encryptedFrame = true ∧ frameReserved probeFrame = true ∧
      rxPayloads (listenStep (fun _ => 0) openNode
        (readBytesAction (encryptedFrame ++ probeFrame))).transport.io.events = [[7], [8]] ∧
      Acknowledged (listenStep (fun _ => 0) openNode
        (readBytesAction encryptedFrame)).transport.io.events 0 ∧
      nextNumber openNode.transport (scopedKey 1 5 0) = 0 ∧
      nextNumber (listenStep (fun _ => 0) openNode
        (readBytesAction encryptedFrame)).transport (scopedKey 1 5 0) = 1 := by
  refine ⟨rfl, by decide, by decide, by decide +kernel, ?_, by decide +kernel, by decide +kernel⟩
  refine ⟨ackPacket { localId := 2 }
      { targetId := 1, sessionId := 5, connectionId := 5, sessionEpoch := 0 } 0, .ok, ?_,
    packetCovers_ackPacket.mpr rfl⟩
  have hfirst : (listenStep (fun _ => 0) openNode
      (readBytesAction encryptedFrame)).transport.io.events.head?
      = some (.layerSend (ackPacket { localId := 2 }
          { targetId := 1, sessionId := 5, connectionId := 5, sessionEpoch := 0 } 0) .ok) := by
    decide +kernel
  exact List.mem_of_mem_head? hfirst

end XgenLink
