import XgenLink.Proofs.QueueAgreement

/-!
# `XgenLink.Proofs.EventLog`: what a call records is appended

The model records what a transport does as events: a packet handed to the layer below, a payload
handed to the callback, an error report, an allocation. The events of a context are a log.
Whatever a call of the transport does, the events before the call stay in front of those it adds.
So a fact that only asks whether something was recorded cannot be lost.

Acknowledgements and timers record little: packets that are sent again, and error reports.
`SendsAgain` says so, and most facts about deliveries are kept by it at once.

The second half looks at the sending side. Reception clears the queue of a peer at most, and
opens a new peer with an empty one.

* `transportDeliverPacket_grows`, `rxReliable_grows`: the parts of reception.
* `SendsAgain`: what acknowledgements and timers record.
* `SenderFrom`: a queue that comes from before the call, perhaps cleared.
* `transportReceiveData_senders`, `transportProcessControlPacket_senders`: what
  reception does to the sending side of the peers.
-/

set_option autoImplicit false

namespace XgenLink

/-- The reassembly records nothing. -/
theorem xglFragmentProcessExt_events (env : TransportEnv) (io : TransportIo)
    (manager : FragmentManager) (key : MessageKey) (dataType : UInt8)
    (fragmentOffset messageLen : UInt32) (payload : Bytes) (now : UInt32) :
    (xglFragmentProcessExt env io manager key dataType fragmentOffset messageLen payload
      now).2.2.events = io.events := by
  have hstore : ∀ io manager buffer, (fragmentStore env io manager buffer dataType fragmentOffset
      messageLen payload now).2.2.events = io.events := by
    intro io manager buffer
    simp only [fragmentStore]
    split
    · rfl
    · split
      · rfl
      · split <;> split <;> rfl
  have hcreate : (fragmentCreateReassemblyBuffer env io manager key dataType
      messageLen).2.2.events = io.events := by
    simp only [fragmentCreateReassemblyBuffer]
    split
    · rfl
    split
    · rfl
    split
    · rfl
    split
    · simp
    split <;> simp
  simp only [xglFragmentProcessExt]
  -- FRAGMENT_EXT and payload are checked before a buffer is looked for
  split
  · rfl
  split
  · rfl
  split
  · exact hstore _ _ _
  · generalize fragmentCreateReassemblyBuffer env io manager key dataType messageLen = created
      at hcreate
    obtain ⟨result, after, io'⟩ := created
    cases result with
    | error err => exact hcreate
    | ok buffer => exact (hstore io' after buffer).trans hcreate

/-- An equal log begins with the log before. -/
theorem prefix_of_eq {before after : List TransportEvent} (h : after = before) :
    before <+: after :=
  h ▸ List.prefix_rfl

section Calls

variable (env : TransportEnv) (config : TransportConfig) (io : TransportIo)

/-- Handing a packet to the layer below appends. -/
theorem transportLowerSend_grows (packet : Packet) :
    io.events <+: (transportLowerSend env config io packet).2.events := by
  obtain ⟨new, hnew⟩ := transportLowerSend_events_append env config io packet
  rw [hnew]
  exact List.prefix_append _ _

/-- An error report appends. -/
theorem transportReport_grows (error : XglError) (message : String) :
    io.events <+: (transportReport config io error message).events := by
  obtain ⟨new, hnew, _⟩ := transportReport_events config io error message
  rw [hnew]
  exact List.prefix_append _ _

/-- A payload for the callback appends. -/
theorem emitRx_grows (packet : Packet) (data : Bytes) :
    io.events <+: (emitRx config io packet data).events := by
  simp only [emitRx]
  split
  · exact List.prefix_append _ _
  · exact List.prefix_rfl

/-- Delivering a packet, whole or as a fragment. -/
theorem transportDeliverPacket_grows (manager : Option FragmentManager) (packet : Packet)
    (data : Bytes) :
    io.events <+: (transportDeliverPacket env config manager io packet data).2.2.events := by
  cases manager with
  | none => exact emitRx_grows config io packet data
  | some manager =>
    simp only [transportDeliverPacket]
    split
    · simp only [transportDeliverFragment]
      split
      · exact List.prefix_rfl
      rename_i ext _
      have hevents := xglFragmentProcessExt_events env io manager (fragmentKey packet ext)
        packet.dataType ext.fragmentOffset ext.messageLen data 0
      generalize xglFragmentProcessExt env io manager (fragmentKey packet ext) packet.dataType
        ext.fragmentOffset ext.messageLen data 0 = processed at hevents
      have hstored : io.events <+:
          (emitStored processed.2.2 packet processed.1.stored).events := by
        rw [← hevents]
        simp only [emitStored]
        split
        · exact List.prefix_append _ _
        · exact List.prefix_rfl
      split
      · exact hstored.trans (emitRx_grows config _ packet _)
      · exact hstored
      · exact hstored
    · exact emitRx_grows config io packet data

/-- Draining the packets that are now in order. -/
theorem transportDrainRxBuffered_grows (manager : Option FragmentManager) (peer : PeerState) :
    io.events <+: (transportDrainRxBuffered env config manager io peer).2.2.1.events := by
  refine drainLoop_rule (fun _ io' _ => io.events <+: io'.events)
    (fun _ io' _ => io.events <+: io'.events) (fun _ _ _ h _ => h) ?_ _ manager io peer
    (le_refl _) List.prefix_rfl
  intro manager' io' peer' buffered after h _
  have hround : io.events <+: (transportSendAck env config
      (transportDeliverPacket env config manager' io' buffered
        (buffered.payload?.getD [])).2.2 buffered.feedbackScope
          buffered.packetNumber).2.events := by
    rw [transportSendAck_eq]
    exact (h.trans (transportDeliverPacket_grows env config io' manager' buffered _)).trans
      (transportLowerSend_grows env config _ _)
  exact ⟨fun _ => hround, fun _ => hround⟩

/-- One reliable data packet. -/
theorem rxReliable_grows (manager : Option FragmentManager) (peer : PeerState) (packet : Packet)
    (data : Bytes) :
    io.events <+: (rxReliable env config manager io peer packet data).2.2.1.events := by
  rcases packetNumber_trichotomy packet.packetNumber (rxOrderInit peer).rxNextPacketNumber with
    hlt | heq | hgt
  · rw [rxReliable_duplicate env config manager io data hlt]
    exact transportLowerSend_grows env config io _
  · rw [rxReliable_expected env config manager io data heq]
    dsimp only
    have hdelivered := (transportLowerSend_grows env config io
      (ackPacket config packet.feedbackScope packet.packetNumber)).trans
      (transportDeliverPacket_grows env config _ manager packet
        (transportDecodeData config packet data))
    generalize transportDeliverPacket env config manager (transportLowerSend env config io
      (ackPacket config packet.feedbackScope packet.packetNumber)).2 packet
      (transportDecodeData config packet data) = delivered at hdelivered
    obtain ⟨err, manager', io'⟩ := delivered
    cases err with
    | ok => exact hdelivered.trans (transportDrainRxBuffered_grows env config io' manager' _)
    | _ => exact hdelivered
  · obtain ⟨err, io', after, _, hevents, heq⟩ := rxReliable_later env config manager io data hgt
    rw [heq, ← hevents]
    exact transportLowerSend_grows env config io' _

end Calls

/-! ### Acknowledgements and timers -/

/-- A packet that is sent and acknowledges nothing, or an error report. -/
def senderEvent : TransportEvent → Bool
  | .layerSend packet _ => packet.reliable != XGL_RELIABILITY_ACK_ONLY
  | .errorCallback _ _ => true
  | _ => false

/-- The log grows by such events only. -/
def SendsAgain (before after : List TransportEvent) : Prop :=
  ∃ new, after = before ++ new ∧ ∀ event ∈ new, senderEvent event = true

/-- Nothing is recorded. -/
theorem SendsAgain.refl (events : List TransportEvent) : SendsAgain events events :=
  ⟨[], (List.append_nil _).symm, fun _ h => nomatch h⟩

/-- The log is the same. -/
theorem SendsAgain.of_eq {before after : List TransportEvent} (h : after = before) :
    SendsAgain before after :=
  h ▸ .refl before

/-- One call behind another. -/
theorem SendsAgain.trans {before mid after : List TransportEvent} (h : SendsAgain before mid)
    (h' : SendsAgain mid after) : SendsAgain before after := by
  obtain ⟨first, rfl, hfirst⟩ := h
  obtain ⟨second, rfl, hsecond⟩ := h'
  refine ⟨first ++ second, List.append_assoc _ _ _, fun event hmem => ?_⟩
  rcases List.mem_append.mp hmem with hmem | hmem
  · exact hfirst event hmem
  · exact hsecond event hmem

section Senders

variable (env : TransportEnv) (config : TransportConfig) (io : TransportIo)

/-- An error report is such an event. -/
theorem transportReport_again (error : XglError) (message : String) :
    SendsAgain io.events (transportReport config io error message).events := by
  simp only [transportReport]
  split
  · exact ⟨_, rfl, fun event hmem => by rw [List.mem_singleton.mp hmem]; rfl⟩
  · exact .refl _

/-- Sending a queued packet again records that packet, which acknowledges nothing. -/
theorem transportRetransmitReliablePacket_again (entry : ReliablePacket) (now : UInt32) :
    SendsAgain io.events
      (transportRetransmitReliablePacket env config io entry now).2.1.events := by
  have hsent : SendsAgain io.events
      (transportLowerSend env config io (retransmitPacket entry)).2.events := by
    simp only [transportLowerSend]
    split
    · exact ⟨_, rfl, fun event hmem => by rw [List.mem_singleton.mp hmem]; rfl⟩
    · exact .refl _
  simp only [transportRetransmitReliablePacket]
  split <;> exact hsent

/-- A packet that a SACK reports missing is sent again. -/
theorem sackRetransmit_again (sourceId : UInt16) (n now : UInt32) (state : SackState) :
    SendsAgain state.io.events
      (sackRetransmit env config sourceId n now state).2.io.events := by
  simp only [sackRetransmit]
  split
  · exact .refl _
  · exact transportRetransmitReliablePacket_again env config state.io _ now

/-- The bits of a SACK. -/
theorem sackLoop_again (sourceId : UInt16) (basePacket now : UInt32) (bitmap : Bytes)
    (indices : List Nat) (state : SackState) :
    SendsAgain state.io.events
      (sackLoop env config sourceId basePacket now bitmap indices state).2.io.events := by
  induction indices generalizing state with
  | nil => exact .refl _
  | cons i rest ih =>
    have hbit : SendsAgain state.io.events
        (sackBitStep env config sourceId basePacket now bitmap state i).2.io.events := by
      simp only [sackBitStep]
      split
      · split <;> exact .refl _
      · exact sackRetransmit_again env config sourceId _ now state
    rw [sackLoop]
    generalize sackBitStep env config sourceId basePacket now bitmap state i = stepped at hbit
    obtain ⟨err, next⟩ := stepped
    cases err with
    | ok => exact hbit.trans (ih next)
    | _ => exact hbit

/-- A SACK record sends packets again and reports errors, no more. -/
theorem transportProcessSackValue_again (ctx : TransportCtx) (peer : PeerState)
    (sourceId : UInt16) (value : Bytes) :
    SendsAgain ctx.io.events
      (transportProcessSackValue env ctx peer sourceId value).2.1.io.events := by
  simp only [transportProcessSackValue]
  split
  · exact .refl _
  split
  · exact .refl _
  split
  · split
    · exact .refl _
    · exact sackRetransmit_again env ctx.config sourceId _ _ _
  · split <;> exact sackLoop_again env ctx.config sourceId _ _ _ _ _

/-- An ACK packet. -/
theorem transportProcessAckPacket_again (ctx : TransportCtx) (packet : Packet) :
    SendsAgain ctx.io.events (transportProcessAckPacket env ctx packet).2.io.events := by
  have hrange : ∀ peer, (transportTryProcessAckRangeExt ctx peer packet.sourceId
      packet.extensions).ctx.io = ctx.io := by
    intro peer
    simp only [transportTryProcessAckRangeExt]
    split
    · split
      · rfl
      · simp only [transportProcessAckRange]
        split <;> rfl
    · rfl
  have hsack : ∀ ctx peer, SendsAgain ctx.io.events (transportTryProcessSackExt env ctx peer
      packet.sourceId packet.extensions).ctx.io.events := by
    intro ctx peer
    simp only [transportTryProcessSackExt]
    split
    · exact transportProcessSackValue_again env ctx peer packet.sourceId _
    · exact .refl _
  have happly : ∀ peer,
      SendsAgain ctx.io.events (transportApplyAck env ctx peer packet).ctx.io.events := by
    intro peer
    have hfurther := hsack (transportTryProcessAckRangeExt ctx peer packet.sourceId
      packet.extensions).ctx (transportTryProcessAckRangeExt ctx peer packet.sourceId
      packet.extensions).peer
    rw [hrange] at hfurther
    simp only [transportApplyAck]
    split
    · exact .of_eq (congrArg TransportIo.events (hrange peer))
    · split <;> exact hfurther
  simp only [transportProcessAckPacket]
  split
  · exact .refl _
  split
  · exact .refl _
  split
  · exact .refl _
  split
  · exact .refl _
  · exact happly _

/-- The retransmission loop. The induction is on the rounds. -/
theorem retransmissionLoop_again (maxRetryCount : UInt8) (now : UInt32) (fuel : Nat)
    (done rest : List ReliablePacket) :
    SendsAgain io.events
      (retransmissionLoop env config maxRetryCount now fuel done rest io).2.events := by
  induction fuel generalizing done rest io with
  | zero => exact .refl _
  | succ fuel ih =>
    cases rest with
    | nil => exact .refl _
    | cons packet rest =>
      simp only [retransmissionLoop]
      split
      · exact ih _ _ _
      split
      · have hreport := transportReport_again config io .ackTimeout "Packet retry count exhausted"
        split <;> exact hreport.trans (ih _ _ _)
      · exact (transportRetransmitReliablePacket_again env config io packet now).trans (ih _ _ _)

/-- The timers change the sending side of the peers. -/
theorem transportProcessRetransmissions_again (now : UInt32) (peers : List PeerState) :
    SendsAgain io.events (transportProcessRetransmissions env config now peers io).2.events ∧
      List.Forall₂ (fun before after => ∃ queue deadline,
          after = { before with reliableQueue := queue, earliestDeadlineMs := deadline })
        peers (transportProcessRetransmissions env config now peers io).1 := by
  induction peers generalizing io with
  | nil => exact ⟨.refl _, .nil⟩
  | cons peer rest ih =>
    obtain ⟨hagain, hrest⟩ := ih (transportRetransmitPeer env config now io peer).2
    refine ⟨.trans ?_ hagain, .cons ⟨_, _, rfl⟩ hrest⟩
    exact retransmissionLoop_again env config io _ now _ _ _

/-- The reassembly timeouts. -/
theorem transportProcessFragmentTimeouts_again (ctx : TransportCtx) (now : UInt32) :
    SendsAgain ctx.io.events (transportProcessFragmentTimeouts ctx now).io.events := by
  simp only [transportProcessFragmentTimeouts]
  split
  · exact .refl _
  · split
    · exact transportReport_again _ _ _ _
    · exact .refl _

end Senders

/-! ### Reception and the sending side -/

/-- The queue of a peer is one of the queues before, perhaps cleared, or that of a new
peer. -/
def SenderFrom (ctx : TransportCtx) (peer : PeerState) : Prop :=
  (∃ old ∈ ctx.peers, peer.reliableQueue.maxRetryCount = old.reliableQueue.maxRetryCount ∧
    (peer.reliableQueue.waitAckList = old.reliableQueue.waitAckList ∨
      peer.reliableQueue.waitAckList = [])) ∨
  peer.reliableQueue = { maxRetryCount := ctx.config.maxRetryCount }

section Reception

variable {env : TransportEnv} {ctx : TransportCtx} {packet : Packet}

/-- A peer that was there, with the queue it had. -/
theorem SenderFrom.same {peer old : PeerState} (hmem : old ∈ ctx.peers)
    (h : peer.reliableQueue = old.reliableQueue) : SenderFrom ctx peer :=
  .inl ⟨old, hmem, by rw [h], .inl (by rw [h])⟩

/-- Replacing one peer. -/
theorem senders_put {peer : PeerState} (h : SenderFrom ctx peer) :
    ∀ other ∈ putPeer peer ctx.peers, SenderFrom ctx other := by
  intro other hother
  rcases mem_putPeer hother with rfl | hmem
  · exact h
  · exact .same hmem rfl

/-- Adding one peer. -/
theorem senders_cons {peer : PeerState} (h : SenderFrom ctx peer) :
    ∀ other ∈ peer :: ctx.peers, SenderFrom ctx other := by
  intro other hother
  rcases List.mem_cons.mp hother with rfl | hmem
  · exact h
  · exact .same hmem rfl

/-- Selecting a peer for reception leaves every queue as it is. -/
theorem RxSelected.senders {selected : TransportCtx} {peer : PeerState}
    (hsel : RxSelected ctx packet selected peer) :
    (∀ other ∈ selected.peers, SenderFrom ctx other) ∧ SenderFrom ctx peer := by
  cases hsel with
  | found old hlook hsession now io hevents =>
    have hpeer : SenderFrom ctx { old with lastActiveMs := now } :=
      .same (peerOf_mem (peerOf_of_lookupPeer hlook)) rfl
    exact ⟨senders_put hpeer, hpeer⟩
  | created hlook hsession now io hevents hsize =>
    have hpeer : SenderFrom ctx (resetPeer (freshPeer ctx packet.peerKey) packet.sessionId now) :=
      .inr rfl
    exact ⟨senders_cons hpeer, hpeer⟩
  | createdBare hlook hsession io hevents hsize =>
    have hpeer : SenderFrom ctx (freshPeer ctx packet.peerKey) := .inr rfl
    exact ⟨senders_cons hpeer, hpeer⟩

/-- A data packet: the log grows and the sending sides stay. -/
theorem transportReceiveData_senders (data : Bytes) :
    let after := (transportReceiveData env ctx packet data).2
    ctx.io.events <+: after.io.events ∧ after.config = ctx.config ∧
      ∀ peer ∈ after.peers, SenderFrom ctx peer := by
  have hkept : ∀ peer ∈ ctx.peers, SenderFrom ctx peer := fun peer hmem => .same hmem rfl
  by_cases hrel : packet.reliable = XGL_RELIABILITY_ACK_ELICITING
  · rcases transportReceiveData_cases env ctx packet data hrel with
      ⟨err, session, io, _, hevents, _, heq⟩ | ⟨selected, peer, hsel, _, heq⟩
    · rw [heq]
      exact ⟨prefix_of_eq hevents, rfl, hkept⟩
    · obtain ⟨hothers, hpeer⟩ := hsel.senders
      obtain ⟨hevents, hconfig⟩ := hsel.frame
      rw [heq, transportReceiveReliable_eq]
      refine ⟨?_, hconfig, ?_⟩
      · rw [← hevents]
        exact rxReliable_grows env selected.config selected.io selected.fragmentMgr peer packet data
      · intro other hother
        rcases mem_putPeer hother with rfl | hmem
        · rw [rxReliable_peer]
          exact hpeer
        · exact hothers other hmem
  · -- an unreliable packet is delivered at once
    have hplain : ∀ selected : TransportCtx,
        selected.io.events <+: (transportDeliverData env selected packet data).2.io.events ∧
          (transportDeliverData env selected packet data).2.config = selected.config ∧
          (transportDeliverData env selected packet data).2.peers = selected.peers :=
      fun selected => ⟨transportDeliverPacket_grows env selected.config selected.io
        selected.fragmentMgr packet _, rfl, rfl⟩
    simp only [transportReceiveData]
    rcases transportPrepareRxPeer_cases env ctx packet with
      ⟨err, session, io, peer, hne, hevents, heq⟩ | ⟨_, heq⟩ |
        ⟨prepared, peer, selected, touched, hsel, heq, htouch⟩
    · rw [heq]
      cases err with
      | ok => exact absurd rfl hne
      | _ => exact ⟨prefix_of_eq hevents, rfl, hkept⟩
    · rw [heq]
      simp only [transportTouchPeer, beq_iff_eq, hrel, if_false]
      obtain ⟨hgrows, hconfig, hpeers⟩ := hplain ctx
      exact ⟨hgrows, hconfig, by rw [hpeers]; exact hkept⟩
    · rw [heq]
      simp only [htouch, beq_iff_eq, hrel, if_false]
      obtain ⟨hgrows, hconfig, hpeers⟩ := hplain selected
      obtain ⟨hevents, hsame⟩ := hsel.frame
      exact ⟨hevents ▸ hgrows, hconfig.trans hsame, by rw [hpeers]; exact hsel.senders.1⟩

/-- A control packet records nothing, and clears at most the queue of its peer. -/
theorem transportProcessControlPacket_senders :
    let after := (transportProcessControlPacket env ctx packet).2
    after.io.events = ctx.io.events ∧ after.config = ctx.config ∧
      ∀ peer ∈ after.peers, SenderFrom ctx peer := by
  have hcases := transportProcessControlPacket_cases env ctx packet
  dsimp only
  generalize (transportProcessControlPacket env ctx packet).2 = after at hcases ⊢
  cases hcases with
  | refused session io hevents => exact ⟨hevents, rfl, fun peer hmem => .same hmem rfl⟩
  | reset hsid peer hlook hreset now io hevents =>
    refine ⟨hevents, rfl, senders_put (.inl ⟨peer, ?_, rfl, .inr rfl⟩)⟩
    exact peerOf_mem (peerOf_of_lookupPeer hlook)
  | established hsid peer hlook hsession now io hevents =>
    exact ⟨hevents, rfl, senders_put (.same (peerOf_mem (peerOf_of_lookupPeer hlook)) rfl)⟩
  | created hsid hlook window hwindow manager now io peer hevents hpeer hsize =>
    refine ⟨hevents, rfl, senders_cons ?_⟩
    rcases hpeer with rfl | ⟨_, rfl⟩
    · exact .inr rfl
    · exact .inr rfl

end Reception

end XgenLink
