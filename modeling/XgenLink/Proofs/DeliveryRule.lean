import XgenLink.Proofs.AckSoundness
import XgenLink.Proofs.ControlScope
import XgenLink.Proofs.EventLog

/-!
# `XgenLink.Proofs.DeliveryRule`: facts about what is delivered

A payload gets to `transport_deliver_packet` with the packet it came in, or from the
out-of-order list when the packets before it are there. Between the two a packet may lie on the
list of its peer for any number of calls. So a fact about deliveries has to be carried along with
the lists.

This module does that once. A fact about the reassembly buffers and the events is kept by
reception and by the timers when one delivery of an accepted packet keeps it. What "accepted"
means is up to the fact: the results about authenticity accept what an honest node sent, those
about reassembly accept the fragments of one message.

* `DeliveryRule`: what a fact has to meet. One delivery keeps it, and so do freed buffers and
  events that accept nothing.
* `Delivers`: it holds, and every packet on an out-of-order list is accepted.
* `DeliveryRule.append`, `.again`, `.lowerSend`, `.cleared`: the writes that deliver nothing.
* `DeliveryRule.drain`, `.reliable`: one peer.
* `xglTransportReceive_delivers`, `xglTransportRun_delivers`: the steps that keep it.
-/

set_option autoImplicit false

namespace XgenLink

/-! ### Facts -/

/-- The bytes that `transport_deliver_packet` is given for a packet: its payload, as it
came or decompressed. -/
def HandedBytes (config : TransportConfig) (packet : Packet) (bytes : Bytes) : Prop :=
  bytes = packet.payload?.getD [] ∨
    bytes = transportDecodeData config packet (packet.payload?.getD [])

/-- A fact about the reassembly buffers and the events that deliveries of accepted packets
keep, and that neither other events nor freeing buffers can break. The clock only shows the times
that are `shown`. -/
structure DeliveryRule (config : TransportConfig) (accepts : Packet → Prop)
    (holds : Option FragmentManager → List TransportEvent → Prop)
    (shown : UInt32 → Prop := fun _ => True) : Prop where
  other : ∀ {manager events} (event : TransportEvent), acceptedPacket event = none →
    holds manager events → holds manager (events ++ [event])
  freed : ∀ {manager events} (test : ReassemblyBuffer → Bool), holds (some manager) events →
    holds (some (fragmentFreeWhere test manager)) events
  delivered : ∀ {manager io packet bytes} (env : TransportEnv),
    (∀ read, shown (env.clock read)) → accepts packet →
    HandedBytes config packet bytes → holds manager io.events →
    holds (transportDeliverPacket env config manager io packet bytes).2.1
      (transportDeliverPacket env config manager io packet bytes).2.2.events

/-- The fact holds, and every packet that waits on an out-of-order list is accepted, so that the
fact goes on holding when the packets on the lists are delivered. -/
structure Delivers (config : TransportConfig) (accepts : Packet → Prop)
    (holds : Option FragmentManager → List TransportEvent → Prop) (ctx : TransportCtx) : Prop where
  config_eq : ctx.config = config
  held : ∀ peer ∈ ctx.peers, ∀ b ∈ peer.rxBuffered, accepts b
  log : holds ctx.fragmentMgr ctx.io.events

section Rule

variable {config : TransportConfig} {accepts : Packet → Prop}
  {holds : Option FragmentManager → List TransportEvent → Prop} {shown : UInt32 → Prop}
  (rule : DeliveryRule config accepts holds shown) {env : TransportEnv}
  {manager : Option FragmentManager} {ctx after : TransportCtx} {peer : PeerState}
  {packet : Packet}

include rule

/-! ### Events that accept nothing -/

/-- Events that accept nothing leave the fact alone. The induction is on the new events. -/
theorem DeliveryRule.append {before new : List TransportEvent}
    (hnew : ∀ event ∈ new, acceptedPacket event = none) (h : holds manager before) :
    holds manager (before ++ new) := by
  induction new generalizing before with
  | nil => rwa [List.append_nil]
  | cons event rest ih =>
    have hfirst := rule.other event (hnew event List.mem_cons_self) h
    rw [show before ++ event :: rest = (before ++ [event]) ++ rest by simp]
    exact ih (fun e he => hnew e (List.mem_cons_of_mem _ he)) hfirst

/-- Acknowledgements and timers record such events only. -/
theorem DeliveryRule.again {before after : List TransportEvent} (hagain : SendsAgain before after)
    (h : holds manager before) : holds manager after := by
  obtain ⟨new, rfl, hnew⟩ := hagain
  refine rule.append (fun event hmem => ?_) h
  have hsender := hnew event hmem
  cases event with
  | rxCallback _ _ _ _ => cases hsender
  | fragmentStored _ => cases hsender
  | layerSend _ _ => rfl
  | errorCallback _ _ => rfl

/-- So does a packet that is sent. -/
theorem DeliveryRule.lowerSend (env : TransportEnv) {io : TransportIo} (sent : Packet)
    (h : holds manager io.events) :
    holds manager (transportLowerSend env config io sent).2.events := by
  simp only [transportLowerSend]
  split
  · rw [xglLayerSend_events]
    exact rule.other _ rfl h
  · exact h

/-- Freeing buffers leaves the fact alone. -/
theorem DeliveryRule.cleared {events : List TransportEvent} (test : ReassemblyBuffer → Bool)
    (h : holds manager events) : holds (manager.map (fragmentFreeWhere test)) events := by
  cases manager with
  | none => exact h
  | some manager => exact rule.freed test h

/-! ### Data packets -/

/-- The drain of the out-of-order list. -/
theorem DeliveryRule.drain {io : TransportIo} (hclock : ∀ read, shown (env.clock read))
    (hheld : ∀ b ∈ peer.rxBuffered, accepts b)
    (h : holds manager io.events) :
    let out := transportDrainRxBuffered env config manager io peer
    holds out.2.1 out.2.2.1.events ∧ ∀ b ∈ out.2.2.2.rxBuffered, accepts b := by
  refine drainLoop_rule
    (fun manager io peer => holds manager io.events ∧ ∀ b ∈ peer.rxBuffered, accepts b)
    (fun manager io peer => holds manager io.events ∧ ∀ b ∈ peer.rxBuffered, accepts b)
    (fun _ _ _ h _ => h) ?_ _ manager io peer (le_refl _) ⟨h, hheld⟩
  intro manager' io' peer' buffered after ⟨hlog, hheld⟩ htake
  obtain ⟨hwalk, _⟩ := transportTakeRxBuffered_some htake
  obtain ⟨hmem, hsub⟩ := takeRxBuffered_mem hwalk
  have hleft : ∀ b ∈ after.rxBuffered, accepts b := fun b hb => hheld b (hsub b hb)
  have hdelivered := rule.delivered env hclock (hheld buffered hmem) (.inl rfl) hlog
  dsimp only
  rw [transportSendAck_eq]
  exact ⟨fun _ => ⟨rule.lowerSend env _ hdelivered, hleft⟩,
    fun _ => ⟨rule.lowerSend env _ hdelivered, hleft⟩⟩

/-- One reliable packet on its peer. -/
theorem DeliveryRule.reliable {io : TransportIo} {data : Bytes}
    (hclock : ∀ read, shown (env.clock read))
    (hheld : ∀ b ∈ peer.rxBuffered, accepts b) (haccepts : accepts packet)
    (hdata : packet.payload? = some data) (h : holds manager io.events) :
    let out := rxReliable env config manager io peer packet data
    holds out.2.1 out.2.2.1.events ∧ ∀ b ∈ out.2.2.2.rxBuffered, accepts b := by
  have hbuffered : (rxOrderInit peer).rxBuffered = peer.rxBuffered := by
    simp only [rxOrderInit]
    split <;> rfl
  rw [← hbuffered] at hheld
  dsimp only
  rcases packetNumber_trichotomy packet.packetNumber (rxOrderInit peer).rxNextPacketNumber with
    hlt | heq | hgt
  -- below the next number: acknowledged again and dropped
  · rw [rxReliable_duplicate env config manager io data hlt]
    exact ⟨rule.lowerSend env _ h, hheld⟩
  -- the next number: delivered, and the list behind it drained
  · rw [rxReliable_expected env config manager io data heq]
    dsimp only
    have hbytes : HandedBytes config packet (transportDecodeData config packet data) :=
      .inr (by rw [hdata, Option.getD_some])
    have hdelivered := rule.delivered env hclock haccepts hbytes
      (rule.lowerSend env (ackPacket config packet.feedbackScope packet.packetNumber) h)
    generalize transportDeliverPacket env config manager (transportLowerSend env config io
      (ackPacket config packet.feedbackScope packet.packetNumber)).2 packet
      (transportDecodeData config packet data) = delivered at hdelivered
    obtain ⟨err, manager', io'⟩ := delivered
    cases err with
    | ok => exact rule.drain hclock hheld hdelivered
    | _ => exact ⟨hdelivered, hheld⟩
  -- above it: put on the list, refused, or on it already
  · obtain ⟨err, io', after, houtcome, hevents, heq⟩ :=
      rxReliable_later env config manager io data hgt
    rw [heq]
    refine ⟨rule.lowerSend env _ (hevents ▸ h), ?_⟩
    cases houtcome with
    | refused err herr => exact hheld
    | present hfound => exact hheld
    | inserted bytes hbytes hne hnew =>
      intro b hb
      rcases mem_transportInsertRxBuffered.mp hb with rfl | hb
      · exact haccepts
      · exact hheld b hb

omit rule in
/-- Writing a peer back. -/
theorem held_put {peers : List PeerState}
    (h : ∀ other ∈ peers, ∀ b ∈ other.rxBuffered, accepts b)
    (hpeer : ∀ b ∈ peer.rxBuffered, accepts b) :
    ∀ other ∈ putPeer peer peers, ∀ b ∈ other.rxBuffered, accepts b := by
  intro other hother
  rcases mem_putPeer hother with rfl | hmem
  · exact hpeer
  · exact h other hmem

/-- Selecting the peer of a data packet. -/
theorem RxSelected.delivers (hsel : RxSelected ctx packet after peer)
    (h : Delivers config accepts holds ctx) :
    Delivers config accepts holds after ∧ ∀ b ∈ peer.rxBuffered, accepts b := by
  cases hsel with
  | found old hlook hsession now io hio =>
    have hold : ∀ b ∈ old.rxBuffered, accepts b :=
      h.held old (peerOf_mem (peerOf_of_lookupPeer hlook))
    exact ⟨⟨h.config_eq, held_put h.held hold, hio ▸ h.log⟩, hold⟩
  | created hlook hsession now io hio hsize =>
    refine ⟨⟨h.config_eq, ?_, hio ▸ rule.cleared _ h.log⟩, fun _ hb => nomatch hb⟩
    exact List.forall_mem_cons.mpr ⟨fun _ hb => (nomatch hb), h.held⟩
  | createdBare hlook hsession io hio hsize =>
    refine ⟨⟨h.config_eq, ?_, hio ▸ h.log⟩, fun _ hb => nomatch hb⟩
    exact List.forall_mem_cons.mpr ⟨fun _ hb => (nomatch hb), h.held⟩

/-- A data packet that is delivered at once. -/
theorem Delivers.direct {data : Bytes} (hclock : ∀ read, shown (env.clock read))
    (h : Delivers config accepts holds ctx)
    (haccepts : accepts packet) (hdata : packet.payload? = some data) :
    Delivers config accepts holds (transportDeliverData env ctx packet data).2 := by
  have hbytes : HandedBytes config packet (transportDecodeData config packet data) :=
    .inr (by rw [hdata, Option.getD_some])
  have hdelivered := rule.delivered env hclock haccepts hbytes h.log
  refine ⟨h.config_eq, h.held, ?_⟩
  simp only [transportDeliverData, h.config_eq]
  exact hdelivered

end Rule

/-- The session of the packet is not that of the peer it finds. -/
def SessionRefused (ctx : TransportCtx) (packet : Packet) : Prop :=
  packet.sessionId ≠ 0 ∧ ∃ peer, lookupPeer ctx.peers packet.peerKey = some peer ∧
    packet.sessionId ≠ peer.sessionId

/-- A packet of another session changes nothing. -/
theorem SessionRefused.receiveData {ctx : TransportCtx} {packet : Packet}
    (h : SessionRefused ctx packet) (env : TransportEnv) (data : Bytes) :
    transportReceiveData env ctx packet data = (.sequenceError, ctx) := by
  obtain ⟨hsession, peer, hlook, hne⟩ := h
  simp [transportReceiveData, transportPrepareRxPeer, hsession, hlook, hne]

/-- Whether `xgl_transport_receive` goes on to order and deliver a packet. -/
structure TakenAsData (ctx : TransportCtx) (packet : Packet) : Prop where
  control : packet.packetType ≠ XGL_PACKET_TYPE_CONTROL
  ack : packet.packetType ≠ XGL_PACKET_TYPE_ACK
  ackOnly : packet.reliable ≠ XGL_RELIABILITY_ACK_ONLY
  session : ¬ SessionRefused ctx packet

section Steps

variable {config : TransportConfig} {accepts : Packet → Prop}
  {holds : Option FragmentManager → List TransportEvent → Prop} {shown : UInt32 → Prop}
  (rule : DeliveryRule config accepts holds shown) {env : TransportEnv}
  {ctx : TransportCtx} {packet : Packet}

include rule

/-- A data packet. -/
theorem transportReceiveData_delivers {data : Bytes}
    (hclock : ∀ read, shown (env.clock read)) (h : Delivers config accepts holds ctx)
    (haccepts : accepts packet) (hdata : packet.payload? = some data) :
    Delivers config accepts holds (transportReceiveData env ctx packet data).2 := by
  -- an ACK-eliciting packet goes through the ordering state of its peer
  by_cases hrel : packet.reliable = XGL_RELIABILITY_ACK_ELICITING
  · rcases transportReceiveData_cases env ctx packet data hrel with
      ⟨err, session, io, _, hevents, _, heq⟩ | ⟨selected, peer, hsel, _, heq⟩
    · rw [heq]
      exact ⟨h.config_eq, h.held, hevents ▸ h.log⟩
    · obtain ⟨hselected, hheld⟩ := hsel.delivers rule h
      rw [heq, transportReceiveReliable_eq, hselected.config_eq]
      obtain ⟨hlog, hafter⟩ :=
        @DeliveryRule.reliable _ _ _ _ rule env _ _ _ _ data hclock hheld haccepts
        hdata hselected.log
      exact ⟨rfl, held_put hselected.held hafter, hlog⟩
  -- any other packet is delivered at once
  · simp only [transportReceiveData]
    rcases transportPrepareRxPeer_cases env ctx packet with
      ⟨err, session, io, peer, hne, hevents, heq⟩ | ⟨_, heq⟩ |
        ⟨prepared, peer, selected, touched, hsel, heq, htouch⟩
    · rw [heq]
      cases err with
      | ok => exact absurd rfl hne
      | _ => exact ⟨h.config_eq, h.held, hevents ▸ h.log⟩
    · rw [heq]
      simp only [transportTouchPeer, beq_iff_eq, hrel, if_false]
      exact Delivers.direct rule hclock h haccepts hdata
    · rw [heq]
      simp only [htouch, beq_iff_eq, hrel, if_false]
      exact Delivers.direct rule hclock (hsel.delivers rule h).1 haccepts hdata

/-- A control packet delivers nothing. -/
theorem transportProcessControlPacket_delivers (h : Delivers config accepts holds ctx)
    (htype : packet.packetType = XGL_PACKET_TYPE_CONTROL) :
    Delivers config accepts holds (transportProcessControlPacket env ctx packet).2 := by
  rw [transportProcessControlPacket_eq env ctx htype]
  split
  swap
  · exact h
  -- the peer is cleared or keeps its list
  have hreached : ∀ (selected : TransportCtx) (peer : PeerState) (now : UInt32) (io : TransportIo),
      Delivers config accepts holds selected → (∀ b ∈ peer.rxBuffered, accepts b) →
      io.events = selected.io.events →
      Delivers config accepts holds { controlledCtx packet peer selected with
        io := io
        peers := putPeer (controlledPeer packet peer now) selected.peers } := by
    intro selected peer now io hselected hpeer hevents
    have hbuffered : ∀ b ∈ (controlledPeer packet peer now).rxBuffered, accepts b := by
      simp only [controlledPeer]
      split
      · exact fun _ hb => nomatch hb
      · exact hpeer
    refine ⟨?_, held_put hselected.held hbuffered, ?_⟩
    · simp only [controlledCtx]
      split <;> exact hselected.config_eq
    · dsimp only
      rw [hevents]
      simp only [controlledCtx]
      split
      · exact rule.cleared _ hselected.log
      · exact hselected.log
  have hcases := transportGetOrCreatePeer_cases env ctx packet.peerKey
  generalize transportGetOrCreatePeer env ctx packet.peerKey = got at hcases ⊢
  cases hcases with
  | found peer hlook =>
    exact hreached ctx peer _ _ h (h.held peer (peerOf_mem (peerOf_of_lookupPeer hlook))) (by simp)
  | failed hlook session io hevents => exact ⟨h.config_eq, h.held, hevents ▸ h.log⟩
  | created hlook io hevents hsize =>
    refine hreached _ _ _ _ ⟨h.config_eq, ?_, hevents ▸ h.log⟩ (fun _ hb => nomatch hb) (by simp)
    exact List.forall_mem_cons.mpr ⟨fun _ hb => (nomatch hb), h.held⟩

/-- An ACK packet delivers nothing and leaves the receiving sides alone. -/
theorem transportProcessAckPacket_delivers (h : Delivers config accepts holds ctx) :
    Delivers config accepts holds (transportProcessAckPacket env ctx packet).2 := by
  have hlog := rule.again (transportProcessAckPacket_again env ctx packet) h.log
  have hpeers := transportProcessAckPacket_peers env ctx packet
  have hframe : (transportProcessAckPacket env ctx packet).2.config = ctx.config ∧
      (transportProcessAckPacket env ctx packet).2.fragmentMgr = ctx.fragmentMgr := by
    simp only [transportProcessAckPacket]
    split
    · exact ⟨rfl, rfl⟩
    split
    · exact ⟨rfl, rfl⟩
    split
    · exact ⟨rfl, rfl⟩
    split
    · exact ⟨rfl, rfl⟩
    rename_i peer _ _ _
    obtain ⟨_, _, hctx⟩ := (transportApplyAck_spec env ctx peer packet).ctxFrame
    dsimp only [TransportCtx.put]
    rw [hctx]
    exact ⟨rfl, rfl⟩
  refine ⟨hframe.1.trans h.config_eq, ?_, by rw [hframe.2]; exact hlog⟩
  rw [hpeers]
  cases hfind : transportFindAckPeer ctx.peers packet with
  | none => exact h.held
  | some peer =>
    rw [Option.elim_some]
    split
    · refine held_put h.held ?_
      obtain ⟨_, _, _, hpeer⟩ := (transportApplyAck_spec env ctx peer packet).peerFrame
      rw [hpeer]
      exact h.held peer (peerOf_mem (peerOf_of_transportFindAckPeer hfind))
    · exact h.held

/-- Any packet, when a data packet is accepted. -/
theorem xglTransportReceive_delivers (hclock : ∀ read, shown (env.clock read))
    (h : Delivers config accepts holds ctx)
    (hpacket : TakenAsData ctx packet → accepts packet) :
    Delivers config accepts holds (xglTransportReceive env ctx packet).2 := by
  simp only [xglTransportReceive, beq_iff_eq]
  split
  · rename_i htype
    exact transportProcessControlPacket_delivers rule h htype
  rename_i hcontrol
  split
  · exact transportProcessAckPacket_delivers rule h
  rename_i hack
  rw [Bool.or_eq_true, not_or, beq_iff_eq, beq_iff_eq] at hack
  split
  · exact h
  rename_i data hdata
  by_cases hrefused : SessionRefused ctx packet
  · rw [hrefused.receiveData]
    exact h
  · exact transportReceiveData_delivers rule hclock h
      (hpacket ⟨hcontrol, hack.1, hack.2, hrefused⟩) hdata

/-- The timers. -/
theorem xglTransportRun_delivers {now : UInt32} (h : Delivers config accepts holds ctx) :
    Delivers config accepts holds (xglTransportRun env ctx now) := by
  obtain ⟨hagain, hforall⟩ := transportProcessRetransmissions_again env ctx.config ctx.io now
    ctx.peers
  simp only [xglTransportRun]
  generalize transportProcessRetransmissions env ctx.config now ctx.peers ctx.io = timed
    at hagain hforall
  have htimed : Delivers config accepts holds { ctx with peers := timed.1, io := timed.2 } := by
    refine ⟨h.config_eq, ?_, rule.again hagain h.log⟩
    intro after hafter
    obtain ⟨before, hbefore, _, _, rfl⟩ := mem_of_forall₂ hforall hafter
    exact h.held before hbefore
  generalize ({ ctx with peers := timed.1, io := timed.2 } : TransportCtx) = base at htimed
  have hlog := rule.again (transportProcessFragmentTimeouts_again base now) htimed.log
  have hfragments : holds (transportProcessFragmentTimeouts base now).fragmentMgr
      (transportProcessFragmentTimeouts base now).io.events := by
    generalize (transportProcessFragmentTimeouts base now).io.events = events at hlog
    simp only [transportProcessFragmentTimeouts]
    cases hmanager : base.fragmentMgr with
    | none =>
      rw [hmanager] at hlog
      simpa only [hmanager] using hlog
    | some manager =>
      rw [hmanager] at hlog
      exact rule.freed _ hlog
  refine ⟨?_, ?_, ?_⟩
  · have hsame : (transportProcessFragmentTimeouts base now).config = config := by
      rw [transportProcessFragmentTimeouts_config]
      exact htimed.config_eq
    simp only [transportReclaimIdlePeers]
    split <;> exact hsame
  · intro peer hpeer
    have hmem := mem_transportReclaimIdlePeers hpeer
    rw [transportProcessFragmentTimeouts_peers] at hmem
    exact htimed.held peer hmem
  · simp only [transportReclaimIdlePeers]
    split <;> exact hfragments

end Steps

end XgenLink
