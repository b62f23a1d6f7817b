import XgenLink.Proofs.DeliverOnce
import XgenLink.Proofs.PeerMoves

/-!
# `XgenLink.Proofs.OrderedHandover`: a scope's reliable payloads are handed over in order

`DeliverOnce` shows that a number is handed over once. This module adds the order. What one packet
makes a node hand over are the next numbers of one scope, in rising order: the number of the
packet itself, when it is the next one, and then those of the packets that waited for it. With
`Once`, which puts everything handed over before below the next number, the whole log is in order
scope by scope.

The conditions are those of `Once`: a peer that took a packet in order is neither reclaimed nor
cleared, and no packet carries the last number.

* `HandsOn`: what a step hands over.
* `HandedInOrder.step`: a log in order with what a step adds.
* `xglTransportReceive_handsOn`: a received packet.
* `KeepsReceiving`, `transportStep_inOrder`: the step of a node.
-/

set_option autoImplicit false

namespace XgenLink

/-- The numbers of each scope were handed over in rising order. -/
def HandedInOrder (events : List TransportEvent) : Prop :=
  (onceDelivered events).Pairwise fun d e => d.1 = e.1 → d.2 < e.2

/-- A step hands over the numbers `done` of a scope, which rise from its next number on. -/
structure HandsOn (ctx after : TransportCtx) (key : PeerKey) (done : List UInt32) : Prop where
  events : onceDelivered after.io.events
    = onceDelivered ctx.io.events ++ done.map fun n => (key, n)
  sorted : done.Pairwise (· < ·)
  low : ∀ n ∈ done, ∀ peer, peerOf ctx.peers key = some peer → peer.rxNextPacketNumber ≤ n

section Steps

variable {env : TransportEnv} {ctx after : TransportCtx}

/-- Nothing is handed over. -/
theorem HandsOn.nothing (key : PeerKey)
    (hevents : onceDelivered after.io.events = onceDelivered ctx.io.events) :
    HandsOn ctx after key [] where
  events := by rw [hevents, List.map_nil, List.append_nil]
  sorted := .nil
  low := fun n hn => absurd hn List.not_mem_nil

/-- What was handed over before lies below what is handed over now. -/
theorem HandedInOrder.step {key : PeerKey} {done : List UInt32}
    (h : HandedInOrder ctx.io.events) (honce : Once ctx) (hands : HandsOn ctx after key done) :
    HandedInOrder after.io.events := by
  rw [HandedInOrder, hands.events, List.pairwise_append]
  refine ⟨h, ?_, ?_⟩
  · rw [List.pairwise_map]
    refine hands.sorted.imp ?_
    intro n m hlt _
    exact hlt
  · intro d hd e he hkey
    obtain ⟨n, hn, rfl⟩ := List.mem_map.mp he
    obtain ⟨peer, hpeer, hbelow⟩ := honce.below d hd
    rw [hkey] at hpeer
    exact UInt32.lt_of_lt_of_le hbelow (hands.low n hn peer hpeer)

/-- Selecting a peer does not move its next number. -/
theorem RxSelected.next {packet : Packet} {selected : TransportCtx} {peer old : PeerState}
    (hsel : RxSelected ctx packet selected peer) (hold : peerOf ctx.peers peer.key = some old) :
    old.rxNextPacketNumber = peer.rxNextPacketNumber := by
  cases hsel with
  | found found hlook hsession now io hevents =>
    have hentry : peerOf ctx.peers found.key = some found := peerOf_of_lookupPeer hlook
    cases hentry.symm.trans hold
    rfl
  | created hlook hsession now io hevents hsize =>
    have hnone := peerOf_none_of_lookupPeer hlook
    rw [← freshPeer_key ctx packet] at hnone
    exact absurd (hnone.symm.trans hold) (by simp)
  | createdBare hlook hsession io hevents hsize =>
    have hnone := peerOf_none_of_lookupPeer hlook
    rw [← freshPeer_key ctx packet] at hnone
    exact absurd (hnone.symm.trans hold) (by simp)

/-- A data packet. -/
theorem transportReceiveData_handsOn {packet : Packet} (data : Bytes) (h : Once ctx)
    (hpacket : packet.reliable = XGL_RELIABILITY_ACK_ELICITING →
      packet.scoped = true ∧ packet.packetNumber ≠ 0xFFFFFFFF) :
    ∃ key done, HandsOn ctx (transportReceiveData env ctx packet data).2 key done := by
  -- an ACK-eliciting packet is ordered, any other hands over no numbers
  by_cases hrel : packet.reliable = XGL_RELIABILITY_ACK_ELICITING
  · obtain ⟨hscoped, hmax⟩ := hpacket hrel
    rcases transportReceiveData_cases env ctx packet data hrel with
      ⟨err, session, io, _, hevents, _, heq⟩ | ⟨selected, peer, hsel, _, heq⟩
    · rw [heq]
      exact ⟨packet.peerKey, [], .nothing _ (congrArg onceDelivered hevents)⟩
    · obtain ⟨_, hheld⟩ := hsel.once h
      obtain ⟨hkey, _⟩ := hsel.scoped_cases hscoped
      obtain ⟨_, done, hdone⟩ := @rxReliable_once env selected.config peer selected.fragmentMgr
        selected.io packet data hheld hkey.symm hmax
      rw [heq, transportReceiveReliable_eq]
      refine ⟨peer.key, done, ?_, hdone.sorted, fun n hn old hold => ?_⟩
      · show onceDelivered (rxReliable env selected.config selected.fragmentMgr selected.io peer
          packet data).2.2.1.events = _
        rw [hdone.events, congrArg onceDelivered hsel.frame.1]
      · rw [hsel.next hold]
        exact (hdone.span n hn).1
  · -- an unreliable packet hands over nothing that counts
    have hplain : ∀ selected : TransportCtx, selected.io.events = ctx.io.events →
        onceDelivered (transportDeliverData env selected packet data).2.io.events
          = onceDelivered ctx.io.events := by
      intro selected hevents
      rcases transportDeliverPacket_once env selected.config selected.fragmentMgr selected.io
        packet (transportDecodeData selected.config packet data) with hsame | ⟨hcounted, _⟩
      · exact hsame.trans (congrArg onceDelivered hevents)
      · exact absurd hcounted hrel
    refine ⟨packet.peerKey, [], .nothing _ ?_⟩
    simp only [transportReceiveData]
    rcases transportPrepareRxPeer_cases env ctx packet with
      ⟨err, session, io, peer, hne, hevents, heq⟩ | ⟨_, heq⟩ |
        ⟨prepared, peer, selected, touched, hsel, heq, htouch⟩
    · rw [heq]
      cases err with
      | ok => exact absurd rfl hne
      | _ => exact congrArg onceDelivered hevents
    · rw [heq]
      simp only [transportTouchPeer, beq_iff_eq, hrel, if_false]
      exact hplain ctx rfl
    · rw [heq]
      simp only [htouch, beq_iff_eq, hrel, if_false]
      exact hplain selected hsel.frame.1

/-- A received packet hands over numbers of one scope, in rising order. -/
theorem xglTransportReceive_handsOn {packet : Packet} (h : Once ctx)
    (hpacket : Replayable ctx packet) :
    ∃ key done, HandsOn ctx (xglTransportReceive env ctx packet).2 key done := by
  simp only [xglTransportReceive, beq_iff_eq]
  split
  · refine ⟨packet.peerKey, [], .nothing _ ?_⟩
    have hcases := transportProcessControlPacket_cases env ctx packet
    generalize (transportProcessControlPacket env ctx packet).2 = after at hcases ⊢
    cases hcases with
    | refused session io hevents => exact congrArg onceDelivered hevents
    | reset hsid peer hlook hreset now io hevents => exact congrArg onceDelivered hevents
    | established hsid peer hlook hsession now io hevents => exact congrArg onceDelivered hevents
    | created hsid hlook window hwindow manager now io peer hevents hpeer hsize =>
      exact congrArg onceDelivered hevents
  · rename_i htype
    split
    · exact ⟨packet.peerKey, [], .nothing _ (transportProcessAckPacket_again env ctx packet).once⟩
    · split
      · exact ⟨packet.peerKey, [], .nothing _ rfl⟩
      · exact transportReceiveData_handsOn _ h (hpacket.reliable htype)

/-- The timers hand nothing over. -/
theorem xglTransportRun_handsNothing (now : UInt32) :
    onceDelivered (xglTransportRun env ctx now).io.events = onceDelivered ctx.io.events := by
  obtain ⟨hagain, -⟩ := transportProcessRetransmissions_again env ctx.config ctx.io now ctx.peers
  simp only [xglTransportRun, transportReclaimIdlePeers]
  split
  all_goals
    exact (transportProcessFragmentTimeouts_again _ now).once.trans hagain.once

/-- A request hands nothing over. -/
theorem Appends.handsNothing {kind : Packet → Prop} {before after : List TransportEvent}
    (h : Appends (Hands kind) before after) : onceDelivered after = onceDelivered before := by
  obtain ⟨new, rfl, hnew⟩ := h
  have hnothing : onceDelivered new = [] := by
    refine List.filterMap_eq_nil_iff.mpr fun event hmem => ?_
    have hhands := hnew event hmem
    cases event with
    | rxCallback _ _ _ _ => exact hhands.elim
    | _ => rfl
  rw [onceDelivered_append, hnothing, List.append_nil]

/-- A request leaves the receiving side of its peer alone. -/
theorem xglTransportSend_once (h : Once ctx) (txData : TxData)
    (hsame : onceDelivered (xglTransportSend env ctx txData).2.io.events
      = onceDelivered ctx.io.events) :
    Once (xglTransportSend env ctx txData).2 := by
  cases xglTransportSend_moves env ctx txData with
  | same hpeers => exact h.same hsame hpeers
  | put old peer hlook hmore hpeers =>
    have hentry := peerOf_of_lookupPeer hlook
    refine h.put_same hpeers (hmore.key ▸ hentry) ?_ ?_ hsame
    · refine (h.held old (peerOf_mem hentry)).congr hmore.key ?_ ?_ ?_
      all_goals
        rw [← hmore.rx]
        rfl
    · rw [← hmore.rx]
      exact UInt32.le_refl _
  | cons peer hlook hmore hpeers =>
    refine h.cons hpeers ?_ (.fresh ?_ ?_) hsame
    · rw [hmore.key, freshPeer_txKey]
      exact peerOf_none_of_lookupPeer hlook
    all_goals
      rw [← hmore.rx]
      rfl

/-- What is asked of the actions of a node: packets are acknowledgements or replayable, and the
timers find no idle peer that is in use. -/
def KeepsReceiving (ctx : TransportCtx) : TransportAction → Prop
  | .send _ => True
  | .receive packet => packet.packetType = XGL_PACKET_TYPE_ACK ∨ Replayable ctx packet
  | .run now => IdleUnused ctx now

/-- One action. -/
theorem transportStep_inOrder (h : Once ctx) (horder : HandedInOrder ctx.io.events)
    (action : TransportAction) (hkeeps : KeepsReceiving ctx action) :
    Once (transportStep env ctx action) ∧
      HandedInOrder (transportStep env ctx action).io.events := by
  cases action with
  | send txData =>
    have hsame : onceDelivered (xglTransportSend env ctx txData).2.io.events
        = onceDelivered ctx.io.events := by
      cases xglTransportSend_sends env ctx txData with
      | whole _ hlog => exact hlog.handsNothing
      | pieces _ _ hlog => exact hlog.handsNothing
    refine ⟨xglTransportSend_once h txData hsame, ?_⟩
    show HandedInOrder (xglTransportSend env ctx txData).2.io.events
    rw [HandedInOrder, hsame]
    exact horder
  | receive packet =>
    rcases hkeeps with hack | hreplay
    · have hsame : (xglTransportReceive env ctx packet).2
          = (transportProcessAckPacket env ctx packet).2 := by
        rw [xglTransportReceive, if_neg (by rw [hack]; decide), if_pos (by simp [hack])]
      show Once (xglTransportReceive env ctx packet).2 ∧
        HandedInOrder (xglTransportReceive env ctx packet).2.io.events
      rw [hsame]
      refine ⟨h.ack packet, ?_⟩
      rw [HandedInOrder, (transportProcessAckPacket_again env ctx packet).once]
      exact horder
    · obtain ⟨key, done, hands⟩ := @xglTransportReceive_handsOn env _ _ h hreplay
      exact ⟨xglTransportReceive_once h hreplay, horder.step h hands⟩
  | run now =>
    refine ⟨xglTransportRun_once h hkeeps, ?_⟩
    show HandedInOrder (xglTransportRun env ctx now).io.events
    rw [HandedInOrder, xglTransportRun_handsNothing]
    exact horder

end Steps

end XgenLink
