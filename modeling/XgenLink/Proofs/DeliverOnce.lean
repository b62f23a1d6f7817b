import XgenLink.Proofs.EventLog
import XgenLink.Proofs.InOrderDelivery
import XgenLink.System.Node

/-!
# `XgenLink.Proofs.DeliverOnce`: a reliable payload is handed over once

A frame can reach a receiver more than once: the sender retransmits it, a network repeats it, an
attacker replays it. The replay window of the datalink lets ACK-eliciting duplicates through, so
that an ACK can be sent again, and leaves them to the ordering state of the peer. Below its next
number a peer takes nothing, and what it takes it moves past.

So a number is handed over again only when that state is lost. An idle peer is reclaimed, a
control packet resets the peer, or the next number goes round behind 0xFFFFFFFF. `Replayable` and
`KeepsOrder` exclude these three step by step, and a run that meets them hands every number over
once. The last part shows that the first of the three happens: the timers reclaim an idle peer
with its next number, and the same frame is handed over again.

Only unfragmented deliveries are counted. The handing over of a reassembled message is in
`HonestReassembly`.

* `HeldInScope`: what a peer holds belongs to its scope.
* `HandedOver`: the numbers handed over while a peer moves on, in order and without a gap below.
* `Once`: every number handed over is below the next number of its peer, and none twice.
* `Once.put`, `Once.ack`, `Once.reclaim`: what the writes of the transport do to it.
* `xglTransportReceive_once`, `xglTransportRun_once`: the steps that keep it.
* `replayed_once`: whole runs of a node, whatever frames it is given.
* `reclaim_delivers_again`: the same frame before and after a reclaim.
-/

set_option autoImplicit false

namespace XgenLink

/-! ### Reliable deliveries -/

/-- The scope and number of an unfragmented reliable delivery. -/
def onceOf : TransportEvent → Option (PeerKey × UInt32)
  | .rxCallback _ _ _ origin =>
    if origin.reliable = XGL_RELIABILITY_ACK_ELICITING ∧ origin.fragment = 0 then
      some (origin.peerKey, origin.packetNumber)
    else none
  | _ => none

/-- The unfragmented reliable deliveries, in order. -/
def onceDelivered (events : List TransportEvent) : List (PeerKey × UInt32) :=
  events.filterMap onceOf

/-- The deliveries of two logs are those of the first, then those of the second. -/
theorem onceDelivered_append (a b : List TransportEvent) :
    onceDelivered (a ++ b) = onceDelivered a ++ onceDelivered b :=
  List.filterMap_append

/-- Sending hands nothing over. -/
@[simp] theorem onceDelivered_lowerSend (env : TransportEnv) (config : TransportConfig)
    (io : TransportIo) (packet : Packet) :
    onceDelivered (transportLowerSend env config io packet).2.events = onceDelivered io.events := by
  simp only [transportLowerSend]
  split
  · rw [xglLayerSend_events, onceDelivered_append]
    simp [onceDelivered, onceOf]
  · rfl

/-- Nor do acknowledgements and timers. -/
theorem SendsAgain.once {before after : List TransportEvent} (h : SendsAgain before after) :
    onceDelivered after = onceDelivered before := by
  obtain ⟨new, rfl, hnew⟩ := h
  have hnothing : onceDelivered new = [] := by
    refine List.filterMap_eq_nil_iff.mpr fun event hmem => ?_
    have hsender := hnew event hmem
    cases event with
    | rxCallback _ _ _ _ => cases hsender
    | _ => rfl
  rw [onceDelivered_append, hnothing, List.append_nil]

/-- A delivery hands over its own number or none. -/
theorem onceDelivered_emitRx (config : TransportConfig) (io : TransportIo) (packet : Packet)
    (data : Bytes) :
    onceDelivered (emitRx config io packet data).events = onceDelivered io.events ∨
      packet.fragment = 0 ∧ packet.reliable = XGL_RELIABILITY_ACK_ELICITING ∧
      onceDelivered (emitRx config io packet data).events
        = onceDelivered io.events ++ [(packet.peerKey, packet.packetNumber)] := by
  simp only [emitRx]
  split
  · rw [TransportIo.emit_events, onceDelivered_append]
    by_cases hcounted : packet.reliable = XGL_RELIABILITY_ACK_ELICITING ∧ packet.fragment = 0
    · refine .inr ⟨hcounted.2, hcounted.1, ?_⟩
      simp [onceDelivered, onceOf, hcounted]
    · refine .inl ?_
      simp only [onceDelivered, onceOf, List.filterMap_cons, if_neg hcounted, List.filterMap_nil,
        List.append_nil]
  · exact .inl rfl

/-- Delivering a packet hands over its own number or none, and its number only when it
is unfragmented, which cannot fail. -/
theorem transportDeliverPacket_once (env : TransportEnv) (config : TransportConfig)
    (manager : Option FragmentManager) (io : TransportIo) (packet : Packet) (data : Bytes) :
    let delivered := transportDeliverPacket env config manager io packet data
    onceDelivered delivered.2.2.events = onceDelivered io.events ∨
      packet.reliable = XGL_RELIABILITY_ACK_ELICITING ∧ delivered.1 = .ok ∧
      onceDelivered delivered.2.2.events
        = onceDelivered io.events ++ [(packet.peerKey, packet.packetNumber)] := by
  have hemit := onceDelivered_emitRx config io packet data
  simp only [transportDeliverPacket]
  cases manager with
  -- without a manager every packet is delivered whole
  | none =>
    exact hemit.imp_right fun h => ⟨h.2.1, rfl, h.2.2⟩
  -- with a manager it depends on FRAGMENT_EXT
  | some manager =>
    simp only
    split
    · -- a fragment never counts, whatever happens to it
      rename_i hfragment
      rw [bne_iff_ne] at hfragment
      refine .inl ?_
      simp only [transportDeliverFragment]
      split
      · rfl
      · rename_i ext _
        have hevents := xglFragmentProcessExt_events env io manager (fragmentKey packet ext)
          packet.dataType ext.fragmentOffset ext.messageLen data 0
        generalize xglFragmentProcessExt env io manager (fragmentKey packet ext) packet.dataType
          ext.fragmentOffset ext.messageLen data 0 = processed at hevents
        have hstored : onceDelivered (emitStored processed.2.2 packet processed.1.stored).events
            = onceDelivered io.events := by
          simp only [emitStored]
          split
          · rw [TransportIo.emit_events, onceDelivered_append, hevents]
            simp [onceDelivered, onceOf]
          · rw [hevents]
        split
        · rcases onceDelivered_emitRx config (emitStored processed.2.2 packet processed.1.stored)
            packet (processed.1.complete.getD []) with hsame | ⟨hzero, _⟩
          · exact hsame.trans hstored
          · exact absurd hzero hfragment
        · exact hstored
        · exact hstored
    · exact hemit.imp_right fun h => ⟨h.2.1, rfl, h.2.2⟩

/-! ### One peer -/

/-- What a peer holds belongs to its scope and is not the last number. -/
structure HeldInScope (peer : PeerState) : Prop where
  shape : RxShape peer
  scope : ∀ b ∈ peer.rxBuffered, b.peerKey = peer.key ∧ b.packetNumber ≠ 0xFFFFFFFF

/-- The numbers `done` of a scope were handed over in order while its next number went from `low`
to that of the peer. What was handed over before `low` is in the events of `io`. -/
structure HandedOver (key : PeerKey) (low : UInt32) (before after : TransportIo)
    (peer : PeerState) (done : List UInt32) : Prop where
  events : onceDelivered after.events = onceDelivered before.events ++ done.map fun n => (key, n)
  sorted : done.Pairwise (· < ·)
  span : ∀ n ∈ done, low ≤ n ∧ n < peer.rxNextPacketNumber
  next : low ≤ peer.rxNextPacketNumber

/-- Nothing is handed over and nobody moves. -/
theorem HandedOver.refl (key : PeerKey) {io : TransportIo} {peer : PeerState} :
    HandedOver key peer.rxNextPacketNumber io io peer [] where
  events := by simp
  sorted := .nil
  span := fun n hn => by cases hn
  next := UInt32.le_refl _

/-- The packet with the next number moves the scope on by one. -/
theorem HandedOver.deliver {key : PeerKey} {low : UInt32} {before mid after : TransportIo}
    {peer moved : PeerState} {done : List UInt32} {packet : Packet}
    (h : HandedOver key low before mid peer done) (hkey : packet.peerKey = key)
    (hnumber : packet.packetNumber = peer.rxNextPacketNumber)
    (hmax : packet.packetNumber ≠ 0xFFFFFFFF)
    (hmoved : moved.rxNextPacketNumber = packet.packetNumber + 1)
    (hevents : onceDelivered after.events = onceDelivered mid.events ∨
      onceDelivered after.events
        = onceDelivered mid.events ++ [(packet.peerKey, packet.packetNumber)]) :
    ∃ done', HandedOver key low before after moved done' := by
  have hnext : moved.rxNextPacketNumber.toNat = peer.rxNextPacketNumber.toNat + 1 := by
    have hlt := packet.packetNumber.toNat_lt
    rw [ne_eq, ← UInt32.toNat_inj, show (0xFFFFFFFF : UInt32).toNat = 2 ^ 32 - 1 from rfl] at hmax
    rw [hmoved, ← hnumber, UInt32.toNat_add, show (1 : UInt32).toNat = 1 from rfl]
    omega
  have hlow := h.next
  have hspan : ∀ n ∈ done, low ≤ n ∧ n < moved.rxNextPacketNumber := by
    intro n hn
    obtain ⟨hge, hlt⟩ := h.span n hn
    refine ⟨hge, ?_⟩
    rw [UInt32.lt_iff_toNat_lt] at hlt ⊢
    omega
  have hgrow : low ≤ moved.rxNextPacketNumber := by
    rw [UInt32.le_iff_toNat_le] at hlow ⊢
    omega
  rcases hevents with hsame | hmore
  · exact ⟨done, hsame.trans h.events, h.sorted, hspan, hgrow⟩
  · refine ⟨done ++ [packet.packetNumber], ?_, ?_, ?_, hgrow⟩
    · rw [hmore, h.events, hkey, List.map_append, List.append_assoc]
      rfl
    · rw [List.pairwise_append]
      refine ⟨h.sorted, List.pairwise_singleton _ _, ?_⟩
      intro n hn m hm
      rw [List.mem_singleton.mp hm, hnumber]
      exact (h.span n hn).2
    · intro n hn
      rcases List.mem_append.mp hn with hold | hnew
      · exact hspan n hold
      · rw [List.mem_singleton.mp hnew, hnumber]
        refine ⟨hlow, ?_⟩
        rw [UInt32.lt_iff_toNat_lt]
        omega

section Peer

variable {env : TransportEnv} {config : TransportConfig} {peer : PeerState}

/-- Draining hands over further numbers in order. -/
theorem transportDrainRxBuffered_once {key : PeerKey} {low : UInt32} {before : TransportIo}
    {done : List UInt32} (manager : Option FragmentManager) (io : TransportIo)
    (hdone : HandedOver key low before io peer done) (hkey : peer.key = key)
    (hhas : peer.rxHasPacketNumberState = true)
    (hsorted : peer.rxBuffered.Pairwise fun a b => a.packetNumber < b.packetNumber)
    (hfrom : ∀ b ∈ peer.rxBuffered, peer.rxNextPacketNumber ≤ b.packetNumber)
    (hscope : ∀ b ∈ peer.rxBuffered, b.peerKey = peer.key ∧ b.packetNumber ≠ 0xFFFFFFFF) :
    let out := transportDrainRxBuffered env config manager io peer
    HeldInScope out.2.2.2 ∧ ∃ done', HandedOver key low before out.2.2.1 out.2.2.2 done' := by
  simp only [transportDrainRxBuffered]
  refine drainLoop_rule
    (fun _ io' peer' => peer'.key = key ∧ peer'.rxHasPacketNumberState = true ∧
      (peer'.rxBuffered.Pairwise fun a b => a.packetNumber < b.packetNumber) ∧
      (∀ b ∈ peer'.rxBuffered, peer'.rxNextPacketNumber ≤ b.packetNumber) ∧
      (∀ b ∈ peer'.rxBuffered, b.peerKey = peer'.key ∧ b.packetNumber ≠ 0xFFFFFFFF) ∧
      ∃ done', HandedOver key low before io' peer' done')
    (fun _ io' peer' => HeldInScope peer' ∧ ∃ done', HandedOver key low before io' peer' done')
    ?_ ?_ _ manager io peer (le_refl _) ⟨hkey, hhas, hsorted, hfrom, hscope, done, hdone⟩
  · -- nothing in order: every packet held lies above the next number
    rintro _ io' peer' ⟨_, hhas, hsorted, hfrom, hscope, hdone⟩ hnone
    have hwalk : takeRxBuffered peer'.rxNextPacketNumber peer'.rxBuffered = none := by
      simpa [transportTakeRxBuffered] using hnone
    refine ⟨⟨⟨hsorted, ?_, fun hf => by rw [hhas] at hf; cases hf⟩, hscope⟩, hdone⟩
    rcases takeRxBuffered_sorted hsorted hfrom with ⟨_, habove⟩ | ⟨_, _, _, _, hsome⟩
    · exact habove
    · rw [hsome] at hwalk
      cases hwalk
  · rintro manager' io' peer' buffered after
      ⟨hkey, hhas, hsorted, hfrom, hscope, done', hdone⟩ htake
    obtain ⟨hwalk, hafter⟩ := transportTakeRxBuffered_some htake
    rcases takeRxBuffered_sorted hsorted hfrom with ⟨hnone, _⟩ |
      ⟨first, rest, hlist, hfirst, hsome⟩
    · rw [hnone] at hwalk
      cases hwalk
    rw [hsome] at hwalk
    obtain ⟨rfl, hrest⟩ := Prod.mk.inj (Option.some.inj hwalk)
    rw [hlist, List.pairwise_cons] at hsorted
    obtain ⟨hfirstKey, hfirstMax⟩ := hscope first (hlist ▸ List.mem_cons_self)
    have hscope' : ∀ b ∈ after.rxBuffered, b.peerKey = after.key ∧ b.packetNumber ≠ 0xFFFFFFFF := by
      intro b hb
      have hmem : b ∈ peer'.rxBuffered := by
        rw [hlist]
        exact List.mem_cons_of_mem _ (hrest ▸ hb)
      rw [show after.key = peer'.key by rw [hafter]; rfl]
      exact hscope b hmem
    have habove : ∀ b ∈ after.rxBuffered, first.packetNumber < b.packetNumber := hrest ▸ hsorted.1
    have hhas' : after.rxHasPacketNumberState = true := by
      rw [hafter]
      exact hhas
    have hkey' : after.key = key := by
      rw [hafter]
      exact hkey
    have hnext' : after.rxNextPacketNumber = peer'.rxNextPacketNumber := by rw [hafter]
    have honce := transportDeliverPacket_once env config manager' io' first
      (first.payload?.getD [])
    dsimp only at honce ⊢
    rw [transportSendAck_eq]
    refine ⟨fun hok => ⟨hkey', hhas', hrest ▸ hsorted.2, ?_, hscope', ?_⟩, fun hfail => ?_⟩
    · intro b hb
      exact add_one_le_of_lt (habove b hb)
    · refine hdone.deliver (hfirstKey.trans hkey) hfirst hfirstMax rfl ?_
      rw [onceDelivered_lowerSend]
      exact honce.imp_right fun h => h.2.2
    · -- a packet that is not delivered was a fragment and counts for nothing
      have hsame := honce.resolve_right fun h => hfail h.2.1
      refine ⟨⟨⟨hrest ▸ hsorted.2, ?_, fun hf => by rw [hhas'] at hf; cases hf⟩, hscope'⟩,
        done', ?_, hdone.sorted, ?_, ?_⟩
      · rw [hnext', ← hfirst]
        exact habove
      · rw [onceDelivered_lowerSend, hsame]
        exact hdone.events
      · rw [hnext']
        exact hdone.span
      · rw [hnext']
        exact hdone.next

/-- One reliable data packet of the scope: the numbers handed over are new, in order, and
below the next number behind them. -/
theorem rxReliable_once (manager : Option FragmentManager) (io : TransportIo) {packet : Packet}
    (data : Bytes) (h : HeldInScope peer) (hkey : packet.peerKey = peer.key)
    (hmax : packet.packetNumber ≠ 0xFFFFFFFF) :
    let out := rxReliable env config manager io peer packet data
    HeldInScope out.2.2.2 ∧
      ∃ done, HandedOver peer.key peer.rxNextPacketNumber io out.2.2.1 out.2.2.2 done := by
  obtain ⟨hshape, hnext, hbuffered, hhas⟩ := h.shape.init
  have hscope : ∀ b ∈ (rxOrderInit peer).rxBuffered,
      b.peerKey = (rxOrderInit peer).key ∧ b.packetNumber ≠ 0xFFFFFFFF := by
    rw [hbuffered, rxOrderInit_key]
    exact h.scope
  have hnothing : ∀ {after : TransportIo} {peer' : PeerState},
      onceDelivered after.events = onceDelivered io.events →
      peer'.rxNextPacketNumber = peer.rxNextPacketNumber →
      ∃ done, HandedOver peer.key peer.rxNextPacketNumber io after peer' done := by
    intro after peer' hevents hsame
    refine ⟨[], by simpa using hevents, .nil, fun n hn => (by cases hn), ?_⟩
    rw [hsame]
    exact UInt32.le_refl _
  dsimp only
  rcases packetNumber_trichotomy packet.packetNumber (rxOrderInit peer).rxNextPacketNumber with
    hlt | heq | hgt
  · -- a duplicate is acknowledged and dropped
    rw [rxReliable_duplicate env config manager io data hlt]
    exact ⟨⟨hshape, hscope⟩, hnothing (onceDelivered_lowerSend ..) hnext⟩
  -- the expected packet is delivered, and the list behind it is drained
  · rw [rxReliable_expected env config manager io data heq]
    dsimp only
    have honce := transportDeliverPacket_once env config manager (transportLowerSend env config io
      (ackPacket config packet.feedbackScope packet.packetNumber)).2 packet
      (transportDecodeData config packet data)
    dsimp only at honce
    generalize transportDeliverPacket env config manager (transportLowerSend env config io
      (ackPacket config packet.feedbackScope packet.packetNumber)).2 packet
      (transportDecodeData config packet data) = delivered at honce
    obtain ⟨err, manager', io'⟩ := delivered
    rw [onceDelivered_lowerSend] at honce
    cases err with
    | ok =>
      have hstart : HandedOver peer.key peer.rxNextPacketNumber io io (rxOrderInit peer) [] := by
        rw [← hnext]
        exact .refl peer.key
      obtain ⟨done, hdone⟩ := @HandedOver.deliver _ _ _ _ io' _
        { rxOrderInit peer with rxNextPacketNumber := packet.packetNumber + 1 } _ _ hstart hkey heq
        hmax rfl (honce.imp_right fun h => h.2.2)
      refine transportDrainRxBuffered_once manager' io' hdone (rxOrderInit_key peer) hhas
        hshape.sorted ?_ hscope
      intro b hb
      have habove := hshape.above b hb
      rw [← heq] at habove
      exact add_one_le_of_lt habove
    | _ =>
      have hsame := honce.resolve_right fun h => by cases h.2.1
      exact ⟨⟨hshape, hscope⟩, hnothing hsame hnext⟩
  · -- a later packet is held or refused
    obtain ⟨err, io', after, houtcome, hevents, heq⟩ :=
      rxReliable_later env config manager io data hgt
    rw [heq]
    have hafter : after.rxNextPacketNumber = (rxOrderInit peer).rxNextPacketNumber := by
      cases houtcome <;> rfl
    refine ⟨⟨houtcome.shape hshape hhas hgt, ?_⟩, hnothing ?_ (hafter.trans hnext)⟩
    · cases houtcome with
      | refused err herr => exact hscope
      | present hfound => exact hscope
      | inserted bytes hbytes hne hnew =>
        intro b hb
        rcases mem_transportInsertRxBuffered.mp hb with rfl | hb
        · refine ⟨?_, hmax⟩
          rw [show ({ rxOrderInit peer with
            rxBuffered := transportInsertRxBuffered
              { packet with packetNumber := packet.packetNumber } (rxOrderInit peer).rxBuffered
            rxBufferedCount := (rxOrderInit peer).rxBufferedCount + 1 } : PeerState).key
              = (rxOrderInit peer).key from rfl, rxOrderInit_key]
          exact hkey
        · exact hscope b hb
    · rw [onceDelivered_lowerSend, hevents]

end Peer

/-! ### Contexts -/

/-- What was handed over is below the next number of its peer, and nothing was handed over twice.
A scope whose number was handed over has a peer, so a later packet of the scope meets the next
number that stands above it. -/
structure Once (ctx : TransportCtx) : Prop where
  held : ∀ peer ∈ ctx.peers, HeldInScope peer
  below : ∀ d ∈ onceDelivered ctx.io.events,
    ∃ peer, peerOf ctx.peers d.1 = some peer ∧ d.2 < peer.rxNextPacketNumber
  nodup : (onceDelivered ctx.io.events).Nodup

section Context

variable {env : TransportEnv} {ctx after : TransportCtx} {peer old : PeerState}

/-- One peer moves on and hands over the numbers on its way. -/
theorem Once.put (h : Once ctx) (hpeers : after.peers = putPeer peer ctx.peers)
    (hold : peerOf ctx.peers peer.key = some old) (hheld : HeldInScope peer) {done : List UInt32}
    (hdone : HandedOver peer.key old.rxNextPacketNumber ctx.io after.io peer done) :
    Once after := by
  have hself : peerOf after.peers peer.key = some peer := by
    rw [hpeers, peerOf_putPeer, if_pos rfl, hold]
    rfl
  refine ⟨?_, ?_, ?_⟩
  · intro other hother
    rw [hpeers] at hother
    rcases mem_putPeer hother with rfl | hmem
    · exact hheld
    · exact h.held other hmem
  · intro d hd
    rw [hdone.events, List.mem_append] at hd
    rcases hd with hd | hd
    · obtain ⟨before, hbefore, hlt⟩ := h.below d hd
      by_cases hkey : peer.key = d.1
      · -- an earlier number of this scope is still below
        rw [← hkey, hold] at hbefore
        cases hbefore
        rw [← hkey]
        exact ⟨peer, hself, UInt32.lt_of_lt_of_le hlt hdone.next⟩
      · refine ⟨before, ?_, hlt⟩
        rw [hpeers, peerOf_putPeer, if_neg hkey]
        exact hbefore
    -- a number of this call, which no earlier event shows
    · obtain ⟨n, hn, rfl⟩ := List.mem_map.mp hd
      exact ⟨peer, hself, (hdone.span n hn).2⟩
  · rw [hdone.events, List.nodup_append]
    refine ⟨h.nodup, ?_, ?_⟩
    · refine List.Nodup.map ?_ (hdone.sorted.imp fun hlt => UInt32.ne_of_lt hlt)
      intro a b hab
      exact (Prod.mk.inj hab).2
    · intro d hd d' hd' heq
      subst heq
      obtain ⟨n, hn, rfl⟩ := List.mem_map.mp hd'
      obtain ⟨before, hbefore, hlt⟩ := h.below _ hd
      rw [hold] at hbefore
      cases hbefore
      exact UInt32.not_lt.mpr (hdone.span n hn).1 hlt

/-- A peer changes and hands nothing over. -/
theorem Once.put_same (h : Once ctx) (hpeers : after.peers = putPeer peer ctx.peers)
    (hold : peerOf ctx.peers peer.key = some old) (hheld : HeldInScope peer)
    (hnext : old.rxNextPacketNumber ≤ peer.rxNextPacketNumber)
    (hevents : onceDelivered after.io.events = onceDelivered ctx.io.events) : Once after := by
  refine @Once.put ctx after peer old h hpeers hold hheld [] ⟨?_, .nil, ?_, hnext⟩
  · simpa using hevents
  · intro n hn
    cases hn

/-- A peer of a new scope appears. -/
theorem Once.cons (h : Once ctx) (hpeers : after.peers = peer :: ctx.peers)
    (hnone : peerOf ctx.peers peer.key = none) (hheld : HeldInScope peer)
    (hevents : onceDelivered after.io.events = onceDelivered ctx.io.events) : Once after := by
  refine ⟨?_, ?_, hevents ▸ h.nodup⟩
  · intro other hother
    rw [hpeers] at hother
    rcases List.mem_cons.mp hother with rfl | hmem
    · exact hheld
    · exact h.held other hmem
  · intro d hd
    rw [hevents] at hd
    obtain ⟨before, hbefore, hlt⟩ := h.below d hd
    refine ⟨before, ?_, hlt⟩
    rw [hpeers, peerOf_cons, if_neg]
    · exact hbefore
    · intro hkey
      rw [← hkey, hnone] at hbefore
      cases hbefore

/-- Nothing happens to the peers. -/
theorem Once.same (h : Once ctx)
    (hevents : onceDelivered after.io.events = onceDelivered ctx.io.events)
    (hpeers : after.peers = ctx.peers) : Once after := by
  refine ⟨hpeers ▸ h.held, ?_, hevents ▸ h.nodup⟩
  rw [hevents, hpeers]
  exact h.below

/-- A peer without receive state. -/
theorem HeldInScope.fresh (hnext : peer.rxNextPacketNumber = 0) (hbuffered : peer.rxBuffered = []) :
    HeldInScope peer := by
  have hnothing : ∀ b, b ∉ peer.rxBuffered := by
    rw [hbuffered]
    exact fun b => List.not_mem_nil
  exact ⟨⟨hbuffered ▸ .nil, fun b hb => absurd hb (hnothing b), fun _ => ⟨hnext, hbuffered⟩⟩,
    fun b hb => absurd hb (hnothing b)⟩

/-- A peer with the same receiving side. -/
theorem HeldInScope.congr (h : HeldInScope old) (hkey : peer.key = old.key)
    (hhas : peer.rxHasPacketNumberState = old.rxHasPacketNumberState)
    (hnext : peer.rxNextPacketNumber = old.rxNextPacketNumber)
    (hbuffered : peer.rxBuffered = old.rxBuffered) : HeldInScope peer := by
  refine ⟨⟨hbuffered ▸ h.shape.sorted, ?_, ?_⟩, ?_⟩
  · rw [hbuffered, hnext]
    exact h.shape.above
  · rw [hhas, hnext, hbuffered]
    exact h.shape.fresh
  · rw [hbuffered, hkey]
    exact h.scope

/-- Selecting the peer of a data packet. -/
theorem RxSelected.once {packet : Packet} (hsel : RxSelected ctx packet after peer)
    (h : Once ctx) : Once after ∧ HeldInScope peer := by
  have hevents := congrArg onceDelivered hsel.frame.1
  cases hsel with
  | found old hlook hsession now io hio =>
    have hentry := peerOf_of_lookupPeer hlook
    have hheld : HeldInScope { old with lastActiveMs := now } :=
      (h.held old (peerOf_mem hentry)).congr rfl rfl rfl rfl
    exact ⟨h.put_same rfl hentry hheld (UInt32.le_refl _) hevents, hheld⟩
  | created hlook hsession now io hio hsize =>
    have hheld : HeldInScope (resetPeer (freshPeer ctx packet.peerKey) packet.sessionId now) :=
      .fresh rfl rfl
    have hnone := peerOf_none_of_lookupPeer hlook
    rw [← freshPeer_key ctx packet] at hnone
    exact ⟨h.cons rfl hnone hheld hevents, hheld⟩
  | createdBare hlook hsession io hio hsize =>
    have hheld : HeldInScope (freshPeer ctx packet.peerKey) := .fresh rfl rfl
    have hnone := peerOf_none_of_lookupPeer hlook
    rw [← freshPeer_key ctx packet] at hnone
    exact ⟨h.cons rfl hnone hheld hevents, hheld⟩

/-- A data packet. A reliable one belongs to a scope and does not carry the last number. -/
theorem transportReceiveData_once {packet : Packet} (data : Bytes) (h : Once ctx)
    (hpacket : packet.reliable = XGL_RELIABILITY_ACK_ELICITING →
      packet.scoped = true ∧ packet.packetNumber ≠ 0xFFFFFFFF) :
    Once (transportReceiveData env ctx packet data).2 := by
  -- an ACK-eliciting packet goes through the ordering state
  by_cases hrel : packet.reliable = XGL_RELIABILITY_ACK_ELICITING
  · obtain ⟨hscoped, hmax⟩ := hpacket hrel
    rcases transportReceiveData_cases env ctx packet data hrel with
      ⟨err, session, io, _, hevents, _, heq⟩ | ⟨selected, peer, hsel, _, heq⟩
    · rw [heq]
      exact h.same (congrArg onceDelivered hevents) rfl
    · obtain ⟨hselected, hheld⟩ := hsel.once h
      obtain ⟨hentry, _⟩ := hsel.lookup
      obtain ⟨hkey, _⟩ := hsel.scoped_cases hscoped
      obtain ⟨hafter, done, hdone⟩ := @rxReliable_once env selected.config peer
        selected.fragmentMgr selected.io packet data hheld hkey.symm hmax
      have hresult := rxReliable_key env selected.config selected.fragmentMgr selected.io peer
        packet data
      rw [heq, transportReceiveReliable_eq]
      rw [← hresult] at hdone hentry
      exact hselected.put rfl hentry hafter hdone
  · -- an unreliable packet hands over nothing that counts
    have hplain : ∀ selected : TransportCtx, Once selected →
        Once (transportDeliverData env selected packet data).2 := by
      intro selected hselected
      rcases transportDeliverPacket_once env selected.config selected.fragmentMgr selected.io
        packet (transportDecodeData selected.config packet data) with hsame | ⟨hcounted, _⟩
      · exact hselected.same hsame rfl
      · exact absurd hcounted hrel
    simp only [transportReceiveData]
    rcases transportPrepareRxPeer_cases env ctx packet with
      ⟨err, session, io, peer, hne, hevents, heq⟩ | ⟨_, heq⟩ |
        ⟨prepared, peer, selected, touched, hsel, heq, htouch⟩
    · rw [heq]
      cases err with
      | ok => exact absurd rfl hne
      | _ => exact h.same (congrArg onceDelivered hevents) rfl
    · rw [heq]
      simp only [transportTouchPeer, beq_iff_eq, hrel, if_false]
      exact hplain ctx h
    · rw [heq]
      simp only [htouch, beq_iff_eq, hrel, if_false]
      exact hplain selected (hsel.once h).1

/-- Whether a control packet clears the peer it meets. -/
def ClearsPeer (packet : Packet) (peer : PeerState) : Prop :=
  packet.dataType = XGL_TRANSPORT_CONTROL_RESET ∨
    packet.dataType = XGL_TRANSPORT_CONTROL_HELLO ∧
      peer.sessionId ≠ packet.sessionId &&& XGL_SESSION_ID_MASK

/-- A control packet that clears no peer with receive state. -/
theorem transportProcessControlPacket_once {packet : Packet} (h : Once ctx)
    (hclear : packet.sessionId &&& XGL_SESSION_ID_MASK ≠ 0 →
      ∀ peer, lookupPeer ctx.peers packet.peerKey = some peer → ClearsPeer packet peer →
        peer.rxNextPacketNumber = 0) :
    Once (transportProcessControlPacket env ctx packet).2 := by
  have hcases := transportProcessControlPacket_cases env ctx packet
  generalize (transportProcessControlPacket env ctx packet).2 = after at hcases ⊢
  cases hcases with
  | refused session io hevents => exact h.same (congrArg onceDelivered hevents) rfl
  | reset hsid peer hlook hreset now io hevents =>
    have hzero := hclear hsid peer hlook hreset
    have hentry := peerOf_of_lookupPeer hlook
    refine h.put_same rfl hentry (.fresh rfl rfl) ?_
      (congrArg onceDelivered hevents)
    rw [hzero]
    exact UInt32.le_refl _
  | established hsid peer hlook hsession now io hevents =>
    have hentry := peerOf_of_lookupPeer hlook
    exact h.put_same rfl hentry ((h.held peer (peerOf_mem hentry)).congr rfl rfl rfl rfl)
      (UInt32.le_refl _) (congrArg onceDelivered hevents)
  | created hsid hlook window hwindow manager now io peer hevents hpeer hsize =>
    have hnone := peerOf_none_of_lookupPeer hlook
    rw [← freshPeer_key ctx packet] at hnone
    rcases hpeer with rfl | ⟨_, rfl⟩
    · exact h.cons rfl hnone (.fresh rfl rfl) (congrArg onceDelivered hevents)
    · exact h.cons rfl hnone (.fresh rfl rfl) (congrArg onceDelivered hevents)

/-- An ACK packet leaves the receiving side alone. -/
theorem Once.ack (h : Once ctx) (packet : Packet) :
    Once (transportProcessAckPacket env ctx packet).2 := by
  have hevents := (transportProcessAckPacket_again env ctx packet).once
  have hpeers := transportProcessAckPacket_peers env ctx packet
  cases hfind : transportFindAckPeer ctx.peers packet with
  | none =>
    rw [hfind] at hpeers
    exact h.same hevents hpeers
  | some peer =>
    rw [hfind, Option.elim_some] at hpeers
    split at hpeers
    · have hentry := peerOf_of_transportFindAckPeer hfind
      obtain ⟨_, _, _, hframe⟩ := (transportApplyAck_spec env ctx peer packet).peerFrame
      have hkey := transportApplyAck_key env ctx peer packet
      refine h.put_same hpeers (hkey ▸ hentry) ?_ ?_ hevents
      · rw [hframe]
        exact (h.held peer (peerOf_mem hentry)).congr rfl rfl rfl rfl
      · rw [hframe]
        exact UInt32.le_refl _
    · exact h.same hevents hpeers

/-- What is asked of a packet: a reliable one belongs to a scope and does not carry the last
number, and a control packet clears no peer with receive state. -/
structure Replayable (ctx : TransportCtx) (packet : Packet) : Prop where
  reliable : packet.packetType ≠ XGL_PACKET_TYPE_CONTROL →
    packet.reliable = XGL_RELIABILITY_ACK_ELICITING →
    packet.scoped = true ∧ packet.packetNumber ≠ 0xFFFFFFFF
  control : packet.packetType = XGL_PACKET_TYPE_CONTROL →
    packet.sessionId &&& XGL_SESSION_ID_MASK ≠ 0 →
    ∀ peer, lookupPeer ctx.peers packet.peerKey = some peer → ClearsPeer packet peer →
      peer.rxNextPacketNumber = 0

/-- Any packet that meets it. The three kinds of packets are told apart as the source does:
control, then ACK, then data. -/
theorem xglTransportReceive_once {packet : Packet} (h : Once ctx)
    (hpacket : Replayable ctx packet) : Once (xglTransportReceive env ctx packet).2 := by
  simp only [xglTransportReceive, beq_iff_eq]
  split
  · rename_i htype
    exact transportProcessControlPacket_once h (hpacket.control htype)
  · rename_i htype
    split
    · exact h.ack packet
    · split
      · exact h
      · exact transportReceiveData_once _ h (hpacket.reliable htype)

/-! ### Timers -/

/-- No idle peer has taken a packet in order. -/
def IdleUnused (ctx : TransportCtx) (now : UInt32) : Prop :=
  ctx.config.peerIdleTimeoutMs ≠ 0 → ∀ peer ∈ ctx.peers, peer.rxBuffered = [] →
    ctx.config.peerIdleTimeoutMs ≤ now - peer.lastActiveMs → peer.rxNextPacketNumber = 0

/-- A lookup finds the peer it found before, when that one is kept. -/
theorem peerOf_filter_kept {peers : List PeerState} {keep : PeerState → Bool} {key : PeerKey}
    (h : peerOf peers key = some peer) (hkeep : keep peer = true) :
    peerOf (peers.filter keep) key = some peer := by
  induction peers with
  | nil => cases h
  | cons first rest ih =>
    rw [peerOf_cons] at h
    rw [List.filter_cons]
    by_cases hkey : first.key = key
    · rw [if_pos hkey] at h
      cases h
      rw [if_pos hkeep, peerOf_cons, if_pos hkey]
    · rw [if_neg hkey] at h
      split
      · rw [peerOf_cons, if_neg hkey]
        exact ih h
      · exact ih h

/-- A reclaim that keeps every peer with receive state. -/
theorem Once.reclaim {now : UInt32} (h : Once ctx)
    (hkeeps : ∀ peer ∈ ctx.peers, peer.rxNextPacketNumber ≠ 0 →
      ctx.config.peerIdleTimeoutMs ≠ 0 →
      peer.reclaimable ctx.config.peerIdleTimeoutMs now = false) :
    Once (transportReclaimIdlePeers ctx now) := by
  simp only [transportReclaimIdlePeers]
  split
  · exact h
  rename_i htimeout
  refine ⟨fun peer hpeer => h.held peer (List.mem_of_mem_filter hpeer), ?_, h.nodup⟩
  intro d hd
  obtain ⟨peer, hpeer, hlt⟩ := h.below d hd
  -- something was handed over, so the next number is not zero
  have hnext : peer.rxNextPacketNumber ≠ 0 := by
    intro hzero
    rw [hzero, UInt32.lt_iff_toNat_lt] at hlt
    exact Nat.not_lt_zero _ hlt
  have hkept := hkeeps peer (peerOf_mem hpeer) hnext (by simpa using htimeout)
  exact ⟨peer, peerOf_filter_kept hpeer (by rw [hkept]; rfl), hlt⟩

/-- Periodic processing that reclaims no peer with receive state. -/
theorem xglTransportRun_once {now : UInt32} (h : Once ctx) (hidle : IdleUnused ctx now) :
    Once (xglTransportRun env ctx now) := by
  obtain ⟨hagain, hforall⟩ := transportProcessRetransmissions_again env ctx.config ctx.io now
    ctx.peers
  have hevents := hagain.once
  simp only [xglTransportRun]
  generalize transportProcessRetransmissions env ctx.config now ctx.peers ctx.io = timed
    at hevents hforall
  obtain ⟨peers, io⟩ := timed
  dsimp only at hevents hforall ⊢
  have hkey : ∀ a b : PeerState, (∃ queue deadline,
      b = { a with reliableQueue := queue, earliestDeadlineMs := deadline }) → b.key = a.key := by
    rintro a b ⟨_, _, rfl⟩
    rfl
  have htimed : Once { ctx with peers := peers, io := io } := by
    refine ⟨?_, ?_, hevents ▸ h.nodup⟩
    · intro after hafter
      obtain ⟨before, hbefore, _, _, rfl⟩ := mem_of_forall₂ hforall hafter
      exact (h.held before hbefore).congr rfl rfl rfl rfl
    · intro d hd
      dsimp only at hd ⊢
      rw [hevents] at hd
      obtain ⟨before, hbefore, hlt⟩ := h.below d hd
      obtain ⟨after, hafter, _, _, hframe⟩ := peerOf_forall₂ hforall hkey hbefore
      subst hframe
      exact ⟨_, hafter, hlt⟩
  have hkeeps : ∀ peer ∈ peers, peer.rxNextPacketNumber ≠ 0 →
      ctx.config.peerIdleTimeoutMs ≠ 0 →
      peer.reclaimable ctx.config.peerIdleTimeoutMs now = false := by
    intro after hafter hnext htimeout
    obtain ⟨before, hbefore, _, _, rfl⟩ := mem_of_forall₂ hforall hafter
    by_contra hreclaimed
    simp only [PeerState.reclaimable, Bool.not_eq_false, Bool.and_eq_true, List.isEmpty_iff,
      decide_eq_true_eq] at hreclaimed
    exact hnext (hidle htimeout before hbefore hreclaimed.1.2 hreclaimed.2)
  have hfragments : Once (transportProcessFragmentTimeouts
      { ctx with peers := peers, io := io } now) := by
    exact htimed.same (transportProcessFragmentTimeouts_again _ now).once
      (transportProcessFragmentTimeouts_peers now)
  exact hfragments.reclaim fun peer hpeer => by
    rw [transportProcessFragmentTimeouts_peers] at hpeer
    rw [transportProcessFragmentTimeouts_config]
    exact hkeeps peer hpeer

end Context

/-! ### Runs of a node -/

/-- The packet that the transport of a node receives for a frame. -/
def Node.passedUp (node : Node) (frame : Bytes) : Option Packet :=
  if (xglDatalinkProcessFrame node.datalink frame frame.length).2.2.contains
      (.upperReceive frame frame.length) then
    match xglNetworkReceive node.network true frame frame.length with
    | .deliver packet => some packet
    | _ => none
  else none

/-- A frame that reaches the datalink, whoever put it on the wire, or a run of the timers. -/
inductive ReceiverAction where
  | frame (bytes : Bytes)
  | run (currentTimeMs : UInt32)

/-- One action of a receiver. -/
def receiverStep (clock : Nat → UInt32) (node : Node) : ReceiverAction → Node
  | .frame bytes => (nodeProcess clock node bytes).2.1
  | .run currentTimeMs => (nodeRun clock node currentTimeMs).1

/-- The step throws no ordering state away. -/
def KeepsOrder (node : Node) : ReceiverAction → Prop
  | .frame bytes => ∀ packet, node.passedUp bytes = some packet → Replayable node.transport packet
  | .run currentTimeMs => IdleUnused node.transport currentTimeMs

/-- The transport of a node receives the packet that is passed up, and no other. -/
theorem nodeProcess_transport (clock : Nat → UInt32) (node : Node) (frame : Bytes) :
    (nodeProcess clock node frame).2.1.transport = node.transport ∨
      ∃ env packet, node.passedUp frame = some packet ∧
        (nodeProcess clock node frame).2.1.transport
          = (xglTransportReceive env node.transport packet).2 := by
  simp only [nodeProcess, Node.passedUp, nodeReceive]
  split
  · cases xglNetworkReceive node.network true frame frame.length with
    | done error _ => exact .inl rfl
    | transmitted error _ forward => exact .inl rfl
    | deliver packet => exact .inr ⟨_, packet, rfl, rfl⟩
  · exact .inl rfl

/-- One action of a receiver. -/
theorem receiverStep_once {clock : Nat → UInt32} {node : Node} {action : ReceiverAction}
    (h : Once node.transport) (hkeeps : KeepsOrder node action) :
    Once (receiverStep clock node action).transport := by
  cases action with
  | frame bytes =>
    show Once (nodeProcess clock node bytes).2.1.transport
    rcases nodeProcess_transport clock node bytes with hsame | ⟨env, packet, hpassed, hreceived⟩
    · rw [hsame]
      exact h
    · rw [hreceived]
      exact xglTransportReceive_once h (hkeeps packet hpassed)
  | run now => exact xglTransportRun_once h hkeeps

/-- No replayed payload is delivered twice: in a run of a fresh receiver over any frames, in
which no step throws ordering state away, each number of each scope is handed over once. -/
theorem replayed_once (clock : Nat → UInt32) (config : TransportConfig) (node : Node)
    (hinit : xglTransportInit config = .ok node.transport) (actions : List ReceiverAction)
    (hkeeps : Along (receiverStep clock) KeepsOrder actions node) :
    (onceDelivered (actions.foldl (receiverStep clock) node).transport.io.events).Nodup := by
  have hfresh : Once node.transport := by
    obtain ⟨hpeers, hevents, _⟩ := xglTransportInit_fresh hinit
    have hnothing : onceDelivered node.transport.io.events = [] := by
      rw [hevents]
      rfl
    refine ⟨?_, ?_, ?_⟩
    · rw [hpeers]
      intro peer hpeer
      cases hpeer
    · rw [hnothing]
      intro d hd
      cases hd
    · rw [hnothing]
      exact .nil
  have hrun := foldl_along (fun node : Node => Once node.transport)
    (fun _ _ h hstep => receiverStep_once h hstep) actions node hfresh hkeeps
  exact hrun.nodup

/-! ### Two nodes that require authentication -/

/-- A provider whose tag is one byte computed from all it is handed. -/
def sumProvider : AuthProvider where
  sign := some fun keyId aad payload _ => .ok [(aad ++ payload).foldl (· + ·) keyId.toUInt8]
  verify := some fun input =>
    (.ok, input.tag == [(input.aad ++ input.payload).foldl (· + ·) input.keyId.toUInt8])
  tagLen := 1

/-- The settings of a node, with the idle timeout of the default configurations. -/
def guardedConfig (me : UInt16) : TransportConfig where
  localId := me
  authTagLen := 1
  peerIdleTimeoutMs := 60000

/-- A fresh node that requires authentication, with a route to another. -/
def guardedNode (me other : UInt16) : Node where
  transport :=
    { config := guardedConfig me
      nextSessionId := me
      window := freshWindow 8 }
  network :=
    { localId := me
      routeTable := [{ targetId := other, phy := some { id := 0, tx := some fun _ => .ok }
                       maxFrameSize := 256 }]
      authRequired := true
      authProvider := some sumProvider }
  datalink :=
    { parser :=
        { state := .magic, cache := List.replicate 64 0, cacheSize := 64, cacheLen := 0, index := 0
          timestamp := 0, expectedHeaderLen := 0, expectedPayloadLen := 0, expectedAuthTagLen := 0 }
      authRequired := true
      authKeyId := 7
      authProvider := some sumProvider }

/-- The HELLO of node 1 for connection 5. -/
def helloFrame : Bytes :=
  [0xA5, 0x5A, 2, 42, 3, 50, 8, 7, 1, 0, 2, 0, 5, 0, 0, 0, 0, 0, 0, 0, 0, 0, 14, 65, 8, 1, 14, 5,
    13, 7, 0, 0, 0, 0, 0, 0, 0, 0, 0, 0, 0, 1, 167, 109, 180]

/-- The data frame behind it, with payload 7. -/
def dataFrame : Bytes :=
  [0xA5, 0x5A, 2, 39, 1, 19, 8, 64, 1, 0, 2, 0, 5, 0, 0, 0, 0, 0, 0, 0, 1, 0, 159, 156, 5, 13, 7,
    0, 0, 0, 0, 0, 0, 0, 0, 0, 0, 0, 1, 7, 173, 102, 74]

/-- Node 2 gets both frames, the data frame again, and a run of the timers half a minute
later: nothing is handed over twice. -/
theorem replayed_once_in_time :
    xglTransportInit (guardedConfig 2) = .ok (guardedNode 2 1).transport ∧
      (onceDelivered ([.frame helloFrame, .frame dataFrame, .frame dataFrame, .run 30000].foldl
        (receiverStep fun _ => 0) (guardedNode 2 1)).transport.io.events).Nodup := by
  refine ⟨rfl, replayed_once (fun _ => 0) (guardedConfig 2) (guardedNode 2 1) rfl _ ?_⟩
  -- a data frame with a scope clears no peer, whatever the state
  have hdata : ∀ node : Node, (node.passedUp dataFrame).map (fun packet =>
        (packet.packetType, packet.scoped, packet.packetNumber))
        = some (XGL_PACKET_TYPE_DATA, true, 0) → KeepsOrder node (.frame dataFrame) := by
    intro node hfields packet hpassed
    rw [hpassed, Option.map_some, Option.some.injEq, Prod.mk.injEq, Prod.mk.injEq] at hfields
    obtain ⟨htype, hscoped, hnumber⟩ := hfields
    refine ⟨fun _ _ => ⟨hscoped, ?_⟩, fun hcontrol => ?_⟩
    · rw [hnumber]
      decide
    · rw [htype] at hcontrol
      exact absurd hcontrol (by decide)
  refine ⟨?_, hdata _ (by decide +kernel), hdata _ (by decide +kernel), ?_, trivial⟩
  · intro packet hpassed
    have htype : ((guardedNode 2 1).passedUp helloFrame).map Packet.packetType
        = some XGL_PACKET_TYPE_CONTROL := by decide +kernel
    rw [hpassed, Option.map_some, Option.some.injEq] at htype
    refine ⟨fun hne => absurd htype hne, ?_⟩
    -- there is no peer yet
    intro _ _ peer hlook
    cases peerOf_mem (peerOf_of_lookupPeer hlook)
  · show IdleUnused _ _
    unfold IdleUnused
    decide +kernel

/-- Time 0 for the first two frames, and behind the idle timeout from then on. -/
def lateClock (count : Nat) : UInt32 :=
  if count < 2 then 0 else 70000

/-- Node 1 sends one payload. Node 2 gets its frames, is idle for longer than the timeout, and
gets the data frame again: the payload is handed over twice. -/
theorem reclaim_delivers_again :
    xglTransportInit (guardedConfig 2) = .ok (guardedNode 2 1).transport ∧
      (nodeSend (fun _ => 0) (guardedNode 1 2) sampleTx).1 = .ok ∧
      (nodeSend (fun _ => 0) (guardedNode 1 2) sampleTx).2.2 = [helloFrame, dataFrame] ∧
      rxPayloads ([.frame helloFrame, .frame dataFrame, .run 70000, .frame dataFrame].foldl
        (receiverStep lateClock) (guardedNode 2 1)).transport.io.events = [[7], [7]] ∧
      ¬ (onceDelivered ([.frame helloFrame, .frame dataFrame, .run 70000, .frame dataFrame].foldl
        (receiverStep lateClock) (guardedNode 2 1)).transport.io.events).Nodup := by
  refine ⟨rfl, ?_, ?_, ?_, ?_⟩ <;> decide +kernel

end XgenLink
