import XgenLink.Lib.Run
import XgenLink.Proofs.FeedbackDecoding
import XgenLink.Proofs.InOrderDelivery

/-!
# `XgenLink.Proofs.AckSoundness`: what an acknowledgement promises

A sender that sees its packet acknowledged forgets it. So an acknowledgement promises that the
payload is not needed again: it was handed to the application, it lies in a reassembly buffer,
or the receiver still holds it.

The receiver does not always keep that promise. It acknowledges the expected packet before it
delivers it, and a buffered packet even when its delivery fails; both can only fail for a
fragment the manager does not take. The promise is kept in every run in which each packet that
reaches delivery can be delivered.

* `Acknowledged`, `Accepted`, `Held`: the three things to compare, read off the events of the
  run and the state of the stream's peer.
* `FragmentAdmitted`, `Deliverable`, `CallAdmitted`: when the reassembly takes what a call
  brings. The conditions are on the packet and the state before the call.
* `transportDeliverPacket_deliverable`: a deliverable packet is accepted.
* `AckInv`: the invariant of one peer. `rxReliable_ackInv` is the step lemma, one case for each
  place a packet number can have, and `receiveAll_sound` the run lemma.
* `acknowledged_accepted_or_held`: runs in which every call is admitted.
* `acknowledged_fragment_lost`: a fragment acknowledged and lost.
-/

set_option autoImplicit false

namespace XgenLink

/-! ### Acknowledged, accepted, held -/

/-- An ACK_RANGE or SACK over `n` has been emitted. -/
def Acknowledged (events : List TransportEvent) (n : UInt32) : Prop :=
  ∃ packet err, TransportEvent.layerSend packet err ∈ events ∧ packetCovers packet n

/-- The packet an event accepts: handed to the receive callback or stored in a
reassembly buffer. -/
def acceptedPacket : TransportEvent → Option Packet
  | .rxCallback _ _ _ origin => some origin
  | .fragmentStored origin => some origin
  | _ => none

/-- The payload of a packet numbered `n` has been accepted. -/
def Accepted (events : List TransportEvent) (n : UInt32) : Prop :=
  ∃ event ∈ events, ∃ packet, acceptedPacket event = some packet ∧ packet.packetNumber = n

/-- A packet numbered `n` is on an out-of-order list. -/
def HeldIn (buffered : List Packet) (n : UInt32) : Prop :=
  ∃ b ∈ buffered, b.packetNumber = n

/-- A packet numbered `n` is on the out-of-order list of the stream's peer. -/
def Held (ctx : TransportCtx) (key : PeerKey) (n : UInt32) : Prop :=
  ∃ peer, peerOf ctx.peers key = some peer ∧ HeldIn peer.rxBuffered n

/-- An acknowledgement in a log is one in one of its parts. -/
theorem acknowledged_append {a b : List TransportEvent} {n : UInt32} :
    Acknowledged (a ++ b) n ↔ Acknowledged a n ∨ Acknowledged b n := by
  unfold Acknowledged
  simp only [List.mem_append]
  constructor
  · rintro ⟨packet, err, hmem | hmem, hcov⟩
    · exact .inl ⟨packet, err, hmem, hcov⟩
    · exact .inr ⟨packet, err, hmem, hcov⟩
  · rintro (⟨packet, err, hmem, hcov⟩ | ⟨packet, err, hmem, hcov⟩)
    · exact ⟨packet, err, .inl hmem, hcov⟩
    · exact ⟨packet, err, .inr hmem, hcov⟩

/-- What was accepted stays accepted: the log only grows. -/
theorem Accepted.mono {a : List TransportEvent} {n : UInt32} (h : Accepted a n)
    (b : List TransportEvent) : Accepted (a ++ b) n := by
  obtain ⟨event, hmem, hrest⟩ := h
  exact ⟨event, List.mem_append_left b hmem, hrest⟩

/-- Sending acknowledges what the packet covers, and accepts nothing. -/
theorem lowerSend_events (env : TransportEnv) (config : TransportConfig) (io : TransportIo)
    (packet : Packet) :
    ∃ new, (transportLowerSend env config io packet).2.events = io.events ++ new ∧
      ∀ n, Acknowledged new n → packetCovers packet n := by
  unfold transportLowerSend
  split
  · refine ⟨_, xglLayerSend_events env io packet, ?_⟩
    rintro n ⟨sent, err, hmem, hcov⟩
    rw [List.mem_singleton] at hmem
    cases hmem
    exact hcov
  · refine ⟨[], (List.append_nil _).symm, ?_⟩
    rintro n ⟨_, _, hmem, _⟩
    cases hmem

/-! ### When a packet can be delivered -/

/-- The manager takes the fragment: its FRAGMENT_EXT decodes, the payload is not
empty and lies inside the message, and there is room for it. Room is a buffer of
the message with the same type and size whose ranges take the new one, or else a
free slot, budget and memory for a new buffer. -/
structure FragmentAdmitted (env : TransportEnv) (io : TransportIo) (manager : FragmentManager)
    (packet : Packet) (data : Bytes) (ext : FragmentExt) : Prop where
  decodes : deliveredFragmentExt packet.extensions = .ok ext
  nonempty : data ≠ []
  inside : ext.fragmentOffset.toNat + data.length ≤ ext.messageLen.toNat
  room : match fragmentFindReassemblyBuffer manager (fragmentKey packet ext) with
    | some buffer => buffer.dataType = packet.dataType ∧
        buffer.bufferSize = ext.messageLen.toNat ∧
        ∃ ranges, fragmentInsertReceivedRange buffer.receivedRanges ext.fragmentOffset.toNat
          (ext.fragmentOffset.toNat + data.length) = .ok ranges
    | none => manager.reassemblyList.length < manager.maxReassemblyBuffers ∧
        (manager.maxMessageSize = 0 ∨ ext.messageLen.toNat ≤ manager.maxMessageSize) ∧
        (manager.maxReassemblyBytes = 0 ∨
          manager.currentReassemblyBytes + ext.messageLen.toNat ≤ manager.maxReassemblyBytes) ∧
        env.allocOk io.allocCount = true ∧ env.allocOk (io.allocCount + 1) = true

/-- The packet can be delivered: it is no fragment, nothing reassembles, or the
manager takes it. -/
def Deliverable (env : TransportEnv) (manager : Option FragmentManager) (io : TransportIo)
    (packet : Packet) (data : Bytes) : Prop :=
  packet.fragment = 0 ∨ manager = none ∨
    ∃ m ext, manager = some m ∧ FragmentAdmitted env io m packet data ext

/-- The packets can be delivered one after the other, each acknowledged before the
next. -/
def DeliverableRun (env : TransportEnv) (config : TransportConfig) :
    Option FragmentManager → TransportIo → List Packet → Prop
  | _, _, [] => True
  | manager, io, packet :: rest =>
    Deliverable env manager io packet (packet.payload?.getD []) ∧
      DeliverableRun env config
        (transportDeliverPacket env config manager io packet (packet.payload?.getD [])).2.1
        (transportSendAck env config
          (transportDeliverPacket env config manager io packet (packet.payload?.getD [])).2.2
          packet.feedbackScope packet.packetNumber).2 rest

/-- The buffered packets that follow `n` without a gap. -/
def inOrderRun : UInt32 → List Packet → List Packet
  | _, [] => []
  | n, packet :: rest =>
    if packet.packetNumber == n then packet :: inOrderRun (n + 1) rest else []

/-- A call of `xgl_transport_receive` is admitted when the expected packet and the
buffered packets that follow it without a gap can all be delivered. -/
def CallAdmitted (env : TransportEnv) (ctx : TransportCtx) (packet : Packet) : Prop :=
  ∀ selected peer data, selectRxPeer env ctx packet = some (selected, peer) →
    packet.payload? = some data →
    packet.packetNumber = (rxOrderInit peer).rxNextPacketNumber →
    let io := (transportSendAck env selected.config selected.io packet.feedbackScope
      packet.packetNumber).2
    let payload := transportDecodeData selected.config packet data
    let delivered := transportDeliverPacket env selected.config selected.fragmentMgr io packet
      payload
    Deliverable env selected.fragmentMgr io packet payload ∧
      DeliverableRun env selected.config delivered.2.1 delivered.2.2
        (inOrderRun (packet.packetNumber + 1) peer.rxBuffered)

/-! ### Deliverable packets are accepted -/

/-- A buffer that takes the range stores the payload. -/
theorem fragmentStore_stored (env : TransportEnv) (io : TransportIo) (manager : FragmentManager)
    {buffer : ReassemblyBuffer} {dataType : UInt8} {offset messageLen : UInt32} {payload : Bytes}
    (now : UInt32) (htype : buffer.dataType = dataType)
    (hsize : buffer.bufferSize = messageLen.toNat) {ranges : List ReceivedRange}
    (hranges : fragmentInsertReceivedRange buffer.receivedRanges offset.toNat
      (offset.toNat + payload.length) = .ok ranges) :
    let result := fragmentStore env io manager buffer dataType offset messageLen payload now
    result.1.stored = true ∧ (result.1.error = .ok ∨ result.1.error = .busy) ∧
      result.2.2.events = io.events := by
  dsimp only
  unfold fragmentStore
  rw [if_neg (by simp [htype, hsize])]
  dsimp only
  rw [hranges]
  dsimp only
  generalize hnow : (if (buffer.receivedBytes == 0 && now == 0) = true then xglTimeMs env io
    else (if (buffer.receivedBytes == 0) = true then now else buffer.firstFragmentTime, io)) = clock
  have hevents : clock.2.events = io.events := by
    rw [← hnow]
    split <;> rfl
  split
  · exact ⟨rfl, .inl rfl, hevents⟩
  · exact ⟨rfl, .inr rfl, hevents⟩

/-- An admitted fragment is stored. -/
theorem FragmentAdmitted.stored {env : TransportEnv} {io : TransportIo} {manager : FragmentManager}
    {packet : Packet} {data : Bytes} {ext : FragmentExt}
    (h : FragmentAdmitted env io manager packet data ext) :
    let result := xglFragmentProcessExt env io manager (fragmentKey packet ext) packet.dataType
      ext.fragmentOffset ext.messageLen data 0
    result.1.stored = true ∧ (result.1.error = .ok ∨ result.1.error = .busy) ∧
      result.2.2.events = io.events := by
  dsimp only
  have hpos : 0 < data.length := List.length_pos_iff.mpr h.nonempty
  have hinside := h.inside
  have hroom := h.room
  -- an empty message has no room for a payload that is not empty
  have hlen : ext.messageLen ≠ 0 := by
    intro hzero
    rw [hzero] at hinside
    have : (0 : UInt32).toNat = 0 := rfl
    omega
  unfold xglFragmentProcessExt
  rw [if_neg (by simp [h.nonempty]), if_neg]
  swap
  · simp only [Bool.or_eq_true, beq_iff_eq, decide_eq_true_eq, gt_iff_lt, UInt32.lt_iff_toNat_lt]
    rintro ((hz | hlt) | hgt)
    · exact hlen hz
    · omega
    · omega
  -- the message has a buffer, or gets one
  cases hfind : fragmentFindReassemblyBuffer manager (fragmentKey packet ext) with
  | some buffer =>
    rw [hfind] at hroom
    obtain ⟨htype, hsize, ranges, hranges⟩ := hroom
    exact fragmentStore_stored env io manager 0 htype hsize hranges
  | none =>
    rw [hfind] at hroom
    -- a new buffer needs a slot, budget, and two allocations
    obtain ⟨hslots, hsize, hbytes, hfirst, hsecond⟩ := hroom
    have hcreate : fragmentCreateReassemblyBuffer env io manager (fragmentKey packet ext)
        packet.dataType ext.messageLen
          = (.ok (freshBuffer manager (fragmentKey packet ext) packet.dataType ext.messageLen),
              { manager with
                currentReassemblyBytes :=
                  manager.currentReassemblyBytes + ext.messageLen.toNat
                reassemblyList := manager.reassemblyList ++
                  [freshBuffer manager (fragmentKey packet ext) packet.dataType ext.messageLen] },
              { io with allocCount := io.allocCount + 1 + 1 }) := by
      unfold fragmentCreateReassemblyBuffer
      rw [if_neg (by omega), if_neg, if_neg]
      · have hstruct : transportMalloc env io structSize
            = (true, { io with allocCount := io.allocCount + 1 }) := by
          unfold transportMalloc
          rw [if_neg (by decide), hfirst]
        have hmessage : transportMalloc env { io with allocCount := io.allocCount + 1 }
            ext.messageLen.toNat = (true, { io with allocCount := io.allocCount + 1 + 1 }) := by
          unfold transportMalloc
          rw [if_neg (by simp; omega), hsecond]
        rw [hstruct]
        dsimp only
        rw [if_neg (by decide), hmessage]
        rfl
      · simp only [Bool.and_eq_true, bne_iff_ne, Bool.or_eq_true, decide_eq_true_eq, not_and,
          not_or]
        intro hne
        rcases hbytes with hzero | hle
        · exact absurd hzero hne
        · omega
      · simp only [Bool.and_eq_true, bne_iff_ne, decide_eq_true_eq, not_and]
        intro hne
        rcases hsize with hzero | hle
        · exact absurd hzero hne
        · omega
    dsimp only
    rw [hcreate]
    -- in a new buffer there is nothing to overlap with
    have hinsert : fragmentInsertReceivedRange [] ext.fragmentOffset.toNat
        (ext.fragmentOffset.toNat + data.length)
          = .ok [{ start := ext.fragmentOffset.toNat
                   stop := ext.fragmentOffset.toNat + data.length }] := by
      unfold fragmentInsertReceivedRange
      rw [if_neg (by omega)]
      rfl
    exact fragmentStore_stored env _ _ 0 rfl rfl hinsert

/-- A deliverable packet is delivered, and then it is accepted; nothing is
acknowledged meanwhile. -/
theorem transportDeliverPacket_deliverable {env : TransportEnv} {config : TransportConfig}
    (hrx : config.rxCallback = true) {manager : Option FragmentManager} {io : TransportIo}
    {packet : Packet} {data : Bytes} (h : Deliverable env manager io packet data) :
    (transportDeliverPacket env config manager io packet data).1 = .ok ∧
      ∃ new, (transportDeliverPacket env config manager io packet data).2.2.events
          = io.events ++ new ∧
        Accepted new packet.packetNumber ∧ ∀ n, ¬ Acknowledged new n := by
  have hquiet : ∀ n bytes, ¬ Acknowledged
      [.rxCallback packet.sourceId packet.dataType bytes packet] n := by
    rintro n bytes ⟨_, _, hmem, _⟩
    simp at hmem
  -- a payload that is not reassembled goes straight to the callback
  have hplain : ∀ (io : TransportIo), ∃ new, (emitRx config io packet data).events
      = io.events ++ new ∧ Accepted new packet.packetNumber ∧ ∀ n, ¬ Acknowledged new n := by
    intro io
    unfold emitRx
    rw [if_pos hrx]
    exact ⟨_, rfl, ⟨_, List.mem_singleton_self _, packet, rfl, rfl⟩, fun n => hquiet n data⟩
  rcases h with hunfrag | rfl | ⟨m, ext, rfl, hadm⟩
  · rw [transportDeliverPacket_unfragmented env config manager io data hunfrag]
    exact ⟨rfl, hplain io⟩
  · exact ⟨rfl, hplain io⟩
  · unfold transportDeliverPacket
    dsimp only
    by_cases hfrag : packet.fragment = 0
    · rw [if_neg (by simp [hfrag])]
      exact ⟨rfl, hplain io⟩
    rw [if_pos (by simp [hfrag])]
    unfold transportDeliverFragment
    rw [hadm.decodes]
    obtain ⟨hstored, herr, hevents⟩ := hadm.stored
    dsimp only
    generalize xglFragmentProcessExt env io m (fragmentKey packet ext) packet.dataType
      ext.fragmentOffset ext.messageLen data 0 = processed at hstored herr hevents ⊢
    obtain ⟨⟨err, complete, stored⟩, manager, io'⟩ := processed
    dsimp only at hstored herr hevents ⊢
    subst hstored
    have hemit : (emitStored io' packet true).events = io.events ++ [.fragmentStored packet] := by
      unfold emitStored
      rw [if_pos rfl, TransportIo.emit_events, hevents]
    have haccepted : Accepted [TransportEvent.fragmentStored packet] packet.packetNumber :=
      ⟨_, List.mem_singleton_self _, packet, rfl, rfl⟩
    -- the last fragment completes the message, an earlier one is stored only
    rcases herr with rfl | rfl
    · refine ⟨rfl, [.fragmentStored packet] ++
        [.rxCallback packet.sourceId packet.dataType (complete.getD []) packet], ?_,
        haccepted.mono _, ?_⟩
      · dsimp only
        unfold emitRx
        rw [if_pos hrx, TransportIo.emit_events, hemit, List.append_assoc]
      · rintro n hack
        rcases acknowledged_append.mp hack with ⟨_, _, hmem, _⟩ | hack
        · simp at hmem
        · exact hquiet n _ hack
    · refine ⟨rfl, [.fragmentStored packet], hemit, haccepted, ?_⟩
      rintro n ⟨_, _, hmem, _⟩
      simp at hmem

/-! ### One peer -/

/-- Acknowledgements and the state of the peer agree. Where no packet carries the
last number, an acknowledged number is below the next one or still held, so the
stream never waits for it again. -/
structure AckInv (small : Prop) (events : List TransportEvent) (peer : PeerState) : Prop where
  acks : ∀ n, Acknowledged events n → Accepted events n ∨ HeldIn peer.rxBuffered n
  below : ∀ n, n < peer.rxNextPacketNumber → Accepted events n
  settled : small → ∀ n, Acknowledged events n →
    n < peer.rxNextPacketNumber ∨ HeldIn peer.rxBuffered n
  held : small → ∀ b ∈ peer.rxBuffered, b.packetNumber.toNat < 2 ^ 32 - 1

section Peer

variable {env : TransportEnv} {config : TransportConfig} {small : Prop}

/-- Accepting and acknowledging the packet with the next number. `held` is the
out-of-order list before, of which the packet may be the head. -/
theorem AckInv.accept {before events : List TransportEvent} {peer after : PeerState}
    {n : UInt32} (h : AckInv small before peer) (hn : n = peer.rxNextPacketNumber)
    (hsmall : small → n.toNat < 2 ^ 32 - 1)
    (hold : ∀ m, Accepted before m → Accepted events m) (haccepted : Accepted events n)
    (hacks : ∀ m, Acknowledged events m → Acknowledged before m ∨ m = n)
    (hheld : ∀ m, HeldIn peer.rxBuffered m → m = n ∨ HeldIn after.rxBuffered m)
    (hsub : ∀ b ∈ after.rxBuffered, b ∈ peer.rxBuffered)
    (hnext : after.rxNextPacketNumber = n + 1) : AckInv small events after where
  acks := by
    intro m hack
    rcases hacks m hack with hback | rfl
    · rcases h.acks m hback with hacc | hmem
      · exact .inl (hold m hacc)
      · rcases hheld m hmem with rfl | hmem
        · exact .inl haccepted
        · exact .inr hmem
    · exact .inl haccepted
  below := by
    intro m hlt
    rw [hnext] at hlt
    -- behind the last number the next one is zero, and there is nothing below
    by_cases hmn : m = n
    · exact hmn ▸ haccepted
    · refine hold m (h.below m ?_)
      rw [← hn]
      rw [← UInt32.toNat_inj] at hmn
      rw [UInt32.lt_iff_toNat_lt, UInt32.toNat_add] at *
      have : (1 : UInt32).toNat = 1 := rfl
      have := n.toNat_lt
      omega
  settled := by
    -- the numbers do not wrap here, so the next one is above every earlier one
    intro hs m hack
    have hsucc : (n + 1).toNat = n.toNat + 1 := by
      have := hsmall hs
      have h1 : (1 : UInt32).toNat = 1 := rfl
      rw [UInt32.toNat_add]
      omega
    rw [hnext, UInt32.lt_iff_toNat_lt, hsucc]
    rcases hacks m hack with hback | rfl
    · rcases h.settled hs m hback with hlt | hmem
      · rw [← hn, UInt32.lt_iff_toNat_lt] at hlt
        exact .inl (by omega)
      · rcases hheld m hmem with rfl | hmem
        · exact .inl (by omega)
        · exact .inr hmem
    · exact .inl (by omega)
  held := fun hs b hb => h.held hs b (hsub b hb)

/-- Draining buffered packets that can all be delivered. -/
theorem drain_ackInv (hrx : config.rxCallback = true) (manager : Option FragmentManager)
    (io : TransportIo) (peer : PeerState)
    (hsorted : peer.rxBuffered.Pairwise fun a b => a.packetNumber < b.packetNumber)
    (hge : ∀ b ∈ peer.rxBuffered, peer.rxNextPacketNumber ≤ b.packetNumber)
    (hhas : peer.rxHasPacketNumberState = true)
    (hrun : DeliverableRun env config manager io
      (inOrderRun peer.rxNextPacketNumber peer.rxBuffered))
    (hinv : AckInv small io.events peer) :
    RxShape (transportDrainRxBuffered env config manager io peer).2.2.2 ∧
      AckInv small (transportDrainRxBuffered env config manager io peer).2.2.1.events
        (transportDrainRxBuffered env config manager io peer).2.2.2 := by
  unfold transportDrainRxBuffered
  refine drainLoop_rule
    (fun manager io peer =>
      peer.rxBuffered.Pairwise (fun a b => a.packetNumber < b.packetNumber) ∧
      (∀ b ∈ peer.rxBuffered, peer.rxNextPacketNumber ≤ b.packetNumber) ∧
      peer.rxHasPacketNumberState = true ∧
      DeliverableRun env config manager io
        (inOrderRun peer.rxNextPacketNumber peer.rxBuffered) ∧
      AckInv small io.events peer)
    (fun _ io peer => RxShape peer ∧ AckInv small io.events peer)
    ?_ ?_ _ manager io peer (le_refl _) ⟨hsorted, hge, hhas, hrun, hinv⟩
  · intro _ io' peer' ⟨hsorted, hge, hhas, _, hinv⟩ hnone
    refine ⟨⟨hsorted, ?_, fun hf => by rw [hhas] at hf; cases hf⟩, hinv⟩
    rcases takeRxBuffered_sorted hsorted hge with ⟨_, hlt⟩ | ⟨first, rest, _, _, hsome⟩
    · exact hlt
    · simp [transportTakeRxBuffered, hsome] at hnone
  · intro manager' io' peer' buffered after ⟨hsorted, hge, hhas, hrun, hinv⟩ htake
    obtain ⟨hwalk, hafter⟩ := transportTakeRxBuffered_some htake
    rcases takeRxBuffered_sorted hsorted hge with ⟨hnone, _⟩ |
      ⟨first, rest, hlist, hfirst, hsome⟩
    · rw [hnone] at hwalk
      cases hwalk
    rw [hsome] at hwalk
    injection hwalk with hwalk
    obtain ⟨rfl, hrest⟩ := Prod.mk.inj hwalk
    rw [hlist] at hsorted
    rw [List.pairwise_cons] at hsorted
    have hstep : inOrderRun peer'.rxNextPacketNumber peer'.rxBuffered
        = first :: inOrderRun (first.packetNumber + 1) rest := by
      rw [hlist, ← hfirst]
      unfold inOrderRun
      rw [if_pos (by simp)]
      cases rest <;> rfl
    rw [hstep] at hrun
    obtain ⟨hdeliverable, hmore⟩ := hrun
    obtain ⟨hok, new, hevents, haccepted, hquiet⟩ :=
      transportDeliverPacket_deliverable hrx hdeliverable
    dsimp only
    refine ⟨fun _ => ?_, fun hne => absurd hok hne⟩
    rw [transportSendAck_eq] at hmore ⊢
    obtain ⟨sent, hsent, hcovers⟩ := lowerSend_events env config
      (transportDeliverPacket env config manager' io' first (first.payload?.getD [])).2.2
      (ackPacket config first.feedbackScope first.packetNumber)
    refine ⟨?_, ?_, ?_, ?_, ?_⟩
    · rw [← hrest]
      exact hsorted.2
    · intro b hb
      have := hsorted.1 b (hrest ▸ hb)
      rw [UInt32.lt_iff_toNat_lt] at this
      rw [UInt32.le_iff_toNat_le, UInt32.toNat_add]
      have h1 : (1 : UInt32).toNat = 1 := rfl
      have := b.packetNumber.toNat_lt
      omega
    · rw [hafter]
      exact hhas
    · rw [← hrest]
      exact hmore
    · rw [hsent, hevents]
      refine hinv.accept (n := first.packetNumber) hfirst ?_ ?_ ?_ ?_ ?_ ?_ rfl
      · exact fun hs => hinv.held hs first (hlist ▸ List.mem_cons_self)
      · exact fun m hm => (hm.mono new).mono sent
      · obtain ⟨event, hmem, hrest'⟩ := haccepted
        exact ⟨event, List.mem_append_left _ (List.mem_append_right _ hmem), hrest'⟩
      · intro m hack
        rcases acknowledged_append.mp hack with hack | hack
        · rcases acknowledged_append.mp hack with hback | hnew
          · exact .inl hback
          · exact absurd hnew (hquiet m)
        · exact .inr (packetCovers_ackPacket.mp (hcovers m hack))
      · rintro m ⟨b, hb, rfl⟩
        rw [hlist] at hb
        rcases List.mem_cons.mp hb with rfl | hb
        · exact .inl rfl
        · exact .inr ⟨b, hrest ▸ hb, rfl⟩
      · intro b hb
        rw [hlist]
        exact List.mem_cons_of_mem _ (hrest ▸ hb)

/-- One packet on its peer, when what reaches delivery can be delivered. -/
theorem rxReliable_ackInv (hrx : config.rxCallback = true) (manager : Option FragmentManager)
    (io : TransportIo) (peer : PeerState) (packet : Packet) (data : Bytes)
    (hsmall : small → packet.packetNumber.toNat < 2 ^ 32 - 1) (hshape : RxShape peer)
    (hinv : AckInv small io.events peer)
    (hadmitted : packet.packetNumber = (rxOrderInit peer).rxNextPacketNumber →
      let io := (transportSendAck env config io packet.feedbackScope packet.packetNumber).2
      let payload := transportDecodeData config packet data
      let delivered := transportDeliverPacket env config manager io packet payload
      Deliverable env manager io packet payload ∧
        DeliverableRun env config delivered.2.1 delivered.2.2
          (inOrderRun (packet.packetNumber + 1) peer.rxBuffered)) :
    RxShape (rxReliable env config manager io peer packet data).2.2.2 ∧
      AckInv small (rxReliable env config manager io peer packet data).2.2.1.events
        (rxReliable env config manager io peer packet data).2.2.2 := by
  obtain ⟨hshape', hnext, hbuffered, hhas⟩ := hshape.init
  rcases packetNumber_trichotomy packet.packetNumber (rxOrderInit peer).rxNextPacketNumber with
    hlt | heq | hgt
  · -- a duplicate was accepted before
    rw [rxReliable_duplicate env config manager io data hlt]
    obtain ⟨sent, hsent, hcovers⟩ := lowerSend_events env config io
      (ackPacket config packet.feedbackScope packet.packetNumber)
    refine ⟨hshape', ?_⟩
    dsimp only
    rw [hsent]
    rw [hnext] at hlt
    refine ⟨?_, ?_, ?_, by rw [hbuffered]; exact hinv.held⟩
    · intro n hack
      rw [hbuffered]
      rcases acknowledged_append.mp hack with hback | hnew
      · rcases hinv.acks n hback with hacc | hmem
        · exact .inl (hacc.mono sent)
        · exact .inr hmem
      · rw [packetCovers_ackPacket.mp (hcovers n hnew)]
        exact .inl ((hinv.below _ hlt).mono sent)
    · intro n hn
      exact (hinv.below n (hnext ▸ hn)).mono sent
    · intro hs n hack
      rw [hbuffered, hnext]
      rcases acknowledged_append.mp hack with hback | hnew
      · exact hinv.settled hs n hback
      · rw [packetCovers_ackPacket.mp (hcovers n hnew)]
        exact .inl hlt
  -- the expected packet is acknowledged, delivered, and followed by a drain
  · rw [rxReliable_expected env config manager io data heq]
    obtain ⟨hdeliverable, hrun⟩ := hadmitted heq
    rw [transportSendAck_eq] at hdeliverable hrun
    obtain ⟨sent, hsent, hcovers⟩ := lowerSend_events env config io
      (ackPacket config packet.feedbackScope packet.packetNumber)
    obtain ⟨hok, new, hevents, haccepted, hquiet⟩ :=
      transportDeliverPacket_deliverable hrx hdeliverable
    dsimp only at hrun ⊢
    generalize transportDeliverPacket env config manager
      (transportLowerSend env config io
        (ackPacket config packet.feedbackScope packet.packetNumber)).2 packet
      (transportDecodeData config packet data) = delivered at hok hevents hrun ⊢
    obtain ⟨err, manager', io'⟩ := delivered
    dsimp only at hok hevents hrun ⊢
    subst hok
    dsimp only
    refine drain_ackInv hrx manager' io' _ hshape'.sorted ?_ hhas ?_ ?_
    · intro b hb
      have := hshape'.above b hb
      rw [← heq, UInt32.lt_iff_toNat_lt] at this
      dsimp only
      rw [UInt32.le_iff_toNat_le, UInt32.toNat_add]
      have h1 : (1 : UInt32).toNat = 1 := rfl
      have := b.packetNumber.toNat_lt
      omega
    · dsimp only
      rw [hbuffered]
      exact hrun
    · rw [hevents, hsent]
      -- the acknowledgement that went out covers just this number
      refine hinv.accept (n := packet.packetNumber) (heq.trans hnext) hsmall ?_ ?_ ?_ ?_ ?_ rfl
      · exact fun m hm => (hm.mono sent).mono new
      · obtain ⟨event, hmem, hrest⟩ := haccepted
        exact ⟨event, List.mem_append_right _ hmem, hrest⟩
      · intro m hack
        rcases acknowledged_append.mp hack with hack | hnew
        · rcases acknowledged_append.mp hack with hback | hack
          · exact .inl hback
          · exact .inr (packetCovers_ackPacket.mp (hcovers m hack))
        · exact absurd hnew (hquiet m)
      · intro m hm
        exact .inr (by dsimp only; rw [hbuffered]; exact hm)
      · intro b hb
        exact hbuffered ▸ hb
  · -- a later packet: only numbers on the list are acknowledged
    obtain ⟨err, io', after, houtcome, hevents, heq⟩ :=
      rxReliable_later env config manager io data hgt
    rw [heq]
    refine ⟨houtcome.shape hshape' hhas hgt, ?_⟩
    dsimp only
    obtain ⟨sent, hsent, hcovers⟩ := lowerSend_events env config io'
      (sackPacket config packet.feedbackScope after.rxBuffered
        (rxOrderInit peer).rxNextPacketNumber)
    rw [hsent, hevents]
    have hafterNext : after.rxNextPacketNumber = peer.rxNextPacketNumber := by
      rw [← hnext]
      cases houtcome <;> rfl
    have hkeep : ∀ n, HeldIn peer.rxBuffered n → HeldIn after.rxBuffered n := by
      rw [← hbuffered]
      rintro n ⟨b, hb, hbn⟩
      cases houtcome with
      | refused err herr => exact ⟨b, hb, hbn⟩
      | present hfound => exact ⟨b, hb, hbn⟩
      | inserted bytes hbytes hne hnew =>
        exact ⟨b, mem_transportInsertRxBuffered.mpr (.inr hb), hbn⟩
    -- the list has grown by at most this packet, and the SACK reports the list
    refine ⟨?_, ?_, ?_, ?_⟩
    · intro n hack
      rcases acknowledged_append.mp hack with hback | hnew
      · rcases hinv.acks n hback with hacc | hmem
        · exact .inl (hacc.mono sent)
        · exact .inr (hkeep n hmem)
      · exact .inr (packetCovers_sackPacket (hcovers n hnew))
    · intro n hn
      exact (hinv.below n (hafterNext ▸ hn)).mono sent
    · intro hs n hack
      rcases acknowledged_append.mp hack with hback | hnew
      · rcases hinv.settled hs n hback with hlt | hmem
        · exact .inl (hafterNext ▸ hlt)
        · exact .inr (hkeep n hmem)
      · exact .inr (packetCovers_sackPacket (hcovers n hnew))
    · intro hs b hb
      have hheld : ∀ b ∈ (rxOrderInit peer).rxBuffered, b.packetNumber.toNat < 2 ^ 32 - 1 :=
        hbuffered ▸ hinv.held hs
      cases houtcome with
      | refused err herr => exact hheld b hb
      | present hfound => exact hheld b hb
      | inserted bytes hbytes hne hnew =>
        rcases mem_transportInsertRxBuffered.mp hb with rfl | hb
        · exact hsmall hs
        · exact hheld b hb

end Peer

/-! ### Runs -/

/-- A reliable data packet of the stream. -/
structure StreamData (key : PeerKey) (packet : Packet) : Prop where
  type : packet.packetType = XGL_PACKET_TYPE_DATA
  reliable : packet.reliable = XGL_RELIABILITY_ACK_ELICITING
  inScope : packet.scoped = true
  stream : packet.peerKey = key

/-- Every call of the run is admitted in the state it meets. -/
def RunAdmitted (env : TransportEnv) : List Packet → TransportCtx → Prop :=
  Along (fun ctx packet => (xglTransportReceive env ctx packet).2) (CallAdmitted env)

/-- What holds of the stream's peer, and that nothing is acknowledged without
one. -/
def StreamSound (small : Prop) (key : PeerKey) (ctx : TransportCtx) : Prop :=
  match peerOf ctx.peers key with
  | none => ∀ n, ¬ Acknowledged ctx.io.events n
  | some peer => RxShape peer ∧ AckInv small ctx.io.events peer

/-- A peer that has received nothing acknowledges nothing. -/
theorem AckInv.fresh {small : Prop} {events : List TransportEvent} {peer : PeerState}
    (hquiet : ∀ n, ¬ Acknowledged events n) (hnext : peer.rxNextPacketNumber = 0)
    (hempty : peer.rxBuffered = []) : AckInv small events peer where
  acks := fun n hack => absurd hack (hquiet n)
  below := fun n hn => by
    rw [hnext, UInt32.lt_iff_toNat_lt] at hn
    exact absurd hn (Nat.not_lt_zero _)
  settled := fun _ n hack => absurd hack (hquiet n)
  held := fun _ b hb => by simp [hempty] at hb

/-- One admitted call of `xgl_transport_receive`. -/
theorem xglTransportReceive_sound {env : TransportEnv} {ctx : TransportCtx} {packet : Packet}
    {key : PeerKey} {small : Prop} (hpacket : StreamData key packet)
    (hsmall : small → packet.packetNumber.toNat < 2 ^ 32 - 1)
    (hrx : ctx.config.rxCallback = true) (hadmitted : CallAdmitted env ctx packet)
    (hinv : StreamSound small key ctx) :
    StreamSound small key (xglTransportReceive env ctx packet).2 ∧
      (xglTransportReceive env ctx packet).2.config = ctx.config := by
  obtain ⟨htype, hrel, hscope, rfl⟩ := hpacket
  unfold xglTransportReceive
  rw [if_neg (by simp [htype, XGL_PACKET_TYPE_DATA, XGL_PACKET_TYPE_CONTROL]),
    if_neg (by simp [htype, hrel, XGL_PACKET_TYPE_DATA, XGL_PACKET_TYPE_ACK,
      XGL_RELIABILITY_ACK_ELICITING, XGL_RELIABILITY_ACK_ONLY])]
  cases hdata : packet.payload? with
  | none => exact ⟨hinv, rfl⟩
  | some data =>
    dsimp only
    -- without a peer nothing is received; the peer is an old one or a new one
    rcases transportReceiveData_cases env ctx packet data hrel with
      ⟨err, session, io, _, hevents, _, heq⟩ | ⟨selected, peer, hsel, hselect, heq⟩
    · rw [heq]
      refine ⟨?_, rfl⟩
      unfold StreamSound at hinv ⊢
      dsimp only
      rw [hevents]
      exact hinv
    · rw [heq, transportReceiveReliable_eq]
      obtain ⟨hevents, hconfig⟩ := hsel.frame
      obtain ⟨hlookup, _⟩ := hsel.lookup
      obtain ⟨hkey, hcases⟩ := hsel.scoped_cases hscope
      -- the selected peer meets the invariant, be it old or new
      have hpeer : RxShape peer ∧ AckInv small selected.io.events peer := by
        rw [hevents]
        unfold StreamSound at hinv
        rcases hcases with ⟨old, now, hfound, rfl⟩ | ⟨hnone, hnext, hhas, hempty⟩
        · rw [hfound] at hinv
          obtain ⟨hshape, hack⟩ := hinv
          exact ⟨⟨hshape.sorted, hshape.above, hshape.fresh⟩,
            ⟨hack.acks, hack.below, hack.settled, hack.held⟩⟩
        · rw [hnone] at hinv
          refine ⟨⟨by rw [hempty]; exact .nil, fun b hb => ?_, fun _ => ⟨hnext, hempty⟩⟩,
            .fresh hinv hnext hempty⟩
          simp [hempty] at hb
      have hresult := rxReliable_ackInv (hconfig ▸ hrx)
        selected.fragmentMgr selected.io peer packet data hsmall hpeer.1 hpeer.2
        (hadmitted selected peer data hselect hdata)
      have hresultKey := rxReliable_key env selected.config selected.fragmentMgr selected.io peer
        packet data
      refine ⟨?_, hconfig⟩
      unfold StreamSound
      dsimp only
      rw [peerOf_putPeer, hresultKey, ← hkey, if_pos rfl, hlookup]
      exact hresult

/-- Every admitted run. The induction is on the packets received. -/
theorem receiveAll_sound {env : TransportEnv} {key : PeerKey} {small : Prop}
    (packets : List Packet) (hpackets : ∀ p ∈ packets, StreamData key p)
    (hsmall : small → ∀ p ∈ packets, p.packetNumber.toNat < 2 ^ 32 - 1) (ctx : TransportCtx)
    (hrx : ctx.config.rxCallback = true) (hadmitted : RunAdmitted env packets ctx)
    (hinv : StreamSound small key ctx) : StreamSound small key (receiveAll env packets ctx) := by
  induction packets generalizing ctx with
  | nil => exact hinv
  | cons packet rest ih =>
    obtain ⟨hfirst, hrest⟩ := hadmitted
    obtain ⟨hstep, hconfig⟩ := xglTransportReceive_sound
      (hpackets packet List.mem_cons_self) (fun hs => hsmall hs packet List.mem_cons_self) hrx
      hfirst hinv
    exact ih (fun p hp => hpackets p (List.mem_cons_of_mem _ hp))
      (fun hs p hp => hsmall hs p (List.mem_cons_of_mem _ hp)) _ (hconfig ▸ hrx) hrest hstep

/-- Acknowledgement soundness. In a run whose calls are all admitted, the payload
of every acknowledged number has been accepted or is still held. As long as the
numbers do not wrap, an acknowledged number lies below the next number or is
held, so it is not needed again. -/
theorem acknowledged_accepted_or_held (env : TransportEnv) (config : TransportConfig)
    (ctx : TransportCtx) (hinit : xglTransportInit config = .ok ctx)
    (hrx : config.rxCallback = true) (key : PeerKey) (packets : List Packet)
    (hpackets : ∀ p ∈ packets, StreamData key p) (hadmitted : RunAdmitted env packets ctx)
    (n : UInt32) (hack : Acknowledged (receiveAll env packets ctx).io.events n) :
    let reached := receiveAll env packets ctx
    (Accepted reached.io.events n ∨ Held reached key n) ∧
      ((∀ p ∈ packets, p.packetNumber.toNat < 2 ^ 32 - 1) →
        n.toNat < nextNumber reached key ∨ Held reached key n) := by
  intro reached
  have hfresh := xglTransportInit_fresh hinit
  have hsound := receiveAll_sound
    packets hpackets (fun hs => hs) ctx (by rw [hfresh.2.2]; exact hrx) hadmitted (by
      unfold StreamSound
      rw [hfresh.1, hfresh.2.1]
      rintro m ⟨_, _, hmem, _⟩
      cases hmem)
  unfold StreamSound at hsound
  unfold Held nextNumber
  -- nothing is acknowledged before there is a peer
  cases hpeer : peerOf reached.peers key with
  | none =>
    rw [hpeer] at hsound
    exact absurd hack (hsound n)
  | some peer =>
    rw [hpeer] at hsound
    obtain ⟨_, hinv⟩ := hsound
    refine ⟨?_, fun hs => ?_⟩
    · rcases hinv.acks n hack with hacc | hheld
      · exact .inl hacc
      · exact .inr ⟨peer, rfl, hheld⟩
    · rcases hinv.settled hs n hack with hlt | hheld
      · exact .inl (UInt32.lt_iff_toNat_lt.mp hlt)
      · exact .inr ⟨peer, rfl, hheld⟩

/-- The configuration of node 2 with reassembly. -/
def fragmentTransportConfig : TransportConfig where
  localId := 2
  enableFragmentation := true

/-- The context node 2 starts with. -/
def fragmentTransport : TransportCtx where
  config := fragmentTransportConfig
  nextSessionId := 2
  window := freshWindow 8
  fragmentMgr := some { maxReassemblyBuffers := 8, reassemblyTimeoutMs := 5000 }

/-- One byte at `offset` of a message of two bytes, as packet `number`. -/
def sampleFragment (number offset : UInt32) (byte : UInt8) : Packet :=
  { sampleData number [byte] with
    fragment := 1
    extensions := XGL_WIRE_EXT_FRAGMENT :: 12 :: xglWireEncodeFragmentExtValue 9 offset 2 }

/-- An allocator that serves the peer and no reassembly buffer. -/
def noReassemblyEnv : TransportEnv :=
  { calmEnv with allocOk := fun n => n < 2 }

/-- The second fragment overtakes the first: both are acknowledged and accepted. -/
theorem acknowledged_accepted_or_held_fragments :
    Acknowledged (receiveAll calmEnv [sampleFragment 1 1 8, sampleFragment 0 0 7]
        fragmentTransport).io.events 1 ∧
      (Accepted (receiveAll calmEnv [sampleFragment 1 1 8, sampleFragment 0 0 7]
          fragmentTransport).io.events 1 ∨
        Held (receiveAll calmEnv [sampleFragment 1 1 8, sampleFragment 0 0 7]
          fragmentTransport) (scopedKey 1 5 0) 1) := by
  have hack : Acknowledged (receiveAll calmEnv [sampleFragment 1 1 8, sampleFragment 0 0 7]
      fragmentTransport).io.events 1 := by
    refine ⟨ackPacket fragmentTransportConfig (sampleFragment 1 1 8).feedbackScope 1, .ok, ?_,
      packetCovers_ackPacket.mpr rfl⟩
    decide +kernel
  have hdata : ∀ n offset byte, StreamData (scopedKey 1 5 0) (sampleFragment n offset byte) :=
    fun n offset byte => ⟨rfl, rfl, rfl, rfl⟩
  refine ⟨hack, (acknowledged_accepted_or_held calmEnv fragmentTransportConfig fragmentTransport
    rfl rfl (scopedKey 1 5 0) [sampleFragment 1 1 8, sampleFragment 0 0 7] ?_ ?_ 1 hack).1⟩
  · simp only [List.mem_cons, List.not_mem_nil, or_false, forall_eq_or_imp, forall_eq]
    exact ⟨hdata 1 1 8, hdata 0 0 7⟩
  · refine ⟨?_, ?_, trivial⟩
    · intro selected peer data hselect _ hnumber
      cases hselect
      exact absurd hnumber (by decide)
    · intro selected peer data hselect hpayload _
      cases hselect
      cases hpayload
      refine ⟨.inr (.inr ⟨_, ⟨9, 0, 2⟩, rfl, ⟨rfl, List.cons_ne_nil 7 [], by decide,
        ⟨by decide, .inl rfl, .inl rfl, rfl, rfl⟩⟩⟩), ?_, trivial⟩
      exact .inr (.inr ⟨_, ⟨9, 1, 2⟩, rfl,
        ⟨rfl, List.cons_ne_nil 8 [], by decide, rfl, rfl, _, rfl⟩⟩)

/-- No memory for the reassembly buffer: the fragment is acknowledged, but neither
accepted nor held. -/
theorem acknowledged_fragment_lost :
    let reached := receiveAll noReassemblyEnv [sampleFragment 0 0 7] fragmentTransport
    xglTransportInit fragmentTransportConfig = .ok fragmentTransport ∧
      StreamData (scopedKey 1 5 0) (sampleFragment 0 0 7) ∧
      Acknowledged reached.io.events 0 ∧
      ¬ (Accepted reached.io.events 0 ∨ Held reached (scopedKey 1 5 0) 0) := by
  intro reached
  have hevents : reached.io.events
      = [.layerSend (ackPacket fragmentTransportConfig (sampleFragment 0 0 7).feedbackScope 0)
          .ok] := by
    decide +kernel
  refine ⟨rfl, ⟨rfl, rfl, rfl, rfl⟩, ⟨_, .ok, by rw [hevents]; exact List.mem_singleton_self _,
    packetCovers_ackPacket.mpr rfl⟩, ?_⟩
  rintro (⟨event, hmem, packet, hevent, _⟩ | ⟨peer, hpeer, b, hb, _⟩)
  · rw [hevents, List.mem_singleton] at hmem
    subst hmem
    cases hevent
  · have hempty : (peerOf reached.peers (scopedKey 1 5 0)).map PeerState.rxBuffered = some [] := by
      decide +kernel
    rw [hpeer] at hempty
    rw [Option.some.inj hempty] at hb
    cases hb

end XgenLink
