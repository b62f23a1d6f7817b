import XgenLink.Transport.Receive

/-!
# `XgenLink.Proofs.ReceiveSteps`: what receiving one data packet can do

The receive path of a reliable data packet in two parts. The first is which peer it works on: the
one of its scope, a new one, or one that is reset for the session of the packet, unless the packet
is refused (`transportReceiveData_cases`). The second is what happens to that peer, the reassembly
manager and the outside (`rxReliable`): the expected packet is delivered and the list behind it
drained, a later one is cached, an earlier one is acknowledged and dropped.

The rules for the drain loop and the shape of the out-of-order list are shared by every property
of the receiver. The loop takes the packet with the next number off the list, delivers it and
moves on, until the list has no such packet or a delivery fails.

* `CacheOutcome`: what caching a packet does.
* `rxReliable_later`, `rxReliable_duplicate`, `rxReliable_expected`: the three courses.
* `drainLoop_rule`: the invariant rule of the drain loop.
* `RxShape`, `takeRxBuffered_sorted`: the shape of the out-of-order list.
* `RxSelected`, `transportReceiveData_cases`: the peer a packet works on.
* `rxReliable_peer`: what of the peer may change.
-/

set_option autoImplicit false

namespace XgenLink

/-! ### One peer -/

/-- The reliable branch of `xgl_transport_receive` on the peer alone. -/
def rxReliable (env : TransportEnv) (config : TransportConfig) (manager : Option FragmentManager)
    (io : TransportIo) (peer : PeerState) (packet : Packet) (data : Bytes) :
    XglError × Option FragmentManager × TransportIo × PeerState :=
  let ordered := transportProcessReliableRxOrder env config io peer packet
  match ordered.1 with
  | .ok =>
    if packet.packetNumber != ordered.2.2.rxNextPacketNumber then
      (.ok, manager, ordered.2.1, ordered.2.2)
    else
      let delivered := transportDeliverPacket env config manager ordered.2.1 packet
        (transportDecodeData config packet data)
      match delivered.1 with
      | .ok =>
        transportDrainRxBuffered env config delivered.2.1 delivered.2.2
          { ordered.2.2 with rxNextPacketNumber := packet.packetNumber + 1 }
      | err => (err, delivered.2.1, delivered.2.2, ordered.2.2)
  | err => (err, manager, ordered.2.1, ordered.2.2)

/-- Setting up the receive state keeps the key. -/
@[simp] theorem rxOrderInit_key (peer : PeerState) : (rxOrderInit peer).key = peer.key := by
  unfold rxOrderInit
  split <;> rfl

/-- A failed or partial allocation emits nothing. -/
@[simp] theorem rxBufferedAlloc_events (env : TransportEnv) (io : TransportIo)
    (data extensions : Bytes) :
    (rxBufferedAlloc env io data extensions).2.events = io.events := by
  unfold rxBufferedAlloc
  dsimp only
  split
  · simp
  · split <;> simp

/-- The outcomes of `transport_cache_out_of_order_packet`: nothing changes, or the
packet is inserted. It succeeds without a change only for a number that is
already there. -/
inductive CacheOutcome (peer : PeerState) (packet : Packet) (n : UInt32) :
    XglError → PeerState → Prop where
  | refused (err : XglError) (herr : err ≠ .ok) : CacheOutcome peer packet n err peer
  | present (hfound : (transportFindRxBuffered n peer.rxBuffered).isSome = true) :
      CacheOutcome peer packet n .ok peer
  | inserted (data : Bytes) (hdata : packet.payload? = some data) (hne : data ≠ [])
      (hnew : transportFindRxBuffered n peer.rxBuffered = none) :
      CacheOutcome peer packet n .ok
        { peer with
          rxBuffered := transportInsertRxBuffered { packet with packetNumber := n } peer.rxBuffered
          rxBufferedCount := peer.rxBufferedCount + 1 }

/-- Every call ends in one of the outcomes and emits nothing. -/
theorem transportCacheOutOfOrderPacket_outcome (env : TransportEnv) (io : TransportIo)
    (peer : PeerState) (packet : Packet) (n : UInt32) :
    CacheOutcome peer packet n (transportCacheOutOfOrderPacket env io peer packet n).1
        (transportCacheOutOfOrderPacket env io peer packet n).2.2 ∧
      (transportCacheOutOfOrderPacket env io peer packet n).2.1.events = io.events := by
  unfold transportCacheOutOfOrderPacket
  split
  · exact ⟨.refused _ (by simp), rfl⟩
  · rename_i data hdata
    dsimp only
    generalize (if peer.txWindow.windowSize == 0 then (1 : UInt32)
      else peer.txWindow.windowSize.toUInt32) = window
    split
    · exact ⟨.refused _ (by simp), rfl⟩
    · rename_i hlen
      split
      · exact ⟨.refused _ (by simp), rfl⟩
      · split
        · exact ⟨.refused _ (by simp), rfl⟩
        · split
          · rename_i hfound
            exact ⟨.present hfound, rfl⟩
          · rename_i hnew
            split
            · exact ⟨.refused _ (by simp), rxBufferedAlloc_events env io data packet.extensions⟩
            · refine ⟨.inserted data hdata ?_ (by simpa using hnew),
                rxBufferedAlloc_events env io data packet.extensions⟩
              intro hnil
              simp [hnil] at hlen

/-- Caching keeps the key of the peer. -/
theorem CacheOutcome.key {peer after : PeerState} {packet : Packet} {n : UInt32} {err : XglError}
    (h : CacheOutcome peer packet n err after) : after.key = peer.key := by
  cases h <;> rfl

/-- Numbers below another do not go round. -/
theorem add_one_le_of_lt {a b : UInt32} (h : a < b) : a + 1 ≤ b := by
  have hb := b.toNat_lt
  rw [UInt32.lt_iff_toNat_lt] at h
  rw [UInt32.le_iff_toNat_le, UInt32.toNat_add, show (1 : UInt32).toNat = 1 from rfl]
  omega

/-- Packet numbers are compared as unsigned numbers. -/
theorem packetNumber_trichotomy (a b : UInt32) : a < b ∨ a = b ∨ b < a := by
  rw [UInt32.lt_iff_toNat_lt, UInt32.lt_iff_toNat_lt, ← UInt32.toNat_inj]
  omega

section Cases

variable (env : TransportEnv) (config : TransportConfig) (manager : Option FragmentManager)
  (io : TransportIo) {peer : PeerState} {packet : Packet} (data : Bytes)

/-- A packet later than expected is cached or refused, and answered with a SACK. -/
theorem rxReliable_later (h : (rxOrderInit peer).rxNextPacketNumber < packet.packetNumber) :
    ∃ err io' after, CacheOutcome (rxOrderInit peer) packet packet.packetNumber err after ∧
      io'.events = io.events ∧
      rxReliable env config manager io peer packet data
        = (err, manager,
            (transportLowerSend env config io' (sackPacket config packet.feedbackScope
              after.rxBuffered (rxOrderInit peer).rxNextPacketNumber)).2,
            after) := by
  obtain ⟨houtcome, hevents⟩ := transportCacheOutOfOrderPacket_outcome env io (rxOrderInit peer)
    packet packet.packetNumber
  unfold rxReliable transportProcessReliableRxOrder
  dsimp only
  rw [if_pos h]
  generalize transportCacheOutOfOrderPacket env io (rxOrderInit peer) packet packet.packetNumber
    = cached at houtcome hevents ⊢
  obtain ⟨err, io', after⟩ := cached
  refine ⟨err, io', after, houtcome, hevents, ?_⟩
  rw [transportSendSack_eq]
  have hnext : after.rxNextPacketNumber = (rxOrderInit peer).rxNextPacketNumber := by
    cases houtcome <;> rfl
  cases err with
  | ok =>
    dsimp only
    rw [if_pos]
    rw [hnext, bne_iff_ne]
    exact (UInt32.ne_of_lt h).symm
  | _ => rfl

/-- A duplicate is acknowledged and dropped. -/
theorem rxReliable_duplicate (h : packet.packetNumber < (rxOrderInit peer).rxNextPacketNumber) :
    rxReliable env config manager io peer packet data
      = (.ok, manager,
          (transportLowerSend env config io
            (ackPacket config packet.feedbackScope packet.packetNumber)).2,
          rxOrderInit peer) := by
  unfold rxReliable transportProcessReliableRxOrder
  dsimp only
  rw [if_neg (by rw [gt_iff_lt]; exact UInt32.lt_asymm h), transportSendAck_eq]
  dsimp only
  rw [if_pos]
  rw [bne_iff_ne]
  exact UInt32.ne_of_lt h

/-- The expected packet is acknowledged and delivered, and the packets behind it
are drained. -/
theorem rxReliable_expected (h : packet.packetNumber = (rxOrderInit peer).rxNextPacketNumber) :
    rxReliable env config manager io peer packet data
      = (let delivered := transportDeliverPacket env config manager
          (transportLowerSend env config io
            (ackPacket config packet.feedbackScope packet.packetNumber)).2
          packet (transportDecodeData config packet data)
        match delivered.1 with
        | .ok =>
          transportDrainRxBuffered env config delivered.2.1 delivered.2.2
            { rxOrderInit peer with rxNextPacketNumber := packet.packetNumber + 1 }
        | err => (err, delivered.2.1, delivered.2.2, rxOrderInit peer)) := by
  unfold rxReliable transportProcessReliableRxOrder
  dsimp only
  rw [if_neg (by rw [h]; exact UInt32.lt_irrefl _), transportSendAck_eq]
  dsimp only
  rw [if_neg (by simp [h])]

end Cases

/-- Taking a packet keeps everything but the out-of-order list and its count. -/
theorem transportTakeRxBuffered_some {peer after : PeerState} {n : UInt32} {buffered : Packet}
    (h : transportTakeRxBuffered peer n = some (buffered, after)) :
    takeRxBuffered n peer.rxBuffered = some (buffered, after.rxBuffered) ∧
      after = { peer with
        rxBuffered := after.rxBuffered, rxBufferedCount := after.rxBufferedCount } := by
  unfold transportTakeRxBuffered at h
  rw [Option.map_eq_some_iff] at h
  obtain ⟨found, hfound, heq⟩ := h
  cases heq
  exact ⟨hfound, rfl⟩

/-- Taking a packet shortens the list by one. -/
theorem takeRxBuffered_length {n : UInt32} {buffered rest : List Packet} {packet : Packet}
    (h : takeRxBuffered n buffered = some (packet, rest)) :
    buffered.length = rest.length + 1 := by
  induction buffered generalizing rest with
  | nil => cases h
  | cons first others ih =>
    unfold takeRxBuffered at h
    split at h
    · cases h
      rfl
    · split at h
      · cases h
      · rw [Option.map_eq_some_iff] at h
        obtain ⟨⟨found, left⟩, hfound, heq⟩ := h
        cases heq
        simp [ih hfound]

/-- The packet taken and the packets left were on the list. -/
theorem takeRxBuffered_mem {n : UInt32} {buffered rest : List Packet} {packet : Packet}
    (h : takeRxBuffered n buffered = some (packet, rest)) :
    packet ∈ buffered ∧ ∀ b ∈ rest, b ∈ buffered := by
  induction buffered generalizing rest with
  | nil => cases h
  | cons first others ih =>
    simp only [takeRxBuffered] at h
    split at h
    · cases h
      exact ⟨List.mem_cons_self, fun b hb => List.mem_cons_of_mem _ hb⟩
    split at h
    · cases h
    rw [Option.map_eq_some_iff] at h
    obtain ⟨⟨found, left⟩, hfound, heq⟩ := h
    cases heq
    obtain ⟨hmem, hsub⟩ := ih hfound
    refine ⟨List.mem_cons_of_mem _ hmem, fun b hb => ?_⟩
    rcases List.mem_cons.mp hb with rfl | hb
    · exact List.mem_cons_self
    · exact List.mem_cons_of_mem _ (hsub b hb)

/-- The invariant rule of the drain loop. `Inv` is kept by a round whose packet is
delivered, and a round whose packet is not delivered ends with `Post`; the loop
also ends with `Post` when no packet is in order. -/
theorem drainLoop_rule {env : TransportEnv} {config : TransportConfig}
    (Inv : Option FragmentManager → TransportIo → PeerState → Prop)
    (Post : Option FragmentManager → TransportIo → PeerState → Prop)
    (hdone : ∀ manager io peer, Inv manager io peer →
      transportTakeRxBuffered peer peer.rxNextPacketNumber = none → Post manager io peer)
    (hround : ∀ manager io peer buffered after, Inv manager io peer →
      transportTakeRxBuffered peer peer.rxNextPacketNumber = some (buffered, after) →
      let delivered := transportDeliverPacket env config manager io buffered
        (buffered.payload?.getD [])
      let acked := transportSendAck env config delivered.2.2 buffered.feedbackScope
        buffered.packetNumber
      (delivered.1 = .ok →
        Inv delivered.2.1 acked.2
          { after with rxNextPacketNumber := buffered.packetNumber + 1 }) ∧
      (delivered.1 ≠ .ok → Post delivered.2.1 acked.2 after))
    (fuel : Nat) (manager : Option FragmentManager) (io : TransportIo) (peer : PeerState)
    (hfuel : peer.rxBuffered.length ≤ fuel) (hinv : Inv manager io peer) :
    Post (drainLoop env config fuel manager io peer).2.1
      (drainLoop env config fuel manager io peer).2.2.1
      (drainLoop env config fuel manager io peer).2.2.2 := by
  induction fuel generalizing manager io peer with
  | zero =>
    have hempty : peer.rxBuffered = [] := List.length_eq_zero_iff.mp (Nat.le_zero.mp hfuel)
    exact hdone manager io peer hinv (by simp [transportTakeRxBuffered, hempty, takeRxBuffered])
  | succ fuel ih =>
    unfold drainLoop
    cases htake : transportTakeRxBuffered peer peer.rxNextPacketNumber with
    | none => exact hdone manager io peer hinv htake
    | some found =>
      obtain ⟨buffered, after⟩ := found
      obtain ⟨hok, herr⟩ := hround manager io peer buffered after hinv htake
      dsimp only
      split
      · rename_i hdel
        refine ih _ _ _ ?_ (hok hdel)
        obtain ⟨hwalk, _⟩ := transportTakeRxBuffered_some htake
        have := takeRxBuffered_length hwalk
        dsimp only
        omega
      · rename_i hdel
        exact herr hdel

/-- Draining keeps everything of the peer that ordering does not own. -/
theorem drainLoop_peer (env : TransportEnv) (config : TransportConfig) (fuel : Nat)
    (manager : Option FragmentManager) (io : TransportIo) (peer : PeerState) :
    let after := (drainLoop env config fuel manager io peer).2.2.2
    after = { peer with
      rxNextPacketNumber := after.rxNextPacketNumber
      rxBuffered := after.rxBuffered
      rxBufferedCount := after.rxBufferedCount } := by
  induction fuel generalizing manager io peer with
  | zero => rfl
  | succ fuel ih =>
    dsimp only
    unfold drainLoop
    split
    · rfl
    · rename_i buffered after htake
      obtain ⟨_, hafter⟩ := transportTakeRxBuffered_some htake
      dsimp only
      split
      · rw [ih, hafter]
      · rw [hafter]

/-! ### The out-of-order list -/

/-- The state of ordering: the list is sorted and lies above the next number, and
a peer that has seen no packet starts at zero. -/
structure RxShape (peer : PeerState) : Prop where
  sorted : peer.rxBuffered.Pairwise fun a b => a.packetNumber < b.packetNumber
  above : ∀ b ∈ peer.rxBuffered, peer.rxNextPacketNumber < b.packetNumber
  fresh : peer.rxHasPacketNumberState = false →
    peer.rxNextPacketNumber = 0 ∧ peer.rxBuffered = []

/-- Setting up the receive state changes nothing that shows. -/
theorem RxShape.init {peer : PeerState} (h : RxShape peer) :
    RxShape (rxOrderInit peer) ∧
      (rxOrderInit peer).rxNextPacketNumber = peer.rxNextPacketNumber ∧
      (rxOrderInit peer).rxBuffered = peer.rxBuffered ∧
      (rxOrderInit peer).rxHasPacketNumberState = true := by
  unfold rxOrderInit
  split
  · rename_i hhas
    exact ⟨h, rfl, rfl, hhas⟩
  · rename_i hhas
    obtain ⟨hnext, hempty⟩ := h.fresh (by simpa using hhas)
    refine ⟨⟨h.sorted, ?_, fun hf => by cases hf⟩, hnext.symm, rfl, rfl⟩
    intro b hb
    rw [hempty] at hb
    cases hb

/-- In a sorted list the walk of `transport_find_rx_buffered` misses nothing. -/
theorem transportFindRxBuffered_none {n : UInt32} {buffered : List Packet}
    (hsorted : buffered.Pairwise fun a b => a.packetNumber < b.packetNumber)
    (h : transportFindRxBuffered n buffered = none) :
    ∀ b ∈ buffered, b.packetNumber ≠ n := by
  induction buffered with
  | nil => intro b hb; cases hb
  | cons first rest ih =>
    rw [List.pairwise_cons] at hsorted
    unfold transportFindRxBuffered at h
    split at h
    · cases h
    · rename_i hne
      split at h
      · -- everything behind is larger still
        rename_i hgt
        intro b hb hbn
        rcases List.mem_cons.mp hb with rfl | hb
        · exact hne (by simp [hbn])
        · have hlt := hsorted.1 b hb
          rw [hbn] at hlt
          exact absurd hlt (by simp only [UInt32.lt_iff_toNat_lt, gt_iff_lt] at *; omega)
      · intro b hb
        rcases List.mem_cons.mp hb with rfl | hb
        · simpa using hne
        · exact ih hsorted.2 h b hb

/-- The members after an insertion. -/
theorem mem_transportInsertRxBuffered {packet b : Packet} {buffered : List Packet} :
    b ∈ transportInsertRxBuffered packet buffered ↔ b = packet ∨ b ∈ buffered := by
  induction buffered with
  | nil => simp [transportInsertRxBuffered]
  | cons first rest ih =>
    unfold transportInsertRxBuffered
    split
    · simp
    · rw [List.mem_cons, ih, List.mem_cons]
      tauto

/-- Insertion of a new number keeps the list sorted. -/
theorem transportInsertRxBuffered_sorted {packet : Packet} {buffered : List Packet}
    (hsorted : buffered.Pairwise fun a b => a.packetNumber < b.packetNumber)
    (hnew : ∀ b ∈ buffered, b.packetNumber ≠ packet.packetNumber) :
    (transportInsertRxBuffered packet buffered).Pairwise
      fun a b => a.packetNumber < b.packetNumber := by
  induction buffered with
  | nil => simp [transportInsertRxBuffered]
  | cons first rest ih =>
    have hfirst := hnew first List.mem_cons_self
    unfold transportInsertRxBuffered
    split
    · rename_i hge
      have hlt : packet.packetNumber < first.packetNumber := by
        rw [ne_eq, ← UInt32.toNat_inj] at hfirst
        simp only [ge_iff_le, UInt32.le_iff_toNat_le, UInt32.lt_iff_toNat_lt] at hge ⊢
        omega
      refine List.pairwise_cons.mpr ⟨?_, hsorted⟩
      intro b hb
      rcases List.mem_cons.mp hb with rfl | hb
      · exact hlt
      · exact UInt32.lt_trans hlt ((List.pairwise_cons.mp hsorted).1 b hb)
    · rename_i hlt
      have hlt' : first.packetNumber < packet.packetNumber := by
        simp only [ge_iff_le, UInt32.le_iff_toNat_le, UInt32.lt_iff_toNat_lt] at hlt ⊢
        omega
      rw [List.pairwise_cons] at hsorted
      refine List.pairwise_cons.mpr
        ⟨?_, ih hsorted.2 fun b hb => hnew b (List.mem_cons_of_mem _ hb)⟩
      intro b hb
      rcases mem_transportInsertRxBuffered.mp hb with rfl | hb
      · exact hlt'
      · exact hsorted.1 b hb

/-- Caching a packet above the next number keeps the shape. -/
theorem CacheOutcome.shape {peer after : PeerState} {packet : Packet} {n : UInt32}
    {err : XglError} (h : CacheOutcome peer packet n err after) (hshape : RxShape peer)
    (hhas : peer.rxHasPacketNumberState = true) (hn : peer.rxNextPacketNumber < n) :
    RxShape after := by
  cases h with
  | refused err herr => exact hshape
  | present hfound => exact hshape
  | inserted data hdata hne hnew =>
    refine ⟨transportInsertRxBuffered_sorted hshape.sorted
      (transportFindRxBuffered_none hshape.sorted hnew), ?_, fun hf => ?_⟩
    · intro b hb
      rcases mem_transportInsertRxBuffered.mp hb with rfl | hb
      · exact hn
      · exact hshape.above b hb
    · rw [hhas] at hf
      cases hf

/-- On a sorted list at or above the next number the drain loop takes the head, or
finds nothing because every packet is later. -/
theorem takeRxBuffered_sorted {n : UInt32} {buffered : List Packet}
    (hsorted : buffered.Pairwise fun a b => a.packetNumber < b.packetNumber)
    (hge : ∀ b ∈ buffered, n ≤ b.packetNumber) :
    (takeRxBuffered n buffered = none ∧ ∀ b ∈ buffered, n < b.packetNumber) ∨
      ∃ first rest, buffered = first :: rest ∧ first.packetNumber = n ∧
        takeRxBuffered n buffered = some (first, rest) := by
  cases buffered with
  | nil => exact .inl ⟨rfl, fun b hb => by cases hb⟩
  | cons first rest =>
    have hfirst := hge first List.mem_cons_self
    unfold takeRxBuffered
    by_cases heq : first.packetNumber = n
    · exact .inr ⟨first, rest, rfl, heq, if_pos (by simp [heq])⟩
    · have hlt : n < first.packetNumber := by
        rw [← UInt32.toNat_inj] at heq
        simp only [UInt32.le_iff_toNat_le, UInt32.lt_iff_toNat_lt] at hfirst ⊢
        omega
      rw [if_neg (by simp [heq]), if_pos hlt]
      refine .inl ⟨rfl, ?_⟩
      intro b hb
      rcases List.mem_cons.mp hb with rfl | hb
      · exact hlt
      · exact UInt32.lt_trans hlt ((List.pairwise_cons.mp hsorted).1 b hb)

/-! ### The context -/

/-- Writing back twice is writing back the second time. -/
theorem putPeer_putPeer {first second : PeerState} (h : first.key = second.key)
    (peers : List PeerState) : putPeer second (putPeer first peers) = putPeer second peers := by
  induction peers with
  | nil => rfl
  | cons peer rest ih =>
    by_cases hk : peer.key = first.key
    · simp [putPeer, hk, h]
    · have hk2 : peer.key ≠ second.key := h ▸ hk
      simp [putPeer, hk, hk2, ih]

/-- The reliable branch changes the manager, the calls and the peer. -/
theorem transportReceiveReliable_eq (env : TransportEnv) (ctx : TransportCtx) (peer : PeerState)
    (packet : Packet) (data : Bytes) :
    transportReceiveReliable env ctx peer packet data
      = ((rxReliable env ctx.config ctx.fragmentMgr ctx.io peer packet data).1,
          { ctx with
            fragmentMgr := (rxReliable env ctx.config ctx.fragmentMgr ctx.io peer packet data).2.1
            io := (rxReliable env ctx.config ctx.fragmentMgr ctx.io peer packet data).2.2.1
            peers := putPeer
              (rxReliable env ctx.config ctx.fragmentMgr ctx.io peer packet data).2.2.2
              ctx.peers }) := by
  unfold transportReceiveReliable rxReliable transportDeliverInOrder transportDeliverData
    TransportCtx.put
  dsimp only
  generalize transportProcessReliableRxOrder env ctx.config ctx.io peer packet = ordered
  obtain ⟨err, io, state⟩ := ordered
  cases err with
  | ok =>
    dsimp only
    split
    · rfl
    · generalize transportDeliverPacket env ctx.config ctx.fragmentMgr io packet
        (transportDecodeData ctx.config packet data) = delivered
      obtain ⟨err, manager, io'⟩ := delivered
      cases err with
      | ok =>
        dsimp only
        rw [putPeer_putPeer]
        unfold transportDrainRxBuffered
        rw [drainLoop_peer]
        rfl
      | _ => rfl
  | _ => rfl

/-- The peer a reliable data packet works on, and the context at that point: the
one found, one created and reset for the session of the packet, or one created
for a packet without a session. -/
inductive RxSelected (ctx : TransportCtx) (packet : Packet) : TransportCtx → PeerState → Prop where
  | found (peer : PeerState) (hlook : lookupPeer ctx.peers packet.peerKey = some peer)
      (hsession : packet.sessionId = 0 ∨ packet.sessionId = peer.sessionId)
      (now : UInt32) (io : TransportIo) (hevents : io.events = ctx.io.events) :
      RxSelected ctx packet
        { ctx with io := io, peers := putPeer { peer with lastActiveMs := now } ctx.peers }
        { peer with lastActiveMs := now }
  | created (hlook : lookupPeer ctx.peers packet.peerKey = none) (hsession : packet.sessionId ≠ 0)
      (now : UInt32) (io : TransportIo) (hevents : io.events = ctx.io.events)
      (hsize : ctx.window.windowSize ≠ 0) :
      RxSelected ctx packet
        { ctx with
          nextSessionId := followingSessionId (newSessionId ctx.nextSessionId)
          window := xglWindowReset ctx.window
          fragmentMgr := ctx.fragmentMgr.map fun manager =>
            xglFragmentClearReassemblyScope manager packet.peerKey.peerId packet.connectionId
              packet.sessionEpoch
          io := io
          peers := resetPeer (freshPeer ctx packet.peerKey) packet.sessionId now :: ctx.peers }
        (resetPeer (freshPeer ctx packet.peerKey) packet.sessionId now)
  | createdBare (hlook : lookupPeer ctx.peers packet.peerKey = none)
      (hsession : packet.sessionId = 0) (io : TransportIo) (hevents : io.events = ctx.io.events)
      (hsize : ctx.window.windowSize ≠ 0) :
      RxSelected ctx packet
        { ctx with
          nextSessionId := followingSessionId (newSessionId ctx.nextSessionId)
          io := io
          peers := freshPeer ctx packet.peerKey :: ctx.peers }
        (freshPeer ctx packet.peerKey)

/-- The peer selection of `xgl_transport_receive` for a reliable data packet: the
context and the peer it goes on with, when it does. -/
def selectRxPeer (env : TransportEnv) (ctx : TransportCtx) (packet : Packet) :
    Option (TransportCtx × PeerState) :=
  match transportPrepareRxPeer env ctx packet with
  | (.ok, ctx, peer) =>
    match transportOrderPeer env (transportTouchPeer env ctx peer).1 packet
        (transportTouchPeer env ctx peer).2 with
    | (ctx, some peer) => some (ctx, peer)
    | (_, none) => none
  | _ => none

/-- The peer selection by session: refused, left to the ordering step, or a peer
selected and touched. -/
theorem transportPrepareRxPeer_cases (env : TransportEnv) (ctx : TransportCtx) (packet : Packet) :
    (∃ err session io peer, err ≠ .ok ∧ io.events = ctx.io.events ∧
      transportPrepareRxPeer env ctx packet
        = (err, { ctx with nextSessionId := session, io := io }, peer)) ∨
    (packet.sessionId = 0 ∧ transportPrepareRxPeer env ctx packet = (.ok, ctx, none)) ∨
    ∃ prepared peer selected touched, RxSelected ctx packet selected touched ∧
      transportPrepareRxPeer env ctx packet = (.ok, prepared, some peer) ∧
      transportTouchPeer env prepared (some peer) = (selected, some touched) := by
  unfold transportPrepareRxPeer
  -- a packet without a session is left to the ordering step
  by_cases hsession : packet.sessionId = 0
  · rw [if_pos (by simp [hsession])]
    exact .inr (.inl ⟨hsession, rfl⟩)
  rw [if_neg (by simp [hsession])]
  cases hlook : lookupPeer ctx.peers packet.peerKey with
  | some peer =>
    dsimp only
    -- the peer has the session of the packet, and else the packet is refused
    by_cases hsame : packet.sessionId = peer.sessionId
    · rw [if_neg (by simp [hsame])]
      exact .inr (.inr ⟨_, _, _, _, .found peer hlook (.inr hsame) (xglTimeMs env ctx.io).1
        (xglTimeMs env ctx.io).2 rfl, rfl, rfl⟩)
    · rw [if_pos (by simp [hsame])]
      exact .inl ⟨.sequenceError, ctx.nextSessionId, ctx.io, _, by simp, rfl, rfl⟩
  | none =>
    dsimp only
    have hcases := transportGetOrCreatePeer_cases env ctx packet.peerKey
    generalize transportGetOrCreatePeer env ctx packet.peerKey = got at hcases ⊢
    cases hcases with
    | found peer hfound =>
      rw [hlook] at hfound
      cases hfound
    | failed _ session io hevents =>
      exact .inl ⟨.noMemory, session, io, _, by simp, hevents, rfl⟩
    | created _ io hevents hsize =>
      refine .inr (.inr ⟨_, _, _, _, .created hlook hsession
        (xglTimeMs env (xglTimeMs env io).2).1 (xglTimeMs env (xglTimeMs env io).2).2
        (by simpa using hevents) hsize, rfl, ?_⟩)
      simp [transportTouchPeer, TransportCtx.put, transportResetPeerState, putPeer, resetPeer,
        PeerState.key, freshPeer]

/-- Receiving a reliable data packet: it is refused before any peer changes, or it
works on a selected peer. -/
theorem transportReceiveData_cases (env : TransportEnv) (ctx : TransportCtx) (packet : Packet)
    (data : Bytes) (hrel : packet.reliable = XGL_RELIABILITY_ACK_ELICITING) :
    (∃ err session io, err ≠ .ok ∧ io.events = ctx.io.events ∧
      selectRxPeer env ctx packet = none ∧
      transportReceiveData env ctx packet data
        = (err, { ctx with nextSessionId := session, io := io })) ∨
    ∃ selected peer, RxSelected ctx packet selected peer ∧
      selectRxPeer env ctx packet = some (selected, peer) ∧
      transportReceiveData env ctx packet data
        = transportReceiveReliable env selected peer packet data := by
  unfold transportReceiveData selectRxPeer
  rcases transportPrepareRxPeer_cases env ctx packet with
    ⟨err, session, io, peer, hne, hevents, heq⟩ | ⟨hsession, heq⟩ |
      ⟨prepared, peer, selected, touched, hsel, heq, htouch⟩
  · rw [heq]
    refine .inl ⟨err, session, io, hne, hevents, ?_⟩
    cases err <;> first | exact ⟨rfl, rfl⟩ | exact absurd rfl hne
  · -- no session: the peer is selected by the ordering step
    rw [heq]
    dsimp only [transportTouchPeer, transportOrderPeer]
    rw [if_pos (by simp [hrel])]
    have hcases := transportGetOrCreatePeer_cases env ctx packet.peerKey
    generalize transportGetOrCreatePeer env ctx packet.peerKey = got at hcases ⊢
    cases hcases with
    | found peer hlook =>
      refine .inr ⟨_, _, .found peer hlook (.inl hsession) peer.lastActiveMs ctx.io rfl, ?_⟩
      rw [show { peer with lastActiveMs := peer.lastActiveMs } = peer from rfl,
        putPeer_self (peerOf_of_lookupPeer hlook)]
      exact ⟨rfl, rfl⟩
    | failed hlook session io hevents =>
      exact .inl ⟨.noMemory, session, io, by simp, hevents, rfl, rfl⟩
    | created hlook io hevents hsize =>
      exact .inr ⟨_, _, .createdBare hlook hsession io hevents hsize, rfl, rfl⟩
  · rw [heq]
    dsimp only
    rw [htouch, if_pos (by simp [hrel])]
    exact .inr ⟨selected, touched, hsel, rfl, rfl⟩

/-! ### Lookups after a packet -/

/-- A lookup behind a new head. -/
theorem peerOf_cons (first : PeerState) (rest : List PeerState) (key : PeerKey) :
    peerOf (first :: rest) key = if first.key = key then some first else peerOf rest key := by
  unfold peerOf
  rw [List.find?_cons]
  by_cases h : first.key = key
  · simp [h]
  · have hne : (first.key == key) = false := by simpa using h
    simp [hne, h]

/-- A scoped packet selects the peer of exactly its scope. -/
theorem lookupPeer_scoped {packet : Packet} (h : packet.scoped = true) (peers : List PeerState) :
    lookupPeer peers packet.peerKey = peerOf peers packet.peerKey := by
  unfold lookupPeer Packet.peerKey
  rw [if_pos h]
  exact transportFindPeerScope_eq peers packet.sourceId packet.connectionId packet.sessionEpoch

/-- A new peer has the key it was created for. -/
theorem freshPeer_key (ctx : TransportCtx) (packet : Packet) :
    (freshPeer ctx packet.peerKey).key = packet.peerKey := by
  unfold Packet.peerKey
  split <;> rfl

/-- The selected peer is the entry of its key, and every other key is as before. -/
theorem RxSelected.lookup {ctx selected : TransportCtx} {packet : Packet} {peer : PeerState}
    (h : RxSelected ctx packet selected peer) :
    peerOf selected.peers peer.key = some peer ∧
      ∀ key, key ≠ peer.key → peerOf selected.peers key = peerOf ctx.peers key := by
  cases h with
  | found old hlook hsession now io hevents =>
    have hold := peerOf_of_lookupPeer hlook
    refine ⟨?_, fun key hne => ?_⟩
    · rw [peerOf_putPeer, if_pos rfl]
      rw [show ({ old with lastActiveMs := now } : PeerState).key = old.key from rfl, hold]
      rfl
    · rw [peerOf_putPeer, if_neg (Ne.symm hne)]
  | created hlook hsession now io hevents =>
    refine ⟨by rw [peerOf_cons, if_pos rfl], fun key hne => ?_⟩
    rw [peerOf_cons, if_neg (Ne.symm hne)]
  | createdBare hlook hsession io hevents =>
    refine ⟨by rw [peerOf_cons, if_pos rfl], fun key hne => ?_⟩
    rw [peerOf_cons, if_neg (Ne.symm hne)]

/-- Selecting a peer emits nothing and keeps the configuration. -/
theorem RxSelected.frame {ctx selected : TransportCtx} {packet : Packet} {peer : PeerState}
    (h : RxSelected ctx packet selected peer) :
    selected.io.events = ctx.io.events ∧ selected.config = ctx.config := by
  cases h with
  | found old hlook hsession now io hevents => exact ⟨hevents, rfl⟩
  | created hlook hsession now io hevents => exact ⟨hevents, rfl⟩
  | createdBare hlook hsession io hevents => exact ⟨hevents, rfl⟩

/-- For a scoped packet the selected peer is the old peer of its scope, touched, or
a new one when there was none. -/
theorem RxSelected.scoped_cases {ctx selected : TransportCtx} {packet : Packet} {peer : PeerState}
    (h : RxSelected ctx packet selected peer) (hscoped : packet.scoped = true) :
    peer.key = packet.peerKey ∧
      ((∃ old now, peerOf ctx.peers packet.peerKey = some old ∧
          peer = { old with lastActiveMs := now }) ∨
        (peerOf ctx.peers packet.peerKey = none ∧ peer.rxNextPacketNumber = 0 ∧
          peer.rxHasPacketNumberState = false ∧ peer.rxBuffered = [])) := by
  cases h with
  | found old hlook hsession now io hevents =>
    rw [lookupPeer_scoped hscoped] at hlook
    have hkey : old.key = packet.peerKey := peerOf_key hlook
    exact ⟨hkey, .inl ⟨old, now, hlook, rfl⟩⟩
  | created hlook hsession now io hevents =>
    rw [lookupPeer_scoped hscoped] at hlook
    exact ⟨freshPeer_key ctx packet, .inr ⟨hlook, rfl, rfl, rfl⟩⟩
  | createdBare hlook hsession io hevents =>
    rw [lookupPeer_scoped hscoped] at hlook
    exact ⟨freshPeer_key ctx packet, .inr ⟨hlook, rfl, rfl, rfl⟩⟩

/-- The fields of a peer that ordering owns, taken from another peer. -/
def PeerState.withRx (peer other : PeerState) : PeerState :=
  { peer with
    rxNextPacketNumber := other.rxNextPacketNumber
    rxHasPacketNumberState := other.rxHasPacketNumberState
    rxBuffered := other.rxBuffered
    rxBufferedCount := other.rxBufferedCount }

/-- The reliable branch changes nothing but the ordering state of its peer. -/
theorem rxReliable_peer (env : TransportEnv) (config : TransportConfig)
    (manager : Option FragmentManager) (io : TransportIo) (peer : PeerState) (packet : Packet)
    (data : Bytes) :
    (rxReliable env config manager io peer packet data).2.2.2
      = peer.withRx (rxReliable env config manager io peer packet data).2.2.2 := by
  have hinit : ∀ after : PeerState, after = (rxOrderInit peer).withRx after →
      after = peer.withRx after := by
    intro after h
    rw [h]
    unfold PeerState.withRx rxOrderInit
    split <;> rfl
  refine hinit _ ?_
  rcases packetNumber_trichotomy packet.packetNumber (rxOrderInit peer).rxNextPacketNumber with
    hlt | heq | hgt
  · rw [rxReliable_duplicate env config manager io data hlt]
    rfl
  · rw [rxReliable_expected env config manager io data heq]
    dsimp only
    split
    · unfold transportDrainRxBuffered
      rw [drainLoop_peer]
      rfl
    · rfl
  · obtain ⟨err, io', after, houtcome, _, heq⟩ :=
      rxReliable_later env config manager io data hgt
    rw [heq]
    cases houtcome <;> rfl

/-- The reliable branch keeps the key of its peer. -/
theorem rxReliable_key (env : TransportEnv) (config : TransportConfig)
    (manager : Option FragmentManager) (io : TransportIo) (peer : PeerState) (packet : Packet)
    (data : Bytes) : (rxReliable env config manager io peer packet data).2.2.2.key = peer.key := by
  rw [rxReliable_peer]
  rfl

end XgenLink
