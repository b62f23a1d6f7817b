import XgenLink.Proofs.ReceiveSteps

/-!
# `XgenLink.Proofs.InOrderDelivery`: exactly-once, in-order delivery

A stream is the reliable packets of one scope: a source, a connection and an epoch. Its packets
reach a receiver reordered, duplicated and with gaps. A packet with the next number is delivered
and the out-of-order list behind it is drained; a later one goes on the list, when there is room
and memory for it; an earlier one is acknowledged and dropped.

For every sequence of reliable, unfragmented data packets of scoped streams the receive callback
sees the packets of each stream numbered from zero without a gap or a repetition. The invariant
`StreamInv` ties the numbers delivered so far to the peer's next number and the out-of-order list:
the numbers delivered are those below the next one, and the list is sorted and lies above it.
Streams do not meet, since a packet only touches the peer of its scope.

* `StreamInv`, `DrainInv`: the invariant between two calls, and inside a drain.
* `DrainInv.deliver`, `drain_streamInv`: delivering and draining.
* `rxReliable_streamInv`: one packet on one peer.
* `xglTransportReceive_inOrder`: one call, with all the peers of a context.
* `delivery_in_order`: every run.
-/

set_option autoImplicit false

namespace XgenLink

/-! ### What a stream delivered -/

/-- The delivery an event stands for, when it is one of the stream. -/
def deliveryOf (key : PeerKey) : TransportEvent → Option (Packet × Bytes)
  | .rxCallback _ _ data origin => if origin.peerKey = key then some (origin, data) else none
  | _ => none

/-- The packets of a stream handed to the receive callback, with the bytes handed
over, in order. -/
def deliveries (key : PeerKey) (events : List TransportEvent) : List (Packet × Bytes) :=
  events.filterMap (deliveryOf key)

/-- The packet numbers of a stream's deliveries. -/
def deliveredNumbers (key : PeerKey) (events : List TransportEvent) : List Nat :=
  (deliveries key events).map fun delivery => delivery.1.packetNumber.toNat

/-- The deliveries of two logs are those of the first, then those of the second. -/
theorem deliveries_append (key : PeerKey) (a b : List TransportEvent) :
    deliveries key (a ++ b) = deliveries key a ++ deliveries key b :=
  List.filterMap_append

/-- Sending delivers nothing. -/
@[simp] theorem deliveries_lowerSend (key : PeerKey) (env : TransportEnv)
    (config : TransportConfig) (io : TransportIo) (packet : Packet) :
    deliveries key (transportLowerSend env config io packet).2.events
      = deliveries key io.events := by
  unfold transportLowerSend
  split
  · rw [xglLayerSend_events, deliveries_append]
    simp [deliveries, deliveryOf]
  · rfl

/-- A delivery adds itself to its own stream. -/
theorem deliveries_emitRx (key : PeerKey) {config : TransportConfig}
    (hrx : config.rxCallback = true)
    (io : TransportIo) (packet : Packet) (data : Bytes) :
    deliveries key (emitRx config io packet data).events
      = deliveries key io.events ++ if packet.peerKey = key then [(packet, data)] else [] := by
  unfold emitRx
  rw [if_pos hrx, TransportIo.emit_events, deliveries_append]
  congr 1
  by_cases h : packet.peerKey = key <;> simp [deliveries, deliveryOf, h]

/-- An unfragmented packet is handed over as it is. -/
theorem transportDeliverPacket_unfragmented (env : TransportEnv) (config : TransportConfig)
    (manager : Option FragmentManager) (io : TransportIo) {packet : Packet} (data : Bytes)
    (h : packet.fragment = 0) :
    transportDeliverPacket env config manager io packet data
      = (.ok, manager, emitRx config io packet data) := by
  unfold transportDeliverPacket
  cases manager with
  | none => rfl
  | some manager => simp [h]

/-! ### One stream -/

/-- What the packets of this development's runs are: reliable, unfragmented,
uncompressed data packets of a scope, below the last packet number. -/
structure PlainData (packet : Packet) : Prop where
  type : packet.packetType = XGL_PACKET_TYPE_DATA
  reliable : packet.reliable = XGL_RELIABILITY_ACK_ELICITING
  fragment : packet.fragment = 0
  compress : packet.compress = 0
  inScope : packet.scoped = true
  number : packet.packetNumber.toNat < 2 ^ 32 - 1

/-- The deliveries `done` of a stream and the state of its peer agree: the numbers are those below
the next one, and everything delivered or held was received. What is held lies above the next
number, in order. -/
structure StreamInv (received : Packet → Prop) (key : PeerKey) (done : List (Packet × Bytes))
    (peer : PeerState) : Prop where
  shape : RxShape peer
  numbers : (done.map fun d => d.1.packetNumber.toNat)
    = List.range peer.rxNextPacketNumber.toNat
  delivered : ∀ d ∈ done, received d.1 ∧ d.1.peerKey = key ∧ d.1.payload? = some d.2
  held : ∀ b ∈ peer.rxBuffered, received b ∧ b.peerKey = key ∧ b.payload?.isSome = true

/-- The invariant while buffered packets are drained: the packet with the next
number may still be on the list. -/
structure DrainInv (received : Packet → Prop) (key : PeerKey) (done : List (Packet × Bytes))
    (peer : PeerState) : Prop where
  sorted : peer.rxBuffered.Pairwise fun a b => a.packetNumber < b.packetNumber
  from_next : ∀ b ∈ peer.rxBuffered, peer.rxNextPacketNumber ≤ b.packetNumber
  has : peer.rxHasPacketNumberState = true
  numbers : (done.map fun d => d.1.packetNumber.toNat)
    = List.range peer.rxNextPacketNumber.toNat
  delivered : ∀ d ∈ done, received d.1 ∧ d.1.peerKey = key ∧ d.1.payload? = some d.2
  held : ∀ b ∈ peer.rxBuffered, received b ∧ b.peerKey = key ∧ b.payload?.isSome = true

section Stream

variable {env : TransportEnv} {config : TransportConfig} {received : Packet → Prop}
  {key : PeerKey}

/-- Delivering the packet with the next number moves the stream on by one. -/
theorem DrainInv.deliver {done : List (Packet × Bytes)} {peer : PeerState} {packet : Packet}
    {data : Bytes} (hnumbers : (done.map fun d => d.1.packetNumber.toNat)
      = List.range packet.packetNumber.toNat)
    (hdelivered : ∀ d ∈ done, received d.1 ∧ d.1.peerKey = key ∧ d.1.payload? = some d.2)
    (hplain : PlainData packet) (hreceived : received packet) (hkey : packet.peerKey = key)
    (hdata : packet.payload? = some data)
    (hsorted : peer.rxBuffered.Pairwise fun a b => a.packetNumber < b.packetNumber)
    (habove : ∀ b ∈ peer.rxBuffered, packet.packetNumber < b.packetNumber)
    (hhas : peer.rxHasPacketNumberState = true)
    (hheld : ∀ b ∈ peer.rxBuffered, received b ∧ b.peerKey = key ∧ b.payload?.isSome = true) :
    DrainInv received key (done ++ [(packet, data)])
      { peer with rxNextPacketNumber := packet.packetNumber + 1 } := by
  have hnext : (packet.packetNumber + 1).toNat = packet.packetNumber.toNat + 1 := by
    have := hplain.number
    rw [UInt32.toNat_add]
    simp
    omega
  refine ⟨hsorted, ?_, hhas, ?_, ?_, hheld⟩
  · intro b hb
    have := habove b hb
    rw [UInt32.lt_iff_toNat_lt] at this
    rw [UInt32.le_iff_toNat_le]
    dsimp only
    omega
  · dsimp only
    rw [List.map_append, hnumbers, hnext, List.range_succ]
    rfl
  · intro d hd
    rcases List.mem_append.mp hd with hd | hd
    · exact hdelivered d hd
    · rw [List.mem_singleton] at hd
      subst hd
      exact ⟨hreceived, hkey, hdata⟩

/-- Draining ends in the stream invariant and delivers for no other stream. -/
theorem drain_streamInv (hrx : config.rxCallback = true) (hplain : ∀ p, received p → PlainData p)
    (manager : Option FragmentManager) (io : TransportIo) (peer : PeerState)
    (hinv : DrainInv received key (deliveries key io.events) peer) :
    StreamInv received key
        (deliveries key (transportDrainRxBuffered env config manager io peer).2.2.1.events)
        (transportDrainRxBuffered env config manager io peer).2.2.2 ∧
      ∀ other, other ≠ key →
        deliveries other (transportDrainRxBuffered env config manager io peer).2.2.1.events
          = deliveries other io.events := by
  unfold transportDrainRxBuffered
  refine drainLoop_rule
    (fun _ io' peer' => DrainInv received key (deliveries key io'.events) peer' ∧
      ∀ other, other ≠ key → deliveries other io'.events = deliveries other io.events)
    (fun _ io' peer' => StreamInv received key (deliveries key io'.events) peer' ∧
      ∀ other, other ≠ key → deliveries other io'.events = deliveries other io.events)
    ?_ ?_ _ manager io peer (le_refl _) ⟨hinv, fun _ _ => rfl⟩
  · -- nothing in order: every packet held lies above the next number
    intro _ io' peer' ⟨h, hother⟩ hnone
    refine ⟨⟨⟨h.sorted, ?_, fun hf => by rw [h.has] at hf; cases hf⟩, h.numbers, h.delivered,
      h.held⟩, hother⟩
    -- the first packet on the list has the next number, or lies above it
    rcases takeRxBuffered_sorted h.sorted h.from_next with ⟨_, hlt⟩ | ⟨first, rest, _, _, hsome⟩
    · exact hlt
    · simp [transportTakeRxBuffered, hsome] at hnone
  · intro manager' io' peer' buffered after ⟨h, hother⟩ htake
    obtain ⟨hwalk, hafter⟩ := transportTakeRxBuffered_some htake
    rcases takeRxBuffered_sorted h.sorted h.from_next with ⟨hnone, _⟩ |
      ⟨first, rest, hlist, hfirst, hsome⟩
    · rw [hnone] at hwalk
      cases hwalk
    rw [hsome] at hwalk
    cases hwalk
    obtain ⟨hbrec, hbkey, hbdata⟩ := h.held buffered (hlist ▸ List.mem_cons_self)
    obtain ⟨data, hdata⟩ := Option.isSome_iff_exists.mp hbdata
    have hbplain := hplain buffered hbrec
    have hsorted := hlist ▸ h.sorted
    rw [List.pairwise_cons] at hsorted
    dsimp only
    rw [transportDeliverPacket_unfragmented env config manager' io' _ hbplain.fragment,
      transportSendAck_eq]
    refine ⟨fun _ => ⟨?_, ?_⟩, fun hne => absurd rfl hne⟩
    · rw [deliveries_lowerSend, deliveries_emitRx key hrx, if_pos hbkey, hdata]
      refine DrainInv.deliver (hfirst ▸ h.numbers) h.delivered hbplain hbrec hbkey hdata
        hsorted.2 hsorted.1 ?_ ?_
      · rw [hafter]
        exact h.has
      · intro b hb
        exact h.held b (hlist ▸ List.mem_cons_of_mem _ hb)
    · intro other hne
      rw [deliveries_lowerSend, deliveries_emitRx other hrx,
          if_neg (fun h => hne (h.symm.trans hbkey)),
        List.append_nil]
      exact hother other hne

/-- One packet of the stream keeps the stream invariant and delivers for no other
stream. -/
theorem rxReliable_streamInv (hrx : config.rxCallback = true)
    (hplain : ∀ p, received p → PlainData p) (manager : Option FragmentManager) (io : TransportIo)
    (peer : PeerState) (packet : Packet) (data : Bytes) (hreceived : received packet)
    (hkey : packet.peerKey = key) (hdata : packet.payload? = some data)
    (hinv : StreamInv received key (deliveries key io.events) peer) :
    StreamInv received key
        (deliveries key (rxReliable env config manager io peer packet data).2.2.1.events)
        (rxReliable env config manager io peer packet data).2.2.2 ∧
      ∀ other, other ≠ key →
        deliveries other (rxReliable env config manager io peer packet data).2.2.1.events
          = deliveries other io.events := by
  obtain ⟨hshape, hnext, hbuffered, hhas⟩ := hinv.shape.init
  have hpacket := hplain packet hreceived
  have hheld : ∀ b ∈ (rxOrderInit peer).rxBuffered,
      received b ∧ b.peerKey = key ∧ b.payload?.isSome = true := hbuffered ▸ hinv.held
  rcases packetNumber_trichotomy packet.packetNumber (rxOrderInit peer).rxNextPacketNumber with
    hlt | heq | hgt
  · rw [rxReliable_duplicate env config manager io data hlt]
    dsimp only
    rw [deliveries_lowerSend]
    exact ⟨⟨hshape, hnext ▸ hinv.numbers, hinv.delivered, hheld⟩,
      fun other _ => deliveries_lowerSend other env config io _⟩
  · rw [rxReliable_expected env config manager io data heq,
      transportDeliverPacket_unfragmented env config manager _ _ hpacket.fragment]
    dsimp only
    have hdecode : transportDecodeData config packet data = data := by
      unfold transportDecodeData
      rw [if_pos (by simp [hpacket.compress])]
    rw [hdecode]
    generalize hio : emitRx config (transportLowerSend env config io
      (ackPacket config packet.feedbackScope packet.packetNumber)).2 packet data = io'
    have hdeliver : ∀ k, deliveries k io'.events
        = deliveries k io.events ++ if packet.peerKey = k then [(packet, data)] else [] := by
      intro k
      rw [← hio, deliveries_emitRx k hrx, deliveries_lowerSend]
    have hstart : DrainInv received key (deliveries key io'.events)
        { rxOrderInit peer with rxNextPacketNumber := packet.packetNumber + 1 } := by
      rw [hdeliver, if_pos hkey]
      exact DrainInv.deliver (by rw [heq, hnext]; exact hinv.numbers) hinv.delivered hpacket
        hreceived hkey hdata hshape.sorted (heq ▸ hshape.above) hhas hheld
    obtain ⟨hdrain, hother⟩ := drain_streamInv hrx hplain manager io' _ hstart
    refine ⟨hdrain, fun other hne => ?_⟩
    rw [hother other hne, hdeliver, if_neg (fun h => hne (h.symm.trans hkey)), List.append_nil]
  · obtain ⟨err, io', after, houtcome, hevents, heq⟩ :=
      rxReliable_later env config manager io data hgt
    rw [heq]
    dsimp only
    have hdeliveries : ∀ k, deliveries k (transportLowerSend env config io' (sackPacket config
        packet.feedbackScope after.rxBuffered (rxOrderInit peer).rxNextPacketNumber)).2.events
          = deliveries k io.events := by
      intro k
      rw [deliveries_lowerSend, hevents]
    rw [hdeliveries]
    refine ⟨⟨houtcome.shape hshape hhas hgt, ?_, hinv.delivered, ?_⟩,
      fun other _ => hdeliveries other⟩
    · have hsame : after.rxNextPacketNumber = peer.rxNextPacketNumber := by
        rw [← hnext]
        cases houtcome <;> rfl
      rw [hsame]
      exact hinv.numbers
    · cases houtcome with
      | refused err herr => exact hheld
      | present hfound => exact hheld
      | inserted bytes hbytes hne hnew =>
        intro b hb
        rcases mem_transportInsertRxBuffered.mp hb with rfl | hb
        · exact ⟨hreceived, hkey, Option.isSome_iff_exists.mpr ⟨data, hdata⟩⟩
        · exact hheld b hb

end Stream

/-! ### Runs -/

/-- Every stream of a context is in order. -/
def StreamsInOrder (received : Packet → Prop) (ctx : TransportCtx) : Prop :=
  ∀ key, match peerOf ctx.peers key with
    | none => deliveries key ctx.io.events = []
    | some peer => StreamInv received key (deliveries key ctx.io.events) peer

/-- One call of `xgl_transport_receive` keeps every stream in order. -/
theorem xglTransportReceive_inOrder {received : Packet → Prop}
    (hplain : ∀ p, received p → PlainData p) (env : TransportEnv) (ctx : TransportCtx)
    (packet : Packet) (hreceived : received packet) (hrx : ctx.config.rxCallback = true)
    (hinv : StreamsInOrder received ctx) :
    StreamsInOrder received (xglTransportReceive env ctx packet).2 ∧
      (xglTransportReceive env ctx packet).2.config = ctx.config := by
  have hpacket := hplain packet hreceived
  unfold xglTransportReceive
  rw [if_neg (by simp [hpacket.type, XGL_PACKET_TYPE_DATA, XGL_PACKET_TYPE_CONTROL]),
    if_neg (by simp [hpacket.type, hpacket.reliable, XGL_PACKET_TYPE_DATA, XGL_PACKET_TYPE_ACK,
      XGL_RELIABILITY_ACK_ELICITING, XGL_RELIABILITY_ACK_ONLY])]
  cases hdata : packet.payload? with
  | none => exact ⟨hinv, rfl⟩
  | some data =>
    dsimp only
    rcases transportReceiveData_cases env ctx packet data hpacket.reliable with
      ⟨err, session, io, _, hevents, _, heq⟩ | ⟨selected, peer, hsel, _, heq⟩
    · rw [heq]
      refine ⟨fun key => ?_, rfl⟩
      dsimp only
      rw [hevents]
      exact hinv key
    · rw [heq, transportReceiveReliable_eq]
      obtain ⟨hevents, hconfig⟩ := hsel.frame
      obtain ⟨hlookup, hothers⟩ := hsel.lookup
      obtain ⟨hkey, hcases⟩ := hsel.scoped_cases hpacket.inScope
      -- the selected peer meets the invariant of its stream
      have hpeer : StreamInv received packet.peerKey
          (deliveries packet.peerKey selected.io.events) peer := by
        rw [hevents]
        have hold := hinv packet.peerKey
        -- the peer of the scope was there, or it is new
        rcases hcases with ⟨old, now, hfound, rfl⟩ | ⟨hnone, hnext, hhas, hempty⟩
        · rw [hfound] at hold
          exact ⟨⟨hold.shape.sorted, hold.shape.above, hold.shape.fresh⟩, hold.numbers,
            hold.delivered, hold.held⟩
        · rw [hnone] at hold
          dsimp only at hold
          rw [hold]
          have hnoBuffered : ∀ b, b ∉ peer.rxBuffered := by simp [hempty]
          exact ⟨⟨by rw [hempty]; exact .nil, fun b hb => absurd hb (hnoBuffered b),
              fun _ => ⟨hnext, hempty⟩⟩,
            by rw [hnext]; rfl, by simp, fun b hb => absurd hb (hnoBuffered b)⟩
      obtain ⟨hstream, hrest⟩ := rxReliable_streamInv
        (hconfig ▸ hrx) hplain selected.fragmentMgr selected.io peer packet data hreceived rfl
        hdata hpeer
      have hresultKey := rxReliable_key env selected.config selected.fragmentMgr selected.io peer
        packet data
      refine ⟨fun key => ?_, hconfig⟩
      dsimp only
      rw [peerOf_putPeer, hresultKey, hkey]
      by_cases hk : packet.peerKey = key
      · subst hk
        rw [if_pos rfl, ← hkey, hlookup, hkey]
        exact hstream
      · rw [if_neg hk, hothers key (fun h => hk (hkey ▸ h.symm)), hrest key (Ne.symm hk), hevents]
        exact hinv key

/-- The packets a context receives, one call after the other. -/
def receiveAll (env : TransportEnv) (packets : List Packet) (ctx : TransportCtx) : TransportCtx :=
  packets.foldl (fun ctx packet => (xglTransportReceive env ctx packet).2) ctx

/-- Every run of reliable data packets keeps every stream in order. The induction
is on the packets received. -/
theorem receiveAll_inOrder (env : TransportEnv) {received : Packet → Prop}
    (hplain : ∀ p, received p → PlainData p) (packets : List Packet)
    (hpackets : ∀ p ∈ packets, received p) (ctx : TransportCtx)
    (hrx : ctx.config.rxCallback = true) (hinv : StreamsInOrder received ctx) :
    StreamsInOrder received (receiveAll env packets ctx) := by
  induction packets generalizing ctx with
  | nil => exact hinv
  | cons packet rest ih =>
    obtain ⟨hstep, hconfig⟩ := xglTransportReceive_inOrder hplain env ctx packet
      (hpackets packet List.mem_cons_self) hrx hinv
    exact ih (fun p hp => hpackets p (List.mem_cons_of_mem _ hp)) _ (hconfig ▸ hrx) hstep

/-- The next packet number of a stream, zero when it has no peer. -/
def nextNumber (ctx : TransportCtx) (key : PeerKey) : Nat :=
  (peerOf ctx.peers key).elim 0 fun peer => peer.rxNextPacketNumber.toNat

/-- Exactly-once, in-order delivery. However the packets of the streams are
reordered, duplicated, lost and interleaved and whichever allocations fail, each
stream's packets reach the receive callback numbered `0, 1, …, k - 1` with `k` the
next number of its peer, and the bytes handed over for number `i` are the payload
of a received packet of the stream with that number. -/
theorem delivery_in_order (env : TransportEnv) (config : TransportConfig) (ctx : TransportCtx)
    (hinit : xglTransportInit config = .ok ctx) (hrx : config.rxCallback = true)
    (packets : List Packet) (hpackets : ∀ p ∈ packets, PlainData p)
    (sourceId : UInt16) (connectionId sessionEpoch : UInt32) :
    let key := scopedKey sourceId connectionId sessionEpoch
    let reached := receiveAll env packets ctx
    deliveredNumbers key reached.io.events = List.range (nextNumber reached key) ∧
      ∀ i data, ((deliveries key reached.io.events)[i]?).map Prod.snd = some data →
        ∃ p ∈ packets, p.peerKey = key ∧ p.packetNumber.toNat = i ∧ p.payload? = some data := by
  intro key reached
  have hfresh := xglTransportInit_fresh hinit
  have hinv := receiveAll_inOrder env hpackets packets (fun p hp => hp) ctx
    (by rw [hfresh.2.2]; exact hrx) (fun key => by
      rw [hfresh.1, hfresh.2.1]
      rfl) key
  change match peerOf reached.peers key with
    | none => deliveries key reached.io.events = []
    | some peer => StreamInv (· ∈ packets) key (deliveries key reached.io.events) peer at hinv
  unfold deliveredNumbers nextNumber
  cases hpeer : peerOf reached.peers key with
  | none =>
    rw [hpeer] at hinv
    dsimp only at hinv
    rw [hinv]
    exact ⟨rfl, fun i data h => by simp at h⟩
  | some peer =>
    rw [hpeer] at hinv
    refine ⟨hinv.numbers, fun i data h => ?_⟩
    rw [Option.map_eq_some_iff] at h
    obtain ⟨⟨origin, bytes⟩, hget, rfl⟩ := h
    obtain ⟨hmem, hkey, hpayload⟩ := hinv.delivered _ (List.mem_of_getElem? hget)
    refine ⟨origin, hmem, hkey, ?_, hpayload⟩
    -- the i-th number of the range is i
    have hnum := congrArg (fun l : List Nat => l[i]?) hinv.numbers
    rw [List.getElem?_map, hget, Option.map_some] at hnum
    exact (List.getElem?_eq_some_iff.mp hnum.symm).2 ▸ by simp

/-- An outside world without failures. -/
def calmEnv : TransportEnv where
  allocOk := fun _ => true
  clock := fun n => UInt32.ofNat (n + 1)
  layerSend := fun _ _ => .ok

/-- Node 2 with the default window. -/
def sampleTransportConfig : TransportConfig where
  localId := 2

/-- The context node 2 starts with. -/
def sampleTransport : TransportCtx where
  config := sampleTransportConfig
  nextSessionId := 2
  window := freshWindow 8

/-- A data packet of node 1 for node 2 on connection 5. -/
def sampleData (number : UInt32) (payload : Bytes) : Packet where
  sourceId := 1
  targetId := 2
  sessionId := 5
  connectionId := 5
  packetNumber := number
  packetType := XGL_PACKET_TYPE_DATA
  reliable := XGL_RELIABILITY_ACK_ELICITING
  data := some { data := some payload }

/-- Number one overtakes number zero, which then arrives twice: both are delivered
once and in order. -/
theorem delivery_in_order_reordered :
    nextNumber (receiveAll calmEnv [sampleData 1 [8], sampleData 0 [7], sampleData 0 [7]]
        sampleTransport) (scopedKey 1 5 0) = 2 ∧
      deliveredNumbers (scopedKey 1 5 0)
        (receiveAll calmEnv [sampleData 1 [8], sampleData 0 [7], sampleData 0 [7]]
          sampleTransport).io.events
        = List.range (nextNumber (receiveAll calmEnv
            [sampleData 1 [8], sampleData 0 [7], sampleData 0 [7]] sampleTransport)
            (scopedKey 1 5 0)) := by
  have hplain : ∀ n payload, n.toNat < 2 ^ 32 - 1 → PlainData (sampleData n payload) :=
    fun n payload hn => ⟨rfl, rfl, rfl, rfl, rfl, hn⟩
  refine ⟨by decide +kernel, (delivery_in_order calmEnv sampleTransportConfig sampleTransport rfl
    rfl [sampleData 1 [8], sampleData 0 [7], sampleData 0 [7]] ?_ 1 5 0).1⟩
  simp only [List.mem_cons, List.not_mem_nil, or_false, forall_eq_or_imp, forall_eq]
  exact ⟨hplain 1 [8] (by decide), hplain 0 [7] (by decide), hplain 0 [7] (by decide)⟩

end XgenLink
