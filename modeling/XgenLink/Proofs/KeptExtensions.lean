import XgenLink.Proofs.ReceiveSteps

/-!
# `XgenLink.Proofs.KeptExtensions`: the extension bytes the receiver keeps

A packet that is kept for later is kept with the bytes of its extensions. So when two frames
differ in the order of their extensions only, the states behind them differ in the bytes that are
kept, although the receive path never sees the difference. It asks whether there are any
extensions and for their FRAGMENT_EXT, and no more.

A `Relabelling` replaces the extension bytes of packets by others of which the receive path learns
the same. Everything the receive path does commutes with it: allocations have the same sizes, the
same packets are found, delivered and acknowledged, and the packets kept are the replaced ones.
There is one such lemma for each function on the way, named after the function.

* `Relabelling`: what is replaced, and why it does not show.
* `rxReliable_relabel`, `transportDeliverPacket_relabel`: a packet received after the replacement
  does what it does before it.
* `SameView`: two packets that look the same, and the replacement that turns one into the other.
* `SameView.transportReceive`: `xgl_transport_receive` does the same with both.
-/

set_option autoImplicit false

namespace XgenLink

/-! ### Relabellings -/

/-- Extension bytes replaced by others that look the same to the receive path. -/
structure Relabelling where
  toFun : Bytes → Bytes
  empty : ∀ extensions, (toFun extensions).isEmpty = extensions.isEmpty
  fragment : ∀ extensions, deliveredFragmentExt (toFun extensions) = deliveredFragmentExt extensions

/-- The packet with its extension bytes replaced. -/
def Packet.relabel (packet : Packet) (σ : Relabelling) : Packet :=
  { packet with extensions := σ.toFun packet.extensions }

/-- An event with the packet behind it replaced. A packet that was sent is no packet kept. -/
def TransportEvent.relabel (σ : Relabelling) : TransportEvent → TransportEvent
  | .rxCallback sourceId dataType data origin =>
    .rxCallback sourceId dataType data (origin.relabel σ)
  | .fragmentStored origin => .fragmentStored (origin.relabel σ)
  | event => event

/-- The packets behind the recorded events replaced. -/
def TransportIo.relabel (io : TransportIo) (σ : Relabelling) : TransportIo :=
  { io with events := io.events.map (TransportEvent.relabel σ) }

/-- The buffered packets of a peer replaced. -/
def PeerState.relabel (peer : PeerState) (σ : Relabelling) : PeerState :=
  { peer with rxBuffered := peer.rxBuffered.map fun packet => packet.relabel σ }

section Relabel

variable (σ : Relabelling)

/-- The number is not in the extensions. -/
@[simp] theorem Packet.relabel_packetNumber (packet : Packet) :
    (packet.relabel σ).packetNumber = packet.packetNumber := rfl

/-- Nor is the payload. -/
@[simp] theorem Packet.relabel_payload (packet : Packet) :
    (packet.relabel σ).payload? = packet.payload? := rfl

/-- Nor is the scope that feedback is sent to. -/
@[simp] theorem Packet.relabel_feedbackScope (packet : Packet) :
    (packet.relabel σ).feedbackScope = packet.feedbackScope := rfl

/-- A peer keeps its next number. -/
@[simp] theorem PeerState.relabel_rxNext (peer : PeerState) :
    (peer.relabel σ).rxNextPacketNumber = peer.rxNextPacketNumber := rfl

/-! ### The outside -/

/-- Recording a replaced event. -/
@[simp] theorem TransportIo.relabel_emit (io : TransportIo) (event : TransportEvent) :
    (io.relabel σ).emit (event.relabel σ) = (io.emit event).relabel σ := by
  unfold TransportIo.emit TransportIo.relabel
  simp

/-- An allocation does not look at the events. -/
theorem transportMalloc_relabel (env : TransportEnv) (io : TransportIo) (size : Nat) :
    transportMalloc env (io.relabel σ) size
      = ((transportMalloc env io size).1, (transportMalloc env io size).2.relabel σ) := by
  unfold transportMalloc
  split <;> rfl

/-- A packet that is handed down is no packet kept, so it stays as it is. -/
theorem transportLowerSend_relabel (env : TransportEnv) (config : TransportConfig)
    (io : TransportIo) (packet : Packet) :
    transportLowerSend env config (io.relabel σ) packet
      = ((transportLowerSend env config io packet).1,
          (transportLowerSend env config io packet).2.relabel σ) := by
  unfold transportLowerSend
  split
  · unfold xglLayerSend TransportIo.emit TransportIo.relabel
    simp [TransportEvent.relabel]
  · rfl

/-- An ACK is made of the number and the scope. -/
theorem transportSendAck_relabel (env : TransportEnv) (config : TransportConfig)
    (io : TransportIo) (scope : FeedbackScope) (n : UInt32) :
    transportSendAck env config (io.relabel σ) scope n
      = ((transportSendAck env config io scope n).1,
          (transportSendAck env config io scope n).2.relabel σ) := by
  rw [transportSendAck_eq, transportSendAck_eq]
  exact transportLowerSend_relabel σ env config io _

/-- The bitmap is made of the packet numbers. -/
theorem sackBitmap_relabel (rxBuffered : List Packet) (basePacket : UInt32) :
    sackBitmap (rxBuffered.map fun packet => packet.relabel σ) basePacket
      = sackBitmap rxBuffered basePacket := by
  unfold sackBitmap
  rw [List.foldl_map]
  rfl

/-- A SACK is made of the numbers of the list and the scope. -/
theorem transportSendSack_relabel (env : TransportEnv) (config : TransportConfig)
    (io : TransportIo) (rxBuffered : List Packet) (scope : FeedbackScope) (basePacket : UInt32) :
    transportSendSack env config (io.relabel σ) (rxBuffered.map fun packet => packet.relabel σ)
        scope basePacket
      = ((transportSendSack env config io rxBuffered scope basePacket).1,
          (transportSendSack env config io rxBuffered scope basePacket).2.relabel σ) := by
  rw [transportSendSack_eq, transportSendSack_eq]
  unfold sackPacket
  rw [sackBitmap_relabel]
  exact transportLowerSend_relabel σ env config io _

/-! ### The out-of-order list -/

/-- A packet of the list is found by its number. -/
theorem transportFindRxBuffered_relabel (n : UInt32) (buffered : List Packet) :
    transportFindRxBuffered n (buffered.map fun packet => packet.relabel σ)
      = (transportFindRxBuffered n buffered).map fun packet => packet.relabel σ := by
  induction buffered with
  | nil => rfl
  | cons first rest ih =>
    rw [List.map_cons, transportFindRxBuffered, transportFindRxBuffered]
    by_cases hfound : (first.packetNumber == n) = true
    · rw [if_pos hfound]
      exact if_pos hfound
    by_cases hbehind : first.packetNumber > n
    · rw [if_neg hfound, if_pos hbehind]
      exact (if_neg hfound).trans (if_pos hbehind)
    · rw [if_neg hfound, if_neg hbehind, ← ih]
      exact (if_neg hfound).trans (if_neg hbehind)

/-- A packet is put into the list by its number. -/
theorem transportInsertRxBuffered_relabel (packet : Packet) (buffered : List Packet) :
    transportInsertRxBuffered (packet.relabel σ) (buffered.map fun packet => packet.relabel σ)
      = (transportInsertRxBuffered packet buffered).map fun packet => packet.relabel σ := by
  induction buffered with
  | nil => rfl
  | cons first rest ih =>
    rw [List.map_cons, transportInsertRxBuffered, transportInsertRxBuffered]
    by_cases hbehind : first.packetNumber ≥ packet.packetNumber
    · rw [if_pos hbehind]
      exact if_pos hbehind
    · rw [if_neg hbehind, List.map_cons, ← ih]
      exact if_neg hbehind

/-- So is one taken off the list. -/
theorem takeRxBuffered_relabel (n : UInt32) (buffered : List Packet) :
    takeRxBuffered n (buffered.map fun packet => packet.relabel σ)
      = (takeRxBuffered n buffered).map fun found =>
          (found.1.relabel σ, found.2.map fun packet => packet.relabel σ) := by
  induction buffered with
  | nil => rfl
  | cons first rest ih =>
    rw [List.map_cons, takeRxBuffered, takeRxBuffered]
    by_cases hfound : (first.packetNumber == n) = true
    · rw [if_pos hfound]
      exact if_pos hfound
    by_cases hbehind : first.packetNumber > n
    · rw [if_neg hfound, if_pos hbehind]
      exact (if_neg hfound).trans (if_pos hbehind)
    · rw [if_neg hfound, if_neg hbehind]
      refine ((if_neg hfound).trans (if_neg hbehind)).trans ?_
      rw [ih]
      cases takeRxBuffered n rest <;> rfl

/-- The same with the peer that has the list. -/
theorem transportTakeRxBuffered_relabel (peer : PeerState) (n : UInt32) :
    transportTakeRxBuffered (peer.relabel σ) n
      = (transportTakeRxBuffered peer n).map fun found =>
          (found.1.relabel σ, found.2.relabel σ) := by
  unfold transportTakeRxBuffered PeerState.relabel
  dsimp only
  rw [takeRxBuffered_relabel]
  cases takeRxBuffered n peer.rxBuffered <;> rfl

/-- The same blocks are allocated for a packet that is kept. -/
theorem rxBufferedAlloc_relabel (env : TransportEnv) (io : TransportIo) (data extensions : Bytes) :
    rxBufferedAlloc env (io.relabel σ) data (σ.toFun extensions)
      = ((rxBufferedAlloc env io data extensions).1,
          (rxBufferedAlloc env io data extensions).2.relabel σ) := by
  have hsize : ((σ.toFun extensions).length == 0) = (extensions.length == 0) := by
    have hempty := σ.empty extensions
    rw [Bool.eq_iff_iff, List.isEmpty_iff_length_eq_zero, List.isEmpty_iff_length_eq_zero] at hempty
    rw [Bool.eq_iff_iff, beq_iff_eq, beq_iff_eq]
    exact hempty
  unfold rxBufferedAlloc
  dsimp only
  rw [σ.empty, transportMalloc_relabel]
  dsimp only
  split
  · rfl
  · rw [transportMalloc_relabel]
    dsimp only
    split
    · rfl
    · -- only whether a size is zero counts
      rw [transportMalloc_relabel]
      unfold transportMalloc
      rw [hsize]

/-- Caching a packet keeps the replaced one. The checks are those of the window and the counts,
and the allocations have the sizes of payload and extensions. -/
theorem transportCacheOutOfOrderPacket_relabel (env : TransportEnv) (io : TransportIo)
    (peer : PeerState) (packet : Packet) (n : UInt32) :
    transportCacheOutOfOrderPacket env (io.relabel σ) (peer.relabel σ) (packet.relabel σ) n
      = (let cached := transportCacheOutOfOrderPacket env io peer packet n
        (cached.1, cached.2.1.relabel σ, cached.2.2.relabel σ)) := by
  have hfind : (transportFindRxBuffered n (peer.relabel σ).rxBuffered).isSome
      = (transportFindRxBuffered n peer.rxBuffered).isSome := by
    rw [show (peer.relabel σ).rxBuffered = peer.rxBuffered.map fun packet => packet.relabel σ
      from rfl, transportFindRxBuffered_relabel, Option.isSome_map]
  have hinsert := transportInsertRxBuffered_relabel σ { packet with packetNumber := n }
    peer.rxBuffered
  unfold transportCacheOutOfOrderPacket
  rw [Packet.relabel_payload]
  -- a packet without payload is not kept
  cases packet.payload? with
  | none => rfl
  | some data =>
    have halloc := rxBufferedAlloc_relabel σ env io data packet.extensions
    dsimp only
    rw [hfind, show (packet.relabel σ).extensions = σ.toFun packet.extensions from rfl, halloc]
    -- an empty payload is not kept either
    by_cases hempty : (data.length == 0) = true
    · rw [if_pos hempty, if_pos hempty]
    rw [if_neg hempty, if_neg hempty]
    -- the window and the counts are those of the peer itself
    by_cases hwindow : n - peer.rxNextPacketNumber ≥
        if peer.txWindow.windowSize == 0 then (1 : UInt32) else peer.txWindow.windowSize.toUInt32
    · rw [if_pos hwindow]
      exact if_pos hwindow
    rw [if_neg hwindow]
    refine (if_neg hwindow).trans ?_
    by_cases hcount : peer.rxBufferedCount.toUInt32 ≥
        if peer.txWindow.windowSize == 0 then (1 : UInt32) else peer.txWindow.windowSize.toUInt32
    · rw [if_pos hcount]
      exact if_pos hcount
    rw [if_neg hcount]
    refine (if_neg hcount).trans ?_
    split
    · rfl
    · split
      · rfl
      · exact congrArg (fun buffered => (XglError.ok,
          (rxBufferedAlloc env io data packet.extensions).2.relabel σ,
          { peer with
            rxBuffered := buffered
            rxBufferedCount := peer.rxBufferedCount + 1 })) hinsert

/-! ### Delivery -/

/-- The callback is handed the same bytes. -/
theorem emitRx_relabel (config : TransportConfig) (io : TransportIo) (packet : Packet)
    (data : Bytes) :
    emitRx config (io.relabel σ) (packet.relabel σ) data
      = (emitRx config io packet data).relabel σ := by
  unfold emitRx
  split
  · exact TransportIo.relabel_emit σ io (.rxCallback packet.sourceId packet.dataType data packet)
  · rfl

/-- A fragment that is stored is recorded with its packet. -/
theorem emitStored_relabel (io : TransportIo) (packet : Packet) (stored : Bool) :
    emitStored (io.relabel σ) (packet.relabel σ) stored
      = (emitStored io packet stored).relabel σ := by
  unfold emitStored
  split
  · exact TransportIo.relabel_emit σ io (.fragmentStored packet)
  · rfl

/-- A buffer is created from key, type and length. -/
theorem fragmentCreateReassemblyBuffer_relabel (env : TransportEnv) (io : TransportIo)
    (manager : FragmentManager) (key : MessageKey) (dataType : UInt8) (messageLen : UInt32) :
    fragmentCreateReassemblyBuffer env (io.relabel σ) manager key dataType messageLen
      = (let created := fragmentCreateReassemblyBuffer env io manager key dataType messageLen
        (created.1, created.2.1, created.2.2.relabel σ)) := by
  unfold fragmentCreateReassemblyBuffer
  split
  · rfl
  split
  · rfl
  split
  · rfl
  dsimp only
  rw [transportMalloc_relabel]
  dsimp only
  split
  · rfl
  rw [transportMalloc_relabel]
  dsimp only
  split <;> rfl

/-- A fragment is stored from its payload and its place. -/
theorem fragmentStore_relabel (env : TransportEnv) (io : TransportIo) (manager : FragmentManager)
    (buffer : ReassemblyBuffer) (dataType : UInt8) (fragmentOffset messageLen : UInt32)
    (payload : Bytes) (currentTimeMs : UInt32) :
    fragmentStore env (io.relabel σ) manager buffer dataType fragmentOffset messageLen payload
        currentTimeMs
      = (let stored := fragmentStore env io manager buffer dataType fragmentOffset messageLen
          payload currentTimeMs
        (stored.1, stored.2.1, stored.2.2.relabel σ)) := by
  unfold fragmentStore
  split
  · rfl
  dsimp only
  cases fragmentInsertReceivedRange buffer.receivedRanges fragmentOffset.toNat
    (fragmentOffset.toNat + payload.length) with
  | error err => rfl
  | ok ranges =>
    dsimp only
    split
    · split <;> rfl
    · split <;> rfl

/-- So the manager does the same with it. -/
theorem xglFragmentProcessExt_relabel (env : TransportEnv) (io : TransportIo)
    (manager : FragmentManager) (key : MessageKey) (dataType : UInt8)
    (fragmentOffset messageLen : UInt32) (payload : Bytes) (currentTimeMs : UInt32) :
    xglFragmentProcessExt env (io.relabel σ) manager key dataType fragmentOffset messageLen payload
        currentTimeMs
      = (let processed := xglFragmentProcessExt env io manager key dataType fragmentOffset
          messageLen payload currentTimeMs
        (processed.1, processed.2.1, processed.2.2.relabel σ)) := by
  unfold xglFragmentProcessExt
  split
  · rfl
  split
  · rfl
  cases fragmentFindReassemblyBuffer manager key with
  | some buffer => exact fragmentStore_relabel σ env io manager buffer _ _ _ _ _
  | none =>
    dsimp only
    rw [fragmentCreateReassemblyBuffer_relabel]
    generalize fragmentCreateReassemblyBuffer env io manager key dataType messageLen = created
    obtain ⟨result, after, io'⟩ := created
    cases result with
    | error err => rfl
    | ok buffer => exact fragmentStore_relabel σ env io' after buffer _ _ _ _ _

/-- A fragment is delivered from the FRAGMENT_EXT that is found, which is the same. -/
theorem transportDeliverFragment_relabel (env : TransportEnv) (config : TransportConfig)
    (manager : FragmentManager) (io : TransportIo) (packet : Packet) (data : Bytes) :
    transportDeliverFragment env config manager (io.relabel σ) (packet.relabel σ) data
      = (let delivered := transportDeliverFragment env config manager io packet data
        (delivered.1, delivered.2.1, delivered.2.2.relabel σ)) := by
  have hext : deliveredFragmentExt (packet.relabel σ).extensions
      = deliveredFragmentExt packet.extensions := σ.fragment packet.extensions
  unfold transportDeliverFragment
  rw [hext]
  cases deliveredFragmentExt packet.extensions with
  | error err => rfl
  | ok ext =>
    dsimp only
    have hkey : fragmentKey (packet.relabel σ) ext = fragmentKey packet ext := rfl
    rw [hkey, show (packet.relabel σ).dataType = packet.dataType from rfl,
      xglFragmentProcessExt_relabel]
    dsimp only
    generalize xglFragmentProcessExt env io manager (fragmentKey packet ext) packet.dataType
      ext.fragmentOffset ext.messageLen data 0 = processed
    obtain ⟨result, after, io'⟩ := processed
    dsimp only
    rw [emitStored_relabel]
    cases result.error with
    | ok =>
      dsimp only
      rw [emitRx_relabel]
    | _ => rfl

/-- Delivering a packet commutes with the replacement. -/
theorem transportDeliverPacket_relabel (env : TransportEnv) (config : TransportConfig)
    (manager : Option FragmentManager) (io : TransportIo) (packet : Packet) (data : Bytes) :
    transportDeliverPacket env config manager (io.relabel σ) (packet.relabel σ) data
      = (let delivered := transportDeliverPacket env config manager io packet data
        (delivered.1, delivered.2.1, delivered.2.2.relabel σ)) := by
  unfold transportDeliverPacket
  rw [emitRx_relabel]
  cases manager with
  | none => rfl
  | some manager =>
    dsimp only
    rw [transportDeliverFragment_relabel,
      show (packet.relabel σ).fragment = packet.fragment from rfl]
    split <;> rfl

/-- Draining commutes with the replacement. The induction is on the rounds. -/
theorem drainLoop_relabel (env : TransportEnv) (config : TransportConfig) (fuel : Nat)
    (manager : Option FragmentManager) (io : TransportIo) (peer : PeerState) :
    drainLoop env config fuel manager (io.relabel σ) (peer.relabel σ)
      = (let drained := drainLoop env config fuel manager io peer
        (drained.1, drained.2.1, drained.2.2.1.relabel σ, drained.2.2.2.relabel σ)) := by
  induction fuel generalizing manager io peer with
  | zero => rfl
  | succ fuel ih =>
    rw [drainLoop, drainLoop, PeerState.relabel_rxNext, transportTakeRxBuffered_relabel]
    cases transportTakeRxBuffered peer peer.rxNextPacketNumber with
    | none => rfl
    | some found =>
      obtain ⟨buffered, after⟩ := found
      dsimp only [Option.map_some]
      rw [Packet.relabel_payload, transportDeliverPacket_relabel, Packet.relabel_feedbackScope,
        Packet.relabel_packetNumber]
      dsimp only
      rw [transportSendAck_relabel]
      cases (transportDeliverPacket env config manager io buffered
        (buffered.payload?.getD [])).1 with
      | ok => exact ih _ _ { after with rxNextPacketNumber := buffered.packetNumber + 1 }
      | _ => rfl

/-! ### One packet -/

/-- The receive state is set up alike. -/
@[simp] theorem rxOrderInit_relabel (peer : PeerState) :
    rxOrderInit (peer.relabel σ) = (rxOrderInit peer).relabel σ := by
  unfold rxOrderInit
  by_cases hstate : peer.rxHasPacketNumberState = true
  · rw [if_pos hstate]
    exact if_pos hstate
  · rw [if_neg hstate]
    exact if_neg hstate

/-- Ordering commutes with the replacement. -/
theorem transportProcessReliableRxOrder_relabel (env : TransportEnv) (config : TransportConfig)
    (io : TransportIo) (peer : PeerState) (packet : Packet) :
    transportProcessReliableRxOrder env config (io.relabel σ) (peer.relabel σ) (packet.relabel σ)
      = (let ordered := transportProcessReliableRxOrder env config io peer packet
        (ordered.1, ordered.2.1.relabel σ, ordered.2.2.relabel σ)) := by
  unfold transportProcessReliableRxOrder
  rw [rxOrderInit_relabel]
  dsimp only [PeerState.relabel_rxNext, Packet.relabel_packetNumber,
    Packet.relabel_feedbackScope]
  rw [transportCacheOutOfOrderPacket_relabel, transportSendAck_relabel]
  dsimp only
  by_cases hlater : packet.packetNumber > (rxOrderInit peer).rxNextPacketNumber
  · rw [if_pos hlater]
    refine (if_pos hlater).trans ?_
    rw [show ∀ p : PeerState, (p.relabel σ).rxBuffered
      = p.rxBuffered.map fun packet => packet.relabel σ from fun _ => rfl,
      transportSendSack_relabel]
  · rw [if_neg hlater]
    exact if_neg hlater

/-- Receiving a reliable packet commutes with the replacement. -/
theorem rxReliable_relabel (env : TransportEnv) (config : TransportConfig)
    (manager : Option FragmentManager) (io : TransportIo) (peer : PeerState) (packet : Packet)
    (data : Bytes) :
    rxReliable env config manager (io.relabel σ) (peer.relabel σ) (packet.relabel σ) data
      = (let received := rxReliable env config manager io peer packet data
        (received.1, received.2.1, received.2.2.1.relabel σ, received.2.2.2.relabel σ)) := by
  unfold rxReliable
  rw [transportProcessReliableRxOrder_relabel]
  generalize transportProcessReliableRxOrder env config io peer packet = ordered
  obtain ⟨err, io', after⟩ := ordered
  cases err with
  | ok =>
    dsimp only [Packet.relabel_packetNumber, PeerState.relabel_rxNext]
    by_cases hother : (packet.packetNumber != after.rxNextPacketNumber) = true
    · rw [if_pos hother]
      exact if_pos hother
    · rw [if_neg hother]
      refine (if_neg hother).trans ?_
      rw [transportDeliverPacket_relabel,
        show transportDecodeData config (packet.relabel σ) data
          = transportDecodeData config packet data from rfl]
      generalize transportDeliverPacket env config manager io' packet
        (transportDecodeData config packet data) = delivered
      obtain ⟨code, manager', io''⟩ := delivered
      cases code with
      | ok =>
        unfold transportDrainRxBuffered
        have hlength : (after.relabel σ).rxBuffered.length = after.rxBuffered.length :=
          List.length_map _
        dsimp only
        rw [hlength]
        exact drainLoop_relabel σ env config _ manager' io''
          { after with rxNextPacketNumber := packet.packetNumber + 1 }
      | _ => rfl
  | _ => rfl

/-! ### The context -/

/-- The packets a context keeps, and those behind its events, replaced. -/
def TransportCtx.relabel (ctx : TransportCtx) (σ : Relabelling) : TransportCtx :=
  { ctx with
    peers := ctx.peers.map fun peer => peer.relabel σ
    io := ctx.io.relabel σ }

/-- Writing back a peer. -/
theorem putPeer_relabel (peer : PeerState) (peers : List PeerState) :
    putPeer (peer.relabel σ) (peers.map fun peer => peer.relabel σ)
      = (putPeer peer peers).map fun peer => peer.relabel σ := by
  induction peers with
  | nil => rfl
  | cons first rest ih =>
    rw [List.map_cons, putPeer, putPeer]
    by_cases hkey : (first.key == peer.key) = true
    · rw [if_pos hkey]
      exact if_pos hkey
    · rw [if_neg hkey, List.map_cons, ← ih]
      exact if_neg hkey

end Relabel

/-! ### Two packets that look the same -/

/-- What the transport reads of the extension bytes of a packet. -/
structure SameView (extensions extensions' : Bytes) : Prop where
  empty : extensions'.isEmpty = extensions.isEmpty
  walk : (wireExts extensions' extensions'.length).2 = (wireExts extensions extensions.length).2
  first : ∀ type ∈ [XGL_WIRE_EXT_ACK_RANGE, XGL_WIRE_EXT_SACK, XGL_WIRE_EXT_FRAGMENT],
    ((wireExts extensions' extensions'.length).1.find? fun ext => ext.type == type)
      = (wireExts extensions extensions.length).1.find? fun ext => ext.type == type

namespace SameView

variable {extensions extensions' : Bytes}

/-- The FRAGMENT_EXT found is the same. -/
theorem fragment (h : SameView extensions extensions') :
    deliveredFragmentExt extensions' = deliveredFragmentExt extensions := by
  unfold deliveredFragmentExt
  dsimp only
  rw [h.empty, h.walk, h.first XGL_WIRE_EXT_FRAGMENT (by simp)]

/-- The one kind of extension bytes replaced by the other. -/
def relabelling (h : SameView extensions extensions') : Relabelling where
  toFun kept := if kept = extensions' then extensions else kept
  empty := by
    intro kept
    split
    · rename_i heq
      rw [heq]
      exact h.empty.symm
    · rfl
  fragment := by
    intro kept
    split
    · rename_i heq
      rw [heq]
      exact h.fragment.symm
    · rfl

/-- The packets are the same but for the replacement. -/
theorem relabel_packet (h : SameView extensions extensions') {packet : Packet}
    (hpacket : packet.extensions = extensions) :
    ({ packet with extensions := extensions' } : Packet).relabel h.relabelling
      = packet.relabel h.relabelling := by
  unfold Packet.relabel relabelling
  dsimp only
  rw [if_pos rfl, hpacket]
  split <;> rfl

/-- An ACK packet is applied with the records it carries first. -/
theorem transportApplyAck (h : SameView extensions extensions') (env : TransportEnv)
    (ctx : TransportCtx) (peer : PeerState) {packet : Packet}
    (hpacket : packet.extensions = extensions) :
    transportApplyAck env ctx peer { packet with extensions := extensions' }
      = transportApplyAck env ctx peer packet := by
  have hrange : ∀ ctx peer, transportTryProcessAckRangeExt ctx peer packet.sourceId extensions'
      = transportTryProcessAckRangeExt ctx peer packet.sourceId packet.extensions := by
    intro ctx peer
    unfold transportTryProcessAckRangeExt
    dsimp only
    rw [hpacket, h.walk, h.first XGL_WIRE_EXT_ACK_RANGE (by simp)]
  have hsack : ∀ ctx peer, transportTryProcessSackExt env ctx peer packet.sourceId extensions'
      = transportTryProcessSackExt env ctx peer packet.sourceId packet.extensions := by
    intro ctx peer
    unfold transportTryProcessSackExt
    dsimp only
    rw [hpacket, h.walk, h.first XGL_WIRE_EXT_SACK (by simp)]
  unfold XgenLink.transportApplyAck
  dsimp only
  rw [hrange, hsack]

/-- An ACK packet does exactly the same. -/
theorem transportProcessAckPacket (h : SameView extensions extensions') (env : TransportEnv)
    (ctx : TransportCtx) {packet : Packet} (hpacket : packet.extensions = extensions) :
    transportProcessAckPacket env ctx { packet with extensions := extensions' }
      = transportProcessAckPacket env ctx packet := by
  have happly := fun peer => h.transportApplyAck env ctx peer hpacket
  have hfind : transportFindAckPeer ctx.peers { packet with extensions := extensions' }
      = transportFindAckPeer ctx.peers packet := rfl
  unfold XgenLink.transportProcessAckPacket
  dsimp only
  rw [hfind, hpacket, h.empty]
  cases transportFindAckPeer ctx.peers packet with
  | none => rfl
  | some peer =>
    dsimp only
    rw [happly]

/-- A reliable packet does the same, up to the extension bytes that are kept. -/
theorem transportReceiveReliable (h : SameView extensions extensions') (env : TransportEnv)
    (ctx : TransportCtx) (peer : PeerState) {packet : Packet}
    (hpacket : packet.extensions = extensions) (data : Bytes) :
    (transportReceiveReliable env ctx peer { packet with extensions := extensions' } data).1
        = (transportReceiveReliable env ctx peer packet data).1 ∧
      (transportReceiveReliable env ctx peer { packet with extensions := extensions' }
          data).2.relabel h.relabelling
        = (transportReceiveReliable env ctx peer packet data).2.relabel h.relabelling := by
  have hnew := rxReliable_relabel h.relabelling env ctx.config ctx.fragmentMgr ctx.io peer
    { packet with extensions := extensions' } data
  have hold := rxReliable_relabel h.relabelling env ctx.config ctx.fragmentMgr ctx.io peer packet
    data
  rw [h.relabel_packet hpacket, hold] at hnew
  rw [transportReceiveReliable_eq, transportReceiveReliable_eq]
  generalize rxReliable env ctx.config ctx.fragmentMgr ctx.io peer
    { packet with extensions := extensions' } data = new at hnew ⊢
  generalize rxReliable env ctx.config ctx.fragmentMgr ctx.io peer packet data = old at hnew ⊢
  obtain ⟨err, manager, io, after⟩ := new
  obtain ⟨err', manager', io', after'⟩ := old
  simp only [Prod.mk.injEq] at hnew
  obtain ⟨rfl, rfl, hio, hpeer⟩ := hnew
  refine ⟨rfl, ?_⟩
  unfold TransportCtx.relabel
  dsimp only
  rw [← putPeer_relabel, ← putPeer_relabel, hio, hpeer]

/-- A packet that is not ordered does the same. -/
theorem transportDeliverData (h : SameView extensions extensions') (env : TransportEnv)
    (ctx : TransportCtx) {packet : Packet} (hpacket : packet.extensions = extensions)
    (data : Bytes) :
    (transportDeliverData env ctx { packet with extensions := extensions' } data).1
        = (transportDeliverData env ctx packet data).1 ∧
      (transportDeliverData env ctx { packet with extensions := extensions' } data).2.relabel
          h.relabelling
        = (transportDeliverData env ctx packet data).2.relabel h.relabelling := by
  have hnew := transportDeliverPacket_relabel h.relabelling env ctx.config ctx.fragmentMgr ctx.io
    { packet with extensions := extensions' } (transportDecodeData ctx.config packet data)
  have hold := transportDeliverPacket_relabel h.relabelling env ctx.config ctx.fragmentMgr ctx.io
    packet (transportDecodeData ctx.config packet data)
  rw [h.relabel_packet hpacket, hold] at hnew
  unfold XgenLink.transportDeliverData
  rw [show transportDecodeData ctx.config { packet with extensions := extensions' } data
    = transportDecodeData ctx.config packet data from rfl]
  generalize transportDeliverPacket env ctx.config ctx.fragmentMgr ctx.io
    { packet with extensions := extensions' } (transportDecodeData ctx.config packet data) = new
    at hnew ⊢
  generalize transportDeliverPacket env ctx.config ctx.fragmentMgr ctx.io packet
    (transportDecodeData ctx.config packet data) = old at hnew ⊢
  obtain ⟨err, manager, io⟩ := new
  obtain ⟨err', manager', io'⟩ := old
  simp only [Prod.mk.injEq] at hnew
  obtain ⟨rfl, rfl, hio⟩ := hnew
  refine ⟨rfl, ?_⟩
  unfold TransportCtx.relabel
  dsimp only
  rw [hio]

/-- A packet with a payload does the same. Its peer is selected without the extensions. -/
theorem transportReceiveData (h : SameView extensions extensions') (env : TransportEnv)
    (ctx : TransportCtx) {packet : Packet} (hpacket : packet.extensions = extensions)
    (data : Bytes) :
    (transportReceiveData env ctx { packet with extensions := extensions' } data).1
        = (transportReceiveData env ctx packet data).1 ∧
      (transportReceiveData env ctx { packet with extensions := extensions' } data).2.relabel
          h.relabelling
        = (transportReceiveData env ctx packet data).2.relabel h.relabelling := by
  have hprepare : transportPrepareRxPeer env ctx { packet with extensions := extensions' }
      = transportPrepareRxPeer env ctx packet := rfl
  have horder : ∀ ctx peer, transportOrderPeer env ctx { packet with extensions := extensions' }
      peer = transportOrderPeer env ctx packet peer := fun _ _ => rfl
  unfold XgenLink.transportReceiveData
  rw [hprepare]
  generalize transportPrepareRxPeer env ctx packet = prepared
  obtain ⟨err, selected, peer⟩ := prepared
  cases err with
  | ok =>
    dsimp only
    split
    · rw [horder]
      generalize transportOrderPeer env (transportTouchPeer env selected peer).1 packet
        (transportTouchPeer env selected peer).2 = ordered
      obtain ⟨ctx', peer'⟩ := ordered
      cases peer' with
      | none => exact ⟨rfl, rfl⟩
      | some peer' => exact h.transportReceiveReliable env ctx' peer' hpacket data
    · exact h.transportDeliverData env _ hpacket data
  | _ => exact ⟨rfl, rfl⟩

/-- `xgl_transport_receive` does the same with both packets, up to the extension bytes that are
kept. -/
theorem transportReceive (h : SameView extensions extensions') (env : TransportEnv)
    (ctx : TransportCtx) {packet : Packet} (hpacket : packet.extensions = extensions) :
    (xglTransportReceive env ctx { packet with extensions := extensions' }).1
        = (xglTransportReceive env ctx packet).1 ∧
      (xglTransportReceive env ctx { packet with extensions := extensions' }).2.relabel
          h.relabelling
        = (xglTransportReceive env ctx packet).2.relabel h.relabelling := by
  have hcontrol : transportProcessControlPacket env ctx { packet with extensions := extensions' }
      = transportProcessControlPacket env ctx packet := rfl
  have hpayload : ({ packet with extensions := extensions' } : Packet).payload?
      = packet.payload? := rfl
  unfold xglTransportReceive
  dsimp only
  rw [hcontrol, h.transportProcessAckPacket env ctx hpacket, hpayload]
  split
  · exact ⟨rfl, rfl⟩
  split
  · exact ⟨rfl, rfl⟩
  cases packet.payload? with
  | none => exact ⟨rfl, rfl⟩
  | some data => exact h.transportReceiveData env ctx hpacket data

end SameView

end XgenLink
