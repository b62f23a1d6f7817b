import XgenLink.Proofs.FeedbackDecoding
import XgenLink.Proofs.ReceiveSteps

/-!
# `XgenLink.Proofs.QueueSteps`: what each operation does to the wait-ACK queues

A queue entry is followed by its `content`, the part that timers and retransmissions do not touch.
`Shrinks gone` says that a queue loses only entries with `gone`; each operation that takes entries
out gets one such lemma, and `gone` names what the operation was asked for: a number, the numbers
of a range, the set bits of a SACK.

With it comes what these operations do to the windows, which is to mark numbers and to move the
base, and never to change the next number or the size.

* `Shrinks`: a queue without some entries.
* `WindowKept`, `WindowsKept`: windows that keep their next number and their size.
* `sackBitStep_spec`, `sackLoop_spec`: the bits of a SACK.
* `AckSpec`, `transportApplyAck_spec`: an ACK takes out what it covers.
* `ControlEffect`, `transportProcessControlPacket_cases`: the outcomes of a control packet.
* `queueOf`, `KeysDistinct`: the queues of a context by key.
-/

set_option autoImplicit false

namespace XgenLink

/-! ### Contents -/

/-- The part of a queue entry that stays as the send wrote it. -/
def ReliablePacket.content (packet : ReliablePacket) : ReliablePacket :=
  { packet with retryCount := 0, sendTimestamp := 0, timeoutMs := 0, retransmissions := 0 }

/-- The number is part of the content. -/
@[simp] theorem ReliablePacket.content_packetNumber (packet : ReliablePacket) :
    packet.content.packetNumber = packet.packetNumber := rfl

/-- The contents of a queue, in order. -/
def contents (queue : List ReliablePacket) : List ReliablePacket :=
  queue.map ReliablePacket.content

/-- The contents of two queues, one behind the other. -/
@[simp] theorem contents_append (a b : List ReliablePacket) :
    contents (a ++ b) = contents a ++ contents b :=
  List.map_append

/-- The queue `after` is `before` without some entries, each of which has
`gone`. -/
structure Shrinks (gone : ReliablePacket → Prop) (before after : List ReliablePacket) : Prop where
  sub : (contents after).Sublist (contents before)
  kept : ∀ c ∈ contents before, c ∈ contents after ∨ gone c

/-- A queue with the same contents has lost nothing. -/
theorem Shrinks.of_contents {gone : ReliablePacket → Prop} {before after : List ReliablePacket}
    (h : contents after = contents before) : Shrinks gone before after where
  sub := h ▸ List.Sublist.refl _
  kept := fun _ hc => .inl (h ▸ hc)

/-- Nothing is lost. -/
theorem Shrinks.refl {gone : ReliablePacket → Prop} (queue : List ReliablePacket) :
    Shrinks gone queue queue :=
  .of_contents rfl

/-- One loss behind another. -/
theorem Shrinks.trans {gone : ReliablePacket → Prop} {a b c : List ReliablePacket}
    (hab : Shrinks gone a b) (hbc : Shrinks gone b c) : Shrinks gone a c where
  sub := hbc.sub.trans hab.sub
  kept := fun x hx => (hab.kept x hx).elim (hbc.kept x) .inr

/-- A loss for one reason is a loss for a wider one. -/
theorem Shrinks.mono {gone gone' : ReliablePacket → Prop} {a b : List ReliablePacket}
    (h : Shrinks gone a b) (himp : ∀ c, gone c → gone' c) : Shrinks gone' a b where
  sub := h.sub
  kept := fun x hx => (h.kept x hx).imp_right (himp x)

/-! ### Removals and updates -/

/-- Taking a number off loses entries of that number only. -/
theorem reliableUnlink_shrinks (n : UInt32) (targetId : UInt16) (queue : List ReliablePacket) :
    Shrinks (fun c => c.packetNumber = n) queue (reliableUnlink n targetId queue) where
  sub := by
    unfold reliableUnlink contents
    have h := (List.eraseP_sublist (p := fun p : ReliablePacket => p.isFor n targetId)
      (l := queue.reverse)).reverse
    rw [List.reverse_reverse] at h
    exact h.map _
  kept := by
    intro c hc
    obtain ⟨packet, hmem, rfl⟩ := List.mem_map.mp hc
    by_cases hfor : packet.isFor n targetId = true
    · unfold ReliablePacket.isFor at hfor
      rw [Bool.and_eq_true, beq_iff_eq] at hfor
      exact .inr hfor.1
    · exact .inl (List.mem_map_of_mem
        (mem_reliableUnlink_of_not_isFor hmem (Bool.eq_false_of_not_eq_true hfor)))

/-- Removing numbers loses entries of these numbers only. -/
theorem reliableRemoveNumbers_shrinks (targetId : UInt16) (numbers : List UInt32)
    (acc : Nat × ReliableQueue) :
    Shrinks (fun c => c.packetNumber ∈ numbers) acc.2.waitAckList
      (reliableRemoveNumbers targetId numbers acc).2.waitAckList ∧
      (reliableRemoveNumbers targetId numbers acc).2.maxRetryCount = acc.2.maxRetryCount := by
  induction numbers generalizing acc with
  | nil => exact ⟨.refl _, rfl⟩
  | cons n rest ih =>
    obtain ⟨removed, queue⟩ := acc
    unfold reliableRemoveNumbers
    dsimp only
    obtain ⟨hrest, hretry⟩ := ih (if (xglReliableRemovePacketNumber queue n targetId).1 then
      removed + 1 else removed, (xglReliableRemovePacketNumber queue n targetId).2)
    refine ⟨Shrinks.trans ?_ (hrest.mono fun c hc => List.mem_cons_of_mem _ hc), hretry⟩
    exact (reliableUnlink_shrinks n targetId queue.waitAckList).mono fun c hc => by simp [hc]

/-- An update that keeps the content of the entry it finds keeps all contents. -/
theorem updateFirst_contents {test : ReliablePacket → Bool}
    {update : ReliablePacket → ReliablePacket} (queue : List ReliablePacket)
    (h : ∀ packet, queue.find? test = some packet → (update packet).content = packet.content) :
    contents (updateFirst test update queue) = contents queue := by
  unfold contents
  induction queue with
  | nil => rfl
  | cons first rest ih =>
    unfold updateFirst
    rw [List.find?_cons] at h
    cases htest : test first with
    | true =>
      rw [htest] at h
      simp [h first rfl]
    | false =>
      rw [htest] at h
      simp [ih h]

/-- Writing through a lookup keeps all contents when it keeps the one found. -/
theorem reliableUpdate_contents {queue : ReliableQueue} {n : UInt32} {targetId : UInt16}
    {update : ReliablePacket → ReliablePacket}
    (h : ∀ packet, xglReliableFindPacketNumber queue n targetId = some packet →
      (update packet).content = packet.content) :
    contents (reliableUpdate queue n targetId update).waitAckList = contents queue.waitAckList := by
  unfold reliableUpdate
  dsimp only
  have hup := updateFirst_contents queue.waitAckList.reverse h
  unfold contents at hup ⊢
  rw [List.map_reverse, hup, List.map_reverse, List.reverse_reverse]

/-- A retransmission keeps the content. -/
theorem transportRetransmitReliablePacket_content (env : TransportEnv) (config : TransportConfig)
    (io : TransportIo) (packet : ReliablePacket) (now : UInt32) :
    (transportRetransmitReliablePacket env config io packet now).2.2.content = packet.content := by
  unfold transportRetransmitReliablePacket
  dsimp only
  split <;> rfl

/-! ### Acknowledgements -/

/-- A retransmission asked for by a SACK keeps queue contents and windows. -/
theorem sackRetransmit_spec (env : TransportEnv) (config : TransportConfig) (sourceId : UInt16)
    (n now : UInt32) (state : SackState) :
    contents (sackRetransmit env config sourceId n now state).2.queue.waitAckList
        = contents state.queue.waitAckList ∧
      (sackRetransmit env config sourceId n now state).2.queue.maxRetryCount
        = state.queue.maxRetryCount ∧
      (sackRetransmit env config sourceId n now state).2.windows = state.windows := by
  unfold sackRetransmit
  split
  · exact ⟨rfl, rfl, rfl⟩
  · rename_i missing hfind
    refine ⟨reliableUpdate_contents fun packet hpacket => ?_, rfl, rfl⟩
    rw [hfind] at hpacket
    cases hpacket
    exact transportRetransmitReliablePacket_content env config state.io missing now

/-- The windows keep their next number and size. -/
structure WindowKept (before after : SlidingWindow) : Prop where
  next : after.nextPacketNumber = before.nextPacketNumber
  size : after.windowSize = before.windowSize

/-- A window that stays. -/
theorem WindowKept.refl (window : SlidingWindow) : WindowKept window window := ⟨rfl, rfl⟩

/-- One change behind another. -/
theorem WindowKept.trans {a b c : SlidingWindow} (hab : WindowKept a b) (hbc : WindowKept b c) :
    WindowKept a c :=
  ⟨hbc.next.trans hab.next, hbc.size.trans hab.size⟩

/-- The same for the windows of peer and context. -/
structure WindowsKept (before after : SlidingWindow × SlidingWindow) : Prop where
  peer : WindowKept before.1 after.1
  ctx : WindowKept before.2 after.2

/-- Windows that stay. -/
theorem WindowsKept.refl (windows : SlidingWindow × SlidingWindow) : WindowsKept windows windows :=
  ⟨.refl _, .refl _⟩

/-- The same for both windows. -/
theorem WindowsKept.trans {a b c : SlidingWindow × SlidingWindow} (hab : WindowsKept a b)
    (hbc : WindowsKept b c) : WindowsKept a c :=
  ⟨hab.peer.trans hbc.peer, hab.ctx.trans hbc.ctx⟩

/-- Marking a number. -/
theorem xglWindowMarkAckPacketNumber_kept (window : SlidingWindow) (n : UInt32) :
    WindowKept window (xglWindowMarkAckPacketNumber window n) :=
  ⟨xglWindowMarkAckPacketNumber_next _ _, xglWindowMarkAckPacketNumber_size _ _⟩

/-- Marking it in both. -/
theorem markAcked_kept (windows : SlidingWindow × SlidingWindow) (n : UInt32) :
    WindowsKept windows (markAcked windows n) := by
  refine ⟨xglWindowMarkAckPacketNumber_kept _ _, ?_⟩
  unfold markAcked
  dsimp only
  split
  · exact xglWindowMarkAckPacketNumber_kept _ _
  · exact .refl _

/-- Moving the bases. -/
theorem advanceBases_kept (windows : SlidingWindow × SlidingWindow) :
    WindowsKept windows (advanceBases windows) :=
  ⟨⟨xglWindowAdvanceBasePacketNumber_next _, xglWindowAdvanceBasePacketNumber_size _⟩,
    ⟨xglWindowAdvanceBasePacketNumber_next _, xglWindowAdvanceBasePacketNumber_size _⟩⟩

/-- What the bits of a SACK do to queue and window: entries of set bits may go. -/
structure SackSpec (gone : ReliablePacket → Prop) (before after : SackState) : Prop where
  queue : Shrinks gone before.queue.waitAckList after.queue.waitAckList
  retry : after.queue.maxRetryCount = before.queue.maxRetryCount
  windows : WindowsKept before.windows after.windows

/-- One bit: the entry of a set bit goes, that of a clear bit is sent again. -/
theorem sackBitStep_spec (env : TransportEnv) (config : TransportConfig) (sourceId : UInt16)
    (basePacket now : UInt32) (bitmap : Bytes) (state : SackState) (i : Nat) :
    SackSpec (fun c => transportSackBitIsSet bitmap i = true ∧
        c.packetNumber = basePacket + UInt32.ofNat i)
      state (sackBitStep env config sourceId basePacket now bitmap state i).2 := by
  unfold sackBitStep
  dsimp only
  split
  · rename_i hset
    split
    · exact ⟨.refl _, rfl, .refl _⟩
    · exact ⟨(reliableUnlink_shrinks _ sourceId _).mono fun c hc => ⟨hset, hc⟩, rfl,
        markAcked_kept _ _⟩
  · obtain ⟨hqueue, hretry, hwindows⟩ := sackRetransmit_spec env config sourceId
      (basePacket + UInt32.ofNat i) now state
    exact ⟨.of_contents hqueue, hretry, hwindows ▸ .refl _⟩

/-- The bits of a SACK, by induction on those to come. -/
theorem sackLoop_spec (env : TransportEnv) (config : TransportConfig) (sourceId : UInt16)
    (basePacket now : UInt32) (bitmap : Bytes) (indices : List Nat) (state : SackState) :
    SackSpec (fun c => ∃ i ∈ indices, transportSackBitIsSet bitmap i = true ∧
        c.packetNumber = basePacket + UInt32.ofNat i)
      state (sackLoop env config sourceId basePacket now bitmap indices state).2 := by
  induction indices generalizing state with
  | nil => exact ⟨.refl _, rfl, .refl _⟩
  | cons i rest ih =>
    have hbit := sackBitStep_spec env config sourceId basePacket now bitmap state i
    unfold sackLoop
    generalize sackBitStep env config sourceId basePacket now bitmap state i = stepped at hbit ⊢
    obtain ⟨err, next⟩ := stepped
    have hfirst : Shrinks (fun c => ∃ j ∈ i :: rest, transportSackBitIsSet bitmap j = true ∧
        c.packetNumber = basePacket + UInt32.ofNat j) state.queue.waitAckList
          next.queue.waitAckList :=
      hbit.queue.mono fun c hc => ⟨i, List.mem_cons_self, hc⟩
    cases err with
    | ok =>
      have hrest := ih next
      refine ⟨hfirst.trans (hrest.queue.mono ?_), hrest.retry.trans hbit.retry,
        hbit.windows.trans hrest.windows⟩
      rintro c ⟨j, hj, hset⟩
      exact ⟨j, List.mem_cons_of_mem _ hj, hset⟩
    | _ => exact ⟨hfirst, hbit.retry, hbit.windows⟩

/-- The bits the loop visits lie in the bitmap. -/
theorem lt_of_mem_sackIndices {bitmap : Bytes} {i : Nat} (h : i ∈ sackIndices bitmap) :
    i < bitmap.length * 8 := by
  unfold sackIndices at h
  dsimp only at h
  rw [List.mem_range] at h
  cases hlast : ((List.range (bitmap.length * 8)).filter (transportSackBitIsSet bitmap)).getLast?
  with
  | none => simp [hlast] at h
  | some last =>
    rw [hlast] at h
    have hmem := List.mem_of_getLast? hlast
    rw [List.mem_filter, List.mem_range] at hmem
    simp at h
    omega

/-- What an ACK packet does: the context keeps its peers, the peer changes in its
sender part only, and its queue loses entries that the packet covers. -/
structure AckSpec (ctx : TransportCtx) (peer : PeerState) (packet : Packet) (out : AckOutcome) :
    Prop where
  ctxFrame : ∃ window io, out.ctx = { ctx with window := window, io := io }
  peerFrame : ∃ window queue deadline,
    out.peer = { peer with
      txWindow := window, reliableQueue := queue, earliestDeadlineMs := deadline }
  windows : WindowsKept (peer.txWindow, ctx.window) (out.peer.txWindow, out.ctx.window)
  retry : out.peer.reliableQueue.maxRetryCount = peer.reliableQueue.maxRetryCount
  queue : Shrinks (fun c => packetCovers packet c.packetNumber) peer.reliableQueue.waitAckList
    out.peer.reliableQueue.waitAckList

/-- Nothing is done. -/
theorem AckSpec.unchanged (ctx : TransportCtx) (peer : PeerState) (packet : Packet)
    (error : XglError) (handled : Bool) :
    AckSpec ctx peer packet { error := error, handled := handled, ctx := ctx, peer := peer } :=
  ⟨⟨_, _, rfl⟩, ⟨_, _, _, rfl⟩, .refl _, rfl, .refl _⟩

/-- Marking the numbers of ranges. -/
theorem transportMarkAckRangeWindows_kept (windows : SlidingWindow × SlidingWindow)
    (largestAck : UInt32) (ranges : List WireAckRange) :
    WindowsKept windows (transportMarkAckRangeWindows windows largestAck ranges) := by
  unfold transportMarkAckRangeWindows
  have hfold : ∀ (numbers : List UInt32) (windows : SlidingWindow × SlidingWindow),
      WindowsKept windows (numbers.foldl markAcked windows) := by
    intro numbers
    induction numbers with
    | nil => exact fun windows => .refl _
    | cons n rest ih => exact fun windows => (markAcked_kept windows n).trans (ih _)
  exact (hfold _ windows).trans (advanceBases_kept _)

/-- An ACK_RANGE takes out the numbers it names. It reports success only when it found a record. -/
theorem transportTryProcessAckRangeExt_spec (ctx : TransportCtx) (peer : PeerState)
    (packet : Packet) :
    AckSpec ctx peer packet
      (transportTryProcessAckRangeExt ctx peer packet.sourceId packet.extensions) ∧
      ((transportTryProcessAckRangeExt ctx peer packet.sourceId packet.extensions).error = .ok →
        (transportTryProcessAckRangeExt ctx peer packet.sourceId packet.extensions).handled
          = false →
        (transportTryProcessAckRangeExt ctx peer packet.sourceId packet.extensions).ctx = ctx ∧
        (transportTryProcessAckRangeExt ctx peer packet.sourceId packet.extensions).peer
          = peer) := by
  unfold transportTryProcessAckRangeExt
  dsimp only
  split
  · rename_i ext hfind
    split
    · exact ⟨.unchanged ctx peer packet _ _, fun _ _ => ⟨rfl, rfl⟩⟩
    · rename_i ack hdecode
      have htype : ext.type = XGL_WIRE_EXT_ACK_RANGE := by simpa using List.find?_some hfind
      have hcovers : ∀ c : ReliablePacket,
          c.packetNumber ∈ ackRangeNumbers true ack.largestAck.toNat ack.ranges →
            packetCovers packet c.packetNumber := fun c hc =>
        ⟨ext, List.mem_of_find?_eq_some hfind, .inl ⟨htype, ack, hdecode, hc⟩⟩
      obtain ⟨hqueue, hretry⟩ := reliableRemoveNumbers_shrinks packet.sourceId
        (ackRangeNumbers true ack.largestAck.toNat ack.ranges) (0, peer.reliableQueue)
      unfold transportProcessAckRange xglReliableRemoveAckRanges
      dsimp only
      split
      · exact ⟨⟨⟨_, _, rfl⟩, ⟨_, _, _, rfl⟩, .refl _, hretry, hqueue.mono hcovers⟩,
          fun h => by cases h⟩
      · exact ⟨⟨⟨_, _, rfl⟩, ⟨_, _, _, rfl⟩,
          transportMarkAckRangeWindows_kept (peer.txWindow, ctx.window) _ _, hretry,
          hqueue.mono hcovers⟩, fun _ h => by cases h⟩
  · exact ⟨.unchanged ctx peer packet _ _, fun _ _ => ⟨rfl, rfl⟩⟩

/-- A SACK takes out the numbers of its set bits. -/
theorem transportTryProcessSackExt_spec (env : TransportEnv) (ctx : TransportCtx)
    (peer : PeerState) (packet : Packet) :
    AckSpec ctx peer packet
      (transportTryProcessSackExt env ctx peer packet.sourceId packet.extensions) := by
  unfold transportTryProcessSackExt
  dsimp only
  split
  · rename_i ext hfind
    have htype : ext.type = XGL_WIRE_EXT_SACK := by simpa using List.find?_some hfind
    unfold transportProcessSackValue
    split
    · exact .unchanged ctx peer packet _ _
    · rename_i sack hdecode
      dsimp only
      split
      · exact .unchanged ctx peer packet _ _
      split
      · split
        · exact .unchanged ctx peer packet _ _
        · obtain ⟨hqueue, hretry, hwindows⟩ := sackRetransmit_spec env ctx.config packet.sourceId
            sack.basePacket (xglTimeMs env ctx.io).1
            { queue := peer.reliableQueue
              windows := (peer.txWindow, ctx.window)
              io := (xglTimeMs env ctx.io).2 }
          refine ⟨⟨_, _, rfl⟩, ⟨_, _, _, rfl⟩, ?_, hretry, .of_contents hqueue⟩
          dsimp only [SackState.finish]
          rw [hwindows]
          exact .refl _
      · have hloop := sackLoop_spec env ctx.config packet.sourceId sack.basePacket
          (xglTimeMs env ctx.io).1 sack.bitmap (sackIndices sack.bitmap)
          { queue := peer.reliableQueue
            windows := (peer.txWindow, ctx.window)
            io := (xglTimeMs env ctx.io).2 }
        have hcovers : ∀ c : ReliablePacket, (∃ i ∈ sackIndices sack.bitmap,
            transportSackBitIsSet sack.bitmap i = true ∧
              c.packetNumber = sack.basePacket + UInt32.ofNat i) →
            packetCovers packet c.packetNumber := by
          rintro c ⟨i, hi, hset, hnumber⟩
          exact ⟨ext, List.mem_of_find?_eq_some hfind, .inr ⟨htype, sack, hdecode, i,
            lt_of_mem_sackIndices hi, hset, hnumber⟩⟩
        have hqueue := hloop.queue.mono hcovers
        split
        · exact ⟨⟨_, _, rfl⟩, ⟨_, _, _, rfl⟩, hloop.windows.trans (advanceBases_kept _),
            hloop.retry,
            hqueue⟩
        · exact ⟨⟨_, _, rfl⟩, ⟨_, _, _, rfl⟩, hloop.windows, hloop.retry, hqueue⟩
  · exact .unchanged ctx peer packet _ _

/-- An ACK packet takes out what it covers and changes nothing else. -/
theorem transportApplyAck_spec (env : TransportEnv) (ctx : TransportCtx) (peer : PeerState)
    (packet : Packet) : AckSpec ctx peer packet (transportApplyAck env ctx peer packet) := by
  obtain ⟨hrange, hnone⟩ := transportTryProcessAckRangeExt_spec ctx peer packet
  unfold transportApplyAck
  dsimp only
  split
  · exact hrange
  · rename_i hcont
    simp only [Bool.or_eq_true, bne_iff_ne, not_or, not_not, Bool.not_eq_true] at hcont
    obtain ⟨hctx, hpeer⟩ := hnone hcont.1 hcont.2
    rw [hctx, hpeer]
    have hsack := transportTryProcessSackExt_spec env ctx peer packet
    split
    · exact hsack
    · exact ⟨hsack.ctxFrame, hsack.peerFrame, hsack.windows, hsack.retry, hsack.queue⟩

/-! ### Control packets -/

/-- The outcomes of a control packet: refused, a peer reset, or a peer marked as
established. The peer was found, or it is new and has an empty queue. -/
inductive ControlEffect (ctx : TransportCtx) (packet : Packet) : TransportCtx → Prop where
  | refused (session : UInt16) (io : TransportIo) (hevents : io.events = ctx.io.events) :
      ControlEffect ctx packet { ctx with nextSessionId := session, io := io }
  | reset (hsid : packet.sessionId &&& XGL_SESSION_ID_MASK ≠ 0)
      (peer : PeerState) (hlook : lookupPeer ctx.peers packet.peerKey = some peer)
      (hreset : packet.dataType = XGL_TRANSPORT_CONTROL_RESET ∨
        packet.dataType = XGL_TRANSPORT_CONTROL_HELLO ∧
          peer.sessionId ≠ packet.sessionId &&& XGL_SESSION_ID_MASK)
      (now : UInt32) (io : TransportIo) (hevents : io.events = ctx.io.events) :
      ControlEffect ctx packet
        { ctx with
          window := xglWindowReset ctx.window
          fragmentMgr := ctx.fragmentMgr.map fun manager =>
            xglFragmentClearReassemblyScope manager peer.peerId packet.connectionId
              packet.sessionEpoch
          io := io
          peers := putPeer (resetPeer peer (packet.sessionId &&& XGL_SESSION_ID_MASK) now)
            ctx.peers }
  | established (hsid : packet.sessionId &&& XGL_SESSION_ID_MASK ≠ 0)
      (peer : PeerState) (hlook : lookupPeer ctx.peers packet.peerKey = some peer)
      (hsession : peer.sessionId = packet.sessionId &&& XGL_SESSION_ID_MASK)
      (now : UInt32) (io : TransportIo) (hevents : io.events = ctx.io.events) :
      ControlEffect ctx packet
        { ctx with
          io := io
          peers := putPeer { peer with sessionEstablished := true, lastActiveMs := now }
            ctx.peers }
  | created (hsid : packet.sessionId &&& XGL_SESSION_ID_MASK ≠ 0)
      (hlook : lookupPeer ctx.peers packet.peerKey = none) (window : SlidingWindow)
      (hwindow : window.windowSize = ctx.window.windowSize) (manager : Option FragmentManager)
      (now : UInt32) (io : TransportIo) (peer : PeerState)
      (hevents : io.events = ctx.io.events)
      (hpeer : peer = resetPeer (freshPeer ctx packet.peerKey)
          (packet.sessionId &&& XGL_SESSION_ID_MASK) now ∨
        (freshPeer ctx packet.peerKey).sessionId = packet.sessionId &&& XGL_SESSION_ID_MASK ∧
        peer = { freshPeer ctx packet.peerKey with
          sessionEstablished := true, lastActiveMs := now })
      (hsize : ctx.window.windowSize ≠ 0) :
      ControlEffect ctx packet
        { ctx with
          nextSessionId := followingSessionId (newSessionId ctx.nextSessionId)
          window := window
          fragmentMgr := manager
          io := io
          peers := peer :: ctx.peers }

/-- Writing back the peer at the head of the list. -/
theorem putPeer_head {first peer : PeerState} (h : first.key = peer.key)
    (rest : List PeerState) : putPeer peer (first :: rest) = peer :: rest := by
  unfold putPeer
  rw [if_pos (by simp [h])]

/-- Every control packet ends in one of the outcomes. -/
theorem transportProcessControlPacket_cases (env : TransportEnv) (ctx : TransportCtx)
    (packet : Packet) :
    ControlEffect ctx packet (transportProcessControlPacket env ctx packet).2 := by
  unfold transportProcessControlPacket
  dsimp only
  split
  · exact .refused ctx.nextSessionId ctx.io rfl
  rename_i hkind
  split
  · exact .refused ctx.nextSessionId ctx.io rfl
  rename_i hsid
  replace hsid : packet.sessionId &&& XGL_SESSION_ID_MASK ≠ 0 := by simpa using hsid
  have hcases := transportGetOrCreatePeer_cases env ctx packet.peerKey
  generalize transportGetOrCreatePeer env ctx packet.peerKey = got at hcases ⊢
  -- the peer was found, or it is new
  cases hcases with
  | failed hlook session io hevents => exact .refused session io hevents
  | found peer hlook =>
    dsimp only
    split
    · rename_i hreset
      refine .reset hsid peer hlook ?_ (xglTimeMs env ctx.io).1 (xglTimeMs env ctx.io).2 (by simp)
      simp only [Bool.or_eq_true, beq_iff_eq, bne_iff_ne] at hreset
      simp only [Bool.or_eq_true, Bool.and_eq_true, bne_iff_ne, not_or, not_and, not_not] at hkind
      -- why the peer is reset
      rcases hreset with hreset | hsession
      · exact .inl hreset
      · by_cases hhello : packet.dataType = XGL_TRANSPORT_CONTROL_HELLO
        · exact .inr ⟨hhello, hsession⟩
        · exact .inl (hkind.2 hhello)
    · rename_i hreset
      simp only [Bool.or_eq_true, beq_iff_eq, bne_iff_ne, not_or, not_not] at hreset
      exact .established hsid peer hlook hreset.2 (xglTimeMs env ctx.io).1 (xglTimeMs env ctx.io).2
        (by simp)
  | created hlook io hevents hsize =>
    dsimp only
    split
    · unfold TransportCtx.put transportResetPeerState
      dsimp only
      rw [putPeer_head (resetPeer_key _ _ _).symm]
      exact .created hsid hlook (xglWindowReset ctx.window) rfl _ (xglTimeMs env io).1
        (xglTimeMs env io).2 _ (by simpa using hevents) (.inl rfl) hsize
    · rename_i hreset
      simp only [Bool.or_eq_true, beq_iff_eq, bne_iff_ne, not_or, not_not] at hreset
      unfold TransportCtx.put
      dsimp only
      rw [putPeer_head]
      · exact .created hsid hlook ctx.window rfl ctx.fragmentMgr _ (xglTimeMs env io).2 _
          (by simpa using hevents) (.inr ⟨hreset.2, rfl⟩) hsize
      · rfl

/-! ### Queues of a context -/

/-- The wait-ACK queue of the peer with a key. -/
def queueOf (peers : List PeerState) (key : PeerKey) : List ReliablePacket :=
  (peerOf peers key).elim [] fun peer => peer.reliableQueue.waitAckList

/-- The queue of a key is that of its peer. -/
theorem queueOf_of_peerOf {peers : List PeerState} {key : PeerKey} {peer : PeerState}
    (h : peerOf peers key = some peer) : queueOf peers key = peer.reliableQueue.waitAckList := by
  unfold queueOf
  rw [h]
  rfl

/-- The queues after a peer of the list is written back. -/
theorem queueOf_putPeer {peers : List PeerState} {peer old : PeerState}
    (h : peerOf peers peer.key = some old) (key : PeerKey) :
    queueOf (putPeer peer peers) key
      = if peer.key = key then peer.reliableQueue.waitAckList else queueOf peers key := by
  unfold queueOf
  rw [peerOf_putPeer]
  by_cases hkey : peer.key = key
  · subst hkey
    rw [if_pos rfl, if_pos rfl, h]
    rfl
  · rw [if_neg hkey, if_neg hkey]

/-- Writing back a peer with the same queue changes no queue. -/
theorem queueOf_putPeer_same {peers : List PeerState} {peer old : PeerState}
    (h : peerOf peers peer.key = some old)
    (hqueue : peer.reliableQueue.waitAckList = old.reliableQueue.waitAckList) (key : PeerKey) :
    queueOf (putPeer peer peers) key = queueOf peers key := by
  rw [queueOf_putPeer h]
  by_cases hkey : peer.key = key
  · rw [if_pos hkey, ← hkey, queueOf_of_peerOf h, hqueue]
  · rw [if_neg hkey]

/-- A peer that was not found has no entry. -/
theorem peerOf_none_of_lookupPeer {peers : List PeerState} {key : PeerKey}
    (h : lookupPeer peers key = none) : peerOf peers key = none := by
  unfold lookupPeer at h
  split at h
  · rename_i hscope
    rw [transportFindPeerScope_eq] at h
    have hkey : scopedKey key.peerId key.connectionId key.sessionEpoch = key := by
      unfold scopedKey
      rw [← hscope]
    rw [hkey] at h
    exact h
  · unfold transportFindPeer at h
    unfold peerOf
    rw [List.find?_eq_none] at h ⊢
    intro peer hpeer hkey
    refine h peer hpeer ?_
    rw [beq_iff_eq] at hkey ⊢
    rw [← hkey]
    rfl

/-- A new peer without packets changes no queue. -/
theorem queueOf_cons_fresh {peers : List PeerState} {peer : PeerState}
    (hnone : peerOf peers peer.key = none) (hempty : peer.reliableQueue.waitAckList = [])
    (key : PeerKey) : queueOf (peer :: peers) key = queueOf peers key := by
  unfold queueOf
  rw [peerOf_cons]
  by_cases hkey : peer.key = key
  · subst hkey
    rw [if_pos rfl, hnone]
    exact hempty
  · rw [if_neg hkey]

/-- The peer an ACK selects is an entry. -/
theorem peerOf_of_transportFindAckPeer {peers : List PeerState} {packet : Packet}
    {peer : PeerState} (h : transportFindAckPeer peers packet = some peer) :
    peerOf peers peer.key = some peer := by
  unfold transportFindAckPeer at h
  split at h
  · split at h
    · rename_i found hscope
      cases h
      rw [transportFindPeerScope_eq] at hscope
      rw [peerOf_key hscope]
      exact hscope
    · exact peerOf_of_transportFindPeer h
  · exact peerOf_of_transportFindPeer h

/-- No two peers of a context share a key. -/
def KeysDistinct (peers : List PeerState) : Prop :=
  (peers.map PeerState.key).Nodup

/-- Writing back a peer adds no key. -/
theorem KeysDistinct.put {peers : List PeerState} (h : KeysDistinct peers) (peer : PeerState) :
    KeysDistinct (putPeer peer peers) := by
  unfold KeysDistinct
  rw [map_key_putPeer]
  exact h

/-- A new key is added. -/
theorem KeysDistinct.cons {peers : List PeerState} (h : KeysDistinct peers) {peer : PeerState}
    (hnone : peerOf peers peer.key = none) : KeysDistinct (peer :: peers) := by
  unfold KeysDistinct
  rw [List.map_cons, List.nodup_cons]
  refine ⟨fun hmem => ?_, h⟩
  obtain ⟨other, hother, hkey⟩ := List.mem_map.mp hmem
  unfold peerOf at hnone
  rw [List.find?_eq_none] at hnone
  exact hnone other hother (by simp [hkey])

/-- With distinct keys every member is the entry of its key. -/
theorem KeysDistinct.peerOf_mem {peers : List PeerState} (h : KeysDistinct peers)
    {peer : PeerState} (hmem : peer ∈ peers) : peerOf peers peer.key = some peer := by
  unfold KeysDistinct at h
  induction peers with
  | nil => cases hmem
  | cons first rest ih =>
    rw [List.map_cons, List.nodup_cons] at h
    rw [peerOf_cons]
    rcases List.mem_cons.mp hmem with rfl | hrest
    · rw [if_pos rfl]
    · have hne : first.key ≠ peer.key := by
        intro hkey
        exact h.1 (hkey ▸ List.mem_map_of_mem hrest)
      rw [if_neg hne]
      exact ih h.2 hrest

/-- A fresh peer has the key it was created for. -/
theorem freshPeer_txKey (ctx : TransportCtx) (txData : TxData) :
    (freshPeer ctx txData.peerKey).key = txData.peerKey := by
  unfold TxData.peerKey
  split <;> rfl

end XgenLink
