import XgenLink.Proofs.SendSteps

/-!
# `XgenLink.Proofs.ReliableSend`: reliable packets one after the other

A reliable packet is sent in three steps. It is queued, with its payload and extensions copied; it
is handed to the layer below; and then it is committed, which moves the next number of the window
on and stamps the entry with the time. When one of the first two fails the entry is taken out
again. So the packet is queued, sent and committed, or nothing of it stays.

The loop over fragments does this packet by packet and stops at the first failure. The packets
before it stay, with their entries and their numbers.

* `sentEntry`, `sentPeer`: the entry of a packet that was sent, and the peer that sent it.
* `transportSendReliablePacket_eq`: the outcome of one packet.
* `FragmentJob`, `FragmentJob.Passes`: a message to be sent, and what the outside has to answer
  for a fragment.
* `FragmentJob.Progress.step`: one round of the loop.
* `FragmentJob.Progress.loop`: the loop gets as far as the fragments pass.
-/

set_option autoImplicit false

namespace XgenLink

/-! ### One packet -/

/-- The entry of a packet sent at `now`. -/
def sentEntry (config : TransportConfig) (peer : PeerState) (txData : TxData) (data : Bytes)
    (fragment : Bool) (extensions : Bytes) (now : UInt32) : ReliablePacket :=
  { reliableTxPacket config peer txData data peer.txWindow.nextPacketNumber fragment extensions with
    sendTimestamp := now }

/-- The peer after one of its packets was sent at `now`. -/
def sentPeer (config : TransportConfig) (peer : PeerState) (txData : TxData) (data : Bytes)
    (fragment : Bool) (extensions : Bytes) (now : UInt32) : PeerState :=
  transportUpdatePeerDeadline
    { peer with
      txWindow := xglWindowAdvanceNextPacketNumber peer.txWindow
      reliableQueue := reliableAppend peer.reliableQueue
        (sentEntry config peer txData data fragment extensions now) }

/-- Writing to the newest entry of its number writes to the last entry. -/
theorem reliableUpdate_append_self {n : UInt32} {targetId : UInt16} {queue : ReliableQueue}
    {packet : ReliablePacket} (h : packet.isFor n targetId = true)
    (update : ReliablePacket → ReliablePacket) :
    reliableUpdate (reliableAppend queue packet) n targetId update
      = reliableAppend queue (update packet) := by
  simp [reliableUpdate, reliableAppend, updateFirst, h]

/-- One reliable packet: queued, sent and committed, or the peer is as before. -/
theorem transportSendReliablePacket_eq (env : TransportEnv) (ctx : TransportCtx)
    (peer : PeerState) (txData : TxData) (data : Bytes) (fragment : Bool) (extensions : Bytes) :
    transportSendReliablePacket env ctx peer txData data fragment extensions
      = if data.length = 0 then (.invalidParam, ctx, peer)
        else
          let alloc := reliableTxAlloc env ctx.io data fragment extensions
          if alloc.1 = false then (.noMemory, { ctx with io := alloc.2 }, peer)
          else
            let sent := xglLayerSend env alloc.2 (txPacket ctx.config (some peer) txData data
              peer.txWindow.nextPacketNumber fragment extensions)
            if sent.1 = .ok then
              (.ok,
                { ctx with
                  window :=
                    if xglWindowCanSendPacketNumber ctx.window then
                      xglWindowAdvanceNextPacketNumber ctx.window
                    else ctx.window
                  io := (xglTimeMs env sent.2).2 },
                sentPeer ctx.config peer txData data fragment extensions
                  (xglTimeMs env sent.2).1)
            else (sent.1, { ctx with io := sent.2 }, peer) := by
  simp only [transportSendReliablePacket, xglWindowGetNextPacketNumber, transportQueueReliableTx,
    beq_iff_eq]
  -- a packet without payload needs no block for it
  by_cases hempty : data.length = 0
  · rw [if_pos hempty, if_pos hempty]
  rw [if_neg hempty, if_neg hempty]
  generalize reliableTxAlloc env ctx.io data fragment extensions = alloc
  obtain ⟨done, io⟩ := alloc
  cases done with
  | false => rfl
  | true =>
    have hfor : (reliableTxPacket ctx.config peer txData data peer.txWindow.nextPacketNumber
        fragment extensions).isFor peer.txWindow.nextPacketNumber txData.targetId = true := by
      simp [ReliablePacket.isFor, reliableTxPacket]
    -- the packet is built from the session of the peer, which queueing does not touch
    have hpacket : txPacket ctx.config (some { peer with
          reliableQueue := reliableAppend peer.reliableQueue (reliableTxPacket ctx.config peer
            txData data peer.txWindow.nextPacketNumber fragment extensions) }) txData data
          peer.txWindow.nextPacketNumber fragment extensions
        = txPacket ctx.config (some peer) txData data peer.txWindow.nextPacketNumber fragment
          extensions := rfl
    simp only [Bool.not_true, Bool.false_eq_true, if_false, transportSendReliableView, hpacket,
      reduceCtorEq]
    generalize xglLayerSend env io (txPacket ctx.config (some peer) txData data
      peer.txWindow.nextPacketNumber fragment extensions) = sent
    obtain ⟨err, io'⟩ := sent
    cases err with
    | ok =>
      simp only [transportCommitPacketNumber, if_true]
      rw [reliableUpdate_append_self hfor]
      rfl
    | _ =>
      simp only [xglReliableRemovePacketNumber, reliableAppend, reliableUnlink_append_self hfor,
        reduceCtorEq, if_false]

/-- The outcomes of one reliable packet. -/
inductive ReliableSent (env : TransportEnv) (ctx : TransportCtx) (peer : PeerState)
    (txData : TxData) (data : Bytes) (fragment : Bool) (extensions : Bytes) :
    XglError × TransportCtx × PeerState → Prop where
  | refused (err : XglError) (hne : err ≠ .ok) (io : TransportIo)
      (hevents : io.events = ctx.io.events) :
      ReliableSent env ctx peer txData data fragment extensions (err, { ctx with io := io }, peer)
  | failed (err : XglError) (hne : err ≠ .ok) (io : TransportIo)
      (hevents : io.events = ctx.io.events ++ [.layerSend (txPacket ctx.config (some peer) txData
        data peer.txWindow.nextPacketNumber fragment extensions) err]) :
      ReliableSent env ctx peer txData data fragment extensions (err, { ctx with io := io }, peer)
  | sent (io : TransportIo) (window : SlidingWindow) (read : Nat)
      (hevents : io.events = ctx.io.events ++ [.layerSend (txPacket ctx.config (some peer) txData
        data peer.txWindow.nextPacketNumber fragment extensions) .ok]) :
      ReliableSent env ctx peer txData data fragment extensions
        (.ok, { ctx with io := io, window := window },
          sentPeer ctx.config peer txData data fragment extensions (env.clock read))

/-- The allocations record nothing. -/
theorem reliableTxAlloc_events (env : TransportEnv) (io : TransportIo) (data : Bytes)
    (fragment : Bool) (extensions : Bytes) :
    (reliableTxAlloc env io data fragment extensions).2.events = io.events := by
  simp only [reliableTxAlloc]
  split
  · simp
  · split <;> simp

/-- Every packet ends in one of the outcomes. -/
theorem transportSendReliablePacket_cases (env : TransportEnv) (ctx : TransportCtx)
    (peer : PeerState) (txData : TxData) (data : Bytes) (fragment : Bool) (extensions : Bytes) :
    ReliableSent env ctx peer txData data fragment extensions
      (transportSendReliablePacket env ctx peer txData data fragment extensions) := by
  rw [transportSendReliablePacket_eq]
  split
  · exact .refused .invalidParam (by simp) ctx.io rfl
  have halloc := reliableTxAlloc_events env ctx.io data fragment extensions
  generalize reliableTxAlloc env ctx.io data fragment extensions = alloc at halloc ⊢
  dsimp only
  split
  · exact .refused .noMemory (by simp) _ halloc
  split
  · rename_i hok
    refine .sent _ _ (xglLayerSend env _ _).2.clockCount ?_
    rw [xglTimeMs_events, xglLayerSend_events, hok, halloc]
  · rename_i hne
    exact .failed _ hne _ (by rw [xglLayerSend_events, halloc])

/-! ### Fragments -/

/-- The extension of the fragment at an offset. -/
def fragmentExtension (messageId : UInt32) (fragmentOffset totalLen : Nat) : Bytes :=
  XGL_WIRE_EXT_FRAGMENT :: 12 ::
    xglWireEncodeFragmentExtValue messageId (UInt32.ofNat fragmentOffset) (UInt32.ofNat totalLen)

/-- The extension of a fragment always fits its buffer. -/
theorem transportEncodeFragmentExt_eq (messageId : UInt32) (fragmentOffset totalLen : Nat) :
    transportEncodeFragmentExt messageId fragmentOffset totalLen
      = .ok (fragmentExtension messageId fragmentOffset totalLen) := rfl

/-- What the loop of `transport_send_fragmented` works on: the context and the peer it
starts with, and the message. -/
structure FragmentJob where
  ctx : TransportCtx
  peer : PeerState
  txData : TxData
  data : Bytes
  messageId : UInt32
  payloadMax : Nat

namespace FragmentJob

/-- Piece `i` of the message. -/
def piece (job : FragmentJob) (i : Nat) : Bytes :=
  readBytes job.data (i * job.payloadMax)
    (min (job.data.length - i * job.payloadMax) job.payloadMax)

/-- The packet of piece `i`, when the pieces before it were sent. -/
def packet (job : FragmentJob) (i : Nat) : Packet :=
  txPacket job.ctx.config (some job.peer) job.txData (job.piece i)
    (job.peer.txWindow.nextPacketNumber + UInt32.ofNat i) true
    (fragmentExtension job.messageId (i * job.payloadMax) job.data.length)

/-- The window has room for piece `i`, its three allocations succeed and the layer below
takes it, when the pieces before it were sent. -/
structure Passes (env : TransportEnv) (job : FragmentJob) (i : Nat) : Prop where
  window : job.peer.txWindow.nextPacketNumber + UInt32.ofNat i -
    job.peer.txWindow.sendBasePacketNumber < job.peer.txWindow.windowSize.toUInt32
  entry : env.allocOk (job.ctx.io.allocCount + 3 * i) = true
  data : env.allocOk (job.ctx.io.allocCount + 3 * i + 1) = true
  extension : env.allocOk (job.ctx.io.allocCount + 3 * i + 2) = true
  lower : env.layerSend (job.ctx.io.sendCount + i) (job.packet i) = .ok

/-- The state behind the first `k` pieces. -/
structure Progress (job : FragmentJob) (k : Nat) (ctx : TransportCtx) (peer : PeerState) :
    Prop where
  config : ctx.config = job.ctx.config
  peers : ctx.peers = job.ctx.peers
  allocs : ctx.io.allocCount = job.ctx.io.allocCount + 3 * k
  sends : ctx.io.sendCount = job.ctx.io.sendCount + k
  events : ctx.io.events
    = job.ctx.io.events ++ (List.range k).map fun i => .layerSend (job.packet i) .ok
  key : peer.key = job.peer.key
  session : peer.sessionId = job.peer.sessionId
  window : peer.txWindow = { job.peer.txWindow with
    nextPacketNumber := job.peer.txWindow.nextPacketNumber + UInt32.ofNat k }
  queued : peer.reliableQueue.waitAckList.length
    = job.peer.reliableQueue.waitAckList.length + k
  start : k = 0 → peer = job.peer

/-- Before the first piece nothing has happened. -/
theorem Progress.zero (job : FragmentJob) : job.Progress 0 job.ctx job.peer where
  config := rfl
  peers := rfl
  allocs := rfl
  sends := rfl
  events := (List.append_nil _).symm
  key := rfl
  session := rfl
  window := by simp
  queued := rfl
  start := fun _ => rfl

variable {env : TransportEnv} {job : FragmentJob} {k : Nat} {ctx : TransportCtx} {peer : PeerState}

/-- The packet sent behind the first `k` pieces is that of piece `k`. -/
theorem Progress.packet_eq (h : job.Progress k ctx peer) :
    txPacket ctx.config (some peer) job.txData (job.piece k) peer.txWindow.nextPacketNumber true
        (fragmentExtension job.messageId (k * job.payloadMax) job.data.length)
      = job.packet k := by
  simp only [packet, txPacket, h.config, h.window, Option.elim_some, h.session]

/-- Every piece but those behind the end has bytes. -/
theorem piece_nonempty {i : Nat} (hmax : 0 < job.payloadMax)
    (hi : i * job.payloadMax < job.data.length) : (job.piece i).length ≠ 0 := by
  rw [piece, length_readBytes]
  omega

/-- The three allocations of a fragment. -/
theorem reliableTxAlloc_fragment (env : TransportEnv) (io : TransportIo) {data : Bytes}
    (hdata : data.length ≠ 0) (messageId : UInt32) (offset total : Nat) :
    (reliableTxAlloc env io data true (fragmentExtension messageId offset total)).1
        = (env.allocOk io.allocCount && env.allocOk (io.allocCount + 1) &&
          env.allocOk (io.allocCount + 2)) ∧
      ((reliableTxAlloc env io data true (fragmentExtension messageId offset total)).1 = true →
        (reliableTxAlloc env io data true (fragmentExtension messageId offset total)).2
          = { io with allocCount := io.allocCount + 3 }) := by
  have hext : ((fragmentExtension messageId offset total).length == 0) = false := rfl
  have hsome : (fragmentExtension messageId offset total).isEmpty = false := rfl
  have hbytes : (data.length == 0) = false := by simpa using hdata
  have hnode : (structSize == 0) = false := rfl
  simp only [reliableTxAlloc, transportMalloc, hext, hsome, hbytes, hnode, Bool.false_eq_true,
    if_false]
  cases env.allocOk io.allocCount with
  | false => simp
  | true =>
    cases env.allocOk (io.allocCount + 1) with
    | false => simp
    | true => simp

/-- One round of the loop: the piece passes and is sent, or nothing of it stays. -/
theorem Progress.step (h : job.Progress k ctx peer) (hmax : 0 < job.payloadMax)
    (hk : k * job.payloadMax < job.data.length) :
    let sent := transportSendOneFragment env job.txData job.data job.messageId job.payloadMax ctx
      (some peer) k
    (job.Passes env k ∧ sent.1 = .ok ∧ ∃ after, sent.2.2 = some after ∧
      job.Progress (k + 1) sent.2.1 after) ∨
    (¬ job.Passes env k ∧ sent.1 ≠ .ok ∧ sent.2.2 = some peer ∧ sent.2.1.peers = ctx.peers ∧
      ctx.io.events <+: sent.2.1.io.events) := by
  have hpiece : (job.piece k).length ≠ 0 := piece_nonempty hmax hk
  have hwindow : xglWindowCanSendPacketNumber peer.txWindow
      = decide (job.peer.txWindow.nextPacketNumber + UInt32.ofNat k -
        job.peer.txWindow.sendBasePacketNumber < job.peer.txWindow.windowSize.toUInt32) := by
    rw [xglWindowCanSendPacketNumber, h.window]
  simp only [transportSendOneFragment, transportEncodeFragmentExt_eq]
  -- the window has room, or the loop stops
  by_cases hcan : xglWindowCanSendPacketNumber peer.txWindow = true
  · rw [if_neg (by simp [hcan]),
      show readBytes job.data (k * job.payloadMax) (min (job.data.length - k * job.payloadMax)
        job.payloadMax) = job.piece k from rfl,
      transportSendReliablePacket_eq, if_neg hpiece]
    obtain ⟨halloc, hio⟩ := reliableTxAlloc_fragment env ctx.io hpiece job.messageId
      (k * job.payloadMax) job.data.length
    have hallocEvents := reliableTxAlloc_events env ctx.io (job.piece k) true
      (fragmentExtension job.messageId (k * job.payloadMax) job.data.length)
    generalize reliableTxAlloc env ctx.io (job.piece k) true
      (fragmentExtension job.messageId (k * job.payloadMax) job.data.length) = alloc
      at halloc hio hallocEvents
    obtain ⟨done, io⟩ := alloc
    dsimp only at halloc hio hallocEvents ⊢
    cases done with
    | false =>
      -- an allocation fails
      rw [if_pos rfl]
      refine .inr ⟨fun hpasses => ?_, by simp, rfl, rfl,
        ⟨[], (List.append_nil _).trans hallocEvents.symm⟩⟩
      rw [h.allocs, hpasses.entry, hpasses.data, hpasses.extension] at halloc
      cases halloc
    | true =>
      rw [if_neg (by simp), h.packet_eq]
      specialize hio rfl
      have hcount : io.sendCount = job.ctx.io.sendCount + k := by rw [hio]; exact h.sends
      have herr : (xglLayerSend env io (job.packet k)).1
          = env.layerSend (job.ctx.io.sendCount + k) (job.packet k) := by
        rw [← hcount]
        rfl
      simp only [Bool.and_eq_true, eq_comm (a := true), h.allocs] at halloc
      -- the layer below takes the piece, or it is taken out of the queue again
      by_cases hlower : env.layerSend (job.ctx.io.sendCount + k) (job.packet k) = .ok
      · rw [if_pos (herr.trans hlower)]
        refine .inl ⟨⟨?_, halloc.1.1, halloc.1.2, halloc.2, hlower⟩, rfl, _, rfl, ?_⟩
        · rw [hwindow] at hcan
          exact of_decide_eq_true hcan
        · exact {
            config := h.config
            peers := h.peers
            allocs := by
              show io.allocCount = _
              rw [hio]
              show ctx.io.allocCount + 3 = _
              rw [h.allocs]
              omega
            sends := by
              show io.sendCount + 1 = _
              rw [hcount]
              omega
            events := by
              rw [xglTimeMs_events, xglLayerSend_events, herr, hlower, hallocEvents, h.events,
                List.range_succ, List.map_append, List.append_assoc]
              rfl
            key := h.key
            session := h.session
            window := by
              show xglWindowAdvanceNextPacketNumber peer.txWindow = _
              rw [h.window, xglWindowAdvanceNextPacketNumber]
              simp [UInt32.add_assoc]
            queued := by
              show (peer.reliableQueue.waitAckList ++ [_]).length = _
              rw [List.length_append, h.queued]
              rfl
            start := fun hzero => absurd hzero (Nat.succ_ne_zero k) }
      · -- the layer below refuses the packet, and its entry is taken out again
        rw [if_neg (by rw [herr]; exact hlower)]
        refine .inr ⟨fun hpasses => hlower hpasses.lower, ?_, rfl, rfl, ?_⟩
        · show (xglLayerSend env io (job.packet k)).1 ≠ .ok
          rw [herr]
          exact hlower
        · show ctx.io.events <+: (xglLayerSend env io (job.packet k)).2.events
          rw [xglLayerSend_events, hallocEvents]
          exact List.prefix_append _ _
  · rw [if_pos (by simpa using hcan)]
    refine .inr ⟨fun hpasses => hcan ?_, by simp, rfl, rfl, List.prefix_rfl⟩
    rw [hwindow]
    exact decide_eq_true hpasses.window

/-- How far the loop gets. -/
inductive Outcome (env : TransportEnv) (job : FragmentJob) (k n : Nat) :
    XglError × TransportCtx × Option PeerState → Prop where
  | sent (ctx : TransportCtx) (peer : PeerState) (h : job.Progress (k + n) ctx peer)
      (hpasses : ∀ i, k ≤ i → i < k + n → job.Passes env i) :
      Outcome env job k n (.ok, ctx, some peer)
  | stopped (err : XglError) (hne : err ≠ .ok) (j : Nat) (hfrom : k ≤ j) (hto : j < k + n)
      (hbefore : ∀ i, k ≤ i → i < j → job.Passes env i) (hfails : ¬ job.Passes env j)
      (mid ctx : TransportCtx) (peer : PeerState) (h : job.Progress j mid peer)
      (hpeers : ctx.peers = job.ctx.peers) (hevents : mid.io.events <+: ctx.io.events) :
      Outcome env job k n (err, ctx, some peer)

/-- The loop gets as far as the pieces pass. The induction is on the pieces to come. -/
theorem Progress.loop (n : Nat) (h : job.Progress k ctx peer) (hmax : 0 < job.payloadMax)
    (hlength : ∀ i < k + n, i * job.payloadMax < job.data.length) :
    Outcome env job k n (transportFragmentLoop env job.txData job.data job.messageId
      job.payloadMax (List.range' k n) ctx (some peer)) := by
  induction n generalizing k ctx peer with
  | zero => exact .sent ctx peer h fun i hi hlt => absurd hlt (Nat.not_lt.mpr hi)
  | succ n ih =>
    have hstep := @Progress.step env job k ctx peer h hmax (hlength k (by omega))
    rw [List.range'_succ, transportFragmentLoop]
    generalize transportSendOneFragment env job.txData job.data job.messageId job.payloadMax ctx
      (some peer) k = sent at hstep ⊢
    obtain ⟨err, mid, left⟩ := sent
    dsimp only at hstep
    -- the first piece passes and the others are to come, or it does not
    rcases hstep with ⟨hpass, rfl, after, rfl, hafter⟩ | ⟨hfail, hne, rfl, hpeers, hevents⟩
    · have hrest := @ih (k + 1) mid after hafter fun i hi => hlength i (by omega)
      have hjoin : ∀ {m : Nat}, (∀ i, k + 1 ≤ i → i < m → job.Passes env i) →
          ∀ i, k ≤ i → i < m → job.Passes env i := by
        intro m hlater i hi hlt
        rcases Nat.eq_or_lt_of_le hi with rfl | hgt
        · exact hpass
        · exact hlater i hgt hlt
      show Outcome env job k (n + 1) (transportFragmentLoop env job.txData job.data job.messageId
        job.payloadMax (List.range' (k + 1) n) mid (some after))
      generalize transportFragmentLoop env job.txData job.data job.messageId job.payloadMax
        (List.range' (k + 1) n) mid (some after) = looped at hrest ⊢
      cases hrest with
      | sent last final hlast hpasses =>
        have hsum : k + 1 + n = k + (n + 1) := by omega
        rw [hsum] at hlast hpasses
        exact @Outcome.sent env job k (n + 1) last final hlast (hjoin hpasses)
      | stopped err hne j hfrom hto hbefore hfails stop last final hlast hpeers hevents =>
        exact @Outcome.stopped env job k (n + 1) err hne j (by omega) (by omega) (hjoin hbefore)
          hfails stop last final hlast hpeers hevents
    · cases err with
      | ok => exact absurd rfl hne
      | _ =>
        exact .stopped _ hne k (le_refl _) (by omega)
          (fun i hi hlt => absurd hlt (Nat.not_lt.mpr hi)) hfail ctx mid peer h
          (hpeers.trans h.peers) hevents

end FragmentJob

end XgenLink
