import XgenLink.Lib.Run
import XgenLink.Proofs.AckWindows
import XgenLink.System.Node

/-!
# `XgenLink.Proofs.NumberShift`: packet numbers around the wrap

Packet numbers are 32 bits wide and wrap. Most of the code looks at differences of numbers, or at
equality, and these do not see where the numbers start. This module compares one side of a
connection, started with all its numbers at `s`, with the same side started at zero: the codes,
the payloads delivered and the packets handed down are to be the same, but for the numbers in
them.

The raw comparisons do see the shift: the base test of the send window, the order test of the
receiver, and the walk over acknowledged ranges, which stops at zero. `Straight` says that no
comparison that a step makes straddles the wrap, and is stated on the state before the step. There
is one lemma for every function on the way, named after the function: called on shifted arguments
it gives the shifted result.

A run may still cross the wrap, as long as it does so between comparisons, and `crossingOps` does.
The last part shows a run in which one comparison straddles it, and a payload is lost.

* `Shifted`, `ShiftedEnv`: both sides and the worlds around them.
* `transportSendReliablePacket_shift`, `transportProcessAckRange_shift`,
  `transportProcessSackValue_shift`, `rxReliable_shift`: the four operations.
* `endpointStep_shift`: a step whose comparisons do not straddle the wrap is the
  shifted step.
* `wrap_harmless`: runs of such steps.
* `wrap_loses_payload`: a run over the wrap.
-/

set_option autoImplicit false

namespace XgenLink

/-! ### Numbers -/

/-- A difference does not see the shift. -/
theorem shift_sub (a b s : UInt32) : (a + s) - (b + s) = a - b := by
  rw [← UInt32.toBitVec_inj]
  simp only [UInt32.toBitVec_sub, UInt32.toBitVec_add]
  bv_omega

/-- Equality of numbers does not see it either. -/
theorem shift_inj {a b s : UInt32} : a + s = b + s ↔ a = b :=
  UInt32.add_left_inj s

/-- The same as a test. -/
theorem shift_beq (a b s : UInt32) : (a + s == b + s) = (a == b) := by
  rw [Bool.eq_iff_iff, beq_iff_eq, beq_iff_eq, shift_inj]

/-- An offset commutes with the shift. -/
theorem shift_add (a b s : UInt32) : a + s + b = a + b + s := by
  rw [UInt32.add_assoc, UInt32.add_comm s, ← UInt32.add_assoc]

/-- A comparison comes out the same before and after the shift. -/
def SameOrder (s a b : UInt32) : Prop :=
  a < b ↔ a + s < b + s

/-! ### What is shifted -/

/-- A queue entry with its number shifted. -/
def ReliablePacket.shift (s : UInt32) (packet : ReliablePacket) : ReliablePacket :=
  { packet with packetNumber := packet.packetNumber + s }

/-- A queue with its numbers shifted. -/
def ReliableQueue.shift (s : UInt32) (queue : ReliableQueue) : ReliableQueue :=
  { queue with waitAckList := queue.waitAckList.map (ReliablePacket.shift s) }

/-- A window at shifted numbers. -/
def SlidingWindow.shift (s : UInt32) (window : SlidingWindow) : SlidingWindow :=
  { window with
    sendBasePacketNumber := window.sendBasePacketNumber + s
    nextPacketNumber := window.nextPacketNumber + s }

/-- A data packet with its number shifted. -/
def Packet.shift (s : UInt32) (packet : Packet) : Packet :=
  { packet with packetNumber := packet.packetNumber + s }

/-- A peer with the numbers of both directions shifted. -/
def PeerState.shift (s : UInt32) (peer : PeerState) : PeerState :=
  { peer with
    txWindow := peer.txWindow.shift s
    reliableQueue := peer.reliableQueue.shift s
    rxNextPacketNumber := peer.rxNextPacketNumber + s
    rxBuffered := peer.rxBuffered.map (Packet.shift s) }

/-- The extensions of an ACK or SACK: the number behind type and length is shifted. -/
def shiftFeedback (s : UInt32) (extensions : Bytes) : Bytes :=
  extensions.take 2 ++ xglSerializeU32Le (xglDeserializeU32Le (extensions.drop 2) + s) ++
    extensions.drop 6

/-- A packet handed down, shifted. -/
def Packet.shiftSent (s : UInt32) (packet : Packet) : Packet :=
  if packet.reliable = XGL_RELIABILITY_ACK_ONLY then
    { packet.shift s with extensions := shiftFeedback s packet.extensions }
  else packet.shift s

/-- An event with the numbers in it shifted. -/
def TransportEvent.shift (s : UInt32) : TransportEvent → TransportEvent
  | .rxCallback sourceId dataType data origin =>
    .rxCallback sourceId dataType data (origin.shift s)
  | .fragmentStored origin => .fragmentStored (origin.shift s)
  | .layerSend packet error => .layerSend (packet.shiftSent s) error
  | .errorCallback error message => .errorCallback error message

/-- The same calls with shifted events. -/
def TransportIo.shift (s : UInt32) (io : TransportIo) : TransportIo :=
  { io with events := io.events.map (TransportEvent.shift s) }

/-- An outside world that answers to shifted packets as another one does to the
packets themselves. -/
structure ShiftedEnv (s : UInt32) (env env' : TransportEnv) : Prop where
  alloc : env'.allocOk = env.allocOk
  clock : env'.clock = env.clock
  layer : ∀ i packet, env'.layerSend i (packet.shiftSent s) = env.layerSend i packet

/-! ### Calls -/

section Calls

variable {s : UInt32} {env env' : TransportEnv}

/-- Recording a shifted event. -/
@[simp] theorem TransportIo.shift_emit (io : TransportIo) (event : TransportEvent) :
    (io.shift s).emit (event.shift s) = (io.emit event).shift s := by
  simp [TransportIo.emit, TransportIo.shift]

/-- An allocation does not look at numbers. -/
theorem transportMalloc_shift (henv : ShiftedEnv s env env') (io : TransportIo) (size : Nat) :
    transportMalloc env' (io.shift s) size
      = ((transportMalloc env io size).1, (transportMalloc env io size).2.shift s) := by
  simp only [transportMalloc, henv.alloc]
  split <;> rfl

/-- Nor does the clock. -/
theorem xglTimeMs_shift (henv : ShiftedEnv s env env') (io : TransportIo) :
    xglTimeMs env' (io.shift s) = ((xglTimeMs env io).1, (xglTimeMs env io).2.shift s) := by
  simp only [xglTimeMs, henv.clock]
  rfl

/-- A shifted packet is answered like the packet. -/
theorem xglLayerSend_shift (henv : ShiftedEnv s env env') (io : TransportIo) (packet : Packet) :
    xglLayerSend env' (io.shift s) (packet.shiftSent s)
      = ((xglLayerSend env io packet).1, (xglLayerSend env io packet).2.shift s) := by
  have hanswer := henv.layer io.sendCount packet
  simp only [xglLayerSend, ← TransportIo.shift_emit, TransportEvent.shift]
  rw [show (io.shift s).sendCount = io.sendCount from rfl, hanswer]
  rfl

/-- Handing a shifted packet down. -/
theorem transportLowerSend_shift (henv : ShiftedEnv s env env') (config : TransportConfig)
    (io : TransportIo) (packet : Packet) :
    transportLowerSend env' config (io.shift s) (packet.shiftSent s)
      = ((transportLowerSend env config io packet).1,
          (transportLowerSend env config io packet).2.shift s) := by
  simp only [transportLowerSend]
  split
  · exact xglLayerSend_shift henv io packet
  · rfl

end Calls

/-! ### The send window -/

section Window

variable (s : UInt32) (window : SlidingWindow)

/-- Whether there is room does not depend on where the numbers start. -/
theorem xglWindowCanSendPacketNumber_shift :
    xglWindowCanSendPacketNumber (window.shift s) = xglWindowCanSendPacketNumber window := by
  simp only [xglWindowCanSendPacketNumber, SlidingWindow.shift, shift_sub]

/-- The next number of a window moves on by one. -/
theorem xglWindowAdvanceNextPacketNumber_shift :
    xglWindowAdvanceNextPacketNumber (window.shift s)
      = (xglWindowAdvanceNextPacketNumber window).shift s := by
  simp only [xglWindowAdvanceNextPacketNumber, SlidingWindow.shift, shift_add]

/-- The base moves over acknowledged places, by induction on the rounds. -/
theorem windowAdvanceBaseLoop_shift (fuel : Nat) :
    windowAdvanceBaseLoop fuel (window.shift s) = (windowAdvanceBaseLoop fuel window).shift s := by
  induction fuel generalizing window with
  | zero => rfl
  | succ fuel ih =>
    simp only [windowAdvanceBaseLoop]
    rw [show (window.shift s).ackReceived = window.ackReceived from rfl]
    split
    · rw [← ih]
      simp only [SlidingWindow.shift, shift_add]
    · rfl

/-- The base of a window moves on as far. -/
theorem xglWindowAdvanceBasePacketNumber_shift :
    xglWindowAdvanceBasePacketNumber (window.shift s)
      = (xglWindowAdvanceBasePacketNumber window).shift s :=
  windowAdvanceBaseLoop_shift s window _

variable {s window}

/-- A number as far from the base as the window is long, on the same side of the wrap. -/
def MarkSame (s : UInt32) (window : SlidingWindow) (n : UInt32) : Prop :=
  n - window.sendBasePacketNumber < window.windowSize.toUInt32 →
    SameOrder s n window.sendBasePacketNumber

/-- The base test is the only raw comparison of the window. -/
theorem xglWindowMarkAckPacketNumber_shift {n : UInt32} (h : MarkSame s window n) :
    xglWindowMarkAckPacketNumber (window.shift s) (n + s)
      = (xglWindowMarkAckPacketNumber window n).shift s := by
  have hin : xglWindowIsInWindowPacketNumber (window.shift s) (n + s)
      = xglWindowIsInWindowPacketNumber window n := by
    simp only [xglWindowIsInWindowPacketNumber, SlidingWindow.shift, shift_sub]
    by_cases hnear : n - window.sendBasePacketNumber < window.windowSize.toUInt32
    · have horder := h hnear
      simp only [SameOrder] at horder
      simp only [horder]
    · simp only [hnear, decide_false, ite_self]
  simp only [xglWindowMarkAckPacketNumber, hin]
  split
  · simp only [SlidingWindow.shift, shift_sub]
  · rfl

end Window

/-! ### The wait-ACK queue -/

section Queue

variable (s : UInt32)

/-- An entry is found by its shifted number. -/
@[simp] theorem ReliablePacket.shift_isFor (packet : ReliablePacket) (n : UInt32)
    (targetId : UInt16) : (packet.shift s).isFor (n + s) targetId = packet.isFor n targetId := by
  simp only [ReliablePacket.isFor, ReliablePacket.shift, shift_beq]

/-- So the queue finds the shifted entry. -/
theorem xglReliableFindPacketNumber_shift (queue : ReliableQueue) (n : UInt32)
    (targetId : UInt16) :
    xglReliableFindPacketNumber (queue.shift s) (n + s) targetId
      = (xglReliableFindPacketNumber queue n targetId).map (ReliablePacket.shift s) := by
  simp only [xglReliableFindPacketNumber, ReliableQueue.shift, ← List.map_reverse, List.find?_map]
  congr 2
  funext packet
  exact packet.shift_isFor s n targetId

/-- Taking an entry off, by induction on the queue. -/
theorem reliableUnlink_shift (n : UInt32) (targetId : UInt16) (packets : List ReliablePacket) :
    reliableUnlink (n + s) targetId (packets.map (ReliablePacket.shift s))
      = (reliableUnlink n targetId packets).map (ReliablePacket.shift s) := by
  simp only [reliableUnlink, ← List.map_reverse, List.eraseP_map]
  congr 3
  funext packet
  exact packet.shift_isFor s n targetId

/-- The same with the counters of the queue. -/
theorem xglReliableRemovePacketNumber_shift (queue : ReliableQueue) (n : UInt32)
    (targetId : UInt16) :
    xglReliableRemovePacketNumber (queue.shift s) (n + s) targetId
      = ((xglReliableRemovePacketNumber queue n targetId).1,
          (xglReliableRemovePacketNumber queue n targetId).2.shift s) := by
  simp only [xglReliableRemovePacketNumber, xglReliableFindPacketNumber_shift, Option.isSome_map]
  simp only [ReliableQueue.shift, reliableUnlink_shift]

/-- Removing shifted numbers. -/
theorem reliableRemoveNumbers_shift (targetId : UInt16) (marks : List UInt32) (removed : Nat)
    (queue : ReliableQueue) :
    reliableRemoveNumbers targetId (marks.map (· + s)) (removed, queue.shift s)
      = ((reliableRemoveNumbers targetId marks (removed, queue)).1,
          (reliableRemoveNumbers targetId marks (removed, queue)).2.shift s) := by
  induction marks generalizing removed queue with
  | nil => rfl
  | cons n rest ih =>
    simp only [List.map_cons, reliableRemoveNumbers, xglReliableRemovePacketNumber_shift]
    exact ih _ _

/-- The first entry that passes a test is updated. -/
theorem updateFirst_shift {test test' : ReliablePacket → Bool}
    {update update' : ReliablePacket → ReliablePacket}
    (htest : ∀ packet, test' (packet.shift s) = test packet)
    (hupdate : ∀ packet, update' (packet.shift s) = (update packet).shift s)
    (packets : List ReliablePacket) :
    updateFirst test' update' (packets.map (ReliablePacket.shift s))
      = (updateFirst test update packets).map (ReliablePacket.shift s) := by
  induction packets with
  | nil => rfl
  | cons packet rest ih =>
    simp only [List.map_cons, updateFirst, htest, hupdate, ih]
    split <;> rfl

/-- An entry of the queue is updated. -/
theorem reliableUpdate_shift {update update' : ReliablePacket → ReliablePacket}
    (hupdate : ∀ packet, update' (packet.shift s) = (update packet).shift s)
    (queue : ReliableQueue) (n : UInt32) (targetId : UInt16) :
    reliableUpdate (queue.shift s) (n + s) targetId update'
      = (reliableUpdate queue n targetId update).shift s := by
  simp only [reliableUpdate, ReliableQueue.shift, ← List.map_reverse]
  rw [updateFirst_shift s (fun packet => packet.shift_isFor s n targetId) hupdate,
    List.map_reverse]

/-- An entry is put at the end of the queue. -/
theorem reliableAppend_shift (queue : ReliableQueue) (packet : ReliablePacket) :
    reliableAppend (queue.shift s) (packet.shift s) = (reliableAppend queue packet).shift s := by
  simp [reliableAppend, ReliableQueue.shift]

/-- The deadline of a peer depends on times only. -/
theorem transportUpdatePeerDeadline_shift (peer : PeerState) :
    transportUpdatePeerDeadline (peer.shift s) = (transportUpdatePeerDeadline peer).shift s := by
  simp only [transportUpdatePeerDeadline, PeerState.shift, ReliableQueue.shift, List.foldl_map]
  rfl

end Queue

/-! ### One side of a connection -/

/-- The same side at shifted numbers. The window of the context takes no part in any
decision. -/
structure Shifted (s : UInt32) (ctx ctx' : TransportCtx) (peer peer' : PeerState) : Prop where
  config : ctx'.config = ctx.config
  manager : ctx'.fragmentMgr = ctx.fragmentMgr
  io : ctx'.io = ctx.io.shift s
  peer : peer' = peer.shift s

/-- What meets one side: a packet it may send, an acknowledgement, or a data packet. -/
inductive NumberOp where
  | send (txData : TxData) (data : Bytes) (fragment : Bool) (extensions : Bytes)
  | ackRange (sourceId : UInt16) (ack : AckRangeExt)
  | sack (sourceId : UInt16) (sack : SackExt)
  | data (packet : Packet) (data : Bytes)

/-- The result code and the side after it. A send is refused while the window is full. -/
def endpointStep (env : TransportEnv) (ctx : TransportCtx) (peer : PeerState) :
    NumberOp → XglError × TransportCtx × PeerState
  | .send txData data fragment extensions =>
    if !xglWindowCanSendPacketNumber peer.txWindow then (.windowFull, ctx, peer)
    else transportSendReliablePacket env ctx peer txData data fragment extensions
  | .ackRange sourceId ack =>
    let out := transportProcessAckRange ctx peer sourceId ack
    (out.error, out.ctx, out.peer)
  | .sack sourceId sack =>
    transportProcessSackValue env ctx peer sourceId (sackValue sack.basePacket sack.bitmap)
  | .data packet data =>
    let out := rxReliable env ctx.config ctx.fragmentMgr ctx.io peer packet data
    (out.1, { ctx with fragmentMgr := out.2.1, io := out.2.2.1 }, out.2.2.2)

/-- The same with every number in it shifted. -/
def NumberOp.shift (s : UInt32) : NumberOp → NumberOp
  | .send txData payload fragment extensions => .send txData payload fragment extensions
  | .ackRange sourceId ack => .ackRange sourceId { ack with largestAck := ack.largestAck + s }
  | .sack sourceId ext => .sack sourceId { ext with basePacket := ext.basePacket + s }
  | .data packet payload => .data (packet.shift s) payload

/-- Two outcomes with the same code that differ by the shift. -/
def SameOutcome (s : UInt32) (out out' : XglError × TransportCtx × PeerState) : Prop :=
  out'.1 = out.1 ∧ Shifted s out.2.1 out'.2.1 out.2.2 out'.2.2

section Steps

variable {s : UInt32} {env env' : TransportEnv} {ctx ctx' : TransportCtx} {peer peer' : PeerState}

/-! ### Sends -/

/-- The blocks of an entry depend on lengths only. -/
theorem reliableTxAlloc_shift (henv : ShiftedEnv s env env') (io : TransportIo) (data : Bytes)
    (fragment : Bool) (extensions : Bytes) :
    reliableTxAlloc env' (io.shift s) data fragment extensions
      = ((reliableTxAlloc env io data fragment extensions).1,
          (reliableTxAlloc env io data fragment extensions).2.shift s) := by
  simp only [reliableTxAlloc, transportMalloc_shift henv]
  split
  · rfl
  · split <;> rfl

/-- A data packet carries its number in the header alone. -/
theorem txPacket_shift (config : TransportConfig) (peer : PeerState) (txData : TxData)
    (data : Bytes) (n : UInt32) (fragment : Bool) (extensions : Bytes) :
    txPacket config (some (peer.shift s)) txData data (n + s) fragment extensions
      = (txPacket config (some peer) txData data n fragment extensions).shiftSent s := by
  have hdata : (txPacket config (some peer) txData data n fragment extensions).reliable
      ≠ XGL_RELIABILITY_ACK_ONLY := by
    simp only [txPacket]
    split <;> decide
  rw [Packet.shiftSent, if_neg hdata]
  rfl

/-- Queueing an entry for a shifted packet. -/
theorem transportQueueReliableTx_shift (henv : ShiftedEnv s env env') (config : TransportConfig)
    (io : TransportIo) (peer : PeerState) (txData : TxData) (data : Bytes) (n : UInt32)
    (fragment : Bool) (extensions : Bytes) :
    transportQueueReliableTx env' config (io.shift s) (peer.shift s) txData data (n + s) fragment
        extensions
      = ((transportQueueReliableTx env config io peer txData data n fragment extensions).1,
          (transportQueueReliableTx env config io peer txData data n fragment
            extensions).2.1.shift s,
          (transportQueueReliableTx env config io peer txData data n fragment
            extensions).2.2.shift s) := by
  have hentry : reliableTxPacket config (peer.shift s) txData data (n + s) fragment extensions
      = (reliableTxPacket config peer txData data n fragment extensions).shift s := rfl
  simp only [transportQueueReliableTx, reliableTxAlloc_shift henv, hentry]
  split
  · rfl
  · split
    · rfl
    · rw [show (peer.shift s).reliableQueue = peer.reliableQueue.shift s from rfl,
        reliableAppend_shift]
      rfl

/-- Handing the packet down, and the number with it, or taking the entry out again. -/
theorem transportSendReliableView_shift (henv : ShiftedEnv s env env')
    (h : Shifted s ctx ctx' peer peer') (txData : TxData) (data : Bytes) (n : UInt32)
    (fragment : Bool) (extensions : Bytes) :
    SameOutcome s (transportSendReliableView env ctx peer txData data n fragment extensions)
      (transportSendReliableView env' ctx' peer' txData data (n + s) fragment extensions) := by
  obtain ⟨hconfig, hmanager, hio, rfl⟩ := h
  simp only [transportSendReliableView, hconfig, hio, txPacket_shift, xglLayerSend_shift henv]
  split
  · -- sent: the number is committed and the entry gets its timestamp
    have hwindow := xglWindowAdvanceNextPacketNumber_shift s peer.txWindow
    have hstamp : ∀ now, reliableUpdate (peer.reliableQueue.shift s) (n + s) txData.targetId
        (fun packet => { packet with sendTimestamp := now })
          = (reliableUpdate peer.reliableQueue n txData.targetId
              fun packet => { packet with sendTimestamp := now }).shift s := by
      intro now
      apply reliableUpdate_shift
      intro packet
      rfl
    simp only [transportCommitPacketNumber, xglTimeMs_shift henv]
    refine ⟨rfl, rfl, hmanager, rfl, ?_⟩
    rw [← transportUpdatePeerDeadline_shift]
    simp only [PeerState.shift, hwindow, hstamp]
  · refine ⟨rfl, rfl, hmanager, rfl, ?_⟩
    rw [show (peer.shift s).reliableQueue = peer.reliableQueue.shift s from rfl,
      xglReliableRemovePacketNumber_shift]
    rfl

/-- A send takes the same course at shifted numbers. -/
theorem transportSendReliablePacket_shift (henv : ShiftedEnv s env env')
    (h : Shifted s ctx ctx' peer peer') (txData : TxData) (data : Bytes) (fragment : Bool)
    (extensions : Bytes) :
    SameOutcome s (transportSendReliablePacket env ctx peer txData data fragment extensions)
      (transportSendReliablePacket env' ctx' peer' txData data fragment extensions) := by
  obtain ⟨hconfig, hmanager, hio, rfl⟩ := h
  simp only [transportSendReliablePacket, xglWindowGetNextPacketNumber, hconfig, hio]
  rw [show (peer.shift s).txWindow.nextPacketNumber = peer.txWindow.nextPacketNumber + s from rfl,
    transportQueueReliableTx_shift henv]
  generalize transportQueueReliableTx env ctx.config ctx.io peer txData data
    peer.txWindow.nextPacketNumber fragment extensions = queued
  obtain ⟨err, io, queuedPeer⟩ := queued
  cases err with
  | ok =>
    have hqueued : Shifted s { ctx with io := io }
        { ctx' with config := ctx.config, io := io.shift s } queuedPeer (queuedPeer.shift s) :=
      ⟨rfl, hmanager, rfl, rfl⟩
    exact transportSendReliableView_shift henv hqueued txData data _ fragment extensions
  | _ => exact ⟨rfl, rfl, hmanager, rfl, rfl⟩

/-! ### ACK ranges -/

/-- The walk over the ranges is not cut at zero. -/
def WalkFits : Bool → Nat → List WireAckRange → Prop
  | _, _, [] => True
  | first, nextHigh, range :: rest =>
    if range.length == 0 then WalkFits false nextHigh rest
    else
      let skip := if first then 0 else range.gap.toNat + 1
      skip + range.length.toNat ≤ nextHigh + 1 ∧
        WalkFits false (nextHigh + 1 - (skip + range.length.toNat)) rest

/-- A number below the largest one, counted down without a wrap. -/
theorem ofNat_sub_shift {high high' k : Nat} (h : UInt32.ofNat high' = UInt32.ofNat high + s)
    (hk : k ≤ high) (hk' : k ≤ high') : UInt32.ofNat (high' - k) = UInt32.ofNat (high - k) + s := by
  rw [← UInt32.toNat_inj, UInt32.toNat_add, UInt32.toNat_ofNat', UInt32.toNat_ofNat'] at h ⊢
  omega

/-- Walks that are not cut visit shifted numbers. -/
theorem ackRangeNumbers_shift {first : Bool} {high high' : Nat} {ranges : List WireAckRange}
    (h : UInt32.ofNat high' = UInt32.ofNat high + s) (hfits : WalkFits first high ranges)
    (hfits' : WalkFits first high' ranges) :
    ackRangeNumbers first high' ranges = (ackRangeNumbers first high ranges).map (· + s) := by
  induction ranges generalizing first high high' with
  | nil => rfl
  | cons range rest ih =>
    simp only [WalkFits] at hfits hfits'
    simp only [ackRangeNumbers]
    by_cases hzero : range.length = 0
    · simp only [hzero, beq_self_eq_true, if_true] at hfits hfits' ⊢
      exact ih h hfits hfits'
    · have hpos : 0 < range.length.toNat := by
        rw [← UInt16.toNat_inj] at hzero
        exact Nat.pos_of_ne_zero hzero
      simp only [beq_iff_eq, hzero, if_false] at hfits hfits' ⊢
      generalize (if first = true then 0 else range.gap.toNat + 1) = skip at hfits hfits' ⊢
      generalize range.length.toNat = len at hfits hfits' hpos ⊢
      obtain ⟨hroom, hrest⟩ := hfits
      obtain ⟨hroom', hrest'⟩ := hfits'
      -- neither walk is cut, so both go down by the same amounts
      have hlow : ∀ top, skip + len ≤ top + 1 →
          (if top - skip + 1 > len then top - skip - len + 1 else 0) = top + 1 - (skip + len) := by
        intro top htop
        split <;> omega
      rw [if_neg (show ¬ high' < skip by omega), if_neg (show ¬ high < skip by omega),
        hlow high hroom, hlow high' hroom', List.map_append]
      congr 1
      · simp only [numbersDown, List.map_map]
        rw [show high' - skip - (high' + 1 - (skip + len)) + 1
          = high - skip - (high + 1 - (skip + len)) + 1 by omega]
        apply List.map_congr_left
        intro i hi
        rw [List.mem_range] at hi
        have hnumber : UInt32.ofNat (high' - (skip + i)) = UInt32.ofNat (high - (skip + i)) + s :=
          ofNat_sub_shift h (by omega) (by omega)
        simpa only [Function.comp_apply, Nat.sub_sub] using hnumber
      · refine ih ?_ hrest hrest'
        rw [show high' + 1 - (skip + len) = high' - (skip + len - 1) by omega,
          show high + 1 - (skip + len) = high - (skip + len - 1) by omega]
        exact ofNat_sub_shift h (by omega) (by omega)

/-- A window that was only marked compares numbers like the one before. -/
theorem MarkKept.markSame {before after : SlidingWindow} (h : MarkKept before after) {n : UInt32} :
    MarkSame s after n ↔ MarkSame s before n := by
  simp only [MarkSame, h.base, h.size]

/-- Marking a row of numbers. The induction is on the numbers, with the window so far. -/
theorem markAll_shift {window : SlidingWindow} {marks : List UInt32}
    (h : ∀ n ∈ marks, MarkSame s window n) :
    markAll (window.shift s) (marks.map (· + s)) = (markAll window marks).shift s := by
  induction marks generalizing window with
  | nil => rfl
  | cons n rest ih =>
    have hkept := xglWindowMarkAckPacketNumber_mark window n
    show markAll (xglWindowMarkAckPacketNumber (window.shift s) (n + s)) (rest.map (· + s)) = _
    rw [xglWindowMarkAckPacketNumber_shift (h n List.mem_cons_self)]
    exact ih fun m hm => hkept.markSame.mpr (h m (List.mem_cons_of_mem _ hm))

/-- The ranges are not cut at zero, and no acknowledged number of the window lies on the
other side of the wrap than the base. -/
structure RangeStraight (s : UInt32) (peer : PeerState) (sourceId : UInt16) (ack : AckRangeExt) :
    Prop where
  fits : WalkFits true ack.largestAck.toNat ack.ranges
  fitsShifted : WalkFits true (ack.largestAck + s).toNat ack.ranges
  marks : (∃ n ∈ ack.numbers,
      (xglReliableFindPacketNumber peer.reliableQueue n sourceId).isSome = true) →
    ∀ n ∈ ack.numbers, MarkSame s peer.txWindow n

/-- A shifted ACK_RANGE releases the same entries. -/
theorem transportProcessAckRange_shift (h : Shifted s ctx ctx' peer peer') {sourceId : UInt16}
    {ack : AckRangeExt} (hstraight : RangeStraight s peer sourceId ack) :
    let out := transportProcessAckRange ctx peer sourceId ack
    let out' := transportProcessAckRange ctx' peer' sourceId
      { ack with largestAck := ack.largestAck + s }
    SameOutcome s (out.error, out.ctx, out.peer) (out'.error, out'.ctx, out'.peer) := by
  obtain ⟨hconfig, hmanager, hio, rfl⟩ := h
  have hwalk : ackRangeNumbers true (ack.largestAck + s).toNat ack.ranges
      = ack.numbers.map (· + s) := by
    refine ackRangeNumbers_shift ?_ hstraight.fits hstraight.fitsShifted
    rw [UInt32.ofNat_toNat, UInt32.ofNat_toNat]
  have hremoved := reliableRemoveNumbers_shift s sourceId ack.numbers 0 peer.reliableQueue
  obtain ⟨_, hcount⟩ := reliableRemoveNumbers_count sourceId ack.numbers (0, peer.reliableQueue)
  have hnumbers : ackRangeNumbers true ack.largestAck.toNat ack.ranges = ack.numbers := rfl
  have hqueue : (peer.shift s).reliableQueue = peer.reliableQueue.shift s := rfl
  simp only [transportProcessAckRange, xglReliableRemoveAckRanges, transportMarkAckRangeWindows,
    hwalk, hnumbers, hqueue, hremoved]
  by_cases hnone : (reliableRemoveNumbers sourceId ack.numbers (0, peer.reliableQueue)).1 = 0
  · simp only [hnone, beq_self_eq_true, if_true]
    exact ⟨rfl, hconfig, hmanager, hio, rfl⟩
  · have hmarks := hstraight.marks (hcount.mp (Nat.pos_of_ne_zero hnone))
    simp only [beq_iff_eq, hnone, if_false]
    refine ⟨rfl, hconfig, hmanager, hio, ?_⟩
    have hwindow : (advanceBases ((ack.numbers.map (· + s)).foldl markAcked
        ((peer.shift s).txWindow, ctx'.window))).1
          = (advanceBases (ack.numbers.foldl markAcked (peer.txWindow, ctx.window))).1.shift s := by
      simp only [advanceBases, foldl_markAcked_fst]
      rw [show (peer.shift s).txWindow = peer.txWindow.shift s from rfl, markAll_shift hmarks,
        xglWindowAdvanceBasePacketNumber_shift]
    simp only [hwindow]
    rw [← transportUpdatePeerDeadline_shift]
    rfl

/-! ### SACKs -/

/-- What the bits of a SACK work on, at shifted numbers. -/
structure ShiftedSack (s : UInt32) (state state' : SackState) : Prop where
  queue : state'.queue = state.queue.shift s
  window : state'.windows.1 = state.windows.1.shift s
  io : state'.io = state.io.shift s

/-- Writing the result of the bits back. -/
theorem ShiftedSack.finish {state state' : SackState} (h : ShiftedSack s state state')
    {err err' : XglError} (herr : err' = err) (hconfig : ctx'.config = ctx.config)
    (hmanager : ctx'.fragmentMgr = ctx.fragmentMgr) :
    SameOutcome s (err, state.finish ctx peer) (err', state'.finish ctx' (peer.shift s)) := by
  refine ⟨herr, hconfig, hmanager, h.io, ?_⟩
  simp only [SackState.finish, h.queue, h.window]
  rfl

/-- The packet that is sent again for an entry. -/
theorem retransmitPacket_shift (packet : ReliablePacket) :
    retransmitPacket (packet.shift s) = (retransmitPacket packet).shiftSent s := by
  rw [Packet.shiftSent, if_neg (by simp only [retransmitPacket]; decide)]
  rfl

/-- Sending an entry again takes the same course. -/
theorem transportRetransmitReliablePacket_shift (henv : ShiftedEnv s env env')
    (config : TransportConfig) (io : TransportIo) (packet : ReliablePacket) (now : UInt32) :
    transportRetransmitReliablePacket env' config (io.shift s) (packet.shift s) now
      = ((transportRetransmitReliablePacket env config io packet now).1,
          (transportRetransmitReliablePacket env config io packet now).2.1.shift s,
          (transportRetransmitReliablePacket env config io packet now).2.2.shift s) := by
  simp only [transportRetransmitReliablePacket, retransmitPacket_shift,
    transportLowerSend_shift henv]
  split <;> rfl

section Sack

variable {config : TransportConfig} {sourceId : UInt16} {basePacket now : UInt32} {bitmap : Bytes}
  {state state' : SackState}

/-- A retransmission asked for by a SACK. -/
theorem sackRetransmit_shift (henv : ShiftedEnv s env env') (h : ShiftedSack s state state')
    (n : UInt32) :
    (sackRetransmit env' config sourceId (n + s) now state').1
        = (sackRetransmit env config sourceId n now state).1 ∧
      ShiftedSack s (sackRetransmit env config sourceId n now state).2
        (sackRetransmit env' config sourceId (n + s) now state').2 := by
  simp only [sackRetransmit, h.queue, xglReliableFindPacketNumber_shift]
  cases hfind : xglReliableFindPacketNumber state.queue n sourceId with
  | none => exact ⟨rfl, h⟩
  | some missing =>
    simp only [Option.map_some, h.io, transportRetransmitReliablePacket_shift henv]
    refine ⟨trivial, ?_, h.window, rfl⟩
    apply reliableUpdate_shift
    intro packet
    rfl

/-- One bit of a SACK. -/
theorem sackBitStep_shift (henv : ShiftedEnv s env env') (h : ShiftedSack s state state') {i : Nat}
    (hmark : transportSackBitIsSet bitmap i = true →
      (xglReliableFindPacketNumber state.queue (basePacket + UInt32.ofNat i) sourceId).isSome
        = true →
      MarkSame s state.windows.1 (basePacket + UInt32.ofNat i)) :
    (sackBitStep env' config sourceId (basePacket + s) now bitmap state' i).1
        = (sackBitStep env config sourceId basePacket now bitmap state i).1 ∧
      ShiftedSack s (sackBitStep env config sourceId basePacket now bitmap state i).2
        (sackBitStep env' config sourceId (basePacket + s) now bitmap state' i).2 := by
  have hnumber := shift_add basePacket (UInt32.ofNat i) s
  simp only [sackBitStep, hnumber]
  by_cases hset : transportSackBitIsSet bitmap i = true
  · simp only [hset, if_true, h.queue, xglReliableFindPacketNumber_shift]
    cases hfind : xglReliableFindPacketNumber state.queue (basePacket + UInt32.ofNat i)
        sourceId with
    | none => exact ⟨rfl, h⟩
    | some packet =>
      have hsame := hmark hset (by rw [hfind]; rfl)
      simp only [Option.map_some, xglReliableRemovePacketNumber_shift]
      refine ⟨trivial, rfl, ?_, h.io⟩
      simp only [markAcked, h.window]
      exact xglWindowMarkAckPacketNumber_shift hsame
  · rw [if_neg hset, if_neg hset]
    exact sackRetransmit_shift henv h _

/-- A bit marks at most its own number. -/
theorem sackBitStep_markKept (i : Nat) :
    MarkKept state.windows.1
      (sackBitStep env config sourceId basePacket now bitmap state i).2.windows.1 := by
  simp only [sackBitStep]
  split
  · split
    · exact .refl _
    · exact xglWindowMarkAckPacketNumber_mark _ _
  · obtain ⟨_, _, hwindows⟩ := sackRetransmit_spec env config sourceId
      (basePacket + UInt32.ofNat i) now state
    rw [hwindows]
    exact .refl _

/-- The bits of a SACK, by induction on those to come. -/
theorem sackLoop_shift (henv : ShiftedEnv s env env') (h : ShiftedSack s state state')
    {indices : List Nat}
    (hmarks : ∀ i ∈ indices, transportSackBitIsSet bitmap i = true →
      (xglReliableFindPacketNumber state.queue (basePacket + UInt32.ofNat i) sourceId).isSome
        = true →
      MarkSame s state.windows.1 (basePacket + UInt32.ofNat i)) :
    (sackLoop env' config sourceId (basePacket + s) now bitmap indices state').1
        = (sackLoop env config sourceId basePacket now bitmap indices state).1 ∧
      ShiftedSack s (sackLoop env config sourceId basePacket now bitmap indices state).2
        (sackLoop env' config sourceId (basePacket + s) now bitmap indices state').2 := by
  induction indices generalizing state state' with
  | nil => exact ⟨rfl, h⟩
  | cons i rest ih =>
    obtain ⟨herr, hnext⟩ := @sackBitStep_shift s env env' config sourceId basePacket now bitmap
      state state' henv h i (hmarks i List.mem_cons_self)
    have hspec := sackBitStep_spec env config sourceId basePacket now bitmap state i
    have hkept := @sackBitStep_markKept env config sourceId basePacket now bitmap state i
    -- what is still queued was queued, and the base has not moved
    have hrest : ∀ j ∈ rest, transportSackBitIsSet bitmap j = true →
        (xglReliableFindPacketNumber
          (sackBitStep env config sourceId basePacket now bitmap state i).2.queue
          (basePacket + UInt32.ofNat j) sourceId).isSome = true →
        MarkSame s (sackBitStep env config sourceId basePacket now bitmap state i).2.windows.1
          (basePacket + UInt32.ofNat j) := by
      intro j hj hset hqueued
      rw [hkept.markSame]
      refine hmarks j (List.mem_cons_of_mem _ hj) hset ?_
      rw [xglReliableFindPacketNumber_isSome] at hqueued ⊢
      obtain ⟨c, hc, hfor⟩ := hqueued
      exact ⟨c, hspec.queue.sub.subset hc, hfor⟩
    rw [sackLoop, sackLoop]
    generalize sackBitStep env config sourceId basePacket now bitmap state i = stepped
      at herr hnext hrest
    generalize sackBitStep env' config sourceId (basePacket + s) now bitmap state' i = stepped'
      at herr hnext
    obtain ⟨err, next⟩ := stepped
    obtain ⟨err', next'⟩ := stepped'
    dsimp only at herr hnext hrest
    subst herr
    cases err' with
    | ok => exact ih hnext hrest
    | _ => exact ⟨rfl, hnext⟩

end Sack

/-- No queued number that a SACK acknowledges lies on the other side of the wrap than
the base of the window. -/
def SackStraight (s : UInt32) (peer : PeerState) (sourceId : UInt16) (sack : SackExt) : Prop :=
  ∀ i ∈ sackIndices sack.bitmap, transportSackBitIsSet sack.bitmap i = true →
    (xglReliableFindPacketNumber peer.reliableQueue (sack.basePacket + UInt32.ofNat i)
      sourceId).isSome = true →
    MarkSame s peer.txWindow (sack.basePacket + UInt32.ofNat i)

/-- A bitmap that is too long is refused whatever the number. -/
theorem xglWireDecodeSackExtValue_long {bitmap : Bytes} (h : 64 < bitmap.length) :
    ∃ err, ∀ base, xglWireDecodeSackExtValue (sackValue base bitmap) 64 = .error err := by
  have hlen : ∀ n, (sackValue n bitmap).length = 5 + bitmap.length := by
    intro n
    simp [sackValue]
    omega
  have hcount : ∀ n, byteAt (sackValue n bitmap) 4 = UInt8.ofNat bitmap.length := fun n => rfl
  by_cases hbyte : bitmap.length < 256
  · refine ⟨.bufferTooSmall, fun base => ?_⟩
    have hfits : (UInt8.ofNat bitmap.length).toNat = bitmap.length := by
      rw [UInt8.toNat_ofNat']
      omega
    simp only [xglWireDecodeSackExtValue, hlen, hcount, hfits]
    rw [if_neg (by omega), if_neg (by simp), if_pos h]
  · refine ⟨.invalidFrame, fun base => ?_⟩
    have hcut := (UInt8.ofNat bitmap.length).toNat_lt
    simp only [xglWireDecodeSackExtValue, hlen, hcount]
    rw [if_neg (by omega), if_pos (by simp; omega)]

/-- A shifted SACK releases the same entries and asks for the same retransmissions. -/
theorem transportProcessSackValue_shift (henv : ShiftedEnv s env env')
    (h : Shifted s ctx ctx' peer peer') {sourceId : UInt16} {sack : SackExt}
    (hstraight : SackStraight s peer sourceId sack) :
    SameOutcome s
      (transportProcessSackValue env ctx peer sourceId (sackValue sack.basePacket sack.bitmap))
      (transportProcessSackValue env' ctx' peer' sourceId
        (sackValue (sack.basePacket + s) sack.bitmap)) := by
  obtain ⟨hconfig, hmanager, hio, rfl⟩ := h
  have hqueue : (peer.shift s).reliableQueue = peer.reliableQueue.shift s := rfl
  -- a bitmap that is too long is refused at any base
  by_cases hlong : 64 < sack.bitmap.length
  · obtain ⟨err, herr⟩ := xglWireDecodeSackExtValue_long hlong
    simp only [transportProcessSackValue, herr]
    exact ⟨rfl, hconfig, hmanager, hio, rfl⟩
  have hdecode : ∀ base, xglWireDecodeSackExtValue (sackValue base sack.bitmap) 64
      = .ok { basePacket := base, bitmap := sack.bitmap } := fun base =>
    xglWireDecodeSackExtValue_sackValue base sack.bitmap (by omega)
  simp only [transportProcessSackValue, hdecode]
  split
  · exact ⟨rfl, hconfig, hmanager, hio, rfl⟩
  have hstart : ShiftedSack s
      { queue := peer.reliableQueue
        windows := (peer.txWindow, ctx.window)
        io := (xglTimeMs env ctx.io).2 }
      { queue := peer.reliableQueue.shift s
        windows := (peer.txWindow.shift s, ctx'.window)
        io := (xglTimeMs env ctx.io).2.shift s } := ⟨rfl, rfl, rfl⟩
  split
  · -- nothing received: the base packet is sent again
    simp only [hqueue, xglReliableFindPacketNumber_shift]
    -- the base packet is queued, or there is nothing to send
    cases hfind : xglReliableFindPacketNumber peer.reliableQueue sack.basePacket sourceId with
    | none => exact ⟨rfl, hconfig, hmanager, hio, rfl⟩
    | some packet =>
      simp only [Option.map_some, hconfig, hio, xglTimeMs_shift henv]
      obtain ⟨herr, hsent⟩ := @sackRetransmit_shift s env env' ctx.config sourceId
        (xglTimeMs env ctx.io).1 _ _ henv hstart sack.basePacket
      exact hsent.finish herr hconfig hmanager
  · simp only [hqueue, hconfig, hio, xglTimeMs_shift henv]
    obtain ⟨herr, hlooped⟩ := @sackLoop_shift s env env' ctx.config sourceId sack.basePacket
      (xglTimeMs env ctx.io).1 sack.bitmap _ _ henv hstart (sackIndices sack.bitmap) hstraight
    rw [show (peer.shift s).txWindow = peer.txWindow.shift s from rfl]
    generalize sackLoop env ctx.config sourceId sack.basePacket (xglTimeMs env ctx.io).1
      sack.bitmap (sackIndices sack.bitmap) _ = looped at herr hlooped ⊢
    generalize sackLoop env' ctx.config sourceId (sack.basePacket + s) (xglTimeMs env ctx.io).1
      sack.bitmap (sackIndices sack.bitmap) _ = looped' at herr hlooped ⊢
    obtain ⟨err, state⟩ := looped
    obtain ⟨err', state'⟩ := looped'
    dsimp only at herr hlooped ⊢
    subst herr
    cases err' with
    | ok =>
      have hadvanced : ShiftedSack s { state with windows := advanceBases state.windows }
          { state' with windows := advanceBases state'.windows } := by
        refine ⟨hlooped.queue, ?_, hlooped.io⟩
        simp only [advanceBases, hlooped.window]
        exact xglWindowAdvanceBasePacketNumber_shift s state.windows.1
      obtain ⟨_, hfinish⟩ := hadvanced.finish (rfl : XglError.ok = .ok) hconfig hmanager
      refine ⟨rfl, hfinish.config, hfinish.manager, hfinish.io, ?_⟩
      rw [← transportUpdatePeerDeadline_shift, ← hfinish.peer]
    | _ => exact hlooped.finish rfl hconfig hmanager

/-! ### The out-of-order list -/

/-- Two numbers above a third on the same side of the wrap. -/
theorem sameOrder_of_le {a b c : UInt32} (hab : a ≤ b) (hab' : a + s ≤ b + s) (hac : a ≤ c)
    (hac' : a + s ≤ c + s) : SameOrder s b c := by
  have ha := a.toNat_lt
  have hb := b.toNat_lt
  have hc := c.toNat_lt
  have hs := s.toNat_lt
  simp only [SameOrder, UInt32.le_iff_toNat_le, UInt32.lt_iff_toNat_lt, UInt32.toNat_add] at *
  omega

/-- A packet on the list is found by its number. -/
theorem transportFindRxBuffered_shift {n : UInt32} {buffered : List Packet}
    (h : ∀ b ∈ buffered, SameOrder s n b.packetNumber) :
    (transportFindRxBuffered (n + s) (buffered.map (Packet.shift s))).isSome
      = (transportFindRxBuffered n buffered).isSome := by
  induction buffered with
  | nil => rfl
  | cons first rest ih =>
    have horder := h first List.mem_cons_self
    simp only [List.map_cons, transportFindRxBuffered, gt_iff_lt]
    rw [show (first.shift s).packetNumber = first.packetNumber + s from rfl, shift_beq]
    simp only [SameOrder] at horder
    simp only [← horder]
    split
    · rfl
    · split
      · rfl
      · exact ih fun b hb => h b (List.mem_cons_of_mem _ hb)

/-- A packet goes to the same place of the list. -/
theorem transportInsertRxBuffered_shift {packet : Packet} {buffered : List Packet}
    (h : ∀ b ∈ buffered, SameOrder s b.packetNumber packet.packetNumber) :
    transportInsertRxBuffered (packet.shift s) (buffered.map (Packet.shift s))
      = (transportInsertRxBuffered packet buffered).map (Packet.shift s) := by
  induction buffered with
  | nil => rfl
  | cons first rest ih =>
    have horder := h first List.mem_cons_self
    simp only [List.map_cons, transportInsertRxBuffered, ge_iff_le, ← UInt32.not_lt]
    rw [show (first.shift s).packetNumber = first.packetNumber + s from rfl,
      show (packet.shift s).packetNumber = packet.packetNumber + s from rfl]
    simp only [SameOrder] at horder
    simp only [← horder, ih fun b hb => h b (List.mem_cons_of_mem _ hb)]
    split <;> rfl

/-- The bitmap of a SACK speaks of distances only. -/
theorem sackBitmap_shift {base : UInt32} {buffered : List Packet}
    (h : ∀ b ∈ buffered, SameOrder s b.packetNumber base) :
    sackBitmap (buffered.map (Packet.shift s)) (base + s) = sackBitmap buffered base := by
  have hfold : ∀ bits, (buffered.map (Packet.shift s)).foldl (sackStep (base + s)) bits
      = buffered.foldl (sackStep base) bits := by
    induction buffered with
    | nil => exact fun bits => rfl
    | cons first rest ih =>
      intro bits
      have horder := h first List.mem_cons_self
      have hstep : sackStep (base + s) bits (first.shift s) = sackStep base bits first := by
        simp only [SameOrder] at horder
        simp only [sackStep, Packet.shift, shift_sub, ← horder]
      rw [List.map_cons, List.foldl_cons, List.foldl_cons, hstep]
      exact ih (fun b hb => h b (List.mem_cons_of_mem _ hb)) _
  simp only [sackBitmap, hfold]

/-! ### Feedback -/

/-- The number of a feedback packet stands behind type and length. -/
theorem shiftFeedback_eq (type len : UInt8) (n : UInt32) (rest : Bytes) :
    shiftFeedback s (type :: len :: (xglSerializeU32Le n ++ rest))
      = type :: len :: (xglSerializeU32Le (n + s) ++ rest) := by
  have hlen : (xglSerializeU32Le n).length = 4 := by simp
  simp only [shiftFeedback, List.take_succ_cons, List.take_zero, List.drop_succ_cons,
    List.drop_zero, xglDeserializeU32Le_serialize]
  rw [show (4 : Nat) = (xglSerializeU32Le n).length from hlen.symm, List.drop_left]
  rfl

/-- A feedback packet carries its number in the header and in its extensions. -/
theorem feedbackPacket_shift (config : TransportConfig) (scope : FeedbackScope) (n : UInt32)
    (extensions : Bytes) :
    feedbackPacket config scope (n + s) (shiftFeedback s extensions)
      = (feedbackPacket config scope n extensions).shiftSent s := by
  have hfeedback : (feedbackPacket config scope n extensions).reliable
      = XGL_RELIABILITY_ACK_ONLY := rfl
  rw [Packet.shiftSent, if_pos hfeedback]
  rfl

/-- An ACK of a shifted number. -/
theorem ackPacket_shift (config : TransportConfig) (scope : FeedbackScope) (n : UInt32) :
    ackPacket config scope (n + s) = (ackPacket config scope n).shiftSent s := by
  have hext : ∀ n, XGL_WIRE_EXT_ACK_RANGE :: UInt8.ofNat (ackValue n).length :: ackValue n
      = XGL_WIRE_EXT_ACK_RANGE :: 13 :: (xglSerializeU32Le n ++
        (xglSerializeU32Le 0 ++ ([1] ++ (xglSerializeU16Le 0 ++ xglSerializeU16Le 1)))) :=
    fun n => rfl
  simp only [ackPacket, hext]
  rw [← feedbackPacket_shift, shiftFeedback_eq]

/-- A SACK of shifted numbers. Its bitmap counts from the base. -/
theorem sackPacket_shift (config : TransportConfig) (scope : FeedbackScope) {base : UInt32}
    {buffered : List Packet} (h : ∀ b ∈ buffered, SameOrder s b.packetNumber base) :
    sackPacket config scope (buffered.map (Packet.shift s)) (base + s)
      = (sackPacket config scope buffered base).shiftSent s := by
  have hext : ∀ n, XGL_WIRE_EXT_SACK ::
      UInt8.ofNat (sackValue n (sackBitmap buffered base)).length ::
        sackValue n (sackBitmap buffered base)
      = XGL_WIRE_EXT_SACK :: UInt8.ofNat (5 + (sackBitmap buffered base).length) ::
        (xglSerializeU32Le n ++ ([UInt8.ofNat (sackBitmap buffered base).length] ++
          sackBitmap buffered base)) := by
    intro n
    have hlen : (sackValue n (sackBitmap buffered base)).length
        = 5 + (sackBitmap buffered base).length := by
      simp [sackValue]
      omega
    rw [hlen]
    simp only [sackValue, List.append_assoc]
  simp only [sackPacket, sackBitmap_shift h, hext]
  rw [← feedbackPacket_shift, shiftFeedback_eq]

/-! ### Delivery -/

/-- The blocks of a packet that is kept depend on lengths only. -/
theorem rxBufferedAlloc_shift (henv : ShiftedEnv s env env') (io : TransportIo)
    (data extensions : Bytes) :
    rxBufferedAlloc env' (io.shift s) data extensions
      = ((rxBufferedAlloc env io data extensions).1,
          (rxBufferedAlloc env io data extensions).2.shift s) := by
  simp only [rxBufferedAlloc, transportMalloc_shift henv]
  split
  · rfl
  · split <;> rfl

/-- The callback is handed the same bytes. -/
theorem emitRx_shift (config : TransportConfig) (io : TransportIo) (packet : Packet)
    (data : Bytes) :
    emitRx config (io.shift s) (packet.shift s) data = (emitRx config io packet data).shift s := by
  simp only [emitRx]
  split
  · exact TransportIo.shift_emit io (.rxCallback packet.sourceId packet.dataType data packet)
  · rfl

/-- A stored fragment is recorded with its packet. -/
theorem emitStored_shift (io : TransportIo) (packet : Packet) (stored : Bool) :
    emitStored (io.shift s) (packet.shift s) stored = (emitStored io packet stored).shift s := by
  simp only [emitStored]
  split
  · exact TransportIo.shift_emit io (.fragmentStored packet)
  · rfl

/-- A fragment is stored from its payload and its place. -/
theorem fragmentStore_shift (henv : ShiftedEnv s env env') (io : TransportIo)
    (manager : FragmentManager) (buffer : ReassemblyBuffer) (dataType : UInt8)
    (fragmentOffset messageLen : UInt32) (payload : Bytes) (now : UInt32) :
    fragmentStore env' (io.shift s) manager buffer dataType fragmentOffset messageLen payload now
      = ((fragmentStore env io manager buffer dataType fragmentOffset messageLen payload now).1,
          (fragmentStore env io manager buffer dataType fragmentOffset messageLen payload now).2.1,
          (fragmentStore env io manager buffer dataType fragmentOffset messageLen payload
            now).2.2.shift s) := by
  simp only [fragmentStore, xglTimeMs_shift henv]
  split
  · rfl
  · split
    · rfl
    · split <;> split <;> rfl

/-- A buffer is created from key, type and length. -/
theorem fragmentCreateReassemblyBuffer_shift (henv : ShiftedEnv s env env') (io : TransportIo)
    (manager : FragmentManager) (key : MessageKey) (dataType : UInt8) (messageLen : UInt32) :
    fragmentCreateReassemblyBuffer env' (io.shift s) manager key dataType messageLen
      = ((fragmentCreateReassemblyBuffer env io manager key dataType messageLen).1,
          (fragmentCreateReassemblyBuffer env io manager key dataType messageLen).2.1,
          (fragmentCreateReassemblyBuffer env io manager key dataType
            messageLen).2.2.shift s) := by
  simp only [fragmentCreateReassemblyBuffer, transportMalloc_shift henv]
  split
  · rfl
  split
  · rfl
  split
  · rfl
  split
  · rfl
  split <;> rfl

/-- Reassembly does not look at packet numbers. -/
theorem xglFragmentProcessExt_shift (henv : ShiftedEnv s env env') (io : TransportIo)
    (manager : FragmentManager) (key : MessageKey) (dataType : UInt8)
    (fragmentOffset messageLen : UInt32) (payload : Bytes) (now : UInt32) :
    xglFragmentProcessExt env' (io.shift s) manager key dataType fragmentOffset messageLen payload
        now
      = ((xglFragmentProcessExt env io manager key dataType fragmentOffset messageLen
          payload now).1,
          (xglFragmentProcessExt env io manager key dataType fragmentOffset messageLen payload
            now).2.1,
          (xglFragmentProcessExt env io manager key dataType fragmentOffset messageLen payload
            now).2.2.shift s) := by
  simp only [xglFragmentProcessExt]
  split
  · rfl
  split
  · rfl
  split
  · exact fragmentStore_shift henv io manager _ dataType fragmentOffset messageLen payload now
  · rw [fragmentCreateReassemblyBuffer_shift henv]
    generalize fragmentCreateReassemblyBuffer env io manager key dataType messageLen = created
    obtain ⟨result, after, io'⟩ := created
    cases result with
    | error err => rfl
    | ok buffer =>
      exact fragmentStore_shift henv io' after buffer dataType fragmentOffset messageLen payload now

/-- A delivery does not look at the number. -/
theorem transportDeliverPacket_shift (henv : ShiftedEnv s env env') (config : TransportConfig)
    (manager : Option FragmentManager) (io : TransportIo) (packet : Packet) (data : Bytes) :
    transportDeliverPacket env' config manager (io.shift s) (packet.shift s) data
      = ((transportDeliverPacket env config manager io packet data).1,
          (transportDeliverPacket env config manager io packet data).2.1,
          (transportDeliverPacket env config manager io packet data).2.2.shift s) := by
  cases manager with
  | none => simp only [transportDeliverPacket, emitRx_shift]
  | some manager =>
    simp only [transportDeliverPacket]
    rw [show (packet.shift s).fragment = packet.fragment from rfl]
    split
    · simp only [transportDeliverFragment]
      rw [show (packet.shift s).extensions = packet.extensions from rfl]
      split
      · rfl
      · rename_i ext _
        rw [show fragmentKey (packet.shift s) ext = fragmentKey packet ext from rfl,
          show (packet.shift s).dataType = packet.dataType from rfl]
        simp only [xglFragmentProcessExt_shift henv, emitStored_shift, emitRx_shift]
        split <;> rfl
    · simp only [emitRx_shift]

/-! ### Ordering -/

/-- The packets held lie above the next number, before and after the shift. -/
structure RxStraight (s : UInt32) (peer : PeerState) : Prop where
  has : peer.rxHasPacketNumberState = true
  sorted : peer.rxBuffered.Pairwise fun a b => a.packetNumber < b.packetNumber
  above : ∀ b ∈ peer.rxBuffered, peer.rxNextPacketNumber < b.packetNumber
  aboveShifted : ∀ b ∈ peer.rxBuffered, peer.rxNextPacketNumber + s < b.packetNumber + s

/-- While packets are drained, the one with the next number may still be held. -/
structure DrainStraight (s : UInt32) (peer : PeerState) : Prop where
  has : peer.rxHasPacketNumberState = true
  sorted : peer.rxBuffered.Pairwise fun a b => a.packetNumber < b.packetNumber
  from_next : ∀ b ∈ peer.rxBuffered, peer.rxNextPacketNumber ≤ b.packetNumber
  from_nextShifted : ∀ b ∈ peer.rxBuffered, peer.rxNextPacketNumber + s ≤ b.packetNumber + s

/-- The next number compares with those held as before the shift. -/
theorem DrainStraight.sameOrder (h : DrainStraight s peer) :
    ∀ b ∈ peer.rxBuffered, SameOrder s peer.rxNextPacketNumber b.packetNumber := by
  intro b hb
  exact sameOrder_of_le (UInt32.le_refl _) (UInt32.le_refl _) (h.from_next b hb)
    (h.from_nextShifted b hb)

/-- A packet is taken off the list by its number. -/
theorem takeRxBuffered_shift {n : UInt32} {buffered : List Packet}
    (h : ∀ b ∈ buffered, SameOrder s n b.packetNumber) :
    takeRxBuffered (n + s) (buffered.map (Packet.shift s))
      = (takeRxBuffered n buffered).map fun found =>
          (found.1.shift s, found.2.map (Packet.shift s)) := by
  induction buffered with
  | nil => rfl
  | cons first rest ih =>
    have horder := h first List.mem_cons_self
    simp only [List.map_cons, takeRxBuffered, gt_iff_lt]
    rw [show (first.shift s).packetNumber = first.packetNumber + s from rfl, shift_beq]
    simp only [SameOrder] at horder
    simp only [← horder, ih fun b hb => h b (List.mem_cons_of_mem _ hb)]
    split
    · rfl
    · split
      · rfl
      · simp only [Option.map_map]
        rfl

/-- The same with the peer that has the list. -/
theorem transportTakeRxBuffered_shift {n : UInt32}
    (h : ∀ b ∈ peer.rxBuffered, SameOrder s n b.packetNumber) :
    transportTakeRxBuffered (peer.shift s) (n + s)
      = (transportTakeRxBuffered peer n).map fun found =>
          (found.1.shift s, found.2.shift s) := by
  simp only [transportTakeRxBuffered]
  rw [show (peer.shift s).rxBuffered = peer.rxBuffered.map (Packet.shift s) from rfl,
    takeRxBuffered_shift h]
  simp only [Option.map_map]
  rfl

/-- Behind a delivered packet, every packet still held is at or above the number that
comes next. -/
theorem DrainStraight.next (h : DrainStraight s peer) {buffered : Packet} {after : PeerState}
    (htake : transportTakeRxBuffered peer peer.rxNextPacketNumber = some (buffered, after)) :
    DrainStraight s { after with rxNextPacketNumber := buffered.packetNumber + 1 } ∧
      RxStraight s after := by
  obtain ⟨hwalk, hafter⟩ := transportTakeRxBuffered_some htake
  -- a packet is taken when it has the next number
  rcases takeRxBuffered_sorted h.sorted h.from_next with ⟨hnone, _⟩ |
    ⟨first, rest, hlist, hfirst, hsome⟩
  · rw [hnone] at hwalk
    cases hwalk
  rw [hsome] at hwalk
  obtain ⟨rfl, hrest⟩ := Prod.mk.inj (Option.some.inj hwalk)
  have hsorted := hlist ▸ h.sorted
  rw [List.pairwise_cons] at hsorted
  have hhas : after.rxHasPacketNumberState = true := by
    rw [hafter]
    exact h.has
  have hnext : after.rxNextPacketNumber = first.packetNumber := by
    rw [hafter, hfirst]
  -- the rest of a sorted list is above its head
  have habove : ∀ b ∈ after.rxBuffered, first.packetNumber < b.packetNumber := by
    rw [← hrest]
    exact hsorted.1
  have habove' : ∀ b ∈ after.rxBuffered, first.packetNumber + s < b.packetNumber + s := by
    intro b hb
    have hmem : b ∈ peer.rxBuffered := by
      rw [hlist]
      exact List.mem_cons_of_mem _ (hrest ▸ hb)
    have horder := h.sameOrder b hmem
    rw [← hfirst] at horder
    exact horder.mp (habove b hb)
  have hlater : after.rxBuffered.Pairwise fun a b => a.packetNumber < b.packetNumber :=
    hrest ▸ hsorted.2
  refine ⟨⟨hhas, hlater, ?_, ?_⟩, ⟨hhas, hlater, ?_, ?_⟩⟩
  · intro b hb
    exact add_one_le_of_lt (habove b hb)
  · intro b hb
    show first.packetNumber + 1 + s ≤ b.packetNumber + s
    rw [← shift_add]
    exact add_one_le_of_lt (habove' b hb)
  · rw [hnext]
    exact habove
  · rw [hnext]
    exact habove'

/-- When no packet is in order, every packet held is above the next number. -/
theorem DrainStraight.done (h : DrainStraight s peer)
    (hnone : transportTakeRxBuffered peer peer.rxNextPacketNumber = none) : RxStraight s peer := by
  have hwalk : takeRxBuffered peer.rxNextPacketNumber peer.rxBuffered = none := by
    simpa [transportTakeRxBuffered] using hnone
  rcases takeRxBuffered_sorted h.sorted h.from_next with ⟨_, habove⟩ | ⟨_, _, _, _, hsome⟩
  · exact ⟨h.has, h.sorted, habove, fun b hb => (h.sameOrder b hb).mp (habove b hb)⟩
  · rw [hsome] at hwalk
    cases hwalk

/-- Draining delivers the same packets, and what is held stays straight. The induction
is on the fuel, which covers the packets held. -/
theorem drainLoop_shift (henv : ShiftedEnv s env env') (config : TransportConfig) (fuel : Nat)
    (manager : Option FragmentManager) (io : TransportIo) (peer : PeerState)
    (hfuel : peer.rxBuffered.length ≤ fuel) (h : DrainStraight s peer) :
    drainLoop env' config fuel manager (io.shift s) (peer.shift s)
        = ((drainLoop env config fuel manager io peer).1,
            (drainLoop env config fuel manager io peer).2.1,
            (drainLoop env config fuel manager io peer).2.2.1.shift s,
            (drainLoop env config fuel manager io peer).2.2.2.shift s) ∧
      RxStraight s (drainLoop env config fuel manager io peer).2.2.2 := by
  induction fuel generalizing manager io peer with
  | zero =>
    have hempty : peer.rxBuffered = [] := List.length_eq_zero_iff.mp (Nat.le_zero.mp hfuel)
    exact ⟨rfl, h.done (by simp [transportTakeRxBuffered, hempty, takeRxBuffered])⟩
  | succ fuel ih =>
    have htaken := transportTakeRxBuffered_shift h.sameOrder
    simp only [drainLoop]
    rw [show (peer.shift s).rxNextPacketNumber = peer.rxNextPacketNumber + s from rfl, htaken]
    cases htake : transportTakeRxBuffered peer peer.rxNextPacketNumber with
    | none => exact ⟨rfl, h.done htake⟩
    | some found =>
      obtain ⟨buffered, after⟩ := found
      obtain ⟨hdrain, hstraight⟩ := h.next htake
      obtain ⟨hwalk, _⟩ := transportTakeRxBuffered_some htake
      have hshorter := takeRxBuffered_length hwalk
      have hpayload : (buffered.shift s).payload? = buffered.payload? := rfl
      have hscope : (buffered.shift s).feedbackScope = buffered.feedbackScope := rfl
      have hnumber : (buffered.shift s).packetNumber = buffered.packetNumber + s := rfl
      have hmoved : { after.shift s with rxNextPacketNumber := buffered.packetNumber + s + 1 }
          = ({ after with
              rxNextPacketNumber := buffered.packetNumber + 1 } : PeerState).shift s := by
        rw [shift_add]
        rfl
      simp only [Option.map_some, hpayload, hscope, hnumber, transportDeliverPacket_shift henv,
        transportSendAck_eq, ackPacket_shift, transportLowerSend_shift henv, hmoved]
      generalize transportDeliverPacket env config manager io buffered
        (buffered.payload?.getD []) = delivered
      obtain ⟨err, manager', io'⟩ := delivered
      cases err with
      | ok => exact ih manager' _ _ (by dsimp only; omega) hdrain
      | _ => exact ⟨rfl, hstraight⟩

/-- Caching a later packet. -/
theorem transportCacheOutOfOrderPacket_shift (henv : ShiftedEnv s env env') (io : TransportIo)
    (packet : Packet)
    (h : ∀ b ∈ peer.rxBuffered, SameOrder s packet.packetNumber b.packetNumber ∧
      SameOrder s b.packetNumber packet.packetNumber) :
    transportCacheOutOfOrderPacket env' (io.shift s) (peer.shift s) (packet.shift s)
        (packet.packetNumber + s)
      = ((transportCacheOutOfOrderPacket env io peer packet packet.packetNumber).1,
          (transportCacheOutOfOrderPacket env io peer packet packet.packetNumber).2.1.shift s,
          (transportCacheOutOfOrderPacket env io peer packet
            packet.packetNumber).2.2.shift s) := by
  have hpayload : (packet.shift s).payload? = packet.payload? := rfl
  have hnext : (peer.shift s).rxNextPacketNumber = peer.rxNextPacketNumber + s := rfl
  have hsize : (peer.shift s).txWindow.windowSize = peer.txWindow.windowSize := rfl
  have hcount : (peer.shift s).rxBufferedCount = peer.rxBufferedCount := rfl
  have hlist : (peer.shift s).rxBuffered = peer.rxBuffered.map (Packet.shift s) := rfl
  have hinsert : transportInsertRxBuffered
      { packet.shift s with packetNumber := packet.packetNumber + s }
      (peer.rxBuffered.map (Packet.shift s))
        = (transportInsertRxBuffered { packet with packetNumber := packet.packetNumber }
            peer.rxBuffered).map (Packet.shift s) :=
    transportInsertRxBuffered_shift fun b hb => (h b hb).2
  have hfind := transportFindRxBuffered_shift fun b hb => (h b hb).1
  simp only [transportCacheOutOfOrderPacket, hpayload, hnext, hsize, hcount, hlist,
    shift_sub, hfind, rxBufferedAlloc_shift henv, hinsert]
  rw [show (packet.shift s).extensions = packet.extensions from rfl]
  generalize (if (peer.txWindow.windowSize == 0) = true then (1 : UInt32)
    else peer.txWindow.windowSize.toUInt32) = window
  split
  · rfl
  split
  · rfl
  split
  · rfl
  split
  · rfl
  split
  · rfl
  split <;> rfl

/-- What is held stays straight when a later packet is cached. -/
theorem CacheOutcome.straight {after : PeerState} {packet : Packet} {err : XglError}
    (houtcome : CacheOutcome peer packet packet.packetNumber err after) (h : RxStraight s peer)
    (hlater : peer.rxNextPacketNumber < packet.packetNumber)
    (hlater' : peer.rxNextPacketNumber + s < packet.packetNumber + s) :
    RxStraight s after ∧ after.rxNextPacketNumber = peer.rxNextPacketNumber := by
  cases houtcome with
  | refused err herr => exact ⟨h, rfl⟩
  | present hfound => exact ⟨h, rfl⟩
  | inserted data hdata hne hnew =>
    refine ⟨⟨h.has, transportInsertRxBuffered_sorted h.sorted
      (transportFindRxBuffered_none h.sorted hnew), ?_, ?_⟩, rfl⟩
    · intro b hb
      rcases mem_transportInsertRxBuffered.mp hb with rfl | hb
      · exact hlater
      · exact h.above b hb
    · intro b hb
      rcases mem_transportInsertRxBuffered.mp hb with rfl | hb
      · exact hlater'
      · exact h.aboveShifted b hb

/-- A data packet on the side of the wrap on which the next number lies takes the same
course, and what is held stays straight. -/
theorem rxReliable_shift (henv : ShiftedEnv s env env') (config : TransportConfig)
    (manager : Option FragmentManager) (io : TransportIo) {packet : Packet} (data : Bytes)
    (h : RxStraight s peer)
    (horder : SameOrder s peer.rxNextPacketNumber packet.packetNumber) :
    rxReliable env' config manager (io.shift s) (peer.shift s) (packet.shift s) data
        = ((rxReliable env config manager io peer packet data).1,
            (rxReliable env config manager io peer packet data).2.1,
            (rxReliable env config manager io peer packet data).2.2.1.shift s,
            (rxReliable env config manager io peer packet data).2.2.2.shift s) ∧
      RxStraight s (rxReliable env config manager io peer packet data).2.2.2 := by
  have hinit : rxOrderInit peer = peer := if_pos h.has
  have hinit' : rxOrderInit (peer.shift s) = peer.shift s := if_pos h.has
  have hnumber : (packet.shift s).packetNumber = packet.packetNumber + s := rfl
  have hnext : (peer.shift s).rxNextPacketNumber = peer.rxNextPacketNumber + s := rfl
  have hscope : (packet.shift s).feedbackScope = packet.feedbackScope := rfl
  simp only [SameOrder] at horder
  -- later than the next number: cached or refused
  by_cases hlater : peer.rxNextPacketNumber < packet.packetNumber
  · -- cached or refused, and answered with a SACK
    have hlater' := horder.mp hlater
    have hle := UInt32.le_of_lt hlater
    have hle' := UInt32.le_of_lt hlater'
    have hcached := @transportCacheOutOfOrderPacket_shift s env env' peer henv io packet
      fun b hb => by
        have hb' := UInt32.le_of_lt (h.above b hb)
        have hbs := UInt32.le_of_lt (h.aboveShifted b hb)
        exact ⟨sameOrder_of_le hle hle' hb' hbs, sameOrder_of_le hb' hbs hle hle'⟩
    obtain ⟨houtcome, _⟩ := transportCacheOutOfOrderPacket_outcome env io peer packet
      packet.packetNumber
    obtain ⟨hstraight, hafter⟩ := houtcome.straight h hlater hlater'
    simp only [rxReliable, transportProcessReliableRxOrder, hinit, hinit', hnumber, hnext, hscope,
      gt_iff_lt, if_pos hlater, if_pos hlater', hcached, transportSendSack_eq]
    generalize transportCacheOutOfOrderPacket env io peer packet packet.packetNumber = cached
      at hstraight hafter ⊢
    obtain ⟨err, io', after⟩ := cached
    dsimp only at hstraight hafter ⊢
    rw [← hafter, show (after.shift s).rxBuffered = after.rxBuffered.map (Packet.shift s) from rfl,
      sackPacket_shift config packet.feedbackScope fun b hb => sameOrder_of_le
        (UInt32.le_of_lt (hstraight.above b hb)) (UInt32.le_of_lt (hstraight.aboveShifted b hb))
        (UInt32.le_refl _) (UInt32.le_refl _), transportLowerSend_shift henv,
      show (after.shift s).rxNextPacketNumber = after.rxNextPacketNumber + s from rfl]
    cases err with
    | ok =>
      have hne : packet.packetNumber ≠ after.rxNextPacketNumber := by
        rw [hafter]
        exact (UInt32.ne_of_lt hlater).symm
      have hne' : packet.packetNumber + s ≠ after.rxNextPacketNumber + s := by
        rw [ne_eq, shift_inj]
        exact hne
      simp only [bne_iff_ne, ne_eq, hne, hne', not_false_eq_true, if_true]
      exact ⟨trivial, hstraight⟩
    | _ => exact ⟨rfl, hstraight⟩
  · -- acknowledged, and delivered when it is the next one
    have hlater' : ¬ peer.rxNextPacketNumber + s < packet.packetNumber + s := by
      rw [← horder]
      exact hlater
    simp only [rxReliable, transportProcessReliableRxOrder, hinit, hinit', hnumber, hnext, hscope,
      gt_iff_lt, if_neg hlater, if_neg hlater', transportSendAck_eq, ackPacket_shift,
      transportLowerSend_shift henv, bne_iff_ne, ne_eq, shift_inj]
    -- the next number itself, or an earlier one
    by_cases hnow : packet.packetNumber = peer.rxNextPacketNumber
    · have hdecode : transportDecodeData config (packet.shift s) data
          = transportDecodeData config packet data := rfl
      have hmoved : { peer.shift s with rxNextPacketNumber := packet.packetNumber + s + 1 }
          = ({ peer with rxNextPacketNumber := packet.packetNumber + 1 } : PeerState).shift s := by
        rw [shift_add]
        rfl
      have hdrain : DrainStraight s
          { peer with rxNextPacketNumber := packet.packetNumber + 1 } := by
        refine ⟨h.has, h.sorted, ?_, ?_⟩
        · intro b hb
          rw [hnow]
          exact add_one_le_of_lt (h.above b hb)
        · intro b hb
          show packet.packetNumber + 1 + s ≤ b.packetNumber + s
          rw [← shift_add, hnow]
          exact add_one_le_of_lt (h.aboveShifted b hb)
      rw [if_neg (not_not.mpr hnow), if_neg (not_not.mpr hnow), hdecode,
        transportDeliverPacket_shift henv, hmoved]
      generalize transportDeliverPacket env config manager
        (transportLowerSend env config io (ackPacket config packet.feedbackScope
          packet.packetNumber)).2 packet (transportDecodeData config packet data) = delivered
      obtain ⟨err, manager', io'⟩ := delivered
      cases err with
      | ok =>
        have hlength : ∀ peer : PeerState, (peer.shift s).rxBuffered.length
            = peer.rxBuffered.length := fun peer => List.length_map _
        simp only [transportDrainRxBuffered, hlength]
        exact drainLoop_shift henv config _ manager' io' _ (le_refl _) hdrain
      | _ => exact ⟨rfl, h⟩
    · simp only [hnow, not_false_eq_true, if_true]
      exact ⟨trivial, h⟩

/-! ### One step -/

/-- No comparison that the step makes straddles the wrap. -/
def Straight (s : UInt32) (peer : PeerState) : NumberOp → Prop
  | .send _ _ _ _ => True
  | .ackRange sourceId ack => RangeStraight s peer sourceId ack
  | .sack sourceId sack => SackStraight s peer sourceId sack
  | .data packet _ => SameOrder s peer.rxNextPacketNumber packet.packetNumber

/-- The receiving side of a peer. -/
def PeerState.rxSide (peer : PeerState) : Bool × UInt32 × List Packet :=
  (peer.rxHasPacketNumberState, peer.rxNextPacketNumber, peer.rxBuffered)

/-- Straightness is a matter of the receiving side. -/
theorem RxStraight.congr {after : PeerState} (h : RxStraight s peer)
    (hside : after.rxSide = peer.rxSide) : RxStraight s after := by
  simp only [PeerState.rxSide, Prod.mk.injEq] at hside
  obtain ⟨hhas, hnext, hbuffered⟩ := hside
  refine ⟨hhas ▸ h.has, hbuffered ▸ h.sorted, ?_, ?_⟩
  · rw [hnext, hbuffered]
    exact h.above
  · rw [hnext, hbuffered]
    exact h.aboveShifted

/-- A send leaves the receiving side alone. -/
theorem transportSendReliablePacket_rxSide (env : TransportEnv) (ctx : TransportCtx)
    (peer : PeerState) (txData : TxData) (data : Bytes) (fragment : Bool) (extensions : Bytes) :
    (transportSendReliablePacket env ctx peer txData data fragment extensions).2.2.rxSide
      = peer.rxSide := by
  simp only [transportSendReliablePacket, transportQueueReliableTx]
  split
  · rename_i io queued heq
    have hqueued : queued.rxSide = peer.rxSide := by
      split at heq
      · cases heq
      · split at heq
        · cases heq
        · cases heq
          rfl
    simp only [transportSendReliableView]
    split <;> exact hqueued
  · rename_i heq
    split at heq
    · cases heq
      rfl
    · split at heq
      · cases heq
        rfl
      · cases heq
        rfl

/-- So does a SACK. -/
theorem transportProcessSackValue_rxSide (env : TransportEnv) (ctx : TransportCtx)
    (peer : PeerState) (sourceId : UInt16) (value : Bytes) :
    (transportProcessSackValue env ctx peer sourceId value).2.2.rxSide = peer.rxSide := by
  simp only [transportProcessSackValue]
  split
  · rfl
  split
  · rfl
  split
  · split <;> rfl
  · split <;> rfl

/-- A straight step is the shifted step, and what is held stays straight. -/
theorem endpointStep_shift (henv : ShiftedEnv s env env') (h : Shifted s ctx ctx' peer peer')
    (hrx : RxStraight s peer) {op : NumberOp} (hop : Straight s peer op) :
    SameOutcome s (endpointStep env ctx peer op) (endpointStep env' ctx' peer' (op.shift s)) ∧
      RxStraight s (endpointStep env ctx peer op).2.2 := by
  cases op with
  | send txData data fragment extensions =>
    have hcan : xglWindowCanSendPacketNumber peer'.txWindow
        = xglWindowCanSendPacketNumber peer.txWindow := by
      rw [h.peer]
      exact xglWindowCanSendPacketNumber_shift s peer.txWindow
    simp only [NumberOp.shift, endpointStep, hcan]
    split
    · exact ⟨⟨rfl, h⟩, hrx⟩
    · exact ⟨transportSendReliablePacket_shift henv h txData data fragment extensions,
        hrx.congr (transportSendReliablePacket_rxSide env ctx peer txData data fragment extensions)⟩
  | ackRange sourceId ack =>
    refine ⟨transportProcessAckRange_shift h hop, hrx.congr ?_⟩
    simp only [endpointStep, transportProcessAckRange]
    split <;> rfl
  | sack sourceId sack =>
    exact ⟨transportProcessSackValue_shift henv h hop,
      hrx.congr (transportProcessSackValue_rxSide env ctx peer sourceId _)⟩
  | data packet data =>
    obtain ⟨hconfig, hmanager, hio, rfl⟩ := h
    obtain ⟨hsame, hheld⟩ := rxReliable_shift henv ctx.config ctx.fragmentMgr ctx.io data hrx hop
    refine ⟨?_, hheld⟩
    simp only [NumberOp.shift, endpointStep, hconfig, hmanager, hio, hsame]
    exact ⟨rfl, rfl, rfl, rfl, rfl⟩

end Steps

/-! ### Runs -/

/-- The result codes of a run and the side it ends with. -/
def endpointRun (env : TransportEnv) : List NumberOp → TransportCtx → PeerState →
    List XglError × TransportCtx × PeerState
  | [], ctx, peer => ([], ctx, peer)
  | op :: rest, ctx, peer =>
    let out := endpointStep env ctx peer op
    let others := endpointRun env rest out.2.1 out.2.2
    (out.1 :: others.1, others.2)

/-- Every step of a run is straight. -/
def RunStraight (s : UInt32) (env : TransportEnv) (ops : List NumberOp) (ctx : TransportCtx)
    (peer : PeerState) : Prop :=
  Along (fun state op => (endpointStep env state.1 state.2 op).2)
    (fun state op => Straight s state.2 op) ops (ctx, peer)

/-- A peer that starts both directions with the number `s`. -/
def PeerState.startAt (peer : PeerState) (s : UInt32) : PeerState :=
  { peer with
    txWindow :=
      { freshWindow peer.txWindow.windowSize with
        sendBasePacketNumber := s
        nextPacketNumber := s }
    reliableQueue := { peer.reliableQueue with waitAckList := [] }
    rxNextPacketNumber := s
    rxHasPacketNumberState := true
    rxBuffered := []
    rxBufferedCount := 0 }

/-- The payloads delivered carry no numbers. -/
theorem rxPayloads_shift (s : UInt32) (events : List TransportEvent) :
    rxPayloads (events.map (TransportEvent.shift s)) = rxPayloads events := by
  simp only [rxPayloads, List.filterMap_map]
  congr 1
  funext event
  cases event <;> rfl

/-- A run of straight steps is the shifted run. The induction is on the run. -/
theorem endpointRun_shift {s : UInt32} {env env' : TransportEnv} (henv : ShiftedEnv s env env')
    (ops : List NumberOp) {ctx ctx' : TransportCtx} {peer peer' : PeerState}
    (h : Shifted s ctx ctx' peer peer') (hrx : RxStraight s peer)
    (hstraight : RunStraight s env ops ctx peer) :
    (endpointRun env' (ops.map (NumberOp.shift s)) ctx' peer').1
        = (endpointRun env ops ctx peer).1 ∧
      Shifted s (endpointRun env ops ctx peer).2.1
        (endpointRun env' (ops.map (NumberOp.shift s)) ctx' peer').2.1
        (endpointRun env ops ctx peer).2.2
        (endpointRun env' (ops.map (NumberOp.shift s)) ctx' peer').2.2 := by
  induction ops generalizing ctx ctx' peer peer' with
  | nil => exact ⟨rfl, h⟩
  | cons op rest ih =>
    obtain ⟨⟨hcode, hnext⟩, hheld⟩ := endpointStep_shift henv h hrx hstraight.1
    obtain ⟨hcodes, hend⟩ := ih hnext hheld hstraight.2
    simp only [List.map_cons, endpointRun]
    exact ⟨by rw [hcode, hcodes], hend⟩

/-- Packet numbers that start anywhere. A run of straight steps from the number `s` gives
the codes of the run from zero, delivers the same payloads in the same order, hands down
the same packets with shifted numbers, and leaves the same entries queued. -/
theorem wrap_harmless (s : UInt32) (env env' : TransportEnv) (henv : ShiftedEnv s env env')
    (ctx : TransportCtx) (hio : ctx.io.events = []) (peer : PeerState) (ops : List NumberOp)
    (hstraight : RunStraight s env ops ctx (peer.startAt 0)) :
    let zero := endpointRun env ops ctx (peer.startAt 0)
    let shifted := endpointRun env' (ops.map (NumberOp.shift s)) ctx (peer.startAt s)
    shifted.1 = zero.1 ∧
      rxPayloads shifted.2.1.io.events = rxPayloads zero.2.1.io.events ∧
      shifted.2.1.io = zero.2.1.io.shift s ∧ shifted.2.2 = zero.2.2.shift s := by
  have hstart : Shifted s ctx ctx (peer.startAt 0) (peer.startAt s) := by
    refine ⟨rfl, rfl, ?_, ?_⟩
    · simp only [TransportIo.shift, hio, List.map_nil]
      rw [← hio]
    · simp only [PeerState.startAt, PeerState.shift, SlidingWindow.shift, ReliableQueue.shift,
        UInt32.zero_add, List.map_nil]
  have hrx : RxStraight s (peer.startAt 0) := by
    refine ⟨rfl, List.Pairwise.nil, ?_, ?_⟩
    · intro b hb
      cases hb
    · intro b hb
      cases hb
  obtain ⟨hcodes, hend⟩ := endpointRun_shift henv ops hstart hrx hstraight
  refine ⟨hcodes, ?_, hend.io, hend.peer⟩
  rw [hend.io]
  exact rxPayloads_shift s _

/-- Node 2's side of connection 5 with node 1. -/
def sampleSide : PeerState :=
  freshPeer sampleTransport (scopedKey 1 5 0)

/-- The calm world answers to shifted packets as to the packets. -/
theorem calmEnv_shifted (s : UInt32) : ShiftedEnv s calmEnv calmEnv :=
  ⟨rfl, rfl, fun _ _ => rfl⟩

/-- An ACK_RANGE of one packet number. -/
def ackOf (n : UInt32) : AckRangeExt where
  largestAck := n
  ackDelayUs := 0
  ranges := [{ gap := 0, length := 1 }]

/-- Node 2 gets two packets and sends two, which are acknowledged one by one: from the last number
on, the second of each two is number zero. -/
def crossingOps : List NumberOp :=
  [.data (sampleData 0 [7]) [7], .send { sampleTx with targetId := 1 } [9] false [],
    .data (sampleData 1 [8]) [8], .send { sampleTx with targetId := 1 } [10] false [],
    .ackRange 1 (ackOf 0), .ackRange 1 (ackOf 1)]

/-- The run across the wrap is the run from zero. -/
theorem wrap_harmless_crossing :
    let zero := endpointRun calmEnv crossingOps sampleTransport (sampleSide.startAt 0)
    let shifted := endpointRun calmEnv (crossingOps.map (NumberOp.shift 0xFFFFFFFF)) sampleTransport
      (sampleSide.startAt 0xFFFFFFFF)
    rxPayloads zero.2.1.io.events = [[7], [8]] ∧
      shifted.2.2.rxNextPacketNumber = 1 ∧ shifted.2.2.txWindow.nextPacketNumber = 1 ∧
      shifted.1 = zero.1 ∧ rxPayloads shifted.2.1.io.events = rxPayloads zero.2.1.io.events ∧
      shifted.2.1.io = zero.2.1.io.shift 0xFFFFFFFF ∧
      shifted.2.2 = zero.2.2.shift 0xFFFFFFFF := by
  refine ⟨by decide +kernel, by decide +kernel, by decide +kernel,
    wrap_harmless 0xFFFFFFFF calmEnv calmEnv (calmEnv_shifted 0xFFFFFFFF) sampleTransport rfl
      sampleSide crossingOps ⟨?_, trivial, ?_, trivial, ⟨?_, ?_, ?_⟩, ⟨?_, ?_, ?_⟩, trivial⟩⟩
  · show (_ ↔ _)
    decide +kernel
  · show (_ ↔ _)
    decide +kernel
  · exact ⟨by decide, trivial⟩
  · exact ⟨by decide, trivial⟩
  · intro _ n hn
    have hzero : n = 0 := by simpa using (show n ∈ [(0 : UInt32)] from hn)
    subst hzero
    intro _
    show (_ ↔ _)
    decide +kernel
  · exact ⟨by decide, trivial⟩
  · exact ⟨by decide, trivial⟩
  · intro _ n hn
    have hone : n = 1 := by simpa using (show n ∈ [(1 : UInt32)] from hn)
    subst hone
    intro _
    show (_ ↔ _)
    decide +kernel

/-- From the last number, the second packet is taken for a duplicate of the first: it is
acknowledged and never delivered. -/
theorem wrap_loses_payload :
    rxPayloads (endpointRun calmEnv [.data (sampleData 1 [8]) [8], .data (sampleData 0 [7]) [7]]
        sampleTransport (sampleSide.startAt 0)).2.1.io.events = [[7], [8]] ∧
      rxPayloads (endpointRun calmEnv
        ([.data (sampleData 1 [8]) [8], .data (sampleData 0 [7]) [7]].map
          (NumberOp.shift 0xFFFFFFFF)) sampleTransport
        (sampleSide.startAt 0xFFFFFFFF)).2.1.io.events = [[7]] := by
  decide +kernel

end XgenLink
