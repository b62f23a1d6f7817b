import XgenLink.Lib.WrapClock
import XgenLink.Proofs.PeerRule
import XgenLink.Proofs.SackStops
import XgenLink.System.Deadline

/-!
# `XgenLink.Proofs.DeadlineInTime`: an instance is woken in time

`xgl_next_deadline_ms` tells the caller how long it may sleep before `xgl_run` has something to
do. Two things need a run: a packet of a reliable queue whose timer elapses, and a reassembly
buffer whose timeout elapses. The function does not look at the queues. It reads a deadline that
every peer caches, and the age of every buffer.

A peer caches its earliest retransmission deadline. `transport_update_peer_deadline` computes it
anew behind every send, acknowledgement and timer, so that a run keeps the cache up to date. Two
ways out of a SACK miss the update: a SACK without a set bit, and one whose retransmission fails
behind a change of the queue. `SackSkipsUpdate` states these on the packet and the queue.

Times are counters of 32 bits that wrap, and the update compares them as signed differences.
`TimersOrdered` says when these comparisons order the timers of a queue. Without it a deadline can
be missed: a deadline of 0 stands for none, and 0 is also a time.

The steps:

* `PeerRule` of `DeadlineFresh`, `transportApplyAck_fresh`: the cache is up to date.
* `BuffersTimed`: every reassembly buffer has a timeout, so that its age is looked at.
* `TimersOrdered.foldl`: the cache is in time for every queued packet.
* `peerDeadline_le_of`, `bufferDeadline_le_of`: the minimum over peers and buffers is in time.
* `next_deadline_in_time`: `xgl_next_deadline_ms` is in time in every state of a run.
* `no_deadline_with_packet_due`, `deadline_late_after_empty_sack`: what happens outside the two
  conditions.
-/

set_option autoImplicit false

namespace XgenLink

/-! ### Being in time -/

/-- `xgl_transport_run` at time `t` acts on a queued packet or on a reassembly buffer. -/
def ActsAt (ctx : TransportCtx) (t : UInt32) : Prop :=
  (∃ peer ∈ ctx.peers, ∃ packet ∈ peer.reliableQueue.waitAckList, packet.due t = true) ∨
    ∃ buffer, Reassembling ctx buffer ∧ buffer.timedOut t = true

/-- Whatever is due less than half a turn of the clock from now, the deadline is no later. -/
def DeadlineInTime (handle : RuntimeHandle) (nowMs : UInt32) : Prop :=
  ∀ d : UInt32, d.toNat < 2 ^ 31 → ActsAt handle.transportCtx (nowMs + d) →
    xglNextDeadlineMs handle nowMs ≤ d

/-! ### The cache of a peer -/

/-- The cached deadline is that of the queue. A peer without queued packets can have an old one:
`transport_reset_peer_state` clears the queue and leaves the cache. An old deadline only wakes the
instance too early. -/
def DeadlineFresh (peer : PeerState) : Prop :=
  peer.reliableQueue.waitAckList = [] ∨
    peer.earliestDeadlineMs = peer.reliableQueue.waitAckList.foldl earlierDeadline 0

/-- Behind the update the cache is up to date. -/
theorem transportUpdatePeerDeadline_fresh (peer : PeerState) :
    DeadlineFresh (transportUpdatePeerDeadline peer) := .inr rfl

/-- A send that fails leaves queue and cache, any other write is followed by the update. -/
theorem deadlineFresh_rule (env : TransportEnv) : PeerRule env DeadlineFresh where
  fresh _ _ := .inl rfl
  reset _ _ _ _ := .inl rfl
  session _ _ _ _ h := h
  rx _ _ h := h
  send ctx peer txData data fragment extensions h := by
    have hcases := transportSendReliablePacket_cases env ctx peer txData data fragment extensions
    generalize transportSendReliablePacket env ctx peer txData data fragment extensions = sent
      at hcases ⊢
    cases hcases with
    | refused => exact h
    | failed => exact h
    | sent => exact transportUpdatePeerDeadline_fresh _
  timers _ _ _ _ _ := transportUpdatePeerDeadline_fresh _

/-! ### Acknowledgements -/

/-- The packet acts as a SACK that changes the queue and returns before the update: no bit is set,
or the layer below refuses a retransmission. -/
def SackSkipsUpdate (env : TransportEnv) (ctx : TransportCtx) (peer : PeerState)
    (packet : Packet) : Prop :=
  ∃ value sack, packet.ackBody = .sack value ∧ xglWireDecodeSackExtValue value 64 = .ok sack ∧
    SackSkips env ctx.config ctx.io.sendCount peer.reliableQueue packet.sourceId sack

/-- An ACK_RANGE that releases a packet is followed by the update; any other changes nothing. -/
theorem transportProcessAckRange_deadline (ctx : TransportCtx) (peer : PeerState)
    (sourceId : UInt16) (ack : AckRangeExt) :
    DeadlineFresh (transportProcessAckRange ctx peer sourceId ack).peer ∨
      (transportProcessAckRange ctx peer sourceId ack).peer = peer := by
  by_cases hidle : (transportProcessAckRange ctx peer sourceId ack).peer = peer
  · exact .inr hidle
  -- some number was queued, so the count is not zero
  rw [transportProcessAckRange_idle_iff] at hidle
  push Not at hidle
  obtain ⟨n, hn, hqueued⟩ := hidle
  have hcount := (reliableRemoveNumbers_count sourceId
    (ackRangeNumbers true ack.largestAck.toNat ack.ranges) (0, peer.reliableQueue)).2.mpr
      ⟨n, hn, Option.isSome_iff_ne_none.mpr hqueued⟩
  left
  unfold transportProcessAckRange xglReliableRemoveAckRanges
  dsimp only at hcount ⊢
  rw [if_neg (by rw [beq_iff_eq]; exact Nat.ne_of_gt hcount)]
  exact transportUpdatePeerDeadline_fresh _

/-- A SACK that is processed to its end is followed by the update; any other leaves the cache, and
changes the queue only if it skips the update. -/
theorem transportProcessSackValue_deadline (env : TransportEnv) (ctx : TransportCtx)
    (peer : PeerState) (sourceId : UInt16) (value : Bytes) :
    let after := (transportProcessSackValue env ctx peer sourceId value).2.2
    DeadlineFresh after ∨ after.earliestDeadlineMs = peer.earliestDeadlineMs ∧
      (after.reliableQueue ≠ peer.reliableQueue →
        ∃ sack, xglWireDecodeSackExtValue value 64 = .ok sack ∧
          SackSkips env ctx.config ctx.io.sendCount peer.reliableQueue sourceId sack) := by
  intro after
  cases hdecode : xglWireDecodeSackExtValue value 64 with
  | error err =>
    have hsame : after = peer := by
      simp only [after, transportProcessSackValue, hdecode]
    exact .inr ⟨congrArg PeerState.earliestDeadlineMs hsame, fun hchanged =>
      absurd (congrArg PeerState.reliableQueue hsame) hchanged⟩
  | ok sack =>
    -- in every branch but the last the cache stays, and the code is an error or no bit is set
    have hcases : DeadlineFresh after ∨ after.earliestDeadlineMs = peer.earliestDeadlineMs ∧
        (after.reliableQueue ≠ peer.reliableQueue → sackIndices sack.bitmap = [] ∨
          (transportProcessSackValue env ctx peer sourceId value).1 ≠ .ok) := by
      simp only [after, transportProcessSackValue, hdecode]
      split
      · exact .inr ⟨rfl, fun h => absurd rfl h⟩
      split
      · rename_i hempty
        split
        · exact .inr ⟨rfl, fun h => absurd rfl h⟩
        · exact .inr ⟨rfl, fun _ => .inl (List.isEmpty_iff.mp hempty)⟩
      · split
        · exact .inl (transportUpdatePeerDeadline_fresh _)
        · rename_i hfailed
          exact .inr ⟨rfl, fun _ => .inr hfailed⟩
    refine hcases.imp_right fun hkept => ⟨hkept.1, fun hchanged => ⟨sack, rfl, ?_⟩⟩
    exact (transportProcessSackValue_skips_iff hdecode).mp ⟨hchanged, hkept.2 hchanged⟩

/-- An acknowledgement is followed by the update, or it leaves the cache. -/
theorem transportApplyAck_deadline (env : TransportEnv) (ctx : TransportCtx) (peer : PeerState)
    (packet : Packet) :
    DeadlineFresh (transportApplyAck env ctx peer packet).peer ∨
      (transportApplyAck env ctx peer packet).peer.earliestDeadlineMs = peer.earliestDeadlineMs ∧
        ((transportApplyAck env ctx peer packet).peer.reliableQueue ≠ peer.reliableQueue →
          SackSkipsUpdate env ctx peer packet) := by
  have happly := congrArg Prod.snd (transportApplyAck_eq env ctx peer packet)
  dsimp only at happly
  cases hbody : packet.ackBody with
  | nothing =>
    rw [hbody] at happly
    rw [happly]
    exact .inr ⟨rfl, fun hchanged => absurd rfl hchanged⟩
  | range ack =>
    rw [hbody] at happly
    rw [happly]
    refine (transportProcessAckRange_deadline ctx peer packet.sourceId ack).imp_right
      fun hsame => ?_
    dsimp only
    rw [hsame]
    exact ⟨rfl, fun hchanged => absurd rfl hchanged⟩
  | sack value =>
    rw [hbody] at happly
    rw [happly]
    refine (transportProcessSackValue_deadline env ctx peer packet.sourceId value).imp_right
      fun hkept => ⟨hkept.1, fun hchanged => ?_⟩
    obtain ⟨sack, hdecode, hskip⟩ := hkept.2 hchanged
    exact ⟨value, sack, hbody, hdecode, hskip⟩

/-- An acknowledgement keeps the cache up to date, unless its SACK skips the update. -/
theorem transportApplyAck_fresh {env : TransportEnv} {ctx : TransportCtx} {peer : PeerState}
    {packet : Packet} (hupdates : ¬ SackSkipsUpdate env ctx peer packet)
    (h : DeadlineFresh peer) : DeadlineFresh (transportApplyAck env ctx peer packet).peer := by
  rcases transportApplyAck_deadline env ctx peer packet with hfresh | ⟨hcache, hskips⟩
  · exact hfresh
  · have hqueue : (transportApplyAck env ctx peer packet).peer.reliableQueue
        = peer.reliableQueue := by
      by_contra hchanged
      exact hupdates (hskips hchanged)
    rw [DeadlineFresh, hqueue, hcache]
    exact h

/-! ### Reassembly buffers -/

/-- Every reassembly buffer has a timeout, and so has every buffer that is opened next.
`xgl_next_deadline_ms` skips a buffer whose timeout is 0. -/
def BuffersTimed (manager : Option FragmentManager) : Prop :=
  ∀ m, manager = some m →
    m.reassemblyTimeoutMs ≠ 0 ∧ ∀ buffer ∈ m.reassemblyList, buffer.timeoutMs ≠ 0

/-- The counter of message ids does not matter. -/
theorem buffersTimed_managerOf (ctx : TransportCtx) :
    BuffersTimed (managerOf ctx) ↔ BuffersTimed ctx.fragmentMgr := by
  rw [managerOf]
  cases ctx.fragmentMgr with
  | none => exact Iff.rfl
  | some manager =>
    constructor
    · intro h m hm
      cases hm
      exact h { manager with nextMessageId := 0 } rfl
    · intro h m hm
      cases hm
      exact h manager rfl

/-- A manager is set up with the timeout of the protocol. -/
theorem xglTransportInit_timeout {config : TransportConfig} {ctx : TransportCtx}
    (hinit : xglTransportInit config = .ok ctx) {manager : FragmentManager}
    (hmanager : ctx.fragmentMgr = some manager) :
    manager.reassemblyTimeoutMs = XGL_FRAGMENT_TIMEOUT_MS := by
  simp only [xglTransportInit] at hinit
  split at hinit
  · cases hinit
  cases hinit
  dsimp only at hmanager
  split at hmanager
  · cases hmanager
    rfl
  · cases hmanager

section Buffers

variable {m base : FragmentManager} {call : FragmentCall} {buffer : ReassemblyBuffer}

/-- A buffer that is opened gets the timeout of the manager. -/
theorem FragmentOpened.timed (hopened : FragmentOpened m call base buffer)
    (h : BuffersTimed (some m)) : BuffersTimed (some base) ∧ buffer.timeoutMs ≠ 0 := by
  obtain ⟨htimeout, hbuffers⟩ := h m rfl
  cases hopened with
  | found _ hfind => exact ⟨h, hbuffers buffer (List.mem_of_find?_eq_some hfind)⟩
  | created hnone hroom =>
    refine ⟨fun m' hm => ?_, htimeout⟩
    cases hm
    refine ⟨htimeout, fun other hother => ?_⟩
    rcases List.mem_append.mp hother with hold | hnew
    · exact hbuffers other hold
    · rw [List.mem_singleton.mp hnew]
      exact htimeout

/-- Processing a fragment keeps the timeouts. -/
theorem FragmentProcessed.timed {env : TransportEnv} {result : FragmentResult}
    {after : FragmentManager} (hprocessed : FragmentProcessed env m call result after)
    (h : BuffersTimed (some m)) : BuffersTimed (some after) := by
  cases hprocessed with
  | invalid => exact h
  | noBuffer => exact h
  | mismatch => exact h
  | notInserted => exact h
  | waiting base buffer ranges time hopened =>
    obtain ⟨hbase, hbuffer⟩ := hopened.timed h
    intro m' hm
    cases hm
    refine ⟨(hbase base rfl).1, fun other hother => ?_⟩
    rcases mem_putBuffer hother with rfl | hold
    · exact hbuffer
    · exact (hbase base rfl).2 other hold
  | completed base buffer ranges time hopened =>
    obtain ⟨hbase, -⟩ := hopened.timed h
    intro m' hm
    cases hm
    exact ⟨(hbase base rfl).1, fun other hother =>
      (hbase base rfl).2 other (List.mem_of_mem_eraseP hother)⟩

/-- Deliveries keep the timeouts. -/
theorem buffersTimed_rule (config : TransportConfig) :
    DeliveryRule config (fun _ => True) (fun manager _ => BuffersTimed manager) where
  other := fun _ _ h => h
  freed := by
    intro manager _ test h m hm
    -- the layers below and the stored bytes do not matter, only the manager
    cases hm
    obtain ⟨htimeout, hbuffers⟩ := h manager rfl
    exact ⟨htimeout, fun buffer hmem => hbuffers buffer (List.mem_of_mem_filter hmem)⟩
  delivered := by
    intro manager io packet bytes env _ _ _ h
    cases manager with
    | none => exact h
    | some m =>
      simp only [transportDeliverPacket]
      split
      swap
      · exact h
      simp only [transportDeliverFragment]
      cases deliveredFragmentExt packet.extensions with
      | error err => exact h
      | ok ext =>
        have hcases := xglFragmentProcessExt_cases env io m ⟨fragmentKey packet ext,
          packet.dataType, ext.fragmentOffset, ext.messageLen, bytes, 0⟩
        simp only [FragmentCall.process] at hcases
        dsimp only
        generalize xglFragmentProcessExt env io m (fragmentKey packet ext) packet.dataType
          ext.fragmentOffset ext.messageLen bytes 0 = processed at hcases ⊢
        obtain ⟨result, after, io'⟩ := processed
        have hafter := hcases.timed h
        dsimp only at hafter ⊢
        cases result.error with
        | ok => exact hafter
        | _ => exact hafter

end Buffers

/-! ### Calls -/

/-- An ACK of the call is no SACK that skips the update. -/
def UpdatesDeadline (ctx : TransportCtx) (call : TransportCall) : Prop :=
  ∀ packet peer, call.action = .receive packet →
    transportFindAckPeer ctx.peers packet = some peer → ackReaches packet peer = true →
      ¬ SackSkipsUpdate call.env ctx peer packet

/-- Every cache is up to date and every buffer has a timeout. -/
structure DeadlineInv (ctx : TransportCtx) : Prop where
  peers : AllPeers DeadlineFresh ctx.peers
  buffers : BuffersTimed ctx.fragmentMgr

/-- A new transport has no peer and no buffer. -/
theorem deadlineInv_init {config : TransportConfig} {ctx : TransportCtx}
    (hinit : xglTransportInit config = .ok ctx) : DeadlineInv ctx := by
  have hpeers := (xglTransportInit_fresh hinit).1
  have hbuffers := (xglTransportInit_manager hinit).2
  constructor
  · intro peer hpeer
    rw [hpeers] at hpeer
    cases hpeer
  · intro m hm
    refine ⟨?_, fun buffer hbuffer => ?_⟩
    · rw [xglTransportInit_timeout hinit hm]
      decide
    · rw [hbuffers m hm] at hbuffer
      cases hbuffer

/-- One call. -/
theorem callStep_deadlineInv (ctx : TransportCtx) (call : TransportCall) (h : DeadlineInv ctx)
    (hcall : UpdatesDeadline ctx call) : DeadlineInv (callStep ctx call) := by
  constructor
  · refine transportStep_rule (deadlineFresh_rule call.env) h.peers call.action ?_
    intro packet peer haction hfind hreaches hfresh
    exact transportApplyAck_fresh (hcall packet peer haction hfind hreaches) hfresh
  · have hstart : Delivers ctx.config (fun _ => True) (fun manager _ => BuffersTimed manager) ctx :=
      ⟨rfl, fun _ _ _ _ => trivial, h.buffers⟩
    have hrule := buffersTimed_rule ctx.config
    obtain ⟨env, action⟩ := call
    cases action with
    | send txData =>
      -- a request moves the counter of message ids at most
      show BuffersTimed (xglTransportSend env ctx txData).2.fragmentMgr
      rw [← buffersTimed_managerOf, xglTransportSend_manager, buffersTimed_managerOf]
      exact h.buffers
    | receive packet =>
      exact (xglTransportReceive_delivers hrule (fun _ => trivial) hstart fun _ => trivial).log
    | run now => exact (xglTransportRun_delivers hrule hstart).log

/-! ### Timers on a wrapping clock -/

/-- How long the timer of the packet still runs. -/
def ReliablePacket.waitMs (packet : ReliablePacket) (nowMs : UInt32) : Nat :=
  packet.timeoutMs.toUInt32.toNat - (nowMs - packet.sendTimestamp).toNat

/-- How long ago the timer of the packet elapsed. -/
def ReliablePacket.lateMs (packet : ReliablePacket) (nowMs : UInt32) : Nat :=
  (nowMs - packet.sendTimestamp).toNat - packet.timeoutMs.toUInt32.toNat

/-- The deadline of a packet as the update computes it. -/
def ReliablePacket.deadlineMs (packet : ReliablePacket) : UInt32 :=
  packet.sendTimestamp + packet.timeoutMs.toUInt32

/-- The signed arithmetic of the update tells the timers of a queue apart: every timeout is
positive, no deadline is 0, which stands for none, and no timer elapsed half a turn of the clock
before the current time or before the end of another. -/
structure TimersOrdered (queue : List ReliablePacket) (nowMs : UInt32) : Prop where
  positive : ∀ p ∈ queue, p.sendTimestamp ≠ 0 → 0 < p.timeoutMs
  named : ∀ p ∈ queue, p.sendTimestamp ≠ 0 → p.deadlineMs ≠ 0
  late : ∀ p ∈ queue, p.sendTimestamp ≠ 0 → p.lateMs nowMs ≤ 2 ^ 31
  apart : ∀ p ∈ queue, ∀ q ∈ queue, p.sendTimestamp ≠ 0 → q.sendTimestamp ≠ 0 →
    0 < q.waitMs nowMs → p.lateMs nowMs + q.waitMs nowMs < 2 ^ 31

/-- A positive timeout is less than half a turn. -/
theorem toUInt32_lt_of_pos {timeoutMs : Int32} (h : 0 < timeoutMs) :
    timeoutMs.toUInt32.toNat < 2 ^ 31 := by
  have hvalue := toInt_toInt32 timeoutMs.toUInt32
  have hself : timeoutMs.toUInt32.toInt32 = timeoutMs := rfl
  have hbound := timeoutMs.toUInt32.toNat_lt
  rw [Int32.lt_iff_toInt_lt, Int32.toInt_zero] at h
  rw [hself] at hvalue
  omega

section Timers

variable {queue : List ReliablePacket} {nowMs : UInt32} {p q : ReliablePacket}

/-- How far a deadline lies ahead, or behind. -/
theorem TimersOrdered.offset (h : TimersOrdered queue nowMs) (hp : p ∈ queue)
    (hsent : p.sendTimestamp ≠ 0) :
    clockOffset nowMs p.deadlineMs = (p.waitMs nowMs : Int) - p.lateMs nowMs := by
  have hspan := toUInt32_lt_of_pos (h.positive p hp hsent)
  have hlate := h.late p hp hsent
  simp only [ReliablePacket.lateMs, ReliablePacket.waitMs, ReliablePacket.deadlineMs] at hlate ⊢
  rw [clockOffset_add _ _ _ (by omega) (by omega)]
  omega

/-- What remains until a deadline. -/
theorem TimersOrdered.remaining (h : TimersOrdered queue nowMs) (hp : p ∈ queue)
    (hsent : p.sendTimestamp ≠ 0) :
    (clockOffset nowMs p.deadlineMs).toNat = p.waitMs nowMs := by
  rw [h.offset hp hsent]
  simp only [ReliablePacket.lateMs, ReliablePacket.waitMs]
  omega

/-- The signed comparison finds the timer that runs shorter. -/
theorem TimersOrdered.compare (h : TimersOrdered queue nowMs) (hp : p ∈ queue) (hq : q ∈ queue)
    (hpsent : p.sendTimestamp ≠ 0) (hqsent : q.sendTimestamp ≠ 0) :
    ((p.deadlineMs - q.deadlineMs).toInt32 < 0 → p.waitMs nowMs ≤ q.waitMs nowMs) ∧
      (¬ (p.deadlineMs - q.deadlineMs).toInt32 < 0 → q.waitMs nowMs ≤ p.waitMs nowMs) := by
  by_cases hboth : p.waitMs nowMs = 0 ∧ q.waitMs nowMs = 0
  · -- both have elapsed, and either deadline will do
    omega
  have hpq := h.apart p hp q hq hpsent hqsent
  have hqp := h.apart q hq p hp hqsent hpsent
  have hpspan := toUInt32_lt_of_pos (h.positive p hp hpsent)
  have hqspan := toUInt32_lt_of_pos (h.positive q hq hqsent)
  have hpoffset := h.offset hp hpsent
  have hqoffset := h.offset hq hqsent
  simp only [ReliablePacket.lateMs, ReliablePacket.waitMs] at hboth hpq hqp hpoffset hqoffset ⊢
  rw [sub_toInt32_neg_iff nowMs _ _ (by omega) (by omega)]
  omega

/-- A deadline of the queue, or none yet. -/
def DeadlineOf (queue : List ReliablePacket) (deadline : UInt32) : Prop :=
  deadline = 0 ∨ ∃ q ∈ queue, q.sendTimestamp ≠ 0 ∧ deadline = q.deadlineMs

/-- One packet of the update: the deadline is in time for it, and still for what was seen before. -/
theorem TimersOrdered.earlier (h : TimersOrdered queue nowMs) (hp : p ∈ queue)
    (hsent : p.sendTimestamp ≠ 0) {deadline : UInt32} (hdeadline : DeadlineOf queue deadline) :
    DeadlineOf queue (earlierDeadline deadline p) ∧ earlierDeadline deadline p ≠ 0 ∧
      (clockOffset nowMs (earlierDeadline deadline p)).toNat ≤ p.waitMs nowMs ∧
      (deadline ≠ 0 → (clockOffset nowMs (earlierDeadline deadline p)).toNat
        ≤ (clockOffset nowMs deadline).toNat) := by
  have hstep : earlierDeadline deadline p
      = if deadline = 0 ∨ (p.deadlineMs - deadline).toInt32 < 0 then p.deadlineMs
        else deadline := by
    have hpositive := h.positive p hp hsent
    simp [earlierDeadline, ReliablePacket.deadlineMs, hsent, hpositive]
  have hown := h.remaining hp hsent
  rw [hstep]
  rcases hdeadline with rfl | ⟨q, hq, hqsent, rfl⟩
  · rw [if_pos (.inl rfl)]
    exact ⟨.inr ⟨p, hp, hsent, rfl⟩, h.named p hp hsent, hown.le, fun hne => absurd rfl hne⟩
  · obtain ⟨hbefore, hafter⟩ := h.compare hp hq hsent hqsent
    have hother := h.remaining hq hqsent
    have hnamed := h.named q hq hqsent
    by_cases hlt : (p.deadlineMs - q.deadlineMs).toInt32 < 0
    · rw [if_pos (.inr hlt), hown, hother]
      exact ⟨.inr ⟨p, hp, hsent, rfl⟩, h.named p hp hsent, le_rfl, fun _ => hbefore hlt⟩
    · rw [if_neg (not_or.mpr ⟨hnamed, hlt⟩), hother]
      exact ⟨.inr ⟨q, hq, hqsent, rfl⟩, hnamed, hafter hlt, fun _ => le_rfl⟩

/-- The update finds a deadline in time for every packet that is in flight. The induction is on
the packets, with the deadline found so far. The minimum found is never 0, since no deadline of
the queue is. -/
theorem TimersOrdered.foldl (h : TimersOrdered queue nowMs) (rest : List ReliablePacket)
    (hrest : ∀ p ∈ rest, p ∈ queue) {deadline : UInt32} (hdeadline : DeadlineOf queue deadline) :
    (deadline ≠ 0 → rest.foldl earlierDeadline deadline ≠ 0 ∧
      (clockOffset nowMs (rest.foldl earlierDeadline deadline)).toNat
        ≤ (clockOffset nowMs deadline).toNat) ∧
    ∀ p ∈ rest, p.sendTimestamp ≠ 0 → rest.foldl earlierDeadline deadline ≠ 0 ∧
      (clockOffset nowMs (rest.foldl earlierDeadline deadline)).toNat ≤ p.waitMs nowMs := by
  induction rest generalizing deadline with
  | nil => exact ⟨fun hne => ⟨hne, le_rfl⟩, fun p hp => absurd hp List.not_mem_nil⟩
  | cons first rest ih =>
    obtain ⟨hfirst, hrest⟩ := List.forall_mem_cons.mp hrest
    rw [List.foldl_cons]
    by_cases hsent : first.sendTimestamp = 0
    · -- an unsent packet is passed over
      have hsame : earlierDeadline deadline first = deadline := by simp [earlierDeadline, hsent]
      rw [hsame]
      obtain ⟨hstart, hothers⟩ := ih hrest hdeadline
      refine ⟨hstart, fun p hp hpsent => ?_⟩
      rcases List.mem_cons.mp hp with rfl | hmem
      · exact absurd hsent hpsent
      · exact hothers p hmem hpsent
    · obtain ⟨hnext, hne, hown, hbefore⟩ := h.earlier hfirst hsent hdeadline
      obtain ⟨hstart, hothers⟩ := ih hrest hnext
      obtain ⟨hfound, hle⟩ := hstart hne
      refine ⟨fun hset => ⟨hfound, hle.trans (hbefore hset)⟩, fun p hp hpsent => ?_⟩
      rcases List.mem_cons.mp hp with rfl | hmem
      · exact ⟨hfound, hle.trans hown⟩
      · exact hothers p hmem hpsent

end Timers

/-! ### What is collected -/

/-- A timer that has elapsed `d` from now runs at most `d` more. -/
theorem waitMs_le_of_due {packet : ReliablePacket} {nowMs d : UInt32} (hpos : 0 < packet.timeoutMs)
    (hd : d.toNat < 2 ^ 31) (hdue : packet.due (nowMs + d) = true) :
    packet.sendTimestamp ≠ 0 ∧ packet.waitMs nowMs ≤ d.toNat := by
  have hspan := toUInt32_lt_of_pos hpos
  simp only [ReliablePacket.due, Bool.and_eq_true, bne_iff_ne, decide_eq_true_eq, ge_iff_le,
    UInt32.le_iff_toNat_le, UInt32.toNat_sub, UInt32.toNat_add] at hdue
  obtain ⟨hsent, helapsed⟩ := hdue
  have hnow := nowMs.toNat_lt
  have hstamp := packet.sendTimestamp.toNat_lt
  refine ⟨hsent, ?_⟩
  simp only [ReliablePacket.waitMs, UInt32.toNat_sub]
  omega

/-- A peer is taken into account with what remains until its cached deadline. -/
theorem peerDeadline_le_of {peer : PeerState} {nowMs d : UInt32}
    (hset : peer.earliestDeadlineMs ≠ 0)
    (hremaining : (clockOffset nowMs peer.earliestDeadlineMs).toNat ≤ d.toNat)
    (deadlineMs : UInt32) : peerDeadline nowMs deadlineMs peer ≤ d := by
  have hsigned := toInt_toInt32 (peer.earliestDeadlineMs - nowMs)
  have hback : (peer.earliestDeadlineMs - nowMs).toInt32.toUInt32
      = peer.earliestDeadlineMs - nowMs := rfl
  have hbound := (peer.earliestDeadlineMs - nowMs).toNat_lt
  rw [clockOffset] at hremaining
  simp only [peerDeadline, hback, Int32.le_iff_toInt_le, Int32.toInt_zero]
  rw [if_neg (by simpa using hset), UInt32.le_iff_toNat_le]
  split
  · rw [deadlineTakeMin_toNat]
    exact Nat.le_trans (Nat.min_le_right _ _) (Nat.zero_le _)
  · rw [deadlineTakeMin_toNat]
    omega

/-- A buffer is taken into account with what remains of its timeout. -/
theorem bufferDeadline_le_of {buffer : ReassemblyBuffer} {nowMs d : UInt32}
    (hset : buffer.timeoutMs ≠ 0) (hdue : buffer.timedOut (nowMs + d) = true)
    (deadlineMs : UInt32) : bufferDeadline nowMs deadlineMs buffer ≤ d := by
  simp only [ReassemblyBuffer.timedOut, Bool.and_eq_true, bne_iff_ne, decide_eq_true_eq, ge_iff_le,
    UInt32.le_iff_toNat_le, UInt32.toNat_sub, UInt32.toNat_add] at hdue
  obtain ⟨hstamped, helapsed⟩ := hdue
  have hnow := nowMs.toNat_lt
  have hstamp := buffer.firstFragmentTime.toNat_lt
  have hd := d.toNat_lt
  simp only [bufferDeadline]
  rw [if_neg (by simp [hstamped, hset]), UInt32.le_iff_toNat_le, deadlineTakeMin_toNat]
  simp only [deadlineDeltaMs, ge_iff_le, UInt32.le_iff_toNat_le, UInt32.toNat_sub]
  split
  · exact Nat.le_trans (Nat.min_le_right _ _) (Nat.zero_le _)
  · simp only [UInt32.toNat_sub]
    have htimeout := buffer.timeoutMs.toNat_lt
    omega

/-- In every state of a run in which no SACK skips the update of the deadline, and at every time
at which the signed arithmetic tells the timers of each peer apart: if a run of the transport has
something to do less than half a turn of the clock from now, the deadline is no later. -/
theorem next_deadline_in_time (config : TransportConfig) (ctx : TransportCtx)
    (hinit : xglTransportInit config = .ok ctx) (calls : List TransportCall)
    (hupdates : Along callStep UpdatesDeadline calls ctx) (handle : RuntimeHandle)
    (hready : handle.initialized = true) (hstate : handle.transportCtx = runCalls calls ctx)
    (nowMs : UInt32)
    (htimers : ∀ peer ∈ handle.transportCtx.peers,
      TimersOrdered peer.reliableQueue.waitAckList nowMs) :
    DeadlineInTime handle nowMs := by
  have hinv : DeadlineInv handle.transportCtx := hstate ▸
    foldl_along DeadlineInv callStep_deadlineInv calls ctx (deadlineInv_init hinit) hupdates
  intro d hd hacts
  simp only [xglNextDeadlineMs, hready, Bool.not_true, Bool.false_eq_true, if_false]
  rcases hacts with ⟨peer, hpeer, packet, hpacket, hdue⟩ | ⟨buffer, hbuffer, hdue⟩
  -- a packet is due
  · -- the buffers can only shorten what the peers allow
    have hordered := htimers peer hpeer
    have hsent : packet.sendTimestamp ≠ 0 := by
      simp only [ReliablePacket.due, Bool.and_eq_true, bne_iff_ne] at hdue
      exact hdue.1
    obtain ⟨-, hwait⟩ := waitMs_le_of_due (hordered.positive packet hpacket hsent) hd hdue
    have hcache : peer.earliestDeadlineMs
        = peer.reliableQueue.waitAckList.foldl earlierDeadline 0 := by
      rcases hinv.peers peer hpeer with hempty | hfresh
      · rw [hempty] at hpacket
        cases hpacket
      · exact hfresh
    obtain ⟨hset, hremaining⟩ := (hordered.foldl _ (fun _ h => h) (.inl rfl)).2 packet hpacket hsent
    rw [← hcache] at hset hremaining
    have hpeers : collectReliableDeadlines handle.transportCtx.peers nowMs
        (collectRouteDeadlines handle nowMs XGL_NO_DEADLINE_MS) ≤ d :=
      foldl_deadline_le_of_mem _ (peerDeadline_le nowMs) hpeer
        (peerDeadline_le_of hset (hremaining.trans hwait)) _
    refine UInt32.le_trans ?_ hpeers
    simp only [collectReassemblyDeadlines]
    split
    · exact UInt32.le_refl _
    · exact foldl_deadline_le _ (bufferDeadline_le nowMs) _ _
  -- a reassembly buffer is due
  · obtain ⟨manager, hmanager, hmem⟩ := hbuffer
    have htimed := (hinv.buffers manager hmanager).2 buffer hmem
    simp only [collectReassemblyDeadlines, hmanager]
    exact foldl_deadline_le_of_mem _ (bufferDeadline_le nowMs) hmem
      (bufferDeadline_le_of htimed hdue) _

/-- The instance of node 1 behind one request sent while the clock shows `t`. -/
def sentAtHandle (t : UInt32) : RuntimeHandle where
  transportCtx := runCalls [sendAt t] senderTransport

/-- Behind a request sent at 7 the instance is to be run at 1007, also when the packet is 500 ms
late already. -/
theorem next_deadline_in_time_sent_at_seven :
    DeadlineInTime (sentAtHandle 7) 7 ∧ xglNextDeadlineMs (sentAtHandle 7) 7 = 1000 ∧
      DeadlineInTime (sentAtHandle 7) 1507 ∧ xglNextDeadlineMs (sentAtHandle 7) 1507 = 0 := by
  have hupdates : Along callStep UpdatesDeadline [sendAt 7] senderTransport := by
    refine ⟨?_, trivial⟩
    intro packet peer haction
    cases haction
  have hqueue : ∀ peer ∈ (sentAtHandle 7).transportCtx.peers,
      peer.reliableQueue.waitAckList = [sentEntryAt 7] := by decide
  have hordered : ∀ nowMs : UInt32, nowMs = 7 ∨ nowMs = 1507 →
      ∀ peer ∈ (sentAtHandle 7).transportCtx.peers,
        TimersOrdered peer.reliableQueue.waitAckList nowMs := by
    intro nowMs hnow peer hpeer
    rw [hqueue peer hpeer]
    rcases hnow with rfl | rfl <;> constructor <;> decide
  refine ⟨?_, by decide, ?_, by decide⟩
  · exact next_deadline_in_time senderConfig senderTransport rfl [sendAt 7] hupdates
      (sentAtHandle 7) rfl rfl 7 (hordered 7 (.inl rfl))
  · exact next_deadline_in_time senderConfig senderTransport rfl [sendAt 7] hupdates
      (sentAtHandle 7) rfl rfl 1507 (hordered 1507 (.inr rfl))

/-- The deadline of a packet sent 1000 ms before the clock wraps is 0, which stands for none: the
packet is due in 1000 ms and the instance has no deadline. -/
theorem no_deadline_with_packet_due :
    xglTransportInit senderConfig = .ok senderTransport ∧
      ActsAt (sentAtHandle 4294966296).transportCtx (4294966296 + 1000) ∧
      xglNextDeadlineMs (sentAtHandle 4294966296) 4294966296 = XGL_NO_DEADLINE_MS ∧
      ¬ DeadlineInTime (sentAtHandle 4294966296) 4294966296 := by
  have hacts : ActsAt (sentAtHandle 4294966296).transportCtx (4294966296 + 1000) :=
    .inl (by decide)
  have hnone : xglNextDeadlineMs (sentAtHandle 4294966296) 4294966296 = XGL_NO_DEADLINE_MS := by
    decide
  refine ⟨rfl, hacts, hnone, fun hintime => ?_⟩
  have hle := hintime 1000 (by decide) hacts
  rw [hnone] at hle
  revert hle
  decide

/-- A request with a timeout of 40000 ms sent at 7, and at 8 a SACK without a set bit. -/
def slowSendThenEmptySack : List TransportCall :=
  [{ env := { calmEnv with clock := fun _ => 7 }
     action := .send { sampleTx with timeoutMs := 40000 } },
    { env := { calmEnv with clock := fun _ => 8 }
      action := .receive (sackPacket sampleTransportConfig
        { targetId := 1, sessionId := 1, connectionId := 5, sessionEpoch := 0 } [] 0) }]

/-- The SACK has the packet sent again with the capped timeout of 30000 ms, and the deadline is
still that of the first transmission. -/
theorem deadline_late_after_empty_sack :
    ActsAt (runCalls slowSendThenEmptySack senderTransport) (8 + 30000) ∧
      xglNextDeadlineMs { transportCtx := runCalls slowSendThenEmptySack senderTransport } 8
        = 39999 :=
  ⟨.inl (by decide +kernel), by decide +kernel⟩

end XgenLink
