import Mathlib.Data.List.Nodup
import XgenLink.Proofs.SenderCustody
import XgenLink.Proofs.WindowSteps

/-!
# `XgenLink.Proofs.AckWindows`: what an acknowledgement can do to the send window

The send window of a peer remembers which of the numbers in flight were acknowledged, and moves
its base past them. It is sound as long as only numbers that were sent are marked.

The source does not check that. An ACK_RANGE that takes at least one packet off the queue marks
every number it covers, sent or not. A SACK marks only numbers that are queued, and these can
be unsent only in a window that other peers share. So the windows stay sound exactly when
nothing unsent is among the marked numbers, and this module says which these are.

* `sackLoop_marks`: the numbers that the bits of a SACK mark. A retransmission that fails ends
  the loop, so a bit counts only when the bits before it were gone through (`sackReaches`).
* `Packet.ackBody`: the one extension that an ACK packet is acted on for, and
  `transportApplyAck_eq`, what acting on it does.
* `NamesSent`: no number that the packet marks is unsent.
* `transportProcessAckRange_sound_iff`, `transportProcessSackValue_sound_iff`: the two kinds of
  acknowledgement, each with its condition.
* `ack_keeps_windows_iff`: when an ACK packet keeps every window sound.
* `ack_corrupts_window`: a packet in flight, and an ACK of two.
-/

set_option autoImplicit false

namespace XgenLink

/-! ### Numbers in the queue -/

/-- Whether a number is queued can be told from the contents. -/
theorem xglReliableFindPacketNumber_isSome {queue : ReliableQueue} {n : UInt32}
    {targetId : UInt16} :
    (xglReliableFindPacketNumber queue n targetId).isSome = true ↔
      ∃ c ∈ contents queue.waitAckList, c.isFor n targetId = true := by
  unfold xglReliableFindPacketNumber contents
  rw [List.find?_isSome]
  constructor
  · rintro ⟨packet, hmem, hfor⟩
    exact ⟨packet.content, List.mem_map_of_mem (List.mem_reverse.mp hmem), hfor⟩
  · rintro ⟨c, hmem, hfor⟩
    obtain ⟨packet, hpacket, rfl⟩ := List.mem_map.mp hmem
    exact ⟨packet, List.mem_reverse.mpr hpacket, hfor⟩

/-- A queue that loses other entries still has the number or still lacks it. -/
theorem Shrinks.find_isSome {gone : ReliablePacket → Prop} {before after : ReliableQueue}
    (h : Shrinks gone before.waitAckList after.waitAckList) {n : UInt32} {targetId : UInt16}
    (hgone : ∀ c : ReliablePacket, c.isFor n targetId = true → ¬ gone c) :
    (xglReliableFindPacketNumber after n targetId).isSome = true ↔
      (xglReliableFindPacketNumber before n targetId).isSome = true := by
  rw [xglReliableFindPacketNumber_isSome, xglReliableFindPacketNumber_isSome]
  constructor
  · rintro ⟨c, hmem, hfor⟩
    exact ⟨c, h.sub.subset hmem, hfor⟩
  · rintro ⟨c, hmem, hfor⟩
    exact ⟨c, (h.kept c hmem).resolve_right (hgone c hfor), hfor⟩

/-- The number of a packet that fits. -/
theorem ReliablePacket.packetNumber_of_isFor {packet : ReliablePacket} {n : UInt32}
    {targetId : UInt16} (h : packet.isFor n targetId = true) : packet.packetNumber = n := by
  unfold ReliablePacket.isFor at h
  rw [Bool.and_eq_true, beq_iff_eq] at h
  exact h.1

/-- A number that is not queued takes nothing off. -/
theorem reliableUnlink_of_find_none {queue : ReliableQueue} {n : UInt32} {targetId : UInt16}
    (h : xglReliableFindPacketNumber queue n targetId = none) :
    reliableUnlink n targetId queue.waitAckList = queue.waitAckList := by
  unfold xglReliableFindPacketNumber at h
  unfold reliableUnlink
  rw [List.eraseP_of_forall_not, List.reverse_reverse]
  intro packet hmem
  simpa using (List.find?_eq_none.mp h) packet hmem

/-- The count of removed packets is not zero exactly when some number is queued. -/
theorem reliableRemoveNumbers_count (targetId : UInt16) (numbers : List UInt32)
    (acc : Nat × ReliableQueue) :
    acc.1 ≤ (reliableRemoveNumbers targetId numbers acc).1 ∧
      (acc.1 < (reliableRemoveNumbers targetId numbers acc).1 ↔
        ∃ n ∈ numbers, (xglReliableFindPacketNumber acc.2 n targetId).isSome = true) := by
  induction numbers generalizing acc with
  | nil => exact ⟨le_refl _, by simp [reliableRemoveNumbers]⟩
  | cons n rest ih =>
    obtain ⟨removed, queue⟩ := acc
    unfold reliableRemoveNumbers xglReliableRemovePacketNumber
    dsimp only
    cases hfind : xglReliableFindPacketNumber queue n targetId with
    | some packet =>
      rw [Option.isSome_some, if_pos rfl]
      have hmono := (ih (removed + 1,
        { queue with waitAckList := reliableUnlink n targetId queue.waitAckList })).1
      dsimp only at hmono
      refine ⟨by omega, fun _ => ⟨n, List.mem_cons_self, by rw [hfind]; rfl⟩, fun _ => by omega⟩
    | none =>
      rw [Option.isSome_none, if_neg (by simp), reliableUnlink_of_find_none hfind]
      obtain ⟨hmono, hcount⟩ := ih (removed, queue)
      refine ⟨hmono, hcount.trans ?_⟩
      simp [hfind]

/-- Numbers that are not queued remove nothing. -/
theorem reliableRemoveNumbers_absent {targetId : UInt16} {numbers : List UInt32}
    {queue : ReliableQueue} (removed : Nat)
    (h : ∀ n ∈ numbers, xglReliableFindPacketNumber queue n targetId = none) :
    reliableRemoveNumbers targetId numbers (removed, queue) = (removed, queue) := by
  induction numbers with
  | nil => rfl
  | cons n rest ih =>
    have hn := h n List.mem_cons_self
    unfold reliableRemoveNumbers xglReliableRemovePacketNumber
    dsimp only
    rw [hn, reliableUnlink_of_find_none hn, Option.isSome_none, if_neg (by simp)]
    exact ih fun m hm => h m (List.mem_cons_of_mem _ hm)

/-! ### The marks of a SACK -/

/-- The bits before this one leave no failed retransmission. -/
def sackReaches (env : TransportEnv) (config : TransportConfig) (sourceId : UInt16)
    (basePacket now : UInt32) (bitmap : Bytes) (state : SackState) (before : List Nat) : Prop :=
  (sackLoop env config sourceId basePacket now bitmap before state).1 = .ok

/-- The numbers that the bits of a SACK mark: those of set bits that are reached and
whose number is queued. -/
theorem sackLoop_marks (env : TransportEnv) (config : TransportConfig) (sourceId : UInt16)
    (basePacket now : UInt32) (bitmap : Bytes) (indices : List Nat)
    (hdistinct : (indices.map fun i => basePacket + UInt32.ofNat i).Nodup) (state : SackState) :
    ∃ marks,
      (sackLoop env config sourceId basePacket now bitmap indices state).2.windows.1
        = markAll state.windows.1 marks ∧
      ∀ n, n ∈ marks ↔ ∃ before i after, indices = before ++ i :: after ∧
        sackReaches env config sourceId basePacket now bitmap state before ∧
        transportSackBitIsSet bitmap i = true ∧ n = basePacket + UInt32.ofNat i ∧
        (xglReliableFindPacketNumber state.queue n sourceId).isSome = true := by
  -- the induction is on the bits; the numbers still to come are not touched by the first
  induction indices generalizing state with
  | nil => exact ⟨[], rfl, fun n => ⟨fun h => absurd h List.not_mem_nil, by simp⟩⟩
  | cons i rest ih =>
    rw [List.map_cons, List.nodup_cons] at hdistinct
    obtain ⟨hfresh, hdistinct⟩ := hdistinct
    have hbit := sackBitStep_spec env config sourceId basePacket now bitmap state i
    -- the mark of the first bit
    have hfirst : ∃ first,
        (sackBitStep env config sourceId basePacket now bitmap state i).2.windows.1
          = markAll state.windows.1 first ∧
        ∀ n, n ∈ first ↔ transportSackBitIsSet bitmap i = true ∧
          n = basePacket + UInt32.ofNat i ∧
          (xglReliableFindPacketNumber state.queue n sourceId).isSome = true := by
      unfold sackBitStep
      dsimp only
      -- a set bit marks its number when that is queued
      by_cases hset : transportSackBitIsSet bitmap i = true
      · rw [if_pos hset]
        cases hfind : xglReliableFindPacketNumber state.queue (basePacket + UInt32.ofNat i)
            sourceId with
        | none =>
          refine ⟨[], rfl, fun n => ⟨fun h => absurd h List.not_mem_nil, ?_⟩⟩
          rintro ⟨_, rfl, hsome⟩
          rw [hfind] at hsome
          cases hsome
        | some packet =>
          refine ⟨[basePacket + UInt32.ofNat i], rfl, fun n => ?_⟩
          rw [List.mem_singleton]
          refine ⟨?_, fun h => h.2.1⟩
          rintro rfl
          exact ⟨hset, rfl, by rw [hfind]; rfl⟩
      -- a clear bit retransmits, and that leaves the window alone
      · rw [if_neg hset]
        refine ⟨[], by rw [(sackRetransmit_spec env config sourceId _ now state).2.2]; rfl,
          fun n => ⟨fun h => absurd h List.not_mem_nil, fun h => absurd h.1 hset⟩⟩
    obtain ⟨first, hwindow, hfirst⟩ := hfirst
    -- a failed step marks nothing
    have hfailed : (sackBitStep env config sourceId basePacket now bitmap state i).1 ≠ .ok →
        transportSackBitIsSet bitmap i ≠ true := by
      intro herr hset
      unfold sackBitStep at herr
      dsimp only at herr
      rw [if_pos hset] at herr
      split at herr <;> exact herr rfl
    -- the loop is its first bit, and the rest when that went well
    have hloop : ∀ others, sackLoop env config sourceId basePacket now bitmap (i :: others) state
        = if (sackBitStep env config sourceId basePacket now bitmap state i).1 = .ok then
            sackLoop env config sourceId basePacket now bitmap others
              (sackBitStep env config sourceId basePacket now bitmap state i).2
          else sackBitStep env config sourceId basePacket now bitmap state i := by
      intro others
      rw [sackLoop]
      generalize sackBitStep env config sourceId basePacket now bitmap state i = stepped
      obtain ⟨err, next⟩ := stepped
      cases err <;> rfl
    by_cases hok : (sackBitStep env config sourceId basePacket now bitmap state i).1 = .ok
    · obtain ⟨marks, hrest, hmarks⟩ := ih hdistinct
        (sackBitStep env config sourceId basePacket now bitmap state i).2
      refine ⟨first ++ marks, ?_, fun n => ?_⟩
      · rw [hloop, if_pos hok, hrest, hwindow]
        unfold markAll
        rw [List.foldl_append]
      · rw [List.mem_append, hfirst, hmarks]
        constructor
        · rintro (⟨hset, hn, hqueued⟩ | ⟨before, j, after, hsplit, hreach, hset, hn, hqueued⟩)
          · exact ⟨[], i, rest, rfl, rfl, hset, hn, hqueued⟩
          · refine ⟨i :: before, j, after, by rw [hsplit]; rfl, ?_, hset, hn, ?_⟩
            · unfold sackReaches
              rw [hloop, if_pos hok]
              exact hreach
            · refine (hbit.queue.find_isSome fun c hfor hgone => ?_).mp hqueued
              refine hfresh (List.mem_map.mpr ⟨j, by rw [hsplit]; simp, ?_⟩)
              rw [← hn, ← hgone.2, ReliablePacket.packetNumber_of_isFor hfor]
        · rintro ⟨before, j, after, hsplit, hreach, hset, hn, hqueued⟩
          -- the bit is the first one or one of the rest
          cases before with
          | nil =>
            obtain ⟨rfl, rfl⟩ : i = j ∧ rest = after := by simpa using hsplit
            exact .inl ⟨hset, hn, hqueued⟩
          | cons head before =>
            obtain ⟨rfl, htail⟩ : i = head ∧ rest = before ++ j :: after := by simpa using hsplit
            unfold sackReaches at hreach
            rw [hloop, if_pos hok] at hreach
            refine .inr ⟨before, j, after, htail, hreach, hset, hn, ?_⟩
            refine (hbit.queue.find_isSome fun c hfor hgone => ?_).mpr hqueued
            refine hfresh (List.mem_map.mpr ⟨j, by rw [htail]; simp, ?_⟩)
            rw [← hn, ← hgone.2, ReliablePacket.packetNumber_of_isFor hfor]
    -- the loop ends here, so only the first bit can have marked anything
    · refine ⟨first, by rw [hloop, if_neg hok, hwindow], fun n => ?_⟩
      rw [hfirst]
      constructor
      · exact fun h => absurd h.1 (hfailed hok)
      · rintro ⟨before, j, after, hsplit, hreach, hset, hn, hqueued⟩
        cases before with
        | nil =>
          obtain ⟨rfl, rfl⟩ : i = j ∧ rest = after := by simpa using hsplit
          exact ⟨hset, hn, hqueued⟩
        | cons head before =>
          obtain ⟨rfl, _⟩ : i = head ∧ rest = before ++ j :: after := by simpa using hsplit
          unfold sackReaches at hreach
          rw [hloop, if_neg hok] at hreach
          exact absurd hreach hok

/-! ### ACK packets -/

/-- The numbers that an ACK_RANGE covers. -/
def AckRangeExt.numbers (ack : AckRangeExt) : List UInt32 :=
  ackRangeNumbers true ack.largestAck.toNat ack.ranges

/-- The first extension of a type. -/
def Packet.firstExt (packet : Packet) (type : UInt8) : Option WireExt :=
  (wireExts packet.extensions packet.extensions.length).1.find? fun ext => ext.type == type

/-- The checks an ACK packet passes before its extensions are looked at. -/
def ackReaches (packet : Packet) (peer : PeerState) : Bool :=
  packet.packetType == XGL_PACKET_TYPE_ACK &&
    (packet.sessionId == 0 || packet.sessionId == peer.sessionId) &&
    !(packet.flags &&& XGL_WIRE_FLAG_HAS_EXTENSIONS == 0 || packet.extensions.isEmpty)

/-- What the bits of a SACK start from. -/
def sackStart (env : TransportEnv) (ctx : TransportCtx) (peer : PeerState) : SackState where
  queue := peer.reliableQueue
  windows := (peer.txWindow, ctx.window)
  io := (xglTimeMs env ctx.io).2

/-- The packet marks nothing unsent: an ACK_RANGE that covers a queued number covers no
unsent one, and no bit that a SACK reaches names a queued number that is unsent. -/
structure NamesSent (env : TransportEnv) (ctx : TransportCtx) (peer : PeerState)
    (packet : Packet) : Prop where
  range : ∀ ext ack, packet.firstExt XGL_WIRE_EXT_ACK_RANGE = some ext →
    xglWireDecodeAckRangeExtValue ext.value 64 = .ok ack →
    (∃ n ∈ ack.numbers,
      (xglReliableFindPacketNumber peer.reliableQueue n packet.sourceId).isSome = true) →
    ∀ n ∈ ack.numbers, ¬ Unsent peer.txWindow n
  sack : packet.firstExt XGL_WIRE_EXT_ACK_RANGE = none →
    (wireExts packet.extensions packet.extensions.length).2 = .notFound →
    ∀ ext sack, packet.firstExt XGL_WIRE_EXT_SACK = some ext →
    xglWireDecodeSackExtValue ext.value 64 = .ok sack →
    ∀ i ∈ sackIndices sack.bitmap, transportSackBitIsSet sack.bitmap i = true →
    sackReaches env ctx.config packet.sourceId sack.basePacket (xglTimeMs env ctx.io).1 sack.bitmap
      (sackStart env ctx peer) (List.range i) →
    (xglReliableFindPacketNumber peer.reliableQueue (sack.basePacket + UInt32.ofNat i)
      packet.sourceId).isSome = true →
    ¬ Unsent peer.txWindow (sack.basePacket + UInt32.ofNat i)

/-- The part of an ACK packet that is acted on. -/
inductive AckBody where
  | nothing
  | range (ack : AckRangeExt)
  | sack (value : Bytes)

/-- The first ACK_RANGE decides, when it decodes; without one the first SACK does,
when the extensions are well formed. -/
def Packet.ackBody (packet : Packet) : AckBody :=
  match packet.firstExt XGL_WIRE_EXT_ACK_RANGE with
  | some ext =>
    match xglWireDecodeAckRangeExtValue ext.value 64 with
    | .error _ => .nothing
    | .ok ack => .range ack
  | none =>
    if (wireExts packet.extensions packet.extensions.length).2 = .notFound then
      match packet.firstExt XGL_WIRE_EXT_SACK with
      | some ext => .sack ext.value
      | none => .nothing
    else .nothing

/-- A failed decoding has a code. -/
theorem xglWireDecodeAckRangeExtValue_ne_ok {value : Bytes} {capacity : Nat} {err : XglError}
    (h : xglWireDecodeAckRangeExtValue value capacity = .error err) : err ≠ .ok := by
  unfold xglWireDecodeAckRangeExtValue at h
  rintro rfl
  split at h
  · cases h
  · dsimp only at h
    split at h
    · cases h
    · split at h <;> cases h

/-- What the extensions of an ACK packet do to context and peer. -/
theorem transportApplyAck_eq (env : TransportEnv) (ctx : TransportCtx) (peer : PeerState)
    (packet : Packet) :
    ((transportApplyAck env ctx peer packet).ctx, (transportApplyAck env ctx peer packet).peer)
      = match packet.ackBody with
        | .nothing => (ctx, peer)
        | .range ack =>
          ((transportProcessAckRange ctx peer packet.sourceId ack).ctx,
            (transportProcessAckRange ctx peer packet.sourceId ack).peer)
        | .sack value => (transportProcessSackValue env ctx peer packet.sourceId value).2 := by
  unfold transportApplyAck
  dsimp only
  cases hrange : packet.firstExt XGL_WIRE_EXT_ACK_RANGE with
  -- the first ACK_RANGE is acted on or refused, and no SACK is looked at
  | some ext =>
    cases hdecode : xglWireDecodeAckRangeExtValue ext.value 64 with
    | error err =>
      have htry : transportTryProcessAckRangeExt ctx peer packet.sourceId packet.extensions
          = { error := err, handled := false, ctx := ctx, peer := peer } := by
        unfold transportTryProcessAckRangeExt
        dsimp only
        rw [show List.find? _ _ = some ext from hrange]
        dsimp only
        rw [hdecode]
      have hbody : packet.ackBody = .nothing := by simp [Packet.ackBody, hrange, hdecode]
      rw [htry, hbody, if_pos (by simpa using xglWireDecodeAckRangeExtValue_ne_ok hdecode)]
    | ok ack =>
      have hdone : ((transportProcessAckRange ctx peer packet.sourceId ack).error != .ok ||
          (transportProcessAckRange ctx peer packet.sourceId ack).handled) = true := by
        unfold transportProcessAckRange
        dsimp only
        split <;> rfl
      have htry : transportTryProcessAckRangeExt ctx peer packet.sourceId packet.extensions
          = transportProcessAckRange ctx peer packet.sourceId ack := by
        unfold transportTryProcessAckRangeExt
        dsimp only
        rw [show List.find? _ _ = some ext from hrange]
        dsimp only
        rw [hdecode]
      have hbody : packet.ackBody = .range ack := by simp [Packet.ackBody, hrange, hdecode]
      rw [htry, hbody, if_pos hdone]
  -- without one the extensions have to be well formed to their end
  | none =>
    have htry : transportTryProcessAckRangeExt ctx peer packet.sourceId packet.extensions
        = { error := if (wireExts packet.extensions packet.extensions.length).2 == .notFound
              then .ok else (wireExts packet.extensions packet.extensions.length).2
            handled := false
            ctx := ctx
            peer := peer } := by
      unfold transportTryProcessAckRangeExt
      dsimp only
      rw [show List.find? _ _ = none from hrange]
    rw [htry]
    dsimp only
    by_cases hend : (wireExts packet.extensions packet.extensions.length).2 = .notFound
    · have herror : (if (wireExts packet.extensions packet.extensions.length).2 == .notFound
          then XglError.ok else (wireExts packet.extensions packet.extensions.length).2) = .ok :=
        if_pos (by rw [hend]; rfl)
      rw [herror, if_neg (by simp)]
      cases hsack : packet.firstExt XGL_WIRE_EXT_SACK with
      | none =>
        have htry : transportTryProcessSackExt env ctx peer packet.sourceId packet.extensions
            = { error := .ok, handled := false, ctx := ctx, peer := peer } := by
          unfold transportTryProcessSackExt
          dsimp only
          rw [show List.find? _ _ = none from hsack, herror]
        have hbody : packet.ackBody = .nothing := by simp [Packet.ackBody, hrange, hsack]
        rw [htry, hbody, if_neg (by simp)]
      | some ext =>
        have htry : transportTryProcessSackExt env ctx peer packet.sourceId packet.extensions
            = { error := (transportProcessSackValue env ctx peer packet.sourceId ext.value).1
                handled :=
                  (transportProcessSackValue env ctx peer packet.sourceId ext.value).1 == .ok
                ctx := (transportProcessSackValue env ctx peer packet.sourceId ext.value).2.1
                peer :=
                  (transportProcessSackValue env ctx peer packet.sourceId ext.value).2.2 } := by
          unfold transportTryProcessSackExt
          dsimp only
          rw [show List.find? _ _ = some ext from hsack]
        have hdone : ((transportProcessSackValue env ctx peer packet.sourceId ext.value).1 != .ok ||
            (transportProcessSackValue env ctx peer packet.sourceId ext.value).1 == .ok)
              = true := by
          cases (transportProcessSackValue env ctx peer packet.sourceId ext.value).1 <;> rfl
        have hbody : packet.ackBody = .sack ext.value := by
          simp [Packet.ackBody, hrange, hend, hsack]
        rw [htry, hbody, if_pos hdone]
    -- they are not, and the packet does nothing
    · have hne : (wireExts packet.extensions packet.extensions.length).2 ≠ .ok :=
        wireExts_end_ne_ok _ _
      have herror : (if (wireExts packet.extensions packet.extensions.length).2 == .notFound
          then XglError.ok else (wireExts packet.extensions packet.extensions.length).2)
            = (wireExts packet.extensions packet.extensions.length).2 :=
        if_neg (by simpa using hend)
      have hbody : packet.ackBody = .nothing := by simp [Packet.ackBody, hrange, hend]
      rw [herror, if_pos (by simpa using hne), hbody]

/-- The part of an ACK packet that is an ACK_RANGE. -/
theorem Packet.ackBody_range_iff {packet : Packet} {ack : AckRangeExt} :
    packet.ackBody = .range ack ↔ ∃ ext, packet.firstExt XGL_WIRE_EXT_ACK_RANGE = some ext ∧
      xglWireDecodeAckRangeExtValue ext.value 64 = .ok ack := by
  unfold Packet.ackBody
  cases hfirst : packet.firstExt XGL_WIRE_EXT_ACK_RANGE with
  | some ext => cases hdecode : xglWireDecodeAckRangeExtValue ext.value 64 <;> simp [hdecode]
  | none =>
    simp only [reduceCtorEq, false_and, exists_false, iff_false]
    split
    · split <;> simp
    · simp

/-- The part of an ACK packet that is a SACK. -/
theorem Packet.ackBody_sack_iff {packet : Packet} {value : Bytes} :
    packet.ackBody = .sack value ↔ packet.firstExt XGL_WIRE_EXT_ACK_RANGE = none ∧
      (wireExts packet.extensions packet.extensions.length).2 = .notFound ∧
      ∃ ext, packet.firstExt XGL_WIRE_EXT_SACK = some ext ∧ ext.value = value := by
  unfold Packet.ackBody
  cases hfirst : packet.firstExt XGL_WIRE_EXT_ACK_RANGE with
  | some ext => cases hdecode : xglWireDecodeAckRangeExtValue ext.value 64 <;> simp [hdecode]
  | none =>
    by_cases hend : (wireExts packet.extensions packet.extensions.length).2 = .notFound
    · dsimp only
      rw [if_pos hend]
      cases packet.firstExt XGL_WIRE_EXT_SACK <;> simp [hend]
    · simp [hend]

section Apply

variable {env : TransportEnv} {ctx : TransportCtx} {peer : PeerState} {packet : Packet}

/-- Marking in both windows marks in the window of the peer. -/
theorem foldl_markAcked_fst (numbers : List UInt32) (windows : SlidingWindow × SlidingWindow) :
    (numbers.foldl markAcked windows).1 = markAll windows.1 numbers := by
  induction numbers generalizing windows with
  | nil => rfl
  | cons n rest ih => exact ih (markAcked windows n)

/-- An ACK_RANGE keeps the window sound exactly when it marks nothing unsent. -/
theorem transportProcessAckRange_sound_iff (hsound : WindowSound peer.txWindow)
    (ack : AckRangeExt) (sourceId : UInt16) :
    WindowSound (transportProcessAckRange ctx peer sourceId ack).peer.txWindow ↔
      ((∃ n ∈ ack.numbers,
          (xglReliableFindPacketNumber peer.reliableQueue n sourceId).isSome = true) →
        ∀ n ∈ ack.numbers, ¬ Unsent peer.txWindow n) := by
  have hcount := (reliableRemoveNumbers_count sourceId ack.numbers (0, peer.reliableQueue)).2
  unfold transportProcessAckRange
  dsimp only
  by_cases hzero : (xglReliableRemoveAckRanges peer.reliableQueue sourceId ack.largestAck
      ack.ranges).1 = 0
  · rw [if_pos (by simpa using hzero)]
    refine ⟨fun _ hsome => ?_, fun _ => hsound⟩
    have hpos := hcount.mpr hsome
    unfold AckRangeExt.numbers at hpos
    unfold xglReliableRemoveAckRanges at hzero
    dsimp only at hpos
    omega
  · have hsome := hcount.mp (by
      unfold xglReliableRemoveAckRanges at hzero
      exact Nat.pos_of_ne_zero hzero)
    rw [if_neg (by simpa using hzero)]
    unfold transportMarkAckRangeWindows advanceBases transportUpdatePeerDeadline
    dsimp only
    rw [foldl_markAcked_fst, xglWindowAdvanceBasePacketNumber_sound_iff
      ((markAll_mark _ _).shape hsound.toWindowShape), markAll_sound_iff hsound]
    exact ⟨fun h _ => h, fun h => h hsome⟩

/-- The bits before one of the loop's are all the lower ones. -/
theorem range_split {m i : Nat} {before after : List Nat}
    (h : List.range m = before ++ i :: after) : before = List.range i ∧ i < m := by
  have hlen : before.length < m := by
    have := congrArg List.length h
    rw [List.length_range, List.length_append, List.length_cons] at this
    omega
  have hi : i = before.length := by
    have hget := congrArg (fun l => l[before.length]?) h
    simp only [List.getElem?_range hlen, List.getElem?_append_right (le_refl _), Nat.sub_self,
      List.getElem?_cons_zero, Option.some.injEq] at hget
    exact hget.symm
  refine ⟨?_, by omega⟩
  have htake := congrArg (List.take before.length) h
  rw [List.take_left, List.take_range, Nat.min_eq_left (by omega)] at htake
  rw [← htake, hi]

/-- The bits before one, the bit, and the bits behind it are all of them. -/
theorem range_append_drop {m i : Nat} (hi : i < m) :
    List.range i ++ i :: (List.range m).drop (i + 1) = List.range m := by
  have hsplit := List.take_append_drop i (List.range m)
  rw [List.take_range, Nat.min_eq_left (by omega), List.drop_eq_getElem_cons (by simpa using hi),
    List.getElem_range] at hsplit
  exact hsplit

/-- The numbers of a SACK's bits are distinct. -/
theorem sack_numbers_nodup (basePacket : UInt32) {m : Nat} (hm : m ≤ 512) :
    ((List.range m).map fun i => basePacket + UInt32.ofNat i).Nodup := by
  refine List.Nodup.map_on (fun i hi j hj heq => ?_) List.nodup_range
  rw [List.mem_range] at hi hj
  have hnat := congrArg UInt32.toNat ((UInt32.add_right_inj basePacket).mp heq)
  rw [UInt32.toNat_ofNat', UInt32.toNat_ofNat', Nat.mod_eq_of_lt (by omega),
    Nat.mod_eq_of_lt (by omega)] at hnat
  exact hnat

/-- A decoded bitmap has at most 512 bits. -/
theorem xglWireDecodeSackExtValue_length {value : Bytes} {sack : SackExt}
    (h : xglWireDecodeSackExtValue value 64 = .ok sack) : sack.bitmap.length ≤ 64 := by
  unfold xglWireDecodeSackExtValue at h
  split at h
  · cases h
  · dsimp only at h
    split at h
    · cases h
    · split at h
      · cases h
      · rename_i hcapacity
        cases h
        rw [length_readBytes]
        omega

/-- The peer after the bits of a SACK. -/
def sackFinish (ctx : TransportCtx) (peer : PeerState)
    (looped : XglError × SackState) : PeerState :=
  match looped.1 with
  | .ok =>
    transportUpdatePeerDeadline
      ({ looped.2 with windows := advanceBases looped.2.windows }.finish ctx peer).2
  | _ => (looped.2.finish ctx peer).2

/-- It is what `transport_process_sack_value` leaves when a bit is set. -/
theorem transportProcessSackValue_bits {sourceId : UInt16} {value : Bytes} {sack : SackExt}
    (hdecode : xglWireDecodeSackExtValue value 64 = .ok sack) (hlen : sack.bitmap.length ≠ 0)
    (hindices : sackIndices sack.bitmap ≠ []) :
    (transportProcessSackValue env ctx peer sourceId value).2.2
      = sackFinish ctx peer (sackLoop env ctx.config sourceId sack.basePacket
          (xglTimeMs env ctx.io).1 sack.bitmap (sackIndices sack.bitmap)
          (sackStart env ctx peer)) := by
  unfold transportProcessSackValue sackFinish sackStart
  rw [hdecode]
  dsimp only
  rw [if_neg (by simpa using hlen), if_neg (by simpa using hindices)]
  generalize sackLoop env ctx.config sourceId sack.basePacket (xglTimeMs env ctx.io).1 sack.bitmap
    (sackIndices sack.bitmap) _ = looped
  obtain ⟨err, state⟩ := looped
  cases err <;> rfl

/-- Finishing a SACK leaves the queue as the bits left it. -/
theorem sackFinish_queue (looped : XglError × SackState) :
    (sackFinish ctx peer looped).reliableQueue = looped.2.queue := by
  unfold sackFinish
  split <;> rfl

/-- A SACK keeps the window sound exactly when no bit it reaches names a queued number
that is unsent. -/
theorem transportProcessSackValue_sound_iff (hsound : WindowSound peer.txWindow)
    (sourceId : UInt16) (value : Bytes) :
    WindowSound (transportProcessSackValue env ctx peer sourceId value).2.2.txWindow ↔
      ∀ sack, xglWireDecodeSackExtValue value 64 = .ok sack →
        ∀ i ∈ sackIndices sack.bitmap, transportSackBitIsSet sack.bitmap i = true →
        sackReaches env ctx.config sourceId sack.basePacket (xglTimeMs env ctx.io).1 sack.bitmap
          (sackStart env ctx peer) (List.range i) →
        (xglReliableFindPacketNumber peer.reliableQueue (sack.basePacket + UInt32.ofNat i)
          sourceId).isSome = true →
        ¬ Unsent peer.txWindow (sack.basePacket + UInt32.ofNat i) := by
  cases hdecode : xglWireDecodeSackExtValue value 64 with
  | error err =>
    unfold transportProcessSackValue
    rw [hdecode]
    exact ⟨fun _ sack h => (by cases h), fun _ => hsound⟩
  -- nothing is marked without a bitmap, or without a set bit
  | ok sack =>
    have hbits := xglWireDecodeSackExtValue_length hdecode
    simp only [Except.ok.injEq, forall_eq']
    by_cases hzero : sack.bitmap.length = 0
    · unfold transportProcessSackValue
      rw [hdecode]
      dsimp only
      rw [if_pos (by simpa using hzero)]
      refine ⟨fun _ i hi => ?_, fun _ => hsound⟩
      have := lt_of_mem_sackIndices hi
      omega
    by_cases hempty : sackIndices sack.bitmap = []
    · unfold transportProcessSackValue
      rw [hdecode]
      dsimp only
      rw [if_neg (by simpa using hzero), if_pos (by rw [hempty]; rfl)]
      refine ⟨fun _ i hi => absurd hi (by rw [hempty]; exact List.not_mem_nil), fun _ => ?_⟩
      split
      · exact hsound
      · unfold SackState.finish
        dsimp only
        rw [(sackRetransmit_spec env ctx.config sourceId _ _ _).2.2]
        exact hsound
    rw [transportProcessSackValue_bits hdecode hzero hempty]
    -- the bits are the first `m`, for some `m`
    obtain ⟨m, hm⟩ : ∃ m, sackIndices sack.bitmap = List.range m := ⟨_, rfl⟩
    have hm512 : m ≤ 512 := by
      rcases Nat.eq_zero_or_pos m with rfl | hpos
      · omega
      · have := lt_of_mem_sackIndices (hm ▸ List.mem_range.mpr (Nat.sub_one_lt_of_lt hpos))
        omega
    rw [hm]
    obtain ⟨marks, hwindow, hmarks⟩ := sackLoop_marks env ctx.config sourceId sack.basePacket
      (xglTimeMs env ctx.io).1 sack.bitmap (List.range m) (sack_numbers_nodup _ hm512)
      (sackStart env ctx peer)
    -- with or without the advance, the window is sound when the marks are of sent numbers
    have hfinal : ∀ {looped : XglError × SackState},
        looped.2.windows.1 = markAll peer.txWindow marks →
        (WindowSound (sackFinish ctx peer looped).txWindow ↔
          WindowSound (markAll peer.txWindow marks)) := by
      intro looped hlooped
      have hshape := (markAll_mark peer.txWindow marks).shape hsound.toWindowShape
      unfold sackFinish
      split
      · unfold transportUpdatePeerDeadline SackState.finish advanceBases
        dsimp only
        rw [hlooped]
        exact xglWindowAdvanceBasePacketNumber_sound_iff hshape
      · unfold SackState.finish
        dsimp only
        rw [hlooped]
    refine (hfinal hwindow).trans ((markAll_sound_iff hsound marks).trans ?_)
    -- what is marked is what was reached, set and queued
    constructor
    · intro hsent i hi hset hreach hqueued
      rw [List.mem_range] at hi
      refine hsent _ ((hmarks _).mpr ⟨List.range i, i, (List.range m).drop (i + 1), ?_, hreach,
          hset,
        rfl, hqueued⟩)
      exact (range_append_drop hi).symm
    · intro hsent n hn
      obtain ⟨before, i, after, hsplit, hreach, hset, rfl, hqueued⟩ := (hmarks n).mp hn
      obtain ⟨rfl, hi⟩ := range_split hsplit
      exact hsent i (List.mem_range.mpr hi) hset hreach hqueued

/-- The extensions of an ACK packet keep the window sound exactly when they mark nothing
unsent. -/
theorem transportApplyAck_sound_iff (hsound : WindowSound peer.txWindow) :
    WindowSound (transportApplyAck env ctx peer packet).peer.txWindow ↔
      NamesSent env ctx peer packet := by
  have happly := congrArg Prod.snd (transportApplyAck_eq env ctx peer packet)
  dsimp only at happly
  rw [happly]
  constructor
  · intro hafter
    refine ⟨fun ext ack hfirst hdecode => ?_, fun hnone hend ext sack hsome hdecode => ?_⟩
    · rw [Packet.ackBody_range_iff.mpr ⟨ext, hfirst, hdecode⟩] at hafter
      exact (transportProcessAckRange_sound_iff hsound ack packet.sourceId).mp hafter
    · rw [Packet.ackBody_sack_iff.mpr ⟨hnone, hend, ext, hsome, rfl⟩] at hafter
      exact (transportProcessSackValue_sound_iff hsound packet.sourceId ext.value).mp hafter sack
        hdecode
  · intro hnames
    cases hbody : packet.ackBody with
    | nothing => exact hsound
    | range ack =>
      obtain ⟨ext, hfirst, hdecode⟩ := Packet.ackBody_range_iff.mp hbody
      exact (transportProcessAckRange_sound_iff hsound ack packet.sourceId).mpr
        (hnames.range ext ack hfirst hdecode)
    | sack value =>
      obtain ⟨hnone, hend, ext, hsome, rfl⟩ := Packet.ackBody_sack_iff.mp hbody
      exact (transportProcessSackValue_sound_iff hsound packet.sourceId ext.value).mpr
        fun sack hdecode => hnames.sack hnone hend ext sack hsome hdecode

end Apply

/-- A write-back keeps a property of all peers when the peer written has it, and the
peer written has to have it. -/
theorem forall_mem_putPeer_iff {P : PeerState → Prop} {peers : List PeerState}
    {peer old : PeerState}
    (hold : peerOf peers peer.key = some old) (hall : ∀ other ∈ peers, P other) :
    (∀ other ∈ putPeer peer peers, P other) ↔ P peer := by
  constructor
  · intro hput
    have hfound := peerOf_putPeer peers peer peer.key
    rw [if_pos rfl, hold] at hfound
    exact hput peer (peerOf_mem hfound)
  · intro hpeer other hmem
    rcases mem_putPeer hmem with rfl | hmem
    · exact hpeer
    · exact hall other hmem

/-- An ACK packet is applied to the peer it selects, when it passes the checks. -/
theorem transportProcessAckPacket_eq (env : TransportEnv) (ctx : TransportCtx) (packet : Packet) :
    (transportProcessAckPacket env ctx packet).2
      = (transportFindAckPeer ctx.peers packet).elim ctx fun peer =>
          if ackReaches packet peer then
            (transportApplyAck env ctx peer packet).ctx.put
              (transportApplyAck env ctx peer packet).peer
          else ctx := by
  unfold transportProcessAckPacket
  cases hfind : transportFindAckPeer ctx.peers packet with
  | none => split <;> rfl
  | some peer =>
    dsimp only [Option.elim]
    -- each check the source makes is one of `ackReaches`
    split
    · rename_i htype
      rw [if_neg]
      unfold ackReaches
      simp [show packet.packetType ≠ XGL_PACKET_TYPE_ACK by simpa using htype]
    rename_i htype
    split
    · rename_i hsession
      rw [if_neg]
      unfold ackReaches
      simp only [Bool.and_eq_true, bne_iff_ne] at hsession
      simp [hsession]
    rename_i hsession
    split
    · rename_i hexts
      rw [if_neg]
      unfold ackReaches
      rw [hexts]
      simp
    rename_i hexts
    rw [if_pos]
    unfold ackReaches
    rw [Bool.eq_false_of_not_eq_true hexts]
    simp only [Bool.not_false, Bool.and_true, Bool.and_eq_true, beq_iff_eq, Bool.or_eq_true]
    refine ⟨by simpa using htype, ?_⟩
    simp only [Bool.and_eq_true, bne_iff_ne, not_and, not_not] at hsession
    exact or_iff_not_imp_left.mpr hsession

/-- It changes that peer and no other. -/
theorem transportProcessAckPacket_peers (env : TransportEnv) (ctx : TransportCtx)
    (packet : Packet) :
    (transportProcessAckPacket env ctx packet).2.peers
      = (transportFindAckPeer ctx.peers packet).elim ctx.peers fun peer =>
          if ackReaches packet peer then
            putPeer (transportApplyAck env ctx peer packet).peer ctx.peers
          else ctx.peers := by
  rw [transportProcessAckPacket_eq]
  cases transportFindAckPeer ctx.peers packet with
  | none => rfl
  | some peer =>
    obtain ⟨_, _, hctx⟩ := (transportApplyAck_spec env ctx peer packet).ctxFrame
    have hpeers : (transportApplyAck env ctx peer packet).ctx.peers = ctx.peers := by rw [hctx]
    dsimp only [Option.elim]
    split
    · unfold TransportCtx.put
      dsimp only
      rw [hpeers]
    · rfl

/-- Applying an ACK keeps the key of the peer. -/
theorem transportApplyAck_key (env : TransportEnv) (ctx : TransportCtx) (peer : PeerState)
    (packet : Packet) : (transportApplyAck env ctx peer packet).peer.key = peer.key := by
  obtain ⟨_, _, _, hframe⟩ := (transportApplyAck_spec env ctx peer packet).peerFrame
  rw [hframe]
  rfl

/-- An ACK packet keeps every window sound exactly when, in case it reaches a peer, it
marks nothing unsent there. -/
theorem ack_keeps_windows_iff (env : TransportEnv) (ctx : TransportCtx) (packet : Packet)
    (hsound : ∀ peer ∈ ctx.peers, WindowSound peer.txWindow) :
    (∀ peer ∈ (transportProcessAckPacket env ctx packet).2.peers, WindowSound peer.txWindow) ↔
      ∀ peer, transportFindAckPeer ctx.peers packet = some peer →
        ackReaches packet peer = true → NamesSent env ctx peer packet := by
  rw [transportProcessAckPacket_peers]
  cases hfind : transportFindAckPeer ctx.peers packet with
  | none => exact ⟨fun _ peer h => (by cases h), fun _ => hsound⟩
  | some peer =>
    dsimp only [Option.elim]
    have hentry := peerOf_of_transportFindAckPeer hfind
    have hpeer := hsound peer (peerOf_mem hentry)
    by_cases hreach : ackReaches packet peer = true
    · rw [if_pos hreach,
        forall_mem_putPeer_iff (by rw [transportApplyAck_key]; exact hentry) hsound,
        transportApplyAck_sound_iff hpeer]
      constructor
      · intro hnames other hother _
        cases hother
        exact hnames
      · exact fun h => h peer rfl hreach
    · rw [if_neg hreach]
      refine ⟨fun _ other hother hother_reach => ?_, fun _ => hsound⟩
      cases hother
      exact absurd hother_reach hreach

/-- Node 1 with one packet on its way to node 2. -/
def oneInFlight : TransportCtx :=
  runActions calmEnv [.send sampleTx] senderTransport

/-- An ACK of node 2 that covers the numbers from `largest` down. -/
def rangeAck (largest : UInt32) (length : UInt16) : Packet :=
  { sampleAck with
    extensions := XGL_WIRE_EXT_ACK_RANGE :: 13 ::
      (xglSerializeU32Le largest ++ xglSerializeU32Le 0 ++ [1] ++ xglSerializeU16Le 0 ++
        xglSerializeU16Le length) }

/-- Its windows. -/
theorem oneInFlight_windows :
    oneInFlight.peers.map PeerState.txWindow
      = [{ windowSize := 8, nextPacketNumber := 1, ackReceived := List.replicate 8 false }] := by
  decide +kernel

theorem oneInFlight_sound : ∀ peer ∈ oneInFlight.peers, WindowSound peer.txWindow := by
  intro peer hmem
  have hwindow := List.mem_map_of_mem (f := PeerState.txWindow) hmem
  rw [oneInFlight_windows, List.mem_singleton] at hwindow
  rw [hwindow]
  refine ⟨⟨by decide, by decide, rfl⟩, fun i _ hflag => ?_⟩
  unfold SlidingWindow.Flag at hflag
  have hfalse := List.eq_of_mem_replicate (List.mem_of_getElem? hflag)
  cases hfalse

/-- An ACK of the packet and of the number behind it moves the base past the next
number. -/
theorem ack_corrupts_window :
    (∀ peer ∈ oneInFlight.peers, WindowSound peer.txWindow) ∧
      (transportProcessAckPacket calmEnv oneInFlight (rangeAck 1 2)).1 = .ok ∧
      ¬ ∀ peer ∈ (transportProcessAckPacket calmEnv oneInFlight (rangeAck 1 2)).2.peers,
        WindowSound peer.txWindow := by
  refine ⟨oneInFlight_sound, by decide +kernel, fun hsound => ?_⟩
  have hwindows : (transportProcessAckPacket calmEnv oneInFlight (rangeAck 1 2)).2.peers.map
      PeerState.txWindow = [
        { windowSize := 8
          sendBasePacketNumber := 2
          nextPacketNumber := 1
          ackReceived := List.replicate 8 false }] := by decide +kernel
  obtain ⟨peer, hmem, hwindow⟩ := List.mem_map.mp (by rw [hwindows]; exact List.mem_cons_self)
  have hbase := (hsound peer hmem).base_le
  rw [hwindow] at hbase
  exact absurd hbase (by decide)

/-- An ACK of the first number names what was sent, once something was. -/
theorem rangeAck_namesSent {env : TransportEnv} {ctx : TransportCtx} {peer : PeerState}
    (hnext : peer.txWindow.nextPacketNumber = 1) : NamesSent env ctx peer (rangeAck 0 1) := by
  have hext : (rangeAck 0 1).firstExt XGL_WIRE_EXT_ACK_RANGE
      = some { type := XGL_WIRE_EXT_ACK_RANGE, value := (rangeAck 0 1).extensions.drop 2 } := by
    decide +kernel
  constructor
  · intro ext ack hfirst hdecode _ n hn
    rw [hext] at hfirst
    cases hfirst
    have hack : ack = { largestAck := 0, ackDelayUs := 0, ranges := [{ gap := 0, length := 1 }] } :=
      Except.ok.inj (hdecode.symm.trans (by decide +kernel))
    have hnumbers : ack.numbers = [0] := by
      rw [hack]
      decide +kernel
    rw [hnumbers, List.mem_singleton] at hn
    subst hn
    rintro ⟨_, hunsent⟩
    rw [hnext] at hunsent
    exact absurd hunsent (by decide)
  · intro hnone
    rw [hext] at hnone
    cases hnone

/-- An ACK of the packet alone keeps the window sound. -/
theorem ack_keeps_windows_single :
    (transportProcessAckPacket calmEnv oneInFlight (rangeAck 0 1)).1 = .ok ∧
      ∀ peer ∈ (transportProcessAckPacket calmEnv oneInFlight (rangeAck 0 1)).2.peers,
        WindowSound peer.txWindow := by
  refine ⟨by decide +kernel, (ack_keeps_windows_iff calmEnv oneInFlight (rangeAck 0 1)
    oneInFlight_sound).mpr fun peer hfind _ => ?_⟩
  have hwindow := List.mem_map_of_mem (f := PeerState.txWindow)
    (peerOf_mem (peerOf_of_transportFindAckPeer hfind))
  rw [oneInFlight_windows, List.mem_singleton] at hwindow
  exact rangeAck_namesSent (by rw [hwindow])

end XgenLink
