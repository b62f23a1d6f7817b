import XgenLink.Proofs.AckWindows
import XgenLink.Proofs.FragmentSteps
import XgenLink.Proofs.InOrderDelivery

/-!
# `XgenLink.Proofs.IdlePackets`: packets that leave the peer they select as it is

Not every packet that reaches a peer changes it. An acknowledgement may name nothing that is
queued, and a data packet may be a duplicate. Whether it does can depend on the world outside: an
allocation that fails keeps a packet out of the cache, a lower layer that fails keeps a packet
from being sent again. The packets of this module change nothing of the peer whatever allocator,
clock and lower layer do, and every other packet changes it in some environment.

Two packets need care. A SACK walks the numbers it names in order: a set bit takes a packet off
the queue, a clear bit sends one again, and a send that fails ends the walk. So a SACK can be idle
because it names nothing that is queued, or because the first queued number it names is clear and
cannot be sent again. A data packet with the next number moves the peer on when it is delivered,
and stays without effect when it is a fragment that reassembly takes in no environment.

* `SackIdle`, `sackLoop_idle_iff`, `transportProcessSackValue_idle_iff`: the bits of a SACK.
* `AckIdle`, `transportApplyAck_idle_iff`: the extensions of an ACK packet.
* `ReassemblyRefuses`, `Undeliverable`, `transportDeliverPacket_fails_iff`: packets that cannot be
  delivered.
* `OrderIdle`, `rxReliable_idle_iff`: the ordering of a reliable data packet.
-/

set_option autoImplicit false

namespace XgenLink

/-! ### Queues that an acknowledgement leaves alone -/

/-- A number that is queued takes one packet off. -/
theorem length_reliableUnlink {queue : ReliableQueue} {n : UInt32} {targetId : UInt16}
    {packet : ReliablePacket} (h : xglReliableFindPacketNumber queue n targetId = some packet) :
    (reliableUnlink n targetId queue.waitAckList).length + 1 = queue.waitAckList.length := by
  have hmem : packet ∈ queue.waitAckList.reverse := List.mem_of_find?_eq_some h
  have hpos : 0 < queue.waitAckList.length := by
    rw [← List.length_reverse]
    exact List.length_pos_of_mem hmem
  have hlen := List.length_eraseP_of_mem hmem (List.find?_some h)
  unfold reliableUnlink
  rw [List.length_reverse, hlen, List.length_reverse]
  omega

/-- Removing numbers takes off as many packets as it counts. -/
theorem reliableRemoveNumbers_length (targetId : UInt16) (numbers : List UInt32)
    (acc : Nat × ReliableQueue) :
    (reliableRemoveNumbers targetId numbers acc).1
        + (reliableRemoveNumbers targetId numbers acc).2.waitAckList.length
      = acc.1 + acc.2.waitAckList.length := by
  induction numbers generalizing acc with
  | nil => rfl
  | cons n rest ih =>
    obtain ⟨removed, queue⟩ := acc
    unfold reliableRemoveNumbers xglReliableRemovePacketNumber
    dsimp only
    rw [ih]
    dsimp only
    cases hfind : xglReliableFindPacketNumber queue n targetId with
    | none => rw [reliableUnlink_of_find_none hfind, Option.isSome_none, if_neg (by simp)]
    | some packet =>
      have hlen := length_reliableUnlink hfind
      rw [Option.isSome_some, if_pos rfl]
      omega

/-- Updating the first packet that passes a test by what it is changes nothing. -/
theorem updateFirst_eq_self_iff {test : ReliablePacket → Bool} {packet : ReliablePacket}
    {update : ReliablePacket → ReliablePacket} {packets : List ReliablePacket}
    (h : packets.find? test = some packet) :
    updateFirst test update packets = packets ↔ update packet = packet := by
  induction packets with
  | nil => cases h
  | cons first rest ih =>
    unfold updateFirst
    rw [List.find?_cons] at h
    cases htest : test first with
    | true =>
      rw [htest] at h
      cases h
      simp
    | false =>
      rw [htest] at h
      simpa using ih h

/-- Writing through a lookup shows exactly when the packet has changed. -/
theorem reliableUpdate_eq_self_iff {queue : ReliableQueue} {n : UInt32} {targetId : UInt16}
    {packet : ReliablePacket} (h : xglReliableFindPacketNumber queue n targetId = some packet)
    (update : ReliablePacket → ReliablePacket) :
    reliableUpdate queue n targetId update = queue ↔ update packet = packet := by
  rw [← updateFirst_eq_self_iff h]
  unfold reliableUpdate
  obtain ⟨packets, maxRetryCount⟩ := queue
  simp [List.reverse_eq_iff]

/-! ### The bits of a SACK -/

section Sack

variable (env : TransportEnv) (config : TransportConfig) (sourceId : UInt16)
  (basePacket now : UInt32) (bitmap : Bytes)

/-- Whether the number of a bit is queued. -/
def sackQueued (queue : ReliableQueue) (sourceId : UInt16) (basePacket : UInt32) (i : Nat) : Bool :=
  (xglReliableFindPacketNumber queue (basePacket + UInt32.ofNat i) sourceId).isSome

/-- A bit whose number is not queued does nothing. -/
theorem sackBitStep_absent {state : SackState} {i : Nat}
    (h : sackQueued state.queue sourceId basePacket i = false) :
    sackBitStep env config sourceId basePacket now bitmap state i = (.ok, state) := by
  unfold sackQueued at h
  rw [Option.isSome_eq_false_iff, Option.isNone_iff_eq_none] at h
  unfold sackBitStep sackRetransmit
  dsimp only
  rw [h]
  split <;> rfl

/-- Bits whose numbers are not queued do nothing. -/
theorem sackLoop_absent (state : SackState) (before after : List Nat)
    (h : ∀ i ∈ before, sackQueued state.queue sourceId basePacket i = false) :
    sackLoop env config sourceId basePacket now bitmap (before ++ after) state
      = sackLoop env config sourceId basePacket now bitmap after state := by
  induction before with
  | nil => rfl
  | cons i rest ih =>
    rw [List.cons_append, sackLoop,
      sackBitStep_absent env config sourceId basePacket now bitmap (h i List.mem_cons_self)]
    exact ih fun j hj => h j (List.mem_cons_of_mem _ hj)

/-- The bits never lengthen the queue. -/
theorem sackLoop_length_le (indices : List Nat) (state : SackState) :
    (sackLoop env config sourceId basePacket now bitmap indices state).2.queue.waitAckList.length
      ≤ state.queue.waitAckList.length := by
  have hsub := (sackLoop_spec env config sourceId basePacket now bitmap indices state).queue.sub
  simpa [contents] using hsub.length_le

/-- A set bit whose number is queued shortens the queue. -/
theorem sackBitStep_set (state : SackState) {i : Nat}
    (hset : transportSackBitIsSet bitmap i = true)
    (hqueued : sackQueued state.queue sourceId basePacket i = true) :
    (sackBitStep env config sourceId basePacket now bitmap state i).1 = .ok ∧
      (sackBitStep env config sourceId basePacket now bitmap state i).2.queue.waitAckList.length
        < state.queue.waitAckList.length := by
  obtain ⟨packet, hfind⟩ := Option.isSome_iff_exists.mp hqueued
  have hlen := length_reliableUnlink hfind
  unfold sackBitStep
  dsimp only
  rw [if_pos hset, hfind]
  refine ⟨rfl, ?_⟩
  unfold xglReliableRemovePacketNumber
  dsimp only
  omega

/-- A clear bit whose number is queued retransmits the packet. -/
theorem sackBitStep_clear {state : SackState} {i : Nat} {missing : ReliablePacket}
    (hclear : transportSackBitIsSet bitmap i = false)
    (hfind : xglReliableFindPacketNumber state.queue (basePacket + UInt32.ofNat i) sourceId
      = some missing) :
    sackBitStep env config sourceId basePacket now bitmap state i
      = ((transportRetransmitReliablePacket env config state.io missing now).1,
          { state with
            queue := reliableUpdate state.queue (basePacket + UInt32.ofNat i) sourceId fun _ =>
              (transportRetransmitReliablePacket env config state.io missing now).2.2
            io := (transportRetransmitReliablePacket env config state.io missing now).2.1 }) := by
  unfold sackBitStep sackRetransmit
  dsimp only
  rw [if_neg (by simp [hclear]), hfind]

/-- A retransmission that fails leaves the packet as it is, and one that succeeds
counts. -/
theorem transportRetransmitReliablePacket_eq_self_iff (io : TransportIo)
    (packet : ReliablePacket) :
    (transportRetransmitReliablePacket env config io packet now).2.2 = packet ↔
      (transportRetransmitReliablePacket env config io packet now).1 ≠ .ok := by
  unfold transportRetransmitReliablePacket
  dsimp only
  split
  · refine ⟨fun h => ?_, fun h => absurd rfl h⟩
    have hretry := congrArg ReliablePacket.retryCount h
    unfold markRetransmitted at hretry
    dsimp only at hretry
    exact absurd (congrArg UInt8.toNat hretry) (by rw [UInt8.toNat_add]; simp; omega)
  · rename_i hne
    simpa using hne

/-- A retransmission fails with the send. -/
theorem transportRetransmitReliablePacket_error {io : TransportIo} (packet : ReliablePacket)
    (h : config.lowerLayer = false ∨
      env.layerSend io.sendCount (retransmitPacket packet) ≠ .ok) :
    (transportRetransmitReliablePacket env config io packet now).1 ≠ .ok := by
  have hsend : (transportLowerSend env config io (retransmitPacket packet)).1 ≠ .ok := by
    unfold transportLowerSend xglLayerSend
    split
    · rename_i hlower
      exact h.resolve_left (by simp [hlower])
    · simp
  unfold transportRetransmitReliablePacket
  dsimp only
  split
  · rename_i hok
    exact absurd hok hsend
  · exact hsend

/-- A clear bit whose packet cannot be retransmitted ends the loop with the queue and
the windows as they are. -/
theorem sackLoop_clear_error (state : SackState) {i : Nat} {missing : ReliablePacket}
    (hclear : transportSackBitIsSet bitmap i = false)
    (hfind : xglReliableFindPacketNumber state.queue (basePacket + UInt32.ofNat i) sourceId
      = some missing)
    (herr : (transportRetransmitReliablePacket env config state.io missing now).1 ≠ .ok)
    (rest : List Nat) :
    (sackLoop env config sourceId basePacket now bitmap (i :: rest) state).1 ≠ .ok ∧
      (sackLoop env config sourceId basePacket now bitmap (i :: rest) state).2.queue
        = state.queue ∧
      (sackLoop env config sourceId basePacket now bitmap (i :: rest) state).2.windows
        = state.windows := by
  have hqueue := (reliableUpdate_eq_self_iff hfind fun _ =>
    (transportRetransmitReliablePacket env config state.io missing now).2.2).mpr
      ((transportRetransmitReliablePacket_eq_self_iff env config now state.io missing).mpr herr)
  rw [sackLoop, sackBitStep_clear env config sourceId basePacket now bitmap hclear hfind, hqueue]
  generalize transportRetransmitReliablePacket env config state.io missing now = sent at herr
  obtain ⟨err, io, packet⟩ := sent
  cases err with
  | ok => exact absurd rfl herr
  | _ => exact ⟨by simp, rfl, rfl⟩

/-- When the next send fails, the bits leave the queue as it is or shorten it. -/
theorem sackLoop_send_fails (indices : List Nat) (state : SackState)
    (hfail : ∀ packet, env.layerSend state.io.sendCount packet ≠ .ok) :
    (sackLoop env config sourceId basePacket now bitmap indices state).2.queue = state.queue ∨
      (sackLoop env config sourceId basePacket now bitmap indices
        state).2.queue.waitAckList.length < state.queue.waitAckList.length := by
  induction indices generalizing state with
  | nil => exact .inl rfl
  | cons i rest ih =>
    cases hqueued : sackQueued state.queue sourceId basePacket i with
    | false =>
      rw [sackLoop, sackBitStep_absent env config sourceId basePacket now bitmap hqueued]
      exact ih state hfail
    | true =>
      cases hset : transportSackBitIsSet bitmap i with
      | true =>
        obtain ⟨hok, hlen⟩ :=
          sackBitStep_set env config sourceId basePacket now bitmap state hset hqueued
        rw [sackLoop]
        generalize sackBitStep env config sourceId basePacket now bitmap state i = stepped
          at hok hlen
        obtain ⟨err, next⟩ := stepped
        cases hok
        exact .inr (Nat.lt_of_le_of_lt (sackLoop_length_le env config sourceId basePacket now
          bitmap rest next) hlen)
      | false =>
        obtain ⟨missing, hfind⟩ := Option.isSome_iff_exists.mp hqueued
        exact .inl (sackLoop_clear_error env config sourceId basePacket now bitmap state hset hfind
          (transportRetransmitReliablePacket_error env config now missing (.inr (hfail _)))
          rest).2.1

end Sack

/-- The first bit whose number is queued. -/
def sackFirstQueued (queue : ReliableQueue) (sourceId : UInt16) (sack : SackExt) : Option Nat :=
  (sackIndices sack.bitmap).find? (sackQueued queue sourceId sack.basePacket)

/-- A SACK has nothing to say to a peer: no number it visits is queued and the window
and the deadline are up to date, or the first it visits is missing at the receiver
and cannot be sent again. -/
def SackIdle (config : TransportConfig) (peer : PeerState) (sourceId : UInt16) (sack : SackExt) :
    Prop :=
  if (sackIndices sack.bitmap).isEmpty then
    sackQueued peer.reliableQueue sourceId sack.basePacket 0 = true → config.lowerLayer = false
  else
    match sackFirstQueued peer.reliableQueue sourceId sack with
    | none =>
      transportUpdatePeerDeadline
        { peer with txWindow := xglWindowAdvanceBasePacketNumber peer.txWindow } = peer
    | some i => transportSackBitIsSet sack.bitmap i = false ∧ config.lowerLayer = false

/-- An environment whose sends succeed up to a call and fail behind it. -/
def sendsUpTo (limit : Nat) : TransportEnv where
  allocOk := fun _ => true
  clock := fun _ => 0
  layerSend := fun k _ => if k ≤ limit then .ok else .busy

/-- The first send succeeds, and with it a retransmission. -/
theorem transportRetransmitReliablePacket_sendsUpTo {config : TransportConfig} {io : TransportIo}
    (hlower : config.lowerLayer = true) (packet : ReliablePacket) (now : UInt32) :
    (transportRetransmitReliablePacket (sendsUpTo io.sendCount) config io packet now).1 = .ok ∧
      (transportRetransmitReliablePacket (sendsUpTo io.sendCount) config io packet
        now).2.1.sendCount = io.sendCount + 1 := by
  have hsend : (transportLowerSend (sendsUpTo io.sendCount) config io (retransmitPacket packet)).1
      = .ok ∧ (transportLowerSend (sendsUpTo io.sendCount) config io
        (retransmitPacket packet)).2.sendCount = io.sendCount + 1 := by
    unfold transportLowerSend xglLayerSend sendsUpTo
    rw [if_pos hlower]
    exact ⟨if_pos (le_refl _), rfl⟩
  unfold transportRetransmitReliablePacket
  dsimp only
  rw [hsend.1]
  exact ⟨rfl, hsend.2⟩

/-- When the lower layer takes the first packet, a clear bit whose number is queued
shows in the queue. -/
theorem sackLoop_clear_changes {config : TransportConfig} {sourceId : UInt16}
    {basePacket : UInt32} {bitmap : Bytes} (now : UInt32) {state : SackState} {i : Nat}
    (hlower : config.lowerLayer = true) (hclear : transportSackBitIsSet bitmap i = false)
    (hqueued : sackQueued state.queue sourceId basePacket i = true) (rest : List Nat) :
    (sackLoop (sendsUpTo state.io.sendCount) config sourceId basePacket now bitmap (i :: rest)
      state).2.queue ≠ state.queue := by
  obtain ⟨missing, hfind⟩ := Option.isSome_iff_exists.mp hqueued
  obtain ⟨hok, hcount⟩ := transportRetransmitReliablePacket_sendsUpTo hlower
    missing now
  have hstep := sackBitStep_clear (sendsUpTo state.io.sendCount) config sourceId basePacket now
    bitmap hclear hfind
  have hchanged : reliableUpdate state.queue (basePacket + UInt32.ofNat i) sourceId (fun _ =>
      (transportRetransmitReliablePacket (sendsUpTo state.io.sendCount) config state.io missing
        now).2.2) ≠ state.queue := by
    rw [ne_eq, reliableUpdate_eq_self_iff hfind, transportRetransmitReliablePacket_eq_self_iff]
    exact not_not.mpr hok
  have hlength : (reliableUpdate state.queue (basePacket + UInt32.ofNat i) sourceId fun _ =>
      (transportRetransmitReliablePacket (sendsUpTo state.io.sendCount) config state.io missing
        now).2.2).waitAckList.length = state.queue.waitAckList.length := by
    have hcontent : ∀ packet, xglReliableFindPacketNumber state.queue
        (basePacket + UInt32.ofNat i) sourceId = some packet →
        (transportRetransmitReliablePacket (sendsUpTo state.io.sendCount) config state.io missing
          now).2.2.content = packet.content := by
      intro packet hpacket
      rw [hfind] at hpacket
      cases hpacket
      exact transportRetransmitReliablePacket_content _ _ _ _ _
    simpa [contents] using congrArg List.length (reliableUpdate_contents hcontent)
  rw [sackLoop, hstep, hok]
  dsimp only
  generalize hnext : SackState.mk _ _ _ = next
  have hqueue := congrArg SackState.queue hnext
  dsimp only at hqueue
  have hfail : ∀ packet, (sendsUpTo state.io.sendCount).layerSend next.io.sendCount packet
      ≠ .ok := by
    intro packet
    have : next.io.sendCount = state.io.sendCount + 1 := hnext ▸ hcount
    simp [sendsUpTo, this]
  rcases sackLoop_send_fails (sendsUpTo state.io.sendCount) config sourceId basePacket now bitmap
    rest next hfail with hsame | hshorter
  · rw [hsame, ← hqueue]
    exact hchanged
  · intro heq
    rw [heq, ← hqueue, hlength] at hshorter
    exact absurd hshorter (lt_irrefl _)

section Idle

variable {ctx : TransportCtx} {peer : PeerState}

/-- A SACK without a bit asks for the base packet. -/
theorem sackRetransmit_idle_iff {sourceId : UInt16} {basePacket : UInt32}
    {missing : ReliablePacket}
    (hfind : xglReliableFindPacketNumber peer.reliableQueue basePacket sourceId = some missing) :
    (∀ env, ((sackRetransmit env ctx.config sourceId basePacket (xglTimeMs env ctx.io).1
        (sackStart env ctx peer)).2.finish ctx peer).2 = peer) ↔
      ctx.config.lowerLayer = false := by
  have hafter : ∀ env, ((sackRetransmit env ctx.config sourceId basePacket
      (xglTimeMs env ctx.io).1 (sackStart env ctx peer)).2.finish ctx peer).2 = peer ↔
        (transportRetransmitReliablePacket env ctx.config (xglTimeMs env ctx.io).2 missing
          (xglTimeMs env ctx.io).1).1 ≠ .ok := by
    intro env
    rw [← transportRetransmitReliablePacket_eq_self_iff,
      ← reliableUpdate_eq_self_iff hfind fun _ => (transportRetransmitReliablePacket env
        ctx.config (xglTimeMs env ctx.io).2 missing (xglTimeMs env ctx.io).1).2.2]
    unfold sackRetransmit sackStart SackState.finish
    dsimp only
    rw [hfind]
    refine ⟨fun h => congrArg PeerState.reliableQueue h, fun h => ?_⟩
    dsimp only
    rw [h]
  constructor
  · intro h
    by_contra hlower
    rw [Bool.not_eq_false] at hlower
    exact (hafter _).mp (h (sendsUpTo ctx.io.sendCount))
      (transportRetransmitReliablePacket_sendsUpTo hlower _ _).1
  · intro hlower env
    exact (hafter env).mpr (transportRetransmitReliablePacket_error _ _ _ _ (.inl hlower))

/-- The loop leaves the peer as it is when no number is queued and nothing is left to
advance, or when it stops at the first queued number. -/
theorem sackLoop_idle_iff {sourceId : UInt16} {sack : SackExt} :
    (∀ env, sackFinish ctx peer (sackLoop env ctx.config sourceId sack.basePacket
        (xglTimeMs env ctx.io).1 sack.bitmap (sackIndices sack.bitmap)
        (sackStart env ctx peer)) = peer) ↔
      match sackFirstQueued peer.reliableQueue sourceId sack with
      | none =>
        transportUpdatePeerDeadline
          { peer with txWindow := xglWindowAdvanceBasePacketNumber peer.txWindow } = peer
      | some i => transportSackBitIsSet sack.bitmap i = false ∧ ctx.config.lowerLayer = false := by
  -- the first number of the SACK that is queued, if there is one
  cases hfirst : sackFirstQueued peer.reliableQueue sourceId sack with
  | none =>
    have habsent : ∀ env, sackLoop env ctx.config sourceId sack.basePacket
        (xglTimeMs env ctx.io).1 sack.bitmap (sackIndices sack.bitmap) (sackStart env ctx peer)
          = (.ok, sackStart env ctx peer) := by
      intro env
      have h := sackLoop_absent env ctx.config sourceId sack.basePacket (xglTimeMs env ctx.io).1
        sack.bitmap (sackStart env ctx peer) (sackIndices sack.bitmap) [] fun i hi =>
          Bool.eq_false_of_not_eq_true (List.find?_eq_none.mp hfirst i hi)
      rwa [List.append_nil] at h
    simp only [habsent]
    exact ⟨fun h => h calmEnv, fun h _ => h⟩
  | some i =>
    obtain ⟨hqueued, before, after, hsplit, habsent⟩ := List.find?_eq_some_iff_append.mp hfirst
    have hskip : ∀ env, sackLoop env ctx.config sourceId sack.basePacket
        (xglTimeMs env ctx.io).1 sack.bitmap (sackIndices sack.bitmap) (sackStart env ctx peer)
          = sackLoop env ctx.config sourceId sack.basePacket (xglTimeMs env ctx.io).1 sack.bitmap
            (i :: after) (sackStart env ctx peer) := by
      intro env
      rw [hsplit]
      exact sackLoop_absent env ctx.config sourceId sack.basePacket _ sack.bitmap _ before _
        fun j hj => (by simpa using habsent j hj :
          sackQueued peer.reliableQueue sourceId sack.basePacket j = false)
    simp only [hskip]
    -- its bit is set, and the packet leaves the queue, or clear
    cases hset : transportSackBitIsSet sack.bitmap i with
    | true =>
      -- the packet is taken off whatever the outside does
      refine ⟨fun h => ?_, fun h => absurd h.1 (by simp)⟩
      have hqueue := congrArg PeerState.reliableQueue (h calmEnv)
      rw [sackFinish_queue] at hqueue
      obtain ⟨hok, hlen⟩ := sackBitStep_set calmEnv ctx.config sourceId sack.basePacket
        (xglTimeMs calmEnv ctx.io).1 sack.bitmap (sackStart calmEnv ctx peer) hset hqueued
      rw [sackLoop] at hqueue
      generalize sackBitStep calmEnv ctx.config sourceId sack.basePacket
        (xglTimeMs calmEnv ctx.io).1 sack.bitmap (sackStart calmEnv ctx peer) i = stepped
          at hok hlen hqueue
      obtain ⟨err, next⟩ := stepped
      cases hok
      have hle := sackLoop_length_le calmEnv ctx.config sourceId sack.basePacket
        (xglTimeMs calmEnv ctx.io).1 sack.bitmap after next
      dsimp only at hqueue
      rw [hqueue] at hle
      exact absurd hle (Nat.not_le_of_lt hlen)
    | false =>
      refine ⟨fun h => ⟨rfl, ?_⟩, fun h env => ?_⟩
      · by_contra hlower
        rw [Bool.not_eq_false] at hlower
        have hqueue := congrArg PeerState.reliableQueue (h (sendsUpTo ctx.io.sendCount))
        rw [sackFinish_queue] at hqueue
        exact sackLoop_clear_changes _ hlower hset hqueued after
          hqueue
      · obtain ⟨missing, hfind⟩ := Option.isSome_iff_exists.mp hqueued
        obtain ⟨herr, hqueue, hwindows⟩ := sackLoop_clear_error env ctx.config sourceId
          sack.basePacket (xglTimeMs env ctx.io).1 sack.bitmap (sackStart env ctx peer)
          hset hfind (transportRetransmitReliablePacket_error _ _ _ _ (.inl h.2)) after
        unfold sackFinish
        split
        · rename_i hok
          exact absurd hok herr
        · unfold SackState.finish
          rw [hqueue, hwindows]
          rfl

/-- The bits of a SACK leave a peer as it is, whatever the outside does, exactly when
they have nothing to say to it. -/
theorem transportProcessSackValue_idle_iff {sourceId : UInt16} {value : Bytes} :
    (∀ env, (transportProcessSackValue env ctx peer sourceId value).2.2 = peer) ↔
      ∀ sack, xglWireDecodeSackExtValue value 64 = .ok sack → sack.bitmap ≠ [] →
        SackIdle ctx.config peer sourceId sack := by
  cases hdecode : xglWireDecodeSackExtValue value 64 with
  | error err =>
    unfold transportProcessSackValue
    rw [hdecode]
    exact ⟨fun _ sack h => (by cases h), fun _ _ => rfl⟩
  | ok sack =>
    simp only [Except.ok.injEq, forall_eq']
    by_cases hzero : sack.bitmap = []
    · refine ⟨fun _ hne => absurd hzero hne, fun _ env => ?_⟩
      unfold transportProcessSackValue
      rw [hdecode]
      dsimp only
      rw [if_pos (by simp [hzero])]
    rw [forall_prop_of_true hzero]
    unfold SackIdle
    by_cases hempty : sackIndices sack.bitmap = []
    · rw [if_pos (by rw [hempty]; rfl)]
      unfold transportProcessSackValue sackQueued
      rw [hdecode, show UInt32.ofNat 0 = 0 from rfl, UInt32.add_zero]
      simp only [hempty, List.isEmpty_nil, if_true, List.length_eq_zero_iff, hzero, beq_iff_eq,
        if_false]
      cases hfind : xglReliableFindPacketNumber peer.reliableQueue sack.basePacket sourceId with
      | none => simp
      | some missing =>
        rw [Option.isSome_some, forall_prop_of_true rfl]
        exact sackRetransmit_idle_iff hfind
    · rw [if_neg (by simpa using hempty), ← sackLoop_idle_iff]
      refine forall_congr' fun env => ?_
      rw [transportProcessSackValue_bits hdecode (by simpa using hzero) hempty]

/-- An ACK_RANGE leaves a peer as it is exactly when it covers nothing queued. -/
theorem transportProcessAckRange_idle_iff {sourceId : UInt16} {ack : AckRangeExt} :
    (transportProcessAckRange ctx peer sourceId ack).peer = peer ↔
      ∀ n ∈ ack.numbers, xglReliableFindPacketNumber peer.reliableQueue n sourceId = none := by
  unfold transportProcessAckRange xglReliableRemoveAckRanges AckRangeExt.numbers
  constructor
  · intro hpeer n hn
    have hqueue := congrArg (fun p => p.reliableQueue.waitAckList.length) hpeer
    have hlen := reliableRemoveNumbers_length sourceId
      (ackRangeNumbers true ack.largestAck.toNat ack.ranges) (0, peer.reliableQueue)
    obtain ⟨hmono, hcount⟩ := reliableRemoveNumbers_count sourceId
      (ackRangeNumbers true ack.largestAck.toNat ack.ranges) (0, peer.reliableQueue)
    by_contra hfind
    have hpos := hcount.mpr ⟨n, hn, Option.isSome_iff_ne_none.mpr hfind⟩
    dsimp only at hqueue hlen hpos
    rw [if_neg (by rw [beq_iff_eq]; omega)] at hqueue
    simp only [transportUpdatePeerDeadline] at hqueue
    omega
  · intro habsent
    dsimp only
    rw [reliableRemoveNumbers_absent 0 habsent]
    rfl

end Idle

/-- An ACK packet has nothing to say to a peer: its ACK_RANGE covers nothing queued, or
its SACK is idle. -/
structure AckIdle (config : TransportConfig) (peer : PeerState) (packet : Packet) : Prop where
  range : ∀ ack, packet.ackBody = .range ack →
    ∀ n ∈ ack.numbers, xglReliableFindPacketNumber peer.reliableQueue n packet.sourceId = none
  sack : ∀ value sack, packet.ackBody = .sack value →
    xglWireDecodeSackExtValue value 64 = .ok sack → sack.bitmap ≠ [] →
    SackIdle config peer packet.sourceId sack

/-- The extensions of an ACK packet leave a peer as it is, whatever the outside does,
exactly when they have nothing to say to it. -/
theorem transportApplyAck_idle_iff {ctx : TransportCtx} {peer : PeerState} {packet : Packet} :
    (∀ env, (transportApplyAck env ctx peer packet).peer = peer) ↔
      AckIdle ctx.config peer packet := by
  have hafter : ∀ env, (transportApplyAck env ctx peer packet).peer = _ :=
    fun env => congrArg Prod.snd (transportApplyAck_eq env ctx peer packet)
  cases hbody : packet.ackBody with
  | nothing =>
    rw [hbody] at hafter
    refine ⟨fun _ => ⟨fun ack h => ?_, fun value sack h => ?_⟩, fun _ => hafter⟩
    · rw [hbody] at h
      cases h
    · rw [hbody] at h
      cases h
  | range ack =>
    rw [hbody] at hafter
    constructor
    · intro h
      have hidle := transportProcessAckRange_idle_iff.mp ((hafter calmEnv).symm.trans (h calmEnv))
      refine ⟨fun other hother => ?_, fun value sack hother => ?_⟩
      · rw [hbody] at hother
        cases hother
        exact hidle
      · rw [hbody] at hother
        cases hother
    · intro hidle env
      rw [hafter env]
      exact transportProcessAckRange_idle_iff.mpr (hidle.range ack hbody)
  | sack value =>
    rw [hbody] at hafter
    constructor
    · intro h
      have hidle := transportProcessSackValue_idle_iff.mp fun env =>
        (hafter env).symm.trans (h env)
      refine ⟨fun ack hother => ?_, fun other sack hother => ?_⟩
      · rw [hbody] at hother
        cases hother
      · rw [hbody] at hother
        cases hother
        exact hidle sack
    · intro hidle env
      rw [hafter env]
      exact transportProcessSackValue_idle_iff.mpr (fun sack => hidle.sack value sack hbody) env

/-! ### Packets that cannot be delivered -/

/-- A message has no range left for the bytes from `start` to `stop`: they overlap no range, they
meet neither the end of the range in front of them nor the start of the one behind them, and all
ranges are in use. -/
structure RangesFull (ranges : List ReceivedRange) (start stop : Nat) : Prop where
  full : XGL_FRAGMENT_MAX_RECEIVED_RANGES ≤ ranges.length
  apart : ∀ range ∈ ranges, fragmentRangeOverlaps start stop range = false
  front : ∀ last ∈ (ranges.takeWhile fun range => range.start < start).getLast?, last.stop ≠ start
  behind : ∀ next ∈ (ranges.dropWhile fun range => range.start < start).head?, next.start ≠ stop

/-- No buffer can be created for a message of this length: all buffers are in use, the message is
too long, or its bytes exceed the budget. -/
def BuffersFull (manager : FragmentManager) (messageLen : Nat) : Prop :=
  manager.maxReassemblyBuffers ≤ manager.reassemblyList.length ∨
    (manager.maxMessageSize ≠ 0 ∧ manager.maxMessageSize < messageLen) ∨
    (manager.maxReassemblyBytes ≠ 0 ∧
      manager.maxReassemblyBytes < manager.currentReassemblyBytes + messageLen)

/-- Reassembly refuses a fragment of `len` bytes: it is empty or goes past the end of its message,
the buffer of the message is of another type or size or has no range left for it, or the message
has no buffer and gets none. -/
def ReassemblyRefuses (manager : FragmentManager) (key : MessageKey) (dataType : UInt8)
    (ext : FragmentExt) (len : Nat) : Prop :=
  len = 0 ∨ ext.messageLen.toNat < ext.fragmentOffset.toNat + len ∨
    (fragmentFindReassemblyBuffer manager key).elim (BuffersFull manager ext.messageLen.toNat)
      fun buffer => buffer.dataType ≠ dataType ∨ buffer.bufferSize ≠ ext.messageLen.toNat ∨
        RangesFull buffer.receivedRanges ext.fragmentOffset.toNat
          (ext.fragmentOffset.toNat + len)

/-- A packet cannot be delivered: it is a fragment whose FRAGMENT_EXT is missing or invalid, or one
that reassembly refuses. -/
def Undeliverable (manager : Option FragmentManager) (packet : Packet) (data : Bytes) : Prop :=
  packet.fragment ≠ 0 ∧ ∃ reassembly, manager = some reassembly ∧
    ∀ ext, deliveredFragmentExt packet.extensions = .ok ext →
      ReassemblyRefuses reassembly (fragmentKey packet ext) packet.dataType ext data.length

/-- The two codes with which a fragment counts as delivered: its message is complete, or it waits
for others. -/
def FragmentResult.Taken (result : FragmentResult) : Prop :=
  result.error = .ok ∨ result.error = .busy

section Undeliverable

variable {env : TransportEnv} {io : TransportIo} {manager : FragmentManager} {key : MessageKey}

/-- A range finds no place exactly when it joins none and there are too many. -/
theorem fragmentPlaceRange_error_iff {before after : List ReceivedRange} {start stop : Nat} :
    fragmentPlaceRange before after start stop = .error .noMemory ↔
      XGL_FRAGMENT_MAX_RECEIVED_RANGES ≤ before.length + after.length ∧
        (∀ last ∈ before.getLast?, last.stop ≠ start) ∧
        ∀ next ∈ after.head?, next.start ≠ stop := by
  unfold fragmentPlaceRange
  cases hlast : before.getLast? with
  | none =>
    rw [List.getLast?_eq_none_iff] at hlast
    subst hlast
    cases after with
    | nil => simp [XGL_FRAGMENT_MAX_RECEIVED_RANGES]
    | cons next rest =>
      dsimp only
      split
      · simp_all
      split
      · simp_all
      · simp_all
  | some last =>
    cases after with
    | nil =>
      dsimp only
      split
      · simp_all
      split
      · simp_all
      · simp_all
    | cons next rest =>
      dsimp only
      split
      · split <;> simp_all
      split
      · simp_all
      split
      · simp_all
      · simp_all

/-- A range is taken, or overlaps what has been received, unless there is no place for it. -/
theorem fragmentInsertReceivedRange_cases_full {ranges : List ReceivedRange} {start stop : Nat}
    (hlt : start < stop) :
    (fragmentInsertReceivedRange ranges start stop = .error .noMemory ∧
        RangesFull ranges start stop) ∨
      ((fragmentInsertReceivedRange ranges start stop = .error .busy ∨
          ∃ out, fragmentInsertReceivedRange ranges start stop = .ok out) ∧
        ¬ RangesFull ranges start stop) := by
  unfold fragmentInsertReceivedRange
  rw [if_neg (by omega)]
  split
  · rename_i hany
    obtain ⟨range, hmem, hoverlap⟩ := List.any_eq_true.mp hany
    refine .inr ⟨.inl rfl, fun hfull => ?_⟩
    rw [hfull.apart range hmem] at hoverlap
    cases hoverlap
  · rename_i hnone
    have hapart : ∀ range ∈ ranges, fragmentRangeOverlaps start stop range = false :=
      fun range hmem => Bool.not_eq_true _ ▸ fun hoverlap =>
        hnone (List.any_eq_true.mpr ⟨range, hmem, hoverlap⟩)
    have hsplit : (ranges.takeWhile fun range => range.start < start).length
        + (ranges.dropWhile fun range => range.start < start).length = ranges.length := by
      rw [← List.length_append, List.takeWhile_append_dropWhile]
    have hplace := @fragmentPlaceRange_error_iff
      (ranges.takeWhile fun range => range.start < start)
      (ranges.dropWhile fun range => range.start < start) start stop
    rw [hsplit] at hplace
    cases hresult : fragmentPlaceRange (ranges.takeWhile fun range => range.start < start)
        (ranges.dropWhile fun range => range.start < start) start stop with
    | ok out =>
      refine .inr ⟨.inr ⟨out, rfl⟩, fun hfull => ?_⟩
      rw [hplace.mpr ⟨hfull.full, hfull.front, hfull.behind⟩] at hresult
      cases hresult
    | error err =>
      obtain rfl := fragmentPlaceRange_error hresult
      obtain ⟨hfull, hfront, hbehind⟩ := hplace.mp hresult
      exact .inl ⟨rfl, hfull, hapart, hfront, hbehind⟩

/-- Storing a fragment that is not empty fails exactly for the reasons that `ReassemblyRefuses`
gives. -/
theorem fragmentStore_taken_iff {buffer : ReassemblyBuffer} {dataType : UInt8}
    {offset messageLen : UInt32} {payload : Bytes} (hpos : 0 < payload.length) (now : UInt32) :
    (fragmentStore env io manager buffer dataType offset messageLen payload now).1.Taken ↔
      ¬ (buffer.dataType ≠ dataType ∨ buffer.bufferSize ≠ messageLen.toNat ∨
        RangesFull buffer.receivedRanges offset.toNat (offset.toNat + payload.length)) := by
  unfold fragmentStore FragmentResult.Taken
  by_cases hother : buffer.dataType ≠ dataType ∨ buffer.bufferSize ≠ messageLen.toNat
  · rw [if_pos (by simpa using hother)]
    exact iff_of_false (by simp) fun h => h (hother.imp_right .inl)
  rw [if_neg (by simpa using hother)]
  obtain ⟨htype, hsize⟩ := not_or.mp hother
  dsimp only
  rcases @fragmentInsertReceivedRange_cases_full buffer.receivedRanges offset.toNat
      (offset.toNat + payload.length) (by omega) with
    ⟨hinsert, hfull⟩ | ⟨hinsert, hroom⟩
  · rw [hinsert]
    exact iff_of_false (by simp) fun h => h (.inr (.inr hfull))
  · refine iff_of_true ?_ (by simp only [htype, hsize, hroom, or_self, not_false_eq_true])
    rcases hinsert with hbusy | ⟨out, hok⟩
    · rw [hbusy]
      exact .inr rfl
    · rw [hok]
      dsimp only
      split
      · exact .inl rfl
      · exact .inr rfl

/-- No buffer is created when there is no room for one. -/
theorem fragmentCreateReassemblyBuffer_full {messageLen : UInt32}
    (hfull : BuffersFull manager messageLen.toNat) (dataType : UInt8) :
    ∃ err, err ≠ .ok ∧ err ≠ .busy ∧
      fragmentCreateReassemblyBuffer env io manager key dataType messageLen
        = (.error err, manager, io) := by
  unfold fragmentCreateReassemblyBuffer
  split
  · exact ⟨.noMemory, by decide, by decide, rfl⟩
  split
  · exact ⟨.bufferTooSmall, by decide, by decide, rfl⟩
  rename_i hslots hsize
  rw [if_pos]
  · exact ⟨.noMemory, by decide, by decide, rfl⟩
  simp only [Bool.and_eq_true, bne_iff_ne, ne_eq, decide_eq_true_eq, not_and, Bool.or_eq_true,
    gt_iff_lt, not_lt] at hslots hsize ⊢
  rcases hfull with hcount | ⟨hlimited, hlong⟩ | ⟨hlimited, hover⟩
  · exact absurd hcount hslots
  · have := hsize hlimited
    omega
  · exact ⟨hlimited, by omega⟩

/-- With room, an allocator that serves everything creates an empty buffer. -/
theorem fragmentCreateReassemblyBuffer_calm {messageLen : UInt32} (hlen : messageLen.toNat ≠ 0)
    (hroom : ¬ BuffersFull manager messageLen.toNat) (dataType : UInt8) :
    ∃ manager' io', fragmentCreateReassemblyBuffer calmEnv io manager key dataType messageLen
      = (.ok (freshBuffer manager key dataType messageLen), manager', io') := by
  obtain ⟨hslots, hroom⟩ := not_or.mp hroom
  obtain ⟨hsize, hbytes⟩ := not_or.mp hroom
  unfold fragmentCreateReassemblyBuffer
  rw [if_neg hslots, if_neg (by simpa using hsize), if_neg]
  · dsimp only
    have hmalloc : ∀ (io : TransportIo) (size : Nat), size ≠ 0 →
        (transportMalloc calmEnv io size).1 = true := by
      intro io size hne
      unfold transportMalloc
      rw [if_neg (by simpa using hne)]
      rfl
    rw [hmalloc io structSize (by decide), if_neg (by simp), hmalloc _ _ hlen, if_neg (by simp)]
    exact ⟨_, _, rfl⟩
  · simp only [Bool.and_eq_true, bne_iff_ne, ne_eq, Bool.or_eq_true, decide_eq_true_eq, gt_iff_lt]
    rintro ⟨hlimited, hover⟩
    exact hbytes ⟨hlimited, by omega⟩

/-- A fragment that reassembly refuses is taken in no environment, and every other one is where
allocations succeed. -/
theorem xglFragmentProcessExt_taken_iff {dataType : UInt8} {ext : FragmentExt} {payload : Bytes}
    (ios : TransportEnv → TransportIo) (now : UInt32) :
    (∀ env, ¬ (xglFragmentProcessExt env (ios env) manager key dataType ext.fragmentOffset
        ext.messageLen payload now).1.Taken) ↔
      ReassemblyRefuses manager key dataType ext payload.length := by
  unfold xglFragmentProcessExt ReassemblyRefuses
  -- the fragment is empty, or goes past the end of its message, or lies in it
  by_cases hempty : payload.length = 0
  · exact iff_of_true (fun env => by simp [hempty, FragmentResult.Taken]) (.inl hempty)
  by_cases hpast : ext.messageLen.toNat < ext.fragmentOffset.toNat + payload.length
  · refine iff_of_true (fun env => ?_) (.inr (.inl hpast))
    rw [if_neg (by simpa using hempty), if_pos]
    · simp [FragmentResult.Taken]
    · simp only [Bool.or_eq_true, beq_iff_eq, decide_eq_true_eq, gt_iff_lt, UInt32.lt_iff_toNat_lt,
        ← UInt32.toNat_inj, UInt32.toNat_zero]
      omega
  have hinside : ¬ (ext.messageLen == 0 || decide (ext.fragmentOffset > ext.messageLen) ||
      decide (payload.length > ext.messageLen.toNat - ext.fragmentOffset.toNat)) = true := by
    simp only [Bool.or_eq_true, beq_iff_eq, decide_eq_true_eq, gt_iff_lt, UInt32.lt_iff_toNat_lt,
      ← UInt32.toNat_inj, UInt32.toNat_zero]
    omega
  simp only [beq_iff_eq, hempty, if_false, hinside, Bool.false_eq_true, hpast, false_or]
  have hpos : 0 < payload.length := Nat.pos_of_ne_zero hempty
  -- its message has a buffer, or needs one
  cases fragmentFindReassemblyBuffer manager key with
  | some buffer =>
    dsimp only [Option.elim_some]
    simp only [fragmentStore_taken_iff hpos, not_not]
    exact ⟨fun h => h calmEnv, fun h _ => h⟩
  | none =>
    dsimp only [Option.elim_none]
    constructor
    · intro hrefused
      by_contra hroom
      obtain ⟨created, io', hcreate⟩ :=
        @fragmentCreateReassemblyBuffer_calm (ios calmEnv) manager key ext.messageLen (by omega)
          hroom dataType
      have hcalm := hrefused calmEnv
      rw [hcreate] at hcalm
      dsimp only at hcalm
      rw [fragmentStore_taken_iff hpos, not_not] at hcalm
      rcases hcalm with htype | hsize | hfull
      · exact htype rfl
      · exact hsize rfl
      · exact absurd (show XGL_FRAGMENT_MAX_RECEIVED_RANGES ≤ 0 from hfull.full) (by decide)
    · intro hfull env
      obtain ⟨err, hok, hbusy, hcreate⟩ :=
        @fragmentCreateReassemblyBuffer_full env (ios env) manager key ext.messageLen hfull dataType
      rw [hcreate]
      exact not_or.mpr ⟨hok, hbusy⟩

/-- A FRAGMENT_EXT that is not read comes with an error. -/
theorem deliveredFragmentExt_error {extensions : Bytes} {err : XglError}
    (h : deliveredFragmentExt extensions = .error err) : err ≠ .ok := by
  unfold deliveredFragmentExt at h
  split at h
  · cases h
    decide
  dsimp only at h
  split at h
  · unfold xglWireDecodeFragmentExtValue at h
    split at h <;> cases h
    decide
  · split at h
    · cases h
      decide
    · cases h
      exact wireExts_end_ne_ok extensions extensions.length

/-- A fragment is delivered when reassembly takes it. -/
theorem transportDeliverFragment_ok_iff {config : TransportConfig} {packet : Packet} {data : Bytes}
    {ext : FragmentExt} (hext : deliveredFragmentExt packet.extensions = .ok ext) :
    (transportDeliverFragment env config manager io packet data).1 = .ok ↔
      (xglFragmentProcessExt env io manager (fragmentKey packet ext) packet.dataType
        ext.fragmentOffset ext.messageLen data 0).1.Taken := by
  unfold transportDeliverFragment FragmentResult.Taken
  rw [hext]
  dsimp only
  generalize xglFragmentProcessExt env io manager (fragmentKey packet ext) packet.dataType
    ext.fragmentOffset ext.messageLen data 0 = processed
  cases hcode : processed.1.error <;> simp

/-- A packet is delivered in no environment exactly when it is undeliverable. -/
theorem transportDeliverPacket_fails_iff {config : TransportConfig}
    {manager : Option FragmentManager} {packet : Packet} {data : Bytes}
    (ios : TransportEnv → TransportIo) :
    (∀ env, (transportDeliverPacket env config manager (ios env) packet data).1 ≠ .ok) ↔
      Undeliverable manager packet data := by
  unfold transportDeliverPacket Undeliverable
  cases manager with
  | none => exact iff_of_false (fun h => h calmEnv rfl) fun ⟨_, _, hnone, _⟩ => nomatch hnone
  | some reassembly =>
    by_cases hwhole : packet.fragment = 0
    · exact iff_of_false (fun h => h calmEnv (by simp [hwhole])) fun h => h.1 hwhole
    simp only [bne_iff_ne, ne_eq, hwhole, not_false_eq_true, if_true, true_and, Option.some.injEq,
      exists_eq_left']
    cases hext : deliveredFragmentExt packet.extensions with
    | error err =>
      refine iff_of_true (fun env => ?_) fun ext h => ?_
      · unfold transportDeliverFragment
        rw [hext]
        exact deliveredFragmentExt_error hext
      · cases h
    | ok ext =>
      simp only [transportDeliverFragment_ok_iff hext, xglFragmentProcessExt_taken_iff,
        Except.ok.injEq, forall_eq']

end Undeliverable

/-! ### Packets that ordering leaves a peer alone for -/

/-- The checks of `transport_cache_out_of_order_packet` that come before its
allocations keep the packet out. -/
def cacheCloses (peer : PeerState) (packetNumber : UInt32) (data : Bytes) : Bool :=
  let window : UInt32 :=
    if peer.txWindow.windowSize == 0 then 1 else peer.txWindow.windowSize.toUInt32
  data.length == 0 || packetNumber - peer.rxNextPacketNumber ≥ window ||
    peer.rxBufferedCount.toUInt32 ≥ window ||
    (transportFindRxBuffered packetNumber peer.rxBuffered).isSome

/-- A reliable packet without a session changes nothing of a peer: it is a duplicate,
a later packet that the checks keep out of the cache, or the expected one and undeliverable. -/
def OrderIdle (ctx : TransportCtx) (peer : PeerState) (packet : Packet) (data : Bytes) : Prop :=
  peer.rxHasPacketNumberState = true ∧
    (packet.packetNumber < peer.rxNextPacketNumber ∨
      (peer.rxNextPacketNumber < packet.packetNumber ∧
        cacheCloses peer packet.packetNumber data = true) ∨
      (packet.packetNumber = peer.rxNextPacketNumber ∧
        Undeliverable ctx.fragmentMgr packet (transportDecodeData ctx.config packet data)))

/-- Caching leaves the peer as it is exactly when the checks keep the packet out. -/
theorem transportCacheOutOfOrderPacket_idle_iff {io : TransportIo} {peer : PeerState}
    {packet : Packet} {data : Bytes} (hdata : packet.payload? = some data) (n : UInt32) :
    (∀ env, (transportCacheOutOfOrderPacket env io peer packet n).2.2 = peer) ↔
      cacheCloses peer n data = true := by
  unfold transportCacheOutOfOrderPacket cacheCloses
  rw [hdata]
  dsimp only
  generalize (if peer.txWindow.windowSize == 0 then (1 : UInt32)
    else peer.txWindow.windowSize.toUInt32) = window
  by_cases hempty : data.length = 0
  · simp [hempty]
  by_cases hfar : n - peer.rxNextPacketNumber ≥ window
  · simp [hempty, hfar]
  by_cases hfull : peer.rxBufferedCount.toUInt32 ≥ window
  · simp [hempty, hfar, hfull]
  by_cases hfound : (transportFindRxBuffered n peer.rxBuffered).isSome = true
  · simp [hempty, hfar, hfull, hfound]
  simp only [hempty, hfar, hfull, hfound, beq_iff_eq, if_false, decide_false,
    Bool.false_eq_true, Bool.or_false, iff_false]
  -- an allocator that serves everything lets the packet in
  intro h
  have hbuffered := congrArg (fun p => p.rxBuffered.length) (h calmEnv)
  have halloc : (rxBufferedAlloc calmEnv io data packet.extensions).1 = true := by
    unfold rxBufferedAlloc transportMalloc calmEnv
    cases packet.extensions <;> simp [structSize, hempty]
  rw [if_neg (by simp [halloc])] at hbuffered
  have hinsert : ∀ (inserted : Packet) (buffered : List Packet),
      (transportInsertRxBuffered inserted buffered).length = buffered.length + 1 := by
    intro inserted buffered
    induction buffered with
    | nil => rfl
    | cons first rest ih =>
      unfold transportInsertRxBuffered
      split <;> simp [ih]
  simp [hinsert] at hbuffered

/-- Draining shortens the out-of-order list or does nothing. -/
theorem drainLoop_length (env : TransportEnv) (config : TransportConfig) (fuel : Nat)
    (manager : Option FragmentManager) (io : TransportIo) (peer : PeerState) :
    (drainLoop env config fuel manager io peer).2.2.2 = peer ∨
      (drainLoop env config fuel manager io peer).2.2.2.rxBuffered.length
        < peer.rxBuffered.length := by
  induction fuel generalizing manager io peer with
  | zero => exact .inl rfl
  | succ fuel ih =>
    unfold drainLoop
    split
    · exact .inl rfl
    · rename_i buffered after htake
      obtain ⟨hwalk, _⟩ := transportTakeRxBuffered_some htake
      have hlen := takeRxBuffered_length hwalk
      right
      dsimp only
      split
      · rcases ih _ _ { after with rxNextPacketNumber := buffered.packetNumber + 1 } with
          hsame | hshorter
        · rw [hsame]
          dsimp only
          omega
        · dsimp only at hshorter
          omega
      · dsimp only
        omega

section Order

variable {config : TransportConfig} {manager : Option FragmentManager} {io : TransportIo}
  {peer : PeerState} {packet : Packet} {data : Bytes}

/-- Ordering sets up the receive state. -/
theorem rxReliable_has (env : TransportEnv) :
    (rxReliable env config manager io peer packet data).2.2.2.rxHasPacketNumberState = true := by
  have hinit : (rxOrderInit peer).rxHasPacketNumberState = true := by
    unfold rxOrderInit
    split
    · assumption
    · rfl
  rcases packetNumber_trichotomy packet.packetNumber (rxOrderInit peer).rxNextPacketNumber with
    hlt | heq | hgt
  · rw [rxReliable_duplicate env config manager io data hlt]
    exact hinit
  · rw [rxReliable_expected env config manager io data heq]
    dsimp only
    split
    · unfold transportDrainRxBuffered
      rw [drainLoop_peer]
      exact hinit
    · exact hinit
  · obtain ⟨err, io', after, houtcome, _, heq⟩ :=
      rxReliable_later env config manager io data hgt
    rw [heq]
    cases houtcome <;> exact hinit

/-- A later packet leaves of the peer what caching leaves. -/
theorem rxReliable_later_peer (env : TransportEnv)
    (h : (rxOrderInit peer).rxNextPacketNumber < packet.packetNumber) :
    (rxReliable env config manager io peer packet data).2.2.2
      = (transportCacheOutOfOrderPacket env io (rxOrderInit peer) packet
          packet.packetNumber).2.2 := by
  obtain ⟨houtcome, _⟩ := transportCacheOutOfOrderPacket_outcome env io (rxOrderInit peer)
    packet packet.packetNumber
  unfold rxReliable transportProcessReliableRxOrder
  dsimp only
  rw [if_pos h]
  generalize transportCacheOutOfOrderPacket env io (rxOrderInit peer) packet packet.packetNumber
    = cached at houtcome ⊢
  obtain ⟨err, io', after⟩ := cached
  have hnext : after.rxNextPacketNumber = (rxOrderInit peer).rxNextPacketNumber := by
    cases houtcome <;> rfl
  cases err with
  | ok =>
    dsimp only
    rw [if_pos]
    rw [hnext, bne_iff_ne]
    exact (UInt32.ne_of_lt h).symm
  | _ => rfl

/-- The expected packet shows in the peer exactly when it is delivered. -/
theorem rxReliable_expected_peer_iff (env : TransportEnv)
    (hhas : peer.rxHasPacketNumberState = true)
    (h : packet.packetNumber = peer.rxNextPacketNumber) :
    (rxReliable env config manager io peer packet data).2.2.2 = peer ↔
      (transportDeliverPacket env config manager
        (transportLowerSend env config io
          (ackPacket config packet.feedbackScope packet.packetNumber)).2
        packet (transportDecodeData config packet data)).1 ≠ .ok := by
  have hinit : rxOrderInit peer = peer := if_pos hhas
  rw [rxReliable_expected env config manager io data (by rw [hinit]; exact h), hinit]
  dsimp only
  generalize transportDeliverPacket env config manager _ packet _ = delivered
  obtain ⟨err, manager', io'⟩ := delivered
  cases err with
  | ok =>
    dsimp only
    refine ⟨fun hsame => ?_, fun hne => absurd rfl hne⟩
    unfold transportDrainRxBuffered at hsame
    rcases drainLoop_length env config peer.rxBuffered.length manager' io'
      { peer with rxNextPacketNumber := packet.packetNumber + 1 } with hdrain | hdrain
    · -- nothing drained: the next number has moved
      rw [hdrain] at hsame
      have hnext := congrArg (fun p => p.rxNextPacketNumber.toNat) hsame
      dsimp only at hnext
      rw [h, UInt32.toNat_add] at hnext
      have := peer.rxNextPacketNumber.toNat_lt
      simp only [UInt32.toNat_one] at hnext
      omega
    · dsimp only at hsame
      rw [hsame] at hdrain
      exact absurd hdrain (lt_irrefl _)
  | _ => exact ⟨fun _ => by simp, fun _ => rfl⟩

end Order

/-- Ordering leaves a peer as it is, whatever the outside does, exactly when it changes
nothing of it. -/
theorem rxReliable_idle_iff {ctx : TransportCtx} {peer : PeerState} {packet : Packet}
    {data : Bytes} (hdata : packet.payload? = some data) :
    (∀ env, (rxReliable env ctx.config ctx.fragmentMgr ctx.io peer packet data).2.2.2 = peer) ↔
      OrderIdle ctx peer packet data := by
  unfold OrderIdle
  cases hhas : peer.rxHasPacketNumberState with
  | false =>
    refine ⟨fun h => ?_, fun h => absurd h.1 (by simp)⟩
    have hset : (rxReliable calmEnv ctx.config ctx.fragmentMgr ctx.io peer packet
        data).2.2.2.rxHasPacketNumberState = true := rxReliable_has calmEnv
    rw [h calmEnv, hhas] at hset
    cases hset
  | true =>
    have hinit : rxOrderInit peer = peer := if_pos hhas
    rw [eq_self_iff_true, true_and]
    rcases packetNumber_trichotomy packet.packetNumber peer.rxNextPacketNumber with
      hlt | heq | hgt
    · refine ⟨fun _ => .inl hlt, fun _ env => ?_⟩
      rw [rxReliable_duplicate env ctx.config ctx.fragmentMgr ctx.io data
          (by rw [hinit]; exact hlt)]
      exact hinit
    · have hlt := UInt32.lt_irrefl peer.rxNextPacketNumber
      simp only [rxReliable_expected_peer_iff _ hhas heq]
      rw [transportDeliverPacket_fails_iff fun env => (transportLowerSend env ctx.config ctx.io
        (ackPacket ctx.config packet.feedbackScope packet.packetNumber)).2]
      constructor
      · exact fun h => .inr (.inr ⟨heq, h⟩)
      · rintro (h | ⟨h, _⟩ | ⟨_, h⟩)
        · exact absurd (heq ▸ h) hlt
        · exact absurd (heq ▸ h) hlt
        · exact h
    · simp only [rxReliable_later_peer _ (by rw [hinit]; exact hgt :
        (rxOrderInit peer).rxNextPacketNumber < packet.packetNumber), hinit,
        transportCacheOutOfOrderPacket_idle_iff hdata]
      constructor
      · exact fun h => .inr (.inl ⟨hgt, h⟩)
      · rintro (h | ⟨_, h⟩ | ⟨h, _⟩)
        · exact absurd h (UInt32.lt_asymm hgt)
        · exact h
        · exact absurd h (UInt32.ne_of_lt hgt).symm

end XgenLink
