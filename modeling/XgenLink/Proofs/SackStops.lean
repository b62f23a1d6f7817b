import XgenLink.Proofs.IdlePackets

/-!
# `XgenLink.Proofs.SackStops`: the SACKs that are not processed to their end

`transport_process_sack_value` visits the bits of a bitmap up to the highest one set. A set bit
releases the packet of its number, a clear one retransmits it, and a number that is not queued is
passed over. When the layer below refuses a retransmission the function returns at once, behind
whatever the bits before have changed, and without the update of the deadline at its end.

The visited numbers differ, so a bit reads and writes a part of the queue of its own. What a bit
meets is therefore what was queued for it at first, and where the function stops can be read off
the queue, the bitmap and the answers of the layer below.

* `sackRetransmits`: the packets that a bitmap retransmits, in order.
* `SackStops`: the bit at which the layer below refuses a retransmission.
* `sackLoop_skips_iff`: the loop fails behind a change of the queue exactly when it stops at such a
  bit behind one whose number is queued.
-/

set_option autoImplicit false

namespace XgenLink

/-! ### Numbers that are left alone -/

section Queues

variable {queue : ReliableQueue} {n m : UInt32} {targetId other : UInt16}

/-- Taking off a packet that a search passes over. -/
theorem find?_eraseP_of_disjoint {α : Type} {p q : α → Bool} {l : List α}
    (h : ∀ x, p x = true → q x = false) : (l.eraseP p).find? q = l.find? q := by
  induction l with
  | nil => rfl
  | cons x rest ih =>
    cases hp : p x with
    | true => rw [List.eraseP_cons_of_pos hp, List.find?_cons, h x hp]
    | false =>
      rw [List.eraseP_cons_of_neg (by simp [hp]), List.find?_cons, List.find?_cons, ih]

/-- Writing to a packet that a search passes over, before and behind the write. -/
theorem find?_updateFirst_of_disjoint {test q : ReliablePacket → Bool}
    {update : ReliablePacket → ReliablePacket} {packets : List ReliablePacket}
    (h : ∀ x, test x = true → q x = false) (hupdate : ∀ x, q (update x) = false) :
    (updateFirst test update packets).find? q = packets.find? q := by
  induction packets with
  | nil => rfl
  | cons first rest ih =>
    unfold updateFirst
    split
    · rename_i htest
      rw [List.find?_cons, List.find?_cons, hupdate, h first htest]
    · rw [List.find?_cons, List.find?_cons, ih]

/-- A packet for one number is not for another. -/
theorem isFor_ne {packet : ReliablePacket} (hne : m ≠ n) (h : packet.isFor n targetId = true) :
    packet.isFor m other = false := by
  rw [ReliablePacket.isFor, Bool.and_eq_true, beq_iff_eq] at h
  rw [ReliablePacket.isFor, h.1, beq_eq_false_iff_ne.mpr hne.symm, Bool.false_and]

/-- Removing a number leaves the others. -/
theorem find_remove_ne (hne : m ≠ n) :
    xglReliableFindPacketNumber (xglReliableRemovePacketNumber queue n targetId).2 m other
      = xglReliableFindPacketNumber queue m other := by
  unfold xglReliableFindPacketNumber xglReliableRemovePacketNumber reliableUnlink
  rw [List.reverse_reverse]
  exact find?_eraseP_of_disjoint fun packet h => isFor_ne hne h

/-- So does writing to it. -/
theorem find_update_ne (hne : m ≠ n) {packet : ReliablePacket}
    (hpacket : packet.packetNumber = n) :
    xglReliableFindPacketNumber (reliableUpdate queue n targetId fun _ => packet) m other
      = xglReliableFindPacketNumber queue m other := by
  unfold xglReliableFindPacketNumber reliableUpdate
  rw [List.reverse_reverse]
  refine find?_updateFirst_of_disjoint (fun packet h => isFor_ne hne h) fun _ => ?_
  rw [ReliablePacket.isFor, hpacket, beq_eq_false_iff_ne.mpr hne.symm, Bool.false_and]

/-- Behind a write the number has the packet that was written. -/
theorem find_update_self {packet found : ReliablePacket}
    (hfind : xglReliableFindPacketNumber queue n targetId = some found)
    (hpacket : packet.isFor n targetId = true) :
    xglReliableFindPacketNumber (reliableUpdate queue n targetId fun _ => packet) n targetId
      = some packet := by
  unfold xglReliableFindPacketNumber reliableUpdate at *
  rw [List.reverse_reverse]
  generalize queue.waitAckList.reverse = packets at hfind ⊢
  induction packets with
  | nil => cases hfind
  | cons first rest ih =>
    unfold updateFirst
    rw [List.find?_cons] at hfind
    cases hfirst : first.isFor n targetId with
    | true => rw [if_pos rfl, List.find?_cons, hpacket]
    | false =>
      rw [hfirst] at hfind
      rw [if_neg (by simp), List.find?_cons, hfirst]
      exact ih hfind

end Queues

/-! ### Bits -/

/-- The layer below refuses a retransmission, as the call `k` of its send function. -/
def LayerRefuses (env : TransportEnv) (config : TransportConfig) (k : Nat)
    (packet : ReliablePacket) : Prop :=
  config.lowerLayer = false ∨ env.layerSend k (retransmitPacket packet) ≠ .ok

/-- The packets that the bits of a SACK retransmit, in order: their bit is clear and their number
is queued. -/
def sackRetransmits (queue : ReliableQueue) (sourceId : UInt16) (basePacket : UInt32)
    (bitmap : Bytes)
    (indices : List Nat) : List ReliablePacket :=
  indices.filterMap fun i =>
    if transportSackBitIsSet bitmap i then none
    else xglReliableFindPacketNumber queue (basePacket + UInt32.ofNat i) sourceId

/-- The layer below takes every retransmission of some bits, from its call `k` on. -/
def LayerAccepts (env : TransportEnv) (config : TransportConfig) (k : Nat)
    (packets : List ReliablePacket) : Prop :=
  ∀ j packet, packets[j]? = some packet → ¬ LayerRefuses env config (k + j) packet

/-- A SACK stops at the bit `i` behind the bits `before`: its number is queued and is not
acknowledged, and the layer below refuses it and took everything before. -/
structure SackStops (env : TransportEnv) (config : TransportConfig) (k : Nat)
    (queue : ReliableQueue) (sourceId : UInt16) (basePacket : UInt32) (bitmap : Bytes)
    (indices before : List Nat) (i : Nat) (missing : ReliablePacket) : Prop where
  visited : ∃ after, indices = before ++ i :: after
  clear : transportSackBitIsSet bitmap i = false
  queued : xglReliableFindPacketNumber queue (basePacket + UInt32.ofNat i) sourceId = some missing
  accepted : LayerAccepts env config k (sackRetransmits queue sourceId basePacket bitmap before)
  refused : LayerRefuses env config
    (k + (sackRetransmits queue sourceId basePacket bitmap before).length) missing

section Loop

variable {env : TransportEnv} {config : TransportConfig} {sourceId : UInt16}
  {basePacket now : UInt32} {bitmap : Bytes} {state : SackState} {i : Nat} {before : List Nat}

/-- Retransmitting is a call of the layer below. -/
theorem transportRetransmitReliablePacket_call (io : TransportIo) (packet : ReliablePacket) :
    (LayerRefuses env config io.sendCount packet →
        (transportRetransmitReliablePacket env config io packet now).1 ≠ .ok) ∧
      (¬ LayerRefuses env config io.sendCount packet →
        (transportRetransmitReliablePacket env config io packet now).1 = .ok ∧
        (transportRetransmitReliablePacket env config io packet now).2.2
          = markRetransmitted now packet ∧
        (transportRetransmitReliablePacket env config io packet now).2.1.sendCount
          = io.sendCount + 1) := by
  refine ⟨transportRetransmitReliablePacket_error env config now packet, fun htaken => ?_⟩
  obtain ⟨hlower, hok⟩ := not_or.mp htaken
  rw [Bool.not_eq_false] at hlower
  rw [not_not] at hok
  unfold transportRetransmitReliablePacket transportLowerSend xglLayerSend
  rw [if_pos hlower, hok]
  exact ⟨rfl, rfl, rfl⟩

/-- Marking a packet leaves its number and its target. -/
theorem markRetransmitted_isFor {packet : ReliablePacket} {n : UInt32} {targetId : UInt16} :
    (markRetransmitted now packet).isFor n targetId = packet.isFor n targetId := rfl

/-- What the bits `before` leave: numbers other than theirs are as they were, and either a packet
was released, or every packet of theirs is marked as retransmitted. Where nothing is queued for
them the queue is as it was. -/
structure SackPassed (state : SackState) (sourceId : UInt16) (basePacket now : UInt32)
    (bitmap : Bytes) (before : List Nat) (mid : SackState) : Prop where
  calls : mid.io.sendCount
    = state.io.sendCount + (sackRetransmits state.queue sourceId basePacket bitmap before).length
  others : ∀ n, n ∉ before.map (fun i => basePacket + UInt32.ofNat i) →
    xglReliableFindPacketNumber mid.queue n sourceId
      = xglReliableFindPacketNumber state.queue n sourceId
  changes : mid.queue.waitAckList.length < state.queue.waitAckList.length ∨
    (mid.queue.waitAckList.length = state.queue.waitAckList.length ∧
      ∀ i ∈ before, xglReliableFindPacketNumber mid.queue (basePacket + UInt32.ofNat i) sourceId
        = (xglReliableFindPacketNumber state.queue (basePacket + UInt32.ofNat i) sourceId).map
          (markRetransmitted now))
  same : (∀ i ∈ before, sackQueued state.queue sourceId basePacket i = false) →
    mid.queue = state.queue

/-- The packets retransmitted are the same where the numbers of the bits are queued alike. -/
theorem sackRetransmits_congr {queue queue' : ReliableQueue} {indices : List Nat}
    (h : ∀ i ∈ indices, xglReliableFindPacketNumber queue' (basePacket + UInt32.ofNat i) sourceId
      = xglReliableFindPacketNumber queue (basePacket + UInt32.ofNat i) sourceId) :
    sackRetransmits queue' sourceId basePacket bitmap indices
      = sackRetransmits queue sourceId basePacket bitmap indices :=
  List.filterMap_congr fun i hi => by rw [h i hi]

/-- A bit that retransmits nothing. -/
theorem sackRetransmits_cons_none {queue : ReliableQueue}
    (h : transportSackBitIsSet bitmap i = true ∨
      xglReliableFindPacketNumber queue (basePacket + UInt32.ofNat i) sourceId = none)
    (rest : List Nat) :
    sackRetransmits queue sourceId basePacket bitmap (i :: rest)
      = sackRetransmits queue sourceId basePacket bitmap rest := by
  refine List.filterMap_cons_none ?_
  split
  · rfl
  · rename_i hclear
    exact h.resolve_left hclear

/-- A bit that retransmits a packet. -/
theorem sackRetransmits_cons_some {queue : ReliableQueue} {missing : ReliablePacket}
    (hclear : transportSackBitIsSet bitmap i = false)
    (hfind : xglReliableFindPacketNumber queue (basePacket + UInt32.ofNat i) sourceId
      = some missing) (rest : List Nat) :
    sackRetransmits queue sourceId basePacket bitmap (i :: rest)
      = missing :: sackRetransmits queue sourceId basePacket bitmap rest := by
  refine List.filterMap_cons_some ?_
  rw [hclear]
  exact hfind

/-- While the layer below takes what is retransmitted, the loop goes on. The induction is on the
bits; each of them has a number of its own. -/
theorem sackLoop_passed (rest : List Nat)
    (hnumbers : (before.map fun i => basePacket + UInt32.ofNat i).Nodup)
    (haccepted : LayerAccepts env config state.io.sendCount
      (sackRetransmits state.queue sourceId basePacket bitmap before)) :
    ∃ mid, sackLoop env config sourceId basePacket now bitmap (before ++ rest) state
        = sackLoop env config sourceId basePacket now bitmap rest mid ∧
      SackPassed state sourceId basePacket now bitmap before mid := by
  induction before generalizing state with
  | nil =>
    exact ⟨state, rfl, rfl, fun _ _ => rfl, .inr ⟨rfl, fun i hi => absurd hi (by simp)⟩,
      fun _ => rfl⟩
  | cons i tail ih =>
    obtain ⟨hself, htail⟩ := List.nodup_cons.mp hnumbers
    have hother : ∀ j ∈ tail, basePacket + UInt32.ofNat j ≠ basePacket + UInt32.ofNat i :=
      fun j hj heq => hself (List.mem_map.mpr ⟨j, hj, heq⟩)
    rw [List.cons_append, sackLoop]
    cases hqueued : sackQueued state.queue sourceId basePacket i with
    | false =>
      -- nothing is queued for the bit
      have hnone : xglReliableFindPacketNumber state.queue (basePacket + UInt32.ofNat i) sourceId
          = none := by
        unfold sackQueued at hqueued
        simpa using hqueued
      rw [sackRetransmits_cons_none (.inr hnone)] at haccepted
      obtain ⟨mid, hrun, hmid⟩ := ih htail haccepted
      rw [sackBitStep_absent env config sourceId basePacket now bitmap hqueued]
      refine ⟨mid, hrun, ?_, fun n hn => hmid.others n fun hmem => hn (List.mem_cons_of_mem _ hmem),
        hmid.changes.imp_right fun hsame => ⟨hsame.1, fun j hj => ?_⟩,
        fun habsent => hmid.same fun j hj => habsent j (List.mem_cons_of_mem _ hj)⟩
      · rw [sackRetransmits_cons_none (.inr hnone)]
        exact hmid.calls
      · rcases List.mem_cons.mp hj with rfl | hj
        · rw [hmid.others _ hself, hnone]
          rfl
        · exact hsame.2 j hj
    | true =>
      obtain ⟨missing, hfind⟩ := Option.isSome_iff_exists.mp hqueued
      cases hset : transportSackBitIsSet bitmap i with
      | true =>
        -- the packet is released
        rw [sackRetransmits_cons_none (.inl hset)] at haccepted
        have hstep : sackBitStep env config sourceId basePacket now bitmap state i
            = (.ok, { state with
                queue := (xglReliableRemovePacketNumber state.queue
                  (basePacket + UInt32.ofNat i) sourceId).2
                windows := markAcked state.windows (basePacket + UInt32.ofNat i) }) := by
          unfold sackBitStep
          dsimp only
          rw [if_pos hset, hfind]
        have hshorter := length_reliableUnlink hfind
        rw [hstep]
        generalize hnext : SackState.mk _ _ _ = next
        have hqueue : next.queue = (xglReliableRemovePacketNumber state.queue
            (basePacket + UInt32.ofNat i) sourceId).2 := hnext ▸ rfl
        have hcalls : next.io = state.io := hnext ▸ rfl
        have hkept : ∀ n, n ≠ basePacket + UInt32.ofNat i →
            xglReliableFindPacketNumber next.queue n sourceId
              = xglReliableFindPacketNumber state.queue n sourceId := by
          intro n hn
          rw [hqueue]
          exact find_remove_ne hn
        have hmissing :=
          @sackRetransmits_congr sourceId basePacket bitmap state.queue next.queue tail
          fun j hj => hkept _ (hother j hj)
        obtain ⟨mid, hrun, hmid⟩ := @ih next htail (by rw [hcalls, hmissing]; exact haccepted)
        refine ⟨mid, hrun, ?_, fun n hn => ?_, .inl ?_, fun habsent =>
          absurd hqueued (by simp [habsent i List.mem_cons_self])⟩
        · rw [sackRetransmits_cons_none (.inl hset), hmid.calls, hmissing, hcalls]
        · obtain ⟨hne, hn⟩ := not_or.mp (mt List.mem_cons.mpr hn)
          rw [hmid.others n hn, hkept n hne]
        · have hle : mid.queue.waitAckList.length ≤ next.queue.waitAckList.length :=
            hmid.changes.elim le_of_lt fun hsame => le_of_eq hsame.1
          rw [hqueue] at hle
          have hremoved : (xglReliableRemovePacketNumber state.queue
              (basePacket + UInt32.ofNat i) sourceId).2.waitAckList
                = reliableUnlink (basePacket + UInt32.ofNat i) sourceId
                  state.queue.waitAckList := rfl
          rw [hremoved] at hle
          omega
      | false =>
        -- the packet is retransmitted
        rw [sackRetransmits_cons_some hset hfind] at haccepted
        obtain ⟨hok, hmarked, hcalls⟩ := (@transportRetransmitReliablePacket_call env config now
          state.io missing).2 (haccepted 0 missing rfl)
        rw [sackBitStep_clear env config sourceId basePacket now bitmap hset hfind, hok, hmarked]
        generalize hnext : SackState.mk _ _ _ = next
        have hqueue : next.queue = reliableUpdate state.queue (basePacket + UInt32.ofNat i)
            sourceId fun _ => markRetransmitted now missing := hnext ▸ rfl
        have hcount : next.io.sendCount = state.io.sendCount + 1 := hnext ▸ hcalls
        have hfor : (markRetransmitted now missing).isFor (basePacket + UInt32.ofNat i) sourceId
            = true := markRetransmitted_isFor.trans (xglReliableFindPacketNumber_mem hfind).2
        have hkept : ∀ n, n ≠ basePacket + UInt32.ofNat i →
            xglReliableFindPacketNumber next.queue n sourceId
              = xglReliableFindPacketNumber state.queue n sourceId := by
          intro n hn
          rw [hqueue]
          rw [ReliablePacket.isFor, Bool.and_eq_true, beq_iff_eq] at hfor
          exact find_update_ne hn hfor.1
        have hwritten : xglReliableFindPacketNumber next.queue (basePacket + UInt32.ofNat i)
            sourceId = some (markRetransmitted now missing) := by
          rw [hqueue]
          exact find_update_self hfind hfor
        have hlength : next.queue.waitAckList.length = state.queue.waitAckList.length := by
          have hcontent : ∀ packet, xglReliableFindPacketNumber state.queue
              (basePacket + UInt32.ofNat i) sourceId = some packet →
              (markRetransmitted now missing).content = packet.content := by
            intro packet hpacket
            rw [hfind] at hpacket
            cases hpacket
            rfl
          rw [hqueue]
          simpa [contents] using congrArg List.length (reliableUpdate_contents hcontent)
        have hmissing :=
          @sackRetransmits_congr sourceId basePacket bitmap state.queue next.queue tail
          fun j hj => hkept _ (hother j hj)
        obtain ⟨mid, hrun, hmid⟩ := @ih next htail (by
          intro j packet hget
          rw [hcount, Nat.add_assoc, Nat.add_comm 1]
          rw [hmissing] at hget
          exact haccepted (j + 1) packet hget)
        refine ⟨mid, hrun, ?_, fun n hn => ?_, ?_, fun habsent =>
          absurd hqueued (by simp [habsent i List.mem_cons_self])⟩
        · rw [sackRetransmits_cons_some hset hfind, hmid.calls, hmissing, hcount, List.length_cons]
          omega
        · obtain ⟨hne, hn⟩ := not_or.mp (mt List.mem_cons.mpr hn)
          rw [hmid.others n hn, hkept n hne]
        · rw [← hlength]
          refine hmid.changes.imp_right fun hsame => ⟨hsame.1, fun j hj => ?_⟩
          rcases List.mem_cons.mp hj with rfl | hj
          · rw [hmid.others _ hself, hwritten, hfind]
            rfl
          · rw [hsame.2 j hj, hkept _ (hother j hj)]

/-- The bits before have changed the queue exactly when the number of one of them is queued. -/
theorem SackPassed.queue_ne_iff {mid : SackState}
    (h : SackPassed state sourceId basePacket now bitmap before mid) :
    mid.queue ≠ state.queue ↔
      ∃ j ∈ before, sackQueued state.queue sourceId basePacket j = true := by
  constructor
  · intro hchanged
    by_contra hnone
    exact hchanged (h.same fun j hj => Bool.eq_false_of_not_eq_true fun hj' => hnone ⟨j, hj, hj'⟩)
  · rintro ⟨j, hj, hqueued⟩ hsame
    obtain ⟨packet, hfind⟩ := Option.isSome_iff_exists.mp hqueued
    rcases h.changes with hshorter | ⟨-, hmarked⟩
    · rw [hsame] at hshorter
      exact absurd hshorter (lt_irrefl _)
    · -- a retransmission is counted
      have hmark := hmarked j hj
      rw [hsame, hfind, Option.map_some, Option.some.injEq] at hmark
      have hretry := congrArg (fun packet => packet.retryCount.toNat) hmark
      have := packet.retryCount.toNat_lt
      simp only [markRetransmitted, UInt8.toNat_add, UInt8.toNat_one] at hretry
      omega

variable {indices : List Nat} {missing : ReliablePacket}

/-- Where a SACK stops the loop fails, with the queue as the bits before have left it. -/
theorem SackStops.outcome
    (h : SackStops env config state.io.sendCount state.queue sourceId basePacket bitmap indices
      before i missing)
    (hnumbers : (indices.map fun i => basePacket + UInt32.ofNat i).Nodup) :
    (sackLoop env config sourceId basePacket now bitmap indices state).1 ≠ .ok ∧
      ((sackLoop env config sourceId basePacket now bitmap indices state).2.queue ≠ state.queue ↔
        ∃ j ∈ before, sackQueued state.queue sourceId basePacket j = true) := by
  obtain ⟨after, rfl⟩ := h.visited
  rw [List.map_append, List.map_cons, List.nodup_append] at hnumbers
  obtain ⟨hbefore, -, hdisjoint⟩ := hnumbers
  obtain ⟨mid, hrun, hmid⟩ :=
    @sackLoop_passed env config sourceId basePacket now bitmap state before
    (i :: after) hbefore h.accepted
  have hfind : xglReliableFindPacketNumber mid.queue (basePacket + UInt32.ofNat i) sourceId
      = some missing := by
    rw [hmid.others _ fun hmem => hdisjoint _ hmem _ List.mem_cons_self rfl]
    exact h.queued
  have hfails := (@transportRetransmitReliablePacket_call env config now mid.io missing).1
    (hmid.calls ▸ h.refused)
  obtain ⟨herror, hqueue, -⟩ := sackLoop_clear_error env config sourceId basePacket now bitmap mid
    h.clear hfind hfails after
  rw [hrun, hqueue]
  exact ⟨herror, hmid.queue_ne_iff⟩

/-- A loop that fails stops at the first packet that the layer below refuses. -/
theorem exists_sackStops (hnumbers : (indices.map fun i => basePacket + UInt32.ofNat i).Nodup)
    (hfails : (sackLoop env config sourceId basePacket now bitmap indices state).1 ≠ .ok) :
    ∃ before i missing, SackStops env config state.io.sendCount state.queue sourceId basePacket
      bitmap indices before i missing := by
  have hrefused : ∃ j, ∃ packet,
      (sackRetransmits state.queue sourceId basePacket bitmap indices)[j]?
      = some packet ∧ LayerRefuses env config (state.io.sendCount + j) packet := by
    by_contra hnone
    push Not at hnone
    obtain ⟨mid, hrun, -⟩ :=
      @sackLoop_passed env config sourceId basePacket now bitmap state indices
      [] hnumbers hnone
    rw [List.append_nil] at hrun
    rw [hrun] at hfails
    exact hfails rfl
  classical
  obtain ⟨missing, hget, hrefuses⟩ := Nat.find_spec hrefused
  have hfirst : ∀ k < Nat.find hrefused, ∀ packet,
      (sackRetransmits state.queue sourceId basePacket bitmap indices)[k]? = some packet →
      ¬ LayerRefuses env config (state.io.sendCount + k) packet :=
    fun k hk packet hpacket hrefuse => Nat.find_min hrefused hk ⟨packet, hpacket, hrefuse⟩
  generalize Nat.find hrefused = j at hget hrefuses hfirst
  -- the bits up to the one of this packet
  obtain ⟨hj, hmissing⟩ := List.getElem?_eq_some_iff.mp hget
  have hsplit : sackRetransmits state.queue sourceId basePacket bitmap indices
      = (sackRetransmits state.queue sourceId basePacket bitmap indices).take j ++ missing
        :: (sackRetransmits state.queue sourceId basePacket bitmap indices).drop (j + 1) := by
    rw [← hmissing, List.getElem_cons_drop, List.take_append_drop]
  obtain ⟨front, back, hindices, hfront, hback⟩ := List.filterMap_eq_append_iff.mp hsplit
  obtain ⟨skipped, i, after, rfl, hskipped, hi, -⟩ := List.filterMap_eq_cons_iff.mp hback
  have hpassed : sackRetransmits state.queue sourceId basePacket bitmap (front ++ skipped)
      = (sackRetransmits state.queue sourceId basePacket bitmap indices).take j := by
    rw [sackRetransmits, List.filterMap_append, List.filterMap_eq_nil_iff.mpr hskipped,
      List.append_nil]
    exact hfront
  have hcount : (sackRetransmits state.queue sourceId basePacket bitmap (front ++ skipped)).length
      = j := by
    rw [hpassed, List.length_take]
    exact Nat.min_eq_left (le_of_lt hj)
  have hclear : transportSackBitIsSet bitmap i = false := by
    cases hset : transportSackBitIsSet bitmap i with
    | false => rfl
    | true =>
      rw [hset, if_pos rfl] at hi
      cases hi
  rw [hclear] at hi
  refine ⟨front ++ skipped, i, missing, ⟨after, ?_⟩, hclear, hi, ?_, hcount ▸ hrefuses⟩
  · rw [hindices, List.append_assoc]
  · intro k packet hk
    rw [hpassed, List.getElem?_take] at hk
    split at hk
    · rename_i hlt
      exact hfirst k hlt packet hk
    · cases hk

/-- The loop fails behind a change of the queue exactly when it stops behind a bit whose number is
queued. -/
theorem sackLoop_skips_iff (hnumbers : (indices.map fun i => basePacket + UInt32.ofNat i).Nodup) :
    ((sackLoop env config sourceId basePacket now bitmap indices state).1 ≠ .ok ∧
        (sackLoop env config sourceId basePacket now bitmap indices state).2.queue
          ≠ state.queue) ↔
      ∃ before i missing, SackStops env config state.io.sendCount state.queue sourceId basePacket
          bitmap indices before i missing ∧
        ∃ j ∈ before, sackQueued state.queue sourceId basePacket j = true := by
  constructor
  · rintro ⟨hfails, hchanged⟩
    obtain ⟨before, i, missing, hstops⟩ := exists_sackStops hnumbers hfails
    exact ⟨before, i, missing, hstops, (hstops.outcome hnumbers).2.mp hchanged⟩
  · rintro ⟨before, i, missing, hstops, hqueued⟩
    obtain ⟨hfails, hchanges⟩ := @SackStops.outcome _ _ _ _ now _ _ _ _ _ _ hstops hnumbers
    exact ⟨hfails, hchanges.mpr hqueued⟩

end Loop

/-! ### SACK values -/

/-- A SACK changes the queue and is not processed to its end. Without a set bit its base packet is
queued and is retransmitted, which ends the processing. With one, the layer below refuses a
retransmission behind a bit whose number is queued. -/
inductive SackSkips (env : TransportEnv) (config : TransportConfig) (k : Nat)
    (queue : ReliableQueue) (sourceId : UInt16) (sack : SackExt) : Prop where
  | noneSet (hbitmap : sack.bitmap ≠ []) (hempty : sackIndices sack.bitmap = [])
      (base : ReliablePacket)
      (hbase : xglReliableFindPacketNumber queue sack.basePacket sourceId = some base)
      (htaken : ¬ LayerRefuses env config k base)
  | stopped (hset : sackIndices sack.bitmap ≠ []) (before : List Nat) (i : Nat)
      (missing : ReliablePacket)
      (hstops : SackStops env config k queue sourceId sack.basePacket sack.bitmap
        (sackIndices sack.bitmap) before i missing)
      (hbefore : ∃ j ∈ before, sackQueued queue sourceId sack.basePacket j = true)

/-- The numbers of the bits that a decoded SACK visits differ. -/
theorem sackIndices_nodup {value : Bytes} {sack : SackExt}
    (hdecode : xglWireDecodeSackExtValue value 64 = .ok sack) :
    ((sackIndices sack.bitmap).map fun i => sack.basePacket + UInt32.ofNat i).Nodup := by
  have hbits := xglWireDecodeSackExtValue_length hdecode
  obtain ⟨m, hm⟩ : ∃ m, sackIndices sack.bitmap = List.range m := ⟨_, rfl⟩
  have hshort : m ≤ 512 := by
    by_contra hlong
    have := lt_of_mem_sackIndices (hm ▸ List.mem_range.mpr (Nat.not_le.mp hlong))
    omega
  rw [hm]
  exact sack_numbers_nodup sack.basePacket hshort

/-- The code and the queue behind the bits of a SACK. -/
theorem transportProcessSackValue_looped {env : TransportEnv} {ctx : TransportCtx}
    {peer : PeerState} {sourceId : UInt16} {value : Bytes} {sack : SackExt}
    (hdecode : xglWireDecodeSackExtValue value 64 = .ok sack) (hbitmap : sack.bitmap ≠ [])
    (hset : sackIndices sack.bitmap ≠ []) :
    let looped := sackLoop env ctx.config sourceId sack.basePacket (xglTimeMs env ctx.io).1
      sack.bitmap (sackIndices sack.bitmap) (sackStart env ctx peer)
    (transportProcessSackValue env ctx peer sourceId value).1 = looped.1 ∧
      (transportProcessSackValue env ctx peer sourceId value).2.2.reliableQueue
        = looped.2.queue := by
  intro looped
  refine ⟨?_, ?_⟩
  · subst looped
    unfold transportProcessSackValue sackStart
    rw [hdecode]
    dsimp only
    rw [if_neg (by simpa using hbitmap), if_neg (by simpa using hset)]
    generalize sackLoop env ctx.config sourceId sack.basePacket (xglTimeMs env ctx.io).1 sack.bitmap
      (sackIndices sack.bitmap) _ = looped
    obtain ⟨err, state⟩ := looped
    cases err <;> rfl
  · rw [transportProcessSackValue_bits hdecode (by simpa using hbitmap) hset, sackFinish_queue]

/-- A SACK skips the update in just these cases: the queue has changed, and no bit is set or the
processing ends with an error. -/
theorem transportProcessSackValue_skips_iff {env : TransportEnv} {ctx : TransportCtx}
    {peer : PeerState} {sourceId : UInt16} {value : Bytes} {sack : SackExt}
    (hdecode : xglWireDecodeSackExtValue value 64 = .ok sack) :
    ((transportProcessSackValue env ctx peer sourceId value).2.2.reliableQueue
          ≠ peer.reliableQueue ∧
        (sackIndices sack.bitmap = [] ∨
          (transportProcessSackValue env ctx peer sourceId value).1 ≠ .ok)) ↔
      SackSkips env ctx.config ctx.io.sendCount peer.reliableQueue sourceId sack := by
  by_cases hbitmap : sack.bitmap = []
  · -- an empty bitmap is refused
    have hempty : sackIndices sack.bitmap = [] := by
      rw [hbitmap]
      rfl
    refine iff_of_false (fun h => h.1 ?_) fun h => ?_
    · unfold transportProcessSackValue
      rw [hdecode]
      dsimp only
      rw [if_pos (by simp [hbitmap])]
    · cases h with
      | noneSet hne => exact hne hbitmap
      | stopped hset => exact hset hempty
  by_cases hempty : sackIndices sack.bitmap = []
  · -- the base packet is asked for
    have hskips : SackSkips env ctx.config ctx.io.sendCount peer.reliableQueue sourceId sack ↔
        ∃ base, xglReliableFindPacketNumber peer.reliableQueue sack.basePacket sourceId
          = some base ∧
          ¬ LayerRefuses env ctx.config ctx.io.sendCount base := by
      constructor
      · intro h
        cases h with
        | noneSet _ _ base hbase htaken => exact ⟨base, hbase, htaken⟩
        | stopped hset => exact absurd hempty hset
      · rintro ⟨base, hbase, htaken⟩
        exact .noneSet hbitmap hempty base hbase htaken
    rw [hskips, and_iff_left (.inl hempty)]
    unfold transportProcessSackValue
    rw [hdecode]
    dsimp only
    rw [if_neg (by simpa using hbitmap), if_pos (by simp [hempty])]
    cases hbase : xglReliableFindPacketNumber peer.reliableQueue sack.basePacket sourceId with
    | none => simp
    | some base =>
      have hcall := @transportRetransmitReliablePacket_call env ctx.config
        (xglTimeMs env ctx.io).1 (xglTimeMs env ctx.io).2 base
      simp only [sackRetransmit, hbase, SackState.finish, ne_eq, Option.some.injEq,
        exists_eq_left']
      rw [reliableUpdate_eq_self_iff hbase, transportRetransmitReliablePacket_eq_self_iff, not_not]
      exact ⟨fun hok hrefuses => hcall.1 hrefuses hok, fun htaken => (hcall.2 htaken).1⟩
  · obtain ⟨hcode, hqueue⟩ := @transportProcessSackValue_looped env ctx peer sourceId value sack
      hdecode hbitmap hempty
    rw [hcode, hqueue, or_iff_right hempty, and_comm]
    refine (sackLoop_skips_iff (sackIndices_nodup hdecode)).trans ⟨?_, fun h => ?_⟩
    · rintro ⟨before, i, missing, hstops, hbefore⟩
      exact .stopped hempty before i missing hstops hbefore
    · cases h with
      | noneSet _ hnone => exact absurd hnone hempty
      | stopped _ before i missing hstops hbefore =>
        exact ⟨before, i, missing, hstops, hbefore⟩

end XgenLink
