import Mathlib.Data.List.Perm.Subperm
import XgenLink.Lib.Run
import XgenLink.Proofs.AckWindows

/-!
# `XgenLink.Proofs.QueueAgreement`: the send window and the wait-ACK queue agree

The numbers in flight are kept twice: as the span of the send window, from base to next, with a
flag for each number that was acknowledged, and as the entries of the wait-ACK queue. A number of
the span is queued or marked, never both, and nothing else is queued. The base moves over marked
numbers, so an empty queue means that the base has caught up, and the window is open.

Sends, acknowledgements and resets update both. The timers do not: an entry whose retries are used
up leaves the queue and stays unmarked in the window. From then on the base cannot pass it, and
the window is smaller by one place for good.

Two things a peer may do are excluded for a run. An ACK may name numbers that were never sent, and
a send may take the counter of a peer round; the raw comparison of the base test then fails.

* `Tracked`, `Agree`: how the two fit together.
* `Tracked.mark`, `Tracked.advance`: acknowledgements.
* `Agree.grow`: sends.
* `AllAgree`: every peer of a context, and one lemma for each call.
* `windows_agree`: runs in which no entry runs out of retries.
* `exhaustion_breaks_agreement`: a run in which one does.
-/

set_option autoImplicit false

namespace XgenLink

/-! ### Window and queue -/

/-- The numbers from base to next are queued or marked, never both, and nothing else
is queued. -/
structure Tracked (peerId : UInt16) (window : SlidingWindow) (queue : List ReliablePacket) :
    Prop where
  size : window.windowSize ≠ 0
  sound : WindowSound window
  targets : ∀ c ∈ contents queue, c.targetId = peerId
  nodup : (numbers queue).Nodup
  within : ∀ n ∈ numbers queue,
    window.sendBasePacketNumber.toNat ≤ n.toNat ∧ n.toNat < window.nextPacketNumber.toNat
  covered : ∀ n : UInt32, window.sendBasePacketNumber.toNat ≤ n.toNat →
    n.toNat < window.nextPacketNumber.toNat →
    n ∈ numbers queue ∨ window.Flag (n.toNat - window.sendBasePacketNumber.toNat)
  unmarked : ∀ n ∈ numbers queue, ¬ window.Flag (n.toNat - window.sendBasePacketNumber.toNat)

/-- A peer whose window and queue agree. Only behind a SACK that could not retransmit
may the base itself be marked, and then something is queued. -/
structure Agree (peer : PeerState) : Prop where
  tracked : Tracked peer.peerId peer.txWindow peer.reliableQueue.waitAckList
  settled : peer.reliableQueue.waitAckList = [] → ¬ peer.txWindow.Flag 0

/-- The number of an entry is a number of its queue. -/
theorem mem_numbers {queue : List ReliablePacket} {entry : ReliablePacket} (h : entry ∈ queue) :
    entry.packetNumber ∈ numbers queue :=
  List.mem_map.mpr ⟨entry.content, List.mem_map_of_mem h, rfl⟩

/-- Retransmissions and timers keep what is tracked. -/
theorem Tracked.of_contents {peerId : UInt16} {window : SlidingWindow}
    {before after : List ReliablePacket} (h : Tracked peerId window before)
    (hsame : contents after = contents before) : Tracked peerId window after := by
  have hnumbers : numbers after = numbers before := by
    simp only [numbers, hsame]
  exact ⟨h.size, h.sound, hsame ▸ h.targets, hnumbers ▸ h.nodup, hnumbers ▸ h.within,
    hnumbers ▸ h.covered, hnumbers ▸ h.unmarked⟩

/-- A window without packets and a queue without entries agree. -/
theorem Tracked.fresh (peerId : UInt16) {windowSize : UInt8} (hsize : windowSize ≠ 0) :
    Tracked peerId (freshWindow windowSize) [] := by
  have hflag : ∀ i, ¬ (freshWindow windowSize).Flag i := by
    intro i hflag
    have hmem := List.mem_of_getElem? hflag
    exact absurd (List.eq_of_mem_replicate hmem) (by simp)
  refine ⟨hsize, ⟨⟨le_refl _, ?_, ?_⟩, fun i _ => hflag i⟩, ?_, List.nodup_nil, ?_, ?_, ?_⟩
  · simp only [freshWindow]
    omega
  · simp only [freshWindow, List.length_replicate]
  · intro c hc
    cases hc
  · intro n hn
    cases hn
  · intro n _ hlt
    simp only [freshWindow, UInt32.toNat_zero] at hlt
    omega
  · intro n hn
    cases hn

/-- Everything in flight has been acknowledged exactly when the base has caught up. -/
theorem Agree.caught_up {peer : PeerState} (h : Agree peer)
    (hempty : peer.reliableQueue.waitAckList = []) :
    peer.txWindow.sendBasePacketNumber = peer.txWindow.nextPacketNumber ∧
      xglWindowCanSendPacketNumber peer.txWindow = true := by
  have hle := h.tracked.sound.base_le
  have heq : peer.txWindow.sendBasePacketNumber = peer.txWindow.nextPacketNumber := by
    by_contra hne
    rw [← UInt32.toNat_inj] at hne
    -- the base would be marked, as it is not queued
    rcases h.tracked.covered peer.txWindow.sendBasePacketNumber (le_refl _) (by omega) with
      hqueued | hflag
    · rw [hempty] at hqueued
      cases hqueued
    · rw [Nat.sub_self] at hflag
      exact h.settled hempty hflag
  refine ⟨heq, ?_⟩
  simp only [xglWindowCanSendPacketNumber, heq, UInt32.sub_self, decide_eq_true_eq,
    UInt32.lt_iff_toNat_lt, UInt8.toNat_toUInt32, UInt32.toNat_zero]
  have hsize := h.tracked.size
  rw [ne_eq, ← UInt8.toNat_inj] at hsize
  simp only [UInt8.toNat_zero] at hsize
  omega

/-! ### Acknowledged numbers -/

/-- Marked numbers leave the queue: what was queued stays or is marked, and what stays
is not marked. -/
theorem Tracked.mark {peerId : UInt16} {window : SlidingWindow}
    {before after : List ReliablePacket} (h : Tracked peerId window before)
    {marks : List UInt32} (hsent : ∀ n ∈ marks, ¬ Unsent window n)
    (hshrinks : Shrinks (fun c => c.packetNumber ∈ marks) before after)
    (hgone : ∀ n ∈ numbers after, n ∉ marks) :
    Tracked peerId (markAll window marks) after := by
  have hkept := markAll_mark window marks
  have hsub : ∀ n ∈ numbers after, n ∈ numbers before := by
    intro n hn
    exact (hshrinks.sub.map ReliablePacket.packetNumber).subset hn
  refine ⟨?_, (markAll_sound_iff h.sound marks).mpr hsent, ?_, ?_, ?_, ?_, ?_⟩
  · rw [hkept.size]
    exact h.size
  · intro c hc
    exact h.targets c (hshrinks.sub.subset hc)
  · exact hshrinks.nodup h.nodup
  · intro n hn
    rw [hkept.base, hkept.next]
    exact h.within n (hsub n hn)
  · intro n hlow hhigh
    rw [hkept.base] at hlow ⊢
    rw [hkept.next] at hhigh
    rw [flag_markAll h.sound.length]
    -- a number of the span was queued or marked before
    rcases h.covered n hlow hhigh with hqueued | hflag
    · obtain ⟨c, hc, rfl⟩ := List.mem_map.mp hqueued
      rcases hshrinks.kept c hc with hstays | hmarked
      · exact .inl (List.mem_map_of_mem hstays)
      · -- a queued number lies in the window, so its mark is set
        have hspan := h.sound.next_le
        refine .inr (.inr ⟨c.packetNumber, hmarked, ?_, by omega⟩)
        rw [xglWindowIsInWindowPacketNumber_iff]
        omega
    · exact .inr (.inl hflag)
  · intro n hn hflag
    rw [hkept.base, flag_markAll h.sound.length] at hflag
    obtain ⟨hlow, _⟩ := h.within n (hsub n hn)
    rcases hflag with hold | ⟨m, hm, _, hat⟩
    · exact h.unmarked n (hsub n hn) hold
    · have hmn : m = n := UInt32.toNat_inj.mp (by omega)
      exact hgone n hn (hmn ▸ hm)

/-- The base moves over marked numbers only. -/
theorem Tracked.advance {peerId : UInt16} {window : SlidingWindow}
    {queue : List ReliablePacket} (h : Tracked peerId window queue) :
    Tracked peerId (xglWindowAdvanceBasePacketNumber window) queue ∧
      ¬ (xglWindowAdvanceBasePacketNumber window).Flag 0 := by
  obtain ⟨k, _, hadvanced, hfirst⟩ := xglWindowAdvanceBasePacketNumber_advanced h.sound.length
  have hsound := (xglWindowAdvanceBasePacketNumber_sound_iff h.sound.toWindowShape).mpr h.sound
  have hle := hsound.base_le
  have hmax := window.nextPacketNumber.toNat_lt
  -- only sent numbers are marked, so the base stays below the next number
  have hk : window.sendBasePacketNumber.toNat + k ≤ window.nextPacketNumber.toNat := by
    rcases Nat.eq_zero_or_pos k with rfl | hpos
    · have := h.sound.base_le
      omega
    · by_contra hover
      exact h.sound.unmarked (k - 1) (by omega) (hadvanced.marked (k - 1) (by omega))
  have hbase : (xglWindowAdvanceBasePacketNumber window).sendBasePacketNumber.toNat
      = window.sendBasePacketNumber.toNat + k := by
    rw [hadvanced.base, UInt32.toNat_add, UInt32.toNat_ofNat']
    omega
  refine ⟨⟨?_, hsound, h.targets, h.nodup, ?_, ?_, ?_⟩, hfirst⟩
  · rw [hadvanced.size]
    exact h.size
  · intro n hn
    obtain ⟨hlow, hhigh⟩ := h.within n hn
    rw [hbase, hadvanced.next]
    refine ⟨?_, hhigh⟩
    by_contra hpassed
    exact h.unmarked n hn (hadvanced.marked _ (by omega))
  · intro n hlow hhigh
    rw [hbase] at hlow ⊢
    rw [hadvanced.next] at hhigh
    -- the numbers behind the new base, as before
    rcases h.covered n (by omega) hhigh with hqueued | hflag
    · exact .inl hqueued
    · refine .inr ((hadvanced.flags _).mpr ?_)
      rwa [show n.toNat - (window.sendBasePacketNumber.toNat + k) + k
        = n.toNat - window.sendBasePacketNumber.toNat by omega]
  · intro n hn hflag
    rw [hbase, hadvanced.flags] at hflag
    obtain ⟨hlow, _⟩ := h.within n hn
    -- the base has passed the number, or it stands at or behind it
    by_cases hpassed : window.sendBasePacketNumber.toNat + k ≤ n.toNat
    · rw [show n.toNat - (window.sendBasePacketNumber.toNat + k) + k
        = n.toNat - window.sendBasePacketNumber.toNat by omega] at hflag
      exact h.unmarked n hn hflag
    · exact h.unmarked n hn (hadvanced.marked _ (by omega))

/-! ### Removals -/

/-- With one entry per number, the number that is taken off is not queued any more. -/
theorem reliableUnlink_gone {n : UInt32} {targetId : UInt16} {queue : List ReliablePacket}
    (hnodup : (numbers queue).Nodup) (htargets : ∀ c ∈ contents queue, c.targetId = targetId) :
    n ∉ numbers (reliableUnlink n targetId queue) := by
  intro hmem
  obtain ⟨c, hc, hn⟩ := List.mem_map.mp hmem
  obtain ⟨entry, hentry, rfl⟩ := List.mem_map.mp hc
  have hqueue : entry ∈ queue := mem_of_mem_reliableUnlink hentry
  have hfor : entry.isFor n targetId = true := by
    have htarget := htargets entry.content (List.mem_map_of_mem hqueue)
    simp only [ReliablePacket.isFor, Bool.and_eq_true, beq_iff_eq]
    exact ⟨hn, htarget⟩
  -- the erased entry and this one would share the number
  simp only [reliableUnlink, List.mem_reverse] at hentry
  obtain ⟨erased, left, right, _, herased, hsplit, herase⟩ :=
    List.exists_of_eraseP (p := fun packet => packet.isFor n targetId)
      (List.mem_reverse.mpr hqueue) hfor
  rw [herase] at hentry
  have hrev : (numbers queue.reverse).Nodup := by
    simp only [numbers, contents, List.map_reverse]
    exact List.nodup_reverse.mpr hnodup
  rw [hsplit] at hrev
  simp only [numbers, contents, List.map_append, List.map_cons] at hrev
  rw [List.nodup_append, List.nodup_cons] at hrev
  obtain ⟨_, ⟨hright, _⟩, hcross⟩ := hrev
  have hsame : erased.content.packetNumber = entry.content.packetNumber :=
    (ReliablePacket.packetNumber_of_isFor herased).trans hn.symm
  rcases List.mem_append.mp hentry with hleft | hin
  · exact hcross _ (List.mem_map_of_mem (List.mem_map_of_mem hleft)) _ List.mem_cons_self
      hsame.symm
  · exact hright (hsame ▸ List.mem_map_of_mem (List.mem_map_of_mem hin))

/-- With one entry per number, none of the removed numbers is queued any more. -/
theorem reliableRemoveNumbers_gone {targetId : UInt16} (marks : List UInt32)
    (acc : Nat × ReliableQueue) (hnodup : (numbers acc.2.waitAckList).Nodup)
    (htargets : ∀ c ∈ contents acc.2.waitAckList, c.targetId = targetId) :
    ∀ n ∈ numbers (reliableRemoveNumbers targetId marks acc).2.waitAckList, n ∉ marks := by
  induction marks generalizing acc with
  | nil => simp
  | cons m rest ih =>
    obtain ⟨removed, queue⟩ := acc
    have hfirst := reliableUnlink_shrinks m targetId queue.waitAckList
    rw [reliableRemoveNumbers]
    dsimp only [xglReliableRemovePacketNumber]
    intro n hn hmem
    have hrest := ih (if (xglReliableFindPacketNumber queue m targetId).isSome then removed + 1
        else removed, { queue with waitAckList := reliableUnlink m targetId queue.waitAckList })
      (hfirst.nodup hnodup) (fun c hc => htargets c (hfirst.sub.subset hc)) n hn
    rcases List.mem_cons.mp hmem with rfl | hlater
    · obtain ⟨hshrinks, _⟩ := reliableRemoveNumbers_shrinks targetId rest
        (if (xglReliableFindPacketNumber queue n targetId).isSome then removed + 1 else removed,
          { queue with waitAckList := reliableUnlink n targetId queue.waitAckList })
      exact reliableUnlink_gone hnodup htargets
        ((hshrinks.sub.map ReliablePacket.packetNumber).subset hn)
    · exact hrest hlater

/-! ### ACK packets -/

section Acks

variable {env : TransportEnv} {ctx : TransportCtx} {peer : PeerState}

/-- An ACK_RANGE that names no unsent number keeps window and queue together. -/
theorem transportProcessAckRange_agree {sourceId : UInt16} {ack : AckRangeExt} (h : Agree peer)
    (hid : peer.peerId = sourceId)
    (hsent : (∃ n ∈ ack.numbers,
        (xglReliableFindPacketNumber peer.reliableQueue n sourceId).isSome = true) →
      ∀ n ∈ ack.numbers, ¬ Unsent peer.txWindow n) :
    Agree (transportProcessAckRange ctx peer sourceId ack).peer := by
  have htargets : ∀ c ∈ contents peer.reliableQueue.waitAckList, c.targetId = sourceId :=
    hid ▸ h.tracked.targets
  obtain ⟨hmono, hcount⟩ := reliableRemoveNumbers_count sourceId ack.numbers
    (0, peer.reliableQueue)
  obtain ⟨hshrinks, _⟩ := reliableRemoveNumbers_shrinks sourceId ack.numbers
    (0, peer.reliableQueue)
  have hgone := reliableRemoveNumbers_gone ack.numbers (0, peer.reliableQueue) h.tracked.nodup
    htargets
  unfold AckRangeExt.numbers at *
  unfold transportProcessAckRange xglReliableRemoveAckRanges
  dsimp only
  by_cases hnone : (reliableRemoveNumbers sourceId
      (ackRangeNumbers true ack.largestAck.toNat ack.ranges) (0, peer.reliableQueue)).1 = 0
  · -- nothing was removed, so nothing is marked
    rw [if_pos (by simpa using hnone)]
    have habsent : ∀ n ∈ ackRangeNumbers true ack.largestAck.toNat ack.ranges,
        xglReliableFindPacketNumber peer.reliableQueue n sourceId = none := by
      intro n hn
      by_contra hfound
      have := hcount.mpr ⟨n, hn, Option.isSome_iff_ne_none.mpr hfound⟩
      dsimp only at this
      omega
    rw [reliableRemoveNumbers_absent 0 habsent]
    exact h
  · rw [if_neg (by simpa using hnone)]
    have hmarked : (transportMarkAckRangeWindows (peer.txWindow, ctx.window) ack.largestAck
        ack.ranges).1
          = xglWindowAdvanceBasePacketNumber (markAll peer.txWindow
            (ackRangeNumbers true ack.largestAck.toNat ack.ranges)) :=
      congrArg xglWindowAdvanceBasePacketNumber (foldl_markAcked_fst _ _)
    have hunsent := hsent (hcount.mp (Nat.pos_of_ne_zero hnone))
    have hadvanced := (h.tracked.mark hunsent hshrinks hgone).advance
    simp only [transportUpdatePeerDeadline, hmarked]
    exact ⟨hadvanced.1, fun _ => hadvanced.2⟩

section Sack

variable (env) (config : TransportConfig) {sourceId : UInt16} (basePacket now : UInt32)
  (bitmap : Bytes)

/-- One bit of a SACK keeps window and queue together: a number that is marked was
queued, so it was sent. -/
theorem sackBitStep_tracked {state : SackState} (i : Nat)
    (h : Tracked sourceId state.windows.1 state.queue.waitAckList) :
    Tracked sourceId
      (sackBitStep env config sourceId basePacket now bitmap state i).2.windows.1
      (sackBitStep env config sourceId basePacket now bitmap state i).2.queue.waitAckList := by
  unfold sackBitStep
  dsimp only
  split
  · split
    · exact h
    · rename_i packet hfind
      have hqueued : basePacket + UInt32.ofNat i ∈ numbers state.queue.waitAckList := by
        obtain ⟨c, hc, hfor⟩ := xglReliableFindPacketNumber_isSome.mp
          (Option.isSome_iff_exists.mpr ⟨packet, hfind⟩)
        exact List.mem_map.mpr ⟨c, hc, ReliablePacket.packetNumber_of_isFor hfor⟩
      have hshrinks : Shrinks (fun c => c.packetNumber ∈ [basePacket + UInt32.ofNat i])
          state.queue.waitAckList
          (reliableUnlink (basePacket + UInt32.ofNat i) sourceId state.queue.waitAckList) :=
        (reliableUnlink_shrinks _ sourceId state.queue.waitAckList).mono
          fun c hc => List.mem_singleton.mpr hc
      have hsent : ∀ n ∈ [basePacket + UInt32.ofNat i], ¬ Unsent state.windows.1 n := by
        rintro n hn ⟨_, hunsent⟩
        rw [List.mem_singleton.mp hn, UInt32.le_iff_toNat_le] at hunsent
        have := (h.within _ hqueued).2
        omega
      refine h.mark hsent hshrinks ?_
      intro n hn hmem
      rw [List.mem_singleton.mp hmem] at hn
      exact reliableUnlink_gone h.nodup h.targets hn
  · obtain ⟨hcontents, _, hwindows⟩ := sackRetransmit_spec env config sourceId
      (basePacket + UInt32.ofNat i) now state
    rw [hwindows]
    exact h.of_contents hcontents

/-- A bit fails only when a queued packet could not be retransmitted. -/
theorem sackBitStep_error {state : SackState} {i : Nat}
    (herr : (sackBitStep env config sourceId basePacket now bitmap state i).1 ≠ .ok) :
    (sackBitStep env config sourceId basePacket now bitmap state i).2.queue.waitAckList ≠ [] := by
  intro hempty
  unfold sackBitStep at herr hempty
  dsimp only at herr hempty
  split at herr
  · split at herr <;> exact herr rfl
  · rename_i hclear
    rw [if_neg hclear] at hempty
    obtain ⟨hcontents, _, _⟩ := sackRetransmit_spec env config sourceId
      (basePacket + UInt32.ofNat i) now state
    rw [hempty] at hcontents
    -- nothing was queued, so nothing was sent
    have hnone : state.queue.waitAckList = [] := by
      simpa [contents] using hcontents.symm
    simp [sackRetransmit, xglReliableFindPacketNumber, hnone] at herr

/-- The bits of a SACK keep window and queue together, and the loop only stops early
with something queued. -/
theorem sackLoop_tracked (indices : List Nat) {state : SackState}
    (h : Tracked sourceId state.windows.1 state.queue.waitAckList) :
    Tracked sourceId
        (sackLoop env config sourceId basePacket now bitmap indices state).2.windows.1
        (sackLoop env config sourceId basePacket now bitmap indices state).2.queue.waitAckList ∧
      ((sackLoop env config sourceId basePacket now bitmap indices state).1 ≠ .ok →
        (sackLoop env config sourceId basePacket now bitmap indices state).2.queue.waitAckList
          ≠ []) := by
  induction indices generalizing state with
  | nil => exact ⟨h, fun hne => absurd rfl hne⟩
  | cons i rest ih =>
    have htracked := sackBitStep_tracked env config basePacket now bitmap i h
    have hstop := @sackBitStep_error env config sourceId basePacket now bitmap state i
    rw [sackLoop]
    generalize sackBitStep env config sourceId basePacket now bitmap state i = stepped
      at htracked hstop
    obtain ⟨err, next⟩ := stepped
    cases err with
    | ok => exact ih htracked
    | _ => exact ⟨htracked, fun _ => hstop (by simp)⟩

end Sack

/-- A SACK keeps window and queue together. -/
theorem transportProcessSackValue_agree {sourceId : UInt16} {value : Bytes} (h : Agree peer)
    (hid : peer.peerId = sourceId) :
    Agree (transportProcessSackValue env ctx peer sourceId value).2.2 := by
  subst hid
  cases hdecode : xglWireDecodeSackExtValue value 64 with
  | error err =>
    unfold transportProcessSackValue
    rw [hdecode]
    exact h
  | ok sack =>
    by_cases hzero : sack.bitmap.length = 0
    · unfold transportProcessSackValue
      rw [hdecode]
      dsimp only
      rw [if_pos (by simpa using hzero)]
      exact h
    by_cases hempty : sackIndices sack.bitmap = []
    · -- the base packet is sent again, or there is none
      unfold transportProcessSackValue
      rw [hdecode]
      dsimp only
      rw [if_neg (by simpa using hzero), if_pos (by rw [hempty]; rfl)]
      split
      · exact h
      · obtain ⟨hcontents, _, hwindows⟩ := sackRetransmit_spec env ctx.config peer.peerId
          sack.basePacket (xglTimeMs env ctx.io).1
          { queue := peer.reliableQueue
            windows := (peer.txWindow, ctx.window)
            io := (xglTimeMs env ctx.io).2 }
        dsimp only [SackState.finish]
        refine ⟨?_, fun hnil => ?_⟩
        · dsimp only
          rw [hwindows]
          exact h.tracked.of_contents hcontents
        · dsimp only at hnil ⊢
          rw [hwindows]
          rw [hnil] at hcontents
          exact h.settled (by simpa [contents] using hcontents.symm)
    rw [transportProcessSackValue_bits hdecode hzero hempty]
    obtain ⟨htracked, hstop⟩ := @sackLoop_tracked env ctx.config peer.peerId sack.basePacket
      (xglTimeMs env ctx.io).1 sack.bitmap (sackIndices sack.bitmap) (sackStart env ctx peer)
      h.tracked
    unfold sackFinish
    split
    · have hadvanced := htracked.advance
      exact ⟨hadvanced.1, fun _ => hadvanced.2⟩
    · rename_i herr
      exact ⟨htracked, fun hnil => absurd hnil (hstop herr)⟩

/-- An ACK packet that names no unsent number keeps window and queue together. -/
theorem transportApplyAck_agree {packet : Packet} (h : Agree peer)
    (hid : peer.peerId = packet.sourceId) (hnames : NamesSent env ctx peer packet) :
    Agree (transportApplyAck env ctx peer packet).peer := by
  have hafter := congrArg Prod.snd (transportApplyAck_eq env ctx peer packet)
  dsimp only at hafter
  rw [hafter]
  cases hbody : packet.ackBody with
  | nothing => exact h
  | range ack =>
    obtain ⟨ext, hfirst, hdecode⟩ := Packet.ackBody_range_iff.mp hbody
    exact transportProcessAckRange_agree h hid (hnames.range ext ack hfirst hdecode)
  | sack value => exact transportProcessSackValue_agree h hid

end Acks

/-! ### Sends -/

/-- A send whose numbers do not wrap keeps window and queue together. -/
theorem Agree.grow {k : Nat} {peer after : PeerState} (h : Agree peer)
    (hgrown : Grown peer.peerId k peer after)
    (hwrap : peer.txWindow.nextPacketNumber.toNat ≤ after.txWindow.nextPacketNumber.toNat) :
    Agree after := by
  obtain ⟨added, hcontents, hadded, htargets⟩ := hgrown.queue
  have hroom := hgrown.room
  have hbyte := peer.txWindow.windowSize.toNat_lt
  have hle := h.tracked.sound.base_le
  have hspan := h.tracked.sound.next_le
  have hmax := peer.txWindow.nextPacketNumber.toNat_lt
  -- the counter as a natural number
  have hnext : after.txWindow.nextPacketNumber.toNat
      = peer.txWindow.nextPacketNumber.toNat + k := by
    rw [hgrown.next, UInt32.toNat_add, UInt32.toNat_ofNat'] at hwrap ⊢
    omega
  have hnumber : ∀ i < k, (peer.txWindow.nextPacketNumber + UInt32.ofNat i).toNat
      = peer.txWindow.nextPacketNumber.toNat + i := by
    intro i hi
    have := after.txWindow.nextPacketNumber.toNat_lt
    rw [UInt32.toNat_add, UInt32.toNat_ofNat']
    omega
  have hinside : after.txWindow.nextPacketNumber.toNat
      ≤ after.txWindow.sendBasePacketNumber.toNat + peer.txWindow.windowSize.toNat := by
    rcases hgrown.span with rfl | hdist
    · rw [hgrown.base]
      omega
    · rw [hgrown.base] at hdist ⊢
      rw [UInt32.toNat_sub_of_le _ _ (UInt32.le_iff_toNat_le.mpr (by omega))] at hdist
      omega
  have hflag : ∀ i, after.txWindow.Flag i ↔ peer.txWindow.Flag i := by
    intro i
    simp only [SlidingWindow.Flag, hgrown.flags]
  have hnumbers : ∀ n, n ∈ numbers after.reliableQueue.waitAckList ↔
      n ∈ numbers peer.reliableQueue.waitAckList ∨
        ∃ i < k, n = peer.txWindow.nextPacketNumber + UInt32.ofNat i := by
    intro n
    simp only [numbers, hcontents, List.map_append, List.mem_append, hadded, List.mem_map,
      List.mem_range, eq_comm]
  refine ⟨⟨?_, ⟨⟨?_, ?_, ?_⟩, ?_⟩, ?_, ?_, ?_, ?_, ?_⟩, ?_⟩
  · rw [hgrown.size]
    exact h.tracked.size
  · rw [hgrown.base]
    omega
  · rw [hgrown.size]
    exact hinside
  · rw [hgrown.flags, hgrown.size]
    exact h.tracked.sound.length
  · intro i hi
    rw [hflag]
    rw [hgrown.base] at hi
    exact h.tracked.sound.unmarked i (by omega)
  · intro c hc
    rw [hcontents, List.mem_append] at hc
    rw [show after.peerId = peer.peerId from congrArg PeerKey.peerId hgrown.key]
    exact hc.elim (h.tracked.targets c) (htargets c)
  · refine hgrown.nodup h.tracked.nodup ?_
    intro entry hentry hlt
    have hbetween := h.tracked.within entry.packetNumber (mem_numbers hentry)
    rw [UInt32.lt_iff_toNat_lt, UInt32.toNat_sub, UInt8.toNat_toUInt32] at hlt
    omega
  · intro n hn
    rw [hgrown.base]
    rcases (hnumbers n).mp hn with hold | ⟨i, hi, rfl⟩
    · have := h.tracked.within n hold
      omega
    · rw [hnumber i hi]
      omega
  · intro n hlow hhigh
    rw [hgrown.base] at hlow ⊢
    rw [hflag, hnumbers]
    -- a number that was sent before, or one of this send
    by_cases hold : n.toNat < peer.txWindow.nextPacketNumber.toNat
    · exact (h.tracked.covered n hlow hold).imp_left .inl
    · have hi : n.toNat - peer.txWindow.nextPacketNumber.toNat < k := by omega
      refine .inl (.inr ⟨_, hi, UInt32.toNat_inj.mp ?_⟩)
      rw [hnumber _ hi]
      omega
  · intro n hn
    rw [hgrown.base, hflag]
    rcases (hnumbers n).mp hn with hold | ⟨i, hi, rfl⟩
    · exact h.tracked.unmarked n hold
    · exact h.tracked.sound.unmarked _ (by rw [hnumber i hi]; omega)
  · intro hempty
    rw [hempty] at hcontents
    rw [hflag]
    refine h.settled ?_
    have hnil := (List.append_eq_nil_iff.mp hcontents.symm).1
    simpa [contents] using hnil

/-! ### Steps -/

/-- Window and queue agree in every peer. -/
def AllAgree (peers : List PeerState) : Prop :=
  ∀ peer ∈ peers, Agree peer

/-- The receiving side of a peer does not matter. -/
theorem Agree.congr {peer after : PeerState} (h : Agree peer) (hid : after.peerId = peer.peerId)
    (hwindow : after.txWindow = peer.txWindow)
    (hqueue : after.reliableQueue.waitAckList = peer.reliableQueue.waitAckList) : Agree after := by
  refine ⟨?_, ?_⟩
  · rw [hid, hwindow, hqueue]
    exact h.tracked
  · rw [hwindow, hqueue]
    exact h.settled

/-- A peer that has sent nothing. -/
theorem Agree.fresh {peer : PeerState} (hsize : peer.txWindow.windowSize ≠ 0)
    (hwindow : peer.txWindow = freshWindow peer.txWindow.windowSize)
    (hqueue : peer.reliableQueue.waitAckList = []) : Agree peer := by
  have htracked := Tracked.fresh peer.peerId hsize
  refine ⟨?_, ?_⟩
  · rw [hwindow, hqueue]
    exact htracked
  · intro _ hflag
    rw [hwindow] at hflag
    exact absurd (List.eq_of_mem_replicate (List.mem_of_getElem? hflag)) (by simp)

/-- A peer that agrees is written back. -/
theorem AllAgree.put {peers : List PeerState} (h : AllAgree peers) {peer : PeerState}
    (hpeer : Agree peer) : AllAgree (putPeer peer peers) := by
  intro other hother
  rcases mem_putPeer hother with rfl | hmem
  · exact hpeer
  · exact h other hmem

/-- A peer that agrees is added. -/
theorem AllAgree.cons {peers : List PeerState} (h : AllAgree peers) {peer : PeerState}
    (hpeer : Agree peer) : AllAgree (peer :: peers) := by
  intro other hother
  rcases List.mem_cons.mp hother with rfl | hmem
  · exact hpeer
  · exact h other hmem

/-- The peer a lookup finds agrees. -/
theorem AllAgree.lookup {peers : List PeerState} (h : AllAgree peers) {key : PeerKey}
    {peer : PeerState} (hlook : lookupPeer peers key = some peer) : Agree peer :=
  h peer (peerOf_mem (peerOf_of_lookupPeer hlook))

/-- Selecting the peer of a data packet. -/
theorem RxSelected.agree {ctx selected : TransportCtx} {packet : Packet} {peer : PeerState}
    (hsel : RxSelected ctx packet selected peer) (h : AllAgree ctx.peers) :
    AllAgree selected.peers ∧ Agree peer := by
  cases hsel with
  | found old hlook hsession now io hevents =>
    have hpeer : Agree { old with lastActiveMs := now } := (h.lookup hlook).congr rfl rfl rfl
    exact ⟨h.put hpeer, hpeer⟩
  | created hlook hsession now io hevents hsize =>
    have hpeer : Agree (resetPeer (freshPeer ctx packet.peerKey) packet.sessionId now) :=
      .fresh hsize rfl rfl
    exact ⟨h.cons hpeer, hpeer⟩
  | createdBare hlook hsession io hevents hsize =>
    have hpeer : Agree (freshPeer ctx packet.peerKey) := .fresh hsize rfl rfl
    exact ⟨h.cons hpeer, hpeer⟩

/-- Data packets do not touch the sending side. -/
theorem transportReceiveData_agree (env : TransportEnv) {ctx : TransportCtx} (packet : Packet)
    (data : Bytes) (h : AllAgree ctx.peers) :
    AllAgree (transportReceiveData env ctx packet data).2.peers := by
  by_cases hrel : packet.reliable = XGL_RELIABILITY_ACK_ELICITING
  · rcases transportReceiveData_cases env ctx packet data hrel with
      ⟨err, session, io, _, _, _, heq⟩ | ⟨selected, peer, hsel, _, heq⟩
    · rw [heq]
      exact h
    · obtain ⟨hselected, hpeer⟩ := hsel.agree h
      rw [heq, transportReceiveReliable_eq]
      refine hselected.put ?_
      rw [rxReliable_peer]
      exact hpeer.congr rfl rfl rfl
  · unfold transportReceiveData
    rcases transportPrepareRxPeer_cases env ctx packet with
      ⟨err, session, io, peer, hne, _, heq⟩ | ⟨_, heq⟩ |
        ⟨prepared, peer, selected, touched, hsel, heq, htouch⟩
    · rw [heq]
      cases err with
      | ok => exact absurd rfl hne
      | _ => exact h
    · rw [heq]
      dsimp only [transportTouchPeer]
      rw [if_neg (by simp [hrel])]
      exact h
    · rw [heq]
      dsimp only
      rw [htouch, if_neg (by simp [hrel])]
      exact (hsel.agree h).1

/-- A control packet leaves the sending side of its peer alone or clears it. -/
theorem transportProcessControlPacket_agree (env : TransportEnv) {ctx : TransportCtx}
    (packet : Packet) (h : AllAgree ctx.peers) :
    AllAgree (transportProcessControlPacket env ctx packet).2.peers := by
  have hcases := transportProcessControlPacket_cases env ctx packet
  generalize (transportProcessControlPacket env ctx packet).2 = after at hcases ⊢
  cases hcases with
  | refused session io hevents => exact h
  | reset hsid peer hlook hreset now io hevents =>
    exact h.put (.fresh (h.lookup hlook).tracked.size rfl rfl)
  | established hsid peer hlook hsession now io hevents =>
    exact h.put ((h.lookup hlook).congr rfl rfl rfl)
  | created hsid hlook window hwindow manager now io peer hevents hpeer hsize =>
    refine h.cons ?_
    rcases hpeer with rfl | ⟨_, rfl⟩
    · exact .fresh hsize rfl rfl
    · exact .fresh hsize rfl rfl

/-- The peer an ACK selects is one of its source. -/
theorem peerId_of_transportFindAckPeer {peers : List PeerState} {packet : Packet}
    {peer : PeerState} (h : transportFindAckPeer peers packet = some peer) :
    peer.peerId = packet.sourceId := by
  simp only [transportFindAckPeer] at h
  split at h
  · split at h
    · rename_i found hscope
      cases h
      rw [transportFindPeerScope_eq] at hscope
      exact congrArg PeerKey.peerId (peerOf_key hscope)
    · exact peerId_of_transportFindPeer h
  · exact peerId_of_transportFindPeer h

section Steps

variable {env : TransportEnv} {ctx : TransportCtx}

/-- An ACK packet that names no unsent number. -/
theorem transportProcessAckPacket_agree {packet : Packet} (h : AllAgree ctx.peers)
    (hnames : ∀ peer, transportFindAckPeer ctx.peers packet = some peer →
      ackReaches packet peer = true → NamesSent env ctx peer packet) :
    AllAgree (transportProcessAckPacket env ctx packet).2.peers := by
  rw [transportProcessAckPacket_peers]
  cases hfind : transportFindAckPeer ctx.peers packet with
  | none => exact h
  | some peer =>
    show AllAgree (if ackReaches packet peer then
      putPeer (transportApplyAck env ctx peer packet).peer ctx.peers else ctx.peers)
    split
    · rename_i hreach
      have hpeer := h peer (peerOf_mem (peerOf_of_transportFindAckPeer hfind))
      exact h.put (transportApplyAck_agree hpeer (peerId_of_transportFindAckPeer hfind)
        (hnames peer hfind hreach))
    · exact h

/-- Any packet, when an ACK among them names no unsent number. -/
theorem xglTransportReceive_agree {packet : Packet} (h : AllAgree ctx.peers)
    (hnames : ∀ peer, transportFindAckPeer ctx.peers packet = some peer →
      ackReaches packet peer = true → NamesSent env ctx peer packet) :
    AllAgree (xglTransportReceive env ctx packet).2.peers := by
  simp only [xglTransportReceive]
  split
  · exact transportProcessControlPacket_agree env packet h
  · split
    · exact transportProcessAckPacket_agree h hnames
    · split
      · exact h
      · exact transportReceiveData_agree env packet _ h

/-- Selecting or creating the peer of a send. -/
theorem GetOrCreate.agree {base : TransportCtx} {txData : TxData} {peer : PeerState}
    (h : GetOrCreate ctx txData.peerKey (base, some peer)) (hall : AllAgree ctx.peers) :
    AllAgree base.peers ∧ Agree peer ∧ peerOf base.peers peer.key = some peer ∧
      peer.peerId = txData.targetId ∧
      (peer ∈ ctx.peers ∨ peer.txWindow.nextPacketNumber = 0) := by
  cases h with
  | found _ hlook =>
    have hentry := peerOf_of_lookupPeer hlook
    have hid : peer.peerId = txData.targetId :=
      (peerId_of_lookupPeer hlook).trans txData.peerKey_peerId
    exact ⟨hall, hall.lookup hlook, hentry, hid, .inl (peerOf_mem hentry)⟩
  | created hlook io hevents hsize =>
    have hpeer : Agree (freshPeer ctx txData.peerKey) := .fresh hsize rfl rfl
    exact ⟨hall.cons hpeer, hpeer, by rw [peerOf_cons, if_pos rfl], txData.peerKey_peerId,
      .inr rfl⟩

/-- A request whose numbers do not wrap. -/
theorem xglTransportSend_agree {txData : TxData} (h : AllAgree ctx.peers)
    (hwrap : ∀ peer ∈ ctx.peers, ∀ after,
      peerOf (xglTransportSend env ctx txData).2.peers peer.key = some after →
        peer.txWindow.nextPacketNumber.toNat ≤ after.txWindow.nextPacketNumber.toNat) :
    AllAgree (xglTransportSend env ctx txData).2.peers := by
  simp only [xglTransportSend] at hwrap ⊢
  split at hwrap
  · exact h
  rename_i data hdata
  split at hwrap
  · rename_i hempty
    rw [if_pos hempty]
    exact h
  rename_i hempty
  rw [if_neg hempty]
  split at hwrap
  · rename_i hno
    rw [if_pos hno]
    exact h
  rename_i hno
  rw [if_neg hno]
  split at hwrap
  · rename_i hrel
    rw [if_pos hrel]
    -- the send behind the selection, on an entry with room
    have hplanned : ∀ (base : TransportCtx) (peer : PeerState), AllAgree base.peers →
        Agree peer → peerOf base.peers peer.key = some peer → peer.peerId = txData.targetId →
        xglWindowCanSendPacketNumber peer.txWindow = true →
        (∀ after, peerOf (transportSendPlanned env base (some peer) txData data).2.peers peer.key
            = some after →
          peer.txWindow.nextPacketNumber.toNat ≤ after.txWindow.nextPacketNumber.toNat) →
        AllAgree (transportSendPlanned env base (some peer) txData data).2.peers := by
      intro base peer hbase hpeer hentry hid hcan hmono
      obtain ⟨after, k, hpeers, hgrown, _⟩ := transportSendPlanned_spec env base peer txData data
        hcan hentry
      rw [hpeers] at hmono ⊢
      refine hbase.put (hpeer.grow (hid ▸ hgrown) (hmono after ?_))
      rw [peerOf_putPeer, if_pos hgrown.key, hentry]
      rfl
    have hcases := transportPrepareReliableSend_cases env ctx txData
    generalize transportPrepareReliableSend env ctx txData = prepared at hcases hwrap ⊢
    cases hcases with
    | refused hlook session io hevents => exact h
    | full base peer hgot hfull => exact (hgot.agree h).1
    | ready base peer hgot hcan hhello =>
      obtain ⟨hbase, hpeer, hentry, hid, hfrom⟩ := hgot.agree h
      refine hplanned base peer hbase hpeer hentry hid hcan fun after hafter => ?_
      -- the peer was there, or it is new and has sent nothing
      rcases hfrom with hmem | hzero
      · exact hwrap peer hmem after hafter
      · rw [hzero]
        exact Nat.zero_le _
    | greeted base peer hgot hcan hhello io hsent =>
      obtain ⟨hbase, hpeer, hentry, hid, hfrom⟩ := hgot.agree h
      have hgreeted : Agree { peer with helloSent := true } := hpeer.congr rfl rfl rfl
      refine hplanned _ _ (hbase.put hgreeted) hgreeted ?_ hid hcan fun after hafter => ?_
      · rw [peerOf_putPeer, if_pos rfl]
        exact congrArg (Option.map fun _ => _) hentry
      · rcases hfrom with hmem | hzero
        · exact hwrap peer hmem after hafter
        · show peer.txWindow.nextPacketNumber.toNat ≤ _
          rw [hzero]
          exact Nat.zero_le _
    | mute base peer hgot hhello err hne io hsent =>
      cases err <;> first | exact absurd rfl hne | exact (hgot.agree h).1
  · rename_i hrel
    rw [if_neg hrel]
    rw [transportSendPlanned_unreliable]
    exact h

/-- The timers, while no due entry has used up its retries. -/
theorem TimerSpec.agree {config : TransportConfig} {now : UInt32} {new : List TransportEvent}
    {peer after : PeerState} (hspec : TimerSpec config now new peer after) (h : Agree peer)
    (hretry : ∀ entry ∈ peer.reliableQueue.waitAckList, entry.due now = true →
      entry.retryCount < peer.reliableQueue.maxRetryCount) : Agree after := by
  have hkept : ∀ c ∈ contents peer.reliableQueue.waitAckList,
      c ∈ contents after.reliableQueue.waitAckList := by
    intro c hc
    rcases hspec.queue.kept c hc with hstays | ⟨entry, hmem, _, hdue, hused, _⟩
    · exact hstays
    · exact absurd (hretry entry hmem hdue) (UInt8.not_lt.mpr hused)
  -- a sublist with all members of a list without repetitions is that list
  have hnodup : (contents peer.reliableQueue.waitAckList).Nodup :=
    h.tracked.nodup.of_map ReliablePacket.packetNumber
  have hsame : contents after.reliableQueue.waitAckList
      = contents peer.reliableQueue.waitAckList :=
    hspec.queue.sub.eq_of_length_le (List.subperm_of_subset hnodup hkept).length_le
  obtain ⟨queue, deadline, hframe⟩ := hspec.frame
  subst hframe
  refine ⟨h.tracked.of_contents hsame, fun hempty => h.settled ?_⟩
  dsimp only at hempty hsame
  rw [hempty] at hsame
  simpa [contents] using hsame.symm

/-- The reassembly timeouts leave the peers alone. -/
theorem transportProcessFragmentTimeouts_peers (now : UInt32) :
    (transportProcessFragmentTimeouts ctx now).peers = ctx.peers := by
  simp only [transportProcessFragmentTimeouts]
  split <;> rfl

/-- The reassembly timeouts leave the settings alone. -/
theorem transportProcessFragmentTimeouts_config (now : UInt32) :
    (transportProcessFragmentTimeouts ctx now).config = ctx.config := by
  simp only [transportProcessFragmentTimeouts]
  split <;> rfl

/-- Only present peers are left by the reclaim. -/
theorem mem_transportReclaimIdlePeers {now : UInt32} {peer : PeerState}
    (h : peer ∈ (transportReclaimIdlePeers ctx now).peers) : peer ∈ ctx.peers := by
  simp only [transportReclaimIdlePeers] at h
  split at h
  · exact h
  · exact List.mem_of_mem_filter h

/-- What holds between peers in their order. -/
theorem mem_of_forall₂ {R : PeerState → PeerState → Prop} {peers afters : List PeerState}
    (h : List.Forall₂ R peers afters) {after : PeerState} (hmem : after ∈ afters) :
    ∃ peer ∈ peers, R peer after := by
  induction h with
  | nil => cases hmem
  | cons hab _ ih =>
    rcases List.mem_cons.mp hmem with rfl | hrest
    · exact ⟨_, List.mem_cons_self, hab⟩
    · obtain ⟨peer, hpeer, hrel⟩ := ih hrest
      exact ⟨peer, List.mem_cons_of_mem _ hpeer, hrel⟩

/-- Periodic processing, while no due entry has used up its retries. -/
theorem xglTransportRun_agree {now : UInt32} (h : AllAgree ctx.peers)
    (hretry : ∀ peer ∈ ctx.peers, ∀ entry ∈ peer.reliableQueue.waitAckList,
      entry.due now = true → entry.retryCount < peer.reliableQueue.maxRetryCount) :
    AllAgree (xglTransportRun env ctx now).peers := by
  obtain ⟨timed, _, hforall⟩ := transportProcessRetransmissions_spec env ctx.config now
    ctx.peers ctx.io fun peer hpeer => (h peer hpeer).tracked.nodup
  intro after hafter
  have hmem := mem_transportReclaimIdlePeers hafter
  rw [transportProcessFragmentTimeouts_peers] at hmem
  obtain ⟨peer, hpeer, hspec⟩ := mem_of_forall₂ hforall hmem
  exact hspec.agree (h peer hpeer) (hretry peer hpeer)

end Steps

/-! ### Whole runs -/

/-- An ACK names numbers that were sent, and a send does not take the counter of a
peer round. -/
def Plain (env : TransportEnv) (ctx : TransportCtx) : TransportAction → Prop
  | .send txData => ∀ peer ∈ ctx.peers, ∀ after,
      peerOf (xglTransportSend env ctx txData).2.peers peer.key = some after →
        peer.txWindow.nextPacketNumber.toNat ≤ after.txWindow.nextPacketNumber.toNat
  | .receive packet => ∀ peer, transportFindAckPeer ctx.peers packet = some peer →
      ackReaches packet peer = true → NamesSent env ctx peer packet
  | .run _ => True

/-- No entry that the timers find due has used up its retries. -/
def RetriesLeft (ctx : TransportCtx) : TransportAction → Prop
  | .run now => ∀ peer ∈ ctx.peers, ∀ entry ∈ peer.reliableQueue.waitAckList,
      entry.due now = true → entry.retryCount < peer.reliableQueue.maxRetryCount
  | _ => True

/-- The send window and the wait-ACK queue of a peer describe the same packets. -/
structure WindowMatchesQueue (peer : PeerState) : Prop where
  covered : ∀ n : UInt32, peer.txWindow.sendBasePacketNumber ≤ n →
    n < peer.txWindow.nextPacketNumber →
    n ∈ numbers peer.reliableQueue.waitAckList ∨
      peer.txWindow.Flag (n.toNat - peer.txWindow.sendBasePacketNumber.toNat)
  within : ∀ n ∈ numbers peer.reliableQueue.waitAckList,
    peer.txWindow.sendBasePacketNumber ≤ n ∧ n < peer.txWindow.nextPacketNumber
  empty : peer.reliableQueue.waitAckList = [] →
    peer.txWindow.sendBasePacketNumber = peer.txWindow.nextPacketNumber ∧
      xglWindowCanSendPacketNumber peer.txWindow = true

/-- The agreement, as the numbers of window and queue. -/
theorem Agree.matches {peer : PeerState} (h : Agree peer) : WindowMatchesQueue peer where
  covered := fun n hlow hhigh => h.tracked.covered n (UInt32.le_iff_toNat_le.mp hlow)
    (UInt32.lt_iff_toNat_lt.mp hhigh)
  within := fun n hn => (h.tracked.within n hn).imp UInt32.le_iff_toNat_le.mpr
    UInt32.lt_iff_toNat_lt.mpr
  empty := h.caught_up

/-- One step. -/
theorem transportStep_agree {env : TransportEnv} {ctx : TransportCtx} {action : TransportAction}
    (h : AllAgree ctx.peers) (hplain : Plain env ctx action) (hretries : RetriesLeft ctx action) :
    AllAgree (transportStep env ctx action).peers := by
  cases action with
  | send txData => exact xglTransportSend_agree h hplain
  | receive packet => exact xglTransportReceive_agree h hplain
  | run now => exact xglTransportRun_agree h hretries

/-- A whole run, by induction on its steps. -/
theorem runActions_agree {env : TransportEnv} (actions : List TransportAction)
    {ctx : TransportCtx} (h : AllAgree ctx.peers)
    (hplain : Along (transportStep env) (Plain env) actions ctx)
    (hretries : Along (transportStep env) RetriesLeft actions ctx) :
    AllAgree (runActions env actions ctx).peers := by
  induction actions generalizing ctx with
  | nil => exact h
  | cons action rest ih =>
    have hstep := transportStep_agree h hplain.1 hretries.1
    exact ih hstep hplain.2 hretries.2

/-- Window and queue agree. In a run from a fresh context in which no due entry has
used up its retries, in every state reached, the numbers from base to next of each
peer are queued or marked, only they are queued, and a peer with an empty queue can
send. -/
theorem windows_agree (env : TransportEnv) (config : TransportConfig) (ctx : TransportCtx)
    (hinit : xglTransportInit config = .ok ctx) (actions : List TransportAction)
    (hplain : Along (transportStep env) (Plain env) actions ctx)
    (hretries : Along (transportStep env) RetriesLeft actions ctx) (k : Nat) :
    ∀ peer ∈ (runActions env (actions.take k) ctx).peers, WindowMatchesQueue peer := by
  have hfresh : AllAgree ctx.peers := by
    rw [(xglTransportInit_fresh hinit).1]
    intro peer hpeer
    cases hpeer
  intro peer hpeer
  have hagree := runActions_agree (actions.take k) hfresh (hplain.take k) (hretries.take k)
  exact (hagree peer hpeer).matches

/-- The windows of node 1 after a retransmission of its packet. -/
theorem retransmitted_windows :
    (runActions calmEnv [.send sampleTx, .run 2000] senderTransport).peers.map
        PeerState.txWindow
      = [{ windowSize := 8, nextPacketNumber := 1, ackReceived := List.replicate 8 false }] := by
  decide +kernel

/-- A packet that is sent, sent again and acknowledged. -/
theorem windows_agree_acknowledged :
    (runActions calmEnv [.send sampleTx, .run 2000, .receive (rangeAck 0 1)]
        senderTransport).peers.map PeerState.key = [scopedKey 2 5 0] ∧
      ∀ peer ∈ (runActions calmEnv [.send sampleTx, .run 2000, .receive (rangeAck 0 1)]
        senderTransport).peers, WindowMatchesQueue peer := by
  refine ⟨by decide +kernel, windows_agree calmEnv senderConfig senderTransport rfl
    [.send sampleTx, .run 2000, .receive (rangeAck 0 1)] ⟨?_, trivial, ?_, trivial⟩
    ⟨trivial, ?_, trivial, trivial⟩ 3⟩
  · intro peer hpeer
    cases hpeer
  · intro peer hfind _
    have hwindow := List.mem_map_of_mem (f := PeerState.txWindow)
      (peerOf_mem (peerOf_of_transportFindAckPeer hfind))
    rw [show transportStep calmEnv (transportStep calmEnv senderTransport (.send sampleTx))
        (.run 2000) = runActions calmEnv [.send sampleTx, .run 2000] senderTransport from rfl,
      retransmitted_windows, List.mem_singleton] at hwindow
    exact rangeAck_namesSent (by rw [hwindow])
  · have hfirst : ∀ peer ∈ (transportStep calmEnv senderTransport (.send sampleTx)).peers,
        ∀ entry ∈ peer.reliableQueue.waitAckList,
          entry.retryCount < peer.reliableQueue.maxRetryCount := by decide +kernel
    intro peer hpeer entry hentry _
    exact hfirst peer hpeer entry hentry

/-- The packet is never acknowledged. -/
def exhausting : List TransportAction :=
  [.send sampleTx, .run 2000, .run 5000, .run 10000, .run 20000]

/-- When the retries are used up, the entry leaves the queue, but the base of the
window does not move: one place less for good. -/
theorem exhaustion_breaks_agreement :
    xglTransportInit senderConfig = .ok senderTransport ∧
      Along (transportStep calmEnv) (Plain calmEnv) exhausting senderTransport ∧
      ¬ ∀ peer ∈ (runActions calmEnv exhausting senderTransport).peers,
        WindowMatchesQueue peer := by
  refine ⟨rfl, ⟨?_, trivial, trivial, trivial, trivial, trivial⟩, fun hmatch => ?_⟩
  · intro peer hpeer
    cases hpeer
  · have hstuck : (runActions calmEnv exhausting senderTransport).peers.map (fun peer =>
        (peer.reliableQueue.waitAckList, peer.txWindow.sendBasePacketNumber,
          peer.txWindow.nextPacketNumber)) = [([], 0, 1)] := by decide +kernel
    obtain ⟨peer, hmem, hpeer⟩ := List.mem_map.mp (by rw [hstuck]; exact List.mem_cons_self)
    simp only [Prod.mk.injEq] at hpeer
    obtain ⟨hqueue, hbase, hnext⟩ := hpeer
    have hcaught := ((hmatch peer hmem).empty hqueue).1
    rw [hbase, hnext] at hcaught
    exact absurd hcaught (by decide)

end XgenLink
