import XgenLink.Lib.Run
import XgenLink.Proofs.PeerRule

/-!
# `XgenLink.Proofs.SharedWindow`: the window of the context and the queues of the peers

A transport has a window for each peer, and one more in its context that all peers share. Every
reliable packet takes a number of its own peer and, when the context window has room, the next
number of the context. An acknowledgement marks the number of the peer in both windows. So
the context window empties with the queues as long as the numbers it takes are numbers of queued
packets.

With one peer the two counters run side by side. With several they do not: the context gives out
numbers of its own, an acknowledgement names numbers of a peer, and a number of the context that
no peer has in flight is never marked. The condition is on each action: the numbers a request
takes of the context wait in a queue, an ACK marks numbers that were taken, and the timers give up
no packet.

* `WindowFollows`: every number a window has in flight is marked or waits in a queue. `mark`,
  `advance` and `take` are what can happen to such a window.
* `NamesTaken`, `SendFollows`, `ActionFollows`: when an action keeps that.
* `transportProcessAckPacket_follows`, `xglTransportSend_follows`,
  `xglTransportRun_windowUndisturbed`: the calls.
* `shared_window_drains`: with nothing left in the queues the context window is empty.
* `shared_window_stuck`: two peers that are sent packets in turn fill it for good.
-/

set_option autoImplicit false

namespace XgenLink

/-! ### Windows that follow a set of waiting numbers -/

/-- How many numbers a window has in flight. -/
def SlidingWindow.inFlight (window : SlidingWindow) : Nat :=
  (window.nextPacketNumber - window.sendBasePacketNumber).toNat

/-- A number in the window that the window has not taken. -/
def Untaken (window : SlidingWindow) (n : UInt32) : Prop :=
  xglWindowIsInWindowPacketNumber window n = true ∧
    window.inFlight ≤ (n - window.sendBasePacketNumber).toNat

/-- Every number in flight is marked or waiting, and nothing else is marked. -/
structure WindowFollows (window : SlidingWindow) (waiting : UInt32 → Prop) : Prop where
  nonempty : window.windowSize ≠ 0
  length : window.ackReceived.length = window.windowSize.toNat
  room : window.inFlight ≤ window.windowSize.toNat
  span : window.sendBasePacketNumber.toNat + window.inFlight ≤ 2 ^ 32
  unmarked : ∀ i, window.inFlight ≤ i → ¬ window.Flag i
  waits : ∀ i, i < window.inFlight → ¬ window.Flag i →
    waiting (window.sendBasePacketNumber + UInt32.ofNat i)

namespace WindowFollows

variable {window : SlidingWindow} {waiting : UInt32 → Prop}

/-- More may wait. -/
theorem mono (h : WindowFollows window waiting) {waiting' : UInt32 → Prop}
    (hsub : ∀ n, waiting n → waiting' n) : WindowFollows window waiting' :=
  ⟨h.nonempty, h.length, h.room, h.span, h.unmarked, fun i hi hflag => hsub _ (h.waits i hi hflag)⟩

/-- A new window has no marks. -/
theorem fresh_flag (size : UInt8) (i : Nat) : ¬ (freshWindow size).Flag i := by
  intro hflag
  unfold SlidingWindow.Flag at hflag
  cases List.eq_of_mem_replicate (List.mem_of_getElem? hflag)

/-- A new window follows anything. -/
theorem fresh {size : UInt8} (hsize : size ≠ 0) : WindowFollows (freshWindow size) waiting := by
  have hflight : (freshWindow size).inFlight = 0 := by
    show ((0 : UInt32) - 0).toNat = 0
    decide
  have hbase : (freshWindow size).sendBasePacketNumber = 0 := rfl
  refine ⟨hsize, List.length_replicate, ?_, ?_, fun i _ => fresh_flag size i, ?_⟩
  · rw [hflight]
    exact Nat.zero_le _
  · rw [hflight, hbase]
    decide
  · intro i hi
    rw [hflight] at hi
    exact absurd hi (Nat.not_lt_zero i)

/-- The number in flight at an index. -/
theorem number_toNat (h : WindowFollows window waiting) {i : Nat} (hi : i < window.inFlight) :
    (window.sendBasePacketNumber + UInt32.ofNat i).toNat
      = window.sendBasePacketNumber.toNat + i := by
  have hspan := h.span
  have hmax := (window.nextPacketNumber - window.sendBasePacketNumber).toNat_lt
  have hin : window.inFlight < 2 ^ 32 := hmax
  rw [UInt32.toNat_add, UInt32.toNat_ofNat', Nat.mod_eq_of_lt (by omega : i < 2 ^ 32)]
  exact Nat.mod_eq_of_lt (by omega)

/-- A mark of a number that was taken answers for that number. -/
theorem mark (h : WindowFollows window waiting) {n : UInt32} (htaken : ¬ Untaken window n) :
    WindowFollows (xglWindowMarkAckPacketNumber window n) fun m => waiting m ∧ m ≠ n := by
  have hkept := xglWindowMarkAckPacketNumber_mark window n
  have hflight : (xglWindowMarkAckPacketNumber window n).inFlight = window.inFlight := by
    unfold SlidingWindow.inFlight
    rw [hkept.next, hkept.base]
  constructor
  · rw [hkept.size]
    exact h.nonempty
  · rw [hkept.length, hkept.size]
    exact h.length
  · rw [hflight, hkept.size]
    exact h.room
  · rw [hkept.base, hflight]
    exact h.span
  · intro i hi hflag
    rw [hflight] at hi
    rcases (flag_mark h.length n i).mp hflag with hold | ⟨hin, hat⟩
    · exact h.unmarked i hi hold
    · -- the mark would be of a number that was not taken
      refine htaken ⟨hin, ?_⟩
      rw [toNat_sub_base (by omega)]
      omega
  · intro i hi hflag
    rw [hflight] at hi
    rw [hkept.base]
    have hold : ¬ window.Flag i := fun hset => hflag ((flag_mark h.length n i).mpr (.inl hset))
    refine ⟨h.waits i hi hold, ?_⟩
    rintro rfl
    have hnumber := h.number_toNat hi
    have hroom := h.room
    refine hflag ((flag_mark h.length _ i).mpr (.inr ⟨?_, hnumber⟩))
    rw [xglWindowIsInWindowPacketNumber_iff]
    omega

/-- Several marks. -/
theorem markAll (h : WindowFollows window waiting) {numbers : List UInt32}
    (htaken : ∀ n ∈ numbers, ¬ Untaken window n) :
    WindowFollows (markAll window numbers) fun m => waiting m ∧ m ∉ numbers := by
  induction numbers generalizing window waiting with
  | nil => exact h.mono fun m hm => ⟨hm, List.not_mem_nil⟩
  | cons n rest ih =>
    have hkept := xglWindowMarkAckPacketNumber_mark window n
    have hmarked := h.mark (htaken n List.mem_cons_self)
    have hrest : ∀ m ∈ rest, ¬ Untaken (xglWindowMarkAckPacketNumber window n) m := by
      intro m hm hun
      refine htaken m (List.mem_cons_of_mem _ hm) ?_
      unfold Untaken SlidingWindow.inFlight at hun ⊢
      rw [hkept.isInWindow, hkept.next, hkept.base] at hun
      exact hun
    refine (ih hmarked hrest).mono ?_
    intro m hm
    obtain ⟨⟨hwait, hne⟩, hnot⟩ := hm
    exact ⟨hwait, List.not_mem_cons_of_ne_of_not_mem hne hnot⟩

/-- Moving the base drops marked numbers only, and all that lead. -/
theorem advance (h : WindowFollows window waiting) :
    WindowFollows (xglWindowAdvanceBasePacketNumber window) waiting ∧
      ¬ (xglWindowAdvanceBasePacketNumber window).Flag 0 := by
  obtain ⟨k, hk, hadvanced, hend⟩ := xglWindowAdvanceBasePacketNumber_advanced h.length
  refine ⟨?_, hend⟩
  have hspan := h.span
  have hroom := h.room
  have hsize := window.windowSize.toNat_lt
  -- what is marked was taken
  have hle : k ≤ window.inFlight := by
    rcases Nat.eq_zero_or_pos k with rfl | hpos
    · exact Nat.zero_le _
    · have hlast := hadvanced.marked (k - 1) (by omega)
      have htaken : ¬ window.inFlight ≤ k - 1 := fun hout => h.unmarked _ hout hlast
      omega
  have hflight : (xglWindowAdvanceBasePacketNumber window).inFlight = window.inFlight - k := by
    have hkk : (UInt32.ofNat k).toNat = k := by
      rw [UInt32.toNat_ofNat']
      exact Nat.mod_eq_of_lt (by omega)
    unfold SlidingWindow.inFlight at hle ⊢
    rw [hadvanced.next, hadvanced.base]
    have hsub : window.nextPacketNumber - (window.sendBasePacketNumber + UInt32.ofNat k)
        = (window.nextPacketNumber - window.sendBasePacketNumber) - UInt32.ofNat k := by
      rw [UInt32.sub_eq_add_neg, UInt32.sub_eq_add_neg, UInt32.sub_eq_add_neg, UInt32.neg_add,
        UInt32.add_assoc, UInt32.sub_eq_add_neg]
    rw [hsub, UInt32.toNat_sub_of_le _ _ (by rw [UInt32.le_iff_toNat_le, hkk]; exact hle), hkk]
  have hbase : (xglWindowAdvanceBasePacketNumber window).sendBasePacketNumber.toNat
      = (window.sendBasePacketNumber.toNat + k) % 2 ^ 32 := by
    rw [hadvanced.base, UInt32.toNat_add, UInt32.toNat_ofNat']
    omega
  constructor
  · rw [hadvanced.size]
    exact h.nonempty
  · rw [hadvanced.length, hadvanced.size]
    exact h.length
  · rw [hflight, hadvanced.size]
    omega
  · rw [hflight, hbase]
    omega
  · intro i hi hflag
    rw [hflight] at hi
    exact h.unmarked (i + k) (by omega) ((hadvanced.flags i).mp hflag)
  · intro i hi hflag
    rw [hflight] at hi
    have hwait := h.waits (i + k) (by omega) fun hset => hflag ((hadvanced.flags i).mpr hset)
    rw [hadvanced.base, UInt32.add_assoc, ← UInt32.ofNat_add, Nat.add_comm k i]
    exact hwait

/-- Taking one more number, which then waits. -/
theorem take (h : WindowFollows window waiting)
    (hcan : xglWindowCanSendPacketNumber window = true)
    (hspan : window.sendBasePacketNumber.toNat + window.inFlight < 2 ^ 32)
    (hnext : waiting window.nextPacketNumber) :
    WindowFollows (xglWindowAdvanceNextPacketNumber window) waiting ∧
      (xglWindowAdvanceNextPacketNumber window).inFlight = window.inFlight + 1 := by
  have hroom : window.inFlight < window.windowSize.toNat := by
    unfold xglWindowCanSendPacketNumber at hcan
    rw [decide_eq_true_eq, UInt32.lt_iff_toNat_lt, UInt8.toNat_toUInt32] at hcan
    exact hcan
  have hsize := window.windowSize.toNat_lt
  have hflight : (xglWindowAdvanceNextPacketNumber window).inFlight = window.inFlight + 1 := by
    unfold SlidingWindow.inFlight xglWindowAdvanceNextPacketNumber at *
    dsimp only
    have hsub : window.nextPacketNumber + 1 - window.sendBasePacketNumber
        = (window.nextPacketNumber - window.sendBasePacketNumber) + 1 := by
      rw [UInt32.sub_eq_add_neg, UInt32.sub_eq_add_neg, UInt32.add_assoc,
        UInt32.add_comm 1, ← UInt32.add_assoc]
    rw [hsub, UInt32.toNat_add]
    have hone : (1 : UInt32).toNat = 1 := rfl
    omega
  have hbase : (xglWindowAdvanceNextPacketNumber window).sendBasePacketNumber
      = window.sendBasePacketNumber := rfl
  refine ⟨⟨h.nonempty, h.length, ?_, ?_, ?_, ?_⟩, hflight⟩
  · rw [hflight]
    exact hroom
  · rw [hflight, hbase]
    omega
  · intro i hi hflag
    rw [hflight] at hi
    exact h.unmarked i (by omega) hflag
  · intro i hi hflag
    rw [hflight] at hi
    rw [hbase]
    -- a number that was in flight before, or the one taken
    rcases Nat.lt_or_ge i window.inFlight with hold | hnew
    · exact h.waits i hold hflag
    · -- the number just taken
      have hi' : i = window.inFlight := by omega
      have hat : window.sendBasePacketNumber + UInt32.ofNat i = window.nextPacketNumber := by
        rw [hi']
        unfold SlidingWindow.inFlight
        rw [UInt32.ofNat_toNat, UInt32.add_comm, UInt32.sub_add_cancel]
      rw [hat]
      exact hnext

/-- A window with nothing waiting and no mark in front is empty. -/
theorem empty (h : WindowFollows window waiting) (hnone : ∀ n, ¬ waiting n)
    (hfront : ¬ window.Flag 0) : window.sendBasePacketNumber = window.nextPacketNumber := by
  have hflight : window.inFlight = 0 := by
    rcases Nat.eq_zero_or_pos window.inFlight with hzero | hpos
    · exact hzero
    · exact absurd (h.waits 0 hpos hfront) (hnone _)
  have hsub : window.nextPacketNumber - window.sendBasePacketNumber = 0 :=
    UInt32.toNat_inj.mp hflight
  have hadd := UInt32.sub_add_cancel window.nextPacketNumber window.sendBasePacketNumber
  rw [hsub, UInt32.zero_add] at hadd
  exact hadd

end WindowFollows

/-! ### Numbers that wait in the queues -/

/-- Some peer has a queued packet with the number. -/
def Waiting (peers : List PeerState) (n : UInt32) : Prop :=
  ∃ peer ∈ peers, n ∈ numbers peer.reliableQueue.waitAckList

/-- Nothing waits exactly when all queues are empty. -/
theorem not_waiting_of_empty {peers : List PeerState}
    (h : ∀ peer ∈ peers, peer.reliableQueue.waitAckList = []) (n : UInt32) : ¬ Waiting peers n := by
  intro hwait
  obtain ⟨peer, hmem, hn⟩ := hwait
  rw [h peer hmem] at hn
  cases hn

/-- What waits before a new peer was added. -/
theorem Waiting.cons {peers : List PeerState} {n : UInt32} (h : Waiting peers n)
    (peer : PeerState) : Waiting (peer :: peers) n := by
  obtain ⟨other, hmem, hn⟩ := h
  exact ⟨other, List.mem_cons_of_mem _ hmem, hn⟩

/-- A member is the one a write-back replaces, or a member after it. -/
theorem mem_or_putPeer {peers : List PeerState} {peer old other : PeerState}
    (hold : peerOf peers peer.key = some old) (hmem : other ∈ peers) :
    other = old ∨ other ∈ putPeer peer peers := by
  unfold peerOf at hold
  induction peers with
  | nil => cases hmem
  | cons first rest ih =>
    unfold putPeer
    rw [List.find?_cons] at hold
    cases hkey : first.key == peer.key with
    | true =>
      rw [hkey] at hold
      cases hold
      rw [if_pos rfl]
      exact (List.mem_cons.mp hmem).imp_right (List.mem_cons_of_mem _)
    | false =>
      rw [hkey] at hold
      rw [if_neg (by simp)]
      rcases List.mem_cons.mp hmem with rfl | hrest
      · exact .inr List.mem_cons_self
      · exact (ih hold hrest).imp_right (List.mem_cons_of_mem _)

/-- What waits after a write-back: everything but what the peer written lacks. -/
theorem Waiting.put {peers : List PeerState} {peer old : PeerState}
    (hold : peerOf peers peer.key = some old) {n : UInt32} (h : Waiting peers n) :
    Waiting (putPeer peer peers) n ∨
      (n ∈ numbers old.reliableQueue.waitAckList ∧
        n ∉ numbers peer.reliableQueue.waitAckList) := by
  obtain ⟨other, hmem, hn⟩ := h
  rcases mem_or_putPeer hold hmem with rfl | hkept
  · by_cases hin : n ∈ numbers peer.reliableQueue.waitAckList
    · exact .inl ⟨peer, mem_putPeer_self (peerOf_mem hold) (peerOf_key hold).symm, hin⟩
    · exact .inr ⟨hn, hin⟩
  · exact .inl ⟨other, hkept, hn⟩

/-- A write-back of a peer with the same numbers or more. -/
theorem Waiting.put_of_subset {peers : List PeerState} {peer old : PeerState}
    (hold : peerOf peers peer.key = some old)
    (hsub : ∀ n ∈ numbers old.reliableQueue.waitAckList,
      n ∈ numbers peer.reliableQueue.waitAckList) {n : UInt32} (h : Waiting peers n) :
    Waiting (putPeer peer peers) n := by
  rcases h.put hold with hkept | ⟨hin, hout⟩
  · exact hkept
  · exact absurd (hsub n hin) hout

/-- The same for a peer found by a lookup and written back with its queue. -/
theorem Waiting.put_found {peers : List PeerState} {key : PeerKey} {peer old : PeerState}
    (hlook : lookupPeer peers key = some old) (hkey : peer.key = old.key)
    (hqueue : peer.reliableQueue = old.reliableQueue) {n : UInt32} (h : Waiting peers n) :
    Waiting (putPeer peer peers) n := by
  have hentry := peerOf_of_lookupPeer hlook
  rw [← hkey] at hentry
  refine h.put_of_subset hentry ?_
  rw [hqueue]
  exact fun _ hn => hn

/-! ### The context window -/

/-- The context window follows the queues, and its first number is not marked unless
something waits. -/
structure SharedFollows (ctx : TransportCtx) : Prop where
  window : WindowFollows ctx.window (Waiting ctx.peers)
  front : ctx.window.Flag 0 → ∃ n, Waiting ctx.peers n

/-- The step resets the context window, or leaves it alone and takes nothing off a
queue. -/
def WindowUndisturbed (before after : TransportCtx) : Prop :=
  after.window = xglWindowReset before.window ∨
    after.window = before.window ∧ ∀ n, Waiting before.peers n → Waiting after.peers n

/-- An undisturbed window follows the queues as before. -/
theorem WindowUndisturbed.follows {before after : TransportCtx} (h : WindowUndisturbed before after)
    (hfollows : SharedFollows before) : SharedFollows after := by
  rcases h with hreset | ⟨hwindow, hwait⟩
  · constructor
    · rw [hreset]
      exact .fresh hfollows.window.nonempty
    · intro hflag
      rw [hreset] at hflag
      exact absurd hflag (WindowFollows.fresh_flag _ 0)
  · constructor
    · rw [hwindow]
      exact hfollows.window.mono hwait
    · intro hflag
      rw [hwindow] at hflag
      obtain ⟨n, hn⟩ := hfollows.front hflag
      exact ⟨n, hwait n hn⟩

section Steps

variable {env : TransportEnv} {ctx : TransportCtx}

/-! ### Control and data packets -/

/-- A control packet resets the context window or leaves it alone. -/
theorem transportProcessControlPacket_window (packet : Packet) :
    (transportProcessControlPacket env ctx packet).2.window = xglWindowReset ctx.window ∨
      (transportProcessControlPacket env ctx packet).2.window = ctx.window := by
  have hgot : ∀ {base : TransportCtx} {peer : Option PeerState},
      transportGetOrCreatePeer env ctx packet.peerKey = (base, peer) →
        base.window = ctx.window := by
    intro base peer heq
    have hcases := transportGetOrCreatePeer_cases env ctx packet.peerKey
    rw [heq] at hcases
    cases hcases <;> rfl
  simp only [transportProcessControlPacket]
  split
  · exact .inr rfl
  split
  · exact .inr rfl
  split
  · rename_i base heq
    exact .inr (hgot heq)
  · rename_i base peer heq
    rw [← hgot heq]
    split
    · exact .inl rfl
    · exact .inr rfl

/-- Then nothing is taken off a queue. -/
theorem transportProcessControlPacket_windowUndisturbed (packet : Packet) :
    WindowUndisturbed ctx (transportProcessControlPacket env ctx packet).2 := by
  have hwindow := @transportProcessControlPacket_window env ctx packet
  have hcases := transportProcessControlPacket_cases env ctx packet
  generalize transportProcessControlPacket env ctx packet = out at hwindow hcases ⊢
  obtain ⟨err, after⟩ := out
  dsimp only at hwindow hcases ⊢
  cases hcases with
  | refused session io hevents => exact .inr ⟨rfl, fun n hwait => hwait⟩
  | established hsid peer hlook hsession now io hevents =>
    refine .inr ⟨rfl, fun n hwait => ?_⟩
    show Waiting (putPeer { peer with sessionEstablished := true, lastActiveMs := now } ctx.peers) n
    refine hwait.put_found hlook ?_ ?_ <;> rfl
  | reset hsid peer hlook hreset now io hevents => exact .inl rfl
  | created hsid hlook window hsame manager now io peer hevents hpeer =>
    exact hwindow.imp_right fun hkept => ⟨hkept, fun n hwait => hwait.cons peer⟩

/-- Selecting the peer of a data packet. -/
theorem RxSelected.windowUndisturbed {selected : TransportCtx} {packet : Packet} {peer : PeerState}
    (h : RxSelected ctx packet selected peer) : WindowUndisturbed ctx selected := by
  cases h with
  | found found hlook hsession now io hevents =>
    refine .inr ⟨rfl, fun n hwait => ?_⟩
    show Waiting (putPeer { found with lastActiveMs := now } ctx.peers) n
    refine hwait.put_found hlook ?_ ?_ <;> rfl
  | created hlook hsession now io hevents hsize => exact .inl rfl
  | createdBare hlook hsession io hevents hsize =>
    exact .inr ⟨rfl, fun n hwait => hwait.cons _⟩

/-- A data packet touches neither the context window nor a queue, unless it starts a new session. -/
theorem transportReceiveData_windowUndisturbed (packet : Packet) (data : Bytes) :
    WindowUndisturbed ctx (transportReceiveData env ctx packet data).2 := by
  by_cases hrel : packet.reliable = XGL_RELIABILITY_ACK_ELICITING
  · rcases transportReceiveData_cases env ctx packet data hrel with
      ⟨err, session, io, _, _, _, heq⟩ | ⟨selected, peer, hsel, _, heq⟩
    · rw [heq]
      exact .inr ⟨rfl, fun n hwait => hwait⟩
    · -- the reliable branch writes the selected peer back with its queue
      rw [heq, transportReceiveReliable_eq]
      have hentry := hsel.lookup.1
      rcases hsel.windowUndisturbed with hreset | ⟨hwindow, hwait⟩
      · exact .inl hreset
      · refine .inr ⟨hwindow, fun n hn => ?_⟩
        have hpeer := rxReliable_peer env selected.config selected.fragmentMgr selected.io peer
          packet data
        dsimp only
        generalize (rxReliable env selected.config selected.fragmentMgr selected.io peer packet
          data).2.2.2 = written at hpeer ⊢
        rw [hpeer]
        exact @Waiting.put_of_subset selected.peers (peer.withRx written) peer hentry
          (fun m hm => hm) n (hwait n hn)
  · simp only [transportReceiveData]
    rcases transportPrepareRxPeer_cases env ctx packet with
      ⟨err, session, io, peer, hne, _, heq⟩ | ⟨_, heq⟩ |
        ⟨prepared, peer, selected, touched, hsel, heq, htouch⟩
    · rw [heq]
      cases err with
      | ok => exact absurd rfl hne
      | _ => exact .inr ⟨rfl, fun n hwait => hwait⟩
    · rw [heq]
      dsimp only
      rw [if_neg (by simp [hrel])]
      exact .inr ⟨rfl, fun n hwait => hwait⟩
    · rw [heq]
      dsimp only
      rw [htouch, if_neg (by simp [hrel])]
      exact hsel.windowUndisturbed

/-! ### Timers -/

/-- No queued packet is due with its retries used up. -/
def NoneExhausted (peers : List PeerState) (now : UInt32) : Prop :=
  ∀ peer ∈ peers, ∀ packet ∈ peer.reliableQueue.waitAckList, packet.due now = true →
    packet.retryCount < peer.reliableQueue.maxRetryCount

/-- Without an exhausted packet the timer loop keeps the contents. The induction is on the
fuel. -/
theorem retransmissionLoop_contents (config : TransportConfig) (maxRetryCount : UInt8)
    (now : UInt32) (fuel : Nat) (done rest : List ReliablePacket) (io : TransportIo)
    (hnone : ∀ packet ∈ rest, packet.due now = true → packet.retryCount < maxRetryCount) :
    contents (retransmissionLoop env config maxRetryCount now fuel done rest io).1
      = contents (done ++ rest) := by
  induction fuel generalizing done rest io with
  | zero => rw [retransmissionLoop]
  | succ fuel ih =>
    cases rest with
    | nil => rw [retransmissionLoop, List.append_nil]; exact Nat.succ_ne_zero fuel
    | cons packet rest =>
      have hrest := fun other hother => hnone other (List.mem_cons_of_mem _ hother)
      rw [retransmissionLoop]
      split
      · rw [ih _ _ _ hrest, List.append_assoc, List.singleton_append]
      · rename_i hdue
        have hretry := hnone packet List.mem_cons_self (by simpa using hdue)
        rw [if_neg (by rw [ge_iff_le, UInt8.not_le]; exact hretry)]
        dsimp only
        rw [ih _ _ _ hrest]
        have hcontent := transportRetransmitReliablePacket_content env config io packet now
        unfold contents
        simp [hcontent]

/-- Then what waits keeps waiting. -/
theorem xglTransportRun_windowUndisturbed (now : UInt32) (hnone : NoneExhausted ctx.peers now) :
    WindowUndisturbed ctx (xglTransportRun env ctx now) := by
  have hretransmitted : ∀ (peers : List PeerState) (io : TransportIo), NoneExhausted peers now →
      ∀ n, Waiting peers n →
        Waiting (transportProcessRetransmissions env ctx.config now peers io).1 n := by
    intro peers
    induction peers with
    | nil => exact fun _ _ _ h => h
    | cons peer rest ih =>
      intro io hall n hwait
      obtain ⟨other, hmem, hn⟩ := hwait
      -- the first peer of the list, or one behind it
      rcases List.mem_cons.mp hmem with rfl | hrest
      · refine ⟨_, List.mem_cons_self, ?_⟩
        have hcontents := @retransmissionLoop_contents env ctx.config
          other.reliableQueue.maxRetryCount now other.reliableQueue.waitAckList.length []
          other.reliableQueue.waitAckList io (hall other List.mem_cons_self)
        rw [List.nil_append] at hcontents
        unfold numbers at hn ⊢
        show n ∈ (contents (retransmissionLoop env ctx.config other.reliableQueue.maxRetryCount now
          other.reliableQueue.waitAckList.length [] other.reliableQueue.waitAckList io).1).map _
        rw [hcontents]
        exact hn
      · have hkept := ih (transportRetransmitPeer env ctx.config now io peer).2
          (fun p hp => hall p (List.mem_cons_of_mem _ hp)) n ⟨other, hrest, hn⟩
        exact hkept.cons _
  refine .inr ⟨?_, fun n hwait => ?_⟩
  · unfold xglTransportRun transportReclaimIdlePeers
    dsimp only
    split <;>
    · unfold transportProcessFragmentTimeouts
      split <;> rfl
  · have htimed := hretransmitted ctx.peers ctx.io hnone n hwait
    simp only [xglTransportRun, transportReclaimIdlePeers]
    split
    · rw [transportProcessFragmentTimeouts_peers]
      exact htimed
    · rw [transportProcessFragmentTimeouts_peers]
      obtain ⟨peer, hmem, hn⟩ := htimed
      -- only peers with an empty queue are dropped
      refine ⟨peer, List.mem_filter.mpr ⟨hmem, ?_⟩, hn⟩
      have hfull : xglReliableIsEmpty peer.reliableQueue = false := by
        unfold xglReliableIsEmpty
        cases hlist : peer.reliableQueue.waitAckList with
        | nil =>
          rw [hlist] at hn
          cases hn
        | cons first rest => rfl
      unfold PeerState.reclaimable
      rw [hfull]
      rfl

/-! ### Acknowledgements -/

/-- A peer other than this one has a queued packet with the number. -/
def WaitingElse (peers : List PeerState) (peer : PeerState) (n : UInt32) : Prop :=
  ∃ other ∈ peers, other ≠ peer ∧ n ∈ numbers other.reliableQueue.waitAckList

/-- What waits is queued at this peer or at another one. -/
theorem Waiting.split {peers : List PeerState} {n : UInt32} (h : Waiting peers n)
    (peer : PeerState) :
    WaitingElse peers peer n ∨ n ∈ numbers peer.reliableQueue.waitAckList := by
  obtain ⟨other, hmem, hn⟩ := h
  by_cases hsame : other = peer
  · exact .inr (hsame ▸ hn)
  · exact .inl ⟨other, hmem, hsame, hn⟩

/-- What waits once a peer is written back. -/
theorem Waiting.of_split {peers : List PeerState} {peer old : PeerState}
    (hold : peerOf peers peer.key = some old) {n : UInt32}
    (h : WaitingElse peers old n ∨ n ∈ numbers peer.reliableQueue.waitAckList) :
    Waiting (putPeer peer peers) n := by
  rcases h with ⟨other, hmem, hne, hn⟩ | hn
  · exact ⟨other, (mem_or_putPeer hold hmem).resolve_left hne, hn⟩
  · exact ⟨peer, mem_putPeer_self (peerOf_mem hold) (peerOf_key hold).symm, hn⟩

/-- Marking a number of the context changes nothing when it lies outside. -/
theorem markAcked_snd (windows : SlidingWindow × SlidingWindow) (n : UInt32) :
    (markAcked windows n).2 = xglWindowMarkAckPacketNumber windows.2 n := by
  unfold markAcked xglWindowMarkAckPacketNumber
  dsimp only
  split <;> rfl

/-- Marking numbers in both windows marks them in that of the context. -/
theorem foldl_markAcked_snd (numbers : List UInt32) (windows : SlidingWindow × SlidingWindow) :
    (numbers.foldl markAcked windows).2 = markAll windows.2 numbers := by
  induction numbers generalizing windows with
  | nil => rfl
  | cons n rest ih =>
    rw [List.foldl_cons, ih, markAcked_snd]
    rfl

/-- A mark takes no number. -/
theorem MarkKept.untaken {before after : SlidingWindow} (h : MarkKept before after) (n : UInt32) :
    Untaken after n ↔ Untaken before n := by
  unfold Untaken SlidingWindow.inFlight
  rw [h.isInWindow, h.next, h.base]

/-- The numbers of a queue that loses entries. -/
theorem Shrinks.numbers {gone : ReliablePacket → Prop} {before after : List ReliablePacket}
    (h : Shrinks gone before after) {n : UInt32} (hn : n ∈ numbers before) :
    n ∈ XgenLink.numbers after ∨ ∃ c, gone c ∧ c.packetNumber = n := by
  obtain ⟨c, hc, rfl⟩ := List.mem_map.mp hn
  rcases h.kept c hc with hkept | hgone
  · exact .inl (List.mem_map_of_mem hkept)
  · exact .inr ⟨c, hgone, rfl⟩

/-- The packet marks no number that the context window has not taken: an ACK_RANGE that covers a
queued number covers no such number, and no bit that a SACK reaches names a queued one. -/
def NamesTaken (env : TransportEnv) (ctx : TransportCtx) (peer : PeerState) (packet : Packet) :
    Prop :=
  match packet.ackBody with
  | .nothing => True
  | .range ack =>
    (∃ n ∈ ack.numbers,
      (xglReliableFindPacketNumber peer.reliableQueue n packet.sourceId).isSome = true) →
      ∀ n ∈ ack.numbers, ¬ Untaken ctx.window n
  | .sack value =>
    ∀ sack, xglWireDecodeSackExtValue value 64 = .ok sack →
      ∀ before i after, sackIndices sack.bitmap = before ++ i :: after →
        sackReaches env ctx.config packet.sourceId sack.basePacket (xglTimeMs env ctx.io).1
          sack.bitmap (sackStart env ctx peer) before →
        transportSackBitIsSet sack.bitmap i = true →
        (xglReliableFindPacketNumber peer.reliableQueue (sack.basePacket + UInt32.ofNat i)
          packet.sourceId).isSome = true →
        ¬ Untaken ctx.window (sack.basePacket + UInt32.ofNat i)

section Bits

variable {config : TransportConfig} {sourceId : UInt16} {basePacket now : UInt32} {bitmap : Bytes}
  {others : UInt32 → Prop}

/-- One bit of a SACK: what it takes off the queue it marks. -/
theorem sackBitStep_follows {state : SackState} (i : Nat)
    (h : WindowFollows state.windows.2 fun n => others n ∨ n ∈ numbers state.queue.waitAckList)
    (htaken : transportSackBitIsSet bitmap i = true →
      (xglReliableFindPacketNumber state.queue (basePacket + UInt32.ofNat i) sourceId).isSome
        = true → ¬ Untaken state.windows.2 (basePacket + UInt32.ofNat i)) :
    let stepped := (sackBitStep env config sourceId basePacket now bitmap state i).2
    MarkKept state.windows.2 stepped.windows.2 ∧
      WindowFollows stepped.windows.2 fun n =>
        others n ∨ n ∈ numbers stepped.queue.waitAckList := by
  dsimp only
  simp only [sackBitStep]
  split
  · rename_i hset
    split
    · exact ⟨.refl _, h⟩
    · rename_i packet hfind
      dsimp only
      rw [markAcked_snd]
      refine ⟨xglWindowMarkAckPacketNumber_mark _ _, ?_⟩
      refine (h.mark (htaken hset (by rw [hfind]; rfl))).mono ?_
      intro n hn
      obtain ⟨hwait, hne⟩ := hn
      refine hwait.imp_right fun hqueued => ?_
      have hshrinks := reliableUnlink_shrinks (basePacket + UInt32.ofNat i) sourceId
        state.queue.waitAckList
      rcases hshrinks.numbers hqueued with hkept | ⟨c, hgone, hc⟩
      · exact hkept
      · exact absurd (hc.symm.trans hgone) hne
  · obtain ⟨hcontents, _, hwindows⟩ := sackRetransmit_spec env config sourceId
      (basePacket + UInt32.ofNat i) now state
    rw [hwindows]
    refine ⟨.refl _, h.mono fun n hn => hn.imp_right fun hqueued => ?_⟩
    unfold numbers at hqueued ⊢
    rw [hcontents]
    exact hqueued

/-- The bits of a SACK. The induction is on the bits. -/
theorem sackLoop_follows (indices : List Nat) (state : SackState)
    (h : WindowFollows state.windows.2 fun n => others n ∨ n ∈ numbers state.queue.waitAckList)
    (htaken : ∀ before i after, indices = before ++ i :: after →
      sackReaches env config sourceId basePacket now bitmap state before →
      transportSackBitIsSet bitmap i = true →
      (xglReliableFindPacketNumber state.queue (basePacket + UInt32.ofNat i) sourceId).isSome
        = true → ¬ Untaken state.windows.2 (basePacket + UInt32.ofNat i)) :
    let looped := (sackLoop env config sourceId basePacket now bitmap indices state).2
    WindowFollows looped.windows.2 fun n => others n ∨ n ∈ numbers looped.queue.waitAckList := by
  dsimp only
  -- the induction is on the bits to come, for every state of the sender
  induction indices generalizing state with
  | nil => exact h
  | cons i rest ih =>
    obtain ⟨hkept, hstep⟩ := @sackBitStep_follows env config sourceId basePacket now bitmap others
      state i h (htaken [] i rest rfl rfl)
    have hqueue := (sackBitStep_spec env config sourceId basePacket now bitmap state i).queue
    have hreach : ∀ before,
        (sackBitStep env config sourceId basePacket now bitmap state i).1 = .ok →
        sackReaches env config sourceId basePacket now bitmap
          (sackBitStep env config sourceId basePacket now bitmap state i).2 before →
        sackReaches env config sourceId basePacket now bitmap state (i :: before) := by
      intro before hok hrest
      unfold sackReaches at hrest ⊢
      rw [sackLoop]
      generalize sackBitStep env config sourceId basePacket now bitmap state i = stepped
        at hok hrest ⊢
      obtain ⟨err, next⟩ := stepped
      cases hok
      exact hrest
    rw [sackLoop]
    generalize sackBitStep env config sourceId basePacket now bitmap state i = stepped
      at hkept hstep hqueue hreach ⊢
    obtain ⟨err, next⟩ := stepped
    cases err with
    | ok =>
      refine ih next hstep fun before j after hsplit hrest hset hfind hun => ?_
      refine htaken (i :: before) j after (by rw [hsplit]; rfl) (hreach before rfl hrest) hset ?_
        ((hkept.untaken _).mp hun)
      -- what is queued after the first bit was queued before
      rw [xglReliableFindPacketNumber_isSome] at hfind ⊢
      obtain ⟨c, hmem, hfor⟩ := hfind
      exact ⟨c, hqueue.sub.subset hmem, hfor⟩
    | _ => exact hstep

/-- A loop that stops early leaves the packet whose retransmission failed. -/
theorem sackLoop_failed (indices : List Nat) (state : SackState)
    (h : (sackLoop env config sourceId basePacket now bitmap indices state).1 ≠ .ok) :
    ∃ n, n ∈ numbers
      (sackLoop env config sourceId basePacket now bitmap indices state).2.queue.waitAckList := by
  induction indices generalizing state with
  | nil => exact absurd rfl h
  | cons i rest ih =>
    have hfailed : (sackBitStep env config sourceId basePacket now bitmap state i).1 ≠ .ok →
        ∃ n, n ∈ numbers
          (sackBitStep env config sourceId basePacket now bitmap state i).2.queue.waitAckList := by
      intro herr
      simp only [sackBitStep] at herr ⊢
      split at herr
      · split at herr <;> exact absurd rfl herr
      · rename_i hclear
        rw [if_neg hclear]
        have hcontents := (sackRetransmit_spec env config sourceId (basePacket + UInt32.ofNat i)
          now state).1
        unfold numbers
        rw [hcontents]
        cases hfind : xglReliableFindPacketNumber state.queue (basePacket + UInt32.ofNat i)
            sourceId with
        | none =>
          unfold sackRetransmit at herr
          rw [hfind] at herr
          exact absurd rfl herr
        | some missing =>
          have hmem := List.mem_reverse.mp (List.mem_of_find?_eq_some hfind)
          exact ⟨_, List.mem_map_of_mem (List.mem_map_of_mem hmem)⟩
    rw [sackLoop] at h ⊢
    generalize sackBitStep env config sourceId basePacket now bitmap state i = stepped
      at h hfailed ⊢
    obtain ⟨err, next⟩ := stepped
    cases err with
    | ok => exact ih next h
    | _ => exact hfailed h

end Bits

/-- The windows and the queue an ACK leaves follow each other. -/
structure AckFollows (ctx : TransportCtx) (peer : PeerState) (after : TransportCtx × PeerState) :
    Prop where
  window : WindowFollows after.1.window fun n =>
    WaitingElse ctx.peers peer n ∨ n ∈ numbers after.2.reliableQueue.waitAckList
  front : after.1.window.Flag 0 →
    ∃ n, WaitingElse ctx.peers peer n ∨ n ∈ numbers after.2.reliableQueue.waitAckList

variable {peer : PeerState}

/-- Nothing is acknowledged. -/
theorem AckFollows.unchanged (h : SharedFollows ctx) {queue : ReliableQueue}
    (hqueue : contents queue.waitAckList = contents peer.reliableQueue.waitAckList)
    {after : TransportCtx × PeerState} (hwindow : after.1.window = ctx.window)
    (hafter : after.2.reliableQueue = queue) : AckFollows ctx peer after := by
  have hwait : ∀ n, Waiting ctx.peers n →
      WaitingElse ctx.peers peer n ∨ n ∈ numbers after.2.reliableQueue.waitAckList := by
    intro n hn
    rw [hafter]
    unfold numbers
    rw [hqueue]
    exact hn.split peer
  constructor
  · rw [hwindow]
    exact h.window.mono hwait
  · intro hflag
    rw [hwindow] at hflag
    obtain ⟨n, hn⟩ := h.front hflag
    exact ⟨n, hwait n hn⟩

/-- An ACK_RANGE. -/
theorem transportProcessAckRange_follows (h : SharedFollows ctx) (sourceId : UInt16)
    (ack : AckRangeExt)
    (htaken : (∃ n ∈ ack.numbers,
      (xglReliableFindPacketNumber peer.reliableQueue n sourceId).isSome = true) →
      ∀ n ∈ ack.numbers, ¬ Untaken ctx.window n) :
    AckFollows ctx peer ((transportProcessAckRange ctx peer sourceId ack).ctx,
      (transportProcessAckRange ctx peer sourceId ack).peer) := by
  have hcount := reliableRemoveNumbers_count sourceId ack.numbers (0, peer.reliableQueue)
  have hshrinks := (reliableRemoveNumbers_shrinks sourceId ack.numbers (0, peer.reliableQueue)).1
  -- a range names a queued number, or the extension is passed over
  by_cases hany : ∃ n ∈ ack.numbers,
      (xglReliableFindPacketNumber peer.reliableQueue n sourceId).isSome = true
  · have hpos := hcount.2.mpr hany
    have hne : ¬ ((reliableRemoveNumbers sourceId
        (ackRangeNumbers true ack.largestAck.toNat ack.ranges) (0, peer.reliableQueue)).1 == 0)
          = true := by
      rw [beq_iff_eq]
      exact Nat.pos_iff_ne_zero.mp hpos
    unfold transportProcessAckRange xglReliableRemoveAckRanges
    dsimp only
    rw [if_neg hne]
    have hmarked := h.window.markAll (htaken hany)
    obtain ⟨hfollows, hfront⟩ := hmarked.advance
    -- the windows of the context after the marks
    have hwindow : (transportMarkAckRangeWindows (peer.txWindow, ctx.window) ack.largestAck
        ack.ranges).2 = xglWindowAdvanceBasePacketNumber (markAll ctx.window ack.numbers) := by
      unfold transportMarkAckRangeWindows advanceBases
      dsimp only
      rw [foldl_markAcked_snd]
      rfl
    constructor
    · dsimp only
      rw [hwindow]
      refine hfollows.mono fun n hn => ?_
      obtain ⟨hwait, hnot⟩ := hn
      refine (hwait.split peer).imp_right fun hqueued => ?_
      -- the number was taken off the queue, or it still waits there
      rcases hshrinks.numbers hqueued with hkept | ⟨c, hgone, hc⟩
      · exact hkept
      · exact absurd (hc ▸ hgone) hnot
    · dsimp only
      rw [hwindow]
      exact fun hflag => absurd hflag hfront
  · have hnone : ∀ n ∈ ack.numbers,
        xglReliableFindPacketNumber peer.reliableQueue n sourceId = none := by
      intro n hn
      cases hfind : xglReliableFindPacketNumber peer.reliableQueue n sourceId with
      | none => rfl
      | some packet => exact absurd ⟨n, hn, by rw [hfind]; rfl⟩ hany
    have hremoved := reliableRemoveNumbers_absent 0 hnone
    unfold transportProcessAckRange xglReliableRemoveAckRanges
    unfold AckRangeExt.numbers at hremoved
    dsimp only
    rw [hremoved]
    exact .unchanged h rfl rfl rfl

/-- A SACK. -/
theorem transportProcessSackValue_follows (h : SharedFollows ctx) (sourceId : UInt16)
    (value : Bytes)
    (htaken : ∀ sack, xglWireDecodeSackExtValue value 64 = .ok sack →
      ∀ before i after, sackIndices sack.bitmap = before ++ i :: after →
        sackReaches env ctx.config sourceId sack.basePacket (xglTimeMs env ctx.io).1 sack.bitmap
          (sackStart env ctx peer) before →
        transportSackBitIsSet sack.bitmap i = true →
        (xglReliableFindPacketNumber peer.reliableQueue (sack.basePacket + UInt32.ofNat i)
          sourceId).isSome = true →
        ¬ Untaken ctx.window (sack.basePacket + UInt32.ofNat i)) :
    AckFollows ctx peer (transportProcessSackValue env ctx peer sourceId value).2 := by
  unfold transportProcessSackValue
  cases hdecode : xglWireDecodeSackExtValue value 64 with
  | error err => exact .unchanged h rfl rfl rfl
  | ok sack =>
    dsimp only
    split
    · exact .unchanged h rfl rfl rfl
    split
    · split
      · exact .unchanged h rfl rfl rfl
      · obtain ⟨hcontents, _, hwindows⟩ := sackRetransmit_spec env ctx.config sourceId
          sack.basePacket (xglTimeMs env ctx.io).1
          { queue := peer.reliableQueue
            windows := (peer.txWindow, ctx.window)
            io := (xglTimeMs env ctx.io).2 }
        refine .unchanged h hcontents ?_ rfl
        exact congrArg Prod.snd hwindows
    · have hloop := @sackLoop_follows env ctx.config sourceId sack.basePacket
        (xglTimeMs env ctx.io).1 sack.bitmap (WaitingElse ctx.peers peer) (sackIndices sack.bitmap)
        (sackStart env ctx peer) (h.window.mono fun n hn => hn.split peer) (htaken sack hdecode)
      have hfailed := @sackLoop_failed env ctx.config sourceId sack.basePacket
        (xglTimeMs env ctx.io).1 sack.bitmap (sackIndices sack.bitmap) (sackStart env ctx peer)
      unfold sackStart at hloop hfailed
      generalize sackLoop env ctx.config sourceId sack.basePacket (xglTimeMs env ctx.io).1
        sack.bitmap (sackIndices sack.bitmap) _ = looped at hloop hfailed ⊢
      obtain ⟨err, state⟩ := looped
      cases err with
      | ok =>
        obtain ⟨hfollows, hfront⟩ := hloop.advance
        exact ⟨hfollows, fun hflag => absurd hflag hfront⟩
      | _ =>
        refine ⟨hloop, fun _ => ?_⟩
        obtain ⟨n, hn⟩ := hfailed (by simp)
        exact ⟨n, .inr hn⟩

/-- An ACK packet. -/
theorem transportProcessAckPacket_follows (h : SharedFollows ctx) (packet : Packet)
    (htaken : ∀ peer, transportFindAckPeer ctx.peers packet = some peer →
      ackReaches packet peer = true → NamesTaken env ctx peer packet) :
    SharedFollows (transportProcessAckPacket env ctx packet).2 := by
  rw [transportProcessAckPacket_eq]
  cases hfind : transportFindAckPeer ctx.peers packet with
  | none => exact h
  | some peer =>
    dsimp only [Option.elim]
    split
    · rename_i hreach
      have hentry := peerOf_of_transportFindAckPeer hfind
      have hkey := transportApplyAck_key env ctx peer packet
      have hnames := htaken peer hfind hreach
      have happly := transportApplyAck_eq env ctx peer packet
      obtain ⟨_, _, hctx⟩ := (transportApplyAck_spec env ctx peer packet).ctxFrame
      have hpeers : (transportApplyAck env ctx peer packet).ctx.peers = ctx.peers := by rw [hctx]
      generalize transportApplyAck env ctx peer packet = out at hkey happly hpeers ⊢
      have hfollows : AckFollows ctx peer (out.ctx, out.peer) := by
        rw [happly]
        unfold NamesTaken at hnames
        -- what the packet says: a range, a SACK, or nothing that is looked at
        cases hbody : packet.ackBody with
        | nothing => exact .unchanged h rfl rfl rfl
        | range ack =>
          rw [hbody] at hnames
          exact transportProcessAckRange_follows h packet.sourceId ack hnames
        | sack value =>
          rw [hbody] at hnames
          exact transportProcessSackValue_follows h packet.sourceId value hnames
      have hput : ∀ n, WaitingElse ctx.peers peer n ∨
          n ∈ numbers out.peer.reliableQueue.waitAckList →
            Waiting (putPeer out.peer out.ctx.peers) n := by
        intro n hn
        rw [hpeers]
        exact Waiting.of_split (by rw [hkey]; exact hentry) hn
      refine ⟨hfollows.window.mono hput, fun hflag => ?_⟩
      obtain ⟨n, hn⟩ := hfollows.front hflag
      exact ⟨n, hput n hn⟩
    · exact h

/-! ### Sends -/

/-- The number a reliable request starts with: the next one of its peer, and 0 when the peer is
new. -/
def firstNumber (ctx : TransportCtx) (txData : TxData) : UInt32 :=
  (lookupPeer ctx.peers txData.peerKey).elim 0 fun peer => peer.txWindow.nextPacketNumber

/-- When packet `j` of a request finds room in the context window, the numbers of the window do
not run past 2^32, and the one it takes is queued already or is that of one of the packets up to
`j`. -/
def PacketFollows (window : SlidingWindow) (waiting : UInt32 → Prop) (first : UInt32) (j : Nat) :
    Prop :=
  window.inFlight + j < window.windowSize.toNat →
    window.sendBasePacketNumber.toNat + window.inFlight + j < 2 ^ 32 ∧
      (waiting (window.nextPacketNumber + UInt32.ofNat j) ∨
        ∃ i, i ≤ j ∧ window.nextPacketNumber + UInt32.ofNat j = first + UInt32.ofNat i)

/-- Every packet of a reliable request does. -/
def SendFollows (ctx : TransportCtx) (txData : TxData) : Prop :=
  txData.reliable = true → ∀ data plan, txData.data = some data →
    transportBuildSendPlan ctx.config txData data.length = .ok plan →
    ∀ j, j < plan.fragmentCount →
      PacketFollows ctx.window (Waiting ctx.peers) (firstNumber ctx txData) j

/-- The context window after `k` packets of a request. -/
structure Taking (start : SlidingWindow) (waiting : UInt32 → Prop) (first : UInt32) (k : Nat)
    (window : SlidingWindow) : Prop where
  size : window.windowSize = start.windowSize
  base : window.sendBasePacketNumber = start.sendBasePacketNumber
  flags : window.ackReceived = start.ackReceived
  follows : WindowFollows window fun n => waiting n ∨ ∃ i, i < k ∧ n = first + UInt32.ofNat i
  taken : xglWindowCanSendPacketNumber window = true →
    window.nextPacketNumber = start.nextPacketNumber + UInt32.ofNat k ∧
      window.inFlight = start.inFlight + k

section Taking

variable {start window : SlidingWindow} {waiting : UInt32 → Prop} {first : UInt32} {k : Nat}

/-- Before the first packet nothing was taken. -/
theorem Taking.zero (h : WindowFollows start waiting) : Taking start waiting first 0 start :=
  ⟨rfl, rfl, rfl, h.mono fun _ hn => .inl hn, fun _ => ⟨(UInt32.add_zero _).symm, rfl⟩⟩

/-- `transport_advance_packet_window_if_possible` for one more packet. -/
theorem Taking.succ (h : Taking start waiting first k window)
    (hpacket : PacketFollows start waiting first k) :
    Taking start waiting first (k + 1)
      (if xglWindowCanSendPacketNumber window then xglWindowAdvanceNextPacketNumber window
        else window) := by
  have hmore : WindowFollows window
      fun n => waiting n ∨ ∃ i, i < k + 1 ∧ n = first + UInt32.ofNat i := by
    refine h.follows.mono fun n hn => hn.imp_right fun hsent => ?_
    obtain ⟨i, hi, hn⟩ := hsent
    exact ⟨i, Nat.lt_succ_of_lt hi, hn⟩
  split
  · rename_i hcan
    obtain ⟨hnext, hflight⟩ := h.taken hcan
    have hroom : window.inFlight < window.windowSize.toNat := by
      unfold xglWindowCanSendPacketNumber at hcan
      rw [decide_eq_true_eq, UInt32.lt_iff_toNat_lt, UInt8.toNat_toUInt32] at hcan
      exact hcan
    rw [hflight, h.size] at hroom
    obtain ⟨hspan, hnumber⟩ := hpacket hroom
    have hwaits : waiting window.nextPacketNumber ∨
        ∃ i, i < k + 1 ∧ window.nextPacketNumber = first + UInt32.ofNat i := by
      rw [hnext]
      refine hnumber.imp_right fun hsent => ?_
      obtain ⟨i, hi, hn⟩ := hsent
      exact ⟨i, Nat.lt_succ_of_le hi, hn⟩
    obtain ⟨hfollows, hmoved⟩ := hmore.take hcan (by rw [h.base, hflight]; omega) hwaits
    refine ⟨h.size, h.base, h.flags, hfollows, fun _ => ⟨?_, ?_⟩⟩
    · show window.nextPacketNumber + 1 = _
      rw [hnext, UInt32.ofNat_add, UInt32.add_assoc]
      rfl
    · rw [hmoved, hflight]
      omega
  · rename_i hfull
    exact ⟨h.size, h.base, h.flags, hmore, fun hcan => absurd hcan hfull⟩

end Taking

/-- One packet: the context window moves with the number of the peer, if it can. -/
theorem transportSendReliablePacket_window (ctx : TransportCtx) (peer : PeerState)
    (txData : TxData) (data : Bytes) (fragment : Bool) (extensions : Bytes) :
    let sent := transportSendReliablePacket env ctx peer txData data fragment extensions
    (sent.1 ≠ .ok → sent.2.1.window = ctx.window) ∧
      (sent.1 = .ok → sent.2.1.window =
        if xglWindowCanSendPacketNumber ctx.window then xglWindowAdvanceNextPacketNumber ctx.window
        else ctx.window) := by
  simp only [transportSendReliablePacket, transportQueueReliableTx]
  by_cases hempty : (data.length == 0) = true
  · rw [if_pos hempty]
    exact ⟨fun _ => rfl, fun hok => by cases hok⟩
  rw [if_neg hempty]
  by_cases halloc : (!(reliableTxAlloc env ctx.io data fragment extensions).1) = true
  · rw [if_pos halloc]
    exact ⟨fun _ => rfl, fun hok => by cases hok⟩
  rw [if_neg halloc]
  simp only [transportSendReliableView]
  split
  · exact ⟨fun hne => absurd rfl hne, fun _ => rfl⟩
  · rename_i hne
    exact ⟨fun _ => rfl, fun hok => absurd hok hne⟩

/-- The fragments of a request. The induction is on the fragments to come, and `k` counts those
sent. -/
theorem transportFragmentLoop_taking (txData : TxData) (data : Bytes) (messageId : UInt32)
    (payloadMax : Nat) {start : SlidingWindow} {waiting : UInt32 → Prop} {peer : PeerState}
    (count : Nat)
    (hpackets : ∀ j, j < count →
      PacketFollows start waiting peer.txWindow.nextPacketNumber j)
    (indices : List Nat) (base : TransportCtx) (mid : PeerState) (k : Nat)
    (hcount : k + indices.length ≤ count) (hgrown : Grown txData.targetId k peer mid)
    (htaking : Taking start waiting peer.txWindow.nextPacketNumber k base.window) :
    let sent := transportFragmentLoop env txData data messageId payloadMax indices base (some mid)
    ∃ after k', sent.2.2 = some after ∧ Grown txData.targetId k' peer after ∧
      Taking start waiting peer.txWindow.nextPacketNumber k' sent.2.1.window := by
  dsimp only
  induction indices generalizing base mid k with
  | nil => exact ⟨mid, k, rfl, hgrown, htaking⟩
  | cons i rest ih =>
    rw [List.length_cons] at hcount
    simp only [transportFragmentLoop, transportSendOneFragment]
    by_cases hcan : xglWindowCanSendPacketNumber mid.txWindow = true
    · rw [if_neg (by simp [hcan])]
      cases transportEncodeFragmentExt messageId (i * payloadMax) data.length with
      | error err =>
        cases err with
        | ok => exact ih base mid k (by omega) hgrown htaking
        | _ => exact ⟨mid, k, rfl, hgrown, htaking⟩
      | ok ext =>
        have hsent := transportSendReliablePacket_spec env base mid txData
          (readBytes data (i * payloadMax) (min (data.length - i * payloadMax) payloadMax)) true ext
        have hwindow := @transportSendReliablePacket_window env base mid txData
          (readBytes data (i * payloadMax) (min (data.length - i * payloadMax) payloadMax)) true ext
        dsimp only at hsent hwindow ⊢
        generalize transportSendReliablePacket env base mid txData
          (readBytes data (i * payloadMax) (min (data.length - i * payloadMax) payloadMax)) true ext
            = sent at hsent hwindow ⊢
        obtain ⟨err, next, after⟩ := sent
        obtain ⟨-, -, hkey, hout⟩ := hsent
        dsimp only at hkey hout hwindow ⊢
        -- the packet failed and took nothing, or it was sent
        rcases hout with ⟨hne, rfl⟩ | ⟨rfl, hpeer, hqueue⟩
        · have hkept := hwindow.1 hne
          cases err with
          | ok => exact absurd rfl hne
          | _ => exact ⟨after, k, rfl, hgrown, hkept ▸ htaking⟩
        · refine ih next after (k + 1) (by omega) (hgrown.succ hcan hkey rfl rfl hqueue hpeer) ?_
          rw [hwindow.2 rfl]
          exact htaking.succ (hpackets k (by omega))
    · rw [if_pos (by simp [hcan])]
      exact ⟨mid, k, rfl, hgrown, htaking⟩

/-- The number of packets of a plan. -/
theorem transportBuildSendPlan_single {config : TransportConfig} {txData : TxData} {dataLen : Nat}
    {plan : SendPlan} (h : transportBuildSendPlan config txData dataLen = .ok plan)
    (hwhole : plan.needsFragmentation = false) : plan.fragmentCount = 1 := by
  simp only [transportBuildSendPlan] at h
  split at h
  · cases h
  split at h
  · cases h
  split at h
  · cases h
    rfl
  split at h
  · cases h
  split at h
  · cases h
  · cases h
    cases hwhole

/-- The transmission of a request takes one number for each packet that finds room. -/
theorem transportTransmit_taking (peer : PeerState) (txData : TxData) (data : Bytes)
    {plan : SendPlan} {dataLen : Nat}
    (hplan : transportBuildSendPlan ctx.config txData dataLen = .ok plan)
    (hcan : xglWindowCanSendPacketNumber peer.txWindow = true) {waiting : UInt32 → Prop}
    (hfollows : WindowFollows ctx.window waiting)
    (hpackets : ∀ j, j < plan.fragmentCount →
      PacketFollows ctx.window waiting peer.txWindow.nextPacketNumber j) :
    let sent := transportTransmit env ctx (some peer) txData data plan
    ∃ after k, sent.2.2 = some after ∧ Grown txData.targetId k peer after ∧
      Taking ctx.window waiting peer.txWindow.nextPacketNumber k sent.2.1.window := by
  simp only [transportTransmit, transportSendFragmented]
  split
  · split
    · exact ⟨peer, 0, rfl, .zero _ peer, .zero hfollows⟩
    · exact transportFragmentLoop_taking txData data _ _ plan.fragmentCount hpackets _ _ peer 0
        (by rw [List.length_range]; omega) (.zero _ peer) (.zero hfollows)
  · rename_i hwhole
    have hsingle := transportBuildSendPlan_single hplan (Bool.eq_false_of_not_eq_true hwhole)
    obtain ⟨-, -, hkey, hout⟩ := transportSendReliablePacket_spec env ctx peer txData
      (transportEncodeData ctx.config txData data) false []
    have hwindow := @transportSendReliablePacket_window env ctx peer txData
      (transportEncodeData ctx.config txData data) false []
    rcases hout with ⟨hne, heq⟩ | ⟨hok, hpeer, hqueue⟩
    · refine ⟨peer, 0, congrArg some heq, .zero _ peer, ?_⟩
      rw [hwindow.1 hne]
      exact .zero hfollows
    · refine ⟨_, 1, rfl, (Grown.zero _ peer).succ hcan hkey rfl rfl hqueue hpeer, ?_⟩
      rw [hwindow.2 hok]
      exact (Taking.zero hfollows).succ (hpackets 0 (by omega))

/-- The numbers that wait once the packets of a request are queued. -/
theorem Grown.waiting {targetId : UInt16} {k : Nat} {peer after : PeerState}
    (h : Grown targetId k peer after) {peers : List PeerState}
    (hentry : peerOf peers peer.key = some peer) {n : UInt32}
    (hn : Waiting peers n ∨ ∃ i, i < k ∧ n = peer.txWindow.nextPacketNumber + UInt32.ofNat i) :
    Waiting (putPeer after peers) n := by
  obtain ⟨added, hcontents, hnumbers, -⟩ := h.queue
  have hqueue : numbers after.reliableQueue.waitAckList
      = numbers peer.reliableQueue.waitAckList ++ added.map ReliablePacket.packetNumber := by
    unfold numbers
    rw [hcontents, List.map_append]
  have hold : peerOf peers after.key = some peer := by
    rw [h.key]
    exact hentry
  rcases hn with hwait | ⟨i, hi, rfl⟩
  · refine hwait.put_of_subset hold fun m hm => ?_
    rw [hqueue]
    exact List.mem_append_left _ hm
  · refine ⟨after, mem_putPeer_self (peerOf_mem hentry) h.key, ?_⟩
    rw [hqueue, hnumbers]
    exact List.mem_append_right _ (List.mem_map.mpr ⟨i, List.mem_range.mpr hi, rfl⟩)

/-- The part of a send behind the peer selection. -/
theorem transportSendPlanned_follows (h : SharedFollows ctx) {peer : PeerState}
    (hentry : peerOf ctx.peers peer.key = some peer)
    (hcan : xglWindowCanSendPacketNumber peer.txWindow = true) (txData : TxData) (data : Bytes)
    (hpackets : ∀ plan, transportBuildSendPlan ctx.config txData data.length = .ok plan →
      ∀ j, j < plan.fragmentCount →
        PacketFollows ctx.window (Waiting ctx.peers) peer.txWindow.nextPacketNumber j) :
    SharedFollows (transportSendPlanned env ctx (some peer) txData data).2 := by
  simp only [transportSendPlanned]
  split
  · split <;> exact ⟨h.window, h.front⟩
  · rename_i plan hplan
    obtain ⟨hpeers, -, -⟩ := transportTransmit_spec env ctx peer txData data plan hcan
    obtain ⟨after, k, hafter, hgrown, htaking⟩ :=
      transportTransmit_taking peer txData data hplan hcan h.window (hpackets plan hplan)
    generalize transportTransmit env ctx (some peer) txData data plan = sent
      at hpeers hafter htaking ⊢
    obtain ⟨err, next, written⟩ := sent
    dsimp only at hpeers hafter htaking ⊢
    subst hafter
    -- the context after the peer is written back, touched or not
    have hfinal : ∀ (final : TransportCtx) (last : PeerState),
        final.window = next.window → final.peers = putPeer last ctx.peers →
        Grown txData.targetId k peer last → SharedFollows final := by
      intro final last hwindow hwritten hlast
      have hwaits : ∀ n, (Waiting ctx.peers n ∨
          ∃ i, i < k ∧ n = peer.txWindow.nextPacketNumber + UInt32.ofNat i) →
            Waiting final.peers n := by
        intro n hn
        rw [hwritten]
        exact hlast.waiting hentry hn
      constructor
      · rw [hwindow]
        exact htaking.follows.mono hwaits
      · intro hflag
        rw [hwindow] at hflag
        unfold SlidingWindow.Flag at hflag
        rw [htaking.flags] at hflag
        obtain ⟨n, hn⟩ := h.front hflag
        exact ⟨n, hwaits n (.inl hn)⟩
    have hsame : ∀ now, Grown txData.targetId k peer { after with lastActiveMs := now } :=
      fun now => ⟨hgrown.key, hgrown.queue, hgrown.flags, hgrown.next, hgrown.size, hgrown.base,
        hgrown.ahead, hgrown.span, hgrown.room⟩
    cases err with
    | ok => exact hfinal _ _ rfl (by rw [← hpeers]; rfl) (hsame _)
    | _ => exact hfinal _ after rfl (by rw [← hpeers]; rfl) hgrown

/-- A request without a peer leaves the context window alone. -/
theorem transportSendPlanned_unreliable_window (txData : TxData) (data : Bytes) :
    (transportSendPlanned env ctx none txData data).2.window = ctx.window := by
  have hloop : ∀ (messageId : UInt32) (payloadMax : Nat) (indices : List Nat) (base : TransportCtx),
      (transportFragmentLoop env txData data messageId payloadMax indices base none).2.1.window
        = base.window := by
    intro messageId payloadMax indices
    induction indices with
    | nil => exact fun _ => rfl
    | cons i rest ih =>
      intro base
      simp only [transportFragmentLoop, transportSendOneFragment]
      cases transportEncodeFragmentExt messageId (i * payloadMax) data.length with
      | error err =>
        cases err with
        | ok => exact ih base
        | _ => rfl
      | ok ext =>
        dsimp only [transportSendUnreliablePacket]
        generalize xglLayerSend env base.io _ = sent
        obtain ⟨err, io⟩ := sent
        cases err with
        | ok => exact ih { base with io := io }
        | _ => rfl
  simp only [transportSendPlanned]
  split
  · split <;> rfl
  · rename_i plan _
    obtain ⟨-, -, hnone⟩ := transportTransmit_unreliable env ctx txData data plan
    have hwindow : (transportTransmit env ctx none txData data plan).2.1.window = ctx.window := by
      simp only [transportTransmit, transportSendFragmented]
      split
      · split
        · rfl
        · exact hloop _ _ _ _
      · rfl
    generalize transportTransmit env ctx none txData data plan = sent at hnone hwindow ⊢
    obtain ⟨err, after, peer⟩ := sent
    dsimp only at hnone hwindow ⊢
    subst hnone
    cases err <;> exact hwindow

/-- A send. -/
theorem xglTransportSend_follows (h : SharedFollows ctx) (txData : TxData)
    (hpackets : SendFollows ctx txData) : SharedFollows (xglTransportSend env ctx txData).2 := by
  simp only [xglTransportSend]
  split
  · exact h
  rename_i data hdata
  split
  · exact h
  split
  · exact ⟨h.window, h.front⟩
  split
  · rename_i hreliable
    have hcases := transportPrepareReliableSend_cases env ctx txData
    generalize transportPrepareReliableSend env ctx txData = prepared at hcases ⊢
    -- the peer is an entry, and its packets are those the premise is about
    have hgot : ∀ {base : TransportCtx} {peer : PeerState},
        GetOrCreate ctx txData.peerKey (base, some peer) →
        SharedFollows base ∧ peerOf base.peers peer.key = some peer ∧
          (∀ plan, transportBuildSendPlan base.config txData data.length = .ok plan →
            ∀ j, j < plan.fragmentCount →
              PacketFollows base.window (Waiting base.peers) peer.txWindow.nextPacketNumber j) := by
      intro base peer hgot
      have hall := hpackets hreliable data
      unfold firstNumber at hall
      cases hgot with
      | found _ hlook =>
        rw [hlook] at hall
        exact ⟨h, peerOf_of_lookupPeer hlook, fun plan hplan => hall plan hdata hplan⟩
      | created hlook io hevents hsize =>
        rw [hlook] at hall
        refine ⟨⟨h.window.mono fun n hn => hn.cons _, fun hflag => ?_⟩,
          by rw [peerOf_cons, if_pos rfl], fun plan hplan j hj hroom => ?_⟩
        · obtain ⟨n, hn⟩ := h.front hflag
          exact ⟨n, hn.cons _⟩
        · obtain ⟨hspan, hnumber⟩ := hall plan hdata hplan j hj hroom
          exact ⟨hspan, hnumber.imp_left fun hn => hn.cons _⟩
    -- the outcomes of the peer selection
    cases hcases with
    | refused hlook session io hevents => exact ⟨h.window, h.front⟩
    | full base peer hselect hfull => exact (hgot hselect).1
    | ready base peer hselect hcan hhello =>
      obtain ⟨hbase, hentry, hplan⟩ := hgot hselect
      exact transportSendPlanned_follows hbase hentry hcan txData data hplan
    | greeted base peer hselect hcan hhello io hsent =>
      obtain ⟨hbase, hentry, hplan⟩ := hgot hselect
      have hwaits : ∀ n, Waiting base.peers n →
          Waiting (putPeer { peer with helloSent := true } base.peers) n := fun n hn =>
        @Waiting.put_of_subset base.peers { peer with helloSent := true } peer hentry
          (fun m hm => hm) n hn
      have hgreeted : SharedFollows
          { base with io := io, peers := putPeer { peer with helloSent := true } base.peers } := by
        refine ⟨hbase.window.mono hwaits, fun hflag => ?_⟩
        obtain ⟨n, hn⟩ := hbase.front hflag
        exact ⟨n, hwaits n hn⟩
      refine @transportSendPlanned_follows env _ hgreeted { peer with helloSent := true } ?_ hcan
        txData data fun plan hbuilt j hj hroom => ?_
      · rw [peerOf_putPeer, if_pos rfl]
        exact congrArg (Option.map fun _ => _) hentry
      · obtain ⟨hspan, hnumber⟩ := hplan plan hbuilt j hj hroom
        exact ⟨hspan, hnumber.imp_left (hwaits _)⟩
    | mute base peer hselect hhello err hne io hsent =>
      obtain ⟨hbase, -, -⟩ := hgot hselect
      cases err with
      | ok => exact absurd rfl hne
      | _ => exact ⟨hbase.window, hbase.front⟩
  · have hpeers := transportSendPlanned_unreliable env ctx txData data
    have hwindow := @transportSendPlanned_unreliable_window env ctx txData data
    refine WindowUndisturbed.follows (.inr ⟨hwindow, fun n hn => ?_⟩) h
    rw [hpeers]
    exact hn

end Steps

/-! ### Actions and runs -/

/-- When an action keeps the context window in step with the queues: the packets of a reliable
request take numbers that wait, an ACK marks numbers that were taken, and the timers give up no
packet. -/
def ActionFollows (env : TransportEnv) (ctx : TransportCtx) : TransportAction → Prop
  | .send txData => SendFollows ctx txData
  | .receive packet => ∀ peer, transportFindAckPeer ctx.peers packet = some peer →
      ackReaches packet peer = true → NamesTaken env ctx peer packet
  | .run now => NoneExhausted ctx.peers now

/-- One action. -/
theorem transportStep_follows {env : TransportEnv} {ctx : TransportCtx} (h : SharedFollows ctx)
    (action : TransportAction) (haction : ActionFollows env ctx action) :
    SharedFollows (transportStep env ctx action) := by
  cases action with
  | send txData => exact xglTransportSend_follows h txData haction
  | run now => exact (xglTransportRun_windowUndisturbed now haction).follows h
  | receive packet =>
    show SharedFollows (xglTransportReceive env ctx packet).2
    simp only [xglTransportReceive]
    split
    · exact (transportProcessControlPacket_windowUndisturbed packet).follows h
    split
    · exact transportProcessAckPacket_follows h packet haction
    split
    · exact h
    · exact (transportReceiveData_windowUndisturbed packet _).follows h

/-- A run. -/
theorem runActions_follows {env : TransportEnv} (actions : List TransportAction)
    {ctx : TransportCtx} (h : SharedFollows ctx)
    (hrun : Along (transportStep env) (ActionFollows env) actions ctx) :
    SharedFollows (runActions env actions ctx) :=
  foldl_along SharedFollows
    (fun _ action hstate hfollows => transportStep_follows hstate action hfollows)
    actions ctx h hrun

/-- A new context. -/
theorem xglTransportInit_follows {config : TransportConfig} {ctx : TransportCtx}
    (hinit : xglTransportInit config = .ok ctx) : SharedFollows ctx := by
  have hwindow : ∃ size : UInt8, size ≠ 0 ∧ ctx.window = freshWindow size := by
    simp only [xglTransportInit] at hinit
    split at hinit
    · cases hinit
    · rename_i hsize
      cases hinit
      simp only [Bool.or_eq_true, beq_iff_eq, not_or] at hsize
      exact ⟨config.windowSize, hsize.1, rfl⟩
  obtain ⟨size, hsize, hwindow⟩ := hwindow
  constructor
  · rw [hwindow]
    exact .fresh hsize
  · intro hflag
    rw [hwindow] at hflag
    exact absurd hflag (WindowFollows.fresh_flag size 0)

/-- Whatever the number of peers: when every packet of a request took a number that waited, every
ACK marked numbers that were taken and no packet was given up, then the context window is empty and
lets the next packet through as soon as the queues are empty. -/
theorem shared_window_drains (env : TransportEnv) (config : TransportConfig) (ctx : TransportCtx)
    (hinit : xglTransportInit config = .ok ctx) (actions : List TransportAction)
    (hrun : Along (transportStep env) (ActionFollows env) actions ctx)
    (hempty : ∀ peer ∈ (runActions env actions ctx).peers, peer.reliableQueue.waitAckList = []) :
    (runActions env actions ctx).window.sendBasePacketNumber
        = (runActions env actions ctx).window.nextPacketNumber ∧
      xglTransportCanSend (runActions env actions ctx) = true := by
  have hfollows := runActions_follows actions (xglTransportInit_follows hinit) hrun
  have hnone := not_waiting_of_empty hempty
  have hdrained := hfollows.window.empty hnone fun hflag => by
    obtain ⟨n, hn⟩ := hfollows.front hflag
    exact hnone n hn
  refine ⟨hdrained, ?_⟩
  have hsize : 0 < (runActions env actions ctx).window.windowSize.toUInt32 := by
    rw [UInt32.lt_iff_toNat_lt, UInt8.toNat_toUInt32]
    exact Nat.pos_of_ne_zero fun hzero => hfollows.window.nonempty (UInt8.toNat_inj.mp hzero)
  unfold xglTransportCanSend xglWindowCanSendPacketNumber
  rw [hdrained, UInt32.sub_self]
  exact decide_eq_true hsize

/-- Node 1 with one packet sent and acknowledged. -/
def oneAcknowledged : TransportCtx :=
  runActions calmEnv [.send sampleTx, .receive (rangeAck 0 1)] senderTransport

/-- Its context window is empty. -/
theorem shared_window_drains_single :
    oneAcknowledged.window.sendBasePacketNumber = oneAcknowledged.window.nextPacketNumber ∧
      xglTransportCanSend oneAcknowledged = true := by
  have hbody : (rangeAck 0 1).ackBody
      = .range { largestAck := 0, ackDelayUs := 0, ranges := [{ gap := 0, length := 1 }] } := by
    rfl
  refine shared_window_drains calmEnv senderConfig senderTransport rfl
    [.send sampleTx, .receive (rangeAck 0 1)] ⟨?_, ?_, trivial⟩ (by decide +kernel)
  · intro _ data plan hdata hplan j hj _
    cases hdata
    have hcount : (transportBuildSendPlan senderConfig sampleTx 1).toOption.map
        SendPlan.fragmentCount = some 1 := by decide +kernel
    have hone : plan.fragmentCount = 1 := by
      rw [show transportBuildSendPlan senderConfig sampleTx 1 = .ok plan from hplan] at hcount
      exact Option.some.inj hcount
    rw [hone, Nat.lt_one_iff] at hj
    subst hj
    exact ⟨by decide +kernel, .inr ⟨0, le_refl 0, by decide +kernel⟩⟩
  · intro peer hfind _
    unfold NamesTaken
    rw [hbody]
    intro _ n hn hun
    have hnumbers : n = 0 := by
      have hlist : (AckRangeExt.mk 0 0 [{ gap := 0, length := 1 }]).numbers = [0] := by
        decide +kernel
      exact List.mem_singleton.mp (hlist ▸ hn)
    have hflight : oneInFlight.window.inFlight = 1 := by decide +kernel
    have hbase : oneInFlight.window.sendBasePacketNumber = 0 := by decide +kernel
    have hbeyond : oneInFlight.window.inFlight
        ≤ (n - oneInFlight.window.sendBasePacketNumber).toNat := hun.2
    rw [hflight, hbase, hnumbers] at hbeyond
    exact absurd hbeyond (by decide)

/-! ### Two peers -/

/-- The acknowledgement names numbers only that were sent to its sender. -/
def ackNamesSent (ctx : TransportCtx) (packet : Packet) : Bool :=
  match transportFindAckPeer ctx.peers packet, packet.ackBody with
  | some peer, .range ack => ack.numbers.all fun n => n < peer.txWindow.nextPacketNumber
  | some peer, .sack value =>
    match xglWireDecodeSackExtValue value 64 with
    | .error _ => true
    | .ok sack => (sackIndices sack.bitmap).all fun i => !transportSackBitIsSet sack.bitmap i ||
        sack.basePacket + UInt32.ofNat i < peer.txWindow.nextPacketNumber
  | _, _ => true

/-- Whatever is received names such numbers. -/
def AckNamesSent (ctx : TransportCtx) (action : TransportAction) : Prop :=
  ∀ packet, action = .receive packet → ackNamesSent ctx packet = true

/-- Whether an action names sent numbers can be computed. -/
instance (ctx : TransportCtx) : ∀ action, Decidable (AckNamesSent ctx action)
  | .receive packet =>
    decidable_of_iff (ackNamesSent ctx packet = true)
      ⟨fun h _ heq => TransportAction.receive.inj heq ▸ h, fun h => h packet rfl⟩
  | .send _ => .isTrue fun _ heq => TransportAction.noConfusion heq
  | .run _ => .isTrue fun _ heq => TransportAction.noConfusion heq

/-- Node 1 with a window of two packets. -/
def narrowConfig : TransportConfig :=
  { senderConfig with windowSize := 2 }

/-- Its context at first. -/
def narrowTransport : TransportCtx :=
  { senderTransport with config := narrowConfig, window := freshWindow 2 }

/-- Packet `n` to node 2 and then to node 3, each acknowledged at once. -/
def sendBoth (n : UInt32) : List TransportAction :=
  [.send sampleTx, .receive (rangeAck n 1), .send { sampleTx with targetId := 3 },
    .receive { rangeAck n 1 with sourceId := 3, sessionId := 2 }]

/-- The context after two packets to each node. -/
def bothServed : TransportCtx :=
  runActions calmEnv (sendBoth 0 ++ sendBoth 1) narrowTransport

/-- Two packets to each of two peers, all acknowledged: the context window took four numbers and saw
two of them acknowledged, so nothing is outstanding and it lets nothing through. -/
theorem shared_window_stuck :
    xglTransportInit narrowConfig = .ok narrowTransport ∧
      Along (transportStep calmEnv) AckNamesSent (sendBoth 0 ++ sendBoth 1) narrowTransport ∧
      (∀ peer ∈ bothServed.peers, peer.reliableQueue.waitAckList = []) ∧
      bothServed.window.sendBasePacketNumber = 2 ∧ bothServed.window.nextPacketNumber = 4 ∧
      xglTransportCanSend bothServed = false := by
  refine ⟨rfl, by decide +kernel, by decide +kernel, by decide +kernel, by decide +kernel,
    by decide +kernel⟩

end XgenLink
