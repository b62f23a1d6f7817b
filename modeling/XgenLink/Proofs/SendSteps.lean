import Mathlib.Data.List.Forall2
import XgenLink.Proofs.QueueSteps
import XgenLink.Transport.Runtime

/-!
# `XgenLink.Proofs.SendSteps`: sends and timers on the wait-ACK queues

A reliable send adds entries with the next numbers and takes none out; the timers take out entries
whose retries are used up, and report each. Together with `XgenLink.Proofs.QueueSteps`, which is
about acknowledgements and control packets, this is everything that can happen to a queue.

A send can stop in the middle: it selects or creates the peer, hands a HELLO down for a new one,
and then sends packet after packet until one fails. What was sent up to there stays. `Grown` counts
these packets, and every failure is a `Grown` with a smaller count.

* `Grown`: the peer of a request after some of its packets were sent.
* `transportFragmentLoop_spec`, `transportTransmit_spec`: the packets of a request.
* `PreparedSend`, `transportPrepareReliableSend_cases`: the outcomes of the peer selection.
* `transportSendPlanned_spec`: what a send adds.
* `Exhausted`, `retransmissionLoop_spec`, `transportProcessRetransmissions_spec`: what the
  timers take out.
-/

set_option autoImplicit false

namespace XgenLink

/-! ### Sends -/

/-- Taking the newest number off takes the last entry off. -/
theorem reliableUnlink_append_self {n : UInt32} {targetId : UInt16} {packet : ReliablePacket}
    (h : packet.isFor n targetId = true) (queue : List ReliablePacket) :
    reliableUnlink n targetId (queue ++ [packet]) = queue := by
  unfold reliableUnlink
  rw [List.reverse_append, List.reverse_singleton, List.singleton_append,
    List.eraseP_cons_of_pos (by simpa using h), List.reverse_reverse]

/-- What the peer of a request looks like after `k` of its packets were sent:
`k` entries for the target with the next numbers were added. -/
structure Grown (targetId : UInt16) (k : Nat) (peer after : PeerState) : Prop where
  key : after.key = peer.key
  queue : ∃ added, contents after.reliableQueue.waitAckList
      = contents peer.reliableQueue.waitAckList ++ added ∧
    added.map ReliablePacket.packetNumber
      = (List.range k).map (fun i => peer.txWindow.nextPacketNumber + UInt32.ofNat i) ∧
    ∀ c ∈ added, c.targetId = targetId
  flags : after.txWindow.ackReceived = peer.txWindow.ackReceived
  next : after.txWindow.nextPacketNumber = peer.txWindow.nextPacketNumber + UInt32.ofNat k
  size : after.txWindow.windowSize = peer.txWindow.windowSize
  base : after.txWindow.sendBasePacketNumber = peer.txWindow.sendBasePacketNumber
  ahead : (after.txWindow.nextPacketNumber - after.txWindow.sendBasePacketNumber).toNat
    = (peer.txWindow.nextPacketNumber - peer.txWindow.sendBasePacketNumber).toNat + k
  span : k = 0 ∨ (after.txWindow.nextPacketNumber - after.txWindow.sendBasePacketNumber).toNat
    ≤ peer.txWindow.windowSize.toNat
  room : k ≤ peer.txWindow.windowSize.toNat

/-- Before the first packet nothing has happened. -/
theorem Grown.zero (targetId : UInt16) (peer : PeerState) : Grown targetId 0 peer peer where
  key := rfl
  queue := ⟨[], by simp, rfl, by simp⟩
  flags := rfl
  next := (UInt32.add_zero _).symm
  size := rfl
  base := rfl
  ahead := rfl
  span := .inl rfl
  room := Nat.zero_le _

/-- One more packet with room in the window. -/
theorem Grown.succ {targetId : UInt16} {k : Nat} {peer mid after : PeerState}
    (h : Grown targetId k peer mid)
    (hcan : xglWindowCanSendPacketNumber mid.txWindow = true) (hkey : after.key = mid.key)
    {entry : ReliablePacket} (hentry : entry.packetNumber = mid.txWindow.nextPacketNumber)
    (htarget : entry.targetId = targetId)
    (hqueue : contents after.reliableQueue.waitAckList
      = contents mid.reliableQueue.waitAckList ++ [entry])
    (hwindow : after.txWindow = xglWindowAdvanceNextPacketNumber mid.txWindow) :
    Grown targetId (k + 1) peer after := by
  have hroom : (mid.txWindow.nextPacketNumber - mid.txWindow.sendBasePacketNumber).toNat
      < mid.txWindow.windowSize.toNat := by
    unfold xglWindowCanSendPacketNumber at hcan
    rw [decide_eq_true_eq, UInt32.lt_iff_toNat_lt, UInt8.toNat_toUInt32] at hcan
    exact hcan
  have hsize := mid.txWindow.windowSize.toNat_lt
  have hahead := h.ahead
  rw [h.size] at hroom
  obtain ⟨added, hcontents, hnumbers, htargets⟩ := h.queue
  have hone : UInt32.ofNat (k + 1) = UInt32.ofNat k + 1 := by
    rw [UInt32.ofNat_add]
    rfl
  have hgrown : (after.txWindow.nextPacketNumber - after.txWindow.sendBasePacketNumber).toNat
      = (peer.txWindow.nextPacketNumber - peer.txWindow.sendBasePacketNumber).toNat + (k + 1) := by
    rw [hwindow]
    unfold xglWindowAdvanceNextPacketNumber
    dsimp only
    have hsub : mid.txWindow.nextPacketNumber + 1 - mid.txWindow.sendBasePacketNumber
        = (mid.txWindow.nextPacketNumber - mid.txWindow.sendBasePacketNumber) + 1 := by
      rw [UInt32.sub_eq_add_neg, UInt32.sub_eq_add_neg, UInt32.add_assoc,
        UInt32.add_comm 1, ← UInt32.add_assoc]
    rw [hsub, UInt32.toNat_add]
    have : (1 : UInt32).toNat = 1 := rfl
    have := h.size
    rw [h.size] at hsize
    omega
  refine ⟨hkey.trans h.key, ⟨added ++ [entry], ?_, ?_, ?_⟩, ?_, ?_, ?_, ?_, hgrown,
    .inr (by omega), by omega⟩
  · rw [hqueue, hcontents, List.append_assoc]
  · rw [List.map_append, hnumbers, List.range_succ, List.map_append, List.map_singleton,
      List.map_singleton, hentry, h.next]
  · intro c hc
    rcases List.mem_append.mp hc with hold | hnew
    · exact htargets c hold
    · rw [List.mem_singleton.mp hnew]
      exact htarget
  · rw [hwindow]
    exact h.flags
  · rw [hwindow]
    unfold xglWindowAdvanceNextPacketNumber
    dsimp only
    rw [h.next, hone, UInt32.add_assoc]
  · rw [hwindow]
    exact h.size
  · rw [hwindow]
    exact h.base

/-- One reliable packet: a failure leaves the queue as it was, otherwise it holds
one more entry with the next number. -/
theorem transportSendReliablePacket_spec (env : TransportEnv) (ctx : TransportCtx)
    (peer : PeerState) (txData : TxData) (data : Bytes) (fragment : Bool) (extensions : Bytes) :
    let sent := transportSendReliablePacket env ctx peer txData data fragment extensions
    sent.2.1.peers = ctx.peers ∧ sent.2.1.config = ctx.config ∧ sent.2.2.key = peer.key ∧
      (sent.1 ≠ .ok ∧ sent.2.2 = peer ∨
        sent.1 = .ok ∧ sent.2.2.txWindow = xglWindowAdvanceNextPacketNumber peer.txWindow ∧
        contents sent.2.2.reliableQueue.waitAckList
          = contents peer.reliableQueue.waitAckList ++ [(reliableTxPacket ctx.config peer txData
              data peer.txWindow.nextPacketNumber fragment extensions).content]) := by
  dsimp only
  unfold transportSendReliablePacket xglWindowGetNextPacketNumber transportQueueReliableTx
  dsimp only
  split
  · rename_i io queued heq
    split at heq
    · cases heq
    split at heq
    · cases heq
    cases heq
    unfold transportSendReliableView
    dsimp only
    split
    · refine ⟨rfl, rfl, rfl, .inr ⟨rfl, rfl, ?_⟩⟩
      unfold transportCommitPacketNumber transportUpdatePeerDeadline
      dsimp only
      refine (reliableUpdate_contents ?_).trans (contents_append _ _)
      exact fun packet _ => rfl
    · rename_i hne
      refine ⟨rfl, rfl, rfl, .inl ⟨hne, ?_⟩⟩
      unfold xglReliableRemovePacketNumber reliableAppend
      dsimp only
      rw [reliableUnlink_append_self (by simp [ReliablePacket.isFor, reliableTxPacket])]
  · rename_i hne heq
    split at heq
    · cases heq
      exact ⟨rfl, rfl, rfl, .inl ⟨by simp, rfl⟩⟩
    split at heq
    · cases heq
      exact ⟨rfl, rfl, rfl, .inl ⟨by simp, rfl⟩⟩
    cases heq
    exact (hne rfl).elim

/-- The fragments of a request sent so far. The induction is on the fragments to
come, and `k` counts those sent. -/
theorem transportFragmentLoop_spec (env : TransportEnv) (txData : TxData) (data : Bytes)
    (messageId : UInt32) (payloadMax : Nat) (peer : PeerState) (indices : List Nat)
    (ctx : TransportCtx) (mid : PeerState) (k : Nat) (h : Grown txData.targetId k peer mid) :
    let sent := transportFragmentLoop env txData data messageId payloadMax indices ctx (some mid)
    sent.2.1.peers = ctx.peers ∧ sent.2.1.config = ctx.config ∧
      ∃ after k', sent.2.2 = some after ∧ Grown txData.targetId k' peer after := by
  dsimp only
  induction indices generalizing ctx mid k with
  | nil => exact ⟨rfl, rfl, mid, k, rfl, h⟩
  | cons i rest ih =>
    unfold transportFragmentLoop transportSendOneFragment
    dsimp only
    -- the window has room, or the loop stops
    by_cases hcan : xglWindowCanSendPacketNumber mid.txWindow = true
    · rw [if_neg (by simp [hcan])]
      cases transportEncodeFragmentExt messageId (i * payloadMax) data.length with
      | error err =>
        cases err <;> first
          | exact ⟨rfl, rfl, mid, k, rfl, h⟩
          | exact ih ctx mid k h
      | ok ext =>
        dsimp only
        have hsent := transportSendReliablePacket_spec env ctx mid txData
          (readBytes data (i * payloadMax) (min (data.length - i * payloadMax) payloadMax)) true ext
        dsimp only at hsent
        generalize transportSendReliablePacket env ctx mid txData
          (readBytes data (i * payloadMax) (min (data.length - i * payloadMax) payloadMax)) true ext
            = sent at hsent ⊢
        obtain ⟨err, ctx', after⟩ := sent
        obtain ⟨hpeers, hconfig, hkey, hout⟩ := hsent
        dsimp only at hpeers hconfig hkey hout ⊢
        -- the fragment failed, and nothing of it stays, or it was sent
        rcases hout with ⟨hne, rfl⟩ | ⟨rfl, hwindow, hqueue⟩
        · cases err <;> first
            | exact absurd rfl hne
            | exact ⟨hpeers, hconfig, after, k, rfl, h⟩
        · obtain ⟨hpeers', hconfig', final⟩ := ih ctx' after (k + 1)
            (h.succ hcan hkey rfl rfl hqueue hwindow)
          exact ⟨hpeers'.trans hpeers, hconfig'.trans hconfig, final⟩
    · rw [if_pos (by simp [hcan])]
      exact ⟨rfl, rfl, mid, k, rfl, h⟩

/-- The transmission step adds the packets it sent. -/
theorem transportTransmit_spec (env : TransportEnv) (ctx : TransportCtx) (peer : PeerState)
    (txData : TxData) (data : Bytes) (plan : SendPlan)
    (hcan : xglWindowCanSendPacketNumber peer.txWindow = true) :
    let sent := transportTransmit env ctx (some peer) txData data plan
    sent.2.1.peers = ctx.peers ∧ sent.2.1.config = ctx.config ∧
      ∃ after k, sent.2.2 = some after ∧ Grown txData.targetId k peer after := by
  dsimp only
  unfold transportTransmit
  split
  · unfold transportSendFragmented
    split
    · exact ⟨rfl, rfl, peer, 0, rfl, .zero _ peer⟩
    · exact transportFragmentLoop_spec env txData data _ _ peer _ _ peer 0 (.zero _ peer)
  · dsimp only
    obtain ⟨hpeers, hconfig, hkey, hout⟩ := transportSendReliablePacket_spec env ctx peer txData
      (transportEncodeData ctx.config txData data) false []
    rcases hout with ⟨_, heq⟩ | ⟨_, hwindow, hqueue⟩
    · exact ⟨hpeers, hconfig, peer, 0, congrArg some heq, .zero _ peer⟩
    · exact ⟨hpeers, hconfig, _, 1, rfl, (Grown.zero _ peer).succ hcan hkey rfl rfl hqueue hwindow⟩

/-- A request without a peer changes no peer. -/
theorem transportTransmit_unreliable (env : TransportEnv) (ctx : TransportCtx) (txData : TxData)
    (data : Bytes) (plan : SendPlan) :
    let sent := transportTransmit env ctx none txData data plan
    sent.2.1.peers = ctx.peers ∧ sent.2.1.config = ctx.config ∧ sent.2.2 = none := by
  dsimp only
  unfold transportTransmit
  split
  · unfold transportSendFragmented
    split
    · exact ⟨rfl, rfl, rfl⟩
    · rename_i manager _
      generalize List.range plan.fragmentCount = indices
      generalize hctx : ({ ctx with
        fragmentMgr := some { manager with nextMessageId := manager.nextMessageId + 1 } } :
          TransportCtx) = start
      have hpeers : start.peers = ctx.peers := hctx ▸ rfl
      have hconfig : start.config = ctx.config := hctx ▸ rfl
      rw [← hpeers, ← hconfig]
      clear hpeers hconfig hctx
      -- the induction is on the fragments to come
      induction indices generalizing start with
      | nil => exact ⟨rfl, rfl, rfl⟩
      | cons i rest ih =>
        unfold transportFragmentLoop transportSendOneFragment
        dsimp only
        cases transportEncodeFragmentExt manager.nextMessageId (i * plan.fragmentPayloadBudget)
            data.length with
        | error err => cases err <;> first | exact ⟨rfl, rfl, rfl⟩ | exact ih start
        | ok ext =>
          dsimp only
          generalize hsent : transportSendUnreliablePacket env start txData (readBytes data
            (i * plan.fragmentPayloadBudget) (min (data.length - i * plan.fragmentPayloadBudget)
              plan.fragmentPayloadBudget)) true ext = sent
          obtain ⟨err, ctx'⟩ := sent
          have hframe : ctx'.peers = start.peers ∧ ctx'.config = start.config := by
            unfold transportSendUnreliablePacket at hsent
            cases hsent
            exact ⟨rfl, rfl⟩
          cases err <;> first
            | exact ⟨hframe.1, hframe.2, rfl⟩
            | exact hframe.1 ▸ hframe.2 ▸ ih ctx'
  · exact ⟨rfl, rfl, rfl⟩

/-- The part behind the peer selection writes back the peer with what was
added. -/
theorem transportSendPlanned_spec (env : TransportEnv) (ctx : TransportCtx) (peer : PeerState)
    (txData : TxData) (data : Bytes)
    (hcan : xglWindowCanSendPacketNumber peer.txWindow = true)
    (hentry : peerOf ctx.peers peer.key = some peer) :
    ∃ after k, (transportSendPlanned env ctx (some peer) txData data).2.peers
        = putPeer after ctx.peers ∧ Grown txData.targetId k peer after ∧
      (transportSendPlanned env ctx (some peer) txData data).2.config = ctx.config := by
  unfold transportSendPlanned
  split
  · refine ⟨peer, 0, ?_, .zero _ peer, ?_⟩
    · rw [putPeer_self hentry]
      split <;> rfl
    · split <;> rfl
  · rename_i plan _
    obtain ⟨hpeers, hconfig, after, k, hafter, hgrown⟩ :=
      transportTransmit_spec env ctx peer txData data plan hcan
    generalize transportTransmit env ctx (some peer) txData data plan = sent
      at hpeers hconfig hafter ⊢
    obtain ⟨err, ctx', peer'⟩ := sent
    dsimp only at hpeers hconfig hafter ⊢
    subst hafter
    have hsame : ∀ now, Grown txData.targetId k peer { after with lastActiveMs := now } :=
      fun now => ⟨hgrown.key, hgrown.queue, hgrown.flags, hgrown.next, hgrown.size, hgrown.base,
        hgrown.ahead, hgrown.span, hgrown.room⟩
    cases err with
    | ok => exact ⟨_, k, by rw [← hpeers]; rfl, hsame _, hconfig⟩
    | _ => exact ⟨after, k, by rw [← hpeers]; rfl, hgrown, hconfig⟩

/-- An unreliable request changes no peer. -/
theorem transportSendPlanned_unreliable (env : TransportEnv) (ctx : TransportCtx)
    (txData : TxData) (data : Bytes) :
    (transportSendPlanned env ctx none txData data).2.peers = ctx.peers := by
  simp only [transportSendPlanned]
  split
  · split <;> rfl
  · rename_i plan _
    obtain ⟨hpeers, _, hnone⟩ := transportTransmit_unreliable env ctx txData data plan
    generalize transportTransmit env ctx none txData data plan = sent at hpeers hnone ⊢
    obtain ⟨err, after, peer⟩ := sent
    dsimp only at hpeers hnone ⊢
    subst hnone
    cases err <;> exact hpeers

/-- The HELLO a reliable send opens a peer with. -/
def openingHello (config : TransportConfig) (txData : TxData) (peer : PeerState) : Packet :=
  helloPacket config
    { targetId := txData.targetId
      sessionId := peer.sessionId
      connectionId := peer.connectionId
      sessionEpoch := peer.sessionEpoch }

/-- The outcomes of the peer selection of a reliable send. -/
inductive PreparedSend (env : TransportEnv) (ctx : TransportCtx) (txData : TxData) :
    XglError × TransportCtx × Option PeerState → Prop where
  | refused (hlook : lookupPeer ctx.peers txData.peerKey = none) (session : UInt16)
      (io : TransportIo) (hevents : io.events = ctx.io.events) :
      PreparedSend env ctx txData
        (.noMemory, { ctx with nextSessionId := session, io := io }, none)
  | full (base : TransportCtx) (peer : PeerState)
      (hgot : GetOrCreate ctx txData.peerKey (base, some peer))
      (hfull : xglWindowCanSendPacketNumber peer.txWindow = false) :
      PreparedSend env ctx txData (.windowFull, base, some peer)
  | ready (base : TransportCtx) (peer : PeerState)
      (hgot : GetOrCreate ctx txData.peerKey (base, some peer))
      (hcan : xglWindowCanSendPacketNumber peer.txWindow = true) (hhello : peer.helloSent = true) :
      PreparedSend env ctx txData (.ok, base, some peer)
  | greeted (base : TransportCtx) (peer : PeerState)
      (hgot : GetOrCreate ctx txData.peerKey (base, some peer))
      (hcan : xglWindowCanSendPacketNumber peer.txWindow = true) (hhello : peer.helloSent = false)
      (io : TransportIo)
      (hsent : transportLowerSend env base.config base.io (openingHello base.config txData peer)
        = (.ok, io)) :
      PreparedSend env ctx txData
        (.ok,
          { base with io := io, peers := putPeer { peer with helloSent := true } base.peers },
          some { peer with helloSent := true })
  | mute (base : TransportCtx) (peer : PeerState)
      (hgot : GetOrCreate ctx txData.peerKey (base, some peer)) (hhello : peer.helloSent = false)
      (err : XglError) (hne : err ≠ .ok) (io : TransportIo)
      (hsent : transportLowerSend env base.config base.io (openingHello base.config txData peer)
        = (err, io)) :
      PreparedSend env ctx txData (err, { base with io := io }, some peer)

/-- Every peer selection ends in one of the outcomes. -/
theorem transportPrepareReliableSend_cases (env : TransportEnv) (ctx : TransportCtx)
    (txData : TxData) :
    PreparedSend env ctx txData (transportPrepareReliableSend env ctx txData) := by
  unfold transportPrepareReliableSend
  have hcases := transportGetOrCreatePeer_cases env ctx txData.peerKey
  generalize transportGetOrCreatePeer env ctx txData.peerKey = got at hcases ⊢
  obtain ⟨base, peer⟩ := got
  cases peer with
  | none =>
    cases hcases with
    | failed hlook session io hevents => exact .refused hlook session io hevents
  | some peer =>
    dsimp only
    rw [transportSendHello_eq]
    cases hcan : xglWindowCanSendPacketNumber peer.txWindow with
    | false => exact .full base peer hcases hcan
    | true =>
      rw [if_neg (by simp)]
      cases hhello : peer.helloSent with
      | true => exact .ready base peer hcases hcan hhello
      | false =>
        rw [if_neg (by simp)]
        generalize hsent : transportLowerSend env base.config base.io
          (openingHello base.config txData peer) = sent
        unfold openingHello at hsent
        rw [hsent]
        obtain ⟨err, io⟩ := sent
        cases err with
        | ok => exact .greeted base peer hcases hcan hhello io hsent
        | _ => exact .mute base peer hcases hhello _ (by simp) io hsent

/-- Selecting or creating a peer changes no queue, and the peer is an entry. -/
theorem GetOrCreate.queues {ctx base : TransportCtx} {txData : TxData} {peer : PeerState}
    (h : GetOrCreate ctx txData.peerKey (base, some peer)) (hkeys : KeysDistinct ctx.peers) :
    (∀ key, queueOf base.peers key = queueOf ctx.peers key) ∧ KeysDistinct base.peers ∧
      base.config = ctx.config ∧ peerOf base.peers peer.key = some peer ∧
      (lookupPeer ctx.peers txData.peerKey = some peer ∨
        peer.reliableQueue.waitAckList = []) := by
  cases h with
  | found _ hlook => exact ⟨fun _ => rfl, hkeys, rfl, peerOf_of_lookupPeer hlook, .inl hlook⟩
  | created hlook io hevents =>
    have hnone : peerOf ctx.peers (freshPeer ctx txData.peerKey).key = none := by
      rw [freshPeer_txKey]
      exact peerOf_none_of_lookupPeer hlook
    exact ⟨fun key => queueOf_cons_fresh hnone rfl key, hkeys.cons hnone, rfl,
      by rw [peerOf_cons, if_pos rfl], .inr rfl⟩

/-! ### Timers -/

/-- The entry was due with its retries used up, and that was reported. -/
def Exhausted (config : TransportConfig) (maxRetryCount : UInt8) (now : UInt32)
    (queue : List ReliablePacket) (new : List TransportEvent) (c : ReliablePacket) : Prop :=
  ∃ packet ∈ queue, packet.content = c ∧ packet.due now = true ∧
    maxRetryCount ≤ packet.retryCount ∧
    (config.errorCallback = true →
      .errorCallback .ackTimeout "Packet retry count exhausted" ∈ new)

/-- Handing a packet down appends to the log. -/
theorem transportLowerSend_events_append (env : TransportEnv) (config : TransportConfig)
    (io : TransportIo) (packet : Packet) :
    ∃ new, (transportLowerSend env config io packet).2.events = io.events ++ new := by
  unfold transportLowerSend
  split
  · exact ⟨_, xglLayerSend_events env io packet⟩
  · exact ⟨[], (List.append_nil _).symm⟩

/-- So does an error report, and with a callback it is one. -/
theorem transportReport_events (config : TransportConfig) (io : TransportIo) (error : XglError)
    (message : String) :
    ∃ new, (transportReport config io error message).events = io.events ++ new ∧
      (config.errorCallback = true → .errorCallback error message ∈ new) := by
  unfold transportReport
  split
  · exact ⟨_, rfl, fun _ => List.mem_singleton_self _⟩
  · rename_i h
    exact ⟨[], (List.append_nil _).symm, fun hc => absurd hc h⟩

/-- The numbers of a queue. -/
def numbers (queue : List ReliablePacket) : List UInt32 :=
  (contents queue).map ReliablePacket.packetNumber

/-- A queue that lost entries still has distinct numbers. -/
theorem Shrinks.nodup {gone : ReliablePacket → Prop} {before after : List ReliablePacket}
    (h : Shrinks gone before after) (hnodup : (numbers before).Nodup) : (numbers after).Nodup :=
  hnodup.sublist (h.sub.map _)

/-- The timer loop over a queue with distinct numbers: only exhausted entries go,
each reported. The induction is on the fuel, which covers the entries to come. -/
theorem retransmissionLoop_spec (env : TransportEnv) (config : TransportConfig)
    (maxRetryCount : UInt8) (now : UInt32) (fuel : Nat) (done rest : List ReliablePacket)
    (io : TransportIo) (hfuel : rest.length ≤ fuel) (hnodup : (numbers (done ++ rest)).Nodup) :
    ∃ new, (retransmissionLoop env config maxRetryCount now fuel done rest io).2.events
        = io.events ++ new ∧
      Shrinks (Exhausted config maxRetryCount now rest new) (done ++ rest)
        (retransmissionLoop env config maxRetryCount now fuel done rest io).1 := by
  induction fuel generalizing done rest io with
  | zero =>
    unfold retransmissionLoop
    exact ⟨[], (List.append_nil _).symm, .refl _⟩
  | succ fuel ih =>
    -- the entry at the cursor
    cases rest with
    | nil =>
      unfold retransmissionLoop
      refine ⟨[], (List.append_nil _).symm, ?_⟩
      rw [List.append_nil]
      exact .refl _
    | cons packet rest =>
      have hfuel' : rest.length ≤ fuel := Nat.le_of_succ_le_succ hfuel
      have hmore : ∀ {new new' : List TransportEvent} {c : ReliablePacket},
          (∀ e ∈ new, e ∈ new') → Exhausted config maxRetryCount now rest new c →
            Exhausted config maxRetryCount now (packet :: rest) new' c := by
        rintro new new' c hsub ⟨entry, hmem, hcontent, hdue, hretry, hreport⟩
        exact ⟨entry, List.mem_cons_of_mem _ hmem, hcontent, hdue, hretry,
          fun hc => hsub _ (hreport hc)⟩
      unfold retransmissionLoop
      split
      · obtain ⟨new, hevents, hshrinks⟩ := ih (done ++ [packet]) rest io hfuel'
            (by simpa using hnodup)
        refine ⟨new, hevents, ?_⟩
        rw [List.append_assoc, List.singleton_append] at hshrinks
        exact hshrinks.mono fun c hc => hmore (fun _ he => he) hc
      · rename_i hdue
        split
        · -- exhausted: no entry behind it has its number, so it goes itself
          rename_i hretry
          have hnone : (rest.any fun other => other.isFor packet.packetNumber packet.targetId)
              = false := by
            rw [List.any_eq_false]
            intro other hother hfor
            unfold ReliablePacket.isFor at hfor
            rw [Bool.and_eq_true, beq_iff_eq] at hfor
            unfold numbers contents at hnodup
            rw [List.map_append, List.map_append, List.nodup_append] at hnodup
            have hcons := hnodup.2.1
            rw [List.map_cons, List.map_cons, List.nodup_cons] at hcons
            refine hcons.1 (List.mem_map.mpr ⟨other.content, List.mem_map_of_mem hother, ?_⟩)
            exact hfor.1
          dsimp only
          rw [if_neg (by simp [hnone])]
          have hsub : (numbers (done ++ rest)).Nodup := by
            refine hnodup.sublist (List.Sublist.map _ (List.Sublist.map _ ?_))
            exact List.Sublist.append_left (List.sublist_cons_self packet rest) done
          obtain ⟨reported, hreported, hcallback⟩ := transportReport_events config io .ackTimeout
            "Packet retry count exhausted"
          obtain ⟨new, hevents, hshrinks⟩ := ih done rest
            (transportReport config io .ackTimeout "Packet retry count exhausted") hfuel' hsub
          refine ⟨reported ++ new, by rw [hevents, hreported, List.append_assoc], ?_⟩
          refine Shrinks.trans (b := done ++ rest) ⟨?_, ?_⟩ (hshrinks.mono fun c hc =>
            hmore (fun e he => List.mem_append_right _ he) hc)
          · exact List.Sublist.map _
              (List.Sublist.append_left (List.sublist_cons_self packet rest) done)
          · intro c hc
            unfold contents at hc ⊢
            rw [List.map_append, List.map_cons, List.mem_append, List.mem_cons] at hc
            rw [List.map_append, List.mem_append]
            -- an entry behind the cursor, the one at it, or one to come
            rcases hc with hd | rfl | hr
            · exact .inl (.inl hd)
            · refine .inr ⟨packet, List.mem_cons_self, rfl, by simpa using hdue, hretry,
                fun hc => ?_⟩
              exact List.mem_append_left _ (hcallback hc)
            · exact .inl (.inr hr)
        · dsimp only
          have hcontent := transportRetransmitReliablePacket_content env config io packet now
          have hsent : ∃ new,
              (transportRetransmitReliablePacket env config io packet now).2.1.events
              = io.events ++ new := by
            obtain ⟨new, hnew⟩ := transportLowerSend_events_append env config io
              (retransmitPacket packet)
            refine ⟨new, ?_⟩
            unfold transportRetransmitReliablePacket
            dsimp only
            split <;> exact hnew
          generalize transportRetransmitReliablePacket env config io packet now = sent
            at hcontent hsent ⊢
          obtain ⟨err, io', entry⟩ := sent
          dsimp only at hcontent hsent ⊢
          obtain ⟨first, hfirst⟩ := hsent
          have hsame : contents (done ++ [entry] ++ rest) = contents (done ++ packet :: rest) := by
            unfold contents
            simp [hcontent]
          obtain ⟨new, hevents, hshrinks⟩ := ih (done ++ [entry]) rest io' hfuel' (by
            unfold numbers
            rw [hsame]
            exact hnodup)
          refine ⟨first ++ new, by rw [hevents, hfirst, List.append_assoc], ?_⟩
          exact (Shrinks.of_contents hsame).trans (hshrinks.mono fun c hc =>
            hmore (fun e he => List.mem_append_right _ he) hc)

/-- What the timers do to one peer: its sender part changes, and its queue loses
exhausted entries. -/
structure TimerSpec (config : TransportConfig) (now : UInt32) (new : List TransportEvent)
    (peer after : PeerState) : Prop where
  frame : ∃ queue deadline,
    after = { peer with reliableQueue := queue, earliestDeadlineMs := deadline }
  retry : after.reliableQueue.maxRetryCount = peer.reliableQueue.maxRetryCount
  queue : Shrinks (Exhausted config peer.reliableQueue.maxRetryCount now
    peer.reliableQueue.waitAckList new) peer.reliableQueue.waitAckList
    after.reliableQueue.waitAckList

/-- What the timers did in a part of the log they did in all of it. -/
theorem TimerSpec.mono {config : TransportConfig} {now : UInt32} {new new' : List TransportEvent}
    {peer after : PeerState} (h : TimerSpec config now new peer after)
    (hsub : ∀ e ∈ new, e ∈ new') : TimerSpec config now new' peer after where
  frame := h.frame
  retry := h.retry
  queue := h.queue.mono fun c => by
    rintro ⟨packet, hmem, hcontent, hdue, hretry, hreport⟩
    exact ⟨packet, hmem, hcontent, hdue, hretry, fun hc => hsub _ (hreport hc)⟩

/-- The timers keep the key of a peer. -/
theorem TimerSpec.key {config : TransportConfig} {now : UInt32} {new : List TransportEvent}
    {peer after : PeerState} (h : TimerSpec config now new peer after) : after.key = peer.key := by
  obtain ⟨queue, deadline, hframe⟩ := h.frame
  rw [hframe]
  rfl

/-- One peer: its loop, and then its deadline. -/
theorem transportRetransmitPeer_spec (env : TransportEnv) (config : TransportConfig) (now : UInt32)
    (io : TransportIo) (peer : PeerState)
    (hnodup : (numbers peer.reliableQueue.waitAckList).Nodup) :
    ∃ new, (transportRetransmitPeer env config now io peer).2.events = io.events ++ new ∧
      TimerSpec config now new peer (transportRetransmitPeer env config now io peer).1 := by
  obtain ⟨new, hevents, hshrinks⟩ := retransmissionLoop_spec env config
    peer.reliableQueue.maxRetryCount now peer.reliableQueue.waitAckList.length []
    peer.reliableQueue.waitAckList io (le_refl _) hnodup
  exact ⟨new, hevents, ⟨_, _, rfl⟩, rfl, hshrinks⟩

/-- The timers of all peers: each peer changes by itself. -/
theorem transportProcessRetransmissions_spec (env : TransportEnv) (config : TransportConfig)
    (now : UInt32) (peers : List PeerState) (io : TransportIo)
    (hnodup : ∀ peer ∈ peers, (numbers peer.reliableQueue.waitAckList).Nodup) :
    ∃ new, (transportProcessRetransmissions env config now peers io).2.events = io.events ++ new ∧
      List.Forall₂ (TimerSpec config now new) peers
        (transportProcessRetransmissions env config now peers io).1 := by
  induction peers generalizing io with
  | nil => exact ⟨[], (List.append_nil _).symm, .nil⟩
  | cons peer rest ih =>
    obtain ⟨first, hfirst, hspec⟩ := transportRetransmitPeer_spec env config now io peer
      (hnodup peer List.mem_cons_self)
    obtain ⟨others, hothers, hforall⟩ := ih (transportRetransmitPeer env config now io peer).2
      (fun p hp => hnodup p (List.mem_cons_of_mem _ hp))
    refine ⟨first ++ others, ?_, .cons (hspec.mono fun e he => List.mem_append_left _ he) ?_⟩
    · unfold transportProcessRetransmissions
      dsimp only
      rw [hothers, hfirst, List.append_assoc]
    · exact hforall.imp fun a b hab => hab.mono fun e he => List.mem_append_right _ he

/-- A lookup after a pointwise change that keeps the keys. -/
theorem peerOf_forall₂ {R : PeerState → PeerState → Prop} {peers after : List PeerState}
    (h : List.Forall₂ R peers after) (hkey : ∀ a b, R a b → b.key = a.key) {key : PeerKey}
    {peer : PeerState} (hpeer : peerOf peers key = some peer) :
    ∃ peer', peerOf after key = some peer' ∧ R peer peer' := by
  induction h with
  | nil => cases hpeer
  | cons hab hrest ih =>
    rename_i a b _ _
    rw [peerOf_cons] at hpeer ⊢
    rw [hkey a b hab]
    split at hpeer
    · cases hpeer
      rename_i heq
      rw [if_pos heq]
      exact ⟨b, rfl, hab⟩
    · rename_i hne
      rw [if_neg hne]
      exact ih hpeer

/-- Peers that keep their keys have the keys they had. -/
theorem map_key_forall₂ {R : PeerState → PeerState → Prop} {peers after : List PeerState}
    (h : List.Forall₂ R peers after) (hkey : ∀ a b, R a b → b.key = a.key) :
    after.map PeerState.key = peers.map PeerState.key := by
  induction h with
  | nil => rfl
  | cons hab _ ih => rw [List.map_cons, List.map_cons, ih, hkey _ _ hab]

end XgenLink
