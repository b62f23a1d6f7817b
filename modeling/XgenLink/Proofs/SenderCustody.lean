import Mathlib.Data.List.Nodup
import XgenLink.Lib.Run
import XgenLink.Proofs.InOrderDelivery
import XgenLink.Proofs.SendSteps

/-!
# `XgenLink.Proofs.SenderCustody`: what a sender keeps until it is acknowledged

A sender is responsible for a reliable packet until it knows that the packet has arrived, or has
given it up. The runs here are those of a transport context over sends, received packets and timer
calls, in any order and with any failures.

A queued packet leaves its queue only by a covering acknowledgement of its peer, by exhausted
retries, or by a RESET of its own scope, as long as every step is `Custodial`. The condition is on
the step and the state it meets, and excludes what the code does besides: it clears a queue for a
HELLO with another session, its lookups fall back to the first peer of the source, and a send
whose numbers go round can meet an entry of the same number.

* `Released`: the reasons for which a packet may leave.
* `Custodial`, `CustodyInv`, `StepKept`: the condition on a step, the invariant, and what a step
  has to show.
* `control_custody`, `ack_custody`, `receive_custody`, `send_custody`, `run_custody`: the steps.
* `transportStep_custody`: one step.
* `custody_kept`: whole runs.
* `custody_lost_by_hello`: a HELLO that clears a queue.
-/

set_option autoImplicit false

namespace XgenLink

/-! ### Runs -/

/-- What can happen to a transport context. -/
inductive TransportAction where
  | send (txData : TxData)
  | receive (packet : Packet)
  | run (currentTimeMs : UInt32)

/-- The context after an action. -/
def transportStep (env : TransportEnv) (ctx : TransportCtx) : TransportAction → TransportCtx
  | .send txData => (xglTransportSend env ctx txData).2
  | .receive packet => (xglTransportReceive env ctx packet).2
  | .run currentTimeMs => xglTransportRun env ctx currentTimeMs

/-- The context after a list of actions. -/
def runActions (env : TransportEnv) (actions : List TransportAction) (ctx : TransportCtx) :
    TransportCtx :=
  actions.foldl (transportStep env) ctx

/-- The queue of a key holds a packet with this content. -/
def InCustody (ctx : TransportCtx) (key : PeerKey) (c : ReliablePacket) : Prop :=
  c ∈ contents (queueOf ctx.peers key)

/-- The acknowledgement belongs to the peer: it has the key of the peer, or the
peer is unscoped and it names the session under which unscoped packets travel. -/
def AckOfPeer (packet : Packet) (peer : PeerState) : Prop :=
  packet.peerKey = peer.key ∨
    (peer.hasConnectionScope = false ∧ packet.sourceId = peer.peerId ∧
      packet.connectionId = peer.sessionId.toUInt32 ∧ packet.sessionEpoch = 0)

/-- The reasons for which a packet may leave the queue of a key. -/
inductive Released (env : TransportEnv) (ctx : TransportCtx) (key : PeerKey) (c : ReliablePacket) :
    TransportAction → Prop where
  | acked (packet : Packet) (peer : PeerState) (htype : packet.packetType = XGL_PACKET_TYPE_ACK)
      (hpeer : peerOf ctx.peers key = some peer) (hof : AckOfPeer packet peer)
      (hcovers : packetCovers packet c.packetNumber) : Released env ctx key c (.receive packet)
  | exhausted (now : UInt32) (peer : PeerState) (packet : ReliablePacket)
      (new : List TransportEvent) (hpeer : peerOf ctx.peers key = some peer)
      (hmem : packet ∈ peer.reliableQueue.waitAckList) (hcontent : packet.content = c)
      (hretry : peer.reliableQueue.maxRetryCount ≤ packet.retryCount)
      (hnew : (xglTransportRun env ctx now).io.events = ctx.io.events ++ new)
      (hreport : ctx.config.errorCallback = true →
        .errorCallback .ackTimeout "Packet retry count exhausted" ∈ new) :
      Released env ctx key c (.run now)
  | reset (packet : Packet) (htype : packet.packetType = XGL_PACKET_TYPE_CONTROL)
      (hreset : packet.dataType = XGL_TRANSPORT_CONTROL_RESET) (hkey : packet.peerKey = key) :
      Released env ctx key c (.receive packet)

/-! ### Custodial steps -/

/-- A HELLO meets a peer of its own session and a RESET a peer of its own key, or
there is nothing to lose. -/
def ControlCustodial (ctx : TransportCtx) (packet : Packet) : Prop :=
  packet.sessionId &&& XGL_SESSION_ID_MASK ≠ 0 →
    ∀ peer, lookupPeer ctx.peers packet.peerKey = some peer →
      peer.reliableQueue.waitAckList = [] ∨
        (packet.dataType = XGL_TRANSPORT_CONTROL_HELLO →
          peer.sessionId = packet.sessionId &&& XGL_SESSION_ID_MASK) ∧
        (packet.dataType = XGL_TRANSPORT_CONTROL_RESET → peer.key = packet.peerKey)

/-- The peer an ACK selects is its own, refuses it for its session, or has nothing
it covers. -/
def AckCustodial (ctx : TransportCtx) (packet : Packet) : Prop :=
  ∀ peer, transportFindAckPeer ctx.peers packet = some peer →
    AckOfPeer packet peer ∨ (packet.sessionId ≠ 0 ∧ packet.sessionId ≠ peer.sessionId) ∨
      ∀ entry ∈ peer.reliableQueue.waitAckList, ¬ packetCovers packet entry.packetNumber

/-- No packet still queued carries one of the numbers that the peer of a send
hands out next. -/
def SendCustodial (ctx : TransportCtx) (txData : TxData) : Prop :=
  ∀ peer, lookupPeer ctx.peers txData.peerKey = some peer →
    ∀ entry ∈ peer.reliableQueue.waitAckList,
      ¬ entry.packetNumber - peer.txWindow.nextPacketNumber < peer.txWindow.windowSize.toUInt32

/-- The condition on a step, in the state it meets. -/
def Custodial (ctx : TransportCtx) : TransportAction → Prop
  | .send txData => txData.reliable = true → SendCustodial ctx txData
  | .receive packet =>
    (packet.packetType = XGL_PACKET_TYPE_CONTROL → ControlCustodial ctx packet) ∧
      (packet.packetType = XGL_PACKET_TYPE_ACK → AckCustodial ctx packet)
  | .run _ => True

/-- One peer per key, and one entry per number in each queue. -/
structure CustodyInv (ctx : TransportCtx) : Prop where
  keys : KeysDistinct ctx.peers
  numbers : ∀ key, (numbers (queueOf ctx.peers key)).Nodup

/-- What a step must show: the invariant, and that each packet stays or has a
reason to go. -/
structure StepKept (ctx after : TransportCtx) (gone : PeerKey → ReliablePacket → Prop) :
    Prop where
  inv : CustodyInv after
  kept : ∀ key c, InCustody ctx key c → InCustody after key c ∨ gone key c

/-- Nothing happens to the queues. -/
theorem StepKept.of_same {ctx after : TransportCtx} {gone : PeerKey → ReliablePacket → Prop}
    (hinv : CustodyInv ctx) (hkeys : KeysDistinct after.peers)
    (hsame : ∀ key, queueOf after.peers key = queueOf ctx.peers key) : StepKept ctx after gone where
  inv := ⟨hkeys, fun key => hsame key ▸ hinv.numbers key⟩
  kept := fun key c hc => .inl (by unfold InCustody; rw [hsame key]; exact hc)

/-- One queue shrinks. -/
theorem StepKept.of_shrinks {ctx after : TransportCtx} {gone : PeerKey → ReliablePacket → Prop}
    {peer old : PeerState} (hinv : CustodyInv ctx) (hpeers : after.peers = putPeer peer ctx.peers)
    (hold : peerOf ctx.peers peer.key = some old)
    (hshrinks : Shrinks (gone peer.key) old.reliableQueue.waitAckList
      peer.reliableQueue.waitAckList) : StepKept ctx after gone := by
  have hqueue := queueOf_of_peerOf hold
  refine ⟨⟨hpeers ▸ hinv.keys.put peer, fun key => ?_⟩, fun key c hc => ?_⟩
  · rw [hpeers, queueOf_putPeer hold]
    split
    · exact hshrinks.nodup (hqueue ▸ hinv.numbers peer.key)
    · exact hinv.numbers key
  · unfold InCustody at hc ⊢
    rw [hpeers, queueOf_putPeer hold]
    split
    · rename_i hkey
      subst hkey
      rw [hqueue] at hc
      exact hshrinks.kept c hc
    · exact .inl hc

/-! ### Data packets -/

/-- Selecting a peer changes no queue. -/
theorem RxSelected.queues {ctx selected : TransportCtx} {packet : Packet} {peer : PeerState}
    (h : RxSelected ctx packet selected peer) (hkeys : KeysDistinct ctx.peers) :
    KeysDistinct selected.peers ∧ ∀ key, queueOf selected.peers key = queueOf ctx.peers key := by
  have hfresh : lookupPeer ctx.peers packet.peerKey = none →
      peerOf ctx.peers (freshPeer ctx packet.peerKey).key = none := by
    intro hlook
    rw [freshPeer_key]
    exact peerOf_none_of_lookupPeer hlook
  cases h with
  | found old hlook hsession now io hevents =>
    exact ⟨hkeys.put _, @queueOf_putPeer_same _ _ old (peerOf_of_lookupPeer hlook) rfl⟩
  | created hlook hsession now io hevents =>
    exact ⟨hkeys.cons (hfresh hlook), queueOf_cons_fresh (hfresh hlook) rfl⟩
  | createdBare hlook hsession io hevents =>
    exact ⟨hkeys.cons (hfresh hlook), queueOf_cons_fresh (hfresh hlook) rfl⟩

/-- A data packet changes no queue. -/
theorem transportReceiveData_queues (env : TransportEnv) (ctx : TransportCtx) (packet : Packet)
    (data : Bytes) (hkeys : KeysDistinct ctx.peers) :
    KeysDistinct (transportReceiveData env ctx packet data).2.peers ∧
      ∀ key, queueOf (transportReceiveData env ctx packet data).2.peers key
        = queueOf ctx.peers key := by
  by_cases hrel : packet.reliable = XGL_RELIABILITY_ACK_ELICITING
  · rcases transportReceiveData_cases env ctx packet data hrel with
      ⟨err, session, io, _, _, _, heq⟩ | ⟨selected, peer, hsel, _, heq⟩
    · rw [heq]
      exact ⟨hkeys, fun _ => rfl⟩
    · rw [heq, transportReceiveReliable_eq]
      dsimp only
      obtain ⟨hdistinct, hsame⟩ := hsel.queues hkeys
      obtain ⟨hentry, _⟩ := hsel.lookup
      rw [rxReliable_peer]
      refine ⟨hdistinct.put _, fun key => ?_⟩
      generalize (rxReliable env selected.config selected.fragmentMgr selected.io peer packet
        data).2.2.2 = after
      exact (@queueOf_putPeer_same _ (peer.withRx after) _ hentry rfl key).trans (hsame key)
  · unfold transportReceiveData
    rcases transportPrepareRxPeer_cases env ctx packet with
      ⟨err, session, io, peer, hne, _, heq⟩ | ⟨_, heq⟩ |
        ⟨prepared, peer, selected, touched, hsel, heq, htouch⟩
    · rw [heq]
      cases err <;> first | exact ⟨hkeys, fun _ => rfl⟩ | exact absurd rfl hne
    · rw [heq]
      dsimp only
      rw [if_neg (by simp [hrel])]
      exact ⟨hkeys, fun _ => rfl⟩
    · rw [heq]
      dsimp only
      rw [htouch, if_neg (by simp [hrel])]
      exact hsel.queues hkeys

/-! ### One step -/

section Step

variable {env : TransportEnv} {ctx : TransportCtx}

/-- A control packet clears a queue only for a RESET of its key. -/
theorem control_custody {packet : Packet} (hinv : CustodyInv ctx)
    (htype : packet.packetType = XGL_PACKET_TYPE_CONTROL) (hcond : ControlCustodial ctx packet) :
    StepKept ctx (transportProcessControlPacket env ctx packet).2
      fun key c => Released env ctx key c (.receive packet) := by
  have hcases := transportProcessControlPacket_cases env ctx packet
  generalize transportProcessControlPacket env ctx packet = out at hcases ⊢
  obtain ⟨err, after⟩ := out
  dsimp only at hcases ⊢
  cases hcases with
  | refused session io hevents => exact .of_same hinv hinv.keys fun _ => rfl
  | established hsid peer hlook hsession now io hevents =>
    exact .of_same hinv (hinv.keys.put _)
      (@queueOf_putPeer_same _ _ peer (peerOf_of_lookupPeer hlook) rfl)
  | created hsid hlook window hwindow manager now io peer hevents hpeer =>
    have hkey : peer.key = packet.peerKey := by
      rcases hpeer with rfl | ⟨_, rfl⟩ <;> exact freshPeer_key ctx packet
    have hnone : peerOf ctx.peers peer.key = none := by
      rw [hkey]
      exact peerOf_none_of_lookupPeer hlook
    have hempty : peer.reliableQueue.waitAckList = [] := by
      rcases hpeer with rfl | ⟨_, rfl⟩ <;> rfl
    exact .of_same hinv (hinv.keys.cons hnone) (queueOf_cons_fresh hnone hempty)
  | reset hsid peer hlook hreset now io hevents =>
    refine @StepKept.of_shrinks _ _ _ _ peer hinv rfl
      (peerOf_of_lookupPeer hlook)
      ⟨List.nil_sublist _, fun c hc => ?_⟩
    rcases hcond hsid peer hlook with hempty | ⟨hhello, hown⟩
    · rw [hempty] at hc
      cases hc
    · rcases hreset with hreset | ⟨hdata, hsession⟩
      · exact .inr (.reset packet htype hreset (hown hreset).symm)
      · exact absurd (hhello hdata) hsession

/-- An ACK takes out what it covers, from a peer it belongs to. -/
theorem ack_custody {packet : Packet} (hinv : CustodyInv ctx)
    (hcond : packet.packetType = XGL_PACKET_TYPE_ACK → AckCustodial ctx packet) :
    StepKept ctx (transportProcessAckPacket env ctx packet).2
      fun key c => Released env ctx key c (.receive packet) := by
  have hsame : StepKept ctx ctx fun key c => Released env ctx key c (.receive packet) :=
    .of_same hinv hinv.keys fun _ => rfl
  unfold transportProcessAckPacket
  split
  · exact hsame
  rename_i htype
  replace htype : packet.packetType = XGL_PACKET_TYPE_ACK := by simpa using htype
  split
  · exact hsame
  rename_i peer hfind
  split
  · exact hsame
  rename_i hsession
  split
  · exact hsame
  dsimp only
  have hspec := transportApplyAck_spec env ctx peer packet
  generalize transportApplyAck env ctx peer packet = applied at hspec ⊢
  obtain ⟨window, io, hctx⟩ := hspec.ctxFrame
  obtain ⟨txWindow, queue, deadline, hpeer⟩ := hspec.peerFrame
  have hkey : applied.peer.key = peer.key := by rw [hpeer]; rfl
  have hentry := peerOf_of_transportFindAckPeer hfind
  refine .of_shrinks hinv (by rw [hctx]; rfl) (hkey ▸ hentry) ?_
  refine ⟨hspec.queue.sub, fun c hc => ?_⟩
  rw [hkey]
  rcases hcond htype peer hfind with hof | ⟨hzero, hne⟩ | hcovers
  · exact (hspec.queue.kept c hc).imp_right fun hcov => .acked packet peer htype hentry hof hcov
  · exact absurd (by simp [hzero, hne]) hsession
  · refine (hspec.queue.kept c hc).imp_right fun hcov => ?_
    obtain ⟨entry, hmem, rfl⟩ := List.mem_map.mp hc
    exact absurd hcov (hcovers entry hmem)

/-- Received packets. -/
theorem receive_custody {packet : Packet} (hinv : CustodyInv ctx)
    (hcond : Custodial ctx (.receive packet)) :
    StepKept ctx (xglTransportReceive env ctx packet).2
      fun key c => Released env ctx key c (.receive packet) := by
  unfold xglTransportReceive
  split
  · rename_i htype
    replace htype : packet.packetType = XGL_PACKET_TYPE_CONTROL := by simpa using htype
    exact control_custody hinv htype (hcond.1 htype)
  · split
    · exact ack_custody hinv hcond.2
    · split
      · exact .of_same hinv hinv.keys fun _ => rfl
      · obtain ⟨hkeys, hsame⟩ := transportReceiveData_queues env ctx packet _ hinv.keys
        exact .of_same hinv hkeys hsame

/-- The added numbers are new. -/
theorem Grown.nodup {targetId : UInt16} {k : Nat} {peer after : PeerState}
    (h : Grown targetId k peer after)
    (hnodup : (numbers peer.reliableQueue.waitAckList).Nodup)
    (hfree : ∀ entry ∈ peer.reliableQueue.waitAckList,
      ¬ entry.packetNumber - peer.txWindow.nextPacketNumber
        < peer.txWindow.windowSize.toUInt32) :
    (numbers after.reliableQueue.waitAckList).Nodup := by
  obtain ⟨added, hcontents, hnumbers, _⟩ := h.queue
  have hroom := h.room
  have hsize := peer.txWindow.windowSize.toNat_lt
  have hsmall : ∀ i < k, (UInt32.ofNat i).toNat = i := by
    intro i hi
    rw [UInt32.toNat_ofNat']
    exact Nat.mod_eq_of_lt (by omega)
  unfold numbers
  rw [hcontents, List.map_append, hnumbers, List.nodup_append]
  refine ⟨hnodup, ?_, ?_⟩
  · refine List.Nodup.map_on (fun i hi j hj hij => ?_) List.nodup_range
    rw [List.mem_range] at hi hj
    replace hij := congrArg (fun n => (n - peer.txWindow.nextPacketNumber).toNat) hij
    rw [UInt32.add_comm, UInt32.add_sub_cancel, UInt32.add_comm, UInt32.add_sub_cancel,
      hsmall i hi, hsmall j hj] at hij
    exact hij
  · intro n hn m hm hnm
    subst hnm
    obtain ⟨c, hc, rfl⟩ := List.mem_map.mp hn
    obtain ⟨entry, hentry, rfl⟩ := List.mem_map.mp hc
    obtain ⟨i, hi, heq⟩ := List.mem_map.mp hm
    rw [List.mem_range] at hi
    refine hfree entry hentry ?_
    rw [ReliablePacket.content_packetNumber] at heq
    rw [← heq, UInt32.add_comm, UInt32.add_sub_cancel, UInt32.lt_iff_toNat_lt,
      UInt8.toNat_toUInt32, hsmall i hi]
    omega

/-- A send keeps what is queued. -/
theorem send_custody {txData : TxData} (hinv : CustodyInv ctx)
    (hcond : Custodial ctx (.send txData)) :
    StepKept ctx (xglTransportSend env ctx txData).2
      fun key c => Released env ctx key c (.send txData) := by
  have hsame : ∀ after : TransportCtx, after.peers = ctx.peers → StepKept ctx after
      fun key c => Released env ctx key c (.send txData) := fun after hpeers =>
    .of_same hinv (hpeers ▸ hinv.keys) fun key => by rw [hpeers]
  unfold xglTransportSend
  split
  · exact hsame ctx rfl
  rename_i data _
  split
  · exact hsame ctx rfl
  split
  · exact hsame _ rfl
  split
  · rename_i hrel
    have hfree := hcond hrel
    -- the send behind the selection, on an entry with room
    have hplanned : ∀ (base : TransportCtx) (peer : PeerState),
        (∀ key, queueOf base.peers key = queueOf ctx.peers key) → KeysDistinct base.peers →
        peerOf base.peers peer.key = some peer →
        xglWindowCanSendPacketNumber peer.txWindow = true →
        (∀ entry ∈ peer.reliableQueue.waitAckList,
          ¬ entry.packetNumber - peer.txWindow.nextPacketNumber
            < peer.txWindow.windowSize.toUInt32) →
        StepKept ctx (transportSendPlanned env base (some peer) txData data).2
          fun key c => Released env ctx key c (.send txData) := by
      intro base peer hqueues hkeys hentry hcan hnew
      obtain ⟨after, k, hpeers, hgrown, _⟩ := transportSendPlanned_spec env base peer txData data
        hcan hentry
      have hafter : peerOf base.peers after.key = some peer := hgrown.key ▸ hentry
      have hown : queueOf ctx.peers after.key = peer.reliableQueue.waitAckList := by
        rw [← hqueues, queueOf_of_peerOf hafter]
      refine ⟨⟨hpeers ▸ hkeys.put after, fun key => ?_⟩, fun key c hc => .inl ?_⟩
      · rw [hpeers, queueOf_putPeer hafter, hqueues]
        split
        · exact hgrown.nodup (hown ▸ hinv.numbers after.key) hnew
        · exact hinv.numbers key
      · unfold InCustody at hc ⊢
        rw [hpeers, queueOf_putPeer hafter, hqueues]
        split
        · rename_i hkey
          obtain ⟨added, hcontents, _⟩ := hgrown.queue
          rw [hcontents, ← hown, hkey]
          exact List.mem_append_left _ hc
        · exact hc
    have hnew : ∀ peer, (lookupPeer ctx.peers txData.peerKey = some peer ∨
        peer.reliableQueue.waitAckList = []) → ∀ entry ∈ peer.reliableQueue.waitAckList,
          ¬ entry.packetNumber - peer.txWindow.nextPacketNumber
            < peer.txWindow.windowSize.toUInt32 := by
      rintro peer (hlook | hempty) entry hentry
      · exact hfree peer hlook entry hentry
      · rw [hempty] at hentry
        cases hentry
    have hcases := transportPrepareReliableSend_cases env ctx txData
    generalize transportPrepareReliableSend env ctx txData = prepared at hcases ⊢
    -- the outcomes of the peer selection
    cases hcases with
    | refused hlook session io hevents => exact hsame _ rfl
    | full base peer hgot hfull =>
      obtain ⟨hqueues, hkeys, _⟩ := hgot.queues hinv.keys
      exact .of_same hinv hkeys hqueues
    | ready base peer hgot hcan hhello =>
      obtain ⟨hqueues, hkeys, _, hentry, hfrom⟩ := hgot.queues hinv.keys
      exact hplanned base peer hqueues hkeys hentry hcan (hnew peer hfrom)
    | greeted base peer hgot hcan hhello io hsent =>
      obtain ⟨hqueues, hkeys, _, hentry, hfrom⟩ := hgot.queues hinv.keys
      refine hplanned _ _ (fun key => ?_) (hkeys.put _) ?_ hcan (hnew peer hfrom)
      · exact (@queueOf_putPeer_same _ { peer with helloSent := true } _ hentry rfl
          key).trans (hqueues key)
      · rw [peerOf_putPeer, if_pos rfl]
        exact congrArg (Option.map fun _ => _) hentry
    | mute base peer hgot hhello err hne io hsent =>
      obtain ⟨hqueues, hkeys, _⟩ := hgot.queues hinv.keys
      cases err <;> first | exact absurd rfl hne | exact .of_same hinv hkeys hqueues
  · exact hsame _ (transportSendPlanned_unreliable env ctx txData data)

/-- A lookup after some peers were dropped. -/
theorem peerOf_filter {peers : List PeerState} (h : KeysDistinct peers) (keep : PeerState → Bool)
    (key : PeerKey) : peerOf (peers.filter keep) key = (peerOf peers key).filter keep := by
  induction peers with
  | nil => rfl
  | cons first rest ih =>
    unfold KeysDistinct at h
    rw [List.map_cons, List.nodup_cons] at h
    rw [List.filter_cons, peerOf_cons first rest]
    by_cases hkey : first.key = key
    · subst hkey
      rw [if_pos rfl]
      cases hkeep : keep first with
      | true => rw [if_pos rfl, peerOf_cons, if_pos rfl, Option.filter_some, if_pos hkeep]
      | false =>
        have hnone : peerOf rest first.key = none := by
          unfold peerOf
          rw [List.find?_eq_none]
          intro other hother hsame
          exact h.1 ((by simpa using hsame : other.key = first.key) ▸ List.mem_map_of_mem hother)
        rw [if_neg (by simp), ih h.2, hnone, Option.filter_some, if_neg (by simp [hkeep])]
        rfl
    · rw [if_neg hkey]
      split
      · rw [peerOf_cons, if_neg hkey]
        exact ih h.2
      · exact ih h.2

/-- The timers take out exhausted packets, and the reclaim only empty peers. -/
theorem run_custody (now : UInt32) (hinv : CustodyInv ctx) :
    StepKept ctx (xglTransportRun env ctx now) fun key c => Released env ctx key c (.run now) := by
  obtain ⟨timed, htimed, hforall⟩ := transportProcessRetransmissions_spec env ctx.config now
    ctx.peers ctx.io fun peer hpeer =>
      queueOf_of_peerOf (hinv.keys.peerOf_mem hpeer) ▸ hinv.numbers peer.key
  have hkey : ∀ a b, TimerSpec ctx.config now timed a b → b.key = a.key := fun a b hab => hab.key
  unfold xglTransportRun
  dsimp only
  generalize htrans : transportProcessRetransmissions env ctx.config now ctx.peers ctx.io = sent
    at htimed hforall
  obtain ⟨peers, io⟩ := sent
  dsimp only at htimed hforall ⊢
  -- the reassembly timeouts leave the peers and only report
  have hfrag : ∃ reported mid, transportProcessFragmentTimeouts
      { ctx with peers := peers, io := io } now = mid ∧ mid.peers = peers ∧
        mid.config = ctx.config ∧ mid.io.events = ctx.io.events ++ (timed ++ reported) := by
    unfold transportProcessFragmentTimeouts
    split
    · exact ⟨[], _, rfl, rfl, rfl, by simpa using htimed⟩
    · dsimp only
      split
      · obtain ⟨reported, hreported, _⟩ := transportReport_events ctx.config io .timeout
          "Fragment reassembly timeout"
        exact ⟨reported, _, rfl, rfl, rfl, by rw [hreported, htimed, List.append_assoc]⟩
      · exact ⟨[], _, rfl, rfl, rfl, by simpa using htimed⟩
  obtain ⟨reported, mid, hmid, hpeers, hconfig, hevents⟩ := hfrag
  rw [hmid]
  have hkeys : KeysDistinct peers := by
    unfold KeysDistinct
    rw [map_key_forall₂ hforall hkey]
    exact hinv.keys
  have hrunEvents : (xglTransportRun env ctx now).io.events
      = ctx.io.events ++ (timed ++ reported) := by
    unfold xglTransportRun
    dsimp only
    rw [htrans, hmid, ← hevents]
    unfold transportReclaimIdlePeers
    split <;> rfl
  -- the timers on the queue of each key
  have htimers : ∀ key, (numbers (queueOf peers key)).Nodup ∧
      ∀ c ∈ contents (queueOf ctx.peers key), c ∈ contents (queueOf peers key) ∨
        Released env ctx key c (.run now) := by
    intro key
    -- the peer of the key before the timers, if there is one
    cases hpeer : peerOf ctx.peers key with
    | none =>
      have hnone : peerOf peers key = none := by
        cases hafter : peerOf peers key with
        | none => rfl
        | some after =>
          have hmem : key ∈ peers.map PeerState.key :=
            peerOf_key hafter ▸ List.mem_map_of_mem (peerOf_mem hafter)
          rw [map_key_forall₂ hforall hkey] at hmem
          obtain ⟨old, hold, rfl⟩ := List.mem_map.mp hmem
          rw [hinv.keys.peerOf_mem hold] at hpeer
          cases hpeer
      unfold queueOf
      rw [hpeer, hnone]
      exact ⟨List.nodup_nil, fun c hc => by cases hc⟩
    | some peer =>
      obtain ⟨after, hafter, hspec⟩ := peerOf_forall₂ hforall hkey hpeer
      rw [queueOf_of_peerOf hpeer, queueOf_of_peerOf hafter]
      refine ⟨hspec.queue.nodup (queueOf_of_peerOf hpeer ▸ hinv.numbers key), fun c hc => ?_⟩
      refine (hspec.queue.kept c hc).imp_right ?_
      rintro ⟨packet, hmem, hcontent, _, hretry, hreport⟩
      exact .exhausted now peer packet _ hpeer hmem hcontent hretry hrunEvents
        fun hcb => List.mem_append_left _ (hreport hcb)
  unfold transportReclaimIdlePeers
  split
  · exact ⟨⟨hpeers ▸ hkeys, fun key => hpeers ▸ (htimers key).1⟩,
      fun key c hc => by unfold InCustody; rw [hpeers]; exact (htimers key).2 c hc⟩
  · rw [hpeers]
    refine ⟨⟨?_, fun key => ?_⟩, fun key c hc => ?_⟩
    · exact hkeys.sublist (List.filter_sublist.map _)
    · dsimp only
      unfold queueOf
      rw [peerOf_filter hkeys]
      have hnodup := (htimers key).1
      unfold queueOf at hnodup
      cases hpeer : peerOf peers key with
      | none => exact List.nodup_nil
      | some peer =>
        rw [hpeer] at hnodup
        rw [Option.filter_some]
        split
        · exact hnodup
        · exact List.nodup_nil
    · refine ((htimers key).2 c hc).imp_left fun hmem => ?_
      unfold InCustody queueOf
      dsimp only
      rw [peerOf_filter hkeys]
      unfold queueOf at hmem
      -- the peer behind the timers, if there is one
      cases hpeer : peerOf peers key with
      | none =>
        rw [hpeer] at hmem
        cases hmem
      | some peer =>
        -- a peer with a queued packet is not reclaimed
        rw [hpeer] at hmem
        have hnonempty : xglReliableIsEmpty peer.reliableQueue = false := by
          unfold xglReliableIsEmpty
          cases hlist : peer.reliableQueue.waitAckList with
          | nil =>
            rw [Option.elim_some, hlist] at hmem
            cases hmem
          | cons first rest => rfl
        rw [Option.filter_some, if_pos (by simp [PeerState.reclaimable, hnonempty])]
        exact hmem

/-- One custodial step: each queued packet stays or is released. -/
theorem transportStep_custody {action : TransportAction} (hinv : CustodyInv ctx)
    (hcond : Custodial ctx action) :
    StepKept ctx (transportStep env ctx action) fun key c => Released env ctx key c action := by
  cases action with
  | send txData => exact send_custody hinv hcond
  | receive packet => exact receive_custody hinv hcond
  | run now => exact run_custody now hinv

end Step

/-! ### Whole runs -/

/-- A run in two parts. -/
theorem runActions_append (env : TransportEnv) (a b : List TransportAction) (ctx : TransportCtx) :
    runActions env (a ++ b) ctx = runActions env b (runActions env a ctx) :=
  List.foldl_append

/-- From a state with the invariant on, a packet stays in its queue to the end of
the run or some step of the run releases it. The induction is on the run. -/
theorem runActions_custody {env : TransportEnv} (actions : List TransportAction)
    (ctx : TransportCtx) (hinv : CustodyInv ctx)
    (h : Along (transportStep env) Custodial actions ctx) (key : PeerKey)
    (c : ReliablePacket) (hc : InCustody ctx key c) :
    InCustody (runActions env actions ctx) key c ∨
      ∃ mid action tail, actions = mid ++ action :: tail ∧
        Released env (runActions env mid ctx) key c action := by
  induction actions generalizing ctx with
  | nil => exact .inl hc
  | cons action rest ih =>
    have hstep := @transportStep_custody env _ _ hinv h.1
    rcases hstep.kept key c hc with hkept | hreleased
    · rcases ih _ hstep.inv h.2 hkept with hend | ⟨mid, act, tail, heq, hrel⟩
      · exact .inl hend
      · exact .inr ⟨action :: mid, act, tail, by rw [heq]; rfl, hrel⟩
    · exact .inr ⟨[], action, rest, rfl, hreleased⟩

/-- Sender custody. In a run from a fresh context whose steps are all custodial, a
packet that is queued at some point stays queued until a step releases it: a
covering acknowledgement of its peer, its exhausted retries, or a RESET of its
key. -/
theorem custody_kept (env : TransportEnv) (config : TransportConfig) (ctx : TransportCtx)
    (hinit : xglTransportInit config = .ok ctx) (before after : List TransportAction)
    (hrun : Along (transportStep env) Custodial (before ++ after) ctx) (key : PeerKey)
    (c : ReliablePacket)
    (hc : InCustody (runActions env before ctx) key c) :
    InCustody (runActions env (before ++ after) ctx) key c ∨
      ∃ mid action tail, after = mid ++ action :: tail ∧
        Released env (runActions env (before ++ mid) ctx) key c action := by
  have hfresh := (xglTransportInit_fresh hinit).1
  have hinv : CustodyInv ctx := by
    refine ⟨?_, fun key => ?_⟩
    · rw [hfresh]
      exact List.nodup_nil
    · rw [hfresh]
      exact List.nodup_nil
  obtain ⟨hhead, htail⟩ := along_append.mp hrun
  have hmid : CustodyInv (runActions env before ctx) :=
    foldl_along CustodyInv (fun _ _ hstate hstep => (transportStep_custody hstate hstep).inv) before
      ctx hinv hhead
  rw [runActions_append]
  simp only [runActions_append]
  exact runActions_custody after _ hmid htail key c hc

/-- The configuration of node 1. -/
def senderConfig : TransportConfig where
  localId := 1

/-- The context node 1 starts with. -/
def senderTransport : TransportCtx where
  config := senderConfig
  nextSessionId := 1
  window := freshWindow 8

/-- A reliable request of one byte to node 2 on connection 5. -/
def sampleTx : TxData where
  targetId := 2
  connectionId := 5
  reliable := true
  data := some [7]

/-- The queue entry the request leaves. -/
def sampleEntry : ReliablePacket where
  data := [7]
  sourceId := 1
  targetId := 2
  packetNumber := 0
  sessionId := 1
  connectionId := 5
  dataType := 0
  priority := 0
  timeoutMs := 0
  initialTimeoutMs := 1000

/-- The ACK of node 2 for the request. -/
def sampleAck : Packet :=
  ackPacket sampleTransportConfig
    { targetId := 1, sessionId := 1, connectionId := 5, sessionEpoch := 0 } 0

/-- The HELLO of node 2 for its own packets on connection 5, as the network layer
hands it up: the session is the one of the connection. -/
def sampleHello : Packet :=
  helloPacket sampleTransportConfig
    { targetId := 1, sessionId := 5, connectionId := 5, sessionEpoch := 0 }

/-- The request is queued until its acknowledgement arrives. -/
theorem custody_kept_until_ack :
    InCustody (runActions calmEnv [.send sampleTx] senderTransport) (scopedKey 2 5 0) sampleEntry ∧
      (InCustody (runActions calmEnv ([.send sampleTx] ++ [.run 500, .receive sampleAck])
          senderTransport) (scopedKey 2 5 0) sampleEntry ∨
        ∃ mid action tail, [.run 500, .receive sampleAck] = mid ++ action :: tail ∧
          Released calmEnv (runActions calmEnv ([.send sampleTx] ++ mid) senderTransport)
            (scopedKey 2 5 0) sampleEntry action) := by
  have hqueued : InCustody (runActions calmEnv [.send sampleTx] senderTransport)
      (scopedKey 2 5 0) sampleEntry := by
    unfold InCustody
    decide +kernel
  refine ⟨hqueued, custody_kept calmEnv senderConfig senderTransport rfl [.send sampleTx]
    [.run 500, .receive sampleAck] ⟨?_, trivial, ⟨?_, ?_⟩, trivial⟩ (scopedKey 2 5 0) sampleEntry
    hqueued⟩
  · intro _ peer hlook
    cases hlook
  · intro htype
    exact absurd htype (by decide)
  · intro _ peer hfind
    have hkey : (transportFindAckPeer (runActions calmEnv [.send sampleTx, .run 500]
        senderTransport).peers sampleAck).map PeerState.key = some sampleAck.peerKey := by
      decide +kernel
    change transportFindAckPeer (runActions calmEnv [.send sampleTx, .run 500]
      senderTransport).peers sampleAck = some peer at hfind
    rw [hfind] at hkey
    exact .inl (.inl (Option.some.inj hkey).symm)

/-- A HELLO of the other side on the same connection clears the queue, though it
neither acknowledges the packet nor resets its scope. -/
theorem custody_lost_by_hello :
    xglTransportInit senderConfig = .ok senderTransport ∧
      (xglTransportSend calmEnv senderTransport sampleTx).1 = .ok ∧
      InCustody (runActions calmEnv [.send sampleTx] senderTransport) (scopedKey 2 5 0)
        sampleEntry ∧
      ¬ InCustody (runActions calmEnv [.send sampleTx, .receive sampleHello] senderTransport)
        (scopedKey 2 5 0) sampleEntry ∧
      ¬ Released calmEnv (runActions calmEnv [.send sampleTx] senderTransport) (scopedKey 2 5 0)
        sampleEntry (.receive sampleHello) := by
  refine ⟨rfl, by decide +kernel, ?_, ?_, ?_⟩
  · unfold InCustody
    decide +kernel
  · unfold InCustody
    decide +kernel
  · intro h
    cases h with
    | acked _ _ htype _ _ _ => exact absurd htype (by decide)
    | reset _ _ hreset _ => exact absurd hreset (by decide)

end XgenLink
