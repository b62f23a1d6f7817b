import XgenLink.Proofs.ReliableSend
import XgenLink.Proofs.SenderCustody

/-!
# `XgenLink.Proofs.TransactionalSend`: what a failed send leaves behind

A send that fails has to leave queue, window and deadline of the peers as they were, so that the
caller may try again. A single packet does: its entry is taken out when it cannot be sent, and the
number is taken only behind a transmission. The fragments of a message are sent one after the
other, and those sent before a failure stay queued with their numbers used up. The caller is told
that the send has failed, and the receiver waits for the rest.

So a send is transactional exactly when it does not stop behind its first fragment.

The second half asks which messages an idle peer can take. The window is checked when a send
begins and again for each fragment, but never against the number of fragments, so a message with
more fragments than the window has places gets a plan and cannot be sent.

* `Undisturbed`, `Transactional`: the sending side of all peers is as it was.
* `PartlySent`: the first fragment passes and a later one does not.
* `transactional_iff`: the failures that leave something behind.
* `partly_sent_stays`: one of them.
* `planned_message_sent_iff`: the messages that an idle peer can take.
-/

set_option autoImplicit false

namespace XgenLink

/-! ### The sending side of the peers -/

/-- Queue, window and deadline are the same. -/
structure SameSender (peer after : PeerState) : Prop where
  queue : after.reliableQueue = peer.reliableQueue
  window : after.txWindow = peer.txWindow
  deadline : after.earliestDeadlineMs = peer.earliestDeadlineMs

/-- Every peer is still there with the sending side it had. -/
def Undisturbed (peers after : List PeerState) : Prop :=
  ∀ key peer, peerOf peers key = some peer →
    ∃ left, peerOf after key = some left ∧ SameSender peer left

section Peers

variable {peers after : List PeerState} {peer fresh new : PeerState}

/-- Nothing changes. -/
theorem SameSender.refl (peer : PeerState) : SameSender peer peer := ⟨rfl, rfl, rfl⟩

/-- Nothing changes at any peer. -/
theorem Undisturbed.refl (peers : List PeerState) : Undisturbed peers peers :=
  fun _ peer hpeer => ⟨peer, hpeer, .refl peer⟩

/-- One call behind another. -/
theorem Undisturbed.trans {last : List PeerState} (h : Undisturbed peers after)
    (h' : Undisturbed after last) : Undisturbed peers last := by
  intro key peer hpeer
  obtain ⟨mid, hmid, hsame⟩ := h key peer hpeer
  obtain ⟨left, hleft, hsame'⟩ := h' key mid hmid
  exact ⟨left, hleft, hsame'.queue.trans hsame.queue, hsame'.window.trans hsame.window,
    hsame'.deadline.trans hsame.deadline⟩

/-- Writing back a peer with the same sending side. -/
theorem Undisturbed.put (hold : peerOf peers new.key = some peer) (hsame : SameSender peer new) :
    Undisturbed peers (putPeer new peers) := by
  intro key other hother
  rw [peerOf_putPeer]
  by_cases hkey : new.key = key
  · subst hkey
    rw [hold] at hother
    cases hother
    exact ⟨new, by simp [hold], hsame⟩
  · rw [if_neg hkey]
    exact ⟨other, hother, .refl other⟩

/-- Adding a peer with a new key, and writing to it. -/
theorem Undisturbed.cons (hnone : peerOf peers fresh.key = none) :
    Undisturbed peers (fresh :: peers) := by
  intro key other hother
  rw [peerOf_cons]
  by_cases hkey : fresh.key = key
  · rw [← hkey, hnone] at hother
    cases hother
  · rw [if_neg hkey]
    exact ⟨other, hother, .refl other⟩

/-- A peer that was added and written to does not disturb the others. -/
theorem Undisturbed.put_cons (hnone : peerOf peers fresh.key = none) (hkey : new.key = fresh.key) :
    Undisturbed peers (putPeer new (fresh :: peers)) := by
  intro key other hother
  rw [peerOf_putPeer]
  by_cases hsame : new.key = key
  · rw [← hsame, hkey, hnone] at hother
    cases hother
  · rw [if_neg hsame]
    exact Undisturbed.cons hnone key other hother

end Peers

/-! ### The transmission step -/

/-- A plan with fragments: no piece is empty. -/
theorem transportBuildSendPlan_pieces {config : TransportConfig} {txData : TxData} {len : Nat}
    {plan : SendPlan} (hplan : transportBuildSendPlan config txData len = .ok plan)
    (hfrag : plan.needsFragmentation = true) :
    len ≠ 0 ∧ 0 < plan.fragmentPayloadBudget ∧
      ∀ i < plan.fragmentCount, i * plan.fragmentPayloadBudget < len := by
  simp only [transportBuildSendPlan] at hplan
  split at hplan
  · cases hplan
  split at hplan
  · cases hplan
  rename_i budget _
  split at hplan
  · cases hplan
    cases hfrag
  rename_i hlarge
  split at hplan
  · cases hplan
  split at hplan
  · cases hplan
  rename_i hbudget
  cases hplan
  have hpos : 0 < budget - XGL_FRAGMENT_EXT_SIZE := by omega
  refine ⟨by omega, hpos, fun i hi => ?_⟩
  dsimp only at hi ⊢
  have hmul := (Nat.le_div_iff_mul_le hpos).mp (Nat.succ_le_of_lt hi)
  rw [Nat.succ_mul] at hmul
  omega

/-- The loop of a fragmented send. -/
def sendJob (ctx : TransportCtx) (peer : PeerState) (txData : TxData) (data : Bytes)
    (plan : SendPlan) (manager : FragmentManager) : FragmentJob where
  ctx := { ctx with
    fragmentMgr := some { manager with nextMessageId := manager.nextMessageId + 1 } }
  peer := peer
  txData := txData
  data := data
  messageId := manager.nextMessageId
  payloadMax := plan.fragmentPayloadBudget

/-- The message needs fragments, the first one passes and a later one does not. -/
def PartlyPasses (env : TransportEnv) (ctx : TransportCtx) (peer : PeerState) (txData : TxData)
    (data : Bytes) : Prop :=
  ∃ plan manager, transportBuildSendPlan ctx.config txData data.length = .ok plan ∧
    plan.needsFragmentation = true ∧ ctx.fragmentMgr = some manager ∧
    (sendJob ctx peer txData data plan manager).Passes env 0 ∧
    ∃ i < plan.fragmentCount, ¬ (sendJob ctx peer txData data plan manager).Passes env i

/-- A fragmented send gets as far as its fragments pass. -/
theorem transportSendFragmented_outcome (env : TransportEnv) (ctx : TransportCtx)
    (peer : PeerState) {txData : TxData} {data : Bytes} {plan : SendPlan}
    {manager : FragmentManager}
    (hplan : transportBuildSendPlan ctx.config txData data.length = .ok plan)
    (hfrag : plan.needsFragmentation = true) (hmanager : ctx.fragmentMgr = some manager) :
    FragmentJob.Outcome env (sendJob ctx peer txData data plan manager) 0 plan.fragmentCount
      (transportTransmit env ctx (some peer) txData data plan) := by
  obtain ⟨_, hpos, hpieces⟩ := transportBuildSendPlan_pieces hplan hfrag
  simp only [transportTransmit, hfrag, if_true, transportSendFragmented, hmanager]
  rw [List.range_eq_range']
  refine @FragmentJob.Progress.loop env (sendJob ctx peer txData data plan manager) 0 _ peer _
    (.zero _) hpos ?_
  intro i hi
  exact hpieces i (by omega)

/-- The part behind the peer selection writes back one peer. When it fails, this is the
peer as it was, or the first fragments have been sent. -/
theorem transportSendPlanned_failed (env : TransportEnv) (ctx : TransportCtx) (peer : PeerState)
    (txData : TxData) (data : Bytes) (hentry : peerOf ctx.peers peer.key = some peer)
    (hne : (transportSendPlanned env ctx (some peer) txData data).1 ≠ .ok) :
    ∃ after, (transportSendPlanned env ctx (some peer) txData data).2.peers
        = putPeer after ctx.peers ∧ after.key = peer.key ∧
      (after = peer ∨ PartlyPasses env ctx peer txData data) := by
  simp only [transportSendPlanned] at hne ⊢
  split at hne
  · refine ⟨peer, ?_, rfl, .inl rfl⟩
    rw [putPeer_self hentry]
    split <;> rfl
  rename_i plan hplan
  -- the message needs fragments, or it is one packet
  by_cases hfrag : plan.needsFragmentation = true
  · cases hmanager : ctx.fragmentMgr with
    | none =>
      refine ⟨peer, ?_, rfl, .inl rfl⟩
      simp only [transportTransmit, hfrag, if_true, transportSendFragmented, hmanager]
      rfl
    | some manager =>
      have hout := transportSendFragmented_outcome env ctx peer hplan hfrag hmanager
      generalize transportTransmit env ctx (some peer) txData data plan = sent at hout hne ⊢
      cases hout with
      | sent after last h hpasses => exact absurd rfl hne
      | stopped err hne' j hfrom hto hbefore hfails mid after last h hpeers hevents =>
        refine ⟨last, ?_, h.key, ?_⟩
        · have hput : putPeer last after.peers = putPeer last ctx.peers := by
            rw [hpeers]
            rfl
          cases err with
          | ok => exact absurd rfl hne'
          | _ => exact hput
        · -- nothing was sent, or the first fragment was
          cases j with
          | zero => exact .inl (h.start rfl)
          | succ j =>
            exact .inr ⟨plan, manager, hplan, hfrag, hmanager, hbefore 0 (le_refl _) (by omega),
              j + 1, by omega, hfails⟩
  · have hfrag : plan.needsFragmentation = false := by simpa using hfrag
    simp only [transportTransmit, hfrag, Bool.false_eq_true, if_false] at hne ⊢
    obtain ⟨hpeers, _, _, hout⟩ := transportSendReliablePacket_spec env ctx peer txData
      (transportEncodeData ctx.config txData data) false []
    generalize transportSendReliablePacket env ctx peer txData
      (transportEncodeData ctx.config txData data) false [] = sent at hpeers hout hne ⊢
    obtain ⟨err, after, last⟩ := sent
    dsimp only at hpeers hout hne ⊢
    rcases hout with ⟨hne', rfl⟩ | ⟨rfl, _⟩
    · refine ⟨last, ?_, rfl, .inl rfl⟩
      cases err with
      | ok => exact absurd rfl hne'
      | _ => exact congrArg (putPeer last) hpeers
    · exact absurd rfl hne

/-- When the first fragment passes and a later one does not, the send fails with more
packets in the queue. -/
theorem transportSendPlanned_partly {env : TransportEnv} {ctx : TransportCtx} {peer : PeerState}
    {txData : TxData} {data : Bytes} (h : PartlyPasses env ctx peer txData data) :
    (transportSendPlanned env ctx (some peer) txData data).1 ≠ .ok ∧
      ∃ after, (transportSendPlanned env ctx (some peer) txData data).2.peers
          = putPeer after ctx.peers ∧ after.key = peer.key ∧
        peer.reliableQueue.waitAckList.length < after.reliableQueue.waitAckList.length := by
  obtain ⟨plan, manager, hplan, hfrag, hmanager, hfirst, i, hi, hfail⟩ := h
  have hout := transportSendFragmented_outcome env ctx peer hplan hfrag hmanager
  simp only [transportSendPlanned, hplan]
  generalize transportTransmit env ctx (some peer) txData data plan = sent at hout ⊢
  cases hout with
  | sent after last h hpasses => exact absurd (hpasses i (Nat.zero_le _) (by omega)) hfail
  | stopped err hne j hfrom hto hbefore hfails mid after last h hpeers hevents =>
    have hsome : 0 < j := by
      rcases Nat.eq_zero_or_pos j with rfl | hpos
      · exact absurd hfirst hfails
      · exact hpos
    have hmore : peer.reliableQueue.waitAckList.length < last.reliableQueue.waitAckList.length := by
      rw [h.queued]
      exact Nat.lt_add_of_pos_right hsome
    have hput : putPeer last after.peers = putPeer last ctx.peers := by
      rw [hpeers]
      rfl
    cases err with
    | ok => exact absurd rfl hne
    | _ => exact ⟨hne, last, hput, h.key, hmore⟩

/-! ### Whole sends -/

/-- A send that fails leaves the sending side of every peer as it was. -/
def Transactional (env : TransportEnv) (ctx : TransportCtx) (txData : TxData) : Prop :=
  (xglTransportSend env ctx txData).1 ≠ .ok →
    Undisturbed ctx.peers (xglTransportSend env ctx txData).2.peers

/-- The context behind the opening HELLO of a request to a peer. -/
def greetedCtx (env : TransportEnv) (ctx : TransportCtx) (txData : TxData) (peer : PeerState) :
    TransportCtx :=
  if peer.helloSent then ctx
  else
    { ctx with
      io := (xglLayerSend env ctx.io (openingHello ctx.config txData peer)).2
      peers := putPeer { peer with helloSent := true } ctx.peers }

/-- A reliable request to a peer that is there gets to its fragments: the window has room
and the peer has been greeted or takes the HELLO. The first fragment passes and a later
one does not. -/
def PartlySent (env : TransportEnv) (ctx : TransportCtx) (txData : TxData) : Prop :=
  txData.reliable = true ∧ ctx.config.lowerLayer = true ∧
    ∃ data peer, txData.data = some data ∧ data.length ≠ 0 ∧
      lookupPeer ctx.peers txData.peerKey = some peer ∧
      xglWindowCanSendPacketNumber peer.txWindow = true ∧
      (peer.helloSent = true ∨
        env.layerSend ctx.io.sendCount (openingHello ctx.config txData peer) = .ok) ∧
      PartlyPasses env (greetedCtx env ctx txData peer) { peer with helloSent := true } txData data

/-- The peer selection for a peer that is there. -/
theorem transportPrepareReliableSend_found {env : TransportEnv} {ctx : TransportCtx}
    {txData : TxData} {peer : PeerState} (hlower : ctx.config.lowerLayer = true)
    (hlook : lookupPeer ctx.peers txData.peerKey = some peer)
    (hcan : xglWindowCanSendPacketNumber peer.txWindow = true)
    (hhello : peer.helloSent = true ∨
      env.layerSend ctx.io.sendCount (openingHello ctx.config txData peer) = .ok) :
    transportPrepareReliableSend env ctx txData
      = (.ok, greetedCtx env ctx txData peer, some { peer with helloSent := true }) := by
  simp only [transportPrepareReliableSend, transportGetOrCreatePeer, hlook, hcan, Bool.not_true,
    Bool.false_eq_true, if_false, greetedCtx]
  cases hsent : peer.helloSent with
  | true =>
    rw [if_pos rfl, if_pos rfl]
    rw [show ({ peer with helloSent := true } : PeerState) = peer by rw [← hsent]]
  | false =>
    rw [if_neg (by simp), if_neg (by simp), transportSendHello_eq]
    simp only [openingHello] at hhello ⊢
    have hok := hhello.resolve_left (by simp [hsent])
    generalize helloPacket ctx.config _ = hello at hok ⊢
    have herr : transportLowerSend env ctx.config ctx.io hello
        = (.ok, (xglLayerSend env ctx.io hello).2) := by
      rw [transportLowerSend, if_pos hlower]
      exact Prod.ext hok rfl
    rw [herr]
    rfl

/-- A reliable send to a peer that is there. -/
theorem xglTransportSend_found {env : TransportEnv} {ctx : TransportCtx} {txData : TxData}
    {peer : PeerState} {data : Bytes} (hrel : txData.reliable = true)
    (hlower : ctx.config.lowerLayer = true) (hdata : txData.data = some data)
    (hsome : data.length ≠ 0) (hlook : lookupPeer ctx.peers txData.peerKey = some peer)
    (hcan : xglWindowCanSendPacketNumber peer.txWindow = true)
    (hhello : peer.helloSent = true ∨
      env.layerSend ctx.io.sendCount (openingHello ctx.config txData peer) = .ok) :
    xglTransportSend env ctx txData
      = transportSendPlanned env (greetedCtx env ctx txData peer)
        (some { peer with helloSent := true }) txData data := by
  simp only [xglTransportSend, hdata, hlower, hrel, beq_iff_eq, hsome, if_false, Bool.not_true,
    Bool.false_eq_true, if_true, transportPrepareReliableSend_found hlower hlook hcan hhello]

/-- The peers behind the HELLO. -/
theorem greetedCtx_peers {env : TransportEnv} {ctx : TransportCtx} {txData : TxData}
    {peer : PeerState} (hpeer : peerOf ctx.peers peer.key = some peer) :
    (greetedCtx env ctx txData peer).peers = putPeer { peer with helloSent := true } ctx.peers := by
  simp only [greetedCtx]
  split
  · rename_i hsent
    rw [show ({ peer with helloSent := true } : PeerState) = peer by rw [← hsent],
      putPeer_self hpeer]
  · rfl

/-- A written-back peer is the entry of its key. -/
theorem peerOf_putPeer_self {peers : List PeerState} {peer old : PeerState}
    (h : peerOf peers peer.key = some old) : peerOf (putPeer peer peers) peer.key = some peer := by
  rw [peerOf_putPeer, if_pos rfl, h]
  rfl

/-- A partly sent message is left in the queue. -/
theorem PartlySent.disturbs {env : TransportEnv} {ctx : TransportCtx} {txData : TxData}
    (h : PartlySent env ctx txData) : ¬ Transactional env ctx txData := by
  obtain ⟨hrel, hlower, data, peer, hdata, hsome, hlook, hcan, hhello, hpartly⟩ := h
  intro htrans
  have hpeer := peerOf_of_lookupPeer hlook
  have hsend := xglTransportSend_found hrel hlower hdata hsome hlook hcan hhello
  obtain ⟨hne, after, hpeers, hkey, hmore⟩ := transportSendPlanned_partly hpartly
  simp only [Transactional, hsend] at htrans
  obtain ⟨left, hleft, hsame⟩ := htrans hne peer.key peer hpeer
  -- the entry of the peer is the one with more packets
  rw [hpeers, greetedCtx_peers hpeer, peerOf_putPeer,
    if_pos (show after.key = peer.key from hkey)] at hleft
  rw [show peer.key = ({ peer with helloSent := true } : PeerState).key from rfl,
    @peerOf_putPeer_self ctx.peers { peer with helloSent := true } peer hpeer] at hleft
  cases hleft
  rw [hsame.queue] at hmore
  exact Nat.lt_irrefl _ hmore

/-- Every other failure leaves the peers alone. -/
theorem transactional_of_not_partlySent {env : TransportEnv} {ctx : TransportCtx}
    {txData : TxData} (h : ¬ PartlySent env ctx txData) : Transactional env ctx txData := by
  intro hne
  simp only [xglTransportSend] at hne ⊢
  split
  · exact .refl _
  rename_i data hdata
  split
  · exact .refl _
  rename_i hsome
  split
  · exact .refl _
  rename_i hlower
  simp only [hdata, hsome, hlower] at hne
  -- an unreliable request has no peer
  by_cases hrel : txData.reliable = true
  · rw [if_pos hrel] at hne ⊢
    have hcases := transportPrepareReliableSend_cases env ctx txData
    -- a created peer has a key that no other peer has
    have hcreated : lookupPeer ctx.peers txData.peerKey = none →
        peerOf ctx.peers (freshPeer ctx txData.peerKey).key = none := by
      intro hlook
      rw [freshPeer_txKey]
      exact peerOf_none_of_lookupPeer hlook
    have hgot : ∀ {base : TransportCtx} {peer : PeerState},
        GetOrCreate ctx txData.peerKey (base, some peer) → Undisturbed ctx.peers base.peers := by
      intro base peer hgot
      cases hgot with
      | found _ hlook => exact .refl _
      | created hlook io hevents hsize => exact .cons (hcreated hlook)
    have hpartly : ∀ {peer : PeerState}, lookupPeer ctx.peers txData.peerKey = some peer →
        xglWindowCanSendPacketNumber peer.txWindow = true →
        (peer.helloSent = true ∨
          env.layerSend ctx.io.sendCount (openingHello ctx.config txData peer) = .ok) →
        ¬ PartlyPasses env (greetedCtx env ctx txData peer) { peer with helloSent := true }
          txData data := by
      intro peer hlook hcan hhello hpartly
      exact h ⟨hrel, by simpa using hlower, data, peer, hdata, by simpa using hsome, hlook, hcan,
        hhello, hpartly⟩
    generalize transportPrepareReliableSend env ctx txData = prepared at hcases hne ⊢
    -- the outcomes of the peer selection
    cases hcases with
    | refused hlook session io hevents => exact .refl _
    | full base peer hfound hfull => exact hgot hfound
    | mute base peer hfound hhello err hne' io hsent =>
      have hkept := hgot hfound
      cases err with
      | ok => exact absurd rfl hne'
      | _ => exact hkept
    | ready base peer hfound hcan hhello =>
      cases hfound with
      | created hlook io hevents hsize => cases hhello
      | found _ hlook =>
        have hpeer := peerOf_of_lookupPeer hlook
        obtain ⟨after, hpeers, hkey, hout⟩ := transportSendPlanned_failed env ctx peer txData data
          hpeer hne
        have hsame : ({ peer with helloSent := true } : PeerState) = peer := by rw [← hhello]
        rcases hout with rfl | hbroken
        · exact (congrArg (Undisturbed ctx.peers) hpeers).mpr (.put hpeer (.refl after))
        · refine absurd ?_ (hpartly hlook hcan (.inl hhello))
          rw [hsame, greetedCtx, if_pos hhello]
          exact hbroken
    | greeted base peer hfound hcan hhello io hsent =>
      cases hfound with
      | created hlook io' hevents hsize =>
        have hnone := hcreated hlook
        have hhead : putPeer { freshPeer ctx txData.peerKey with helloSent := true }
              (freshPeer ctx txData.peerKey :: ctx.peers)
            = { freshPeer ctx txData.peerKey with helloSent := true } :: ctx.peers := by
          rw [putPeer, if_pos (by rw [beq_iff_eq]; rfl)]
        have hentry : peerOf (freshPeer ctx txData.peerKey :: ctx.peers)
            ({ freshPeer ctx txData.peerKey with helloSent := true } : PeerState).key
            = some (freshPeer ctx txData.peerKey) := by
          rw [peerOf_cons]
          exact if_pos rfl
        obtain ⟨after, hpeers, hkey, _⟩ := transportSendPlanned_failed env _ _ txData data
          (peerOf_putPeer_self hentry) hne
        have hpeers := hpeers.trans (congrArg (putPeer after) hhead)
        exact (congrArg (Undisturbed ctx.peers) hpeers).mpr (.put_cons hnone hkey)
      | found _ hlook =>
        have hpeer := peerOf_of_lookupPeer hlook
        have hput := @peerOf_putPeer_self ctx.peers { peer with helloSent := true } peer hpeer
        obtain ⟨after, hpeers, hkey, hout⟩ := transportSendPlanned_failed env _ _ txData data
          hput hne
        rcases hout with rfl | hbroken
        · have hgreeted : Undisturbed ctx.peers
              (putPeer { peer with helloSent := true } ctx.peers) :=
            .put hpeer ⟨rfl, rfl, rfl⟩
          exact (congrArg (Undisturbed ctx.peers) hpeers).mpr (hgreeted.trans (.put hput (.refl _)))
        · rw [transportLowerSend, if_pos (by simpa using hlower)] at hsent
          refine absurd ?_ (hpartly hlook hcan (.inr (congrArg Prod.fst hsent)))
          rw [greetedCtx, if_neg (by simp [hhello]), congrArg Prod.snd hsent]
          exact hbroken
  · rw [if_neg hrel, transportSendPlanned_unreliable]
    exact .refl _

/-- A send is transactional exactly when it does not stop behind its first fragment. -/
theorem transactional_iff (env : TransportEnv) (ctx : TransportCtx) (txData : TxData) :
    Transactional env ctx txData ↔ ¬ PartlySent env ctx txData :=
  ⟨fun htrans h => h.disturbs htrans, transactional_of_not_partlySent⟩

/-- Node 1 with room for two packets, and frames of 64 bytes. -/
def smallConfig : TransportConfig where
  localId := 1
  windowSize := 2
  enableFragmentation := true
  maxFrameSize := 64

/-- The context it starts with. -/
def smallTransport : TransportCtx where
  config := smallConfig
  nextSessionId := 1
  window := freshWindow 2
  fragmentMgr := some { maxReassemblyBuffers := 8, reassemblyTimeoutMs := XGL_FRAGMENT_TIMEOUT_MS }

/-- A reliable message of two fragments. -/
def longTx : TxData :=
  { sampleTx with data := some (List.replicate 48 7) }

/-- With one packet on its way the window takes one more: the first fragment is sent, the
second is refused, and the send fails with the first fragment in the queue. -/
theorem partly_sent_stays :
    xglTransportInit smallConfig = .ok smallTransport ∧
      (xglTransportSend calmEnv (runActions calmEnv [.send sampleTx] smallTransport) longTx).1
        = .windowFull ∧
      ¬ Transactional calmEnv (runActions calmEnv [.send sampleTx] smallTransport) longTx := by
  refine ⟨rfl, by decide +kernel, fun h => ?_⟩
  have hbefore : (peerOf (runActions calmEnv [.send sampleTx] smallTransport).peers
      (scopedKey 2 5 0)).map (fun peer => peer.reliableQueue.waitAckList.length) = some 1 := by
    decide +kernel
  have hafter : (peerOf (xglTransportSend calmEnv (runActions calmEnv [.send sampleTx]
      smallTransport) longTx).2.peers (scopedKey 2 5 0)).map
        (fun peer => peer.reliableQueue.waitAckList.length) = some 2 := by decide +kernel
  obtain ⟨peer, hpeer, hone⟩ := Option.map_eq_some_iff.mp hbefore
  obtain ⟨left, hleft, hsame⟩ := h (by decide +kernel) _ peer hpeer
  rw [hleft, Option.map_some, hsame.queue, hone] at hafter
  cases hafter

/-! ### Messages for an idle peer -/

section Calm

variable {env : TransportEnv} {ctx : TransportCtx} {txData : TxData} {peer : PeerState}

/-- Over an allocator and a network that never fail, only the window stops a fragment. -/
theorem passes_iff_of_calm {job : FragmentJob} (halloc : ∀ n, env.allocOk n = true)
    (hnet : ∀ n packet, env.layerSend n packet = .ok)
    (hidle : job.peer.txWindow.nextPacketNumber = job.peer.txWindow.sendBasePacketNumber)
    {i : Nat} (hi : i ≤ 255) :
    job.Passes env i ↔ i < job.peer.txWindow.windowSize.toNat := by
  have hsub : job.peer.txWindow.nextPacketNumber + UInt32.ofNat i -
      job.peer.txWindow.sendBasePacketNumber = UInt32.ofNat i := by
    rw [hidle, UInt32.add_comm, UInt32.add_sub_cancel]
  have hlt : UInt32.ofNat i < job.peer.txWindow.windowSize.toUInt32 ↔
      i < job.peer.txWindow.windowSize.toNat := by
    rw [UInt32.lt_iff_toNat_lt, UInt8.toNat_toUInt32, UInt32.toNat_ofNat_of_lt']
    exact lt_of_le_of_lt hi (by decide)
  constructor
  · intro hpasses
    have hwindow := hpasses.window
    rw [hsub] at hwindow
    exact hlt.mp hwindow
  · intro hroom
    exact ⟨by rw [hsub]; exact hlt.mpr hroom, halloc _, halloc _, halloc _, hnet _ _⟩

/-- A single packet is sent, or refused because it is empty. -/
theorem transportSendReliablePacket_calm (halloc : ∀ n, env.allocOk n = true)
    (hnet : ∀ n packet, env.layerSend n packet = .ok) (data : Bytes) :
    let sent := transportSendReliablePacket env ctx peer txData data false []
    sent.1 = .ok ∨ sent.2.1.io.events = ctx.io.events := by
  have hmalloc : ∀ io, (reliableTxAlloc env io data false []).1 = true ∨ data.length = 0 := by
    intro io
    by_cases hempty : data.length = 0
    · exact .inr hempty
    · simp [reliableTxAlloc, transportMalloc, halloc, hempty, structSize]
  rw [transportSendReliablePacket_eq]
  split
  · exact .inr rfl
  rename_i hsome
  have hdone := (hmalloc ctx.io).resolve_right hsome
  rw [if_neg (by rw [hdone]; simp)]
  have hsent : ∀ io packet, (xglLayerSend env io packet).1 = .ok := fun io packet => hnet _ _
  rw [if_pos (hsent _ _)]
  exact .inl rfl

/-- The packets that a step hands down are control packets. -/
def OnlyControl (before after : TransportCtx) : Prop :=
  ∃ new, after.io.events = before.io.events ++ new ∧ ∀ packet err, .layerSend packet err ∈ new →
    packet.packetType = XGL_PACKET_TYPE_CONTROL

/-- No packet is handed down. -/
theorem OnlyControl.of_events {after : TransportCtx} (h : after.io.events = ctx.io.events) :
    OnlyControl ctx after :=
  ⟨[], by rw [h, List.append_nil], fun _ _ hmem => nomatch hmem⟩

/-- A later step that hands nothing down. -/
theorem OnlyControl.congr {mid after : TransportCtx} (h : OnlyControl ctx mid)
    (hevents : after.io.events = mid.io.events) : OnlyControl ctx after := by
  obtain ⟨new, hnew, hall⟩ := h
  exact ⟨new, hevents.trans hnew, hall⟩

/-- The HELLO of a request is a control packet. -/
theorem greetedCtx_onlyControl : OnlyControl ctx (greetedCtx env ctx txData peer) := by
  simp only [greetedCtx]
  split
  · exact .of_events rfl
  · refine ⟨_, rfl, fun packet err hmem => ?_⟩
    rw [List.mem_singleton] at hmem
    cases hmem
    rfl

/-- A data packet goes out later. -/
theorem not_onlyControl {base after : TransportCtx} {new : List TransportEvent} {packet : Packet}
    {err : XglError} (hbase : OnlyControl ctx base)
    (hevents : base.io.events ++ new <+: after.io.events) (hmem : .layerSend packet err ∈ new)
    (htype : packet.packetType ≠ XGL_PACKET_TYPE_CONTROL) : ¬ OnlyControl ctx after := by
  rintro ⟨all, hall, honly⟩
  obtain ⟨first, hfirst, _⟩ := hbase
  obtain ⟨rest, hrest⟩ := hevents
  rw [hfirst, hall, List.append_assoc, List.append_assoc, List.append_cancel_left_eq] at hrest
  refine htype (honly packet err ?_)
  rw [← hrest]
  exact List.mem_append_right _ (List.mem_append_left _ hmem)

end Calm

/-- Over an allocator and a network that never fail, a message with a plan to an idle peer
is sent, or refused before anything but the HELLO goes out, exactly when it needs no
fragments or as many as fit into the window, or the window has no places at all. -/
theorem planned_message_sent_iff (env : TransportEnv) (ctx : TransportCtx) (txData : TxData)
    (data : Bytes) (peer : PeerState) (plan : SendPlan) (manager : FragmentManager)
    (halloc : ∀ n, env.allocOk n = true) (hnet : ∀ n packet, env.layerSend n packet = .ok)
    (hrel : txData.reliable = true) (hdata : txData.data = some data)
    (hlower : ctx.config.lowerLayer = true)
    (hlook : lookupPeer ctx.peers txData.peerKey = some peer)
    (hidle : peer.txWindow.nextPacketNumber = peer.txWindow.sendBasePacketNumber)
    (hplan : transportBuildSendPlan ctx.config txData data.length = .ok plan)
    (hmanager : ctx.fragmentMgr = some manager) :
    ((xglTransportSend env ctx txData).1 = .ok ∨
        OnlyControl ctx (xglTransportSend env ctx txData).2) ↔
      plan.needsFragmentation = false ∨
        plan.fragmentCount ≤ peer.txWindow.windowSize.toNat ∨ peer.txWindow.windowSize = 0 := by
  -- a message without bytes is refused before anything goes out
  by_cases hempty : data.length = 0
  · have hfrag : plan.needsFragmentation = false := by
      by_contra hne
      exact (transportBuildSendPlan_pieces hplan (by simpa using hne)).1 hempty
    have hsend : xglTransportSend env ctx txData = (.invalidParam, ctx) := by
      simp [xglTransportSend, hdata, hempty]
    rw [hsend]
    exact ⟨fun _ => .inl hfrag, fun _ => .inr (.of_events rfl)⟩
  -- a window without places is no limit
  by_cases hsize : peer.txWindow.windowSize = 0
  · have hfull : xglWindowCanSendPacketNumber peer.txWindow = false := by
      simp [xglWindowCanSendPacketNumber, hsize]
    have hsend : xglTransportSend env ctx txData = (.windowFull, ctx) := by
      simp [xglTransportSend, hdata, hempty, hlower, hrel, transportPrepareReliableSend,
        transportGetOrCreatePeer, hlook, hfull]
    rw [hsend]
    exact ⟨fun _ => .inr (.inr hsize), fun _ => .inr (.of_events rfl)⟩
  have hpos : 0 < peer.txWindow.windowSize.toNat := by
    rcases Nat.eq_zero_or_pos peer.txWindow.windowSize.toNat with hzero | hpos
    · exact absurd (UInt8.toNat_inj.mp hzero) hsize
    · exact hpos
  have hcan : xglWindowCanSendPacketNumber peer.txWindow = true := by
    rw [xglWindowCanSendPacketNumber, hidle, UInt32.sub_self, decide_eq_true_iff,
      UInt32.lt_iff_toNat_lt, UInt8.toNat_toUInt32]
    exact hpos
  rw [xglTransportSend_found hrel hlower hdata hempty hlook hcan (.inr (hnet _ _))]
  have hconfig : (greetedCtx env ctx txData peer).config = ctx.config := by
    simp only [greetedCtx]
    split <;> rfl
  have hmgr : (greetedCtx env ctx txData peer).fragmentMgr = some manager := by
    simp only [greetedCtx]
    split <;> exact hmanager
  have hcontrol : OnlyControl ctx (greetedCtx env ctx txData peer) := greetedCtx_onlyControl
  generalize greetedCtx env ctx txData peer = base at hconfig hmgr hcontrol ⊢
  rw [← hconfig] at hplan
  simp only [transportSendPlanned, hplan]
  by_cases hfrag : plan.needsFragmentation = true
  · have hout := transportSendFragmented_outcome env base { peer with helloSent := true } hplan
      hfrag hmgr
    have hroom : ∀ i ≤ 255, (sendJob base { peer with helloSent := true } txData data plan
        manager).Passes env i ↔ i < peer.txWindow.windowSize.toNat :=
      fun i hi => passes_iff_of_calm halloc hnet hidle hi
    have hlast : peer.txWindow.windowSize.toNat ≤ 255 :=
      Nat.le_of_lt_succ peer.txWindow.windowSize.toNat_lt
    generalize transportTransmit env base (some { peer with helloSent := true }) txData data plan
      = sent at hout ⊢
    -- all fragments were sent, or one was refused
    cases hout with
    | sent after last h hpasses =>
      refine ⟨fun _ => .inr (.inl ?_), fun _ => .inl rfl⟩
      -- were there more fragments than places, the first without a place would pass
      by_contra hmore
      have hpass := hpasses peer.txWindow.windowSize.toNat (Nat.zero_le _) (by omega)
      exact Nat.lt_irrefl _ ((hroom _ hlast).mp hpass)
    | stopped err hne j hfrom hto hbefore hfails mid after last h hpeers hevents =>
      have hj : peer.txWindow.windowSize.toNat ≤ j := by
        by_contra hless
        exact hfails ((hroom j (by omega)).mpr (by omega))
      refine iff_of_false ?_ ?_
      · -- the first fragment went out, and the send failed
        have hout : ¬ OnlyControl ctx after := by
          rw [h.events] at hevents
          refine not_onlyControl hcontrol hevents
            (List.mem_map.mpr ⟨0, List.mem_range.mpr (by omega), rfl⟩) ?_
          show XGL_PACKET_TYPE_INVALID ≠ XGL_PACKET_TYPE_CONTROL
          decide
        rw [not_or]
        cases err with
        | ok => exact absurd rfl hne
        | _ => exact ⟨hne, hout⟩
      · rw [not_or, not_or]
        exact ⟨by simp [hfrag], by omega, hsize⟩
  · have hfrag : plan.needsFragmentation = false := by simpa using hfrag
    refine iff_of_true ?_ (.inl hfrag)
    simp only [transportTransmit, hfrag, Bool.false_eq_true, if_false]
    have hsent := @transportSendReliablePacket_calm env base txData { peer with helloSent := true }
      halloc hnet (transportEncodeData base.config txData data)
    generalize transportSendReliablePacket env base { peer with helloSent := true } txData
      (transportEncodeData base.config txData data) false [] = sent at hsent ⊢
    obtain ⟨err, after, last⟩ := sent
    rcases hsent with hok | hquiet
    · dsimp only at hok
      subst hok
      exact .inl rfl
    · cases err with
      | ok => exact .inl rfl
      | _ => exact .inr (hcontrol.congr hquiet)

/-- Node 1 after its first packet was acknowledged. -/
def idleSmall : TransportCtx :=
  runActions calmEnv [.send sampleTx, .receive sampleAck] smallTransport

/-- The plan of a message of two fragments. -/
def longPlan : SendPlan where
  needsFragmentation := true
  fragmentPayloadBudget := 24
  fragmentCount := 2

/-- A message of two fragments fits into a window of two. -/
theorem two_fragments_sent :
    (xglTransportSend calmEnv idleSmall longTx).1 = .ok ∨
      OnlyControl idleSmall (xglTransportSend calmEnv idleSmall longTx).2 := by
  have hfound : (lookupPeer idleSmall.peers longTx.peerKey).isSome = true := by decide +kernel
  obtain ⟨peer, hlook⟩ := Option.isSome_iff_exists.mp hfound
  have hwindows : ∀ peer ∈ idleSmall.peers, peer.txWindow.nextPacketNumber
      = peer.txWindow.sendBasePacketNumber ∧ peer.txWindow.windowSize = 2 := by decide +kernel
  obtain ⟨hidle, hsize⟩ := hwindows peer (peerOf_mem (peerOf_of_lookupPeer hlook))
  refine (planned_message_sent_iff calmEnv idleSmall longTx (List.replicate 48 7) peer longPlan
    { maxReassemblyBuffers := 8, reassemblyTimeoutMs := XGL_FRAGMENT_TIMEOUT_MS } (fun _ => rfl)
    (fun _ _ => rfl) rfl rfl ?_ hlook hidle ?_ ?_).mpr (.inr (.inl ?_))
  · decide +kernel
  · decide +kernel
  · decide +kernel
  · rw [hsize]
    decide

/-- A reliable message of three fragments. -/
def longerTx : TxData :=
  { sampleTx with data := some (List.replicate 72 7) }

/-- The event hands down no data packet. -/
def TransportEvent.sendsNoData : TransportEvent → Bool
  | .layerSend packet _ => packet.packetType == XGL_PACKET_TYPE_CONTROL
  | _ => true

/-- Three fragments and two places: the message has a plan, two fragments go out, and the
send fails. -/
theorem third_fragment_refused :
    (∀ n, calmEnv.allocOk n = true) ∧ (∀ n packet, calmEnv.layerSend n packet = .ok) ∧
      idleSmall.peers.map (fun peer => (peer.reliableQueue.waitAckList,
        peer.txWindow.nextPacketNumber - peer.txWindow.sendBasePacketNumber)) = [([], 0)] ∧
      (transportBuildSendPlan idleSmall.config longerTx 72).toOption
        = some { longPlan with fragmentCount := 3 } ∧
      (xglTransportSend calmEnv idleSmall longerTx).1 = .windowFull ∧
      ¬ ((xglTransportSend calmEnv idleSmall longerTx).1 = .ok ∨
        OnlyControl idleSmall (xglTransportSend calmEnv idleSmall longerTx).2) := by
  have hfull : (xglTransportSend calmEnv idleSmall longerTx).1 = .windowFull := by decide +kernel
  have hsent : ((xglTransportSend calmEnv idleSmall longerTx).2.io.events.drop
      idleSmall.io.events.length).all TransportEvent.sendsNoData = false := by decide +kernel
  refine ⟨fun _ => rfl, fun _ _ => rfl, by decide +kernel, by decide +kernel, hfull, ?_⟩
  rintro (hok | ⟨new, hnew, honly⟩)
  · rw [hfull] at hok
    cases hok
  · rw [hnew, List.drop_left, List.all_eq_false] at hsent
    obtain ⟨event, hmem, hevent⟩ := hsent
    cases event with
    | layerSend packet err =>
      exact hevent (by simp [TransportEvent.sendsNoData, honly packet err hmem])
    | _ => exact hevent rfl

end XgenLink
