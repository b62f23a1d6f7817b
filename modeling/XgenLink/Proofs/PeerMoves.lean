import XgenLink.Proofs.PeerRule
import XgenLink.Proofs.ScopedExchange
import XgenLink.Proofs.SentPackets

/-!
# `XgenLink.Proofs.PeerMoves`: what one step does to the peer of a key

A step touches few fields of a peer. A request raises its packet number, a reliable data packet
moves its ordering state, a control packet may clear it, and everything else keeps the session and
both numbers. What a step does is said here once, as a relation between the peer of a key before
and after; what holds of peers over a run is read off from it.

The numbers of a sender only rise while numbers are left: the number behind the last one is zero.
And a peer can be reclaimed with all its state, so the relation is stated for steps that reclaim
no idle peer.

* `PeersMove`: the peers of all keys, with rules for the ways to write a list of peers.
* `NumbersLeft`: the last packet number was not handed down.
* `SendsMore`, `SendMoves`, `xglTransportSend_moves`: the peers behind a request.
* `PeerMove`, `PeerMade`: what a step does to a peer, and what a new peer looks like.
* `transportStep_peersMove`: the peers behind an action.
-/

set_option autoImplicit false

namespace XgenLink

/-! ### Lists of peers -/

/-- The peer of a key moves, and where there was none there may be a new one. -/
structure PeersMove (moves : PeerState → PeerState → Prop) (made : PeerState → Prop)
    (before after : List PeerState) : Prop where
  kept : ∀ key old, peerOf before key = some old →
    ∃ peer, peerOf after key = some peer ∧ moves old peer
  made : ∀ key peer, peerOf before key = none → peerOf after key = some peer → made peer

section Lists

variable {moves : PeerState → PeerState → Prop} {made : PeerState → Prop}
  {peers after : List PeerState} {peer old : PeerState}

/-- No peer moves. -/
theorem PeersMove.same (hrefl : ∀ peer, moves peer peer) : PeersMove moves made peers peers where
  kept := fun _ old hold => ⟨old, hold, hrefl old⟩
  made := fun _ _ hnone hsome => absurd (hnone.symm.trans hsome) (by simp)

/-- A peer is written back. -/
theorem PeersMove.put (hrefl : ∀ peer, moves peer peer)
    (hentry : peerOf peers old.key = some old) (hsame : peer.key = old.key)
    (hmoves : moves old peer) : PeersMove moves made peers (putPeer peer peers) := by
  have hold : peerOf peers peer.key = some old := hsame ▸ hentry
  refine ⟨fun key before hbefore => ?_, fun key found hnone hfound => ?_⟩
  · by_cases hkey : peer.key = key
    · subst hkey
      rw [hold] at hbefore
      cases hbefore
      refine ⟨peer, ?_, hmoves⟩
      rw [peerOf_putPeer, if_pos rfl, hold]
      rfl
    · refine ⟨before, ?_, hrefl before⟩
      rw [peerOf_putPeer, if_neg hkey]
      exact hbefore
  · rw [peerOf_putPeer, hnone] at hfound
    split at hfound <;> cases hfound

/-- A new peer. -/
theorem PeersMove.cons (hrefl : ∀ peer, moves peer peer) (hnone : peerOf peers peer.key = none)
    (hmade : made peer) : PeersMove moves made peers (peer :: peers) := by
  refine ⟨fun key before hbefore => ⟨before, ?_, hrefl before⟩, fun key found habsent hfound => ?_⟩
  · rw [peerOf_cons, if_neg]
    · exact hbefore
    · rintro rfl
      exact absurd (hnone.symm.trans hbefore) (by simp)
  · rw [peerOf_cons] at hfound
    split at hfound
    · cases hfound
      exact hmade
    · exact absurd (habsent.symm.trans hfound) (by simp)

/-- Every peer moves by itself and keeps its key. -/
theorem PeersMove.forall₂ (h : List.Forall₂ moves peers after)
    (hkey : ∀ a b, moves a b → b.key = a.key) : PeersMove moves made peers after := by
  refine ⟨fun key before hbefore => peerOf_forall₂ h hkey hbefore, fun key found hnone hfound => ?_⟩
  obtain ⟨before, hbefore, -⟩ :=
    peerOf_forall₂ h.flip (fun a b hab => (hkey b a hab).symm) hfound
  exact absurd (hnone.symm.trans hbefore) (by simp)

/-- Peers that move like this also move in a wider sense. -/
theorem PeersMove.imp {moves' : PeerState → PeerState → Prop} {made' : PeerState → Prop}
    (h : PeersMove moves made peers after) (hmoves : ∀ old peer, moves old peer → moves' old peer)
    (hmade : ∀ peer, made peer → made' peer) : PeersMove moves' made' peers after where
  kept := fun key old hold =>
    let ⟨peer, hpeer, hmove⟩ := h.kept key old hold
    ⟨peer, hpeer, hmoves old peer hmove⟩
  made := fun key peer hnone hsome => hmade peer (h.made key peer hnone hsome)

end Lists

/-! ### Packet numbers -/

/-- No packet with the last number was handed down. -/
def NumbersLeft (events : List TransportEvent) : Prop :=
  ∀ packet err, .layerSend packet err ∈ events → packet.packetNumber ≠ 0xFFFFFFFF

/-- The event does not hand down the last number. -/
def TransportEvent.keepsNumbers : TransportEvent → Bool
  | .layerSend packet _ => packet.packetNumber != 0xFFFFFFFF
  | _ => true

/-- No event of the log hands the last number down. -/
theorem numbersLeft_iff {events : List TransportEvent} :
    events.all TransportEvent.keepsNumbers = true ↔ NumbersLeft events := by
  rw [List.all_eq_true]
  constructor
  · intro h packet err hmem
    simpa [TransportEvent.keepsNumbers] using h _ hmem
  · intro h event hmem
    cases event with
    | layerSend packet err => simpa [TransportEvent.keepsNumbers] using h packet err hmem
    | _ => rfl

/-- Whether numbers are left can be read off the log. -/
instance (events : List TransportEvent) : Decidable (NumbersLeft events) :=
  decidable_of_iff _ numbersLeft_iff

/-- Numbers were left before, when they still are. -/
theorem NumbersLeft.before {before after : List TransportEvent} (h : NumbersLeft after)
    (hgrown : before <+: after) : NumbersLeft before :=
  fun packet err hmem => h packet err (hgrown.subset hmem)

/-- A number that is not the last one is below its successor. -/
theorem le_add_one {n : UInt32} (h : n ≠ 0xFFFFFFFF) : n ≤ n + 1 := by
  have hne : n.toNat ≠ 2 ^ 32 - 1 := fun heq => h (UInt32.toNat_inj.mp heq)
  have hlt := n.toNat_lt
  rw [UInt32.le_iff_toNat_le, UInt32.toNat_add]
  have hone : (1 : UInt32).toNat = 1 := rfl
  rw [hone, Nat.mod_eq_of_lt (by omega)]
  omega

/-! ### Requests -/

/-- What a request does to its peer. The number only rises while numbers are left. -/
structure SendsMore (events : List TransportEvent) (peer after : PeerState) : Prop where
  key : after.key = peer.key
  rx : after.withRx peer = after
  session : after.sessionId = peer.sessionId
  number : NumbersLeft events →
    peer.txWindow.nextPacketNumber ≤ after.txWindow.nextPacketNumber

section Sends

variable {env : TransportEnv} {ctx : TransportCtx} {txData : TxData}
  {events later : List TransportEvent} {peer mid after : PeerState}

/-- Nothing is sent. -/
theorem SendsMore.refl (events : List TransportEvent) (peer : PeerState) :
    SendsMore events peer peer :=
  ⟨rfl, rfl, rfl, fun _ => UInt32.le_refl _⟩

/-- One packet behind another. -/
theorem SendsMore.trans (h : SendsMore events peer mid) (h' : SendsMore later mid after)
    (hgrown : events <+: later) : SendsMore later peer after := by
  refine ⟨h'.key.trans h.key, ?_, h'.session.trans h.session, fun hleft =>
    UInt32.le_trans (h.number (hleft.before hgrown)) (h'.number hleft)⟩
  rw [← h'.rx, ← h.rx]
  rfl

/-- One packet. The number that is taken is the one that was handed down. -/
theorem transportSendReliablePacket_more (data : Bytes) (fragment : Bool) (extensions : Bytes) :
    let sent := transportSendReliablePacket env ctx peer txData data fragment extensions
    ctx.io.events <+: sent.2.1.io.events ∧ SendsMore sent.2.1.io.events peer sent.2.2 := by
  have hcases := transportSendReliablePacket_cases env ctx peer txData data fragment extensions
  dsimp only
  generalize transportSendReliablePacket env ctx peer txData data fragment extensions = sent
    at hcases ⊢
  cases hcases with
  | refused err hne io hevents =>
    exact ⟨prefix_of_eq hevents, .refl _ _⟩
  | failed err hne io hevents =>
    refine ⟨?_, .refl _ _⟩
    show ctx.io.events <+: io.events
    rw [hevents]
    exact List.prefix_append _ _
  | sent io window read hevents =>
    refine ⟨?_, rfl, rfl, rfl, fun hleft => ?_⟩
    · show ctx.io.events <+: io.events
      rw [hevents]
      exact List.prefix_append _ _
    · have hmem : .layerSend (txPacket ctx.config (some peer) txData data
          peer.txWindow.nextPacketNumber fragment extensions) .ok ∈ io.events := by
        rw [hevents]
        simp
      exact le_add_one (hleft _ _ hmem)

/-- The fragments of a request. The induction is on the fragments to come. -/
theorem transportFragmentLoop_more (data : Bytes) (messageId : UInt32) (payloadMax : Nat)
    (indices : List Nat) (ctx : TransportCtx) (peer : PeerState) :
    let sent := transportFragmentLoop env txData data messageId payloadMax indices ctx (some peer)
    ctx.io.events <+: sent.2.1.io.events ∧
      ∃ after, sent.2.2 = some after ∧ SendsMore sent.2.1.io.events peer after := by
  dsimp only
  induction indices generalizing ctx peer with
  | nil => exact ⟨List.prefix_rfl, peer, rfl, .refl _ _⟩
  | cons i rest ih =>
    simp only [transportFragmentLoop, transportSendOneFragment, transportEncodeFragmentExt_eq]
    by_cases hcan : xglWindowCanSendPacketNumber peer.txWindow = true
    swap
    · rw [if_pos (by simp [hcan])]
      exact ⟨List.prefix_rfl, peer, rfl, .refl _ _⟩
    rw [if_neg (by simp [hcan])]
    have hone := @transportSendReliablePacket_more env ctx txData peer
      (readBytes data (i * payloadMax) (min (data.length - i * payloadMax) payloadMax)) true
      (fragmentExtension messageId (i * payloadMax) data.length)
    dsimp only at hone ⊢
    generalize transportSendReliablePacket env ctx peer txData
      (readBytes data (i * payloadMax) (min (data.length - i * payloadMax) payloadMax)) true
      (fragmentExtension messageId (i * payloadMax) data.length) = sent at hone ⊢
    obtain ⟨err, mid, state⟩ := sent
    obtain ⟨hgrows, hmore⟩ := hone
    cases err with
    | ok =>
      obtain ⟨hrest, after, hafter, hmore'⟩ := ih mid state
      exact ⟨hgrows.trans hrest, after, hafter, hmore.trans hmore' hrest⟩
    | _ => exact ⟨hgrows, state, rfl, hmore⟩

/-- The transmission step. -/
theorem transportTransmit_more (data : Bytes) (plan : SendPlan) :
    let sent := transportTransmit env ctx (some peer) txData data plan
    ctx.io.events <+: sent.2.1.io.events ∧
      ∃ after, sent.2.2 = some after ∧ SendsMore sent.2.1.io.events peer after := by
  simp only [transportTransmit, transportSendFragmented]
  split
  · split
    · exact ⟨List.prefix_rfl, peer, rfl, .refl _ _⟩
    · rename_i manager _
      exact transportFragmentLoop_more data manager.nextMessageId plan.fragmentPayloadBudget
        (List.range plan.fragmentCount)
        { ctx with
          fragmentMgr := some { manager with nextMessageId := manager.nextMessageId + 1 } } peer
  · obtain ⟨hgrows, hmore⟩ := @transportSendReliablePacket_more env ctx txData peer
      (transportEncodeData ctx.config txData data) false []
    exact ⟨hgrows, _, rfl, hmore⟩

/-- The part of a send behind the peer selection writes the peer back. -/
theorem transportSendPlanned_more (data : Bytes) (hentry : peerOf ctx.peers peer.key = some peer)
    (hcan : xglWindowCanSendPacketNumber peer.txWindow = true) :
    let sent := transportSendPlanned env ctx (some peer) txData data
    ∃ after, sent.2.peers = putPeer after ctx.peers ∧ SendsMore sent.2.io.events peer after := by
  simp only [transportSendPlanned]
  split
  · refine ⟨peer, ?_, .refl _ _⟩
    rw [putPeer_self hentry]
    split <;> rfl
  · rename_i plan _
    obtain ⟨hpeers, -, -⟩ := transportTransmit_spec env ctx peer txData data plan hcan
    obtain ⟨-, after, hafter, hmore⟩ := @transportTransmit_more env ctx txData peer data plan
    generalize transportTransmit env ctx (some peer) txData data plan = sent
      at hpeers hafter hmore ⊢
    obtain ⟨err, next, written⟩ := sent
    dsimp only at hpeers hafter hmore ⊢
    subst hafter
    cases err with
    | ok =>
      refine ⟨{ after with lastActiveMs := (xglTimeMs env next.io).1 }, ?_, hmore.key, ?_,
        hmore.session, fun hleft => hmore.number ?_⟩
      · rw [← hpeers]
        rfl
      · rw [← hmore.rx]
        rfl
      · exact hleft.before (xglTimeMs_events env next.io ▸ List.prefix_rfl)
    | _ =>
      refine ⟨after, ?_, hmore⟩
      rw [← hpeers]
      rfl

/-- The peers behind a request: its peer has sent more, and it may be a new one. -/
inductive SendMoves (ctx : TransportCtx) (txData : TxData) (after : TransportCtx) : Prop where
  | same (hpeers : after.peers = ctx.peers)
  | put (old peer : PeerState) (hlook : lookupPeer ctx.peers txData.peerKey = some old)
      (hmore : SendsMore after.io.events old peer)
      (hpeers : after.peers = putPeer peer ctx.peers)
  | cons (peer : PeerState) (hlook : lookupPeer ctx.peers txData.peerKey = none)
      (hmore : SendsMore after.io.events (freshPeer ctx txData.peerKey) peer)
      (hpeers : after.peers = peer :: ctx.peers)

/-- The HELLO that went out is marked in the peer. -/
theorem SendsMore.greeted (events : List TransportEvent) (peer : PeerState) :
    SendsMore events peer { peer with helloSent := true } :=
  ⟨rfl, rfl, rfl, fun _ => UInt32.le_refl _⟩

/-- What was done to the selected peer is what the request did. -/
theorem SendMoves.of_selected {base after : TransportCtx}
    (hgot : GetOrCreate ctx txData.peerKey (base, some peer))
    (hmore : SendsMore after.io.events peer mid)
    (hpeers : after.peers = putPeer mid base.peers) : SendMoves ctx txData after := by
  cases hgot with
  | found _ hlook => exact .put peer mid hlook hmore hpeers
  | created hlook io hevents hsize =>
    refine .cons mid hlook hmore ?_
    rw [hpeers, putPeer_head hmore.key.symm]

/-- Every request moves its peer like this. -/
theorem xglTransportSend_moves (env : TransportEnv) (ctx : TransportCtx) (txData : TxData) :
    SendMoves ctx txData (xglTransportSend env ctx txData).2 := by
  simp only [xglTransportSend]
  split
  · exact .same rfl
  rename_i data _
  split
  · exact .same rfl
  split
  · exact .same rfl
  split
  swap
  · exact .same (transportSendPlanned_unreliable env ctx txData data)
  have hcases := transportPrepareReliableSend_cases env ctx txData
  generalize transportPrepareReliableSend env ctx txData = prepared at hcases ⊢
  have hentry : ∀ {base : TransportCtx} {peer : PeerState},
      GetOrCreate ctx txData.peerKey (base, some peer) →
        peerOf base.peers peer.key = some peer := by
    intro base peer hgot
    cases hgot with
    | found _ hlook => exact peerOf_of_lookupPeer hlook
    | created hlook io hevents hsize => rw [peerOf_cons, if_pos rfl]
  cases hcases with
  | refused hlook session io hevents => exact .same rfl
  | full base peer hgot hfull =>
    exact .of_selected hgot (.refl _ _) (putPeer_self (hentry hgot)).symm
  | ready base peer hgot hcan hsaid =>
    obtain ⟨after, hpeers, hmore⟩ :=
      @transportSendPlanned_more env base txData peer data (hentry hgot) hcan
    exact .of_selected hgot hmore hpeers
  | greeted base peer hgot hcan hsaid io hsent =>
    have hself : peerOf (putPeer { peer with helloSent := true } base.peers) peer.key
        = some { peer with helloSent := true } := by
      rw [peerOf_putPeer, hentry hgot]
      exact if_pos rfl
    obtain ⟨after, hpeers, hmore⟩ := @transportSendPlanned_more env
      { base with io := io, peers := putPeer { peer with helloSent := true } base.peers } txData
      { peer with helloSent := true } data hself hcan
    refine .of_selected hgot ((SendsMore.greeted [] peer).trans hmore List.nil_prefix) ?_
    rw [hpeers]
    exact putPeer_putPeer hmore.key.symm base.peers
  | mute base peer hgot hsaid err hne io hsent =>
    cases err with
    | ok => exact absurd rfl hne
    | _ => exact .of_selected hgot (.refl _ _) (putPeer_self (hentry hgot)).symm

end Sends

/-! ### Actions -/

/-- What an action does to a peer: it keeps the session and both numbers, but for packet numbers
that rise; or a reliable data packet moves its ordering state; or a control packet clears it. -/
inductive PeerMove (action : TransportAction) (events : List TransportEvent)
    (old peer : PeerState) : Prop where
  | kept (session : peer.sessionId = old.sessionId)
      (rx : peer.rxNextPacketNumber = old.rxNextPacketNumber)
      (number : NumbersLeft events →
        old.txWindow.nextPacketNumber ≤ peer.txWindow.nextPacketNumber)
  | ordered (packet : Packet) (haction : action = .receive packet)
      (hdata : ¬ packet.Feedback)
      (hrel : packet.reliable = XGL_RELIABILITY_ACK_ELICITING)
      (hkey : packet.scoped = true → old.key = packet.peerKey)
      (hsession : packet.sessionId = 0 ∨ packet.sessionId = old.sessionId)
      (session : peer.sessionId = old.sessionId)
      (number : peer.txWindow.nextPacketNumber = old.txWindow.nextPacketNumber)
  | cleared (packet : Packet) (haction : action = .receive packet)
      (htype : packet.packetType = XGL_PACKET_TYPE_CONTROL)
      (hkey : packet.scoped = true → old.key = packet.peerKey)
      (session : peer.sessionId &&& XGL_SESSION_ID_MASK = peer.sessionId)
      (rx : peer.rxNextPacketNumber = 0)

/-- What a new peer looks like: it has a session id and has taken no packet in order, or it was
made for a reliable data packet and its session. -/
inductive PeerMade (action : TransportAction) (peer : PeerState) : Prop where
  | unused (session : peer.sessionId &&& XGL_SESSION_ID_MASK = peer.sessionId)
      (rx : peer.rxNextPacketNumber = 0)
  | ordered (packet : Packet) (haction : action = .receive packet)
      (hdata : ¬ packet.Feedback)
      (hrel : packet.reliable = XGL_RELIABILITY_ACK_ELICITING)
      (hkey : packet.scoped = true → peer.key = packet.peerKey)
      (session : peer.sessionId &&& XGL_SESSION_ID_MASK = peer.sessionId)
      (hsession : packet.sessionId = 0 ∨
        peer.sessionId = packet.sessionId &&& XGL_SESSION_ID_MASK)

section Actions

variable {env : TransportEnv} {ctx : TransportCtx} {action : TransportAction}
  {events : List TransportEvent} {packet : Packet}

/-- A peer that stays as it is has moved. -/
theorem PeerMove.refl (peer : PeerState) : PeerMove action events peer peer :=
  .kept rfl rfl fun _ => UInt32.le_refl _

/-- A masked session id is a session id. -/
theorem masked_session (sessionId : UInt16) :
    sessionId &&& XGL_SESSION_ID_MASK &&& XGL_SESSION_ID_MASK
      = sessionId &&& XGL_SESSION_ID_MASK := by
  rw [UInt16.and_assoc, UInt16.and_self]

/-- A scoped lookup finds the peer of its key. -/
theorem lookupPeer_scoped_key {peers : List PeerState} {peer : PeerState}
    (hlook : lookupPeer peers packet.peerKey = some peer) (hscoped : packet.scoped = true) :
    peer.key = packet.peerKey := by
  rw [lookupPeer_scoped hscoped] at hlook
  exact peerOf_key hlook

/-- A control packet. -/
theorem transportProcessControlPacket_peersMove
    (htype : packet.packetType = XGL_PACKET_TYPE_CONTROL) :
    PeersMove (PeerMove (.receive packet) events) (PeerMade (.receive packet)) ctx.peers
      (transportProcessControlPacket env ctx packet).2.peers := by
  have hcases := transportProcessControlPacket_cases env ctx packet
  generalize (transportProcessControlPacket env ctx packet).2 = after at hcases ⊢
  cases hcases with
  | refused session io hevents => exact .same PeerMove.refl
  | reset hsid peer hlook hreset now io hevents =>
    exact .put PeerMove.refl (peerOf_of_lookupPeer hlook) rfl
      (.cleared packet rfl htype (lookupPeer_scoped_key hlook) (masked_session _) rfl)
  | established hsid peer hlook hsession now io hevents =>
    exact .put PeerMove.refl (peerOf_of_lookupPeer hlook) rfl
      (.kept rfl rfl fun _ => UInt32.le_refl _)
  | created hsid hlook window hwindow manager now io peer hevents hpeer hsize =>
    have hnone := peerOf_none_of_lookupPeer hlook
    rw [← freshPeer_key ctx packet] at hnone
    rcases hpeer with rfl | ⟨_, rfl⟩
    · exact .cons PeerMove.refl hnone (.unused (masked_session _) rfl)
    · exact .cons PeerMove.refl hnone (.unused (newSessionId_masked _).1 rfl)

/-- An ACK packet. -/
theorem transportProcessAckPacket_peersMove :
    PeersMove (PeerMove action events) (PeerMade action) ctx.peers
      (transportProcessAckPacket env ctx packet).2.peers := by
  rw [transportProcessAckPacket_peers]
  cases hfind : transportFindAckPeer ctx.peers packet with
  | none => exact .same PeerMove.refl
  | some peer =>
    rw [Option.elim_some]
    split
    swap
    · exact .same PeerMove.refl
    have hspec := transportApplyAck_spec env ctx peer packet
    obtain ⟨_, _, _, hframe⟩ := hspec.peerFrame
    refine .put PeerMove.refl (peerOf_of_transportFindAckPeer hfind)
      (transportApplyAck_key env ctx peer packet) (.kept ?_ ?_ fun _ => ?_)
    · rw [hframe]
    · rw [hframe]
    · rw [hspec.windows.peer.next]
      exact UInt32.le_refl _

/-- A data packet. -/
theorem transportReceiveData_peersMove (data : Bytes)
    (htype : ¬ packet.Feedback) :
    PeersMove (PeerMove (.receive packet) events) (PeerMade (.receive packet)) ctx.peers
      (transportReceiveData env ctx packet data).2.peers := by
  have hnoPeer : ∀ ctx : TransportCtx, lookupPeer ctx.peers packet.peerKey = none →
      peerOf ctx.peers (freshPeer ctx packet.peerKey).key = none := by
    intro ctx hlook
    rw [freshPeer_key]
    exact peerOf_none_of_lookupPeer hlook
  -- an ACK-eliciting packet moves the ordering state of its peer
  by_cases hrel : packet.reliable = XGL_RELIABILITY_ACK_ELICITING
  · rcases transportReceiveData_cases env ctx packet data hrel with
      ⟨err, session, io, _, _, _, heq⟩ | ⟨selected, peer, hsel, _, heq⟩
    · rw [heq]
      exact .same PeerMove.refl
    rw [heq, transportReceiveReliable_eq]
    dsimp only
    rw [rxReliable_peer]
    generalize (rxReliable env selected.config selected.fragmentMgr selected.io peer packet
      data).2.2.2 = moved
    -- the peer is written back with another ordering state
    -- the peer was there, or it was made for the packet
    cases hsel with
    | found old hlook hsession now io hevents =>
      rw [putPeer_putPeer]
      · exact .put PeerMove.refl (peerOf_of_lookupPeer hlook) rfl
          (.ordered packet rfl htype hrel (lookupPeer_scoped_key hlook) hsession rfl rfl)
      · rfl
    | created hlook hsession now io hevents hsize =>
      rw [putPeer_head]
      · exact .cons PeerMove.refl (hnoPeer ctx hlook)
          (.ordered packet rfl htype hrel (fun _ => freshPeer_key ctx packet) (masked_session _)
            (.inr rfl))
      · rfl
    | createdBare hlook hsession io hevents hsize =>
      rw [putPeer_head]
      · exact .cons PeerMove.refl (hnoPeer ctx hlook)
          (.ordered packet rfl htype hrel (fun _ => freshPeer_key ctx packet)
            (newSessionId_masked _).1 (.inl hsession))
      · rfl
  · simp only [transportReceiveData]
    rcases transportPrepareRxPeer_cases env ctx packet with
      ⟨err, session, io, peer, hne, _, heq⟩ | ⟨_, heq⟩ |
        ⟨prepared, peer, selected, touched, hsel, heq, htouch⟩
    · rw [heq]
      cases err with
      | ok => exact absurd rfl hne
      | _ => exact .same PeerMove.refl
    · rw [heq]
      dsimp only
      rw [if_neg (by simp [hrel])]
      exact .same PeerMove.refl
    · rw [heq]
      dsimp only
      rw [htouch, if_neg (by simp [hrel])]
      cases hsel with
      | found old hlook hsession now io hevents =>
        exact .put PeerMove.refl (peerOf_of_lookupPeer hlook) rfl
          (.kept rfl rfl fun _ => UInt32.le_refl _)
      | created hlook hsession now io hevents hsize =>
        exact .cons PeerMove.refl (hnoPeer ctx hlook) (.unused (masked_session _) rfl)
      | createdBare hlook hsession io hevents hsize =>
        exact .cons PeerMove.refl (hnoPeer ctx hlook) (.unused (newSessionId_masked _).1 rfl)

/-- The timers, where idle peers are not reclaimed. -/
theorem xglTransportRun_peersMove {now : UInt32} (hidle : ctx.config.peerIdleTimeoutMs = 0) :
    PeersMove (PeerMove action events) (PeerMade action) ctx.peers
      (xglTransportRun env ctx now).peers := by
  obtain ⟨-, hforall⟩ := transportProcessRetransmissions_again env ctx.config ctx.io now ctx.peers
  have hpeers : (xglTransportRun env ctx now).peers
      = (transportProcessRetransmissions env ctx.config now ctx.peers ctx.io).1 := by
    simp only [xglTransportRun, transportReclaimIdlePeers, transportProcessFragmentTimeouts_config,
      hidle]
    exact transportProcessFragmentTimeouts_peers now
  rw [hpeers]
  have htimed : PeersMove (fun old peer => ∃ queue deadline,
      peer = { old with reliableQueue := queue, earliestDeadlineMs := deadline })
      (PeerMade action) ctx.peers
      (transportProcessRetransmissions env ctx.config now ctx.peers ctx.io).1 := by
    refine .forall₂ hforall ?_
    rintro a b ⟨_, _, rfl⟩
    rfl
  refine htimed.imp ?_ fun _ h => h
  rintro old peer ⟨_, _, rfl⟩
  exact .kept rfl rfl fun _ => UInt32.le_refl _

/-- Every action moves the peers like this, where idle peers are not reclaimed. -/
theorem transportStep_peersMove (env : TransportEnv) (ctx : TransportCtx)
    (action : TransportAction) (hidle : ctx.config.peerIdleTimeoutMs = 0) :
    PeersMove (PeerMove action (transportStep env ctx action).io.events) (PeerMade action)
      ctx.peers (transportStep env ctx action).peers := by
  -- a request, a packet of any kind, or the timers
  cases action with
  | send txData =>
    show PeersMove (PeerMove _ (xglTransportSend env ctx txData).2.io.events) _ ctx.peers
      (xglTransportSend env ctx txData).2.peers
    have hsent : ∀ {old peer : PeerState},
        SendsMore (xglTransportSend env ctx txData).2.io.events old peer →
        peer.rxNextPacketNumber = old.rxNextPacketNumber := by
      intro old peer hmore
      rw [← hmore.rx]
      rfl
    cases xglTransportSend_moves env ctx txData with
    | same hpeers =>
      rw [hpeers]
      exact .same PeerMove.refl
    | put old peer hlook hmore hpeers =>
      rw [hpeers]
      exact .put PeerMove.refl (peerOf_of_lookupPeer hlook) hmore.key
        (.kept hmore.session (hsent hmore) hmore.number)
    | cons peer hlook hmore hpeers =>
      rw [hpeers]
      refine .cons PeerMove.refl ?_ (.unused ?_ (hsent hmore))
      · rw [hmore.key, freshPeer_txKey]
        exact peerOf_none_of_lookupPeer hlook
      · rw [hmore.session]
        exact (newSessionId_masked _).1
  | receive packet =>
    show PeersMove (PeerMove _ (xglTransportReceive env ctx packet).2.io.events) _ ctx.peers
      (xglTransportReceive env ctx packet).2.peers
    generalize (xglTransportReceive env ctx packet).2.io.events = events
    simp only [xglTransportReceive, beq_iff_eq]
    split
    · rename_i htype
      exact transportProcessControlPacket_peersMove htype
    · rename_i htype
      split
      · exact transportProcessAckPacket_peersMove
      rename_i hack
      split
      · exact .same PeerMove.refl
      · refine transportReceiveData_peersMove _ ?_
        rintro (hcontrol | hfeedback)
        · exact htype hcontrol
        · exact hack (by simp [hfeedback])
  | run now => exact xglTransportRun_peersMove hidle

end Actions

end XgenLink
