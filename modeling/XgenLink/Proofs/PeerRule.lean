import XgenLink.Proofs.TimerFiring

/-!
# `XgenLink.Proofs.PeerRule`: what holds of every peer of a context

A property of one peer that survives each of the writes the transport makes to a peer holds of all
peers in every state a run reaches. The writes are few: a peer is created or reset, a reliable
packet is sent, an acknowledgement is applied, the timers run, and the session and ordering fields
are set. This module goes through the calls of the transport once and finds these writes in them.

An acknowledgement is set apart. What it does to the queue depends on its contents, and a property
often survives only those that meet some condition, so the premise about acknowledgements is that
of the step and not of the rule.

* `SendRule`, `PeerRule`: the property survives the writes of a request, and those other than an
  acknowledgement.
* `AllPeers`: the property holds of all peers.
* `xglTransportSend_rule`, `xglTransportReceive_rule`, `xglTransportRun_rule`: the calls.
* `transportStep_rule`: one action.
* `runActions_rule`: a run.
-/

set_option autoImplicit false

namespace XgenLink

/-- The property holds of a new peer and survives the writes of a request. -/
structure SendRule (env : TransportEnv) (P : PeerState → Prop) : Prop where
  fresh : ∀ ctx key, P (freshPeer ctx key)
  session : ∀ (peer : PeerState) (hello established : Bool) (now : UInt32), P peer →
    P { peer with helloSent := hello, sessionEstablished := established, lastActiveMs := now }
  send : ∀ ctx peer txData data fragment extensions, P peer →
    P (transportSendReliablePacket env ctx peer txData data fragment extensions).2.2

/-- It survives every write but an acknowledgement. -/
structure PeerRule (env : TransportEnv) (P : PeerState → Prop) : Prop extends SendRule env P where
  reset : ∀ peer sessionId now, P peer → P (resetPeer peer sessionId now)
  rx : ∀ peer other, P peer → P (peer.withRx other)
  timers : ∀ config now io peer, P peer → P (transportRetransmitPeer env config now io peer).1

/-- The property holds of all peers. -/
def AllPeers (P : PeerState → Prop) (peers : List PeerState) : Prop := ∀ peer ∈ peers, P peer

section Rule

variable {env : TransportEnv} {P : PeerState → Prop} {ctx : TransportCtx}

/-- A peer with the property is written back. -/
theorem AllPeers.put {peers : List PeerState} (h : AllPeers P peers) {peer : PeerState}
    (hpeer : P peer) : AllPeers P (putPeer peer peers) := by
  intro other hother
  rcases mem_putPeer hother with rfl | hold
  · exact hpeer
  · exact h other hold

/-- A peer with the property is added. -/
theorem AllPeers.cons {peers : List PeerState} (h : AllPeers P peers) {peer : PeerState}
    (hpeer : P peer) : AllPeers P (peer :: peers) := by
  intro other hother
  rcases List.mem_cons.1 hother with rfl | hold
  · exact hpeer
  · exact h other hold

/-- A peer that is found has the property. -/
theorem AllPeers.lookup {peers : List PeerState} (h : AllPeers P peers) {key : PeerKey}
    {peer : PeerState} (hlook : lookupPeer peers key = some peer) : P peer :=
  h peer (peerOf_mem (peerOf_of_lookupPeer hlook))

section Sending

variable (rule : SendRule env P)
include rule

/-! ### Sending -/

/-- The fragments of a request, in order. -/
theorem transportFragmentLoop_rule (txData : TxData) (data : Bytes) (messageId : UInt32)
    (payloadMax : Nat) (indices : List Nat) (base : TransportCtx) (peer : PeerState)
    (hpeer : P peer) :
    ∃ after, (transportFragmentLoop env txData data messageId payloadMax indices base
        (some peer)).2.2 = some after ∧ P after := by
  induction indices generalizing base peer with
  | nil => exact ⟨peer, rfl, hpeer⟩
  | cons i rest ih =>
    simp only [transportFragmentLoop, transportSendOneFragment]
    by_cases hcan : xglWindowCanSendPacketNumber peer.txWindow = true
    · rw [if_neg (by simp [hcan])]
      cases transportEncodeFragmentExt messageId (i * payloadMax) data.length with
      | error err =>
        cases err with
        | ok => exact ih base peer hpeer
        | _ => exact ⟨peer, rfl, hpeer⟩
      | ok ext =>
        have hsent := rule.send base peer txData
          (readBytes data (i * payloadMax) (min (data.length - i * payloadMax) payloadMax)) true ext
          hpeer
        dsimp only
        generalize transportSendReliablePacket env base peer txData
          (readBytes data (i * payloadMax) (min (data.length - i * payloadMax) payloadMax)) true ext
            = sent at hsent ⊢
        obtain ⟨err, next, after⟩ := sent
        cases err with
        | ok => exact ih next after hsent
        | _ => exact ⟨after, rfl, hsent⟩
    · rw [if_pos (by simp [hcan])]
      exact ⟨peer, rfl, hpeer⟩

/-- The transmission of a message, in one packet or in fragments. -/
theorem transportTransmit_rule (base : TransportCtx) (peer : PeerState) (txData : TxData)
    (data : Bytes) (plan : SendPlan) (hpeer : P peer) :
    ∃ after, (transportTransmit env base (some peer) txData data plan).2.2 = some after ∧
      P after := by
  simp only [transportTransmit, transportSendFragmented]
  split
  · split
    · exact ⟨peer, rfl, hpeer⟩
    · exact transportFragmentLoop_rule rule txData data _ _ _ _ peer hpeer
  · exact ⟨_, rfl, rule.send _ peer _ _ _ _ hpeer⟩

/-- The part of a send behind the peer selection. -/
theorem transportSendPlanned_rule (h : AllPeers P ctx.peers) {peer : PeerState} (hpeer : P peer)
    (hcan : xglWindowCanSendPacketNumber peer.txWindow = true) (txData : TxData) (data : Bytes) :
    AllPeers P (transportSendPlanned env ctx (some peer) txData data).2.peers := by
  simp only [transportSendPlanned]
  split
  · split <;> exact h
  · rename_i plan _
    obtain ⟨hpeers, -, -⟩ := transportTransmit_spec env ctx peer txData data plan hcan
    obtain ⟨after, hafter, hprop⟩ := transportTransmit_rule rule ctx peer txData data plan hpeer
    generalize transportTransmit env ctx (some peer) txData data plan = sent at hpeers hafter ⊢
    obtain ⟨err, next, written⟩ := sent
    dsimp only at hpeers hafter ⊢
    subst hafter
    have hall : AllPeers P next.peers := hpeers ▸ h
    cases err with
    | ok => exact hall.put (rule.session after _ _ _ hprop)
    | _ => exact hall.put hprop

/-- A request. Its peer is found or created, may be sent a HELLO first, and is written back. -/
theorem xglTransportSend_rule (h : AllPeers P ctx.peers) (txData : TxData) :
    AllPeers P (xglTransportSend env ctx txData).2.peers := by
  simp only [xglTransportSend]
  split
  · exact h
  rename_i data _
  split
  · exact h
  split
  · exact h
  split
  · have hcases := transportPrepareReliableSend_cases env ctx txData
    generalize transportPrepareReliableSend env ctx txData = prepared at hcases ⊢
    -- selecting or creating the peer
    have hgot : ∀ {base : TransportCtx} {peer : PeerState},
        GetOrCreate ctx txData.peerKey (base, some peer) → AllPeers P base.peers ∧ P peer := by
      intro base peer hgot
      cases hgot with
      | found _ hlook => exact ⟨h, h.lookup hlook⟩
      | created hlook io hevents hsize =>
        exact ⟨h.cons (rule.fresh ctx txData.peerKey), rule.fresh ctx txData.peerKey⟩
    cases hcases with
    | refused hlook session io hevents => exact h
    | full base peer hselect hfull => exact (hgot hselect).1
    | ready base peer hselect hcan hhello =>
      obtain ⟨hall, hpeer⟩ := hgot hselect
      exact transportSendPlanned_rule rule hall hpeer hcan txData data
    | greeted base peer hselect hcan hhello io hsent =>
      obtain ⟨hall, hpeer⟩ := hgot hselect
      have hgreeted := rule.session peer true peer.sessionEstablished peer.lastActiveMs hpeer
      exact @transportSendPlanned_rule env P _ rule (hall.put hgreeted) _ hgreeted hcan txData data
    | mute base peer hselect hhello err hne io hsent =>
      obtain ⟨hall, -⟩ := hgot hselect
      cases err with
      | ok => exact absurd rfl hne
      | _ => exact hall
  · rw [transportSendPlanned_unreliable]
    exact h

end Sending

variable (rule : PeerRule env P)
include rule

/-! ### Receiving -/

/-- A control packet finds or creates a peer, resets it or not, and sets its session. -/
theorem transportProcessControlPacket_rule (h : AllPeers P ctx.peers) (packet : Packet) :
    AllPeers P (transportProcessControlPacket env ctx packet).2.peers := by
  have hcases := transportProcessControlPacket_cases env ctx packet
  generalize transportProcessControlPacket env ctx packet = out at hcases ⊢
  obtain ⟨err, after⟩ := out
  dsimp only at hcases ⊢
  cases hcases with
  | refused session io hevents => exact h
  | established hsid peer hlook hsession now io hevents =>
    exact h.put (rule.session peer peer.helloSent true now (h.lookup hlook))
  | reset hsid peer hlook hreset now io hevents =>
    exact h.put (rule.reset peer _ now (h.lookup hlook))
  | created hsid hlook window hwindow manager now io peer hevents hpeer =>
    have hfresh := rule.fresh ctx packet.peerKey
    rcases hpeer with rfl | ⟨-, rfl⟩
    · exact h.cons (rule.reset _ _ now hfresh)
    · exact h.cons (rule.session _ _ true now hfresh)

/-- A data packet sets the session of its peer and moves its ordering state. -/
theorem transportReceiveData_rule (h : AllPeers P ctx.peers) (packet : Packet) (data : Bytes) :
    AllPeers P (transportReceiveData env ctx packet data).2.peers := by
  have hselected : ∀ {selected : TransportCtx} {peer : PeerState},
      RxSelected ctx packet selected peer → AllPeers P selected.peers ∧ P peer := by
    intro selected peer hsel
    cases hsel with
    | found found hlook hsession now io hevents =>
      have hpeer := rule.session found found.helloSent found.sessionEstablished now
        (h.lookup hlook)
      exact ⟨h.put hpeer, hpeer⟩
    | created hlook hsession now io hevents hsize =>
      have hpeer := rule.reset _ packet.sessionId now (rule.fresh ctx packet.peerKey)
      exact ⟨h.cons hpeer, hpeer⟩
    | createdBare hlook hsession io hevents hsize =>
      have hpeer := rule.fresh ctx packet.peerKey
      exact ⟨h.cons hpeer, hpeer⟩
  -- an ACK-eliciting packet goes through the ordering state
  by_cases hrel : packet.reliable = XGL_RELIABILITY_ACK_ELICITING
  · rcases transportReceiveData_cases env ctx packet data hrel with
      ⟨err, session, io, _, _, _, heq⟩ | ⟨selected, peer, hsel, _, heq⟩
    · rw [heq]
      exact h
    · obtain ⟨hall, hpeer⟩ := hselected hsel
      rw [heq, transportReceiveReliable_eq]
      dsimp only
      rw [rxReliable_peer]
      exact hall.put (rule.rx peer _ hpeer)
  · simp only [transportReceiveData]
    -- any other packet only selects its peer, when it has a scope
    rcases transportPrepareRxPeer_cases env ctx packet with
      ⟨err, session, io, peer, hne, _, heq⟩ | ⟨_, heq⟩ |
        ⟨prepared, peer, selected, touched, hsel, heq, htouch⟩
    · rw [heq]
      cases err with
      | ok => exact absurd rfl hne
      | _ => exact h
    · rw [heq]
      dsimp only
      rw [if_neg (by simp [hrel])]
      exact h
    · rw [heq]
      dsimp only
      rw [htouch, if_neg (by simp [hrel])]
      exact (hselected hsel).1

/-- A received packet; an acknowledgement brings its own premise. -/
theorem xglTransportReceive_rule (h : AllPeers P ctx.peers) (packet : Packet)
    (hack : ∀ peer, transportFindAckPeer ctx.peers packet = some peer →
      ackReaches packet peer = true → P peer → P (transportApplyAck env ctx peer packet).peer) :
    AllPeers P (xglTransportReceive env ctx packet).2.peers := by
  simp only [xglTransportReceive]
  split
  · exact transportProcessControlPacket_rule rule h packet
  split
  · rw [transportProcessAckPacket_peers]
    cases hfind : transportFindAckPeer ctx.peers packet with
    | none => exact h
    | some peer =>
      have hpeer := h peer (peerOf_mem (peerOf_of_transportFindAckPeer hfind))
      rw [Option.elim_some]
      split
      · rename_i hreaches
        exact h.put (hack peer hfind hreaches hpeer)
      · exact h
  split
  · exact h
  · exact transportReceiveData_rule rule h packet _

/-! ### Timers -/

/-- The timers send packets again and drop others, and reclaim idle peers. -/
theorem xglTransportRun_rule (h : AllPeers P ctx.peers) (now : UInt32) :
    AllPeers P (xglTransportRun env ctx now).peers := by
  have htimed : ∀ (peers : List PeerState) (io : TransportIo), AllPeers P peers →
      AllPeers P (transportProcessRetransmissions env ctx.config now peers io).1 := by
    intro peers
    induction peers with
    | nil => exact fun _ hnil => hnil
    | cons peer rest ih =>
      intro io hall
      have hrest : AllPeers P rest := fun other hother => hall other (List.mem_cons_of_mem _ hother)
      exact (ih _ hrest).cons (rule.timers ctx.config now io peer (hall peer List.mem_cons_self))
  have hreclaim : ∀ base : TransportCtx, AllPeers P base.peers →
      AllPeers P (transportReclaimIdlePeers base now).peers := by
    intro base hbase
    simp only [transportReclaimIdlePeers]
    split
    · exact hbase
    · exact fun peer hpeer => hbase peer (List.mem_of_mem_filter hpeer)
  refine hreclaim _ ?_
  rw [transportProcessFragmentTimeouts_peers]
  exact htimed ctx.peers ctx.io h

/-! ### Actions and runs -/

/-- One action keeps the property of all peers, when an acknowledgement does. -/
theorem transportStep_rule (h : AllPeers P ctx.peers) (action : TransportAction)
    (hack : ∀ packet peer, action = .receive packet →
      transportFindAckPeer ctx.peers packet = some peer → ackReaches packet peer = true → P peer →
        P (transportApplyAck env ctx peer packet).peer) :
    AllPeers P (transportStep env ctx action).peers := by
  cases action with
  | send txData => exact xglTransportSend_rule rule.toSendRule h txData
  | receive packet =>
    exact xglTransportReceive_rule rule h packet fun peer => hack packet peer rfl
  | run now => exact xglTransportRun_rule rule h now

/-- A run keeps the property of all peers, when every acknowledgement does. -/
theorem runActions_rule
    (hack : ∀ base peer packet, P peer → P (transportApplyAck env base peer packet).peer)
    (actions : List TransportAction) (h : AllPeers P ctx.peers) :
    AllPeers P (runActions env actions ctx).peers :=
  @foldl_invariant _ _ (transportStep env) (fun base => AllPeers P base.peers)
    (fun _ action hbase => transportStep_rule rule hbase action fun packet peer _ _ _ =>
      hack _ peer packet) actions ctx h

end Rule

end XgenLink
