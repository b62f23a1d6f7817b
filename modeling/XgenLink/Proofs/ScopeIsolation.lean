import XgenLink.Proofs.IdlePackets

/-!
# `XgenLink.Proofs.ScopeIsolation`: which peers a received packet can change

A packet belongs to the scope (source, connection, epoch), and a peer of the transport has a key of
the same three. The queue, the window and the next number of a scope are those of its peer, so a
packet of one scope should leave the peers of all others as they are.

A scoped lookup finds only a peer of that scope, but an unscoped lookup finds the first peer of the
source whatever its scope, and a scoped ACK falls back to it. So a peer of another scope is
changed exactly when it is the one selected and the packet has something to say to it. The packets
that have nothing to say, whatever allocator, clock and lower layers do, are those of
`XgenLink.Proofs.IdlePackets`, and those that are refused.

* `Scope`, `foreignPeers`: scopes, and the peers outside one.
* `foreignPeers_putPeer_iff`: when a write-back shows outside the scope.
* `Spares`: the packet leaves the peer it selects as it is.
* `transportReceiveData_isolation_iff`: data packets.
* `scope_isolation_iff`: when a packet leaves every other scope alone.
* `bare_data_moves_connection`: an unscoped packet that moves the next number of a connection.
-/

set_option autoImplicit false

namespace XgenLink

/-! ### Scopes -/

/-- The scope of a peer state or packet. -/
structure Scope where
  peerId : UInt16
  connectionId : UInt32
  sessionEpoch : UInt32
  deriving DecidableEq, Repr

/-- The scope a key stands for; an unscoped peer has connection and epoch zero. -/
def PeerKey.scope (key : PeerKey) : Scope where
  peerId := key.peerId
  connectionId := if key.hasConnectionScope then key.connectionId else 0
  sessionEpoch := if key.hasConnectionScope then key.sessionEpoch else 0

/-- The scope of a peer state. -/
def PeerState.scope (peer : PeerState) : Scope :=
  peer.key.scope

/-- The scope of a received packet. -/
def Packet.scope (packet : Packet) : Scope where
  peerId := packet.sourceId
  connectionId := packet.connectionId
  sessionEpoch := packet.sessionEpoch

/-- The peer states of other scopes, in order. -/
def foreignPeers (scope : Scope) (peers : List PeerState) : List PeerState :=
  peers.filter fun peer => peer.scope != scope

/-- A packet selects the key of its own scope. -/
theorem Packet.peerKey_scope (packet : Packet) : packet.peerKey.scope = packet.scope := by
  unfold Packet.peerKey Packet.scoped
  split
  · rfl
  · rename_i h
    simp only [Bool.or_eq_true, bne_iff_ne, not_or, not_not] at h
    simp [PeerKey.scope, unscopedKey, Packet.scope, h]

/-- A new peer of the scope does not show outside it. -/
theorem foreignPeers_cons_own {scope : Scope} {peer : PeerState} (h : peer.scope = scope)
    (peers : List PeerState) : foreignPeers scope (peer :: peers) = foreignPeers scope peers := by
  unfold foreignPeers
  rw [List.filter_cons, if_neg (by simp [h])]

/-- A write-back shows outside the scope exactly when the peer is of another scope
and has changed. -/
theorem foreignPeers_putPeer_iff {scope : Scope} {peers : List PeerState} {peer old : PeerState}
    (h : peerOf peers peer.key = some old) :
    foreignPeers scope (putPeer peer peers) = foreignPeers scope peers ↔
      old.scope = scope ∨ peer = old := by
  have hkey : old.key = peer.key := peerOf_key h
  have hscope : peer.scope = old.scope := by
    unfold PeerState.scope
    rw [hkey]
  unfold peerOf at h
  unfold foreignPeers
  induction peers with
  | nil => cases h
  | cons first rest ih =>
    unfold putPeer
    rw [List.find?_cons] at h
    cases hfirst : first.key == peer.key with
    | true =>
      rw [hfirst] at h
      cases h
      rw [if_pos rfl, List.filter_cons, List.filter_cons, hscope]
      by_cases hown : old.scope = scope
      · simp [hown]
      · rw [if_pos (by simp [hown]), if_pos (by simp [hown])]
        simp [hown]
    | false =>
      rw [hfirst] at h
      rw [if_neg (by simp), List.filter_cons, List.filter_cons]
      split
      · rw [List.cons_inj_right]
        exact ih h
      · exact ih h

/-! ### Data packets -/

section Found

variable (env : TransportEnv) {ctx : TransportCtx} {packet : Packet} (data : Bytes)
  {peer : PeerState}

/-- A data packet without a session is only ordered. -/
theorem transportReceiveData_bare (hlook : lookupPeer ctx.peers packet.peerKey = some peer)
    (hsession : packet.sessionId = 0) :
    (transportReceiveData env ctx packet data).2.peers
      = if packet.reliable = XGL_RELIABILITY_ACK_ELICITING then
          putPeer (rxReliable env ctx.config ctx.fragmentMgr ctx.io peer packet data).2.2.2
            ctx.peers
        else ctx.peers := by
  have hget : transportGetOrCreatePeer env ctx packet.peerKey = (ctx, some peer) := by
    unfold transportGetOrCreatePeer
    rw [hlook]
  unfold transportReceiveData transportPrepareRxPeer
  rw [if_pos (by simp [hsession])]
  dsimp only [transportTouchPeer, transportOrderPeer]
  by_cases hrel : packet.reliable = XGL_RELIABILITY_ACK_ELICITING
  · rw [if_pos (by simp [hrel]), if_pos hrel, hget]
    dsimp only
    rw [transportReceiveReliable_eq]
  · rw [if_neg (by simp [hrel]), if_neg hrel]
    rfl

/-- A data packet of the session of the peer counts as activity. -/
theorem transportReceiveData_active (hlook : lookupPeer ctx.peers packet.peerKey = some peer)
    (hsession : packet.sessionId ≠ 0) (hsame : packet.sessionId = peer.sessionId) :
    ∃ after : PeerState, after.key = peer.key ∧ after.lastActiveMs = (xglTimeMs env ctx.io).1 ∧
      (transportReceiveData env ctx packet data).2.peers = putPeer after ctx.peers := by
  unfold transportReceiveData transportPrepareRxPeer
  rw [if_neg (by simp [hsession]), hlook]
  dsimp only
  rw [if_neg (by simp [hsame])]
  dsimp only [transportTouchPeer, transportOrderPeer, TransportCtx.put]
  by_cases hrel : packet.reliable = XGL_RELIABILITY_ACK_ELICITING
  · rw [if_pos (by simp [hrel]), transportReceiveReliable_eq]
    dsimp only
    rw [putPeer_putPeer (rxReliable_key _ _ _ _ _ _ _).symm]
    refine ⟨(rxReliable env ctx.config ctx.fragmentMgr (xglTimeMs env ctx.io).2
      { peer with lastActiveMs := (xglTimeMs env ctx.io).1 } packet data).2.2.2,
      rxReliable_key _ _ _ _ _ _ _, ?_, rfl⟩
    rw [rxReliable_peer]
    rfl
  · rw [if_neg (by simp [hrel])]
    exact ⟨{ peer with lastActiveMs := (xglTimeMs env ctx.io).1 }, rfl, rfl, rfl⟩

/-- A data packet of another session is refused. -/
theorem transportReceiveData_refused (hlook : lookupPeer ctx.peers packet.peerKey = some peer)
    (hsession : packet.sessionId ≠ 0) (hother : packet.sessionId ≠ peer.sessionId) :
    (transportReceiveData env ctx packet data).2.peers = ctx.peers := by
  unfold transportReceiveData transportPrepareRxPeer
  rw [if_neg (by simp [hsession]), hlook]
  dsimp only
  rw [if_pos (by simp [hother])]

end Found

/-- A data packet that finds no peer does not show outside its scope. -/
theorem transportReceiveData_none (env : TransportEnv) {ctx : TransportCtx} {packet : Packet}
    (data : Bytes) (hlook : lookupPeer ctx.peers packet.peerKey = none) :
    foreignPeers packet.scope (transportReceiveData env ctx packet data).2.peers
      = foreignPeers packet.scope ctx.peers := by
  have hfresh : (freshPeer ctx packet.peerKey).key = packet.peerKey := freshPeer_key ctx packet
  have hown : ∀ peer : PeerState, peer.key = packet.peerKey → peer.scope = packet.scope := by
    intro peer hkey
    unfold PeerState.scope
    rw [hkey, Packet.peerKey_scope]
  -- without a peer a reliable packet gets a new one, and any other is delivered
  by_cases hrel : packet.reliable = XGL_RELIABILITY_ACK_ELICITING
  · rcases transportReceiveData_cases env ctx packet data hrel with
      ⟨err, session, io, _, _, _, heq⟩ | ⟨selected, peer, hsel, _, heq⟩
    · rw [heq]
    · rw [heq, transportReceiveReliable_eq]
      have hkey := rxReliable_key env selected.config selected.fragmentMgr selected.io peer packet
        data
      dsimp only
      cases hsel with
      | found old hfound => rw [hlook] at hfound; cases hfound
      | created _ hsession now io hevents =>
        rw [putPeer_head hkey.symm]
        exact foreignPeers_cons_own (hown _ (hkey.trans hfresh)) _
      | createdBare _ hsession io hevents =>
        rw [putPeer_head hkey.symm]
        exact foreignPeers_cons_own (hown _ (hkey.trans hfresh)) _
  · unfold transportReceiveData
    rcases transportPrepareRxPeer_cases env ctx packet with
      ⟨err, session, io, peer, hne, _, heq⟩ | ⟨hsession, heq⟩ |
        ⟨prepared, peer, selected, touched, hsel, heq, htouch⟩
    · rw [heq]
      cases err with
      | ok => exact absurd rfl hne
      | _ => rfl
    · rw [heq]
      dsimp only [transportTouchPeer]
      rw [if_neg (by simp [hrel])]
      rfl
    · rw [heq]
      dsimp only
      rw [htouch, if_neg (by simp [hrel])]
      cases hsel with
      | found old hfound => rw [hlook] at hfound; cases hfound
      | created _ hsession now io hevents =>
        exact foreignPeers_cons_own
          (hown (resetPeer (freshPeer ctx packet.peerKey) packet.sessionId now) hfresh) _
      | createdBare _ hsession io hevents =>
        exact foreignPeers_cons_own (hown _ hfresh) _

/-! ### Isolation -/

/-- The packet is an acknowledgement for the dispatch of `xgl_transport_receive`. -/
def Packet.isAck (packet : Packet) : Bool :=
  packet.packetType == XGL_PACKET_TYPE_ACK || packet.reliable == XGL_RELIABILITY_ACK_ONLY

/-- The peer a packet that is no control packet selects. -/
def rxTarget (peers : List PeerState) (packet : Packet) : Option PeerState :=
  if packet.isAck then transportFindAckPeer peers packet else lookupPeer peers packet.peerKey

/-- The packet leaves the peer it selects as it is, whatever the outside does: an ACK
that is refused or has nothing to say, a data packet without payload, one of another
session, or one without a session that is unreliable or changes no ordering state. -/
def Spares (ctx : TransportCtx) (packet : Packet) (peer : PeerState) : Prop :=
  if packet.isAck then ackReaches packet peer = true → AckIdle ctx.config peer packet
  else
    ∀ data, packet.payload? = some data →
      if packet.sessionId = 0 then
        packet.reliable = XGL_RELIABILITY_ACK_ELICITING → OrderIdle ctx peer packet data
      else packet.sessionId ≠ peer.sessionId

/-- A clock that shows another time than a given one. -/
def clockOff (time : UInt32) : TransportEnv :=
  { calmEnv with clock := fun _ => time + 1 }

/-- The two clocks differ. -/
theorem clockOff_ne (time : UInt32) (io : TransportIo) :
    (xglTimeMs (clockOff time) io).1 ≠ time := by
  intro h
  have hnat := congrArg UInt32.toNat h
  have := time.toNat_lt
  simp only [xglTimeMs, clockOff, UInt32.toNat_add, UInt32.toNat_one] at hnat
  omega

/-- A data packet leaves the peers of other scopes alone, whatever the outside does,
exactly when the peer it finds is of its scope or is spared. -/
theorem transportReceiveData_isolation_iff {ctx : TransportCtx} {packet : Packet} {data : Bytes}
    {peer : PeerState} (hack : packet.isAck = false) (hdata : packet.payload? = some data)
    (hlook : lookupPeer ctx.peers packet.peerKey = some peer) :
    (∀ env, foreignPeers packet.scope (transportReceiveData env ctx packet data).2.peers
        = foreignPeers packet.scope ctx.peers) ↔
      peer.scope = packet.scope ∨ Spares ctx packet peer := by
  have hentry := peerOf_of_lookupPeer hlook
  have hput : ∀ after : PeerState, after.key = peer.key →
      (foreignPeers packet.scope (putPeer after ctx.peers) = foreignPeers packet.scope ctx.peers ↔
        peer.scope = packet.scope ∨ after = peer) := by
    intro after hkey
    exact foreignPeers_putPeer_iff (by rw [hkey]; exact hentry)
  have hspares : Spares ctx packet peer ↔
      if packet.sessionId = 0 then
        packet.reliable = XGL_RELIABILITY_ACK_ELICITING → OrderIdle ctx peer packet data
      else packet.sessionId ≠ peer.sessionId := by
    unfold Spares
    rw [if_neg (by simp [hack])]
    exact ⟨fun h => h data hdata, fun h other hother => by
      rw [hdata] at hother
      cases hother
      exact h⟩
  rw [hspares]
  -- a packet without a session is only ordered, on the peer it finds
  by_cases hzero : packet.sessionId = 0
  · simp only [transportReceiveData_bare _ data hlook hzero]
    rw [if_pos hzero]
    by_cases hrel : packet.reliable = XGL_RELIABILITY_ACK_ELICITING
    · simp only [if_pos hrel, hput _ (rxReliable_key _ _ _ _ _ _ _), forall_or_left,
        rxReliable_idle_iff hdata, forall_prop_of_true hrel]
    · simp [hrel]
  · rw [if_neg hzero]
    -- the peer has the session of the packet, or the packet is refused
    by_cases hsame : packet.sessionId = peer.sessionId
    · constructor
      · -- the activity of the peer shows when the clock has moved
        intro h
        obtain ⟨after, hkey, hactive, hpeers⟩ := transportReceiveData_active
          (clockOff peer.lastActiveMs) data hlook hzero hsame
        have hoff := h (clockOff peer.lastActiveMs)
        rw [hpeers, hput _ hkey] at hoff
        refine .inl (hoff.resolve_right fun hpeer => ?_)
        rw [hpeer] at hactive
        exact clockOff_ne _ _ hactive.symm
      · intro hown env
        obtain ⟨after, hkey, _, hpeers⟩ := transportReceiveData_active env data hlook hzero hsame
        rw [hpeers]
        exact (hput after hkey).mpr (.inl (hown.resolve_right fun hne => hne hsame))
    · exact ⟨fun _ => .inr hsame, fun _ env => by
        rw [transportReceiveData_refused env data hlook hzero hsame]⟩

/-- A received packet that is no control packet leaves every peer state of another
scope as it is, whatever the outside does, exactly when the peer it selects is of
its own scope or is spared. -/
theorem scope_isolation_iff (ctx : TransportCtx) (packet : Packet)
    (htype : packet.packetType ≠ XGL_PACKET_TYPE_CONTROL) :
    (∀ env, foreignPeers packet.scope (xglTransportReceive env ctx packet).2.peers
        = foreignPeers packet.scope ctx.peers) ↔
      ∀ peer, rxTarget ctx.peers packet = some peer →
        peer.scope = packet.scope ∨ Spares ctx packet peer := by
  unfold xglTransportReceive rxTarget
  simp only [show (packet.packetType == XGL_PACKET_TYPE_CONTROL) = false by simpa using htype,
    Bool.false_eq_true, if_false]
  -- an acknowledgement goes to the peer it finds
  cases hack : packet.isAck with
  | true =>
    have hdispatch : (packet.packetType == XGL_PACKET_TYPE_ACK ||
        packet.reliable == XGL_RELIABILITY_ACK_ONLY) = true := hack
    simp only [hdispatch, if_true, transportProcessAckPacket_peers]
    cases hfind : transportFindAckPeer ctx.peers packet with
    | none => simp
    | some peer =>
      have hentry := peerOf_of_transportFindAckPeer hfind
      have hspares : Spares ctx packet peer ↔
          (ackReaches packet peer = true → AckIdle ctx.config peer packet) := by
        unfold Spares
        rw [if_pos hack]
      simp only [Option.elim, Option.some.injEq, forall_eq', hspares]
      by_cases hreach : ackReaches packet peer = true
      · have hput : ∀ env, foreignPeers packet.scope
            (putPeer (transportApplyAck env ctx peer packet).peer ctx.peers)
              = foreignPeers packet.scope ctx.peers ↔
            peer.scope = packet.scope ∨ (transportApplyAck env ctx peer packet).peer = peer :=
          fun env => foreignPeers_putPeer_iff
          (by rw [transportApplyAck_key]; exact hentry)
        simp only [if_pos hreach, hput, forall_or_left, transportApplyAck_idle_iff,
          forall_prop_of_true hreach]
      · simp [hreach]
  | false =>
    have hdispatch : (packet.packetType == XGL_PACKET_TYPE_ACK ||
        packet.reliable == XGL_RELIABILITY_ACK_ONLY) = false := hack
    simp only [hdispatch, Bool.false_eq_true, if_false]
    -- any other packet is data, when it has a payload
    cases hdata : packet.payload? with
    | none =>
      refine ⟨fun _ peer _ => .inr ?_, fun _ _ => rfl⟩
      unfold Spares
      rw [if_neg (by simp [hack])]
      intro data hsome
      rw [hdata] at hsome
      cases hsome
    | some data =>
      dsimp only
      cases hlook : lookupPeer ctx.peers packet.peerKey with
      | none => simp [transportReceiveData_none _ data hlook]
      | some peer =>
        simp only [transportReceiveData_isolation_iff hack hdata hlook, Option.some.injEq,
          forall_eq']

/-- Node 2 after the first packet of node 1 on connection 5. -/
def scopedTransport : TransportCtx :=
  (xglTransportReceive calmEnv sampleTransport (sampleData 0 [7])).2

/-- A data packet of node 1 that names no connection. -/
def bareData (number : UInt32) (payload : Bytes) : Packet :=
  { sampleData number payload with
    sessionId := 0
    connectionId := 0 }

/-- An unscoped packet is delivered in the order of connection 5 and moves its next
number. -/
theorem bare_data_moves_connection :
    (bareData 1 [8]).scope = { peerId := 1, connectionId := 0, sessionEpoch := 0 } ∧
      scopedTransport.peers.map PeerState.scope
        = [{ peerId := 1, connectionId := 5, sessionEpoch := 0 }] ∧
      scopedTransport.peers.map PeerState.rxNextPacketNumber = [1] ∧
      (xglTransportReceive calmEnv scopedTransport (bareData 1 [8])).2.peers.map
        PeerState.rxNextPacketNumber = [2] ∧
      foreignPeers (bareData 1 [8]).scope
          (xglTransportReceive calmEnv scopedTransport (bareData 1 [8])).2.peers
        ≠ foreignPeers (bareData 1 [8]).scope scopedTransport.peers := by
  decide +kernel

/-- The next packet of connection 5 itself leaves every other scope alone. -/
theorem scope_isolation_connection :
    (rxTarget scopedTransport.peers (sampleData 1 [8])).map PeerState.scope
        = some (sampleData 1 [8]).scope ∧
      ∀ env, foreignPeers (sampleData 1 [8]).scope
          (xglTransportReceive env scopedTransport (sampleData 1 [8])).2.peers
        = foreignPeers (sampleData 1 [8]).scope scopedTransport.peers := by
  have htarget : (rxTarget scopedTransport.peers (sampleData 1 [8])).map PeerState.scope
      = some (sampleData 1 [8]).scope := by decide +kernel
  refine ⟨htarget, (scope_isolation_iff scopedTransport (sampleData 1 [8]) (by decide)).mpr ?_⟩
  intro peer hpeer
  rw [hpeer] at htarget
  exact .inl (Option.some.inj htarget)

end XgenLink
