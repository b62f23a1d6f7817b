import XgenLink.Proofs.ScopeIsolation

/-!
# `XgenLink.Proofs.ControlScope`: what a control packet can change

HELLO and RESET are meant for one scope: the peer with the source, connection and epoch of the
packet, and the reassembly buffers of that scope. Everything else should be as before, and a
packet that is rejected should change nothing at all.

The reassembly buffers that are dropped are those of the scope. But an unscoped packet selects
the first peer of its source, whatever scope that one has; a reset also resets the window of
the context, which all peers share; and a peer that could not be set up has already used a
session id.

* `ControlFrame`: nothing outside the scope changes, and nothing at all changes when the packet
  is rejected.
* `transportProcessControlPacket_eq`: what the source does, in one equation.
* `ControlConfined`: the condition, on the packet and the state it meets.
* `control_frame_iff`: a control packet keeps to its scope exactly when it is confined.
* `reset_leaves_scope`: two resets that do not.
-/

set_option autoImplicit false

namespace XgenLink

/-! ### The frame -/

/-- The scope of a reassembly buffer. -/
def ReassemblyBuffer.scope (buffer : ReassemblyBuffer) : Scope where
  peerId := buffer.sourceId
  connectionId := buffer.connectionId
  sessionEpoch := buffer.sessionEpoch

/-- The reassembly buffers of other scopes, in order. -/
def foreignBuffers (scope : Scope) (manager : Option FragmentManager) : List ReassemblyBuffer :=
  (manager.elim [] FragmentManager.reassemblyList).filter fun buffer => buffer.scope != scope

/-- Peers and buffers of other scopes and the window of the context are as before, and
a rejected packet has changed nothing. -/
structure ControlFrame (packet : Packet) (before : TransportCtx) (err : XglError)
    (after : TransportCtx) : Prop where
  peers : foreignPeers packet.scope after.peers = foreignPeers packet.scope before.peers
  buffers : foreignBuffers packet.scope after.fragmentMgr
    = foreignBuffers packet.scope before.fragmentMgr
  window : after.window = before.window
  rejected : err ≠ .ok → after = { before with io := after.io }

/-- Dropping the buffers of a scope does not show outside it. -/
theorem foreignBuffers_clear (scope : Scope) (manager : Option FragmentManager) :
    foreignBuffers scope (manager.map fun manager =>
        xglFragmentClearReassemblyScope manager scope.peerId scope.connectionId scope.sessionEpoch)
      = foreignBuffers scope manager := by
  cases manager with
  | none => rfl
  | some manager =>
    unfold foreignBuffers xglFragmentClearReassemblyScope fragmentFreeWhere
    dsimp only [Option.map, Option.elim]
    rw [List.filter_filter]
    refine List.filter_congr fun buffer _ => ?_
    rw [Bool.eq_iff_iff]
    obtain ⟨peerId, connectionId, sessionEpoch⟩ := scope
    simp [ReassemblyBuffer.scope]
    tauto

/-! ### The packet -/

/-- The checks a control packet passes before a peer is selected. -/
def controlReaches (packet : Packet) : Bool :=
  (packet.dataType == XGL_TRANSPORT_CONTROL_HELLO ||
      packet.dataType == XGL_TRANSPORT_CONTROL_RESET) &&
    packet.sessionId &&& XGL_SESSION_ID_MASK != 0

/-- The packet resets the peer. -/
def controlResets (packet : Packet) (peer : PeerState) : Bool :=
  packet.dataType == XGL_TRANSPORT_CONTROL_RESET ||
    peer.sessionId != packet.sessionId &&& XGL_SESSION_ID_MASK

/-- The peer as a control packet leaves it. -/
def controlledPeer (packet : Packet) (peer : PeerState) (now : UInt32) : PeerState :=
  if controlResets packet peer then
    resetPeer peer (packet.sessionId &&& XGL_SESSION_ID_MASK) now
  else { peer with sessionEstablished := true, lastActiveMs := now }

/-- The window of the context and the reassembly manager as a control packet leaves
them. -/
def controlledCtx (packet : Packet) (peer : PeerState) (ctx : TransportCtx) : TransportCtx :=
  if controlResets packet peer then
    { ctx with
      window := xglWindowReset ctx.window
      fragmentMgr := ctx.fragmentMgr.map fun manager =>
        xglFragmentClearReassemblyScope manager peer.peerId packet.connectionId
          packet.sessionEpoch }
  else ctx

/-- A control packet leaves the key of its peer. -/
@[simp] theorem controlledPeer_key (packet : Packet) (peer : PeerState) (now : UInt32) :
    (controlledPeer packet peer now).key = peer.key := by
  unfold controlledPeer
  split <;> rfl

/-- A control packet that is not rejected before a peer is selected. -/
theorem transportProcessControlPacket_eq (env : TransportEnv) (ctx : TransportCtx)
    {packet : Packet} (htype : packet.packetType = XGL_PACKET_TYPE_CONTROL) :
    transportProcessControlPacket env ctx packet
      = if controlReaches packet then
          match transportGetOrCreatePeer env ctx packet.peerKey with
          | (ctx, none) => (.noMemory, ctx)
          | (ctx, some peer) =>
            (.ok, { controlledCtx packet peer ctx with
              io := (xglTimeMs env ctx.io).2
              peers := putPeer (controlledPeer packet peer (xglTimeMs env ctx.io).1) ctx.peers })
        else (.invalidFrame, ctx) := by
  unfold transportProcessControlPacket controlReaches
  dsimp only
  rw [htype]
  -- the data type and the session id are checked before a peer is looked for
  by_cases hkind : packet.dataType = XGL_TRANSPORT_CONTROL_HELLO ∨
      packet.dataType = XGL_TRANSPORT_CONTROL_RESET
  swap
  · rw [not_or] at hkind
    rw [if_pos (by simp [hkind]), if_neg (by simp [hkind])]
  rw [if_neg (by rcases hkind with h | h <;> simp [h])]
  by_cases hsid : packet.sessionId &&& XGL_SESSION_ID_MASK = 0
  · rw [if_pos (by simp [hsid]), if_neg (by simp [hsid])]
  rw [if_neg (by simp [hsid]), if_pos (by rcases hkind with h | h <;> simp [h, hsid])]
  generalize transportGetOrCreatePeer env ctx packet.peerKey = got
  obtain ⟨selected, _ | peer⟩ := got
  · rfl
  · unfold controlledCtx controlledPeer controlResets
    dsimp only
    split
    · rfl
    · rfl

/-! ### Confinement -/

/-- The control packet keeps to its scope: it is rejected at once, or the peer it finds
is of its scope (or is as the packet leaves it), or a new peer is set up in full or
not at all; and it does not reset a window of the context that has moved. -/
def ControlConfined (env : TransportEnv) (ctx : TransportCtx) (packet : Packet) : Prop :=
  controlReaches packet = true →
    match lookupPeer ctx.peers packet.peerKey with
    | some peer =>
      (peer.scope = packet.scope ∨
          controlledPeer packet peer (xglTimeMs env ctx.io).1 = peer) ∧
        (controlResets packet peer = true → xglWindowReset ctx.window = ctx.window)
    | none =>
      env.allocOk ctx.io.allocCount = false ∨
        (ctx.window.windowSize ≠ 0 ∧ ctx.window.windowSize ≤ XGL_WINDOW_MAX_SIZE) ∧
          env.allocOk (ctx.io.allocCount + 1) = true ∧
          (controlResets packet (freshPeer ctx packet.peerKey) = true →
            xglWindowReset ctx.window = ctx.window)

/-- Giving out a session id moves the counter. -/
theorem followingSessionId_ne (session : UInt16) :
    followingSessionId (newSessionId session) ≠ session := by
  unfold followingSessionId newSessionId XGL_SESSION_ID_MASK
  intro h
  have hnat := congrArg UInt16.toNat h
  have hmask : ∀ n : UInt16, (n &&& 0x3F).toNat = n.toNat % 64 := fun n => by
    rw [UInt16.toNat_and]
    exact Nat.and_two_pow_sub_one_eq_mod n.toNat 6
  have hzero : ∀ n : UInt16, (n &&& 0x3F == 0) = decide (n.toNat % 64 = 0) := fun n => by
    rw [Bool.eq_iff_iff, beq_iff_eq, decide_eq_true_iff, ← UInt16.toNat_inj, hmask]
    rfl
  simp only [hzero, decide_eq_true_eq] at hnat
  have := session.toNat_lt
  split at hnat <;> split at hnat <;> simp [hmask, UInt16.toNat_add] at * <;> omega

section Frame

variable {env : TransportEnv} {ctx : TransportCtx} {packet : Packet} {peer : PeerState}

/-- The frame of an accepted packet, once the peer written shows outside the scope or
not. -/
theorem controlFrame_accepted_iff {before : TransportCtx} (hid : peer.peerId = packet.sourceId)
    (hwindow : ctx.window = before.window) (hmanager : ctx.fragmentMgr = before.fragmentMgr)
    (io : TransportIo) (peers : List PeerState) :
    ControlFrame packet before .ok
        { controlledCtx packet peer ctx with io := io, peers := peers } ↔
      foreignPeers packet.scope peers = foreignPeers packet.scope before.peers ∧
        (controlResets packet peer = true → xglWindowReset before.window = before.window) := by
  have hbuffers : foreignBuffers packet.scope (controlledCtx packet peer ctx).fragmentMgr
      = foreignBuffers packet.scope before.fragmentMgr := by
    unfold controlledCtx
    split
    · rw [← hmanager]
      dsimp only
      rw [hid]
      exact foreignBuffers_clear packet.scope ctx.fragmentMgr
    · rw [hmanager]
  -- the window is the one of before when the packet does not reset, or when it was new
  have hwindows : (controlledCtx packet peer ctx).window = before.window ↔
      (controlResets packet peer = true → xglWindowReset before.window = before.window) := by
    unfold controlledCtx
    split
    · rename_i hresets
      simp only [hwindow, hresets, forall_const]
    · rename_i hresets
      simp [hresets, hwindow]
  constructor
  · exact fun h => ⟨h.peers, hwindows.mp h.window⟩
  · rintro ⟨hpeers, hreset⟩
    exact ⟨hpeers, hbuffers, hwindows.mpr hreset, fun h => absurd rfl h⟩

end Frame

/-- A control packet changes nothing outside its scope, and nothing at all when it is
rejected, exactly when it is confined. -/
theorem control_frame_iff (env : TransportEnv) (ctx : TransportCtx) (packet : Packet)
    (htype : packet.packetType = XGL_PACKET_TYPE_CONTROL) :
    ControlFrame packet ctx (xglTransportReceive env ctx packet).1
        (xglTransportReceive env ctx packet).2 ↔
      ControlConfined env ctx packet := by
  unfold xglTransportReceive ControlConfined
  rw [if_pos (by simp [htype]), transportProcessControlPacket_eq env ctx htype]
  by_cases hreach : controlReaches packet = true
  swap
  · rw [if_neg hreach]
    exact ⟨fun _ h => absurd h hreach, fun _ => ⟨rfl, rfl, rfl, fun _ => rfl⟩⟩
  rw [if_pos hreach, forall_prop_of_true hreach]
  unfold transportGetOrCreatePeer
  cases hlook : lookupPeer ctx.peers packet.peerKey with
  -- the peer exists, and the frame holds when writing it back does not show
  | some peer =>
    dsimp only
    have hid : peer.peerId = packet.sourceId :=
      (peerId_of_lookupPeer hlook).trans packet.peerKey_peerId
    rw [controlFrame_accepted_iff hid rfl rfl,
      foreignPeers_putPeer_iff (by rw [controlledPeer_key]; exact peerOf_of_lookupPeer hlook)]
  | none =>
    dsimp only
    have hstruct : transportMalloc env ctx.io structSize
        = (env.allocOk ctx.io.allocCount,
          { ctx.io with allocCount := ctx.io.allocCount + 1 }) := rfl
    rw [hstruct]
    dsimp only
    -- without memory for the peer nothing has happened yet
    cases halloc : env.allocOk ctx.io.allocCount with
    | false => exact ⟨fun _ => .inl rfl, fun _ => ⟨rfl, rfl, rfl, fun _ => rfl⟩⟩
    | true =>
      -- from here on the session id is used up
      have hmoved : ∀ io, ¬ ControlFrame packet ctx .noMemory
          { ctx with
            nextSessionId := followingSessionId (newSessionId ctx.nextSessionId)
            io := io } := by
        intro io hframe
        have hsession := congrArg TransportCtx.nextSessionId (hframe.rejected (by simp))
        exact followingSessionId_ne ctx.nextSessionId hsession
      rw [if_neg (by simp)]
      by_cases hsize : ctx.window.windowSize ≠ 0 ∧ ctx.window.windowSize ≤ XGL_WINDOW_MAX_SIZE
      swap
      · rw [if_pos (by
          rw [Bool.or_eq_true, beq_iff_eq, decide_eq_true_iff, gt_iff_lt, ← UInt8.not_le]
          tauto)]
        refine ⟨fun h => absurd h (hmoved _), ?_⟩
        rintro (h | ⟨h, _⟩)
        · cases h
        · exact absurd h hsize
      rw [if_neg (by
        rw [Bool.or_eq_true, beq_iff_eq, decide_eq_true_iff, gt_iff_lt, ← UInt8.not_le]
        tauto)]
      have hflags : transportMalloc env { ctx.io with allocCount := ctx.io.allocCount + 1 }
          ctx.window.windowSize.toNat = (env.allocOk (ctx.io.allocCount + 1),
            { ctx.io with allocCount := ctx.io.allocCount + 1 + 1 }) := by
        unfold transportMalloc
        rw [if_neg]
        rw [beq_iff_eq, ← UInt8.toNat_zero, UInt8.toNat_inj]
        exact hsize.1
      rw [hflags]
      dsimp only
      -- the second allocation is the one of the window flags
      cases halloc2 : env.allocOk (ctx.io.allocCount + 1) with
      | false =>
        refine ⟨fun h => absurd h (hmoved _), ?_⟩
        rintro (h | ⟨_, h, _⟩)
        · cases h
        · cases h
      | true =>
        rw [if_neg (by simp)]
        dsimp only
        have hkey : (freshPeer ctx packet.peerKey).key = packet.peerKey := freshPeer_key ctx packet
        have hid : (freshPeer ctx packet.peerKey).peerId = packet.sourceId := packet.peerKey_peerId
        refine (controlFrame_accepted_iff hid ?_ ?_ _ _).trans
          ?_
        · rfl
        · rfl
        rw [putPeer_head (controlledPeer_key _ _ _).symm]
        have hown : foreignPeers packet.scope
            (controlledPeer packet (freshPeer ctx packet.peerKey)
              (xglTimeMs env { ctx.io with allocCount := ctx.io.allocCount + 1 + 1 }).1
                :: ctx.peers) = foreignPeers packet.scope ctx.peers := by
          refine foreignPeers_cons_own ?_ _
          unfold PeerState.scope
          rw [controlledPeer_key, hkey, Packet.peerKey_scope]
        simp [hown, hsize]

/-- A control packet of node 1 for node 2. -/
def sampleControl (kind : UInt8) (connectionId : UInt32) (sessionId : UInt16) : Packet where
  sourceId := 1
  targetId := 2
  sessionId := sessionId
  connectionId := connectionId
  packetType := XGL_PACKET_TYPE_CONTROL
  dataType := kind

/-- Node 1 after the ACK of its packet to node 2. -/
def ackedTransport : TransportCtx :=
  (xglTransportReceive calmEnv oneInFlight (rangeAck 0 1)).2

/-- A RESET of a node that was never heard of, on its connection 7. -/
def strangerReset : Packet :=
  { sampleControl XGL_TRANSPORT_CONTROL_RESET 7 7 with sourceId := 3 }

/-- A RESET that names no connection clears the receive state of connection 5, and a
RESET of node 3 moves the window of the context back behind an ACK of node 2. -/
theorem reset_leaves_scope :
    (scopedTransport.peers.map PeerState.scope
        = [{ peerId := 1, connectionId := 5, sessionEpoch := 0 }] ∧
      scopedTransport.peers.map PeerState.rxNextPacketNumber = [1] ∧
      (xglTransportReceive calmEnv scopedTransport
        (sampleControl XGL_TRANSPORT_CONTROL_RESET 0 3)).2.peers.map
          PeerState.rxNextPacketNumber = [0] ∧
      ¬ ControlFrame (sampleControl XGL_TRANSPORT_CONTROL_RESET 0 3) scopedTransport
        (xglTransportReceive calmEnv scopedTransport
          (sampleControl XGL_TRANSPORT_CONTROL_RESET 0 3)).1
        (xglTransportReceive calmEnv scopedTransport
          (sampleControl XGL_TRANSPORT_CONTROL_RESET 0 3)).2) ∧
    ackedTransport.window.sendBasePacketNumber = 1 ∧
      (xglTransportReceive calmEnv ackedTransport strangerReset).2.window.sendBasePacketNumber
        = 0 ∧
      ¬ ControlFrame strangerReset ackedTransport
        (xglTransportReceive calmEnv ackedTransport strangerReset).1
        (xglTransportReceive calmEnv ackedTransport strangerReset).2 := by
  refine ⟨⟨by decide +kernel, by decide +kernel, by decide +kernel, fun hframe => ?_⟩,
    by decide +kernel, by decide +kernel, fun hframe => ?_⟩
  · have hpeers := hframe.peers
    revert hpeers
    decide +kernel
  · have hwindow := hframe.window
    revert hwindow
    decide +kernel

/-- A HELLO of connection 5 with its session keeps to its scope. -/
theorem control_frame_hello :
    controlReaches (sampleControl XGL_TRANSPORT_CONTROL_HELLO 5 5) = true ∧
      ControlFrame (sampleControl XGL_TRANSPORT_CONTROL_HELLO 5 5) scopedTransport
        (xglTransportReceive calmEnv scopedTransport
          (sampleControl XGL_TRANSPORT_CONTROL_HELLO 5 5)).1
        (xglTransportReceive calmEnv scopedTransport
          (sampleControl XGL_TRANSPORT_CONTROL_HELLO 5 5)).2 := by
  refine ⟨by decide, (control_frame_iff calmEnv scopedTransport
    (sampleControl XGL_TRANSPORT_CONTROL_HELLO 5 5) rfl).mpr fun _ => ?_⟩
  have hfound : (lookupPeer scopedTransport.peers
      (sampleControl XGL_TRANSPORT_CONTROL_HELLO 5 5).peerKey).map
        (fun peer => (peer.scope, controlResets (sampleControl XGL_TRANSPORT_CONTROL_HELLO 5 5)
          peer)) = some ((sampleControl XGL_TRANSPORT_CONTROL_HELLO 5 5).scope, false) := by
    decide +kernel
  obtain ⟨peer, hlook, hpeer⟩ := Option.map_eq_some_iff.mp hfound
  rw [hlook]
  obtain ⟨hscope, hresets⟩ := Prod.ext_iff.mp hpeer
  refine ⟨.inl hscope, fun h => ?_⟩
  rw [show controlResets _ peer = false from hresets] at h
  cases h

end XgenLink
