import XgenLink.Transport.Fragment
import XgenLink.Transport.Reliable
import XgenLink.Transport.Window

/-!
# `XgenLink.Transport.Peer`: transport context and peer states

The peer list of `xgl_transport_peer.c`. A pointer to a peer is modelled by a copy of its state
that the caller writes back with `putPeer`: every lookup returns the first entry with its key, the
key never changes, and nothing else looks at the list while a function holds such a pointer.

A peer is scoped, by peer id, connection and epoch, or it is the unscoped peer of its id. There are
two lookups. The scoped one compares all of the key; the unscoped one takes the first peer with the
id, scoped or not. A peer that is not found is created at the head of the list, with the next
session id of the context.

* `peerOf_putPeer`, `transportFindPeer_putPeer`: lookups after a write-back.
* `peerOf_of_lookupPeer`: whatever lookup found a peer, it is the entry of its key.
* `transportGetOrCreatePeer_cases`: what selecting a peer can do.
-/

set_option autoImplicit false

namespace XgenLink

/-! ### Configuration and state -/

/-- `xgl_codec_kind_t`. -/
inductive CodecKind where
  | compression
  | encryption
  deriving DecidableEq, Repr

/-- `xgl_codec_t`; the callbacks get the input and the room for the output. -/
structure Codec where
  id : UInt8
  kind : CodecKind
  encode : Bytes → Nat → Except XglError Bytes
  decode : Bytes → Nat → Except XglError Bytes

/-- `xgl_codec_find`; an absent registry has no codecs. -/
def xglCodecFind (registry : List Codec) (kind : CodecKind) (id : UInt8) : Option Codec :=
  registry.find? fun codec => codec.kind == kind && codec.id == id

/-- The constant part of `xgl_transport_ctx_t`; callbacks and the layer below are
flags that say whether they are registered. -/
structure TransportConfig where
  localId : UInt16
  maxRetryCount : UInt8 := 3
  defaultTimeoutMs : UInt32 := 1000
  windowSize : UInt8 := 8
  enableFragmentation : Bool := false
  maxFrameSize : UInt16 := 256
  authTagLen : UInt8 := 0
  routeTable : Option RouteTable := none
  lowerLayer : Bool := true
  rxCallback : Bool := true
  errorCallback : Bool := false
  peerIdleTimeoutMs : UInt32 := 0
  maxReassemblySlots : UInt8 := 0
  codecRegistry : List Codec := []

/-- `xgl_transport_peer_state_t`. A buffered packet owns copies of its payload and
extensions, so it is the packet itself. -/
structure PeerState where
  peerId : UInt16
  hasConnectionScope : Bool
  connectionId : UInt32
  sessionEpoch : UInt32
  sessionId : UInt16
  helloSent : Bool := false
  sessionEstablished : Bool := false
  txWindow : SlidingWindow
  reliableQueue : ReliableQueue
  rttEst : RttEstimator := {}
  lastActiveMs : UInt32 := 0
  rxNextPacketNumber : UInt32 := 0
  rxHasPacketNumberState : Bool := false
  rxBuffered : List Packet := []
  rxBufferedCount : UInt8 := 0
  earliestDeadlineMs : UInt32 := 0
  deriving DecidableEq, Repr

/-- `xgl_transport_ctx_t` with the calls it has made. -/
structure TransportCtx where
  config : TransportConfig
  nextSessionId : UInt16
  rttEst : RttEstimator := {}
  window : SlidingWindow
  fragmentMgr : Option FragmentManager := none
  peers : List PeerState := []
  io : TransportIo := {}

/-- `xgl_transport_init` over an allocator that serves it. -/
def xglTransportInit (config : TransportConfig) : Except XglError TransportCtx :=
  if config.windowSize == 0 || config.windowSize > XGL_WINDOW_MAX_SIZE then .error .invalidParam
  else
    let masked := config.localId &&& XGL_SESSION_ID_MASK
    .ok { config := config
          nextSessionId := if masked == 0 then 1 else masked
          window := freshWindow config.windowSize
          fragmentMgr :=
            if config.enableFragmentation then
              some { maxReassemblyBuffers :=
                       if config.maxReassemblySlots > 0 then config.maxReassemblySlots.toNat else 8
                     reassemblyTimeoutMs := XGL_FRAGMENT_TIMEOUT_MS }
            else none }

/-- A context starts with no peer and no event. -/
theorem xglTransportInit_fresh {config : TransportConfig} {ctx : TransportCtx}
    (hinit : xglTransportInit config = .ok ctx) :
    ctx.peers = [] ∧ ctx.io.events = [] ∧ ctx.config = config := by
  simp only [xglTransportInit] at hinit
  split at hinit
  · cases hinit
  · cases hinit
    exact ⟨rfl, rfl, rfl⟩

/-! ### Lookups -/

/-- What identifies a peer state. -/
structure PeerKey where
  peerId : UInt16
  hasConnectionScope : Bool
  connectionId : UInt32
  sessionEpoch : UInt32
  deriving DecidableEq, Repr

/-- The key of a peer state. -/
def PeerState.key (peer : PeerState) : PeerKey where
  peerId := peer.peerId
  hasConnectionScope := peer.hasConnectionScope
  connectionId := peer.connectionId
  sessionEpoch := peer.sessionEpoch

/-- The key of a scoped peer. -/
def scopedKey (peerId : UInt16) (connectionId sessionEpoch : UInt32) : PeerKey where
  peerId := peerId
  hasConnectionScope := true
  connectionId := connectionId
  sessionEpoch := sessionEpoch

/-- The key of an unscoped peer. -/
def unscopedKey (peerId : UInt16) : PeerKey where
  peerId := peerId
  hasConnectionScope := false
  connectionId := 0
  sessionEpoch := 0

/-- `transport_find_peer`. -/
def transportFindPeer (peers : List PeerState) (peerId : UInt16) : Option PeerState :=
  peers.find? fun peer => peer.peerId == peerId

/-- `transport_find_peer_scope`. -/
def transportFindPeerScope (peers : List PeerState) (peerId : UInt16)
    (connectionId sessionEpoch : UInt32) : Option PeerState :=
  peers.find? fun peer => peer.peerId == peerId && peer.hasConnectionScope &&
    peer.connectionId == connectionId && peer.sessionEpoch == sessionEpoch

/-- Writing a peer state back through its pointer. -/
def putPeer (peer : PeerState) : List PeerState → List PeerState
  | [] => []
  | first :: rest => if first.key == peer.key then peer :: rest else first :: putPeer peer rest

/-- Writing a peer state back into a context. -/
def TransportCtx.put (ctx : TransportCtx) (peer : PeerState) : TransportCtx :=
  { ctx with peers := putPeer peer ctx.peers }

/-! ### Selecting a peer -/

/-- The session id a new peer gets. -/
def newSessionId (nextSessionId : UInt16) : UInt16 :=
  if nextSessionId &&& XGL_SESSION_ID_MASK == 0 then 1 else nextSessionId &&& XGL_SESSION_ID_MASK

/-- `next_session_id` after a peer was given `sessionId`. -/
def followingSessionId (sessionId : UInt16) : UInt16 :=
  if (sessionId + 1) &&& XGL_SESSION_ID_MASK == 0 then 1
  else (sessionId + 1) &&& XGL_SESSION_ID_MASK

/-- The state `transport_get_or_create_peer_internal` sets up for a key. -/
def freshPeer (ctx : TransportCtx) (key : PeerKey) : PeerState where
  peerId := key.peerId
  hasConnectionScope := key.hasConnectionScope
  connectionId := if key.hasConnectionScope then key.connectionId else 0
  sessionEpoch := if key.hasConnectionScope then key.sessionEpoch else 0
  sessionId := newSessionId ctx.nextSessionId
  txWindow := freshWindow ctx.window.windowSize
  reliableQueue := { maxRetryCount := ctx.config.maxRetryCount }

/-- The lookup `transport_get_or_create_peer_internal` makes for a key. -/
def lookupPeer (peers : List PeerState) (key : PeerKey) : Option PeerState :=
  if key.hasConnectionScope then
    transportFindPeerScope peers key.peerId key.connectionId key.sessionEpoch
  else transportFindPeer peers key.peerId

/-- `transport_get_or_create_peer_internal`. The session id counter moves even
when the window's flags cannot be allocated. -/
def transportGetOrCreatePeer (env : TransportEnv) (ctx : TransportCtx) (key : PeerKey) :
    TransportCtx × Option PeerState :=
  match lookupPeer ctx.peers key with
  | some peer => (ctx, some peer)
  | none =>
    -- at first the peer itself
    let struct := transportMalloc env ctx.io structSize
    if !struct.1 then ({ ctx with io := struct.2 }, none)
    else
      let peer := freshPeer ctx key
      -- from here on the counter has moved, whatever comes of the peer
      let ctx := { ctx with nextSessionId := followingSessionId peer.sessionId, io := struct.2 }
      -- `xgl_window_init_with_allocator` refuses the size
      if ctx.window.windowSize == 0 || ctx.window.windowSize > XGL_WINDOW_MAX_SIZE then (ctx, none)
      else
        -- then the flags of its window
        let flags := transportMalloc env ctx.io ctx.window.windowSize.toNat
        if !flags.1 then ({ ctx with io := flags.2 }, none)
        else ({ ctx with io := flags.2, peers := peer :: ctx.peers }, some peer)

/-- The key a received packet selects. -/
def Packet.peerKey (packet : Packet) : PeerKey :=
  if packet.scoped then
    scopedKey packet.sourceId packet.connectionId packet.sessionEpoch
  else unscopedKey packet.sourceId

/-- The key a send request selects. -/
def TxData.peerKey (txData : TxData) : PeerKey :=
  if txData.connectionId != 0 || txData.sessionEpoch != 0 then
    scopedKey txData.targetId txData.connectionId txData.sessionEpoch
  else unscopedKey txData.targetId

/-! ### Resetting, deadlines and reclaim -/

/-- The fields `transport_reset_peer_state` writes in the peer. -/
def resetPeer (peer : PeerState) (sessionId : UInt16) (now : UInt32) : PeerState :=
  { peer with
    sessionId := sessionId &&& XGL_SESSION_ID_MASK
    helloSent := false
    sessionEstablished := true
    reliableQueue := xglReliableClear peer.reliableQueue
    txWindow := xglWindowReset peer.txWindow
    rttEst := {}
    rxNextPacketNumber := 0
    rxHasPacketNumberState := false
    rxBuffered := []
    rxBufferedCount := 0
    lastActiveMs := now }

/-- `transport_reset_peer_state`. It also resets the window of the context and
drops the reassembly buffers of the scope. -/
def transportResetPeerState (env : TransportEnv) (ctx : TransportCtx) (peer : PeerState)
    (sessionId : UInt16) (connectionId sessionEpoch : UInt32) : TransportCtx × PeerState :=
  let now := xglTimeMs env ctx.io
  ({ ctx with
      window := xglWindowReset ctx.window
      fragmentMgr := ctx.fragmentMgr.map fun manager =>
        xglFragmentClearReassemblyScope manager peer.peerId connectionId sessionEpoch
      io := now.2 },
    resetPeer peer sessionId now.1)

/-- One packet of the loop of `transport_update_peer_deadline`. -/
def earlierDeadline (deadline : UInt32) (packet : ReliablePacket) : UInt32 :=
  if packet.sendTimestamp != 0 && packet.timeoutMs > 0 then
    let absDeadline := packet.sendTimestamp + packet.timeoutMs.toUInt32
    if deadline == 0 || (absDeadline - deadline).toInt32 < 0 then absDeadline else deadline
  else deadline

/-- `transport_update_peer_deadline`. -/
def transportUpdatePeerDeadline (peer : PeerState) : PeerState :=
  { peer with
    earliestDeadlineMs := peer.reliableQueue.waitAckList.foldl earlierDeadline 0 }

/-- Whether `transport_reclaim_idle_peers` drops the peer. -/
def PeerState.reclaimable (peer : PeerState) (idleTimeoutMs currentTimeMs : UInt32) : Bool :=
  xglReliableIsEmpty peer.reliableQueue && peer.rxBuffered.isEmpty &&
    currentTimeMs - peer.lastActiveMs ≥ idleTimeoutMs

/-- `transport_reclaim_idle_peers`. -/
def transportReclaimIdlePeers (ctx : TransportCtx) (currentTimeMs : UInt32) : TransportCtx :=
  if ctx.config.peerIdleTimeoutMs == 0 then ctx
  else
    { ctx with
      peers := ctx.peers.filter fun peer =>
        !peer.reclaimable ctx.config.peerIdleTimeoutMs currentTimeMs }

/-! ### Lookups after a write-back -/

/-- A reset keeps the key. -/
@[simp] theorem resetPeer_key (peer : PeerState) (sessionId : UInt16) (now : UInt32) :
    (resetPeer peer sessionId now).key = peer.key := rfl

/-- The first entry with a key. -/
def peerOf (peers : List PeerState) (key : PeerKey) : Option PeerState :=
  peers.find? fun peer => peer.key == key

/-- A scoped lookup is a lookup of the scoped key. -/
theorem transportFindPeerScope_eq (peers : List PeerState) (peerId : UInt16) (c e : UInt32) :
    transportFindPeerScope peers peerId c e = peerOf peers (scopedKey peerId c e) := by
  unfold transportFindPeerScope peerOf
  congr 1
  funext peer
  rw [Bool.eq_iff_iff]
  simp [PeerState.key, scopedKey, and_assoc]

/-- A lookup returns an entry with the key. -/
theorem peerOf_key {peers : List PeerState} {key : PeerKey} {peer : PeerState}
    (h : peerOf peers key = some peer) : peer.key = key := by
  unfold peerOf at h
  simpa using List.find?_some h

/-- A lookup returns a member. -/
theorem peerOf_mem {peers : List PeerState} {key : PeerKey} {peer : PeerState}
    (h : peerOf peers key = some peer) : peer ∈ peers :=
  List.mem_of_find?_eq_some h

/-- A lookup without a scope returns an entry of the peer id. -/
theorem peerId_of_transportFindPeer {peers : List PeerState} {peerId : UInt16} {peer : PeerState}
    (h : transportFindPeer peers peerId = some peer) : peer.peerId = peerId := by
  unfold transportFindPeer at h
  simpa using List.find?_some h

/-- What a key selects has the peer id of the key, with or without a scope. -/
theorem peerId_of_lookupPeer {peers : List PeerState} {key : PeerKey} {peer : PeerState}
    (h : lookupPeer peers key = some peer) : peer.peerId = key.peerId := by
  unfold lookupPeer at h
  split at h
  · rw [transportFindPeerScope_eq] at h
    exact congrArg PeerKey.peerId (peerOf_key h)
  · exact peerId_of_transportFindPeer h

/-- A received packet selects a peer of its source. -/
theorem Packet.peerKey_peerId (packet : Packet) : packet.peerKey.peerId = packet.sourceId := by
  unfold Packet.peerKey
  split <;> rfl

/-- A request selects a peer of its target. -/
theorem TxData.peerKey_peerId (txData : TxData) : txData.peerKey.peerId = txData.targetId := by
  unfold TxData.peerKey
  split <;> rfl

/-- The first entry of a peer id is the first entry of its own key. -/
theorem peerOf_of_transportFindPeer {peers : List PeerState} {peerId : UInt16} {peer : PeerState}
    (h : transportFindPeer peers peerId = some peer) : peerOf peers peer.key = some peer := by
  unfold transportFindPeer at h
  unfold peerOf
  induction peers with
  | nil => cases h
  | cons first rest ih =>
    rw [List.find?_cons] at h ⊢
    cases hid : first.peerId == peerId with
    | true =>
      rw [hid] at h
      cases h
      simp
    | false =>
      rw [hid] at h
      have hpeer : peer.peerId = peerId := peerId_of_transportFindPeer h
      have hne : (first.key == peer.key) = false := by
        rw [beq_eq_false_iff_ne] at hid ⊢
        intro hkey
        exact hid ((congrArg PeerKey.peerId hkey).trans hpeer)
      rw [hne]
      exact ih h

/-- Writing back changes the entry of its own key only. -/
theorem peerOf_putPeer (peers : List PeerState) (peer : PeerState) (key : PeerKey) :
    peerOf (putPeer peer peers) key
      = if peer.key = key then (peerOf peers key).map fun _ => peer else peerOf peers key := by
  unfold peerOf
  induction peers with
  | nil => simp [putPeer]
  | cons first rest ih =>
    unfold putPeer
    by_cases hfirst : first.key = peer.key
    · rw [if_pos (by simp [hfirst]), List.find?_cons, List.find?_cons]
      by_cases hkey : peer.key = key
      · simp [hkey, hfirst]
      · have hne : (peer.key == key) = false := by simpa using hkey
        simp [hne, hfirst, hkey]
    · rw [if_neg (by simp [hfirst]), List.find?_cons, List.find?_cons]
      cases hkey : first.key == key with
      | true =>
        have hne : peer.key ≠ key := by
          intro hp
          exact hfirst ((by simpa using hkey : first.key = key).trans hp.symm)
        simp [hne]
      | false => exact ih

/-- The keys of the list do not change. -/
theorem map_key_putPeer (peer : PeerState) (peers : List PeerState) :
    (putPeer peer peers).map PeerState.key = peers.map PeerState.key := by
  induction peers with
  | nil => rfl
  | cons first rest ih =>
    unfold putPeer
    split
    · rename_i h
      simp [show first.key = peer.key by simpa using h]
    · simp [ih]

/-- A member after a write-back is the written peer or an old member. -/
theorem mem_putPeer {peer other : PeerState} {peers : List PeerState}
    (h : other ∈ putPeer peer peers) : other = peer ∨ other ∈ peers := by
  induction peers with
  | nil => cases h
  | cons first rest ih =>
    unfold putPeer at h
    split at h
    · rcases List.mem_cons.mp h with rfl | hmem
      · exact .inl rfl
      · exact .inr (List.mem_cons_of_mem _ hmem)
    · rcases List.mem_cons.mp h with rfl | hmem
      · exact .inr List.mem_cons_self
      · rcases ih hmem with hp | hm
        · exact .inl hp
        · exact .inr (List.mem_cons_of_mem _ hm)

/-- Writing back an unchanged peer changes nothing. -/
theorem putPeer_self {peers : List PeerState} {peer : PeerState}
    (h : peerOf peers peer.key = some peer) : putPeer peer peers = peers := by
  unfold peerOf at h
  induction peers with
  | nil => rfl
  | cons first rest ih =>
    unfold putPeer
    rw [List.find?_cons] at h
    cases hk : first.key == peer.key with
    | true =>
      rw [hk] at h
      cases h
      simp
    | false =>
      rw [hk] at h
      simp [ih h]

/-- Whatever lookup found a peer, it is the first entry of its key. -/
theorem peerOf_of_lookupPeer {peers : List PeerState} {key : PeerKey} {peer : PeerState}
    (h : lookupPeer peers key = some peer) : peerOf peers peer.key = some peer := by
  unfold lookupPeer at h
  split at h
  · rw [transportFindPeerScope_eq] at h
    rw [peerOf_key h]
    exact h
  · exact peerOf_of_transportFindPeer h

/-! ### What selecting a peer can do -/

/-- The outcomes of `transport_get_or_create_peer_internal`. -/
inductive GetOrCreate (ctx : TransportCtx) (key : PeerKey) :
    TransportCtx × Option PeerState → Prop where
  | found (peer : PeerState) (hlook : lookupPeer ctx.peers key = some peer) :
      GetOrCreate ctx key (ctx, some peer)
  | failed (hlook : lookupPeer ctx.peers key = none) (session : UInt16) (io : TransportIo)
      (hevents : io.events = ctx.io.events) :
      GetOrCreate ctx key ({ ctx with nextSessionId := session, io := io }, none)
  | created (hlook : lookupPeer ctx.peers key = none) (io : TransportIo)
      (hevents : io.events = ctx.io.events) (hsize : ctx.window.windowSize ≠ 0) :
      GetOrCreate ctx key
        ({ ctx with
            nextSessionId := followingSessionId (newSessionId ctx.nextSessionId)
            io := io
            peers := freshPeer ctx key :: ctx.peers },
          some (freshPeer ctx key))

/-- Every call ends in one of the outcomes. -/
theorem transportGetOrCreatePeer_cases (env : TransportEnv) (ctx : TransportCtx) (key : PeerKey) :
    GetOrCreate ctx key (transportGetOrCreatePeer env ctx key) := by
  unfold transportGetOrCreatePeer
  split
  · rename_i peer hlook
    exact .found peer hlook
  · rename_i hlook
    dsimp only
    split
    · exact .failed hlook ctx.nextSessionId _ (by simp)
    · split
      · exact .failed hlook _ _ (by simp)
      · rename_i hsize
        simp only [Bool.or_eq_true, beq_iff_eq, not_or] at hsize
        split
        · exact .failed hlook _ _ (by simp)
        · exact .created hlook _ (by simp) hsize.1

end XgenLink
