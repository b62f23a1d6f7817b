import XgenLink.Proofs.EndToEnd
import XgenLink.Proofs.OrderedHandover

/-!
# `XgenLink.Proofs.InOrderEndToEnd`: a connection hands its payloads over in order

What node `b` is handed with the reliable packets of a connection of node `a` is a part of what
`a` was asked to send on it, in the order of the requests and each request at most once. The
network may lose, repeat, delay and reorder frames. This is about the payloads that are sent in
one packet each, as the codec left them.

Two orders meet. The sender numbers the requests of a scope in rising order (`numberedRequests`).
The receiver hands the numbers of a scope over in rising order (`HandedInOrder`). A packet that
arrives has the number its request started with, so the receiver's order is the order of the
requests.

The connection has to be used in one direction. A HELLO of `b` on it would reset the peer of `a`,
and the numbers of `a` would start again. A HELLO of `a` does reach the peer of `b`, with the
session of the connection, and that clears nothing: the peer has that session already or is new.

* `sendNumberOf_le`: the numbers of a sender rise.
* `SessionFits`: why no HELLO of the sender clears a peer that is in use.
* `streamEntries_rise`: the numbers of a receiver rise.
* `TravelKind`, `OneWay`: what a packet that travels is, and how the connection is used.
* `InOrderInv`, `inOrderInv_step`: the invariant.
* `mesh_in_order`: the theorem about runs.
-/

set_option autoImplicit false

namespace XgenLink

/-! ### Packet numbers of a scope -/

/-- The next packet number of a scope, zero where it has no peer. -/
def sendNumberOf (peers : List PeerState) (key : PeerKey) : UInt32 :=
  (peerOf peers key).elim 0 fun peer => peer.txWindow.nextPacketNumber

section Peers

variable {action : TransportAction} {events : List TransportEvent} {before after : List PeerState}

/-- While numbers are left, the number of a scope that is not cleared does not fall. -/
theorem sendNumberOf_le {key : PeerKey}
    (h : PeersMove (PeerMove action events) (PeerMade action) before after)
    (hleft : NumbersLeft events)
    (hclear : ∀ packet, action = .receive packet →
      packet.packetType = XGL_PACKET_TYPE_CONTROL → packet.scoped = true ∧ packet.peerKey ≠ key) :
    sendNumberOf before key ≤ sendNumberOf after key := by
  simp only [sendNumberOf]
  cases hold : peerOf before key with
  | none => exact UInt32.le_iff_toNat_le.mpr (Nat.zero_le _)
  | some old =>
    obtain ⟨peer, hpeer, hmove⟩ := h.kept key old hold
    rw [hpeer]
    show old.txWindow.nextPacketNumber ≤ peer.txWindow.nextPacketNumber
    cases hmove with
    | kept session rx number => exact number hleft
    | ordered packet haction hdata hrel hkey hsession session number =>
      rw [number]
      exact UInt32.le_refl _
    | cleared packet haction htype hkey session rx =>
      obtain ⟨hscoped, hne⟩ := hclear packet haction htype
      exact absurd ((hkey hscoped).symm.trans (peerOf_key hold)) hne

/-- The session id that a connection id has on the wire. -/
def connectionSession (connectionId : UInt32) : UInt16 :=
  (connectionId &&& 0xFFFF).toUInt16

/-- A peer of a connection that took a packet in order has the session of the connection. -/
structure SessionFits (peer : PeerState) : Prop where
  masked : peer.sessionId &&& XGL_SESSION_ID_MASK = peer.sessionId
  used : peer.hasConnectionScope = true →
    connectionSession peer.connectionId &&& XGL_SESSION_ID_MASK ≠ 0 → peer.rxNextPacketNumber ≠ 0 →
    peer.sessionId = connectionSession peer.connectionId &&& XGL_SESSION_ID_MASK

/-- Reliable data packets with the session of their connection keep it so. -/
theorem sessionFits_step
    (h : PeersMove (PeerMove action events) (PeerMade action) before after)
    (hfits : ∀ key peer, peerOf before key = some peer → SessionFits peer)
    (hpacket : ∀ packet, action = .receive packet → ¬ packet.Feedback →
      packet.reliable = XGL_RELIABILITY_ACK_ELICITING →
      packet.scoped = true ∧ packet.sessionId = connectionSession packet.connectionId) :
    ∀ key peer, peerOf after key = some peer → SessionFits peer := by
  intro key peer hpeer
  -- the key of a scoped packet names its connection
  have hconnection : ∀ {packet : Packet} {one : PeerState}, packet.scoped = true →
      one.key = packet.peerKey → one.connectionId = packet.connectionId := by
    intro packet one hscoped hkey
    rw [Packet.peerKey, if_pos hscoped] at hkey
    exact congrArg PeerKey.connectionId hkey
  -- the peer of the scope before, if there was one
  cases hold : peerOf before key with
  | none =>
    cases h.made key peer hold hpeer with
    | unused session rx => exact ⟨session, fun _ _ hrx => absurd rx hrx⟩
    | ordered packet haction hdata hrel hkey session hsession =>
      obtain ⟨hscoped, hwire⟩ := hpacket packet haction hdata hrel
      refine ⟨session, fun _ hmask _ => ?_⟩
      rw [hconnection hscoped (hkey hscoped), ← hwire] at hmask ⊢
      rcases hsession with hzero | hsame
      · rw [hzero] at hmask
        exact absurd rfl hmask
      · exact hsame
  | some old =>
    obtain ⟨found, hfound, hmove⟩ := h.kept key old hold
    rw [hpeer] at hfound
    cases hfound
    have hsame : peer.key = old.key := (peerOf_key hpeer).trans (peerOf_key hold).symm
    have hscope : peer.hasConnectionScope = old.hasConnectionScope :=
      congrArg PeerKey.hasConnectionScope hsame
    have hid : peer.connectionId = old.connectionId := congrArg PeerKey.connectionId hsame
    have hfit := hfits key old hold
    cases hmove with
    | kept session rx number =>
      refine ⟨session ▸ hfit.masked, ?_⟩
      rw [hscope, hid, rx, session]
      exact hfit.used
    | ordered packet haction hdata hrel hkey hsession session number =>
      obtain ⟨hscoped, hwire⟩ := hpacket packet haction hdata hrel
      refine ⟨session ▸ hfit.masked, fun _ hmask _ => ?_⟩
      rw [hid, hconnection hscoped (hkey hscoped), ← hwire] at hmask ⊢
      rw [session]
      rcases hsession with hzero | hpeerSession
      · rw [hzero] at hmask
        exact absurd rfl hmask
      · rw [hpeerSession]
        exact hfit.masked.symm
    | cleared packet haction htype hkey session rx => exact ⟨session, fun _ _ hrx => absurd rx hrx⟩

end Peers

/-! ### Streams -/

/-- The payload of a reliable request on a connection, as it is handed down. -/
def streamPayload? (config : TransportConfig) (c : UInt32) (txData : TxData) : Option Bytes :=
  if txData.reliable = true ∧ txData.connectionId = c then
    txData.data.map (handedDown config txData)
  else none

/-- The payload and the number of a reliable packet of a connection that fits into one. -/
def streamNumbered? (source : UInt16) (c : UInt32) : TransportEvent → Option (Bytes × UInt32)
  | .rxCallback _ _ data origin =>
    if origin.reliable = XGL_RELIABILITY_ACK_ELICITING ∧ origin.fragment = 0 ∧
        origin.sourceId = source ∧ origin.connectionId = c then
      some (data, origin.packetNumber)
    else none
  | _ => none

/-- What was asked for on a connection, in the order of the requests. -/
def requestedOn (config : TransportConfig) (c : UInt32) (asked : List TxData) : List Bytes :=
  asked.filterMap (streamPayload? config c)

/-- What was handed over on a connection of a source, in order. -/
def handedOn (source : UInt16) (c : UInt32) (events : List TransportEvent) : List Bytes :=
  (events.filterMap (streamNumbered? source c)).map Prod.fst

/-- The requests on a connection with the numbers they started with. -/
def numberedRequests (config : TransportConfig) (c : UInt32) (asked : List TxData)
    (numbers : List UInt32) : List (Bytes × UInt32) :=
  (asked.zip numbers).filterMap fun request =>
    (streamPayload? config c request.1).map fun data => (data, request.2)

section Streams

variable {config : TransportConfig} {c : UInt32} {asked : List TxData} {numbers : List UInt32}

/-- A request that was numbered is among the numbered requests. -/
theorem mem_numberedRequests {k : Nat} {txData : TxData} {n : UInt32} {data : Bytes}
    (hget : asked[k]? = some txData) (hnumber : numbers[k]? = some n)
    (hpayload : streamPayload? config c txData = some data) :
    (data, n) ∈ numberedRequests config c asked numbers := by
  refine List.mem_filterMap.mpr ⟨(txData, n), ?_, ?_⟩
  · exact List.mem_of_getElem? (List.getElem?_zip_eq_some.mpr ⟨hget, hnumber⟩)
  · rw [hpayload]
    rfl

/-- One more request. -/
theorem numberedRequests_append (hlength : numbers.length = asked.length) (txData : TxData)
    (n : UInt32) :
    numberedRequests config c (asked ++ [txData]) (numbers ++ [n])
      = numberedRequests config c asked numbers
        ++ ((streamPayload? config c txData).map fun data => (data, n)).toList := by
  rw [numberedRequests, List.zip_append hlength.symm, List.filterMap_append]
  simp only [List.zip_cons_cons, List.zip_nil_right, List.filterMap_cons, List.filterMap_nil]
  cases streamPayload? config c txData <;> rfl

/-- Without the numbers these are the requests. -/
theorem numberedRequests_fst (hlength : numbers.length = asked.length) :
    (numberedRequests config c asked numbers).map Prod.fst = requestedOn config c asked := by
  have hzip : (asked.zip numbers).map Prod.fst = asked :=
    List.map_fst_zip (le_of_eq hlength.symm)
  rw [requestedOn, numberedRequests, List.map_filterMap]
  conv_rhs => rw [← hzip, List.filterMap_map]
  congr 1
  funext request
  rw [Function.comp_apply]
  cases streamPayload? config c request.1 <;> rfl

/-- The reliable packets of a scope were handed over in the order of their numbers. -/
theorem streamEntries_rise {events : List TransportEvent} {source : UInt16} (hc : c ≠ 0)
    (horder : HandedInOrder events)
    (hepoch : ∀ sourceId dataType data origin,
      .rxCallback sourceId dataType data origin ∈ events → origin.sessionEpoch = 0) :
    (events.filterMap (streamNumbered? source c)).Pairwise fun a b => a.2.toNat < b.2.toNat := by
  -- an entry of the stream counts under the key of the scope
  have hcounts : ∀ event ∈ events, ∀ entry, streamNumbered? source c event = some entry →
      onceOf event = some (scopedKey source c 0, entry.2) := by
    intro event hmem entry hentry
    cases event with
    | rxCallback sourceId dataType data origin =>
      simp only [streamNumbered?] at hentry
      split at hentry
      · rename_i hstream
        obtain ⟨hrel, hwhole, hsource, hconnection⟩ := hstream
        cases hentry
        have hscoped : origin.scoped = true := by simp [Packet.scoped, hconnection, hc]
        rw [onceOf, if_pos ⟨hrel, hwhole⟩, Packet.peerKey, if_pos hscoped, hsource, hconnection,
          hepoch _ _ _ _ hmem]
      · cases hentry
    | _ => cases hentry
  rw [HandedInOrder, onceDelivered, List.pairwise_filterMap] at horder
  rw [List.pairwise_filterMap]
  refine List.Pairwise.imp_of_mem ?_ horder
  intro a b ha hb hab x hx y hy
  exact UInt32.lt_iff_toNat_lt.mp
    (hab _ (hcounts a ha x hx) _ (hcounts b hb y hy) rfl)

end Streams

/-! ### What arrives -/

section Network

variable {ι : Type} {config : ι → TransportConfig} {mesh after : NodeMesh ι}
  {numbers : ι → List UInt32} {a b : ι} {c epoch : UInt32}

/-- What a packet that travels is: an acknowledgement, the HELLO of a reliable request, or a data
packet of a request. -/
inductive TravelKind (config : ι → TransportConfig) (mesh : NodeMesh ι) (q : Packet) : Prop where
  | ack (htype : q.packetType = XGL_PACKET_TYPE_ACK)
  | hello (htype : q.packetType = XGL_PACKET_TYPE_CONTROL) (j : ι) (txData : TxData)
      (hasked : txData ∈ mesh.asked j) (hrel : txData.reliable = true)
      (hsource : q.sourceId = (config j).localId)
      (hconnection : txData.connectionId ≠ 0 → q.connectionId = txData.connectionId)
      (hkind : q.dataType = XGL_TRANSPORT_CONTROL_HELLO)
  | data (htype : q.packetType ≠ XGL_PACKET_TYPE_CONTROL) (j : ι) (txData : TxData)
      (hasked : txData ∈ mesh.asked j) (hfrom : ArrivesFrom (config j) txData q)
      (packet : Packet) (err : XglError)
      (hmem : .layerSend packet err ∈ (mesh.node j).transport.io.events)
      (hnumber : q.packetNumber = packet.packetNumber)

/-- What travels was handed down by a node, so it is of one of these kinds. -/
theorem Travels.kind {q : Packet} (h : Travels config mesh q)
    (hsender : ∀ i, ∃ messages,
      SenderLog (config i) (mesh.asked i) (numbers i) messages (mesh.node i).transport) :
    TravelKind config mesh q := by
  obtain ⟨j, node, packet, err, hmem, hlocal, harrives⟩ := h
  obtain ⟨messages, hlog⟩ := hsender j
  rcases hlog.log packet err hmem with hack | ⟨txData, hasked, hrel, scope, -, hscope, rfl⟩ |
    ⟨first, hrequest, halike⟩
  · exact .ack (harrives.ack hack.packetType)
  · rcases harrives.packetType (.inl rfl) with hcontrol | hack
    swap
    · exact .ack hack
    refine .hello hcontrol j txData hasked hrel ?_ (fun hne => ?_) (arrives_hello harrives)
    · rw [harrives.sourceId, sentSource]
      split
      · exact hlocal
      · rfl
    · have hconnection : (helloPacket (config j) scope).connectionId = txData.connectionId :=
        hscope hne
      rw [harrives.connectionId (hconnection ▸ hne), hconnection]
  have hfirst := halike.arrives harrives
  have hdata : ∀ peer txData data n fragment extensions,
      first = txPacket (config j) peer txData data n fragment extensions →
      q.packetType ≠ XGL_PACKET_TYPE_CONTROL := by
    rintro peer txData data n fragment extensions rfl htype
    exact absurd (hfirst.control htype)
      (by decide : XGL_PACKET_TYPE_INVALID ≠ XGL_PACKET_TYPE_CONTROL)
  rcases hrequest with ⟨k, txData, n, hget, hnumber, hwhole⟩ | ⟨k, txData, hget, hpiece⟩
  · obtain ⟨-, data, peer, -, hpacket⟩ := id hwhole
    exact .data (hdata _ _ _ _ _ _ hpacket) j txData (List.mem_of_getElem? hget)
      (hwhole.arrives hlocal hfirst).toArrivesFrom packet err hmem harrives.packetNumber
  · obtain ⟨-, data, peer, n, offset, budget, -, hpacket⟩ := id hpiece
    have hmade : txData ∈ messages := List.mem_of_getElem? hget
    exact .data (hdata _ _ _ _ _ _ hpacket) j txData
      (List.mem_of_mem_filter (hlog.ids.subset hmade))
      (hpiece.arrives hlocal hfirst).toArrivesFrom packet err hmem harrives.packetNumber

/-- The session of a packet that travels is that of its connection. -/
theorem Travels.sessionId {q : Packet} (h : Travels config mesh q) :
    q.sessionId = connectionSession q.connectionId := by
  obtain ⟨j, node, packet, err, -, -, harrives⟩ := h
  exact harrives.sessionId

/-- How the connection `c` from `a` to `b` is used: every reliable request names a connection,
those of `a` on this one go to `b` under one epoch, `b` makes none on it, and no packet numbers
are used up. -/
structure OneWay (config : ι → TransportConfig) (a b : ι) (c epoch : UInt32)
    (mesh : NodeMesh ι) : Prop where
  named : ∀ i, ∀ txData ∈ mesh.asked i, txData.reliable = true → txData.connectionId ≠ 0
  stream : ∀ txData ∈ mesh.asked a, txData.reliable = true → txData.connectionId = c →
    txData.targetId = (config b).localId ∧ txData.sessionEpoch = epoch
  back : ∀ txData ∈ mesh.asked b, txData.reliable = true → txData.connectionId ≠ c
  left : ∀ i, NumbersLeft (mesh.node i).transport.io.events

/-- It held before. -/
theorem OneWay.before (h : OneWay config a b c epoch after)
    (hasked : ∀ i, mesh.asked i <+: after.asked i)
    (hlogs : ∀ i, (mesh.node i).transport.io.events <+: (after.node i).transport.io.events) :
    OneWay config a b c epoch mesh where
  named := fun i txData hmem => h.named i txData ((hasked i).subset hmem)
  stream := fun txData hmem => h.stream txData ((hasked a).subset hmem)
  back := fun txData hmem => h.back txData ((hasked b).subset hmem)
  left := fun i => (h.left i).before (hlogs i)

/-- A reliable data packet that travels belongs to a scope and does not carry the last number. -/
theorem TravelKind.reliable {q : Packet} (h : TravelKind config mesh q)
    (huse : OneWay config a b c epoch mesh) (hack : q.packetType ≠ XGL_PACKET_TYPE_ACK)
    (htype : q.packetType ≠ XGL_PACKET_TYPE_CONTROL)
    (hrel : q.reliable = XGL_RELIABILITY_ACK_ELICITING) :
    q.scoped = true ∧ q.packetNumber ≠ 0xFFFFFFFF := by
  cases h with
  | ack hackType => exact absurd hackType hack
  | hello hcontrol => exact absurd hcontrol htype
  | data hdata j txData hasked hfrom packet err hmem hnumber =>
    have hne := huse.named j txData hasked (hfrom.reliable hrel)
    refine ⟨?_, ?_⟩
    · simp [Packet.scoped, hfrom.connectionId hne, hne]
    · rw [hnumber]
      exact huse.left j packet err hmem

/-- A control packet that travels has the scope of the connection of a reliable request. -/
theorem TravelKind.control {q : Packet} (h : TravelKind config mesh q)
    (huse : OneWay config a b c epoch mesh) (htype : q.packetType = XGL_PACKET_TYPE_CONTROL) :
    q.scoped = true ∧ q.dataType = XGL_TRANSPORT_CONTROL_HELLO ∧
      ∃ j, ∃ txData ∈ mesh.asked j, txData.reliable = true ∧
        q.sourceId = (config j).localId ∧ q.connectionId = txData.connectionId := by
  cases h with
  | ack hack => exact absurd (hack.symm.trans htype) (by decide)
  | hello _ j txData hasked hrel hsource hconnection hkind =>
    have hne := huse.named j txData hasked hrel
    refine ⟨?_, hkind, j, txData, hasked, hrel, hsource, hconnection hne⟩
    simp [Packet.scoped, hconnection hne, hne]
  | data hdata => exact absurd htype hdata

/-- What travels may be given to a node whose peers fit their sessions. -/
theorem TravelKind.replayable {q : Packet} {ctx : TransportCtx} (h : TravelKind config mesh q)
    (huse : OneWay config a b c epoch mesh)
    (hsession : q.sessionId = connectionSession q.connectionId)
    (hfits : ∀ key peer, peerOf ctx.peers key = some peer → SessionFits peer) :
    q.packetType = XGL_PACKET_TYPE_ACK ∨ Replayable ctx q := by
  by_cases hack : q.packetType = XGL_PACKET_TYPE_ACK
  · exact .inl hack
  refine .inr ⟨fun htype hrel => h.reliable huse hack htype hrel,
    fun htype hmask peer hlook hclears => ?_⟩
  obtain ⟨hscoped, hkind, -⟩ := h.control huse htype
  rw [lookupPeer_scoped hscoped] at hlook
  have hkey : peer.key = scopedKey q.sourceId q.connectionId q.sessionEpoch := by
    rw [peerOf_key hlook, Packet.peerKey, if_pos hscoped]
  have hconnection : peer.connectionId = q.connectionId := congrArg PeerKey.connectionId hkey
  -- a peer in use has the session the HELLO names
  by_contra hused
  have hsame := (hfits _ peer hlook).used (congrArg PeerKey.hasConnectionScope hkey)
    (by rw [hconnection, ← hsession]; exact hmask) hused
  rw [hconnection, ← hsession] at hsame
  rcases hclears with hreset | ⟨-, hdiffers⟩
  · rw [hkind] at hreset
    exact absurd hreset (by decide)
  · exact hdiffers hsame

/-! ### The two nodes -/

section Nodes

variable {env : TransportEnv} {ctx : TransportCtx} {action : TransportAction}

/-- The receiving node calls its transport. -/
theorem receiver_inOrder (hidle : ctx.config.peerIdleTimeoutMs = 0)
    (huse : OneWay config a b c epoch mesh)
    (hpackets : ∀ packet, action = .receive packet → TravelKind config mesh packet ∧
      packet.sessionId = connectionSession packet.connectionId)
    (honce : Once ctx) (horder : HandedInOrder ctx.io.events)
    (hfits : ∀ key peer, peerOf ctx.peers key = some peer → SessionFits peer) :
    Once (transportStep env ctx action) ∧ HandedInOrder (transportStep env ctx action).io.events ∧
      ∀ key peer, peerOf (transportStep env ctx action).peers key = some peer →
        SessionFits peer := by
  have hkeeps : KeepsReceiving ctx action := by
    cases action with
    | send txData => trivial
    | receive packet =>
      obtain ⟨hkind, hsession⟩ := hpackets packet rfl
      exact hkind.replayable huse hsession hfits
    | run now => exact fun htimeout => absurd hidle htimeout
  obtain ⟨honce', horder'⟩ := @transportStep_inOrder env ctx honce horder action hkeeps
  refine ⟨honce', horder', ?_⟩
  refine sessionFits_step (transportStep_peersMove env ctx action hidle) hfits ?_
  intro packet haction htype hrel
  obtain ⟨hkind, hsession⟩ := hpackets packet haction
  refine ⟨?_, hsession⟩
  cases hkind with
  | ack hack => exact absurd (.inr hack) htype
  | hello hcontrol => exact absurd (.inl hcontrol) htype
  | data hdata j txData hasked hfrom _ _ _ _ =>
    have hne := huse.named j txData hasked (hfrom.reliable hrel)
    simp [Packet.scoped, hfrom.connectionId hne, hne]

/-- The sending node calls its transport. What it is asked for on the connection starts with the
next number of the scope, and that does not fall. -/
theorem sender_rises {asked : List TxData} {started : List UInt32} {config : TransportConfig}
    {target : UInt16} (hc : c ≠ 0) (hidle : ctx.config.peerIdleTimeoutMs = 0)
    (hleft : NumbersLeft (transportStep env ctx action).io.events)
    (hlength : started.length = asked.length)
    (hstream : ∀ txData ∈ action.requests, txData.reliable = true → txData.connectionId = c →
      txData.targetId = target ∧ txData.sessionEpoch = epoch)
    (hclear : ∀ packet, action = .receive packet →
      packet.packetType = XGL_PACKET_TYPE_CONTROL →
      packet.scoped = true ∧ packet.peerKey ≠ scopedKey target c epoch)
    (hrising : (numberedRequests config c asked started).Pairwise
      fun x y => x.2.toNat ≤ y.2.toNat)
    (hbelow : ∀ request ∈ numberedRequests config c asked started,
      request.2 ≤ sendNumberOf ctx.peers (scopedKey target c epoch)) :
    (numberedRequests config c (asked ++ action.requests)
        (started ++ action.startNumbers ctx)).Pairwise (fun x y => x.2.toNat ≤ y.2.toNat) ∧
      ∀ request ∈ numberedRequests config c (asked ++ action.requests)
          (started ++ action.startNumbers ctx),
        request.2
          ≤ sendNumberOf (transportStep env ctx action).peers (scopedKey target c epoch) := by
  have hrises := sendNumberOf_le (transportStep_peersMove env ctx action hidle) hleft hclear
  have hquiet : action.requests = [] →
      (numberedRequests config c (asked ++ action.requests)
        (started ++ action.startNumbers ctx)).Pairwise (fun x y => x.2.toNat ≤ y.2.toNat) ∧
      ∀ request ∈ numberedRequests config c (asked ++ action.requests)
          (started ++ action.startNumbers ctx),
        request.2
          ≤ sendNumberOf (transportStep env ctx action).peers (scopedKey target c epoch) := by
    intro hnone
    rw [TransportAction.startNumbers, hnone, List.map_nil, List.append_nil, List.append_nil]
    exact ⟨hrising, fun request hmem => UInt32.le_trans (hbelow request hmem) hrises⟩
  cases action with
  | receive packet => exact hquiet rfl
  | run now => exact hquiet rfl
  | send txData =>
    show (numberedRequests config c (asked ++ [txData])
        (started ++ [sendNumber ctx.peers txData])).Pairwise _ ∧
      ∀ request ∈ numberedRequests config c (asked ++ [txData])
        (started ++ [sendNumber ctx.peers txData]), _
    rw [numberedRequests_append hlength]
    -- a request on the connection takes the next number of the scope
    have hnext : ∀ request ∈ ((streamPayload? config c txData).map fun data =>
        (data, sendNumber ctx.peers txData)).toList,
        request.2 = sendNumberOf ctx.peers (scopedKey target c epoch) := by
      intro request hmem
      cases hpayload : streamPayload? config c txData with
      | none =>
        rw [hpayload] at hmem
        cases hmem
      | some data =>
        rw [hpayload] at hmem
        rw [List.mem_singleton.mp hmem]
        simp only [streamPayload?] at hpayload
        split at hpayload
        swap
        · cases hpayload
        rename_i hon
        obtain ⟨hrel, hconnection⟩ := hon
        obtain ⟨htarget, hepoch⟩ := hstream txData List.mem_cons_self hrel hconnection
        show sendNumber ctx.peers txData = _
        rw [sendNumber, if_pos hrel, txData.peerKey_of_connection (hconnection ▸ hc), htarget,
          hconnection, hepoch, lookupPeer_scopedKey]
        rfl
    refine ⟨List.pairwise_append.mpr ⟨hrising, ?_, ?_⟩, ?_⟩
    · cases streamPayload? config c txData with
      | none => exact .nil
      | some data => exact List.pairwise_singleton _ _
    · intro x hx y hy
      rw [hnext y hy]
      exact UInt32.le_iff_toNat_le.mp (hbelow x hx)
    · intro request hmem
      rcases List.mem_append.mp hmem with hold | hnew
      · exact UInt32.le_trans (hbelow request hold) hrises
      · rw [hnext request hnew]
        exact hrises

end Nodes

/-! ### The invariant -/

/-- What holds in every state. `numbers` are the packet numbers the requests started with. -/
structure InOrderInv (config : ι → TransportConfig) (a b : ι) (c epoch : UInt32)
    (mesh : NodeMesh ι) (numbers : ι → List UInt32) : Prop where
  network : NodeMeshInv config mesh numbers
  once : Once (mesh.node b).transport
  order : HandedInOrder (mesh.node b).transport.io.events
  fits : ∀ key peer, peerOf (mesh.node b).transport.peers key = some peer → SessionFits peer
  rising : (numberedRequests (config a) c (mesh.asked a) (numbers a)).Pairwise
    fun x y => x.2.toNat ≤ y.2.toNat
  below : ∀ request ∈ numberedRequests (config a) c (mesh.asked a) (numbers a),
    request.2 ≤ sendNumberOf (mesh.node a).transport.peers
      (scopedKey (config b).localId c epoch)

/-- Everything above the datalink of the two nodes is the same. -/
theorem InOrderInv.congr (h : InOrderInv config a b c epoch mesh numbers)
    {numbers' : ι → List UInt32} (hnetwork : NodeMeshInv config after numbers')
    (hreceiver : (after.node b).transport = (mesh.node b).transport)
    (hsender : (after.node a).transport = (mesh.node a).transport ∧
      after.asked a = mesh.asked a ∧ numbers' a = numbers a) :
    InOrderInv config a b c epoch after numbers' := by
  refine ⟨hnetwork, hreceiver ▸ h.once, hreceiver ▸ h.order, hreceiver ▸ h.fits, ?_, ?_⟩
  · rw [hsender.2.1, hsender.2.2]
    exact h.rising
  · rw [hsender.1, hsender.2.1, hsender.2.2]
    exact h.below

variable [DecidableEq ι] {world : ι → World}

/-- Requests and logs only grow. -/
theorem Stepped.grows {step : NodeMeshAction ι} (h : Stepped world mesh step after) :
    (∀ i, mesh.asked i <+: after.asked i) ∧
      ∀ i, (mesh.node i).transport.io.events <+: (after.node i).transport.io.events := by
  cases h with
  | same => exact ⟨fun _ => List.prefix_rfl, fun _ => List.prefix_rfl⟩
  | handled i node hnode sent hsent =>
    refine ⟨fun _ => List.prefix_rfl, fun j => ?_⟩
    have hsame := (mesh.move_handled hnode sent j).transport
    exact prefix_of_eq (congrArg (fun ctx => ctx.io.events) hsame)
  | transport i node hnode action hreceived =>
    refine ⟨fun j => ?_, NodeMesh.call_grows hnode⟩
    by_cases hj : j = i
    · subst hj
      rw [(@NodeMesh.call_self _ world mesh _ j node action).2.2]
      exact List.prefix_append _ _
    · have hsame := (@NodeMesh.call_of_ne _ world mesh _ i node action j hj).2
      exact hsame ▸ List.prefix_rfl

/-- One step keeps the invariant, as long as the connection is used in one direction. -/
theorem inOrderInv_step (hfragments : ∀ i, (config i).enableFragmentation = true)
    (hdistinct : ∀ i j, (config i).localId = (config j).localId → i = j)
    (hidle : (config a).peerIdleTimeoutMs = 0 ∧ (config b).peerIdleTimeoutMs = 0) (hc : c ≠ 0)
    (h : OneWay config a b c epoch mesh → ∃ numbers, InOrderInv config a b c epoch mesh numbers)
    {step : NodeMeshAction ι} (hstep : Stepped world mesh step after)
    (huse : OneWay config a b c epoch after) :
    ∃ numbers, InOrderInv config a b c epoch after numbers := by
  have hbefore := huse.before hstep.grows.1 hstep.grows.2
  obtain ⟨numbers, hinv⟩ := h hbefore
  cases hstep with
  | same => exact ⟨numbers, hinv⟩
  | handled i node hnode sent hsent =>
    have hsame := mesh.move_handled hnode sent
    exact ⟨numbers, hinv.congr (hinv.network.handled i hnode hsent) (hsame b).transport
      ⟨(hsame a).transport, rfl, rfl⟩⟩
  | transport i node hnode action hreceived =>
    obtain ⟨hmoved, -, hrequests⟩ := @NodeMesh.call_self _ world mesh _ i node action
    have hnetwork := @NodeMeshInv.call _ config world mesh numbers _ i node action hfragments
      hinv.network hnode (hinv.network.received hreceived)
    -- a packet that is received travels
    have hpackets : ∀ packet, action = .receive packet → TravelKind config mesh packet ∧
        packet.sessionId = connectionSession packet.connectionId := by
      intro packet haction
      obtain ⟨htravels, -⟩ := hinv.network.received hreceived packet haction
      exact ⟨htravels.kind hinv.network.sender, htravels.sessionId⟩
    have hconfig : node.transport.config = config i := by
      rw [hnode.transport]
      exact (hinv.network.sender i).choose_spec.config_eq
    have hreceiver : Once ((mesh.call world i node action).node b).transport ∧
        HandedInOrder ((mesh.call world i node action).node b).transport.io.events ∧
        ∀ key peer, peerOf ((mesh.call world i node action).node b).transport.peers key
          = some peer → SessionFits peer := by
      -- the receiving node calls its transport, or another one does
      by_cases hb : b = i
      · subst hb
        rw [hmoved]
        refine receiver_inOrder ?_ hbefore hpackets (hnode.transport ▸ hinv.once)
            (hnode.transport ▸ hinv.order)
          (hnode.transport ▸ hinv.fits)
        rw [hconfig]
        exact hidle.2
      · rw [(@NodeMesh.call_of_ne _ world mesh _ i node action b hb).1]
        exact ⟨hinv.once, hinv.order, hinv.fits⟩
    obtain ⟨honce, horder, hfits⟩ := hreceiver
    suffices hsender : (numberedRequests (config a) c ((mesh.call world i node action).asked a)
          (Function.update numbers i (numbers i ++ action.startNumbers node.transport) a)).Pairwise
          (fun x y => x.2.toNat ≤ y.2.toNat) ∧
        ∀ request ∈ numberedRequests (config a) c ((mesh.call world i node action).asked a)
            (Function.update numbers i (numbers i ++ action.startNumbers node.transport) a),
          request.2 ≤ sendNumberOf ((mesh.call world i node action).node a).transport.peers
            (scopedKey (config b).localId c epoch) from
      ⟨_, hnetwork, honce, horder, hfits, hsender.1, hsender.2⟩
    -- the sending node calls its transport, or another one does
    by_cases ha : a = i
    swap
    · obtain ⟨htransport, hasked⟩ := @NodeMesh.call_of_ne _ world mesh _ i node action a ha
      rw [htransport, hasked, Function.update_of_ne ha]
      exact ⟨hinv.rising, hinv.below⟩
    subst ha
    rw [hmoved, hrequests, Function.update_self]
    have hleft := huse.left a
    rw [hmoved] at hleft
    refine sender_rises hc ?_ hleft (hinv.network.sender a).choose_spec.numbered ?_ ?_
      hinv.rising (hnode.transport ▸ hinv.below)
    · rw [hconfig]
      exact hidle.1
    · intro txData hmem
      refine huse.stream txData ?_
      rw [hrequests]
      exact List.mem_append_right _ hmem
    · -- the HELLO of a connection on which `b` makes no request
      intro packet haction htype
      obtain ⟨hscoped, -, j, txData, hasked, hrel, hsource, hconnection⟩ :=
        (hpackets packet haction).1.control hbefore htype
      refine ⟨hscoped, fun hkey => ?_⟩
      rw [Packet.peerKey, if_pos hscoped, hsource, hconnection] at hkey
      obtain rfl := hdistinct j b (congrArg PeerKey.peerId hkey)
      exact hbefore.back txData hasked hrel (congrArg PeerKey.connectionId hkey)

/-! ### Runs -/

omit [DecidableEq ι] in
/-- The invariant holds at the start. -/
theorem inOrderInv_start (hstart : MeshStart config mesh) :
    InOrderInv config a b c epoch mesh fun _ => [] := by
  obtain ⟨hpeers, hevents, -⟩ := xglTransportInit_fresh (hstart.init b)
  refine ⟨nodeMeshInv_start hstart, ⟨?_, ?_, ?_⟩, ?_, ?_, ?_, ?_⟩
  · rw [hpeers]
    exact fun peer hpeer => absurd hpeer List.not_mem_nil
  · rw [hevents]
    exact fun d hd => absurd hd List.not_mem_nil
  · rw [hevents]
    exact .nil
  · rw [hevents]
    exact .nil
  · rw [hpeers]
    exact fun key peer hpeer => by cases hpeer
  · rw [hstart.asked]
    exact .nil
  · rw [hstart.asked]
    exact fun request hmem => absurd hmem List.not_mem_nil

/-- It holds in every state of a run that keeps to the use of the connection. -/
theorem runNodeMesh_inOrder (hfragments : ∀ i, (config i).enableFragmentation = true)
    (hdistinct : ∀ i j, (config i).localId = (config j).localId → i = j)
    (hidle : (config a).peerIdleTimeoutMs = 0 ∧ (config b).peerIdleTimeoutMs = 0) (hc : c ≠ 0)
    (actions : List (NodeMeshAction ι))
    (h : ∃ numbers, InOrderInv config a b c epoch mesh numbers) :
    OneWay config a b c epoch (runNodeMesh world actions mesh) →
      ∃ numbers, InOrderInv config a b c epoch (runNodeMesh world actions mesh) numbers :=
  @foldl_invariant _ _ (NodeMesh.step world)
    (fun state => OneWay config a b c epoch state →
      ∃ numbers, InOrderInv config a b c epoch state numbers)
    (fun state action hstate => inOrderInv_step hfragments hdistinct hidle hc hstate
      (state.step_stepped world action))
    actions mesh fun _ => h

/-- A connection hands its payloads over in order. Node `a` makes reliable requests to node `b`
on the connection `c`, under one epoch, and `b` makes none on it. Over a network that loses,
repeats, delays and reorders frames, the payloads that `b` is handed in one reliable packet each
of this connection are a part of the payloads `a` was asked to send on it, as the codec left them,
in the order of the requests; no request is handed over twice. Messages that are put together from
fragments are not counted. This needs that neither node reclaims idle peers, that every reliable
request in the network names a connection, and that no node uses up its packet numbers. -/
theorem mesh_in_order (config : ι → TransportConfig) (world : ι → World) (start : NodeMesh ι)
    (a b : ι) (c epoch : UInt32) (hstart : MeshStart config start)
    (hidle : (config a).peerIdleTimeoutMs = 0 ∧ (config b).peerIdleTimeoutMs = 0) (hc : c ≠ 0)
    (actions : List (NodeMeshAction ι))
    (huse : OneWay config a b c epoch (runNodeMesh world actions start)) :
    let mesh := runNodeMesh world actions start
    (handedOn (config a).localId c (mesh.node b).transport.io.events).Sublist
      (requestedOn (config a) c (mesh.asked a)) := by
  intro mesh
  obtain ⟨numbers, hinv⟩ : ∃ numbers, InOrderInv config a b c epoch mesh numbers :=
    runNodeMesh_inOrder hstart.fragments hstart.distinct hidle hc actions
      ⟨_, inOrderInv_start hstart⟩ huse
  choose messages hsender using hinv.network.sender
  obtain ⟨hwhole, horigins⟩ := (hinv.network.receiver b).log
  have horigin : ∀ sourceId dataType data origin,
      .rxCallback sourceId dataType data origin ∈ (mesh.node b).transport.io.events →
      TravelsTo config mesh b origin :=
    fun sourceId dataType data origin hmem => (horigins sourceId dataType data origin hmem).2.2
  have hentries := @streamEntries_rise c (mesh.node b).transport.io.events (config a).localId hc
    hinv.order fun sourceId dataType data origin hmem => by
      obtain ⟨j, txData, -, hkind⟩ := (horigin sourceId dataType data origin hmem).origin hsender
      rcases hkind with ⟨_, _, _, _, harrives⟩ | ⟨_, _, harrives⟩
      · exact harrives.sessionEpoch
      · exact harrives.sessionEpoch
  rw [handedOn, ← numberedRequests_fst (hsender a).numbered]
  refine (sublist_of_rising (fun entry => entry.2.toNat) hinv.rising hentries ?_).map Prod.fst
  -- what is handed over is the payload of a request, with the number it started with
  intro entry hentry
  obtain ⟨event, hmem, hstream⟩ := List.mem_filterMap.mp hentry
  cases event with
  | rxCallback sourceId dataType data origin =>
    simp only [streamNumbered?] at hstream
    split at hstream
    swap
    · cases hstream
    rename_i hon
    obtain ⟨hrel, hunfragmented, hsource, hconnection⟩ := hon
    cases hstream
    obtain ⟨j, txData, hasked, hkind⟩ := (horigin sourceId dataType data origin hmem).origin
      hsender
    rcases hkind with ⟨k, n, hget, hnumber, harrives⟩ | ⟨_, _, harrives⟩
    swap
    · exact absurd hunfragmented harrives.fragment
    obtain rfl := hstart.distinct j a (harrives.sourceId.symm.trans hsource)
    obtain ⟨payload, hdata, hpayload⟩ := harrives.payload
    have hreliable := harrives.reliable hrel
    have hnamed := huse.named j txData hasked hreliable
    rw [harrives.number]
    refine mem_numberedRequests hget hnumber ?_
    rw [streamPayload?, if_pos ⟨hreliable, (harrives.connectionId hnamed).symm.trans hconnection⟩,
      hdata]
    refine congrArg some (Eq.symm ?_)
    obtain ⟨before, behind, hevents⟩ := List.append_of_mem hmem
    rcases hwhole.whole before behind _ _ data origin hevents with
      ⟨-, -, hbytes⟩ | ⟨ext, hext, -⟩
    · exact harrives.toArrivesFrom.handedBytes hpayload hbytes
    · exact absurd hext (harrives.unfragmented ext)
  | _ => cases hstream

end Network

/-! ### Three requests on a connection -/

/-- A reliable request to node 3 on connection 5. -/
def orderedRequest (byte : UInt8) : TxData where
  targetId := 3
  dataType := 9
  data := some [byte]
  reliable := true
  connectionId := 5

/-- Node 3 is given the HELLO, then the second packet, the first one twice and the third. -/
def orderedActions : List (NodeMeshAction (Fin 3)) :=
  [.send chainHead (orderedRequest 1), .send chainHead (orderedRequest 2),
    .send chainHead (orderedRequest 3), .receive chainTail 0 true, .receive chainTail 2 true,
    .receive chainTail 1 true, .receive chainTail 1 true, .receive chainTail 3 true]

/-- The network behind these steps. -/
def orderedRun : NodeMesh (Fin 3) :=
  runNodeMesh (fun _ => chainWorld) orderedActions { node := chainNode }

/-- Only node 1 was asked for anything. -/
theorem orderedRun_asked : ∀ i, orderedRun.asked i
    = if i = 0 then [orderedRequest 1, orderedRequest 2, orderedRequest 3] else [] := by
  decide +kernel

/-- All three payloads are handed over in order. -/
theorem mesh_in_order_three :
    handedOn 1 5 (orderedRun.node 2).transport.io.events = [[1], [2], [3]] ∧
      (handedOn 1 5 (orderedRun.node 2).transport.io.events).Sublist
        (requestedOn (chainConfig 0) 5 (orderedRun.asked 0)) := by
  have hhanded : handedOn 1 5 (orderedRun.node 2).transport.io.events = [[1], [2], [3]] := by
    decide +kernel
  have hrequest : ∀ i, ∀ txData ∈ orderedRun.asked i, i = 0 ∧ ∃ byte,
      txData = orderedRequest byte := by
    intro i txData hmem
    rw [orderedRun_asked] at hmem
    split at hmem
    · rename_i hfirst
      refine ⟨hfirst, ?_⟩
      simp only [List.mem_cons, List.not_mem_nil, or_false] at hmem
      rcases hmem with rfl | rfl | rfl <;> exact ⟨_, rfl⟩
    · cases hmem
  have hleft : ∀ i, NumbersLeft (orderedRun.node i).transport.io.events := by decide +kernel
  have huse : OneWay chainConfig 0 2 5 0 orderedRun := by
    refine ⟨fun i txData hmem _ => ?_, fun txData hmem _ _ => ?_, fun txData hmem => ?_, hleft⟩
    · obtain ⟨-, byte, rfl⟩ := hrequest i txData hmem
      exact (by decide : (5 : UInt32) ≠ 0)
    · obtain ⟨-, byte, rfl⟩ := hrequest 0 txData hmem
      exact ⟨rfl, rfl⟩
    · exact absurd (hrequest 2 txData hmem).1 (by decide)
  rw [orderedRun] at hhanded huse ⊢
  exact ⟨hhanded,
    mesh_in_order chainConfig (fun _ => chainWorld) { node := chainNode } 0 2 5 0 chain_start
      ⟨rfl, rfl⟩ (by decide) orderedActions huse⟩

end XgenLink
