import XgenLink.Lib.Log
import XgenLink.Proofs.TimerFiring

/-!
# `XgenLink.Proofs.SentPackets`: every packet of the log belongs to a request

A transport hands packets down for three reasons. Acknowledgements are its own. A request becomes
one packet with the encoded payload, which takes the next packet number of its peer, or the
fragments of the payload under a message id of its own, which `transport_send_fragmented` takes
from the counter of the manager; the first reliable request of a peer opens with a HELLO.
Everything else is sent again as it was sent first.

This is the sending half of the results about networks: whatever arrives somewhere was handed down
by a node, and so it belongs to something that the node was asked for.

* `handedDown`, `sendNumber`: the payload of a request as it reaches the other side, and the
  packet number it starts with.
* `HelloPacket`, `WholePacket`, `PiecePacket`: the packets of a request.
* `xglTransportSend_sends`: what one request adds to the log.
* `AddsFeedback`: what reception adds to it.
* `SenderLog`: every packet of the log belongs to a request, and every message id to one
  fragmented request, in the order of the ids. `transportStep_senderLog` is the step.
-/

set_option autoImplicit false

namespace XgenLink

/-! ### Requests -/

/-- The send plan of a request has fragments. -/
def fragmentsRequest (config : TransportConfig) (txData : TxData) : Bool :=
  match txData.data with
  | none => false
  | some data =>
    match transportBuildSendPlan config txData data.length with
    | .ok plan => plan.needsFragmentation
    | .error _ => false

/-- The payload of a request as it is handed down: fragments are cut from the payload itself,
one packet carries it as the codec left it. -/
def handedDown (config : TransportConfig) (txData : TxData) (data : Bytes) : Bytes :=
  if fragmentsRequest config txData then data else transportEncodeData config txData data

/-- The next packet number of the peer of a request, zero where there is none. -/
def sendNumber (peers : List PeerState) (txData : TxData) : UInt32 :=
  if txData.reliable then
    (lookupPeer peers txData.peerKey).elim 0 fun peer => peer.txWindow.nextPacketNumber
  else 0

/-- A packet that carries no payload to an application. -/
def Packet.Feedback (packet : Packet) : Prop :=
  packet.packetType = XGL_PACKET_TYPE_CONTROL ∨ packet.packetType = XGL_PACKET_TYPE_ACK

/-- The HELLO in front of a reliable request. -/
def HelloPacket (config : TransportConfig) (txData : TxData) (packet : Packet) : Prop :=
  txData.reliable = true ∧
    ∃ scope : FeedbackScope, scope.targetId = txData.targetId ∧
      (txData.connectionId ≠ 0 → scope.connectionId = txData.connectionId) ∧
      packet = helloPacket config scope

/-- The packet of a request that fits into one, with its number. -/
def WholePacket (config : TransportConfig) (txData : TxData) (n : UInt32) (packet : Packet) :
    Prop :=
  fragmentsRequest config txData = false ∧
    ∃ data peer, txData.data = some data ∧
      packet = txPacket config peer txData (transportEncodeData config txData data) n false []

/-- A fragment of a request under a message id. -/
def PiecePacket (config : TransportConfig) (txData : TxData) (messageId : UInt32)
    (packet : Packet) : Prop :=
  fragmentsRequest config txData = true ∧
    ∃ data peer n offset budget, txData.data = some data ∧
      packet = txPacket config peer txData
        (readBytes data offset (min (data.length - offset) budget)) n true
        (fragmentExtension messageId offset data.length)

/-- The counter of message ids, zero without a manager. -/
def messageCounter (manager : Option FragmentManager) : UInt32 :=
  manager.elim 0 FragmentManager.nextMessageId

/-- A packet of a kind that is handed down, or an error report. -/
def Hands (kind : Packet → Prop) : TransportEvent → Prop
  | .layerSend packet _ => kind packet
  | .errorCallback _ _ => True
  | _ => False

/-- A packet of a kind is one of a wider kind. -/
theorem Hands.mono {kind wider : Packet → Prop} {event : TransportEvent} (h : Hands kind event)
    (hwider : ∀ packet, kind packet → wider packet) : Hands wider event := by
  cases event with
  | layerSend packet err => exact hwider packet h
  | errorCallback error message => trivial
  | rxCallback sourceId dataType data origin => exact h
  | fragmentStored packet => exact h

/-- A packet of the kind is handed down. -/
theorem Appends.lowerSend {kind : Packet → Prop} (env : TransportEnv) (config : TransportConfig)
    (io : TransportIo) {packet : Packet} (h : kind packet) :
    Appends (Hands kind) io.events (transportLowerSend env config io packet).2.events := by
  simp only [transportLowerSend]
  split
  · rw [xglLayerSend_events]
    exact .one h
  · exact .refl _

/-- An error is reported. -/
theorem Appends.report {kind : Packet → Prop} (config : TransportConfig) (io : TransportIo)
    (error : XglError) (message : String) :
    Appends (Hands kind) io.events (transportReport config io error message).events := by
  simp only [transportReport]
  split
  · exact .one trivial
  · exact .refl _

section Sends

variable {env : TransportEnv} {config : TransportConfig} {ctx : TransportCtx} {txData : TxData}

/-- One packet of a request, on its peer or without one. -/
theorem transportSendReliablePacket_appends {kind : Packet → Prop} (state : PeerState)
    (data : Bytes) (fragment : Bool) (extensions : Bytes)
    (hkind : kind (txPacket ctx.config (some state) txData data state.txWindow.nextPacketNumber
      fragment extensions)) :
    let sent := transportSendReliablePacket env ctx state txData data fragment extensions
    Appends (Hands kind) ctx.io.events sent.2.1.io.events ∧ sent.2.1.config = ctx.config ∧
      sent.2.1.fragmentMgr = ctx.fragmentMgr := by
  have hcases := transportSendReliablePacket_cases env ctx state txData data fragment extensions
  dsimp only
  generalize transportSendReliablePacket env ctx state txData data fragment extensions = sent
    at hcases ⊢
  cases hcases with
  | refused err hne io hevents => exact ⟨.of_eq hevents, rfl, rfl⟩
  | failed err hne io hevents =>
    refine ⟨?_, rfl, rfl⟩
    show Appends _ _ io.events
    rw [hevents]
    exact .one hkind
  | sent io window read hevents =>
    refine ⟨?_, rfl, rfl⟩
    show Appends _ _ io.events
    rw [hevents]
    exact .one hkind

/-- The fragments of a request. The induction is on the fragments to come; what is kept is that
the settings are those of the request. -/
theorem transportFragmentLoop_appends {data : Bytes} (hdata : txData.data = some data)
    (hfragments : fragmentsRequest config txData = true) (messageId : UInt32) (payloadMax : Nat)
    (indices : List Nat) (ctx : TransportCtx) (peer : Option PeerState)
    (hconfig : ctx.config = config) :
    Appends (Hands (PiecePacket config txData messageId)) ctx.io.events
      (transportFragmentLoop env txData data messageId payloadMax indices ctx
        peer).2.1.io.events := by
  induction indices generalizing ctx peer with
  | nil => exact .refl _
  | cons i rest ih =>
    have hpiece : ∀ peer n, PiecePacket config txData messageId (txPacket ctx.config peer txData
        (readBytes data (i * payloadMax) (min (data.length - i * payloadMax) payloadMax)) n true
        (fragmentExtension messageId (i * payloadMax) data.length)) := by
      intro peer n
      rw [hconfig]
      exact ⟨hfragments, data, peer, n, i * payloadMax, payloadMax, hdata, rfl⟩
    have hone : Appends (Hands (PiecePacket config txData messageId)) ctx.io.events
          (transportSendOneFragment env txData data messageId payloadMax ctx peer
            i).2.1.io.events ∧
        (transportSendOneFragment env txData data messageId payloadMax ctx peer i).2.1.config
          = config := by
      simp only [transportSendOneFragment, transportEncodeFragmentExt_eq]
      cases peer with
      | none => exact ⟨.one (hpiece none 0), hconfig⟩
      | some state =>
        dsimp only
        split
        · exact ⟨.refl _, hconfig⟩
        · obtain ⟨hgrows, hsame, -⟩ := @transportSendReliablePacket_appends env ctx txData _ state
            _ true _ (hpiece (some state) _)
          exact ⟨hgrows, hsame.trans hconfig⟩
    rw [transportFragmentLoop]
    generalize transportSendOneFragment env txData data messageId payloadMax ctx peer i = sent
      at hone ⊢
    obtain ⟨err, after, peer'⟩ := sent
    cases err with
    | ok => exact hone.1.trans (ih after peer' hone.2)
    | _ => exact hone.1

/-- What a request adds to the log, with the counter of message ids: whole packets leave it,
fragments carry the id it showed. -/
inductive RequestSends (config : TransportConfig) (txData : TxData) (n : UInt32)
    (before after : TransportCtx) : Prop where
  | whole
      (counter : messageCounter after.fragmentMgr = messageCounter before.fragmentMgr)
      (log : Appends (Hands fun packet => HelloPacket config txData packet ∨
        WholePacket config txData n packet) before.io.events after.io.events) :
      RequestSends config txData n before after
  | pieces
      (fragments : fragmentsRequest config txData = true)
      (counter : messageCounter after.fragmentMgr = messageCounter before.fragmentMgr + 1)
      (log : Appends (Hands fun packet => HelloPacket config txData packet ∨
        PiecePacket config txData (messageCounter before.fragmentMgr) packet)
        before.io.events after.io.events) :
      RequestSends config txData n before after

/-- A request that hands down nothing but a HELLO. -/
theorem RequestSends.quiet {n : UInt32} {after : TransportCtx}
    (hcounter : messageCounter after.fragmentMgr = messageCounter ctx.fragmentMgr)
    (hlog : Appends (Hands (HelloPacket config txData)) ctx.io.events after.io.events) :
    RequestSends config txData n ctx after :=
  .whole hcounter (hlog.mono fun _ hevent => hevent.mono fun _ h => .inl h)

/-- What came before the request only handed down a HELLO. -/
theorem RequestSends.after {n : UInt32} {base after : TransportCtx}
    (h : RequestSends config txData n base after)
    (hcounter : messageCounter base.fragmentMgr = messageCounter ctx.fragmentMgr)
    (hlog : Appends (Hands (HelloPacket config txData)) ctx.io.events base.io.events) :
    RequestSends config txData n ctx after := by
  have hfirst : ∀ kind : Packet → Prop,
      Appends (Hands fun packet => HelloPacket config txData packet ∨ kind packet)
        ctx.io.events base.io.events :=
    fun _ => hlog.mono fun _ hevent => hevent.mono fun _ h => .inl h
  cases h with
  | whole hsame hrest => exact .whole (hsame.trans hcounter) ((hfirst _).trans hrest)
  | pieces hfragments hmoved hrest =>
    rw [hcounter] at hmoved hrest
    exact .pieces hfragments hmoved ((hfirst _).trans hrest)

/-- The transmission step. -/
theorem transportTransmit_sends {data : Bytes} (hdata : txData.data = some data) {plan : SendPlan}
    (hplan : transportBuildSendPlan ctx.config txData data.length = .ok plan)
    (peer : Option PeerState) :
    RequestSends ctx.config txData (peer.elim 0 fun state => state.txWindow.nextPacketNumber) ctx
      (transportTransmit env ctx peer txData data plan).2.1 := by
  have hneeds : fragmentsRequest ctx.config txData = plan.needsFragmentation := by
    simp only [fragmentsRequest, hdata, hplan]
  simp only [transportTransmit]
  split
  · -- the loop runs behind the step of the counter
    rename_i hfragmented
    rw [hfragmented] at hneeds
    simp only [transportSendFragmented]
    cases hmanager : ctx.fragmentMgr with
    | none => exact .quiet (by rw [hmanager]) (.refl _)
    | some manager =>
      refine .pieces hneeds ?_ ?_
      · rw [transportFragmentLoop_manager, hmanager]
        rfl
      · have hloop := @transportFragmentLoop_appends env ctx.config txData data hdata hneeds
          manager.nextMessageId plan.fragmentPayloadBudget (List.range plan.fragmentCount)
          { ctx with
            fragmentMgr := some { manager with nextMessageId := manager.nextMessageId + 1 } }
          peer rfl
        rw [hmanager]
        exact hloop.mono fun _ hevent => hevent.mono fun _ h => .inr h
  · rename_i hplain
    rw [Bool.not_eq_true] at hplain
    rw [hplain] at hneeds
    have hwhole : ∀ peer n, WholePacket ctx.config txData n (txPacket ctx.config peer txData
        (transportEncodeData ctx.config txData data) n false []) :=
      fun peer n => ⟨hneeds, data, peer, hdata, rfl⟩
    -- on the peer of the request, or without one
    cases peer with
    | none => exact .whole rfl (.one (.inr (hwhole none 0)))
    | some state =>
      obtain ⟨hgrows, -, hmanager⟩ := @transportSendReliablePacket_appends env ctx txData _ state
        (transportEncodeData ctx.config txData data) false [] (hwhole (some state) _)
      exact .whole (congrArg messageCounter hmanager)
        (hgrows.mono fun _ hevent => hevent.mono fun _ h => .inr h)

/-- The part of a send behind the peer selection. -/
theorem transportSendPlanned_sends {data : Bytes} (hdata : txData.data = some data)
    (peer : Option PeerState) :
    RequestSends ctx.config txData (peer.elim 0 fun state => state.txWindow.nextPacketNumber) ctx
      (transportSendPlanned env ctx peer txData data).2 := by
  simp only [transportSendPlanned]
  split
  · split
    · exact .quiet rfl (.report _ _ _ _)
    · exact .quiet rfl (.refl _)
  · rename_i plan hplan
    have hsends := @transportTransmit_sends env ctx txData data hdata plan hplan peer
    generalize transportTransmit env ctx peer txData data plan = sent at hsends ⊢
    obtain ⟨err, after, peer'⟩ := sent
    -- writing the peer back changes neither the log nor the manager
    have hput : ∀ io, io.events = after.io.events → ∀ state : PeerState,
        RequestSends ctx.config txData (peer.elim 0 fun state => state.txWindow.nextPacketNumber)
          ctx ({ after with io := io }.put state) := by
      intro io hevents state
      cases hsends with
      | whole hcounter hlog =>
        refine .whole hcounter ?_
        show Appends _ _ io.events
        rw [hevents]
        exact hlog
      | pieces hfragments hcounter hlog =>
        refine .pieces hfragments hcounter ?_
        show Appends _ _ io.events
        rw [hevents]
        exact hlog
    cases peer' with
    | none => cases err <;> exact hsends
    | some state =>
      cases err with
      | ok => exact hput _ (xglTimeMs_events env after.io) _
      | _ => exact hput _ rfl _

/-- A request that names a connection belongs to a scope. -/
theorem TxData.peerKey_of_connection (txData : TxData) (h : txData.connectionId ≠ 0) :
    txData.peerKey = scopedKey txData.targetId txData.connectionId txData.sessionEpoch := by
  rw [TxData.peerKey, if_pos (by simp [h])]

/-- What one request adds to the log. -/
theorem xglTransportSend_sends (env : TransportEnv) (ctx : TransportCtx) (txData : TxData) :
    RequestSends ctx.config txData (sendNumber ctx.peers txData) ctx
      (xglTransportSend env ctx txData).2 := by
  simp only [xglTransportSend]
  split
  · exact .quiet rfl (.refl _)
  rename_i data hdata
  split
  · exact .quiet rfl (.refl _)
  split
  · exact .quiet rfl (.report _ _ _ _)
  split
  swap
  · rename_i hplain
    rw [sendNumber, if_neg hplain]
    exact transportSendPlanned_sends hdata none
  rename_i hrel
  have hcases := transportPrepareReliableSend_cases env ctx txData
  have hgot : ∀ {base : TransportCtx} {peer}, GetOrCreate ctx txData.peerKey (base, some peer) →
      base.config = ctx.config ∧ base.fragmentMgr = ctx.fragmentMgr ∧
        base.io.events = ctx.io.events ∧
        sendNumber ctx.peers txData = peer.txWindow.nextPacketNumber ∧
        (txData.connectionId ≠ 0 → peer.connectionId = txData.connectionId) := by
    intro base peer hfound
    rw [sendNumber, if_pos hrel]
    cases hfound with
    | found _ hlook =>
      refine ⟨rfl, rfl, rfl, by rw [hlook]; rfl, fun hne => ?_⟩
      rw [txData.peerKey_of_connection hne] at hlook
      exact congrArg PeerKey.connectionId
        (peerOf_key ((transportFindPeerScope_eq ctx.peers _ _ _).symm.trans hlook))
    | created hlook _ hevents _ =>
      refine ⟨rfl, rfl, hevents, by rw [hlook]; rfl, fun hne => ?_⟩
      rw [freshPeer, txData.peerKey_of_connection hne]
      rfl
  -- the HELLO goes where the request goes
  have hhello : ∀ {base : TransportCtx} {peer err io}, base.io.events = ctx.io.events →
      transportLowerSend env base.config base.io (openingHello base.config txData peer)
        = (err, io) →
      base.config = ctx.config →
      (txData.connectionId ≠ 0 → peer.connectionId = txData.connectionId) →
      Appends (Hands (HelloPacket ctx.config txData)) ctx.io.events io.events := by
    intro base peer err io hevents hsent hconfig hconnection
    have hgrows := @Appends.lowerSend (HelloPacket ctx.config txData) env base.config base.io
      (openingHello base.config txData peer) ⟨hrel, _, rfl, hconnection, by rw [hconfig]; rfl⟩
    rw [hsent, hevents] at hgrows
    exact hgrows
  generalize transportPrepareReliableSend env ctx txData = prepared at hcases ⊢
  -- the outcomes of the peer selection
  cases hcases with
  | refused hlook session io hevents => exact .quiet rfl (.of_eq hevents)
  | full base peer hfound hfull =>
    obtain ⟨-, hmanager, hevents, -⟩ := hgot hfound
    exact .quiet (congrArg messageCounter hmanager) (.of_eq hevents)
  | ready base peer hfound hcan hsaid =>
    obtain ⟨hconfig, hmanager, hevents, hnumber, -⟩ := hgot hfound
    rw [← hconfig, hnumber]
    exact (transportSendPlanned_sends hdata (some peer)).after (congrArg messageCounter hmanager)
      (.of_eq hevents)
  | greeted base peer hfound hcan hsaid io hsent =>
    obtain ⟨hconfig, hmanager, hevents, hnumber, hconnection⟩ := hgot hfound
    have hgreeting := hhello hevents hsent hconfig hconnection
    rw [← hconfig] at hgreeting ⊢
    rw [hnumber]
    have hplanned := @transportSendPlanned_sends env
      { base with io := io, peers := putPeer { peer with helloSent := true } base.peers } txData
      data hdata (some { peer with helloSent := true })
    exact hplanned.after (congrArg messageCounter hmanager) hgreeting
  | mute base peer hfound hsaid err hne io hsent =>
    obtain ⟨hconfig, hmanager, hevents, -, hconnection⟩ := hgot hfound
    cases err with
    | ok => exact absurd rfl hne
    | _ =>
      exact .quiet (congrArg messageCounter hmanager) (hhello hevents hsent hconfig hconnection)

end Sends

/-! ### Reception -/

/-- An acknowledgement: a feedback packet with one record, an ACK_RANGE or a SACK. -/
def AckPacket (config : TransportConfig) (packet : Packet) : Prop :=
  ∃ scope n, ∃ ext : WireExt, ext.Encodable ∧
    (ext.type = XGL_WIRE_EXT_ACK_RANGE ∨ ext.type = XGL_WIRE_EXT_SACK) ∧
    packet = feedbackPacket config scope n (encodeWireExts [ext])

/-- An acknowledgement is of that type. -/
theorem AckPacket.packetType {config : TransportConfig} {packet : Packet}
    (h : AckPacket config packet) : packet.packetType = XGL_PACKET_TYPE_ACK := by
  obtain ⟨_, _, _, -, -, rfl⟩ := h
  rfl

/-- An ACK is one. -/
theorem ackPacket_isAck (config : TransportConfig) (scope : FeedbackScope) (n : UInt32) :
    AckPacket config (ackPacket config scope n) := by
  refine ⟨scope, n, ⟨XGL_WIRE_EXT_ACK_RANGE, ackValue n⟩,
    ⟨(by decide : XGL_WIRE_EXT_ACK_RANGE ≠ 0), ?_⟩, .inl rfl, ?_⟩
  · rw [length_ackValue]
    decide
  · simp [ackPacket, encodeWireExts]

/-- So is a SACK. -/
theorem sackPacket_isAck (config : TransportConfig) (scope : FeedbackScope)
    (rxBuffered : List Packet) (base : UInt32) :
    AckPacket config (sackPacket config scope rxBuffered base) := by
  have hbitmap : (sackBitmap rxBuffered base).length ≤ 8 := length_sackBitmap_le rxBuffered base
  refine ⟨scope, base, ⟨XGL_WIRE_EXT_SACK, sackValue base (sackBitmap rxBuffered base)⟩,
    ⟨(by decide : XGL_WIRE_EXT_SACK ≠ 0), ?_⟩, .inr rfl, ?_⟩
  · simp [sackValue]
    omega
  · simp [sackPacket, encodeWireExts]

/-- The log grows, and the packets handed down are acknowledgements. -/
def AddsFeedback (config : TransportConfig) (before after : List TransportEvent) : Prop :=
  Appends (fun event => ∀ packet err, event = .layerSend packet err → AckPacket config packet)
    before after

/-- An acknowledgement goes out. -/
theorem AddsFeedback.lowerSend (env : TransportEnv) (config : TransportConfig) (io : TransportIo)
    {packet : Packet} (h : AckPacket config packet) :
    AddsFeedback config io.events (transportLowerSend env config io packet).2.events := by
  refine (@Appends.lowerSend (AckPacket config) env config io packet h).mono
    fun event hevent other err heq => ?_
  subst heq
  exact hevent

section Reception

variable {env : TransportEnv} {config : TransportConfig} (io : TransportIo)

/-- A payload for the callback is not handed down. -/
theorem emitRx_adds (packet : Packet) (data : Bytes) :
    AddsFeedback config io.events (emitRx config io packet data).events := by
  simp only [emitRx]
  split
  · exact .one fun _ _ heq => by cases heq
  · exact .refl _

/-- A delivery hands nothing down. -/
theorem transportDeliverPacket_adds (manager : Option FragmentManager) (packet : Packet)
    (data : Bytes) :
    AddsFeedback config io.events
      (transportDeliverPacket env config manager io packet data).2.2.events := by
  cases manager with
  | none => exact emitRx_adds io packet data
  | some manager =>
    simp only [transportDeliverPacket]
    split
    swap
    · exact emitRx_adds io packet data
    simp only [transportDeliverFragment]
    split
    · exact .refl _
    rename_i ext _
    have hevents := xglFragmentProcessExt_events env io manager (fragmentKey packet ext)
      packet.dataType ext.fragmentOffset ext.messageLen data 0
    generalize xglFragmentProcessExt env io manager (fragmentKey packet ext) packet.dataType
      ext.fragmentOffset ext.messageLen data 0 = processed at hevents
    have hstored : AddsFeedback config io.events
        (emitStored processed.2.2 packet processed.1.stored).events := by
      rw [← hevents]
      simp only [emitStored]
      split
      · exact .one fun _ _ heq => by cases heq
      · exact .refl _
    split
    · exact hstored.trans (emitRx_adds _ packet _)
    · exact hstored
    · exact hstored

/-- The drain acknowledges what it delivers. -/
theorem transportDrainRxBuffered_adds (manager : Option FragmentManager) (peer : PeerState) :
    AddsFeedback config io.events
      (transportDrainRxBuffered env config manager io peer).2.2.1.events := by
  refine drainLoop_rule (fun _ io' _ => AddsFeedback config io.events io'.events)
    (fun _ io' _ => AddsFeedback config io.events io'.events) (fun _ _ _ h _ => h) ?_ _ manager io
    peer (le_refl _) (.refl _)
  intro manager' io' peer' buffered after h _
  have hround : AddsFeedback config io.events (transportSendAck env config
      (transportDeliverPacket env config manager' io' buffered
        (buffered.payload?.getD [])).2.2 buffered.feedbackScope
      buffered.packetNumber).2.events := by
    rw [transportSendAck_eq]
    exact (h.trans (transportDeliverPacket_adds io' manager' buffered _)).trans
      (AddsFeedback.lowerSend env config _ (ackPacket_isAck _ _ _))
  exact ⟨fun _ => hround, fun _ => hround⟩

/-- A reliable packet is answered with an ACK or a SACK. -/
theorem rxReliable_adds (manager : Option FragmentManager) (peer : PeerState) (packet : Packet)
    (data : Bytes) :
    AddsFeedback config io.events
      (rxReliable env config manager io peer packet data).2.2.1.events := by
  have hacked := @AddsFeedback.lowerSend env config io
    (ackPacket config packet.feedbackScope packet.packetNumber) (ackPacket_isAck _ _ _)
  rcases packetNumber_trichotomy packet.packetNumber (rxOrderInit peer).rxNextPacketNumber with
    hlt | heq | hgt
  · rw [rxReliable_duplicate env config manager io data hlt]
    exact hacked
  · rw [rxReliable_expected env config manager io data heq]
    dsimp only
    have hdelivered := Appends.trans hacked (@transportDeliverPacket_adds env config
      (transportLowerSend env config io
        (ackPacket config packet.feedbackScope packet.packetNumber)).2 manager packet
      (transportDecodeData config packet data))
    generalize transportDeliverPacket env config manager (transportLowerSend env config io
      (ackPacket config packet.feedbackScope packet.packetNumber)).2 packet
      (transportDecodeData config packet data) = delivered at hdelivered
    obtain ⟨err, manager', io'⟩ := delivered
    cases err with
    | ok => exact Appends.trans hdelivered (transportDrainRxBuffered_adds io' manager' _)
    | _ => exact hdelivered
  · obtain ⟨err, io', after, _, hevents, heq⟩ := rxReliable_later env config manager io data hgt
    rw [heq, ← hevents]
    exact AddsFeedback.lowerSend env config io' (sackPacket_isAck _ _ _ _)

/-- A data packet. -/
theorem transportReceiveData_adds (ctx : TransportCtx) (packet : Packet) (data : Bytes) :
    AddsFeedback ctx.config ctx.io.events
      (transportReceiveData env ctx packet data).2.io.events := by
  by_cases hrel : packet.reliable = XGL_RELIABILITY_ACK_ELICITING
  · rcases transportReceiveData_cases env ctx packet data hrel with
      ⟨err, session, io, _, hevents, _, heq⟩ | ⟨selected, peer, hsel, _, heq⟩
    · rw [heq]
      exact .of_eq hevents
    · rw [heq, transportReceiveReliable_eq, ← hsel.frame.1, ← hsel.frame.2]
      exact rxReliable_adds selected.io selected.fragmentMgr peer packet data
  · -- an unreliable packet is delivered at once
    simp only [transportReceiveData]
    rcases transportPrepareRxPeer_cases env ctx packet with
      ⟨err, session, io, peer, hne, hevents, heq⟩ | ⟨_, heq⟩ |
        ⟨prepared, peer, selected, touched, hsel, heq, htouch⟩
    · rw [heq]
      cases err with
      | ok => exact absurd rfl hne
      | _ => exact .of_eq hevents
    · rw [heq]
      simp only [transportTouchPeer, beq_iff_eq, hrel, if_false]
      exact transportDeliverPacket_adds ctx.io ctx.fragmentMgr packet _
    · rw [heq]
      simp only [htouch, beq_iff_eq, hrel, if_false]
      rw [← hsel.frame.1, ← hsel.frame.2]
      exact transportDeliverPacket_adds selected.io selected.fragmentMgr packet _

end Reception

/-! ### Message ids -/

/-- Processing a fragment leaves the counter of message ids alone. -/
theorem FragmentProcessed.counter {env : TransportEnv} {m after : FragmentManager}
    {call : FragmentCall} {result : FragmentResult}
    (hprocessed : FragmentProcessed env m call result after) :
    after.nextMessageId = m.nextMessageId := by
  have hopened : ∀ {base : FragmentManager} {buffer : ReassemblyBuffer},
      FragmentOpened m call base buffer → base.nextMessageId = m.nextMessageId := by
    intro base buffer h
    cases h <;> rfl
  cases hprocessed with
  | invalid => rfl
  | noBuffer => rfl
  | mismatch => rfl
  | notInserted => rfl
  | waiting base buffer ranges time h =>
    show base.nextMessageId = _
    exact hopened h
  | completed base buffer ranges time h =>
    show base.nextMessageId = _
    exact hopened h

/-- Deliveries leave the counter alone. -/
theorem messageCounter_rule (config : TransportConfig) (counter : UInt32) :
    DeliveryRule config (fun _ => True) (fun manager _ => messageCounter manager = counter) where
  other := fun _ _ h => h
  freed := fun _ h => h
  delivered := by
    intro manager io packet bytes env _ _ _ h
    cases manager with
    | none => exact h
    | some m =>
      simp only [transportDeliverPacket]
      split
      swap
      · exact h
      simp only [transportDeliverFragment]
      cases deliveredFragmentExt packet.extensions with
      | error err => exact h
      | ok ext =>
        have hcases := xglFragmentProcessExt_cases env io m ⟨fragmentKey packet ext,
          packet.dataType, ext.fragmentOffset, ext.messageLen, bytes, 0⟩
        simp only [FragmentCall.process] at hcases
        dsimp only
        generalize xglFragmentProcessExt env io m (fragmentKey packet ext) packet.dataType
          ext.fragmentOffset ext.messageLen bytes 0 = processed at hcases ⊢
        obtain ⟨result, after, io'⟩ := processed
        have hafter : messageCounter (some after) = counter := hcases.counter.trans h
        dsimp only at hafter ⊢
        cases result.error with
        | ok => exact hafter
        | _ => exact hafter

/-- Reception and timers leave the counter alone. -/
theorem messageCounter_kept (env : TransportEnv) (ctx : TransportCtx) :
    (∀ packet, messageCounter (xglTransportReceive env ctx packet).2.fragmentMgr
        = messageCounter ctx.fragmentMgr) ∧
      ∀ now, messageCounter (xglTransportRun env ctx now).fragmentMgr
        = messageCounter ctx.fragmentMgr := by
  have hrule := messageCounter_rule ctx.config (messageCounter ctx.fragmentMgr)
  have hctx : Delivers ctx.config (fun _ => True)
      (fun manager _ => messageCounter manager = messageCounter ctx.fragmentMgr) ctx :=
    ⟨rfl, fun _ _ _ _ => trivial, rfl⟩
  exact ⟨fun packet => (xglTransportReceive_delivers hrule (fun _ => trivial) hctx
      fun _ => trivial).log,
    fun now => (xglTransportRun_delivers hrule hctx).log⟩

/-! ### The log -/

/-- Deliveries only add to the log. -/
theorem prefix_rule (config : TransportConfig) (start : List TransportEvent) :
    DeliveryRule config (fun _ => True) (fun _ events => start <+: events) where
  other := fun _ _ h => h.trans (List.prefix_append _ _)
  freed := fun _ h => h
  delivered := fun env _ _ _ h => h.trans (transportDeliverPacket_grows env config _ _ _ _)

/-- Whatever an action does, it only adds to the log. -/
theorem transportStep_grows (env : TransportEnv) (ctx : TransportCtx) (action : TransportAction) :
    ctx.io.events <+: (transportStep env ctx action).io.events := by
  have hrule := prefix_rule ctx.config ctx.io.events
  have hctx : Delivers ctx.config (fun _ => True) (fun _ events => ctx.io.events <+: events) ctx :=
    ⟨rfl, fun _ _ _ _ => trivial, List.prefix_rfl⟩
  cases action with
  | send txData =>
    cases xglTransportSend_sends env ctx txData with
    | whole _ hlog => exact hlog.isPrefix
    | pieces _ _ hlog => exact hlog.isPrefix
  | receive packet =>
    exact (xglTransportReceive_delivers hrule (fun _ => trivial) hctx fun _ => trivial).log
  | run now => exact (xglTransportRun_delivers hrule hctx).log

/-! ### Runs -/

/-- A packet of one of the requests. A request that fits into one packet took a number of
`numbers`, and the requests with message ids are `messages`, in the order of the ids. -/
def RequestPacket (config : TransportConfig) (asked : List TxData) (numbers : List UInt32)
    (messages : List TxData) (packet : Packet) : Prop :=
  (∃ (i : Nat) (txData : TxData) (n : UInt32), asked[i]? = some txData ∧ numbers[i]? = some n ∧
      WholePacket config txData n packet) ∨
    ∃ k txData, messages[k]? = some txData ∧ PiecePacket config txData (UInt32.ofNat k) packet

/-- A packet is an acknowledgement or the HELLO of a request, or the layers below do not tell it
from a packet of a request. -/
def SentFor (config : TransportConfig) (asked : List TxData) (numbers : List UInt32)
    (messages : List TxData) (packet : Packet) : Prop :=
  AckPacket config packet ∨ (∃ txData ∈ asked, HelloPacket config txData packet) ∨
    ∃ first, RequestPacket config asked numbers messages first ∧ SentAlike first packet

/-- Every packet of the log is an acknowledgement or belongs to a request, and every entry of a
queue is sent again as it was sent first. `numbers` are the packet numbers the requests started
with. The ids counted so far are those of `messages`, which are fragmented requests in the order
in which they were made. -/
structure SenderLog (config : TransportConfig) (asked : List TxData) (numbers : List UInt32)
    (messages : List TxData) (ctx : TransportCtx) : Prop where
  config_eq : ctx.config = config
  numbered : numbers.length = asked.length
  ids : messages.Sublist (asked.filter (fragmentsRequest config))
  counter : messageCounter ctx.fragmentMgr = UInt32.ofNat messages.length
  log : ∀ packet err, .layerSend packet err ∈ ctx.io.events →
    SentFor config asked numbers messages packet
  entries : AllEntries (fun _ events entry => FirstSent events (retransmitPacket entry)) ctx

section Runs

variable {env : TransportEnv} {config : TransportConfig} {asked messages : List TxData}
  {numbers : List UInt32} {ctx after : TransportCtx}

/-- A packet looks like itself. -/
theorem SentAlike.refl (packet : Packet) : SentAlike packet packet :=
  ⟨rfl, fun _ _ _ => rfl⟩

/-- Packets that look like the same one look alike. -/
theorem SentAlike.trans {first again last : Packet} (h : SentAlike first again)
    (h' : SentAlike again last) : SentAlike first last :=
  ⟨h'.1.trans h.1, fun net datalink allocOk =>
    (h'.2 net datalink allocOk).trans (h.2 net datalink allocOk)⟩

/-- What an index holds stays there. -/
theorem getElem?_of_prefix {α : Type} {before after : List α} (h : before <+: after) {i : Nat}
    {a : α} (hget : before[i]? = some a) : after[i]? = some a := by
  obtain ⟨later, rfl⟩ := h
  rw [List.getElem?_append_left (List.getElem?_eq_some_iff.mp hget).1, hget]

/-- With more requests it is still a packet of one of them. -/
theorem RequestPacket.mono {asked' messages' : List TxData} {numbers' : List UInt32}
    {packet : Packet} (h : RequestPacket config asked numbers messages packet)
    (hasked : asked <+: asked') (hnumbers : numbers <+: numbers')
    (hmessages : messages <+: messages') :
    RequestPacket config asked' numbers' messages' packet := by
  rcases h with ⟨i, txData, n, hget, hnumber, hwhole⟩ | ⟨k, txData, hget, hpiece⟩
  · exact .inl ⟨i, txData, n, getElem?_of_prefix hasked hget, getElem?_of_prefix hnumbers hnumber,
      hwhole⟩
  · exact .inr ⟨k, txData, getElem?_of_prefix hmessages hget, hpiece⟩

/-- So is a packet that was sent again. -/
theorem SentFor.mono {asked' messages' : List TxData} {numbers' : List UInt32} {packet : Packet}
    (h : SentFor config asked numbers messages packet) (hasked : asked <+: asked')
    (hnumbers : numbers <+: numbers') (hmessages : messages <+: messages') :
    SentFor config asked' numbers' messages' packet := by
  rcases h with hack | ⟨txData, hmem, hhello⟩ | ⟨first, hrequest, halike⟩
  · exact .inl hack
  · exact .inr (.inl ⟨txData, hasked.subset hmem, hhello⟩)
  · exact .inr (.inr ⟨first, hrequest.mono hasked hnumbers hmessages, halike⟩)

/-- A packet that was sent first for a request and is in the log. -/
theorem SenderLog.again (h : SenderLog config asked numbers messages ctx) {packet : Packet}
    (hfirst : FirstSent ctx.io.events packet) : SentFor config asked numbers messages packet := by
  obtain ⟨config', peer, txData, data, n, fragment, extensions, -, hmem, halike⟩ := hfirst
  rcases h.log _ _ hmem with hack | ⟨other, -, -, scope, -, -, hhello⟩ | ⟨first, hrequest, hsame⟩
  · -- the type of a data packet is left to the frame builder
    exact absurd hack.packetType (by decide : XGL_PACKET_TYPE_INVALID ≠ XGL_PACKET_TYPE_ACK)
  · exact absurd (congrArg Packet.packetType hhello)
      (by decide : XGL_PACKET_TYPE_INVALID ≠ XGL_PACKET_TYPE_CONTROL)
  · exact .inr (.inr ⟨first, hrequest, hsame.trans halike⟩)

/-- What a step sends again was sent first for a request. -/
theorem SenderLog.repeats (h : SenderLog config asked numbers messages ctx) {limit : UInt8}
    (hrepeats : Repeats (fun _ _ entry => FirstSent ctx.io.events (retransmitPacket entry)) limit
      ctx.io.events after.io.events) :
    ∀ packet err, .layerSend packet err ∈ after.io.events →
      SentFor config asked numbers messages packet := by
  obtain ⟨new, hevents, hnew⟩ := hrepeats
  intro packet err hmem
  rw [hevents] at hmem
  rcases List.mem_append.mp hmem with hold | hadded
  · exact h.log packet err hold
  · obtain ⟨_, entry, hfirst, rfl⟩ := hnew packet err hadded
    exact h.again hfirst

/-- A step whose new packets are acknowledgements. -/
theorem SenderLog.feedback (h : SenderLog config asked numbers messages ctx)
    (hadds : AddsFeedback config ctx.io.events after.io.events) :
    ∀ packet err, .layerSend packet err ∈ after.io.events →
      SentFor config asked numbers messages packet := by
  have hall : ∀ event ∈ after.io.events, ∀ packet err, event = .layerSend packet err →
      SentFor config asked numbers messages packet := by
    refine hadds.forall_mem (fun event hold packet err heq => ?_) fun event hkind packet err heq =>
      .inl (hkind packet err heq)
    exact h.log packet err (heq ▸ hold)
  exact fun packet err hmem => hall _ hmem packet err rfl

/-- A received packet. -/
theorem xglTransportReceive_sentFor (h : SenderLog config asked numbers messages ctx)
    (packet : Packet) :
    ∀ sent err, .layerSend sent err ∈ (xglTransportReceive env ctx packet).2.io.events →
      SentFor config asked numbers messages sent := by
  simp only [xglTransportReceive]
  split
  · exact h.feedback (.of_eq (@transportProcessControlPacket_senders env ctx packet).1)
  split
  · have hkept : AllEntries (fun _ _ entry => FirstSent ctx.io.events (retransmitPacket entry))
        ctx := h.entries
    exact h.repeats (transportProcessAckPacket_entries (firstSent_kept ctx.io.events)
      (fun _ => trivial) hkept (fun _ _ _ _ _ _ _ _ => trivial)).2
  split
  · exact h.log
  · exact h.feedback (h.config_eq ▸ transportReceiveData_adds ctx packet _)

/-- The requests an action makes. -/
def TransportAction.requests : TransportAction → List TxData
  | .send txData => [txData]
  | _ => []

/-- The packet numbers its requests start with. -/
def TransportAction.startNumbers (ctx : TransportCtx) (action : TransportAction) : List UInt32 :=
  action.requests.map (sendNumber ctx.peers)

/-- A request adds its packets to the log. The new requests and numbers stand last, and a
fragmented request takes the id that the counter showed. -/
theorem xglTransportSend_senderLog (h : SenderLog config asked numbers messages ctx)
    (txData : TxData)
    (hentries : AllEntries (fun _ events entry => FirstSent events (retransmitPacket entry))
      (xglTransportSend env ctx txData).2) :
    ∃ messages', messages <+: messages' ∧
      SenderLog config (asked ++ [txData]) (numbers ++ [sendNumber ctx.peers txData]) messages'
        (xglTransportSend env ctx txData).2 := by
  have hconfig := (xglTransportSend_config env ctx txData).trans h.config_eq
  have hasked : asked <+: asked ++ [txData] := List.prefix_append _ _
  have hnumbers : numbers <+: numbers ++ [sendNumber ctx.peers txData] := List.prefix_append _ _
  have hnumbered : (numbers ++ [sendNumber ctx.peers txData]).length
      = (asked ++ [txData]).length := by
    rw [List.length_append, List.length_append, h.numbered]
    rfl
  have hlast : (asked ++ [txData])[asked.length]? = some txData ∧
      (numbers ++ [sendNumber ctx.peers txData])[asked.length]?
        = some (sendNumber ctx.peers txData) := by
    refine ⟨List.getElem?_concat_length, ?_⟩
    rw [← h.numbered]
    exact List.getElem?_concat_length
  -- old packets and the HELLO of the request
  have hrest : ∀ (kind : Packet → Prop) (messages' : List TxData), messages <+: messages' →
      Appends (Hands fun packet => HelloPacket config txData packet ∨ kind packet) ctx.io.events
        (xglTransportSend env ctx txData).2.io.events →
      (∀ packet, kind packet → RequestPacket config (asked ++ [txData])
        (numbers ++ [sendNumber ctx.peers txData]) messages' packet) →
      ∀ packet err, .layerSend packet err ∈ (xglTransportSend env ctx txData).2.io.events →
        SentFor config (asked ++ [txData]) (numbers ++ [sendNumber ctx.peers txData]) messages'
          packet := by
    intro kind messages' hmessages hlog hkind packet err hmem
    obtain ⟨new, hevents, hnew⟩ := hlog
    rw [hevents] at hmem
    -- a packet that was in the log, or one that the request added
    rcases List.mem_append.mp hmem with hold | hadded
    · exact (h.log packet err hold).mono hasked hnumbers hmessages
    · rcases hnew _ hadded with hhello | hpacket
      · exact .inr (.inl ⟨txData, by simp, hhello⟩)
      · exact .inr (.inr ⟨packet, hkind packet hpacket, .refl packet⟩)
  have hsends := xglTransportSend_sends env ctx txData
  rw [h.config_eq] at hsends
  -- the request became one packet, or fragments, or nothing
  cases hsends with
  | whole hcounter hlog =>
    refine ⟨messages, List.prefix_rfl, hconfig, hnumbered, h.ids.trans (hasked.sublist.filter _),
      hcounter.trans h.counter, hrest _ _ List.prefix_rfl hlog fun packet hwhole => ?_, hentries⟩
    exact .inl ⟨asked.length, txData, _, hlast.1, hlast.2, hwhole⟩
  | pieces hfragments hcounter hlog =>
    refine ⟨messages ++ [txData], List.prefix_append _ _, hconfig, hnumbered, ?_, ?_,
      hrest _ _ (List.prefix_append _ _) hlog fun packet hpiece => ?_, hentries⟩
    · rw [List.filter_append, List.filter_cons_of_pos (by rw [hfragments]), List.filter_nil]
      exact h.ids.append (List.Sublist.refl _)
    · rw [hcounter, h.counter, List.length_append, List.length_singleton, UInt32.ofNat_add]
      rfl
    · rw [h.counter] at hpiece
      exact .inr ⟨messages.length, txData, List.getElem?_concat_length, hpiece⟩

/-- The step. -/
theorem transportStep_senderLog (h : SenderLog config asked numbers messages ctx)
    (action : TransportAction) :
    ∃ messages', messages <+: messages' ∧
      SenderLog config (asked ++ action.requests) (numbers ++ action.startNumbers ctx) messages'
        (transportStep env ctx action) := by
  have hconfig := (transportStep_config env ctx action).trans h.config_eq
  have hspares : ActionSpares (fun _ _ => True) ctx action := by
    cases action with
    | receive packet => exact fun _ _ _ _ _ _ _ _ => trivial
    | _ => trivial
  have hentries := @transportStep_entries _ _ _ _ firstSent_rule env ctx (fun _ => trivial)
    List.nil_prefix h.entries action (fun _ _ => trivial) hspares
  cases action with
  | send txData => exact xglTransportSend_senderLog h txData hentries
  | receive packet =>
    simp only [TransportAction.startNumbers, TransportAction.requests, List.map_nil,
      List.append_nil]
    exact ⟨messages, List.prefix_rfl, hconfig, h.numbered, h.ids,
      ((messageCounter_kept env ctx).1 packet).trans h.counter,
      xglTransportReceive_sentFor h packet, hentries⟩
  | run now =>
    have hkept : AllEntries (fun _ _ entry => FirstSent ctx.io.events (retransmitPacket entry))
        ctx := h.entries
    simp only [TransportAction.startNumbers, TransportAction.requests, List.map_nil,
      List.append_nil]
    exact ⟨messages, List.prefix_rfl, hconfig, h.numbered, h.ids,
      ((messageCounter_kept env ctx).2 now).trans h.counter,
      h.repeats (xglTransportRun_entries (firstSent_kept ctx.io.events) now trivial hkept).2,
      hentries⟩

/-- A new transport. -/
theorem senderLog_init (hinit : xglTransportInit config = .ok ctx) :
    SenderLog config [] [] [] ctx := by
  obtain ⟨hpeers, hevents, hconfig⟩ := xglTransportInit_fresh hinit
  refine ⟨hconfig, rfl, .slnil, ?_, ?_, ?_⟩
  · simp only [xglTransportInit] at hinit
    split at hinit
    · cases hinit
    · cases hinit
      show messageCounter (if _ then _ else _) = _
      split <;> rfl
  · intro packet err hmem
    rw [hevents] at hmem
    cases hmem
  · intro peer hpeer
    rw [hpeers] at hpeer
    cases hpeer

end Runs

end XgenLink
