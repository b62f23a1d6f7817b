import XgenLink.Proofs.AuthenticationGate
import XgenLink.Proofs.FrameArrival
import XgenLink.Proofs.PeerRule
import XgenLink.Proofs.SentPackets
import XgenLink.System.NodeMesh

/-!
# `XgenLink.Proofs.EndToEnd`: applications see what applications sent

In a network that loses, repeats, delays and reorders frames and gives them to any node, every
payload that a receive callback is handed was asked for: it comes from the node the callback
names, was addressed to this node, has the data type of the request and is the payload of the
request as it was handed down. Fragments of different messages are never put together.

The network has no adversary: a frame on the wire was put there by a node. With an adversary see
`AuthenticMesh`, for the order of the payloads `InOrderEndToEnd`, and for nodes that read bytes
instead of frames `ByteStreams`.

The argument meets in the middle. On the sending side every packet of a log belongs to a request
and every message id to one fragmented request (`SenderLog`). On the receiving side a payload is
that of one packet, or made of fragments of one source and message id (`WholeLog`). The invariant
of the network in between is that every frame on the wire stands for a packet that some node
handed down, up to the hop limit (`Travels`). Since a message id belongs to one request of its
node, the fragments that were put together are pieces of one payload, and cover it.

* `ArrivesFrom`, `ArrivesWhole`, `ArrivesPiece`: what a packet of a request arrives with.
* `NodeMesh.step_stepped`: what one step of the network can do.
* `NodesInv`, `NodesInv.integrity`: what holds of the nodes, whatever is on the wire, and what
  follows.
* `NodeMeshInv`, `nodeMeshInv_step`: the invariant of the network.
* `mesh_integrity`: the theorem about runs.
-/

set_option autoImplicit false

namespace XgenLink

/-! ### Rules -/

section Rules

variable {config : TransportConfig} {accepts wider : Packet → Prop}
  {holds also : Option FragmentManager → List TransportEvent → Prop}

/-- A rule for more packets is a rule for fewer. -/
theorem DeliveryRule.narrow (rule : DeliveryRule config wider holds)
    (h : ∀ packet, accepts packet → wider packet) : DeliveryRule config accepts holds where
  other := rule.other
  freed := rule.freed
  delivered := fun env hshown haccepts => rule.delivered env hshown (h _ haccepts)

/-- Two facts at once. -/
theorem DeliveryRule.and (rule : DeliveryRule config accepts holds)
    (rule' : DeliveryRule config accepts also) :
    DeliveryRule config accepts fun manager events =>
      holds manager events ∧ also manager events where
  other := fun event hnone h => ⟨rule.other event hnone h.1, rule'.other event hnone h.2⟩
  freed := fun test h => ⟨rule.freed test h.1, rule'.freed test h.2⟩
  delivered := fun env hshown haccepts hbytes h =>
    ⟨rule.delivered env hshown haccepts hbytes h.1,
      rule'.delivered env hshown haccepts hbytes h.2⟩

/-- Every payload was handed over with an accepted packet, and under its source and data type. -/
def OriginsAccepted (accepts : Packet → Prop) (events : List TransportEvent) : Prop :=
  ∀ sourceId dataType data origin, .rxCallback sourceId dataType data origin ∈ events →
    sourceId = origin.sourceId ∧ dataType = origin.dataType ∧ accepts origin

/-- Other events do not matter. -/
theorem OriginsAccepted.append {events : List TransportEvent} {event : TransportEvent}
    (h : OriginsAccepted accepts events)
    (hevent : ∀ sourceId dataType data origin, event = .rxCallback sourceId dataType data origin →
      sourceId = origin.sourceId ∧ dataType = origin.dataType ∧ accepts origin) :
    OriginsAccepted accepts (events ++ [event]) := by
  intro sourceId dataType data origin hmem
  rcases List.mem_append.mp hmem with hold | hnew
  · exact h sourceId dataType data origin hold
  · exact hevent sourceId dataType data origin (List.mem_singleton.mp hnew).symm

/-- A payload for the callback is handed over with its packet. -/
theorem OriginsAccepted.emitRx {io : TransportIo} {packet : Packet} (haccepts : accepts packet)
    (h : OriginsAccepted accepts io.events) (data : Bytes) :
    OriginsAccepted accepts (emitRx config io packet data).events := by
  simp only [XgenLink.emitRx]
  split
  · refine h.append fun sourceId dataType bytes origin heq => ?_
    cases heq
    exact ⟨rfl, rfl, haccepts⟩
  · exact h

/-- Deliveries of accepted packets keep this. A fragment hands a payload over when it completes
its message, under the source and data type of that fragment. -/
theorem originsAccepted_rule (config : TransportConfig) (accepts : Packet → Prop) :
    DeliveryRule config accepts fun _ events => OriginsAccepted accepts events where
  other := by
    intro _ events event hnone h
    refine h.append fun sourceId dataType data origin heq => ?_
    rw [heq] at hnone
    cases hnone
  freed := fun _ h => h
  delivered := by
    intro manager io packet bytes env _ haccepts _ h
    cases manager with
    | none => exact h.emitRx haccepts bytes
    | some m =>
      simp only [transportDeliverPacket]
      split
      swap
      · exact h.emitRx haccepts bytes
      simp only [transportDeliverFragment]
      cases deliveredFragmentExt packet.extensions with
      | error err => exact h
      | ok ext =>
        have hevents := xglFragmentProcessExt_events env io m (fragmentKey packet ext)
          packet.dataType ext.fragmentOffset ext.messageLen bytes 0
        dsimp only
        generalize xglFragmentProcessExt env io m (fragmentKey packet ext) packet.dataType
          ext.fragmentOffset ext.messageLen bytes 0 = processed at hevents ⊢
        have hstored : OriginsAccepted accepts
            (emitStored processed.2.2 packet processed.1.stored).events := by
          rw [← hevents] at h
          simp only [emitStored]
          split
          · exact h.append fun _ _ _ _ heq => by cases heq
          · exact h
        cases processed.1.error with
        | ok => exact hstored.emitRx haccepts _
        | _ => exact hstored

/-! ### More accepted packets -/

/-- What was put together of fewer packets was put together of more. -/
theorem Reassembled.imp {events : List TransportEvent} {key : MessageKey} {data : Bytes}
    (h : Reassembled config accepts events key data)
    (hwider : ∀ packet, accepts packet → wider packet) :
    Reassembled config wider events key data := by
  obtain ⟨parts, hparts, hmade⟩ := h
  refine ⟨parts, fun part hpart => ?_, hmade⟩
  exact { hparts part hpart with accepted := hwider _ (hparts part hpart).accepted }

/-- A log of fewer packets is a log of more. -/
theorem WholeLog.imp {manager : Option FragmentManager} {events : List TransportEvent}
    (h : WholeLog config accepts manager events)
    (hwider : ∀ packet, accepts packet → wider packet) : WholeLog config wider manager events := by
  refine ⟨h.present, ?_, ?_⟩
  · intro before after sourceId dataType data origin heq
    rcases h.whole before after sourceId dataType data origin heq with
      ⟨hflag, haccepted, hbytes⟩ | ⟨ext, hext, hlen, hmade⟩
    · exact .inl ⟨hflag, hwider origin haccepted, hbytes⟩
    · exact .inr ⟨ext, hext, hlen, hmade.imp hwider⟩
  · intro m hm buffer hbuffer
    obtain ⟨parts, hfilled⟩ := h.buffers m hm buffer hbuffer
    refine ⟨parts, { hfilled with parts_of := fun part hpart => ?_ }⟩
    exact { hfilled.parts_of part hpart with
      accepted := hwider _ (hfilled.parts_of part hpart).accepted }

/-- A log of requests and reports is whole when the log before was. -/
theorem WholeLog.send {manager manager' : Option FragmentManager}
    {before after : List TransportEvent} {kind : Packet → Prop}
    (h : WholeLog config accepts manager before)
    (hlog : Appends (Hands kind) before after)
    (hbuffers : manager'.map FragmentManager.reassemblyList
      = manager.map FragmentManager.reassemblyList) :
    WholeLog config accepts manager' after := by
  obtain ⟨new, rfl, hnew⟩ := hlog
  refine ⟨?_, ?_, ?_⟩
  · have hsome := congrArg Option.isSome hbuffers
    simp only [Option.isSome_map] at hsome
    rw [hsome]
    exact h.present
  · -- one event after the other
    have hwhole : ∀ events, AllWhole config accepts events → ∀ added : List TransportEvent,
        (∀ event ∈ added, Hands kind event) → AllWhole config accepts (events ++ added) := by
      intro events hevents added
      induction added generalizing events with
      | nil =>
        intro _
        rw [List.append_nil]
        exact hevents
      | cons event rest ih =>
        intro hadded
        rw [List.append_cons]
        refine ih _ (hevents.append fun sourceId dataType data origin heq => ?_) fun other hother =>
          hadded other (List.mem_cons_of_mem _ hother)
        have hhands := hadded event List.mem_cons_self
        rw [heq] at hhands
        exact hhands.elim
    exact hwhole before h.whole new hnew
  · intro m hm buffer hbuffer
    rw [hm] at hbuffers
    obtain ⟨old, hold, hlist⟩ := Option.map_eq_some_iff.mp hbuffers.symm
    rw [← hlist] at hbuffer
    obtain ⟨parts, hfilled⟩ := h.buffers old hold buffer hbuffer
    exact ⟨parts, { hfilled with parts_of := fun part hpart =>
      (hfilled.parts_of part hpart).mono fun event hmem => List.mem_append_left _ hmem }⟩

/-- The same of the packets that payloads were handed over with. -/
theorem OriginsAccepted.send {before after : List TransportEvent} {kind : Packet → Prop}
    (h : OriginsAccepted accepts before) (hlog : Appends (Hands kind) before after) :
    OriginsAccepted accepts after := by
  obtain ⟨new, rfl, hnew⟩ := hlog
  intro sourceId dataType data origin hmem
  rcases List.mem_append.mp hmem with hold | hadded
  · exact h sourceId dataType data origin hold
  · exact (hnew _ hadded).elim

/-- A request leaves the out-of-order lists alone. -/
theorem held_sendRule (env : TransportEnv) (accepts : Packet → Prop) :
    SendRule env fun peer => ∀ b ∈ peer.rxBuffered, accepts b where
  fresh := fun _ _ b hb => nomatch hb
  session := fun _ _ _ _ h => h
  send := by
    intro ctx peer txData data fragment extensions h
    have hcases := transportSendReliablePacket_cases env ctx peer txData data fragment extensions
    generalize transportSendReliablePacket env ctx peer txData data fragment extensions = sent
      at hcases ⊢
    cases hcases <;> exact h

end Rules

/-! ### Packets of requests that arrive -/

section Arriving

variable {config : TransportConfig} {txData : TxData} {node : Node} {packet q : Packet}

/-- What every packet of a request arrives with. -/
structure ArrivesFrom (config : TransportConfig) (txData : TxData) (q : Packet) : Prop where
  sourceId : q.sourceId = config.localId
  targetId : q.targetId = txData.targetId
  dataType : q.dataType = txData.dataType
  compress : q.compress = 0
  sessionEpoch : q.sessionEpoch = 0
  connectionId : txData.connectionId ≠ 0 → q.connectionId = txData.connectionId
  reliable : q.reliable = XGL_RELIABILITY_ACK_ELICITING → txData.reliable = true

/-- A packet the transport of a node sends arrives with the ids and the data type of the request. -/
theorem arrivesFrom_txPacket {peer : Option PeerState} {data : Bytes} {n : UInt32} {fragment : Bool}
    {own : List WireExt} (hlocal : node.network.localId = config.localId)
    (hencodable : ∀ ext ∈ own, ext.Encodable) (hskipped : ∀ ext ∈ own, ext.Skipped)
    (h : Arrives node (txPacket config peer txData data n fragment (encodeWireExts own)) q) :
    ArrivesFrom config txData q := by
  obtain ⟨hdataType, hepoch⟩ := arrives_dataType h rfl hencodable hskipped
  refine ⟨?_, h.targetId, hdataType, h.compress, hepoch, h.connectionId, arrives_reliable h⟩
  rw [h.sourceId, sentSource]
  split
  · exact hlocal
  · rfl

/-- A request arrives in one packet, with a number. -/
structure ArrivesWhole (config : TransportConfig) (txData : TxData) (n : UInt32) (q : Packet) :
    Prop extends ArrivesFrom config txData q where
  number : q.packetNumber = n
  fragment : q.fragment = 0
  unfragmented : ∀ ext, deliveredFragmentExt q.extensions ≠ .ok ext
  payload : ∃ data, txData.data = some data ∧ q.payload? = some (handedDown config txData data)

/-- A fragment of a request arrives. -/
structure ArrivesPiece (config : TransportConfig) (txData : TxData) (messageId : UInt32)
    (q : Packet) : Prop extends ArrivesFrom config txData q where
  fragment : q.fragment ≠ 0
  payload : ∃ data offset budget, txData.data = some data ∧ handedDown config txData data = data ∧
    deliveredFragmentExt q.extensions
      = .ok ⟨messageId, UInt32.ofNat offset, UInt32.ofNat data.length⟩ ∧
    q.payload? = some (readBytes data offset (min (data.length - offset) budget))

/-- A message in one packet arrives as such. -/
theorem WholePacket.arrives {n : UInt32} (hwhole : WholePacket config txData n packet)
    (hlocal : node.network.localId = config.localId) (h : Arrives node packet q) :
    ArrivesWhole config txData n q := by
  obtain ⟨hplan, data, peer, hdata, rfl⟩ := hwhole
  refine ⟨@arrivesFrom_txPacket config txData node q peer _ n false [] hlocal
      (fun _ hmem => absurd hmem List.not_mem_nil) (fun _ hmem => absurd hmem List.not_mem_nil) h,
    h.packetNumber, ?_, arrives_unfragmented h rfl, data, hdata, ?_⟩
  · by_contra hflag
    exact absurd ((arrives_fragment h).mp hflag) Bool.false_ne_true
  · rw [h.payload, handedDown, hplan]
    rfl

/-- The extension of a fragment as a record. -/
theorem fragmentExtension_records (messageId : UInt32) (offset totalLen : Nat) :
    ∃ ext : WireExt, fragmentExtension messageId offset totalLen = encodeWireExts [ext] ∧
      ext.Encodable ∧ ext.type = XGL_WIRE_EXT_FRAGMENT := by
  refine ⟨⟨XGL_WIRE_EXT_FRAGMENT, xglWireEncodeFragmentExtValue messageId (UInt32.ofNat offset)
    (UInt32.ofNat totalLen)⟩, ?_, ⟨(by decide : XGL_WIRE_EXT_FRAGMENT ≠ 0), ?_⟩, rfl⟩
  · simp [fragmentExtension, encodeWireExts, xglWireEncodeFragmentExtValue]
  · simp [xglWireEncodeFragmentExtValue]

/-- A fragment arrives as a fragment of the same message. -/
theorem PiecePacket.arrives {messageId : UInt32}
    (hpiece : PiecePacket config txData messageId packet)
    (hlocal : node.network.localId = config.localId) (h : Arrives node packet q) :
    ArrivesPiece config txData messageId q := by
  obtain ⟨hplan, data, peer, n, offset, budget, hdata, rfl⟩ := hpiece
  obtain ⟨ext, hexts, hencodable, htype⟩ :=
    fragmentExtension_records messageId offset data.length
  have hfrom : ArrivesFrom config txData q := by
    rw [hexts] at h
    refine arrivesFrom_txPacket hlocal (fun record hmem => ?_) (fun record hmem => ?_) h
    · rw [List.mem_singleton.mp hmem]
      exact hencodable
    · rw [List.mem_singleton.mp hmem]
      exact ⟨htype ▸ (by decide : XGL_WIRE_EXT_FRAGMENT ≠ XGL_WIRE_EXT_DATA_TYPE),
        htype ▸ (by decide : XGL_WIRE_EXT_FRAGMENT ≠ XGL_WIRE_EXT_SESSION)⟩
  refine ⟨hfrom, (arrives_fragment h).mpr rfl, data, offset, budget, hdata, ?_, arrives_piece h,
    h.payload⟩
  rw [handedDown, hplan]
  rfl

/-- The layers below do not tell the packets apart, so they arrive as one. -/
theorem SentAlike.arrives {first again : Packet} (halike : SentAlike first again)
    (h : Arrives node again q) : Arrives node first q := by
  obtain ⟨bytes, sent, ttl, hsent, hpacket, hq⟩ := h
  refine ⟨bytes, sent, ttl, ?_, hpacket, hq⟩
  rw [← hsent, Node.lowerSend, Node.lowerSend, halike.2]

/-- The bytes handed over for a packet that arrived without a compression id. -/
theorem ArrivesFrom.handedBytes {receiver : TransportConfig} {bytes data : Bytes}
    (h : ArrivesFrom config txData q) (hpayload : q.payload? = some data)
    (hbytes : HandedBytes receiver q bytes) : bytes = data := by
  have hplain : transportDecodeData receiver q (q.payload?.getD []) = q.payload?.getD [] := by
    rw [transportDecodeData, if_pos (by simp [h.compress])]
  rw [HandedBytes, hplain, or_self, hpayload] at hbytes
  exact hbytes

/-- Parts that are pieces of one payload make up that payload. -/
theorem MadeOf.eq_payload {handed data : Bytes} {parts : List Part} (hmade : MadeOf handed parts)
    (hlen : handed.length = data.length) (hsize : data.length < 2 ^ 32)
    (hpieces : ∀ part ∈ parts, ∃ offset budget, part.ext.fragmentOffset = UInt32.ofNat offset ∧
      part.bytes = readBytes data offset (min (data.length - offset) budget)) :
    handed = data := by
  refine ext_byteAt hlen fun i hi => ?_
  obtain ⟨part, hpart, hlo, hhi⟩ := hmade.filled i hi
  obtain ⟨offset, budget, hoffset, hbytes⟩ := hpieces part hpart
  rw [hbytes, length_readBytes] at hhi
  -- a part with a byte starts inside the payload, so its offset did not wrap
  have hplace : part.ext.fragmentOffset.toNat = offset ∨ data.length ≤ offset := by
    rcases Nat.lt_or_ge offset data.length with hin | hout
    · left
      rw [hoffset, UInt32.toNat_ofNat_of_lt' (show offset < 2 ^ 32 from hin.trans hsize)]
    · exact .inr hout
  rcases hplace with hplace | hout
  swap
  · rw [Nat.sub_eq_zero_of_le hout, Nat.zero_min] at hhi
    omega
  rw [hplace] at hlo hhi
  have hbyte : part.bytes[i - offset]? = some (byteAt data i) := by
    have hshort : i - offset < part.bytes.length := by
      rw [hbytes, length_readBytes]
      omega
    have hread : byteAt part.bytes (i - offset) = byteAt data i := by
      rw [hbytes, byteAt_readBytes _ _ _ _ (by omega), Nat.add_sub_cancel' hlo]
    rw [← hread, byteAt_of_lt _ _ hshort, List.getElem?_eq_getElem hshort]
  have hstands := hmade.placed part hpart (i - offset) (byteAt data i) hbyte
  rw [hplace, Nat.add_sub_cancel' hlo] at hstands
  rw [byteAt, List.getD_eq_getElem?_getD, hstands]
  rfl

end Arriving

/-! ### The receiving side -/

/-- The receiving side of a node, with more packets that travel. -/
theorem receiver_imp {receiver : TransportConfig} {accepts wider : Packet → Prop}
    {ctx : TransportCtx}
    (h : Delivers receiver accepts (fun manager events =>
      WholeLog receiver accepts manager events ∧ OriginsAccepted accepts events) ctx)
    (hwider : ∀ q, accepts q → wider q) :
    Delivers receiver wider (fun manager events =>
      WholeLog receiver wider manager events ∧ OriginsAccepted wider events) ctx := by
  refine ⟨h.config_eq, fun peer hpeer b hb => hwider b (h.held peer hpeer b hb),
    h.log.1.imp hwider, fun sourceId dataType data origin hmem => ?_⟩
  obtain ⟨hsource, htype, haccepts⟩ := h.log.2 sourceId dataType data origin hmem
  exact ⟨hsource, htype, hwider origin haccepts⟩

/-- The receiving side of a node that calls its transport. A packet it is given has to be
accepted unless it is feedback. -/
theorem transportStep_receiver {receiver : TransportConfig} {accepts : Packet → Prop}
    {env : TransportEnv} {ctx : TransportCtx} (hfragments : receiver.enableFragmentation = true)
    (action : TransportAction)
    (haction : ∀ packet, action = .receive packet → ¬ packet.Feedback → accepts packet)
    (h : Delivers receiver accepts (fun manager events =>
      WholeLog receiver accepts manager events ∧ OriginsAccepted accepts events) ctx) :
    Delivers receiver accepts (fun manager events =>
      WholeLog receiver accepts manager events ∧ OriginsAccepted accepts events)
      (transportStep env ctx action) := by
  have hrule := (@DeliveryRule.narrow receiver accepts _ _ (whole_rule receiver accepts)
    fun packet haccepts => ⟨haccepts, fun _ => hfragments⟩).and
      (originsAccepted_rule receiver accepts)
  cases action with
  | send txData =>
    obtain ⟨hwhole, horigins⟩ := h.log
    have hbuffers : (xglTransportSend env ctx txData).2.fragmentMgr.map
        FragmentManager.reassemblyList = ctx.fragmentMgr.map FragmentManager.reassemblyList :=
      xglTransportSend_buffers ctx
    refine ⟨(xglTransportSend_config env ctx txData).trans h.config_eq,
      xglTransportSend_rule (held_sendRule env accepts) h.held txData, ?_⟩
    cases xglTransportSend_sends env ctx txData with
    | whole _ hlog => exact ⟨hwhole.send hlog hbuffers, horigins.send hlog⟩
    | pieces _ _ hlog => exact ⟨hwhole.send hlog hbuffers, horigins.send hlog⟩
  | receive packet =>
    refine xglTransportReceive_delivers hrule (fun _ => trivial) h fun htaken => ?_
    exact haction packet rfl fun hfeedback => hfeedback.elim htaken.control htaken.ack
  | run now => exact xglTransportRun_delivers hrule h

/-! ### The network -/

section Network

variable {ι : Type} [DecidableEq ι] {config : ι → TransportConfig} {world : ι → World}
  {mesh after : NodeMesh ι} {numbers : ι → List UInt32}

/-- The packet is what some node is given for a packet that a node handed down. -/
def Travels (config : ι → TransportConfig) (mesh : NodeMesh ι) (q : Packet) : Prop :=
  ∃ j node packet err, .layerSend packet err ∈ (mesh.node j).transport.io.events ∧
    node.network.localId = (config j).localId ∧ Arrives node packet q

/-- A data packet for a node. -/
structure TravelsTo (config : ι → TransportConfig) (mesh : NodeMesh ι) (i : ι) (q : Packet) :
    Prop where
  travels : Travels config mesh q
  target : q.targetId = (config i).localId ∨ q.targetId = XGL_BROADCAST_ID
  data : ¬ q.Feedback

/-- What holds of the nodes in every state. `numbers` are the packet numbers the requests started
with. -/
structure NodesInv (config : ι → TransportConfig) (mesh : NodeMesh ι)
    (numbers : ι → List UInt32) : Prop where
  network : ∀ i, (mesh.node i).network.localId = (config i).localId
  sender : ∀ i, ∃ messages,
    SenderLog (config i) (mesh.asked i) (numbers i) messages (mesh.node i).transport
  receiver : ∀ i, Delivers (config i) (TravelsTo config mesh i)
    (fun manager events => WholeLog (config i) (TravelsTo config mesh i) manager events ∧
      OriginsAccepted (TravelsTo config mesh i) events) (mesh.node i).transport

/-- What holds in every state of a network without an adversary. -/
structure NodeMeshInv (config : ι → TransportConfig) (mesh : NodeMesh ι)
    (numbers : ι → List UInt32) : Prop extends NodesInv config mesh numbers where
  wire : ∀ frame ∈ mesh.wire, ∀ q, framePacket? frame = some q → Travels config mesh q

/-- The node is the same up to the parser and the replay windows of its datalink. -/
structure SameAbove (node after : Node) : Prop where
  transport : after.transport = node.transport
  network : after.network = node.network
  auth : after.datalink.authConfig = node.datalink.authConfig

/-- The network after a call of the transport of a node. -/
def NodeMesh.call (world : ι → World) (mesh : NodeMesh ι) (i : ι) (node : Node)
    (action : TransportAction) : NodeMesh ι :=
  { mesh.move i (node.advance (transportStep (node.envIn (world i)) node.transport action)) with
    asked := Function.update mesh.asked i (mesh.asked i ++ action.requests) }

/-- A node is given a frame of the wire, and it is passed up. -/
def PassedUp (mesh : NodeMesh ι) (i : ι) (index : Nat) (frame : Bytes) : Prop :=
  mesh.wire[index]? = some frame ∧
    .upperReceive frame frame.length
      ∈ (xglDatalinkProcessFrame (mesh.node i).datalink frame frame.length).2.2

/-- What one step can do. A node calls its transport, with the packet of a frame when it
receives one, or it handles a frame without its transport and may hand it on. -/
inductive Stepped (world : ι → World) (mesh : NodeMesh ι) (step : NodeMeshAction ι) :
    NodeMesh ι → Prop where
  | same : Stepped world mesh step mesh
  | transport (i : ι) (node : Node) (hnode : SameAbove (mesh.node i) node)
      (action : TransportAction)
      (hreceived : ∀ packet, action = .receive packet → ∃ index allocOk frame,
        step = .receive i index allocOk ∧ PassedUp mesh i index frame ∧
          framePacket? frame = some packet ∧
            xglNetworkIsLocal node.network packet.targetId = true) :
      Stepped world mesh step (mesh.call world i node action)
  | handled (i : ι) (node : Node) (hnode : SameAbove (mesh.node i) node) (sent : List Bytes)
      (hsent : ∀ next ∈ sent, ∃ frame ∈ mesh.wire, ForwardHop frame next) :
      Stepped world mesh step (mesh.move i (node, sent))

/-- Every step is one of these. -/
theorem NodeMesh.step_stepped (world : ι → World) (mesh : NodeMesh ι)
    (action : NodeMeshAction ι) : Stepped world mesh action (mesh.step world action) := by
  have hquiet : ∀ i, Function.update mesh.asked i (mesh.asked i ++ []) = mesh.asked := by
    intro i
    rw [List.append_nil, Function.update_eq_self]
  cases action with
  | send i txData =>
    exact .transport i (mesh.node i) ⟨rfl, rfl, rfl⟩ (.send txData) fun packet heq => by cases heq
  | run i now =>
    have hstep := @Stepped.transport ι _ world mesh (.run i now) i (mesh.node i) ⟨rfl, rfl, rfl⟩
      (.run now) fun packet heq => by cases heq
    simp only [NodeMesh.call, TransportAction.requests, hquiet] at hstep
    exact hstep
  | receive i index allocOk =>
    simp only [NodeMesh.step]
    split
    · exact .same
    rename_i frame hget
    have hmem : frame ∈ mesh.wire := List.mem_of_getElem? hget
    have hnode : SameAbove (mesh.node i) { mesh.node i with
        datalink := (xglDatalinkProcessFrame (mesh.node i).datalink frame frame.length).2.1 } :=
      ⟨rfl, rfl, (processFrame_gated (mesh.node i).datalink frame frame.length).1⟩
    simp only [meshProcess]
    generalize ({ mesh.node i with
        datalink := (xglDatalinkProcessFrame (mesh.node i).datalink frame frame.length).2.1 } :
      Node) = node at hnode ⊢
    split
    swap
    · exact .handled i node hnode [] fun next hnext => absurd hnext List.not_mem_nil
    rename_i hpassed
    have hup : PassedUp mesh i index frame := ⟨hget, List.contains_iff_mem.mp hpassed⟩
    simp only [meshUpper]
    split
    · exact .handled i node hnode [] fun next hnext => absurd hnext List.not_mem_nil
    · -- the frame goes on to another node
      rename_i err phy forward hrx
      refine .handled i node hnode [forward] fun next hnext => ⟨frame, hmem, ?_⟩
      rw [List.mem_singleton.mp hnext]
      exact ⟨_, allocOk, err, phy, hrx⟩
    · rename_i packet hrx
      obtain ⟨hpacket, hlocal⟩ := xglNetworkReceive_deliver hrx
      have hstep := @Stepped.transport ι _ world mesh (.receive i index allocOk) i node hnode
        (.receive packet) fun other heq => by
          cases heq
          exact ⟨index, allocOk, frame, rfl, hup, hpacket, hlocal⟩
      simp only [NodeMesh.call, TransportAction.requests, hquiet] at hstep
      exact hstep

/-! ### The invariant -/

omit [DecidableEq ι]

/-- The frames a node puts on the wire are those of the packets it handed down. -/
theorem mem_frames {node : Node} {events : List TransportEvent} {frame : Bytes}
    (h : frame ∈ node.frames events) :
    ∃ packet err, .layerSend packet err ∈ events ∧
      (node.lowerSend packet).transmitted = some frame := by
  obtain ⟨event, hmem, hframe⟩ := List.mem_filterMap.mp h
  cases event with
  | layerSend packet err => exact ⟨packet, err, hmem, hframe⟩
  | errorCallback error message => cases hframe
  | rxCallback sourceId dataType data origin => cases hframe
  | fragmentStored packet => cases hframe

/-- The packets handed down stay handed down, so more and more packets travel. -/
theorem Travels.mono {q : Packet} (h : Travels config mesh q)
    (hlogs : ∀ j packet err, .layerSend packet err ∈ (mesh.node j).transport.io.events →
      .layerSend packet err ∈ (after.node j).transport.io.events) : Travels config after q := by
  obtain ⟨j, node, packet, err, hmem, hlocal, harrives⟩ := h
  exact ⟨j, node, packet, err, hlogs j packet err hmem, hlocal, harrives⟩

/-- So do those for one node. -/
theorem TravelsTo.mono {i : ι} {q : Packet} (h : TravelsTo config mesh i q)
    (hlogs : ∀ j packet err, .layerSend packet err ∈ (mesh.node j).transport.io.events →
      .layerSend packet err ∈ (after.node j).transport.io.events) : TravelsTo config after i q :=
  ⟨h.travels.mono hlogs, h.target, h.data⟩

variable [DecidableEq ι]

/-- A frame that a node handles changes nothing above its datalink. -/
theorem NodeMesh.move_handled (mesh : NodeMesh ι) {i : ι} {node : Node}
    (hnode : SameAbove (mesh.node i) node) (sent : List Bytes) (j : ι) :
    SameAbove (mesh.node j) ((mesh.move i (node, sent)).node j) := by
  by_cases hj : j = i
  · subst hj
    rw [NodeMesh.move_node_self]
    exact hnode
  · rw [NodeMesh.move_node_of_ne _ hj]
    exact ⟨rfl, rfl, rfl⟩

/-- A frame that a node handles without its transport leaves the transports as they were. -/
theorem NodesInv.handled (h : NodesInv config mesh numbers) (i : ι) {node : Node}
    (hnode : SameAbove (mesh.node i) node) (sent : List Bytes) :
    NodesInv config (mesh.move i (node, sent)) numbers := by
  have hnodes := mesh.move_handled hnode sent
  refine ⟨fun j => ?_, fun j => ?_, fun j => ?_⟩
  · rw [(hnodes j).network]
    exact h.network j
  · rw [(hnodes j).transport]
    exact h.sender j
  · rw [(hnodes j).transport]
    refine receiver_imp (h.receiver j) fun q hq => hq.mono fun k packet err hmem => ?_
    rw [(hnodes k).transport]
    exact hmem

/-- A frame that a node hands on stands for a packet that travels. -/
theorem NodeMeshInv.handled (h : NodeMeshInv config mesh numbers) (i : ι) {node : Node}
    (hnode : SameAbove (mesh.node i) node) {sent : List Bytes}
    (hsent : ∀ next ∈ sent, ∃ frame ∈ mesh.wire, ForwardHop frame next) :
    NodeMeshInv config (mesh.move i (node, sent)) numbers := by
  have hnodes := mesh.move_handled hnode sent
  refine ⟨h.toNodesInv.handled i hnode sent, ?_⟩
  have hlogs : ∀ j packet err, .layerSend packet err ∈ (mesh.node j).transport.io.events →
      .layerSend packet err ∈ ((mesh.move i (node, sent)).node j).transport.io.events := by
    intro j packet err hmem
    rw [(hnodes j).transport]
    exact hmem
  intro frame hframe q hpacket
  rcases List.mem_append.mp hframe with hold | hnew
  · exact (h.wire frame hold q hpacket).mono hlogs
  · obtain ⟨received, hreceived, hop⟩ := hsent frame hnew
    obtain ⟨packet, ttl, hfrom, hto⟩ := hop.framePacket
    rw [hto] at hpacket
    cases hpacket
    obtain ⟨k, sender, origin, err, hmem, hlocal, bytes, first, ttl', hbytes, hfirst, rfl⟩ :=
      h.wire received hreceived packet hfrom
    exact ⟨k, sender, origin, err, hlogs k origin err hmem, hlocal, bytes, first, ttl, hbytes,
      hfirst, rfl⟩

section Call

variable {i : ι} {node : Node} {action : TransportAction}

/-- The node that is called, and what it was asked for. -/
theorem NodeMesh.call_self : ((mesh.call world i node action).node i).transport
      = transportStep (node.envIn (world i)) node.transport action ∧
    ((mesh.call world i node action).node i).network = node.network ∧
    (mesh.call world i node action).asked i = mesh.asked i ++ action.requests := by
  simp [NodeMesh.call, NodeMesh.move, Node.advance]

/-- The others stay. -/
theorem NodeMesh.call_of_ne {j : ι} (hj : j ≠ i) :
    (mesh.call world i node action).node j = mesh.node j ∧
      (mesh.call world i node action).asked j = mesh.asked j := by
  simp [NodeMesh.call, NodeMesh.move, Function.update_of_ne hj]

/-- The logs only grow. -/
theorem NodeMesh.call_grows (hnode : SameAbove (mesh.node i) node) (j : ι) :
    (mesh.node j).transport.io.events
      <+: ((mesh.call world i node action).node j).transport.io.events := by
  by_cases hj : j = i
  · subst hj
    rw [NodeMesh.call_self.1, ← hnode.transport]
    exact transportStep_grows _ node.transport action
  · have hsame := (@NodeMesh.call_of_ne _ world mesh _ i node action j hj).1
    exact prefix_of_eq (congrArg (fun node => node.transport.io.events) hsame)

/-- A call of the transport of a node, with a packet that travels when it receives one. -/
theorem NodesInv.call (hfragments : ∀ i, (config i).enableFragmentation = true)
    (h : NodesInv config mesh numbers) (hnode : SameAbove (mesh.node i) node)
    (hreceived : ∀ packet, action = .receive packet → Travels config mesh packet ∧
      xglNetworkIsLocal node.network packet.targetId = true) :
    NodesInv config (mesh.call world i node action)
      (Function.update numbers i (numbers i ++ action.startNumbers node.transport)) := by
  obtain ⟨messages, hsender⟩ := h.sender i
  rw [← hnode.transport] at hsender
  obtain ⟨messages', -, hsent⟩ := @transportStep_senderLog (node.envIn (world i)) _ _ _ _ _ hsender
    action
  obtain ⟨hmoved, hsameNet, hrequests⟩ := @NodeMesh.call_self _ world mesh _ i node action
  have hother := @NodeMesh.call_of_ne _ world mesh _ i node action
  have hlogs : ∀ j packet err, .layerSend packet err ∈ (mesh.node j).transport.io.events →
      .layerSend packet err ∈ ((mesh.call world i node action).node j).transport.io.events :=
    fun j packet err hmem => (NodeMesh.call_grows hnode j).subset hmem
  refine ⟨fun j => ?_, fun j => ?_, fun j => ?_⟩
  · by_cases hj : j = i
    · subst hj
      rw [hsameNet, hnode.network]
      exact h.network j
    · rw [(hother hj).1]
      exact h.network j
  · by_cases hj : j = i
    · subst hj
      rw [hmoved, hrequests, Function.update_self]
      exact ⟨messages', hsent⟩
    · rw [(hother hj).1, (hother hj).2, Function.update_of_ne hj]
      exact h.sender j
  · by_cases hj : j = i
    · subst hj
      rw [hmoved]
      refine transportStep_receiver (hfragments j) action (fun packet heq hdata => ?_)
        (receiver_imp (hnode.transport ▸ h.receiver j) fun q hq => hq.mono hlogs)
      obtain ⟨htravels, hlocal⟩ := hreceived packet heq
      refine ⟨htravels.mono hlogs, ?_, hdata⟩
      rw [xglNetworkIsLocal, hnode.network, h.network, Bool.or_eq_true, beq_iff_eq, beq_iff_eq]
        at hlocal
      exact hlocal
    · rw [(hother hj).1]
      exact receiver_imp (h.receiver j) fun q hq => hq.mono hlogs

omit [DecidableEq ι] in
/-- The packet of a frame on the wire travels. -/
theorem NodeMeshInv.received {step : NodeMeshAction ι} (h : NodeMeshInv config mesh numbers)
    (hreceived : ∀ packet, action = .receive packet → ∃ index allocOk frame,
      step = .receive i index allocOk ∧ PassedUp mesh i index frame ∧
        framePacket? frame = some packet ∧
        xglNetworkIsLocal node.network packet.targetId = true) :
    ∀ packet, action = .receive packet → Travels config mesh packet ∧
      xglNetworkIsLocal node.network packet.targetId = true := by
  intro packet haction
  obtain ⟨index, allocOk, frame, -, hup, hpacket, hlocal⟩ := hreceived packet haction
  exact ⟨h.wire frame (List.mem_of_getElem? hup.1) packet hpacket, hlocal⟩

/-- The frames of a call of the transport stand for packets that travel. -/
theorem NodeMeshInv.call (hfragments : ∀ i, (config i).enableFragmentation = true)
    (h : NodeMeshInv config mesh numbers) (hnode : SameAbove (mesh.node i) node)
    (hreceived : ∀ packet, action = .receive packet → Travels config mesh packet ∧
      xglNetworkIsLocal node.network packet.targetId = true) :
    NodeMeshInv config (mesh.call world i node action)
      (Function.update numbers i (numbers i ++ action.startNumbers node.transport)) := by
  refine ⟨h.toNodesInv.call hfragments hnode hreceived, fun frame hframe q hpacket => ?_⟩
  rcases List.mem_append.mp hframe with hold | hnew
  · refine (h.wire frame hold q hpacket).mono fun j packet err hmem => ?_
    exact (NodeMesh.call_grows hnode j).subset hmem
  · obtain ⟨packet, err, hmem, htransmitted⟩ := mem_frames hnew
    refine ⟨i, node, packet, err, ?_, ?_, frame, q, q.ttl, htransmitted, hpacket, rfl⟩
    · rw [NodeMesh.call_self.1]
      exact List.mem_of_mem_drop hmem
    · rw [hnode.network]
      exact h.network i

end Call

/-- One step keeps the invariant. -/
theorem nodeMeshInv_step (hfragments : ∀ i, (config i).enableFragmentation = true)
    {step : NodeMeshAction ι} (h : ∃ numbers, NodeMeshInv config mesh numbers)
    (hstep : Stepped world mesh step after) :
    ∃ numbers, NodeMeshInv config after numbers := by
  obtain ⟨numbers, hinv⟩ := h
  cases hstep with
  | same => exact ⟨numbers, hinv⟩
  | handled i node hnode sent hsent => exact ⟨numbers, hinv.handled i hnode hsent⟩
  | transport i node hnode action hreceived =>
    exact ⟨_, hinv.call hfragments hnode (hinv.received hreceived)⟩

/-! ### Runs -/

/-- New nodes with different ids, which collect fragments, and no frame on the wire. -/
structure MeshStart (config : ι → TransportConfig) (mesh : NodeMesh ι) : Prop where
  init : ∀ i, xglTransportInit (config i) = .ok (mesh.node i).transport
  network : ∀ i, (mesh.node i).network.localId = (config i).localId
  distinct : ∀ i j, (config i).localId = (config j).localId → i = j
  fragments : ∀ i, (config i).enableFragmentation = true
  wire : mesh.wire = []
  asked : ∀ i, mesh.asked i = []

/-- No node has made more fragmented requests than there are message ids, and no payload is longer
than the length field of a fragment. -/
structure WithinIds (config : ι → TransportConfig) (mesh : NodeMesh ι) : Prop where
  ids : ∀ i, ((mesh.asked i).filter (fragmentsRequest (config i))).length ≤ 2 ^ 32
  sizes : ∀ i, ∀ txData ∈ mesh.asked i, ∀ data, txData.data = some data → data.length < 2 ^ 32

omit [DecidableEq ι] in
/-- The invariant holds at the start. -/
theorem nodeMeshInv_start (h : MeshStart config mesh) :
    NodeMeshInv config mesh fun _ => [] := by
  refine ⟨⟨h.network, fun i => ⟨[], ?_⟩, fun i => ?_⟩, ?_⟩
  · rw [h.asked]
    exact senderLog_init (h.init i)
  swap
  · intro frame hframe
    rw [h.wire] at hframe
    cases hframe
  · obtain ⟨hpeers, hevents, hconfig⟩ := xglTransportInit_fresh (h.init i)
    obtain ⟨hpresent, hempty⟩ := xglTransportInit_manager (h.init i)
    refine ⟨hconfig, ?_, ⟨hpresent, ?_, ?_⟩, ?_⟩
    · rw [hpeers]
      exact fun peer hpeer => absurd hpeer List.not_mem_nil
    · intro before after _ _ _ _ heq
      rw [hevents] at heq
      exact absurd heq (by simp)
    · intro m hm buffer hbuffer
      rw [hempty m hm] at hbuffer
      cases hbuffer
    · intro _ _ _ _ hmem
      rw [hevents] at hmem
      cases hmem

/-- It holds in every state of a run. -/
theorem runNodeMesh_inv (hfragments : ∀ i, (config i).enableFragmentation = true)
    (actions : List (NodeMeshAction ι)) (h : ∃ numbers, NodeMeshInv config mesh numbers) :
    ∃ numbers, NodeMeshInv config (runNodeMesh world actions mesh) numbers :=
  @foldl_invariant _ _ (NodeMesh.step world)
    (fun state => ∃ numbers, NodeMeshInv config state numbers)
    (fun state action hinv => nodeMeshInv_step hfragments hinv (state.step_stepped world action))
    actions mesh h

omit [DecidableEq ι] in
/-- A data packet that travels belongs to a request. -/
theorem TravelsTo.origin {messages : ι → List TxData} {i : ι} {q : Packet}
    (hsender : ∀ j, SenderLog (config j) (mesh.asked j) (numbers j) (messages j)
      (mesh.node j).transport)
    (h : TravelsTo config mesh i q) :
    ∃ j txData, txData ∈ mesh.asked j ∧
      ((∃ (k : Nat) (n : UInt32), (mesh.asked j)[k]? = some txData ∧ (numbers j)[k]? = some n ∧
          ArrivesWhole (config j) txData n q) ∨
        ∃ k : Nat, (messages j)[k]? = some txData ∧
          ArrivesPiece (config j) txData (UInt32.ofNat k) q) := by
  obtain ⟨j, node, packet, err, hmem, hlocal, harrives⟩ := h.travels
  rcases (hsender j).log packet err hmem with hack | ⟨_, _, _, _, _, _, rfl⟩ |
    ⟨first, hrequest, halike⟩
  · exact absurd (harrives.packetType (.inr hack.packetType)) h.data
  · exact absurd (harrives.packetType (.inl rfl)) h.data
  have hfirst := halike.arrives harrives
  rcases hrequest with ⟨k, txData, n, hget, hnumber, hwhole⟩ | ⟨k, txData, hget, hpiece⟩
  · exact ⟨j, txData, List.mem_of_getElem? hget, .inl ⟨k, n, hget, hnumber,
      hwhole.arrives hlocal hfirst⟩⟩
  · have hmade : txData ∈ messages j := List.mem_of_getElem? hget
    have hasked : txData ∈ mesh.asked j :=
      List.mem_of_mem_filter ((hsender j).ids.subset hmade)
    exact ⟨j, txData, hasked, .inr ⟨k, hget, hpiece.arrives hlocal hfirst⟩⟩

omit [DecidableEq ι] in
/-- Whatever is handed over was asked for. -/
theorem NodesInv.integrity (hinv : NodesInv config mesh numbers)
    (hdistinct : ∀ i j, (config i).localId = (config j).localId → i = j)
    (hlimits : WithinIds config mesh) {i : ι} {sourceId : UInt16} {dataType : UInt8}
    {data : Bytes} {origin : Packet}
    (hmem : .rxCallback sourceId dataType data origin ∈ (mesh.node i).transport.io.events) :
    ∃ j txData payload, txData ∈ mesh.asked j ∧ txData.data = some payload ∧
      sourceId = (config j).localId ∧ dataType = txData.dataType ∧
      (txData.targetId = (config i).localId ∨ txData.targetId = XGL_BROADCAST_ID) ∧
      data = handedDown (config j) txData payload := by
  choose messages hsender using hinv.sender
  obtain ⟨hwhole, horigins⟩ := (hinv.receiver i).log
  obtain ⟨rfl, rfl, haccepted⟩ := horigins sourceId dataType data origin hmem
  obtain ⟨before, behind, hevents⟩ := List.append_of_mem hmem
  obtain ⟨j, txData, hasked, hkind⟩ := haccepted.origin hsender
  -- a payload in one packet
  rcases hwhole.whole before behind _ _ data origin hevents with
    ⟨hflag, -, hbytes⟩ | ⟨ext, hext, hlen, parts, hparts, hmade⟩
  · -- a packet without the fragment flag is all there is of its request
    -- the packet of the payload is no fragment
    rcases hkind with ⟨_, _, _, _, harrives⟩ | ⟨k, -, harrives⟩
    · obtain ⟨payload, hdata, hpayload⟩ := harrives.payload
      exact ⟨j, txData, payload, hasked, hdata, harrives.sourceId, harrives.dataType,
        harrives.targetId ▸ haccepted.target,
        harrives.toArrivesFrom.handedBytes hpayload hbytes⟩
    · exact absurd hflag harrives.fragment
  rcases hkind with ⟨_, _, _, _, harrives⟩ | ⟨k, hk, harrives⟩
  · -- without a FRAGMENT_EXT nothing is put together
    exact absurd hext (harrives.unfragmented ext)
  obtain ⟨payload, offset, budget, hdata, hhanded, hpieceExt, -⟩ := harrives.payload
  rw [hpieceExt] at hext
  -- the first part, a fragment of the message that was put together
  cases hext
  have hsize := hlimits.sizes j txData hasked payload hdata
  have hids : ∀ j {l} {other : TxData}, (messages j)[l]? = some other → l < 2 ^ 32 := by
    intro j l other hl
    have hshort := (List.getElem?_eq_some_iff.mp hl).1
    have hmost := ((hsender j).ids.length_le).trans (hlimits.ids j)
    omega
  refine ⟨j, txData, payload, hasked, hdata, harrives.sourceId, harrives.dataType,
    harrives.targetId ▸ haccepted.target, ?_⟩
  rw [hhanded]
  refine hmade.eq_payload ?_ hsize fun part hpart => ?_
  · rw [hlen]
    exact UInt32.toNat_ofNat_of_lt' hsize
  -- every part has the source and the message id of the origin, so it is of the same request
  have hpartOf := hparts part hpart
  obtain ⟨j', txData', -, hkind'⟩ := hpartOf.accepted.origin hsender
  rcases hkind' with ⟨_, _, _, _, harrives'⟩ | ⟨k', hk', harrives'⟩
  · exact absurd harrives'.fragment hpartOf.flagged
  obtain ⟨payload', offset', budget', hdata', -, hpieceExt', hpayload'⟩ := harrives'.payload
  have hpartExt := hpartOf.extension.symm.trans hpieceExt'
  have hkey := hpartOf.key_eq
  rw [Except.ok.inj hpartExt] at hkey
  have hsource : (config j').localId = (config j).localId := by
    rw [← harrives'.sourceId, ← harrives.sourceId]
    exact congrArg MessageKey.sourceId hkey
  obtain rfl := hdistinct j' j hsource
  have hid : UInt32.ofNat k' = UInt32.ofNat k := congrArg MessageKey.messageId hkey
  have hindex : k' = k := by
    have hnat := congrArg UInt32.toNat hid
    rwa [UInt32.toNat_ofNat_of_lt' (hids j' hk'), UInt32.toNat_ofNat_of_lt' (hids j' hk)] at hnat
  rw [hindex, hk] at hk'
  cases hk'
  rw [hdata] at hdata'
  cases hdata'
  refine ⟨offset', budget', ?_, harrives'.toArrivesFrom.handedBytes hpayload' hpartOf.handed⟩
  rw [Except.ok.inj hpartExt]

/-- Applications see what applications sent. Over a network that loses, repeats, delays and
reorders frames and gives them to any node: whatever the receive callback of a node is handed, a
node with the source id it is told made a request of that data type, addressed to this node or to
all, and the bytes are the payload of this request as it was handed down, all of it and nothing
else. This holds as long as no node has used up its message ids and no payload is too long for
the length field of a fragment. -/
theorem mesh_integrity (config : ι → TransportConfig) (world : ι → World) (start : NodeMesh ι)
    (hstart : MeshStart config start) (actions : List (NodeMeshAction ι))
    (hlimits : WithinIds config (runNodeMesh world actions start)) :
    let mesh := runNodeMesh world actions start
    ∀ i sourceId dataType data origin,
      .rxCallback sourceId dataType data origin ∈ (mesh.node i).transport.io.events →
      ∃ j txData payload, txData ∈ mesh.asked j ∧ txData.data = some payload ∧
        sourceId = (config j).localId ∧ dataType = txData.dataType ∧
        (txData.targetId = (config i).localId ∨ txData.targetId = XGL_BROADCAST_ID) ∧
        data = handedDown (config j) txData payload := by
  intro mesh i sourceId dataType data origin hmem
  obtain ⟨numbers, hinv⟩ : ∃ numbers, NodeMeshInv config mesh numbers :=
    runNodeMesh_inv hstart.fragments actions ⟨_, nodeMeshInv_start hstart⟩
  exact hinv.integrity hstart.distinct hlimits hmem

end Network

/-! ### A chain of three nodes -/

/-- Nodes 1, 2 and 3 collect fragments. -/
def chainConfig (i : Fin 3) : TransportConfig where
  localId := UInt16.ofNat (i + 1)
  enableFragmentation := true
  maxFrameSize := 50

/-- A new node with a route to node 3. -/
def chainNode (i : Fin 3) : Node where
  transport :=
    { config := chainConfig i
      nextSessionId := UInt16.ofNat (i + 1)
      window := freshWindow 8
      fragmentMgr := some { maxReassemblyBuffers := 8, reassemblyTimeoutMs := 5000 } }
  network :=
    { localId := UInt16.ofNat (i + 1)
      routeTable := [{ targetId := 3, phy := some { id := 0, tx := some fun _ => .ok }
                       maxFrameSize := 50 }] }
  datalink :=
    { parser :=
        { state := .magic, cache := List.replicate 50 0, cacheSize := 50, cacheLen := 0, index := 0
          timestamp := 0, expectedHeaderLen := 0, expectedPayloadLen := 0
          expectedAuthTagLen := 0 } }

/-- The three nodes are new and have different ids. -/
theorem chain_start : MeshStart chainConfig { node := chainNode } where
  init := Fin.cases rfl (Fin.cases rfl (Fin.cases rfl fun i => i.elim0))
  network := fun _ => rfl
  distinct := by decide
  fragments := fun _ => rfl
  wire := rfl
  asked := fun _ => rfl

/-- A request that takes four fragments. -/
def chainRequest : TxData where
  targetId := 3
  dataType := 9
  data := some ((List.range 24).map UInt8.ofNat)

/-- Node 1, which sends. -/
def chainHead : Fin 3 := 0

/-- Node 2, which forwards. -/
def chainMiddle : Fin 3 := 1

/-- Node 3, to which the request goes. -/
def chainTail : Fin 3 := 2

/-- Node 2 forwards the last and the second fragment. Node 3 gets these first, one of them twice,
and the others as node 1 sent them. -/
def chainActions : List (NodeMeshAction (Fin 3)) :=
  [.send chainHead chainRequest, .receive chainMiddle 3 true, .receive chainMiddle 1 true,
    .receive chainTail 5 true, .receive chainTail 4 true, .receive chainTail 4 true,
    .receive chainTail 2 true, .receive chainTail 0 true]

/-- Memory is there and no time passes. -/
def chainWorld : World where
  allocOk := fun _ => true
  clock := fun _ => 0

/-- The network behind these steps. -/
def chainRun : NodeMesh (Fin 3) :=
  runNodeMesh (fun _ => chainWorld) chainActions { node := chainNode }

/-- Only node 1 was asked for anything. -/
theorem chainRun_asked : ∀ i, chainRun.asked i = if i = 0 then [chainRequest] else [] := by
  decide +kernel

/-- Node 3 is handed the payload, and whatever is handed over was asked for. -/
theorem mesh_integrity_chain :
    rxPayloads (chainRun.node 2).transport.io.events = [(List.range 24).map UInt8.ofNat] ∧
      ∀ i sourceId dataType data origin,
        .rxCallback sourceId dataType data origin ∈ (chainRun.node i).transport.io.events →
        ∃ j txData payload, txData ∈ chainRun.asked j ∧ txData.data = some payload ∧
          sourceId = (chainConfig j).localId ∧ dataType = txData.dataType ∧
          (txData.targetId = (chainConfig i).localId ∨ txData.targetId = XGL_BROADCAST_ID) ∧
          data = handedDown (chainConfig j) txData payload := by
  have hdelivered : rxPayloads (chainRun.node 2).transport.io.events
      = [(List.range 24).map UInt8.ofNat] := by decide +kernel
  have hlimits : WithinIds chainConfig chainRun := by
    refine ⟨fun i => (List.length_filter_le _ _).trans ?_, fun i txData hmem data hdata => ?_⟩
    · rw [chainRun_asked]
      split <;> simp
    · rw [chainRun_asked] at hmem
      split at hmem
      · rw [List.mem_singleton.mp hmem] at hdata
        cases hdata
        simp
      · cases hmem
  rw [chainRun] at hdelivered hlimits ⊢
  exact ⟨hdelivered,
    mesh_integrity chainConfig (fun _ => chainWorld) { node := chainNode } chain_start
      chainActions hlimits⟩

end XgenLink
