import XgenLink.Lib.Run
import XgenLink.Proofs.DeliverOnce
import XgenLink.Proofs.EndToEnd

/-!
# `XgenLink.Proofs.AuthenticMesh`: with authentication the network may lie

The same network, and besides an adversary, who puts frames of its own on the wire: frames made
up, frames of nodes with bytes changed, frames for any node. Every node requires authentication,
and the adversary cannot forge: what the provider of a node accepts was signed by a node for a
frame it sent. Then again whatever the receive callback of a node is handed was asked for.

Two steps carry this. A frame that is passed up has just been verified, with an input that
covers its header up to hop limit and checksum, its extensions and its payload
(`passedUp_verified`). A node sent a frame with this input, so the packet of the one frame is
the packet of the other, up to the hop limit (`SignedFor.framePacket`).

* `SignedFor`, `lowerSend_signedFor`: what is signed for a frame.
* `Unforged`: a run without forgeries.
* `mesh_authentic`: the theorem about runs.
-/

set_option autoImplicit false

namespace XgenLink

/-! ### What is signed -/

/-- The provider of the node is asked to sign this for a frame that the node sends: its key, the
header and the extensions with the bytes zeroed that change on the way, and the payload. -/
structure SignedFor (node : Node) (bytes : Bytes) (input : AuthInput) : Prop where
  keyId : input.keyId = node.datalink.authKeyId
  aad : input.aad = zeroMutableHeaderBytes
    (readBytes bytes 0 (wireHeaderOfBytes bytes).headerLen.toNat)
  payload : input.payload = readBytes bytes (wireHeaderOfBytes bytes).headerLen.toNat
    (wireHeaderOfBytes bytes).payloadLen.toNat

/-- The frame has a header, and all that this announces. -/
structure WellFramed (bytes : Bytes) : Prop where
  decode : xglWireDecodeHeader bytes bytes.length = .ok (wireHeaderOfBytes bytes)
  room : (wireHeaderOfBytes bytes).headerLen.toNat + (wireHeaderOfBytes bytes).payloadLen.toNat
    + XGL_CRC16_SIZE ≤ bytes.length

/-- A node that requires authentication sends well-formed frames, and its provider has signed each
of them. The input that is signed is built from the frame itself, so whoever verifies the same
frame builds the same input. -/
theorem lowerSend_signedFor {node : Node} {packet : Packet} {bytes : Bytes}
    (hrequired : node.datalink.authRequired = true)
    (h : (node.lowerSend packet).transmitted = some bytes) :
    WellFramed bytes ∧ ∃ provider sign input size tag,
      node.datalink.authProvider = some provider ∧ provider.sign = some sign ∧
      SignedFor node bytes input ∧
      sign input.keyId input.aad input.payload size = .ok tag := by
  obtain ⟨extensions, frame, size, -, -, hserialize, -⟩ := lowerSend_frame h
  simp only [datalinkSerialize, hrequired] at hserialize
  -- the plain path is closed to a node that requires authentication
  split at hserialize
  · rename_i provider _ hprovider
    obtain ⟨-, -, hext, hpayload, hvalid, -, sign, tag, hsign, -, hsigned, hbytes⟩ :=
      xglFrameSerializeAuthenticated_eq_ok.mp hserialize
    have hfrontLen := length_frameAuthenticatedFront frame node.datalink.authKeyId
      (UInt8.ofNat provider.tagLen)
    have hfrontEq : frameAuthenticatedFront frame node.datalink.authKeyId
        (UInt8.ofNat provider.tagLen) = wireHeaderBytes (frameSecuredHeader frame) ++
          (frame.extensions ++ encodeWireExts
            [frameSecurityExt frame node.datalink.authKeyId (UInt8.ofNat provider.tagLen)]) := by
      rw [frameAuthenticatedFront, List.append_assoc]
    generalize frameAuthenticatedFront frame node.datalink.authKeyId
      (UInt8.ofNat provider.tagLen) = front at hbytes hsigned hfrontLen hfrontEq
    obtain ⟨tail, htail, rfl⟩ : ∃ tail : Bytes, XGL_CRC16_SIZE ≤ tail.length ∧
        bytes = front ++ (frame.payload ++ tail) := by
      refine ⟨tag ++ xglSerializeU16Le (xglCrc16Modbus (front ++ frame.payload ++ tag)), ?_, ?_⟩
      · simp [XGL_CRC16_SIZE]
      · rw [hbytes]
        simp only [appendFrameCrc, List.append_assoc]
    -- the header announces the front and the payload
    have hheaderLen : (frameSecuredHeader frame).headerLen.toNat = front.length := by
      rw [hfrontLen]
      refine (UInt8.toNat_ofNat').trans (Nat.mod_eq_of_lt ?_)
      simp only [XGL_WIRE_BASE_HEADER_SIZE, XGL_SECURITY_EXT_SIZE, XGL_SECURITY_EXT_VALUE_SIZE,
        XGL_WIRE_EXT_HEADER_SIZE]
      omega
    have hpayloadLen : (frameSecuredHeader frame).payloadLen.toNat = frame.payload.length :=
      (UInt16.toNat_ofNat').trans (Nat.mod_eq_of_lt (by omega))
    have hdecode : ∃ crc, xglWireDecodeHeader (front ++ (frame.payload ++ tail))
        (front ++ (frame.payload ++ tail)).length
        = .ok { frameSecuredHeader frame with headerCrc16 := crc } := by
      rw [hfrontEq, List.append_assoc]
      refine ⟨_, xglWireDecodeHeader_encode (frameSecuredHeader frame) _ _ ?_ hvalid⟩
      rw [List.length_append, length_wireHeaderBytes]
      exact Nat.le_add_right _ _
    obtain ⟨crc, hdecode⟩ := hdecode
    have hof := (xglWireDecodeHeader_eq_ok.mp hdecode).2.2.2.2.2
    refine ⟨⟨hof ▸ hdecode, ?_⟩, provider, sign,
      { keyId := node.datalink.authKeyId
        aad := zeroMutableHeaderBytes front
        payload := frame.payload
        tag := tag }, _, tag, hprovider, hsign, ⟨rfl, ?_, ?_⟩, hsigned⟩
    · rw [hof]
      show (frameSecuredHeader frame).headerLen.toNat
        + (frameSecuredHeader frame).payloadLen.toNat + _ ≤ _
      rw [hheaderLen, hpayloadLen, List.length_append, List.length_append]
      omega
    · rw [hof]
      show _ = zeroMutableHeaderBytes (readBytes _ 0 (frameSecuredHeader frame).headerLen.toNat)
      rw [hheaderLen, readBytes_append_left _ _ _ _ (by omega), readBytes_self]
    · rw [hof]
      show _ = readBytes _ (frameSecuredHeader frame).headerLen.toNat
        (frameSecuredHeader frame).payloadLen.toNat
      rw [hheaderLen, hpayloadLen]
      exact (readBytes_middle front frame.payload tail).symm
  -- every other result of the serializer is an error, and nothing is sent
  · cases hserialize
  · rename_i h' ; cases h'

/-! ### What is verified -/

/-- The header fields that no hop rewrites. -/
theorem wireHeaderOfBytes_unmutated {a b : Bytes}
    (h : ∀ i, i < XGL_WIRE_BASE_HEADER_SIZE → i ≠ 6 → i ≠ 22 → i ≠ 23 → byteAt a i = byteAt b i) :
    wireHeaderOfBytes b = { wireHeaderOfBytes a with
      ttl := (wireHeaderOfBytes b).ttl
      headerCrc16 := (wireHeaderOfBytes b).headerCrc16 } := by
  unfold XGL_WIRE_BASE_HEADER_SIZE at h
  simp (disch := omega) only [wireHeaderOfBytes, xglDeserializeU16Le, xglDeserializeU32Le,
    byteAt_drop, Nat.reduceAdd, h]

/-- A frame that is passed up where authentication is required has just been verified. -/
theorem passedUp_verified {ctx : DatalinkCtx} {frame : Bytes} (hrequired : ctx.authRequired = true)
    (h : .upperReceive frame frame.length
      ∈ (xglDatalinkProcessFrame ctx frame frame.length).2.2) :
    ∃ input, .verify input .ok true ∈ (xglDatalinkProcessFrame ctx frame frame.length).2.2 ∧
      VerifiedFrame ctx.authRequired ctx.authKeyId ctx.authProvider frame frame.length input := by
  have houtcome := xglDatalinkProcessFrame_outcome ctx frame frame.length
  generalize xglDatalinkProcessFrame ctx frame frame.length = processed at houtcome h ⊢
  cases houtcome with
  | dropped err events _ hquiet => exact absurd h (hquiet _ _)
  | plain metadata _ hoptional _ =>
    rw [hrequired] at hoptional
    cases hoptional
  | replayed metadata input _ _ _ => exact absurd h (by simp)
  | verified metadata input _ hverified _ =>
    exact ⟨input, List.mem_cons_self, hverified⟩

/-- A frame that is verified with what was signed for another stands for the packet of the other,
up to the hop limit. -/
theorem SignedFor.framePacket {node : Node} {bytes frame : Bytes} {input : AuthInput}
    {tagLen : Nat} {security : SecurityExt} {packet : Packet} (h : SignedFor node bytes input)
    (hbytes : WellFramed bytes)
    (hinput : input = gateAuthInput frame frame.length tagLen security)
    (hpacket : framePacket? frame = some packet) :
    ∃ ttl, framePacket? bytes = some { packet with ttl := ttl } := by
  obtain ⟨header, hframe, -⟩ := framePacket_header hpacket
  obtain ⟨-, -, -, -, hvalid, rfl⟩ := xglWireDecodeHeader_eq_ok.mp hframe
  have haad : zeroMutableHeaderBytes (readBytes frame 0 (wireHeaderOfBytes frame).headerLen.toNat)
      = zeroMutableHeaderBytes
        (readBytes bytes 0 (wireHeaderOfBytes bytes).headerLen.toNat) := by
    rw [← h.aad, hinput]
    rfl
  have hpayload : readBytes frame (wireHeaderOfBytes frame).headerLen.toNat
        (wireHeaderOfBytes frame).payloadLen.toNat
      = readBytes bytes (wireHeaderOfBytes bytes).headerLen.toNat
        (wireHeaderOfBytes bytes).payloadLen.toNat := by
    rw [← h.payload, hinput]
    rfl
  -- the cuts are at the same places
  have hheaderLen : (wireHeaderOfBytes frame).headerLen.toNat
      = (wireHeaderOfBytes bytes).headerLen.toNat := by
    have hlen := congrArg List.length haad
    rwa [length_zeroMutableHeaderBytes, length_zeroMutableHeaderBytes, length_readBytes,
      length_readBytes] at hlen
  have hpayloadLen : (wireHeaderOfBytes frame).payloadLen.toNat
      = (wireHeaderOfBytes bytes).payloadLen.toNat := by
    have hlen := congrArg List.length hpayload
    rwa [length_readBytes, length_readBytes] at hlen
  rw [← hheaderLen] at haad
  rw [← hheaderLen, ← hpayloadLen] at hpayload
  have hge := wireHeaderFieldsValid.headerLen_ge hvalid
  have hfront : ∀ i, i < (wireHeaderOfBytes frame).headerLen.toNat → i ≠ 6 → i ≠ 22 → i ≠ 23 →
      byteAt frame i = byteAt bytes i := by
    intro i hi h6 h22 h23
    have heq := byteAt_eq_of_zeroMutableHeaderBytes_eq haad i h6 h22 h23
    rwa [byteAt_readBytes _ _ _ _ hi, byteAt_readBytes _ _ _ _ hi, Nat.zero_add] at heq
  have hheader := wireHeaderOfBytes_unmutated fun i hi => hfront i (hi.trans_le hge)
  have hdecode := hbytes.decode
  rw [hheader] at hdecode
  have hroom := hbytes.room
  rw [← hheaderLen, ← hpayloadLen] at hroom
  refine ⟨_, framePacket_congr hpacket hframe hdecode hroom fun i hlo hhi => ?_⟩
  simp only [XGL_WIRE_BASE_HEADER_SIZE] at hlo
  -- below the header the signed header decides, above it the payload and the tag
  rcases Nat.lt_or_ge i (wireHeaderOfBytes frame).headerLen.toNat with hin | hout
  · exact (hfront i hin (by omega) (by omega) (by omega)).symm
  · exact (byteAt_eq_of_readBytes_eq hpayload i hout hhi).symm

/-! ### The network -/

section Network

variable {ι : Type} [DecidableEq ι] {config : ι → TransportConfig} {world : ι → World}
  {mesh after : NodeMesh ι}

/-- A node has signed this for a frame of a packet that it handed down. -/
def SignedByNode (mesh : NodeMesh ι) (input : AuthInput) : Prop :=
  ∃ j packet err bytes, .layerSend packet err ∈ (mesh.node j).transport.io.events ∧
    ((mesh.node j).lowerSend packet).transmitted = some bytes ∧
    SignedFor (mesh.node j) bytes input

/-- Nothing is forged in this step: what the provider of a node accepts has been signed by a
node. -/
def Unforged (mesh : NodeMesh ι) : AttackedAction ι → Prop
  | .act (.receive i index _) =>
    ∀ frame, mesh.wire[index]? = some frame → ∀ input,
      .verify input .ok true
        ∈ (xglDatalinkProcessFrame (mesh.node i).datalink frame frame.length).2.2 →
      SignedByNode mesh input
  | _ => True

/-- What holds in every state of a network with an adversary. -/
structure AuthenticInv (config : ι → TransportConfig) (mesh : NodeMesh ι)
    (numbers : ι → List UInt32) : Prop extends NodesInv config mesh numbers where
  required : ∀ i, (mesh.node i).datalink.authRequired = true

omit [DecidableEq ι] in
/-- The packet of a frame that is passed up travels. -/
theorem AuthenticInv.travels {numbers : ι → List UInt32} (h : AuthenticInv config mesh numbers)
    {i : ι} {index : Nat} {allocOk : Bool}
    (hunforged : Unforged mesh (.act (.receive i index allocOk))) {frame : Bytes}
    (hup : PassedUp mesh i index frame) {packet : Packet}
    (hpacket : framePacket? frame = some packet) : Travels config mesh packet := by
  obtain ⟨input, hmem, -, ext, security, p, verify, -, -, -, -, -, hinput, -⟩ :=
    passedUp_verified (h.required i) hup.2
  obtain ⟨j, sent, err, bytes, hsent, htransmitted, hsigned⟩ :=
    hunforged frame hup.1 input hmem
  obtain ⟨hframed, -⟩ := lowerSend_signedFor (h.required j) htransmitted
  obtain ⟨ttl, hfirst⟩ := hsigned.framePacket hframed hinput hpacket
  exact ⟨j, mesh.node j, sent, err, hsent, h.network j, bytes, _, packet.ttl, htransmitted,
    hfirst, rfl⟩

/-- One step keeps the invariant. -/
theorem authenticInv_step (hfragments : ∀ i, (config i).enableFragmentation = true)
    {action : AttackedAction ι} (hunforged : Unforged mesh action)
    (h : ∃ numbers, AuthenticInv config mesh numbers) :
    ∃ numbers, AuthenticInv config (mesh.attacked world action) numbers := by
  obtain ⟨numbers, hinv⟩ := h
  cases action with
  | inject frame =>
    -- the nodes do not notice
    exact ⟨numbers, ⟨hinv.network, hinv.sender, fun i =>
      receiver_imp (hinv.receiver i) fun q hq => hq.mono fun _ _ _ hmem => hmem⟩, hinv.required⟩
  | act step =>
    have hrequired : ∀ {node after : Node}, SameAbove node after →
        node.datalink.authRequired = true → after.datalink.authRequired = true :=
      fun hsame hnode => (congrArg AuthConfig.authRequired hsame.auth).trans hnode
    have hstep := mesh.step_stepped world step
    simp only [NodeMesh.attacked]
    generalize mesh.step world step = after at hstep ⊢
    cases hstep with
    | same => exact ⟨numbers, hinv⟩
    -- a frame that is not passed up changes the datalink of its node only
    | handled i node hnode sent hsent =>
      exact ⟨numbers, hinv.handled i hnode sent, fun j =>
        hrequired (mesh.move_handled hnode sent j) (hinv.required j)⟩
    -- only here does a transport take a packet, and the packet travels
    | transport i node hnode action hreceived =>
      refine ⟨_, hinv.toNodesInv.call hfragments hnode fun packet haction => ?_, fun j => ?_⟩
      · obtain ⟨index, allocOk, frame, rfl, hup, hpacket, hlocal⟩ := hreceived packet haction
        exact ⟨hinv.travels hunforged hup hpacket, hlocal⟩
      -- what the receiver was handed was asked for, and the other nodes are as before
      · by_cases hj : j = i
        · subst hj
          simp only [NodeMesh.call, NodeMesh.move_node_self, Node.advance]
          exact hrequired hnode (hinv.required j)
        · rw [(@NodeMesh.call_of_ne _ world mesh _ i node action j hj).1]
          exact hinv.required j

/-- The invariant holds in every state of a run without forgeries: it holds at the start and every
step keeps it, a step of the adversary included. -/
theorem runAttacked_inv {start : NodeMesh ι} (hstart : MeshStart config start)
    (hrequired : ∀ i, (start.node i).datalink.authRequired = true)
    (actions : List (AttackedAction ι))
    (hunforged : Along (NodeMesh.attacked world) Unforged actions start) :
    ∃ numbers, AuthenticInv config (runAttacked world actions start) numbers :=
  foldl_along (fun state => ∃ numbers, AuthenticInv config state numbers)
    (fun _ _ hinv hkept => authenticInv_step hstart.fragments hkept hinv) actions start
    ⟨_, (nodeMeshInv_start hstart).toNodesInv, hrequired⟩ hunforged

/-- With authentication the network may lie. Over a network that loses, repeats, delays and
reorders frames, gives them to any node, and carries frames that an adversary made up: as long as
no provider accepts what no node has signed, whatever the receive callback of a node is handed, a
node with the source id it is told made a request of that data type, addressed to this node or to
all, and the bytes are the payload of this request as it was handed down. -/
theorem mesh_authentic (config : ι → TransportConfig) (world : ι → World) (start : NodeMesh ι)
    (hstart : MeshStart config start)
    (hrequired : ∀ i, (start.node i).datalink.authRequired = true)
    (actions : List (AttackedAction ι))
    (hunforged : Along (NodeMesh.attacked world) Unforged actions start)
    (hlimits : WithinIds config (runAttacked world actions start)) :
    let mesh := runAttacked world actions start
    ∀ i sourceId dataType data origin,
      .rxCallback sourceId dataType data origin ∈ (mesh.node i).transport.io.events →
      ∃ j txData payload, txData ∈ mesh.asked j ∧ txData.data = some payload ∧
        sourceId = (config j).localId ∧ dataType = txData.dataType ∧
        (txData.targetId = (config i).localId ∨ txData.targetId = XGL_BROADCAST_ID) ∧
        data = handedDown (config j) txData payload := by
  intro mesh i sourceId dataType data origin hmem
  obtain ⟨numbers, hinv⟩ := runAttacked_inv hstart hrequired actions hunforged
  exact hinv.integrity hstart.distinct hlimits hmem

end Network

/-! ### An attack on two nodes -/

/-- Nodes 1 and 2 collect fragments. -/
def attackedConfig (i : Fin 2) : TransportConfig where
  localId := UInt16.ofNat (i + 1)
  enableFragmentation := true
  authTagLen := 1

/-- A new node that requires authentication, with routes to both. -/
def attackedNode (i : Fin 2) : Node where
  transport :=
    { config := attackedConfig i
      nextSessionId := UInt16.ofNat (i + 1)
      window := freshWindow 8
      fragmentMgr := some { maxReassemblyBuffers := 8, reassemblyTimeoutMs := 5000 } }
  network :=
    { localId := UInt16.ofNat (i + 1)
      routeTable := [1, 2].map fun targetId =>
        { targetId := targetId, phy := some { id := 0, tx := some fun _ => .ok }
          maxFrameSize := 64 }
      authRequired := true
      authProvider := some sumProvider }
  datalink := { sampleDatalinkCtx with authProvider := some sumProvider }

theorem attacked_start : MeshStart attackedConfig { node := attackedNode } where
  init := Fin.cases rfl (Fin.cases rfl fun i => i.elim0)
  network := fun _ => rfl
  distinct := by decide
  fragments := fun _ => rfl
  wire := rfl
  asked := fun _ => rfl

/-- The request that the adversary attacks. -/
def attackedRequest : TxData where
  targetId := 2
  dataType := 9
  data := some [1, 2, 3]

/-- The frame of the request. -/
def attackedFrame : Bytes :=
  [0xA5, 0x5A, 2, 42, 1, 18, 8, 0, 1, 0, 2, 0, 0, 0, 0, 0, 0, 0, 0, 0, 3, 0, 66, 29, 8, 1, 9, 5, 13,
    7, 0, 0, 0, 0, 0, 0, 0, 0, 0, 0, 0, 1, 1, 2, 3, 125, 3, 137]

/-- The same with another payload. -/
def forgedFrame : Bytes :=
  appendFrameCrc ((attackedFrame.take 46).set 42 9)

/-- The same with another hop limit. -/
def delayedFrame : Bytes :=
  appendFrameCrc (wireHeaderBytes { wireHeaderOfBytes attackedFrame with ttl := 3 } ++
    (attackedFrame.take 46).drop XGL_WIRE_BASE_HEADER_SIZE)

/-- Node 1, by its place. -/
def attackedSender : Fin 2 := 0

/-- Node 2, by its place. -/
def attackedReceiver : Fin 2 := 1

/-- Node 2 never gets the frame of node 1, but what the adversary made of it. -/
def attackedActions : List (AttackedAction (Fin 2)) :=
  [.act (.send attackedSender attackedRequest), .inject forgedFrame, .inject delayedFrame,
    .act (.receive attackedReceiver 1 true), .act (.receive attackedReceiver 2 true)]

/-- The network after some of the steps. -/
def attackedRun (n : Nat) : NodeMesh (Fin 2) :=
  runAttacked (fun _ => chainWorld) (attackedActions.take n) { node := attackedNode }

/-- The packet of the request. -/
def attackedPacket : Packet :=
  txPacket (attackedConfig 0) none attackedRequest [1, 2, 3] 0 false []

/-- What the provider accepts of the frame with another hop limit. -/
def attackedInput : AuthInput :=
  gateAuthInput delayedFrame delayedFrame.length 1 ⟨7, 0, 1⟩

/-- The forged frame is not accepted. What is accepted of the other is what node 1 signed. -/
theorem attackedRun_unforged :
    Along (NodeMesh.attacked fun _ => chainWorld) Unforged attackedActions
      { node := attackedNode } := by
  -- the provider refuses the frame with another payload
  have hforged : Unforged (attackedRun 3) (.act (.receive 1 1 true)) := by
    intro frame hframe input hverify
    have hget : (attackedRun 3).wire[1]? = some forgedFrame := by decide +kernel
    rw [hget] at hframe
    cases hframe
    have hevents : ∃ input', (xglDatalinkProcessFrame ((attackedRun 3).node 1).datalink forgedFrame
        forgedFrame.length).2.2 = [.verify input' .ok false] :=
      ⟨gateAuthInput forgedFrame forgedFrame.length 1 ⟨7, 0, 1⟩, by decide +kernel⟩
    obtain ⟨input', hevents⟩ := hevents
    rw [hevents] at hverify
    exact absurd (List.mem_singleton.mp hverify) (by simp)
  -- it accepts the frame with another hop limit, and node 1 has signed that input
  have hdelayed : Unforged (attackedRun 4) (.act (.receive 1 2 true)) := by
    intro frame hframe input hverify
    have hget : (attackedRun 4).wire[2]? = some delayedFrame := by decide +kernel
    rw [hget] at hframe
    cases hframe
    have hevents : (xglDatalinkProcessFrame ((attackedRun 4).node 1).datalink delayedFrame
        delayedFrame.length).2.2
        = [.verify attackedInput .ok true, .upperReceive delayedFrame delayedFrame.length] := by
      decide +kernel
    rw [hevents] at hverify
    obtain rfl : input = attackedInput := by simpa using hverify
    exact ⟨0, attackedPacket, .ok, attackedFrame, by decide +kernel, by decide +kernel,
      by decide +kernel, by decide +kernel, by decide +kernel⟩
  exact ⟨trivial, trivial, trivial, hforged, hdelayed, trivial⟩

/-- One request is within the limits. -/
theorem withinIds_of_asked {mesh : NodeMesh (Fin 2)}
    (hasked : ∀ i, mesh.asked i = if i = 0 then [attackedRequest] else []) :
    WithinIds attackedConfig mesh := by
  refine ⟨fun i => (List.length_filter_le _ _).trans ?_, fun i txData hmem data hdata => ?_⟩
  · rw [hasked]
    split <;> simp
  · rw [hasked] at hmem
    split at hmem
    · rw [List.mem_singleton.mp hmem] at hdata
      cases hdata
      simp
    · cases hmem

/-- Node 2 is handed the payload, and whatever is handed over was asked for. -/
theorem mesh_authentic_attacked :
    rxPayloads ((attackedRun 5).node 1).transport.io.events = [[1, 2, 3]] ∧
      ∀ i sourceId dataType data origin,
        .rxCallback sourceId dataType data origin ∈ ((attackedRun 5).node i).transport.io.events →
        ∃ j txData payload, txData ∈ (attackedRun 5).asked j ∧ txData.data = some payload ∧
          sourceId = (attackedConfig j).localId ∧ dataType = txData.dataType ∧
          (txData.targetId = (attackedConfig i).localId ∨ txData.targetId = XGL_BROADCAST_ID) ∧
          data = handedDown (attackedConfig j) txData payload := by
  have hdelivered : rxPayloads ((attackedRun 5).node 1).transport.io.events = [[1, 2, 3]] := by
    decide +kernel
  have hasked : ∀ i, (attackedRun 5).asked i = if i = 0 then [attackedRequest] else [] := by
    decide +kernel
  have hlimits : WithinIds attackedConfig (attackedRun 5) := withinIds_of_asked hasked
  rw [attackedRun] at hdelivered hlimits ⊢
  exact ⟨hdelivered,
    mesh_authentic attackedConfig (fun _ => chainWorld) { node := attackedNode } attacked_start
      (fun _ => rfl) attackedActions attackedRun_unforged hlimits⟩

end XgenLink
