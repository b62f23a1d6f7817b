import XgenLink.Proofs.CalmNode
import XgenLink.Proofs.FeedbackFits
import XgenLink.Proofs.FrameArrival
import XgenLink.Proofs.TransactionalSend

/-!
# `XgenLink.Proofs.FragmentTiling`: an unreliable message is tiled by frames that fit

A message that does not fit into one frame is cut. The send plan computes how many bytes of
payload a frame holds beside its header, its extensions, the tag and the checksum.
`transport_send_fragmented` cuts the message by that number, and
`network_validate_auth_tx_budget` checks every frame against the route again. The two computations
are written separately in the source, and they have to agree.

On a node whose lower layers work they do. The pieces of a planned message are the whole message
in order, none of them is empty, there are as many as planned, and each of their frames fits both
the limit of the route and that of the protocol. A receiver reads from each piece the message id,
its offset and the length of the message.

* `PlanFits`, `transportBuildSendPlan_fits`: what a plan promises, over Nat.
* `messagePiece`, `flatMap_messagePiece`: the pieces, and that they are the message.
* `LowerLayersUp`: the layers below take frames and their provider signs.
* `lowerSend_fitting`: a packet whose frame fits the route goes out with the planned size.
* `transportFragmentLoop_unreliable`: the loop over the pieces.
* `fragmentation_tiles`: the pieces and frames of every planned unreliable message.
-/

set_option autoImplicit false

namespace XgenLink

/-! ### Plans -/

/-- The bytes of extensions in front of each payload of a planned message. -/
def planExtensionsLen (txData : TxData) (plan : SendPlan) : Nat :=
  (if txData.dataType != 0 then XGL_DATA_TYPE_EXT_SIZE else 0) +
    if plan.needsFragmentation then XGL_FRAGMENT_EXT_SIZE else 0

/-- The arithmetic of a plan over Nat, with no truncated subtraction left in it: overhead and
payload budget add up to the frame size, and the pieces are the smallest number of budgets that
hold the message. -/
structure PlanFits (config : TransportConfig) (txData : TxData) (dataLen : Nat)
    (plan : SendPlan) : Prop where
  budget : xglFrameSerializedSize plan.fragmentPayloadBudget (planExtensionsLen txData plan)
    config.authTagLen.toNat = (transportEffectiveMaxFrameSize config txData.targetId).toNat
  enough : dataLen ≤ plan.fragmentCount * plan.fragmentPayloadBudget
  started : ∀ i < plan.fragmentCount, i * plan.fragmentPayloadBudget < dataLen
  whole : plan.needsFragmentation = false → plan.fragmentCount = 1

/-- What a plan promises. -/
theorem transportBuildSendPlan_fits {config : TransportConfig} {txData : TxData} {dataLen : Nat}
    {plan : SendPlan} (hplan : transportBuildSendPlan config txData dataLen = .ok plan)
    (hlen : 0 < dataLen) : PlanFits config txData dataLen plan := by
  have hpieces := transportBuildSendPlan_pieces hplan
  simp only [transportBuildSendPlan] at hplan
  split at hplan
  · cases hplan
  split at hplan
  · cases hplan
  rename_i budget hbudget
  have hroom := xglFramePayloadBudget_eq_some.mp hbudget
  split at hplan
  · -- one frame holds the message
    rename_i hfits
    cases hplan
    refine ⟨?_, ?_, ?_, fun _ => rfl⟩
    · simp only [xglFrameSerializedSize, planExtensionsLen, XGL_WIRE_BASE_HEADER_SIZE,
        XGL_CRC16_SIZE, Bool.false_eq_true, if_false, Nat.add_zero]
      omega
    · show dataLen ≤ 1 * budget
      omega
    · intro i hi
      have hzero : i = 0 := Nat.lt_one_iff.mp hi
      rw [hzero, Nat.zero_mul]
      exact hlen
  split at hplan
  · cases hplan
  split at hplan
  · cases hplan
  rename_i hlarge
  cases hplan
  have hpos : 0 < budget - XGL_FRAGMENT_EXT_SIZE := by omega
  refine ⟨?_, ?_, (hpieces rfl).2.2, fun h => by cases h⟩
  · simp only [xglFrameSerializedSize, planExtensionsLen, XGL_WIRE_BASE_HEADER_SIZE,
      XGL_CRC16_SIZE, if_true]
    omega
  · -- rounding up leaves nothing of the message behind
    have hround := Nat.lt_mul_div_succ (dataLen + (budget - XGL_FRAGMENT_EXT_SIZE) - 1) hpos
    rw [Nat.mul_succ] at hround
    dsimp only
    rw [Nat.mul_comm]
    omega

/-! ### Pieces -/

/-- Piece `i` of a message cut by `size`, as `transport_send_fragmented` reads it. -/
def messagePiece (data : Bytes) (size i : Nat) : Bytes :=
  readBytes data (i * size) (min (data.length - i * size) size)

/-- A piece is what of the message lies in its stretch. -/
theorem messagePiece_eq (data : Bytes) (size i : Nat) :
    messagePiece data size i = (data.drop (i * size)).take size := by
  have hleft : (data.drop (i * size)).length = data.length - i * size := List.length_drop
  rw [messagePiece, readBytes, List.takeD_eq_take _ (by omega), ← hleft, Nat.min_comm,
    ← List.take_eq_take_min]

/-- A piece is as long as planned, but for the last one. -/
theorem length_messagePiece (data : Bytes) (size i : Nat) :
    (messagePiece data size i).length = min (data.length - i * size) size :=
  length_readBytes _ _ _

/-- The first `n` pieces in a row are the front of the message. -/
theorem flatMap_messagePiece (data : Bytes) (size n : Nat) :
    (List.range n).flatMap (messagePiece data size) = data.take (n * size) := by
  induction n with
  | zero => simp
  | succ n ih =>
    rw [List.range_succ, List.flatMap_append, ih, List.flatMap_singleton, messagePiece_eq,
      Nat.succ_mul, List.take_add]

/-! ### Lower layers that work -/

/-- A node whose layers below the transport take frames for `targetId`: its layers share the route
table and the settings of authentication, the route has a PHY that transmits, and the provider
signs. Whether the frame fits is not part of it. -/
structure LowerLayersUp (node : Node) (targetId : UInt16) (route : RouteItem) : Prop where
  transport : node.transport.config.lowerLayer = true
  network : node.network.lowerLayer = true
  table : node.transport.config.routeTable = some node.network.routeTable
  lookup : xglRouteTableLookup node.network.routeTable targetId = some route
  phy : ∃ phy tx, route.phy = some phy ∧ phy.tx = some tx ∧ ∀ bytes, tx bytes = .ok
  required : node.datalink.authRequired = node.network.authRequired
  provider : node.datalink.authProvider = node.network.authProvider
  tagLen : datalinkAuthTagLen node.network.authRequired node.network.authProvider
    = .ok node.transport.config.authTagLen.toNat
  signs : ∀ provider sign, node.network.authProvider = some provider →
    provider.sign = some sign → ∀ keyId aad payload room, provider.tagLen ≤ room →
      ∃ tag, sign keyId aad payload room = .ok tag ∧ tag.length = provider.tagLen
  localId : node.network.localId ≠ 0
  targetId : targetId ≠ 0

/-- The packet with the source id `xgl_network_send_with_handle` fills in. -/
def NetworkCtx.sourced (net : NetworkCtx) (packet : Packet) : Packet :=
  if packet.sourceId == 0 then { packet with sourceId := net.localId } else packet

/-- Both kinds of frames get the same packet type. -/
theorem frameFlagsAndType_data {params : FrameParams}
    (htype : params.packetType = XGL_PACKET_TYPE_INVALID) :
    wirePacketTypeValid (frameFlagsAndType params).2 = true := by
  simp only [frameFlagsAndType, htype]
  split <;> rfl

/-- The tag length of a node is that of a provider that can sign, or no tag is appended. -/
theorem datalinkAuthTagLen_ok {authRequired : Bool} {authProvider : Option AuthProvider}
    {tagLen : Nat} (h : datalinkAuthTagLen authRequired authProvider = .ok tagLen) :
    (authRequired = false ∧ tagLen = 0) ∨
      ∃ provider sign, authRequired = true ∧ authProvider = some provider ∧
        provider.sign = some sign ∧ 0 < provider.tagLen ∧
        provider.tagLen ≤ XGL_AUTH_TAG_MAX_LEN ∧ tagLen = provider.tagLen := by
  simp only [datalinkAuthTagLen] at h
  cases authRequired with
  | false =>
    cases h
    exact .inl ⟨rfl, rfl⟩
  | true =>
    cases authProvider with
    | none => cases h
    | some provider =>
      cases hsign : provider.sign with
      | none => simp [hsign] at h
      | some sign =>
        simp only [hsign, Bool.not_true, Bool.false_eq_true, if_false, Option.isNone_some,
          Bool.false_or, Bool.or_eq_true, beq_iff_eq, decide_eq_true_eq] at h
        split at h
        · cases h
        · rename_i hlen
          cases h
          exact .inr ⟨provider, sign, rfl, rfl, hsign, by omega, by omega, rfl⟩

section Up

variable {node : Node} {targetId : UInt16} {route : RouteItem}

/-- A frame with valid fields is serialized to the size the network layer computed. -/
theorem LowerLayersUp.serializes (h : LowerLayersUp node targetId route) {frame : Frame}
    (htype : wirePacketTypeValid frame.header.packetType = true)
    (hsource : frame.header.sourceId ≠ 0) (htarget : frame.header.targetId ≠ 0)
    (hexts : frame.extensions.length ≤ 216) (hpayload : frame.payload.length ≤ 65535) :
    ∃ bytes, datalinkSerialize node.datalink (xglFrameSerializedSize frame.payload.length
        frame.extensions.length node.transport.config.authTagLen.toNat) frame = .ok bytes ∧
      bytes.length = xglFrameSerializedSize frame.payload.length frame.extensions.length
        node.transport.config.authTagLen.toNat := by
  -- one byte holds the length of the header with all its extensions
  have hheaderLen : ∀ n, n ≤ 255 → (UInt8.ofNat n).toNat = n := by
    intro n hn
    rw [UInt8.toNat_ofNat']
    exact Nat.mod_eq_of_lt (by omega)
  -- without authentication nothing is signed, with it the provider signs
  rcases datalinkAuthTagLen_ok h.tagLen with ⟨hplain, hzero⟩ | ⟨provider, sign, hauth, hprovider,
    hsign, hpos, hmax, htag⟩
  · have hvalid : wireHeaderFieldsValid (frameWireHeader frame) = true := by
      simp only [wireHeaderFieldsValid, frameWireHeader, htype, hheaderLen _ (by
        simp only [XGL_WIRE_BASE_HEADER_SIZE]; omega : XGL_WIRE_BASE_HEADER_SIZE +
          frame.extensions.length ≤ 255)]
      simp [hsource, htarget]
    refine ⟨appendFrameCrc (wireHeaderBytes (frameWireHeader frame) ++ frame.extensions ++
      frame.payload), ?_, ?_⟩
    · rw [datalinkSerialize, h.required, hplain]
      exact xglFrameSerialize_ok (by omega) (by rw [hzero]) hvalid
    · rw [hzero]
      simp only [length_appendFrameCrc, List.length_append, length_wireHeaderBytes,
        xglFrameSerializedSize, xglFrameAuthOverhead, XGL_WIRE_BASE_HEADER_SIZE, Nat.lt_irrefl,
        gt_iff_lt, if_false]
      omega
  · have hvalid : wireHeaderFieldsValid (frameSecuredHeader frame) = true := by
      simp only [wireHeaderFieldsValid, frameSecuredHeader, frameAuthenticatedHeader, htype,
        hheaderLen _ (by
          simp only [XGL_WIRE_BASE_HEADER_SIZE, XGL_SECURITY_EXT_SIZE,
            XGL_SECURITY_EXT_VALUE_SIZE, XGL_WIRE_EXT_HEADER_SIZE]
          omega : XGL_WIRE_BASE_HEADER_SIZE + frame.extensions.length + XGL_SECURITY_EXT_SIZE
            ≤ 255)]
      simp [hsource, htarget, Nat.add_assoc]
    rw [htag]
    -- the buffer leaves the signer exactly the length of its tag
    have hroom : provider.tagLen ≤ xglFrameSerializedSize frame.payload.length
        frame.extensions.length provider.tagLen - XGL_CRC16_SIZE -
          (XGL_WIRE_BASE_HEADER_SIZE + frame.extensions.length + XGL_SECURITY_EXT_SIZE +
            frame.payload.length) := by
      simp only [xglFrameSerializedSize, xglFrameAuthOverhead, if_pos hpos]
      omega
    obtain ⟨tag, hsigned, htagLen⟩ := h.signs provider sign hprovider hsign node.datalink.authKeyId
      (zeroMutableHeaderBytes (frameAuthenticatedFront frame node.datalink.authKeyId
        (UInt8.ofNat provider.tagLen))) frame.payload _ hroom
    refine ⟨appendFrameCrc (frameAuthenticatedFront frame node.datalink.authKeyId
      (UInt8.ofNat provider.tagLen) ++ frame.payload ++ tag), ?_, ?_⟩
    · rw [datalinkSerialize, h.required, h.provider, hauth, hprovider]
      exact xglFrameSerializeAuthenticated_eq_ok.mpr ⟨hpos, hmax, hexts, hpayload, hvalid,
        Nat.le_refl _, sign, tag, hsign, htagLen, hsigned, rfl⟩
    · simp only [length_appendFrameCrc, List.length_append, length_frameAuthenticatedFront,
        xglFrameSerializedSize, xglFrameAuthOverhead, if_pos hpos, htagLen]
      omega

/-- A packet of user data whose frame fits the route goes out as one frame of that size, and the
size check of the network layer passes it. -/
theorem lowerSend_fitting (h : LowerLayersUp node targetId route) {packet : Packet}
    {payload extensions : Bytes} (hdata : packet.data = some { data := some payload })
    (htarget : packet.targetId = targetId)
    (htype : packet.packetType = XGL_PACKET_TYPE_INVALID)
    (hcopy : networkCopyPacketExtensions packet = .ok extensions)
    (hexts : extensions.length ≤ 216)
    (hfits : xglFrameSerializedSize payload.length extensions.length
      node.transport.config.authTagLen.toNat ≤ route.maxFrameSize.toNat) :
    PassesBudget node.network route (node.network.sourced packet) ∧
      ∃ bytes, node.lowerSend packet = { error := .ok, transmitted := some bytes } ∧
        bytes.length = xglFrameSerializedSize payload.length extensions.length
          node.transport.config.authTagLen.toNat := by
  generalize hfilled : node.network.sourced packet = filled
  have hsource : filled.sourceId ≠ 0 := by
    rw [← hfilled, NetworkCtx.sourced]
    split
    · exact h.localId
    · rename_i hset
      simpa using hset
  have hkept : filled.data = packet.data ∧ filled.targetId = packet.targetId ∧
      filled.packetType = packet.packetType ∧
      networkCopyPacketExtensions filled = networkCopyPacketExtensions packet := by
    rw [← hfilled, NetworkCtx.sourced]
    split <;> exact ⟨rfl, rfl, rfl, rfl⟩
  obtain ⟨hfilledData, hfilledTarget, hfilledType, hfilledCopy⟩ := hkept
  have hpayload : filled.payload?.getD [] = payload := by
    rw [Packet.payload?, hfilledData, hdata]
    rfl
  have hshort : payload.length ≤ 65535 := by
    have hroute := route.maxFrameSize.toNat_lt
    simp only [xglFrameSerializedSize] at hfits
    omega
  have hbuild : ∃ frame, networkBuildTxFrame filled = .ok frame := by
    simp only [networkBuildTxFrame, hfilledCopy, hcopy, xglFrameBuild]
    rw [if_neg (by show ¬ (filled.payload?.getD []).length > 65535; rw [hpayload]; omega)]
    exact ⟨_, rfl⟩
  obtain ⟨frame, hframe⟩ := hbuild
  have hframe' := hframe
  simp only [networkBuildTxFrame, hfilledCopy, hcopy] at hframe'
  obtain ⟨hframeExts, hframePayload, hframeShort, _, _, hframeSource, hframeTarget, _,
    hframeType⟩ := xglFrameBuild_ok hframe'
  have hpayloadEq : frame.payload = payload := hframePayload.trans hpayload
  have hextsEq : frame.extensions = extensions := hframeExts
  have hbudget : networkValidateAuthTxBudget node.network frame route = .ok := by
    rw [networkValidateAuthTxBudget, h.tagLen]
    dsimp only
    rw [hpayloadEq, hextsEq, if_neg (by omega)]
  obtain ⟨bytes, hserialized, hsize⟩ := h.serializes
    (by rw [hframeType]; exact frameFlagsAndType_data (hfilledType.trans htype))
    (by rw [hframeSource]; exact hsource)
    (by
      rw [hframeTarget]
      show filled.targetId ≠ 0
      rw [hfilledTarget, htarget]
      exact h.targetId)
    (by rw [hextsEq]; exact hexts) hframeShort
  obtain ⟨phy, tx, hphy, htx, htransmits⟩ := h.phy
  rw [hpayloadEq, hextsEq] at hserialized hsize
  refine ⟨⟨frame, hframe, hbudget⟩, bytes, ?_, hsize⟩
  have hlookup : xglRouteTableLookup node.network.routeTable packet.targetId = some route :=
    htarget ▸ h.lookup
  have hsome : packet.data.isNone = false := by
    rw [hdata]
    rfl
  rw [Node.lowerSend, xglNetworkSendWithHandle, if_neg (by simp [hsome]), hlookup]
  dsimp only
  rw [show (if packet.sourceId == 0 then { packet with sourceId := node.network.localId }
    else packet) = filled from hfilled, hframe]
  dsimp only
  rw [hbudget]
  show networkSendFrameToLower node.network node.datalink true route.phy frame = _
  simp only [networkSendFrameToLower, h.network, hphy, Bool.not_true, Bool.false_eq_true, if_false]
  simp only [xglDatalinkSend, htx, h.required, h.provider, h.tagLen, hpayloadEq, hextsEq,
    hserialized, htransmits bytes, Bool.not_true, Bool.and_false, Bool.false_eq_true, if_false]

end Up

/-! ### Packets of a message -/

/-- The network layer adds a DATA_TYPE_EXT, when there is a data type, to extensions that hold no
data type and no session. -/
theorem networkCopyPacketExtensions_append {packet : Packet} {records : List WireExt}
    (hexts : packet.extensions = encodeWireExts records)
    (hencodable : ∀ ext ∈ records, ext.Encodable)
    (hother : ∀ ext ∈ records, ext.type ≠ XGL_WIRE_EXT_DATA_TYPE ∧
      ext.type ≠ XGL_WIRE_EXT_SESSION)
    (hlen : packet.extensions.length ≤ 200) :
    ∃ extensions, networkCopyPacketExtensions packet = .ok extensions ∧
      extensions.length = packet.extensions.length +
        if packet.dataType != 0 then XGL_DATA_TYPE_EXT_SIZE else 0 := by
  have hloop : ∀ rest : List WireExt, (∀ ext ∈ rest, ext.type ≠ XGL_WIRE_EXT_DATA_TYPE ∧
      ext.type ≠ XGL_WIRE_EXT_SESSION) → networkExtLoop .notFound rest {} = .ok {} := by
    intro rest hrest
    induction rest with
    | nil => rfl
    | cons ext rest ih =>
      obtain ⟨hhead, htail⟩ := List.forall_mem_cons.mp hrest
      rw [networkExtLoop, if_neg (by simpa using hhead.1), if_neg (by simpa using hhead.2)]
      exact ih htail
  have hmetadata : xglNetworkDecodeExtMetadata packet.extensions packet.extensions.length
      = .ok {} := by
    rw [xglNetworkDecodeExtMetadata]
    split
    · rfl
    · have hwalk := wireExts_encode records hencodable []
      rw [List.append_nil, ← hexts] at hwalk
      rw [hwalk]
      exact hloop records hother
  have hcapacity : ¬ packet.extensions.length > networkExtensionsCapacity := by
    simp only [networkExtensionsCapacity, XGL_WIRE_BASE_HEADER_SIZE]
    omega
  rw [networkCopyPacketExtensions, if_neg hcapacity, hmetadata]
  dsimp only
  rw [if_neg (by simp), networkAppendDataTypeExt]
  by_cases htype : packet.dataType = 0
  · rw [if_pos (by simp [htype])]
    exact ⟨_, rfl, by simp [htype]⟩
  · rw [if_neg (by simpa using htype), if_neg hcapacity, xglWireEncodeExt]
    rw [if_neg (by simp [XGL_WIRE_EXT_DATA_TYPE]), if_neg (by
      simp only [networkExtensionsCapacity, XGL_WIRE_BASE_HEADER_SIZE, List.length_singleton,
        XGL_WIRE_EXT_HEADER_SIZE]
      omega)]
    refine ⟨_, rfl, ?_⟩
    rw [List.length_append, if_pos (by simpa using htype)]
    rfl

/-- Packet `i` of a planned message without a peer. -/
def messagePacket (config : TransportConfig) (txData : TxData) (data : Bytes) (plan : SendPlan)
    (messageId : UInt32) (i : Nat) : Packet :=
  txPacket config none txData (messagePiece data plan.fragmentPayloadBudget i) 0
    plan.needsFragmentation
    (if plan.needsFragmentation then
      fragmentExtension messageId (i * plan.fragmentPayloadBudget) data.length
    else [])

/-- The extensions of a packet of a planned message take the planned room. -/
theorem messagePacket_extensions (config : TransportConfig) (txData : TxData) (data : Bytes)
    (plan : SendPlan) (messageId : UInt32) (i : Nat) :
    ∃ extensions, networkCopyPacketExtensions
        (messagePacket config txData data plan messageId i) = .ok extensions ∧
      extensions.length = planExtensionsLen txData plan := by
  generalize hoffset : i * plan.fragmentPayloadBudget = offset
  generalize hvalue : xglWireEncodeFragmentExtValue messageId (UInt32.ofNat offset)
    (UInt32.ofNat data.length) = value
  have hlen : value.length = 12 := by
    rw [← hvalue]
    rfl
  have hrecords : (messagePacket config txData data plan messageId i).extensions
      = encodeWireExts (if plan.needsFragmentation then
        [{ type := XGL_WIRE_EXT_FRAGMENT, value := value }] else []) := by
    simp only [messagePacket, txPacket, hoffset]
    split
    · simp [fragmentExtension, encodeWireExts, hvalue, hlen]
    · rfl
  have hsize : (messagePacket config txData data plan messageId i).extensions.length
      = if plan.needsFragmentation then XGL_FRAGMENT_EXT_SIZE else 0 := by
    rw [hrecords]
    split
    · simp [encodeWireExts, hlen, XGL_FRAGMENT_EXT_SIZE, XGL_WIRE_EXT_HEADER_SIZE,
        XGL_FRAGMENT_EXT_VALUE_SIZE]
    · rfl
  obtain ⟨extensions, hcopy, hlength⟩ := networkCopyPacketExtensions_append hrecords
    (by
      intro ext hmem
      split at hmem
      · rw [List.mem_singleton.mp hmem]
        exact ⟨(by decide : XGL_WIRE_EXT_FRAGMENT ≠ 0), by simp [hlen]⟩
      · exact absurd hmem List.not_mem_nil)
    (by
      intro ext hmem
      split at hmem
      · rw [List.mem_singleton.mp hmem]
        exact ⟨(by decide : XGL_WIRE_EXT_FRAGMENT ≠ _), (by decide : XGL_WIRE_EXT_FRAGMENT ≠ _)⟩
      · exact absurd hmem List.not_mem_nil)
    (by
      rw [hsize]
      split <;> decide)
  refine ⟨extensions, hcopy, ?_⟩
  rw [hlength, hsize, planExtensionsLen, Nat.add_comm]
  rfl

/-! ### The loop -/

/-- Fragments without a peer go out one after the other while the layer below takes them. -/
theorem transportFragmentLoop_unreliable (env : TransportEnv) (txData : TxData) (data : Bytes)
    (messageId : UInt32) (plan : SendPlan) (hfragment : plan.needsFragmentation = true)
    (config : TransportConfig) (indices : List Nat)
    (hlower : ∀ i ∈ indices, ∀ n,
      env.layerSend n (messagePacket config txData data plan messageId i) = .ok)
    (ctx : TransportCtx) (hconfig : ctx.config = config) :
    let sent := transportFragmentLoop env txData data messageId plan.fragmentPayloadBudget indices
      ctx none
    sent.1 = .ok ∧ sent.2.2 = none ∧
      sent.2.1.io.events = ctx.io.events ++
        indices.map fun i =>
          .layerSend (messagePacket config txData data plan messageId i) .ok := by
  dsimp only
  induction indices generalizing ctx with
  | nil => exact ⟨rfl, rfl, (List.append_nil _).symm⟩
  | cons i rest ih =>
    obtain ⟨hhead, htail⟩ := List.forall_mem_cons.mp hlower
    have hpacket : txPacket ctx.config none txData
        (messagePiece data plan.fragmentPayloadBudget i) 0
        true (fragmentExtension messageId (i * plan.fragmentPayloadBudget) data.length)
          = messagePacket config txData data plan messageId i := by
      rw [messagePacket, hfragment, hconfig]
      rfl
    have hone : transportSendOneFragment env txData data messageId plan.fragmentPayloadBudget ctx
        none i = (.ok, { ctx with io := (xglLayerSend env ctx.io
          (messagePacket config txData data plan messageId i)).2 }, none) := by
      simp only [transportSendOneFragment, transportEncodeFragmentExt_eq,
        transportSendUnreliablePacket]
      rw [show readBytes data (i * plan.fragmentPayloadBudget) (min (data.length -
        i * plan.fragmentPayloadBudget) plan.fragmentPayloadBudget)
          = messagePiece data plan.fragmentPayloadBudget i from rfl, hpacket]
      rw [show (xglLayerSend env ctx.io (messagePacket config txData data plan messageId i)).1 = .ok
        from hhead _]
    obtain ⟨hok, hpeer, hevents⟩ := ih htail { ctx with io := (xglLayerSend env ctx.io
      (messagePacket config txData data plan messageId i)).2 } hconfig
    rw [transportFragmentLoop, hone]
    refine ⟨hok, hpeer, hevents.trans ?_⟩
    show (xglLayerSend env ctx.io _).2.events ++ _ = _
    rw [xglLayerSend_events, show (xglLayerSend env ctx.io _).1 = .ok from hhead _,
      List.append_assoc, List.map_cons]
    rfl

/-! ### Whole messages -/

/-- The payloads of packets in a row. -/
def payloadsOf (packets : List Packet) : Bytes :=
  packets.flatMap fun packet => packet.payload?.getD []

/-- `packets` with their `frames` tile a planned message: as many packets as planned, none of
them empty, the message in order and nothing else, each with its place in the message when there
are several, and each with a frame that the route and the context admit. -/
structure TiledBy (node : Node) (route : RouteItem) (data : Bytes) (plan : SendPlan)
    (messageId : UInt32) (packets : List Packet) (frames : List Bytes) : Prop where
  count : packets.length = plan.fragmentCount
  nonempty : ∀ packet ∈ packets, packet.payload?.getD [] ≠ []
  covers : payloadsOf packets = data
  whole : plan.needsFragmentation = false → ∀ packet ∈ packets, packet.extensions = []
  placed : plan.needsFragmentation = true → ∀ i packet, packets[i]? = some packet →
    ∃ ext, deliveredFragmentExt packet.extensions = .ok ext ∧ ext.messageId = messageId ∧
      ext.fragmentOffset.toNat = (payloadsOf (packets.take i)).length ∧
      ext.messageLen.toNat = data.length
  admitted : ∀ packet ∈ packets, PassesBudget node.network route (node.network.sourced packet)
  frames : List.Forall₂ (fun packet frame =>
    node.lowerSend packet = { error := .ok, transmitted := some frame } ∧
      frame.length ≤ min node.transport.config.maxFrameSize.toNat route.maxFrameSize.toNat)
    packets frames

/-- The packets of a message. -/
def messagePackets (config : TransportConfig) (txData : TxData) (data : Bytes) (plan : SendPlan)
    (messageId : UInt32) : List Packet :=
  (List.range plan.fragmentCount).map (messagePacket config txData data plan messageId)

/-- The first packets carry the front of the message. -/
theorem payloadsOf_range (config : TransportConfig) (txData : TxData) (data : Bytes)
    (plan : SendPlan) (messageId : UInt32) (n : Nat) :
    payloadsOf ((List.range n).map (messagePacket config txData data plan messageId))
      = data.take (n * plan.fragmentPayloadBudget) := by
  rw [payloadsOf, List.flatMap_map]
  exact flatMap_messagePiece data plan.fragmentPayloadBudget n

section Message

variable {node : Node} {route : RouteItem} {txData : TxData} {data : Bytes} {plan : SendPlan}

/-- The effective frame size is the smaller of the two limits. -/
theorem LowerLayersUp.effective (h : LowerLayersUp node txData.targetId route) :
    (transportEffectiveMaxFrameSize node.transport.config txData.targetId).toNat
      = min node.transport.config.maxFrameSize.toNat route.maxFrameSize.toNat := by
  rw [transportEffectiveMaxFrameSize, h.table]
  dsimp only
  rw [h.lookup]
  dsimp only
  split
  · rename_i hless
    exact (Nat.min_eq_right (Nat.le_of_lt (UInt16.lt_iff_toNat_lt.mp hless))).symm
  · rename_i hless
    exact (Nat.min_eq_left (Nat.le_of_not_lt fun h => hless (UInt16.lt_iff_toNat_lt.mpr h))).symm

/-- A packet of a planned message goes out in a frame of at most the effective size. -/
theorem LowerLayersUp.sends (h : LowerLayersUp node txData.targetId route)
    (hfits : PlanFits node.transport.config txData data.length plan) (messageId : UInt32)
    (i : Nat) :
    PassesBudget node.network route (node.network.sourced
        (messagePacket node.transport.config txData data plan messageId i)) ∧
      ∃ frame, node.lowerSend (messagePacket node.transport.config txData data plan messageId i)
          = { error := .ok, transmitted := some frame } ∧
        frame.length ≤ min node.transport.config.maxFrameSize.toNat route.maxFrameSize.toNat := by
  obtain ⟨extensions, hcopy, hlength⟩ := messagePacket_extensions node.transport.config txData data
    plan messageId i
  have hpiece := length_messagePiece data plan.fragmentPayloadBudget i
  -- a piece takes at most the budget, and with the budget the frame has the effective size
  have hsize : xglFrameSerializedSize (messagePiece data plan.fragmentPayloadBudget i).length
      extensions.length node.transport.config.authTagLen.toNat
        ≤ min node.transport.config.maxFrameSize.toNat route.maxFrameSize.toNat := by
    rw [← h.effective, ← hfits.budget, hlength]
    simp only [xglFrameSerializedSize]
    omega
  have hexts : extensions.length ≤ 216 := by
    rw [hlength, planExtensionsLen]
    split <;> split <;> decide
  obtain ⟨hpasses, frame, hsend, hframe⟩ := lowerSend_fitting h
    (show (messagePacket node.transport.config txData data plan messageId i).data
      = some { data := some (messagePiece data plan.fragmentPayloadBudget i) } from rfl)
    rfl rfl hcopy hexts (Nat.le_trans hsize (Nat.min_le_right _ _))
  exact ⟨hpasses, frame, hsend, hframe ▸ hsize⟩

/-- The packets of a planned message tile it. -/
theorem messagePackets_tile (h : LowerLayersUp node txData.targetId route)
    (hfits : PlanFits node.transport.config txData data.length plan)
    (hshort : data.length < 2 ^ 32) (messageId : UInt32) :
    ∃ frames, TiledBy node route data plan messageId
      (messagePackets node.transport.config txData data plan messageId) frames := by
  have hframes : ∀ indices : List Nat, ∃ frames, List.Forall₂ (fun packet frame =>
      node.lowerSend packet = { error := .ok, transmitted := some frame } ∧
        frame.length ≤ min node.transport.config.maxFrameSize.toNat route.maxFrameSize.toNat)
      (indices.map (messagePacket node.transport.config txData data plan messageId)) frames := by
    intro indices
    -- the induction is on the indices, whatever they are
    induction indices with
    | nil => exact ⟨[], .nil⟩
    | cons i rest ih =>
      obtain ⟨frames, hrest⟩ := ih
      obtain ⟨_, frame, hframe⟩ := h.sends hfits messageId i
      exact ⟨frame :: frames, .cons hframe hrest⟩
  obtain ⟨frames, hall⟩ := hframes (List.range plan.fragmentCount)
  refine ⟨frames, ?_, ?_, ?_, ?_, ?_, ?_, hall⟩
  · rw [messagePackets, List.length_map, List.length_range]
  · intro packet hmem
    obtain ⟨i, hi, rfl⟩ := List.mem_map.mp hmem
    have hstarted := hfits.started i (List.mem_range.mp hi)
    have hpiece := length_messagePiece data plan.fragmentPayloadBudget i
    have hbudget : 0 < plan.fragmentPayloadBudget := by
      have henough := hfits.enough
      refine Nat.pos_of_ne_zero fun hzero => ?_
      rw [hzero, Nat.mul_zero] at henough
      omega
    intro hempty
    have hnone : (messagePiece data plan.fragmentPayloadBudget i).length = 0 :=
      congrArg List.length hempty
    omega
  · rw [messagePackets, payloadsOf_range]
    exact List.take_of_length_le hfits.enough
  · intro hwhole packet hmem
    obtain ⟨i, _, rfl⟩ := List.mem_map.mp hmem
    simp only [messagePacket, txPacket, hwhole, Bool.false_eq_true, if_false]
  · intro hfragment i packet hget
    rw [messagePackets, List.getElem?_map, Option.map_eq_some_iff] at hget
    obtain ⟨j, hj, rfl⟩ := hget
    obtain ⟨hi, hval⟩ := List.getElem?_eq_some_iff.mp hj
    rw [List.length_range] at hi
    rw [List.getElem_range] at hval
    subst hval
    have hstarted := hfits.started i hi
    have htake : payloadsOf
        ((messagePackets node.transport.config txData data plan messageId).take i)
        = data.take (i * plan.fragmentPayloadBudget) := by
      rw [messagePackets, ← List.map_take, List.take_range, Nat.min_eq_left (Nat.le_of_lt hi),
        payloadsOf_range]
    refine ⟨⟨messageId, UInt32.ofNat (i * plan.fragmentPayloadBudget), UInt32.ofNat data.length⟩,
      ?_, rfl, ?_, ?_⟩
    · have hfront := @deliveredFragmentExt_front messageId (i * plan.fragmentPayloadBudget)
        data.length [] (fun ext hmem => absurd hmem List.not_mem_nil)
      rw [show encodeWireExts [] = [] from rfl, List.append_nil] at hfront
      simp only [messagePacket, txPacket, hfragment, if_true]
      exact hfront
    · rw [htake, List.length_take, UInt32.toNat_ofNat', Nat.mod_eq_of_lt (by omega)]
      omega
    · rw [UInt32.toNat_ofNat', Nat.mod_eq_of_lt hshort]
  · intro packet hmem
    obtain ⟨i, _, rfl⟩ := List.mem_map.mp hmem
    exact (h.sends hfits messageId i).1

/-- The transmission of a planned message without a peer hands its packets down. -/
theorem transportTransmit_message (h : LowerLayersUp node txData.targetId route)
    (hfits : PlanFits node.transport.config txData data.length plan) (clock : Nat → UInt32)
    (hcompression : txData.compressionId = 0) {manager : FragmentManager}
    (hmanager : node.transport.fragmentMgr = some manager) :
    let sent := transportTransmit (node.env clock) node.transport none txData data plan
    sent.1 = .ok ∧ sent.2.2 = none ∧
      sent.2.1.io.events = node.transport.io.events ++
        (messagePackets node.transport.config txData data plan manager.nextMessageId).map
          fun packet => .layerSend packet .ok := by
  -- the layer below takes every packet of the message
  have hlower : ∀ i n, (node.env clock).layerSend n (messagePacket node.transport.config txData data
      plan manager.nextMessageId i) = .ok := by
    intro i n
    obtain ⟨_, frame, hsend, _⟩ := h.sends hfits manager.nextMessageId i
    show (node.lowerSend _).error = .ok
    rw [hsend]
  dsimp only
  rw [transportTransmit, messagePackets, List.map_map]
  split
  · rename_i hfragment
    rw [transportSendFragmented, hmanager]
    exact transportFragmentLoop_unreliable (node.env clock) txData data manager.nextMessageId plan
      hfragment node.transport.config (List.range plan.fragmentCount)
      (fun i _ n => hlower i n) _ rfl
  · rename_i hfragment
    have hwhole : plan.needsFragmentation = false := by simpa using hfragment
    have hcount := hfits.whole hwhole
    have henough := hfits.enough
    rw [hcount, Nat.one_mul] at henough
    have hpiece : messagePiece data plan.fragmentPayloadBudget 0 = data := by
      rw [messagePiece_eq, Nat.zero_mul, List.drop_zero, List.take_of_length_le henough]
    have hpacket : txPacket node.transport.config none txData
        (transportEncodeData node.transport.config txData data) 0 false []
          = messagePacket node.transport.config txData data plan manager.nextMessageId 0 := by
      rw [messagePacket, hpiece, hwhole, transportEncodeData, hcompression]
      rfl
    dsimp only
    rw [transportSendUnreliablePacket, hpacket, hcount]
    refine ⟨hlower 0 node.transport.io.sendCount, rfl, ?_⟩
    show (xglLayerSend (node.env clock) node.transport.io _).2.events = _
    rw [xglLayerSend_events, show (xglLayerSend (node.env clock) node.transport.io _).1 = .ok
      from hlower 0 node.transport.io.sendCount]
    rfl

/-- The frames of events that hand down packets whose frames are known. -/
theorem frames_of_sends {packets : List Packet} {frames : List Bytes} {limit : Nat}
    (hall : List.Forall₂ (fun packet frame =>
      node.lowerSend packet = { error := .ok, transmitted := some frame } ∧
        frame.length ≤ limit) packets frames) :
    node.frames (packets.map fun packet => .layerSend packet .ok) = frames := by
  induction hall with
  | nil => rfl
  | cons hhead _ ih =>
    rw [List.map_cons, Node.frames, List.filterMap_cons]
    simp only [hhead.1]
    exact congrArg _ ih

end Message

/-- Every message that `transport_build_send_plan` admits is sent by the unreliable path as the
planned number of packets. They are nonempty and in order the whole message, and a receiver reads
from each the same message id, its offset and the length of the message. No frame of them is
longer than the context or the route allows, so `network_validate_auth_tx_budget` passes each.
The plan itself computes without underflow (`PlanFits`), and within 64 bits. -/
theorem fragmentation_tiles (clock : Nat → UInt32) (node : Node) (route : RouteItem)
    (txData : TxData) (data : Bytes) (manager : FragmentManager) (plan : SendPlan)
    (hup : LowerLayersUp node txData.targetId route) (hdata : txData.data = some data)
    (hlen : 0 < data.length) (hshort : data.length < 2 ^ 32)
    (hunreliable : txData.reliable = false) (hcompression : txData.compressionId = 0)
    (hmanager : node.transport.fragmentMgr = some manager)
    (hplan : transportBuildSendPlan node.transport.config txData data.length = .ok plan) :
    PlanFits node.transport.config txData data.length plan ∧
      data.length + plan.fragmentPayloadBudget < 2 ^ 64 ∧
      ∃ packets frames, TiledBy node route data plan manager.nextMessageId packets frames ∧
        (nodeSend clock node txData).1 = .ok ∧ (nodeSend clock node txData).2.2 = frames ∧
        (nodeSend clock node txData).2.1.transport.io.events = node.transport.io.events ++
          packets.map fun packet => .layerSend packet .ok := by
  have hfits := transportBuildSendPlan_fits hplan hlen
  obtain ⟨frames, htiled⟩ := messagePackets_tile hup hfits hshort manager.nextMessageId
  obtain ⟨hok, hpeer, hevents⟩ := transportTransmit_message hup hfits clock hcompression hmanager
  have hsent : (xglTransportSend (node.env clock) node.transport txData).1 = .ok ∧
      (xglTransportSend (node.env clock) node.transport txData).2.io.events
        = node.transport.io.events ++ (messagePackets node.transport.config txData data plan
          manager.nextMessageId).map fun packet => .layerSend packet .ok := by
    rw [xglTransportSend, hdata]
    dsimp only
    rw [if_neg (by simpa using Nat.ne_of_gt hlen), if_neg (by simp [hup.transport]),
      if_neg (by simp [hunreliable]), transportSendPlanned, hplan]
    dsimp only
    generalize transportTransmit (node.env clock) node.transport none txData data plan = sent
      at hok hpeer hevents ⊢
    obtain ⟨err, after, peer⟩ := sent
    dsimp only at hok hpeer hevents ⊢
    subst hok hpeer
    exact ⟨rfl, hevents⟩
  refine ⟨hfits, ?_, messagePackets node.transport.config txData data plan manager.nextMessageId,
    frames, htiled, hsent.1, ?_, hsent.2⟩
  · -- the budget is part of a frame, whose size has 16 bits
    have hbudget := hfits.budget
    have heffective := (transportEffectiveMaxFrameSize node.transport.config
      txData.targetId).toNat_lt
    simp only [xglFrameSerializedSize] at hbudget
    omega
  · show (node.advance _).2 = frames
    rw [node.advance_eq hsent.2]
    exact frames_of_sends htiled.frames

/-- A node that signs its frames and cuts messages for a route of 77 bytes. -/
def signingNode : Node where
  transport :=
    { config :=
        { localId := 1
          authTagLen := 16
          enableFragmentation := true
          maxFrameSize := 80
          routeTable := some [{ targetId := 2, phy := some { id := 0, tx := some fun _ => .ok }
                                maxFrameSize := 77 }] }
      nextSessionId := 1
      window := freshWindow 8
      fragmentMgr := some { maxReassemblyBuffers := 1, reassemblyTimeoutMs := 1000 } }
  network :=
    { localId := 1
      routeTable := [{ targetId := 2, phy := some { id := 0, tx := some fun _ => .ok }
                       maxFrameSize := 77 }]
      authRequired := true
      authProvider := some blockProvider }
  datalink :=
    { parser :=
        { state := .magic, cache := List.replicate 64 0, cacheSize := 64, cacheLen := 0, index := 0
          timestamp := 0, expectedHeaderLen := 0, expectedPayloadLen := 0, expectedAuthTagLen := 0 }
      authRequired := true
      authKeyId := 7
      authProvider := some blockProvider }

/-- Twenty bytes with a data type. -/
def twentyBytes : TxData where
  targetId := 2
  data := some (List.replicate 20 7)
  dataType := 5

/-- Three bytes are left beside header, extensions and tag, so twenty bytes are seven frames. -/
theorem fragmentation_tiles_twentyBytes :
    transportBuildSendPlan signingNode.transport.config twentyBytes 20
        = .ok { needsFragmentation := true, fragmentPayloadBudget := 3, fragmentCount := 7 } ∧
      (nodeSend (fun _ => 0) signingNode twentyBytes).1 = .ok := by
  have hplan : transportBuildSendPlan signingNode.transport.config twentyBytes 20
      = .ok { needsFragmentation := true, fragmentPayloadBudget := 3, fragmentCount := 7 } := by
    decide
  have hup : LowerLayersUp signingNode twentyBytes.targetId
      { targetId := 2, phy := some { id := 0, tx := some fun _ => .ok }, maxFrameSize := 77 } :=
    { transport := rfl
      network := rfl
      table := rfl
      lookup := rfl
      phy := ⟨_, _, rfl, rfl, fun _ => rfl⟩
      required := rfl
      provider := rfl
      tagLen := rfl
      signs := by
        rintro provider sign hprovider hsign keyId aad payload room hroom
        cases hprovider
        cases hsign
        exact ⟨_, rfl, rfl⟩
      localId := by decide
      targetId := by decide }
  obtain ⟨_, _, _, _, _, hok, _, _⟩ := fragmentation_tiles (fun _ => 0) signingNode _ twentyBytes
    (List.replicate 20 7) { maxReassemblyBuffers := 1, reassemblyTimeoutMs := 1000 } _
    hup rfl (by decide) (by decide) rfl rfl rfl hplan
  exact ⟨hplan, hok⟩

end XgenLink
