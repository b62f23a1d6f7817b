import XgenLink.Proofs.FeedbackDecoding
import XgenLink.System.Node

/-!
# `XgenLink.Proofs.WireRoundTrip`: packets across the wire without authentication

What `xgl_network_send_with_handle` makes of a packet, and what `xgl_network_receive` of the other
node hands up for that frame. This is the exact form of what `XgenLink.Proofs.FrameArrival` says
for all frames: without authentication and without a hop in between the packet that arrives can be
written down.

The scope does not survive as it is: a zero connection id becomes the session id, the session
id becomes the low half of the connection id, and the epoch is not carried. The data type travels
in an extension, and reliability, fragmentation and priority in the traffic class.

* `Encodable`, `PlainRoute`: packets that have a wire form, and nodes that send it.
* `lowerSend_plain`: the frame of a packet.
* `arrival`, `xglNetworkReceive_wireFrame`: the packet handed up for it.
* `data_arrives`, `hello_arrives`, `ack_arrives`: the three kinds of packet that
  travel between two transports.
-/

set_option autoImplicit false

namespace XgenLink

/-! ### The frame of a packet -/

/-- The frame `xgl_frame_build` returns. -/
def frameOfParams (params : FrameParams) : Frame where
  header :=
    { version := XGL_WIRE_VERSION
      headerLen := UInt8.ofNat XGL_WIRE_BASE_HEADER_SIZE
      packetType := (frameFlagsAndType params).2
      flags := (frameFlagsAndType params).1
      ttl := params.ttl
      trafficClass :=
        if params.trafficClass != 0 then params.trafficClass else frameTrafficClassBits params
      sourceId := params.sourceId
      targetId := params.targetId
      connectionId :=
        if params.connectionId != 0 then params.connectionId else params.sessionId.toUInt32
      packetNumber := params.packetNumber
      payloadLen := UInt16.ofNat params.payload.length
      headerCrc16 := 0 }
  extensions := params.extensions
  payload := params.payload

/-- The frame built for a packet with completed extensions. -/
def packetFrame (packet : Packet) (extensions : Bytes) : Frame :=
  frameOfParams (networkFrameParams packet extensions)

/-- The bytes of that frame. -/
def wireFrame (packet : Packet) (extensions : Bytes) : Bytes :=
  appendFrameCrc (wireHeaderBytes (frameWireHeader (packetFrame packet extensions)) ++
    extensions ++ packet.payload?.getD [])

/-- The packet has a wire form: addresses, a valid type, and extensions that fit
and decode. -/
structure Encodable (packet : Packet) (extensions : Bytes) (metadata : NetworkExtMetadata) :
    Prop where
  data : packet.data.isSome = true
  source : packet.sourceId ≠ 0
  target : packet.targetId ≠ 0
  copies : networkCopyPacketExtensions packet = .ok extensions
  fits : extensions.length ≤ 231
  decodes : xglNetworkDecodeExtMetadata extensions extensions.length = .ok metadata
  type : wirePacketTypeValid (frameFlagsAndType (networkFrameParams packet extensions)).2 = true

/-- The header of the frame passes the checks of encoder and decoder. -/
theorem Encodable.header_valid {packet : Packet} {extensions : Bytes}
    {metadata : NetworkExtMetadata} (h : Encodable packet extensions metadata) :
    wireHeaderFieldsValid (frameWireHeader (packetFrame packet extensions)) = true := by
  have hlen : (UInt8.ofNat (24 + extensions.length)).toNat = 24 + extensions.length := by
    have := h.fits
    rw [UInt8.toNat_ofNat']
    exact Nat.mod_eq_of_lt (by omega)
  unfold wireHeaderFieldsValid
  simp only [Bool.and_eq_true, decide_eq_true_eq, bne_iff_ne, beq_iff_eq]
  refine ⟨⟨⟨⟨rfl, ?_⟩, h.type⟩, h.source⟩, h.target⟩
  change 24 ≤ (UInt8.ofNat (24 + extensions.length)).toNat
  omega

/-- A node without authentication and with a working route to the target. -/
structure PlainRoute (node : Node) (target : UInt16) : Prop where
  networkAuth : node.network.authRequired = false
  datalinkAuth : node.datalink.authRequired = false
  lower : node.network.lowerLayer = true
  route : ∃ route phy tx, xglRouteTableLookup node.network.routeTable target = some route ∧
    route.phy = some phy ∧ phy.tx = some tx ∧ (∀ bytes, tx bytes = .ok) ∧
    41 ≤ route.maxFrameSize.toNat

/-- A packet goes out as its frame, or it fails and nothing goes out. Frames of at
most 41 bytes always go out. -/
theorem lowerSend_plain {node : Node} {packet : Packet} {extensions : Bytes}
    {metadata : NetworkExtMetadata} (hroute : PlainRoute node packet.targetId)
    (h : Encodable packet extensions metadata) :
    (node.lowerSend packet = { error := .ok, transmitted := some (wireFrame packet extensions) } ∧
        (packet.payload?.getD []).length ≤ 65535) ∨
      ((node.lowerSend packet).error ≠ .ok ∧ (node.lowerSend packet).transmitted = none ∧
        15 < extensions.length + (packet.payload?.getD []).length) := by
  obtain ⟨route, phy, tx, hlook, hphy, htx, htxOk, hmax⟩ := hroute.route
  have hsource : (if packet.sourceId == 0 then { packet with sourceId := node.network.localId }
      else packet) = packet := if_neg (by simp [h.source])
  unfold Node.lowerSend xglNetworkSendWithHandle
  rw [if_neg (by simpa using Option.isSome_iff_ne_none.mp h.data), hlook]
  dsimp only
  rw [hsource]
  unfold networkBuildTxFrame
  rw [h.copies]
  dsimp only
  -- a payload that is too long fails before anything goes out
  by_cases hpayload : (packet.payload?.getD []).length > 65535
  · have hbuild : xglFrameBuild (networkFrameParams packet extensions)
        = .error .bufferTooSmall := if_pos hpayload
    rw [hbuild]
    exact .inr ⟨by simp, rfl, by omega⟩
  have hbuild : xglFrameBuild (networkFrameParams packet extensions)
      = .ok (packetFrame packet extensions) := if_neg hpayload
  rw [hbuild]
  dsimp only
  unfold networkValidateAuthTxBudget datalinkAuthTagLen
  rw [hroute.networkAuth, if_pos (by rfl)]
  dsimp only
  have hsize : xglFrameSerializedSize (packetFrame packet extensions).payload.length
      (packetFrame packet extensions).extensions.length 0
        = 26 + extensions.length + (packet.payload?.getD []).length := by
    unfold xglFrameSerializedSize xglFrameAuthOverhead XGL_WIRE_BASE_HEADER_SIZE XGL_CRC16_SIZE
    rw [if_neg (by omega)]
    change 24 + extensions.length + 0 + (packet.payload?.getD []).length + 2 = _
    omega
  rw [hsize]
  split
  · rename_i heq
    split at heq
    · cases heq
    rename_i hfits
    unfold networkSendFrameToLower
    rw [if_neg (by simp [hroute.lower]), hphy]
    dsimp only
    unfold xglDatalinkSend
    rw [htx]
    dsimp only
    unfold datalinkAuthTagLen
    rw [hroute.datalinkAuth, if_pos (by rfl)]
    dsimp only
    rw [if_neg (by simp)]
    unfold datalinkSerialize
    rw [hroute.datalinkAuth]
    dsimp only
    rw [xglFrameSerialize_ok h.fits (le_refl _) h.header_valid]
    dsimp only
    rw [htxOk]
    exact .inl ⟨rfl, by omega⟩
  · rename_i hne
    split at hne
    · rename_i hbig
      rw [if_pos hbig]
      exact .inr ⟨by simp, rfl, by omega⟩
    · exact absurd rfl hne

/-! ### The packet handed up -/

/-- The connection id on the wire. -/
def wireConnection (packet : Packet) : UInt32 :=
  if packet.connectionId != 0 then packet.connectionId else packet.sessionId.toUInt32

/-- The packet `network_deliver_local` builds from the frame of a packet. -/
def arrival (packet : Packet) (extensions : Bytes) (metadata : NetworkExtMetadata) : Packet :=
  networkLocalPacket
    { header := frameWireHeader (packetFrame packet extensions)
      dataType := metadata.dataType
      sessionEpoch := metadata.sessionEpoch
      extensions := extensions
      payload := packet.payload?.getD []
      reliable := networkReliable (frameWireHeader (packetFrame packet extensions))
      fragment :=
        if (frameWireHeader (packetFrame packet extensions)).flags &&& XGL_WIRE_FLAG_FRAGMENTED != 0
        then 1 else 0
      priority := (frameWireHeader (packetFrame packet extensions)).trafficClass &&&
        XGL_TRAFFIC_PRIORITY_MASK }

/-- The other node hands up the packet of the frame. -/
theorem xglNetworkReceive_wireFrame {net : NetworkCtx} {packet : Packet} {extensions : Bytes}
    {metadata : NetworkExtMetadata} (h : Encodable packet extensions metadata)
    (hpayload : (packet.payload?.getD []).length ≤ 65535) (hlocal : packet.targetId = net.localId)
    (hupper : net.upperLayer = true) (hbroadcast : packet.sourceId ≠ XGL_BROADCAST_ID)
    (hother : packet.sourceId ≠ packet.targetId) :
    xglNetworkReceive net true (wireFrame packet extensions) (wireFrame packet extensions).length
      = .deliver (arrival packet extensions metadata) := by
  have hvalid := h.header_valid
  have hfits := h.fits
  have hlen : (wireFrame packet extensions).length
      = 24 + extensions.length + (packet.payload?.getD []).length + 2 := by
    unfold wireFrame
    rw [length_appendFrameCrc, List.length_append, List.length_append, length_wireHeaderBytes]
    rfl
  have hframe : wireFrame packet extensions
      = wireHeaderBytes (frameWireHeader (packetFrame packet extensions)) ++
        (extensions ++ (packet.payload?.getD [] ++ xglSerializeU16Le (xglCrc16Modbus
          (wireHeaderBytes (frameWireHeader (packetFrame packet extensions)) ++ extensions ++
            packet.payload?.getD [])))) := by
    unfold wireFrame appendFrameCrc
    simp only [List.append_assoc]
  have hheaderLen : (frameWireHeader (packetFrame packet extensions)).headerLen.toNat
      = 24 + extensions.length := by
    change (UInt8.ofNat (24 + extensions.length)).toNat = _
    rw [UInt8.toNat_ofNat']
    exact Nat.mod_eq_of_lt (by omega)
  have hpayloadLen : (frameWireHeader (packetFrame packet extensions)).payloadLen.toNat
      = (packet.payload?.getD []).length := by
    change (UInt16.ofNat (packet.payload?.getD []).length).toNat = _
    rw [UInt16.toNat_ofNat']
    exact Nat.mod_eq_of_lt (by omega)
  generalize hrest : (packet.payload?.getD [] ++ xglSerializeU16Le (xglCrc16Modbus
    (wireHeaderBytes (frameWireHeader (packetFrame packet extensions)) ++ extensions ++
      packet.payload?.getD []))) = rest at hframe
  have hdrop : (wireFrame packet extensions).drop XGL_WIRE_BASE_HEADER_SIZE
      = extensions ++ rest := by
    rw [hframe, ← length_wireHeaderBytes (frameWireHeader (packetFrame packet extensions))]
    exact List.drop_left
  have hext : xglNetworkDecodeExtMetadata (extensions ++ rest) extensions.length
      = .ok metadata := by
    rw [← h.decodes]
    unfold xglNetworkDecodeExtMetadata
    rw [wireExts_congr (extensions ++ rest) extensions extensions.length
      (readBytes_append_left _ _ _ _ (by omega))]
  have hreadExt : readBytes (wireFrame packet extensions) XGL_WIRE_BASE_HEADER_SIZE
      extensions.length = extensions := by
    rw [hframe, ← length_wireHeaderBytes (frameWireHeader (packetFrame packet extensions))]
    exact readBytes_middle _ _ _
  have hreadPayload : readBytes (wireFrame packet extensions) (24 + extensions.length)
      (packet.payload?.getD []).length = packet.payload?.getD [] := by
    rw [hframe, ← hrest, ← List.append_assoc]
    have := readBytes_middle (wireHeaderBytes (frameWireHeader (packetFrame packet extensions)) ++
      extensions) (packet.payload?.getD []) (xglSerializeU16Le (xglCrc16Modbus
        (wireHeaderBytes (frameWireHeader (packetFrame packet extensions)) ++ extensions ++
          packet.payload?.getD [])))
    rw [List.length_append, length_wireHeaderBytes] at this
    exact this
  unfold xglNetworkReceive xglNetworkDecodeFrameMetadata
  rw [if_neg (by rw [hlen]; unfold XGL_WIRE_BASE_HEADER_SIZE XGL_CRC16_SIZE; omega), hdrop]
  rw [show xglWireDecodeHeader (wireFrame packet extensions) (wireFrame packet extensions).length
      = .ok { frameWireHeader (packetFrame packet extensions) with
          headerCrc16 := wireHeaderCrc16 (wireHeaderFront
            (frameWireHeader (packetFrame packet extensions)) ++ [0, 0]) } by
    rw [hframe]
    exact xglWireDecodeHeader_encode _ _ _ (by
      rw [List.length_append, length_wireHeaderBytes]; omega) hvalid]
  dsimp only
  rw [hheaderLen, hpayloadLen]
  have hsub : 24 + extensions.length - XGL_WIRE_BASE_HEADER_SIZE = extensions.length := by
    unfold XGL_WIRE_BASE_HEADER_SIZE
    omega
  rw [hsub, hext]
  dsimp only
  rw [if_neg (by rw [hlen]; unfold XGL_CRC16_SIZE; omega)]
  dsimp only
  rw [hreadExt, hreadPayload, if_neg, if_pos]
  · unfold networkDeliverLocal
    rw [if_neg (by simp [hupper])]
    rfl
  · change xglNetworkIsLocal net packet.targetId = true
    simp [xglNetworkIsLocal, hlocal]
  · change ¬ (!xglNetworkValidateAddress packet.targetId packet.sourceId) = true
    unfold xglNetworkValidateAddress
    rw [if_neg (by simp [hbroadcast]), if_neg (by simp [h.source]), if_neg (by simp [hother])]
    simp

/-! ### Data, HELLO and ACK -/

/-- What every packet handed up has: source, connection, the session derived from
it, and no epoch. -/
structure Arrived (q : Packet) (source : UInt16) (connection : UInt32) : Prop where
  sourceId : q.sourceId = source
  connectionId : q.connectionId = connection
  sessionId : q.sessionId = (connection &&& 0xFFFF).toUInt16
  sessionEpoch : q.sessionEpoch = 0

/-- A reliable data packet as it is handed up. -/
structure DataArrival (q : Packet) (source : UInt16) (connection n : UInt32) (payload : Bytes) :
    Prop extends Arrived q source connection where
  packetNumber : q.packetNumber = n
  packetType : q.packetType = XGL_PACKET_TYPE_DATA
  reliable : q.reliable = XGL_RELIABILITY_ACK_ELICITING
  fragment : q.fragment = 0
  compress : q.compress = 0
  payload : q.payload? = some payload

/-- A HELLO as it is handed up. -/
structure HelloArrival (q : Packet) (source : UInt16) (connection : UInt32) : Prop
    extends Arrived q source connection where
  packetType : q.packetType = XGL_PACKET_TYPE_CONTROL
  dataType : q.dataType = XGL_TRANSPORT_CONTROL_HELLO

/-- The extensions of an ACK for one number. -/
def ackExtensions (n : UInt32) : Bytes :=
  XGL_WIRE_EXT_ACK_RANGE :: UInt8.ofNat (ackValue n).length :: ackValue n

/-- An ACK as it is handed up. -/
structure AckArrival (q : Packet) (source : UInt16) (connection n : UInt32) : Prop
    extends Arrived q source connection where
  packetType : q.packetType = XGL_PACKET_TYPE_ACK
  flags : q.flags &&& XGL_WIRE_FLAG_HAS_EXTENSIONS ≠ 0
  extensions : q.extensions = ackExtensions n

/-- The frame is handed up by the node's network layer as a packet with `P`. -/
def Carries (net : NetworkCtx) (frame : Bytes) (P : Packet → Prop) : Prop :=
  ∃ q, xglNetworkReceive net true frame frame.length = .deliver q ∧ P q

/-- A fact about all bytes, checked for each. -/
theorem forall_uint8 {P : UInt8 → Prop} (h : ∀ n : Fin 256, P (UInt8.ofNat n.val)) (x : UInt8) :
    P x := by
  have := h ⟨x.toNat, x.toNat_lt⟩
  rwa [UInt8.ofNat_toNat] at this

/-- The traffic class of a reliable packet keeps its class under every priority. -/
theorem reliable_traffic_class (priority : UInt8) :
    xglFrameSetPriority (xglFrameSetFragmented (xglFrameSetReliabilityClass 0
        XGL_RELIABILITY_ACK_ELICITING) false) priority &&& XGL_RELIABILITY_CLASS_MASK
      = XGL_RELIABILITY_ACK_ELICITING ∧
    xglFrameSetPriority (xglFrameSetFragmented (xglFrameSetReliabilityClass 0
        XGL_RELIABILITY_ACK_ELICITING) false) priority &&& XGL_TRAFFIC_FRAGMENTED_MASK = 0 := by
  revert priority
  exact forall_uint8 (by decide +kernel)

/-- The extensions the network layer gives a data packet. -/
def dataExtensions (dataType : UInt8) : Bytes :=
  if dataType == 0 then [] else [XGL_WIRE_EXT_DATA_TYPE, 1, dataType]

/-- What they decode to. -/
def dataMetadata (dataType : UInt8) : NetworkExtMetadata :=
  if dataType == 0 then {} else { dataType := dataType, dataTypeFound := true }

/-- The network layer completes empty extensions with the DATA_TYPE_EXT. -/
theorem networkAppendDataTypeExt_nil (dataType : UInt8) :
    networkAppendDataTypeExt [] dataType = .ok (dataExtensions dataType) := by
  simp only [networkAppendDataTypeExt, dataExtensions]
  by_cases hzero : dataType = 0
  · rw [if_pos (by simp [hzero]), if_pos (by simp [hzero])]
  · rw [if_neg (by simp [hzero]), if_neg (by decide), if_neg (by simp [hzero])]
    rfl

section Kinds

variable {config : TransportConfig} {txData : TxData}

/-- The flags and the type of an unfragmented reliable data packet. -/
theorem txPacket_flags (peer : PeerState) (hreliable : txData.reliable = true) (data : Bytes)
    (n : UInt32) (extensions : Bytes) :
    let params := networkFrameParams (txPacket config (some peer) txData data n false []) extensions
    frameFlagsAndType params
        = (if extensions.length > 0 then 0x03 else 0x01, XGL_PACKET_TYPE_DATA) ∧
      frameTrafficClassBits params &&& XGL_RELIABILITY_CLASS_MASK
        = XGL_RELIABILITY_ACK_ELICITING := by
  intro params
  have hbits : frameTrafficClassBits params = xglFrameSetPriority (xglFrameSetFragmented
      (xglFrameSetReliabilityClass 0 XGL_RELIABILITY_ACK_ELICITING) false) txData.priority := by
    unfold frameTrafficClassBits
    simp [params, networkFrameParams, networkReliabilityClass, txPacket, hreliable,
      XGL_RELIABILITY_ACK_ONLY, XGL_RELIABILITY_NONE, XGL_RELIABILITY_ACK_ELICITING]
  obtain ⟨hclass, hfrag⟩ := reliable_traffic_class txData.priority
  refine ⟨?_, hbits ▸ hclass⟩
  unfold frameFlagsAndType
  rw [hbits]
  dsimp only
  rw [hclass, hfrag, show params.flags = 0 from rfl,
    show params.packetType = XGL_PACKET_TYPE_INVALID from rfl]
  by_cases hext : extensions.length > 0
  · rw [if_pos hext, if_pos (show params.extensions.length > 0 from hext)]
    decide
  · rw [if_neg hext, if_neg (show ¬ params.extensions.length > 0 from hext)]
    decide

/-- An unfragmented reliable data packet has a wire form. -/
theorem txPacket_encodable (peer : PeerState) (hreliable : txData.reliable = true) (data : Bytes)
    (n : UInt32) (hsource : config.localId ≠ 0) (htarget : txData.targetId ≠ 0) :
    Encodable (txPacket config (some peer) txData data n false [])
      (dataExtensions txData.dataType) (dataMetadata txData.dataType) := by
  have hflags := (@txPacket_flags config _ peer hreliable data n
    (dataExtensions txData.dataType)).1
  refine ⟨rfl, hsource, htarget, ?_, ?_, ?_, ?_⟩
  · exact networkAppendDataTypeExt_nil txData.dataType
  · unfold dataExtensions
    split <;> simp
  · unfold dataExtensions dataMetadata
    by_cases hzero : txData.dataType = 0
    · simp [hzero, xglNetworkDecodeExtMetadata]
    · have hwalk := wireExts_single XGL_WIRE_EXT_DATA_TYPE [txData.dataType] (by decide) (by simp)
      change wireExts [XGL_WIRE_EXT_DATA_TYPE, 1, txData.dataType]
        [XGL_WIRE_EXT_DATA_TYPE, 1, txData.dataType].length = _ at hwalk
      simp only [hzero, beq_iff_eq, if_false]
      unfold xglNetworkDecodeExtMetadata
      rw [if_neg (by simp), hwalk]
      rfl
  · rw [hflags]
    rfl

/-- A reliable data packet arrives as one, under its wire connection. -/
theorem data_arrives {net : NetworkCtx} (peer : PeerState) (hreliable : txData.reliable = true)
    (data : Bytes) (n : UInt32) (hsource : config.localId ≠ 0) (htarget : txData.targetId ≠ 0)
    (hpayload : data.length ≤ 65535) (hlocal : txData.targetId = net.localId)
    (hupper : net.upperLayer = true) (hbroadcast : config.localId ≠ XGL_BROADCAST_ID)
    (hother : config.localId ≠ txData.targetId) :
    Carries net (wireFrame (txPacket config (some peer) txData data n false [])
        (dataExtensions txData.dataType))
      fun q => DataArrival q config.localId
        (wireConnection (txPacket config (some peer) txData data n false [])) n data := by
  have hencodable := txPacket_encodable peer hreliable data n hsource htarget
  obtain ⟨hflags, hclass⟩ := txPacket_flags peer hreliable data n
    (dataExtensions txData.dataType)
  refine ⟨_, xglNetworkReceive_wireFrame hencodable hpayload hlocal hupper hbroadcast hother,
    ⟨rfl, rfl, rfl, ?_⟩, rfl, congrArg Prod.snd hflags, ?_, ?_, rfl, rfl⟩
  · change (dataMetadata txData.dataType).sessionEpoch = 0
    unfold dataMetadata
    split <;> rfl
  · change networkReliable (frameWireHeader (packetFrame _ _)) = _
    unfold networkReliable
    rw [if_pos]
    simp only [Bool.or_eq_true, beq_iff_eq]
    exact .inl hclass
  · change (if (frameWireHeader (packetFrame _ _)).flags &&& XGL_WIRE_FLAG_FRAGMENTED != 0 then
      (1 : UInt8) else 0) = 0
    rw [if_neg]
    unfold frameWireHeader packetFrame frameOfParams
    dsimp only
    rw [hflags]
    change ¬ ((if (dataExtensions txData.dataType).length > 0 then
      (if (dataExtensions txData.dataType).length > 0 then (0x03 : UInt8) else 0x01) |||
        XGL_WIRE_FLAG_HAS_EXTENSIONS
      else (if (dataExtensions txData.dataType).length > 0 then (0x03 : UInt8) else 0x01)) &&&
        XGL_WIRE_FLAG_FRAGMENTED != 0) = true
    split <;> decide

/-- The flags, the type and the traffic class bits of a HELLO. -/
theorem helloPacket_flags (scope : FeedbackScope) :
    let params := networkFrameParams (helloPacket config scope)
      [XGL_WIRE_EXT_DATA_TYPE, 1, XGL_TRANSPORT_CONTROL_HELLO]
    frameFlagsAndType params
        = (XGL_WIRE_FLAG_HAS_EXTENSIONS ||| XGL_WIRE_FLAG_CONTROL, XGL_PACKET_TYPE_CONTROL) := by
  intro params
  have hbits : frameTrafficClassBits params = 7 := by
    unfold frameTrafficClassBits
    rw [show params.reliabilityClass = XGL_RELIABILITY_NONE from rfl,
      show params.reliable = false from rfl, show params.fragment = false from rfl,
      show params.priority = 7 from rfl]
    decide
  unfold frameFlagsAndType
  rw [hbits, show params.flags = 0 from rfl,
    show params.packetType = XGL_PACKET_TYPE_CONTROL from rfl,
    show params.extensions.length = 3 from rfl]
  decide

/-- A HELLO has a wire form. -/
theorem helloPacket_encodable (scope : FeedbackScope) (hsource : config.localId ≠ 0)
    (htarget : scope.targetId ≠ 0) :
    Encodable (helloPacket config scope)
      [XGL_WIRE_EXT_DATA_TYPE, 1, XGL_TRANSPORT_CONTROL_HELLO]
      { dataType := XGL_TRANSPORT_CONTROL_HELLO, dataTypeFound := true } :=
  ⟨rfl, hsource, htarget, rfl, by decide, rfl, by rw [helloPacket_flags]; rfl⟩

/-- A HELLO arrives as one, under its wire connection. -/
theorem hello_arrives {net : NetworkCtx} (scope : FeedbackScope) (hsource : config.localId ≠ 0)
    (htarget : scope.targetId ≠ 0) (hlocal : scope.targetId = net.localId)
    (hupper : net.upperLayer = true) (hbroadcast : config.localId ≠ XGL_BROADCAST_ID)
    (hother : config.localId ≠ scope.targetId) :
    Carries net (wireFrame (helloPacket config scope)
        [XGL_WIRE_EXT_DATA_TYPE, 1, XGL_TRANSPORT_CONTROL_HELLO])
      fun q => HelloArrival q config.localId (wireConnection (helloPacket config scope)) :=
  ⟨_, xglNetworkReceive_wireFrame (helloPacket_encodable scope hsource htarget) (Nat.zero_le _)
    hlocal hupper hbroadcast hother, ⟨rfl, rfl, rfl, rfl⟩,
    congrArg Prod.snd (helloPacket_flags scope), rfl⟩

/-- The flags and the type of an ACK. -/
theorem ackPacket_flags (scope : FeedbackScope) (n : UInt32) :
    let params := networkFrameParams (ackPacket config scope n) (ackExtensions n)
    frameFlagsAndType params = (XGL_WIRE_FLAG_HAS_EXTENSIONS, XGL_PACKET_TYPE_ACK) := by
  intro params
  have hbits : frameTrafficClassBits params = 0x87 := by
    unfold frameTrafficClassBits
    rw [show params.reliabilityClass = XGL_RELIABILITY_ACK_ONLY from rfl,
      show params.reliable = true from rfl, show params.fragment = false from rfl,
      show params.priority = 7 from rfl]
    decide
  unfold frameFlagsAndType
  rw [hbits, show params.flags = XGL_WIRE_FLAG_HAS_EXTENSIONS from rfl,
    show params.packetType = XGL_PACKET_TYPE_ACK from rfl,
    show params.extensions.length = 15 from congrArg (· + 2) (length_ackValue n)]
  decide

/-- An ACK has a wire form. -/
theorem ackPacket_encodable (scope : FeedbackScope) (n : UInt32) (hsource : config.localId ≠ 0)
    (htarget : scope.targetId ≠ 0) :
    Encodable (ackPacket config scope n) (ackExtensions n) {} := by
  have hlen : (ackExtensions n).length = 15 := by
    unfold ackExtensions
    rw [List.length_cons, List.length_cons, length_ackValue]
  have hmetadata : xglNetworkDecodeExtMetadata (ackExtensions n) (ackExtensions n).length
      = .ok {} := by
    have hwalk := wireExts_single XGL_WIRE_EXT_ACK_RANGE (ackValue n) (by decide)
      (by rw [length_ackValue]; omega)
    unfold xglNetworkDecodeExtMetadata
    rw [if_neg (by simp [hlen]), show wireExts (ackExtensions n) (ackExtensions n).length
      = ([{ type := XGL_WIRE_EXT_ACK_RANGE, value := ackValue n }], .notFound) from hwalk]
    rfl
  refine ⟨rfl, hsource, htarget, ?_, by omega, hmetadata, by rw [ackPacket_flags]; rfl⟩
  unfold networkCopyPacketExtensions
  rw [show (ackPacket config scope n).extensions = ackExtensions n from rfl,
    if_neg (by rw [hlen]; decide), hmetadata]
  rfl

/-- An ACK arrives as one, under its wire connection. -/
theorem ack_arrives {net : NetworkCtx} (scope : FeedbackScope) (n : UInt32)
    (hsource : config.localId ≠ 0) (htarget : scope.targetId ≠ 0)
    (hlocal : scope.targetId = net.localId) (hupper : net.upperLayer = true)
    (hbroadcast : config.localId ≠ XGL_BROADCAST_ID) (hother : config.localId ≠ scope.targetId) :
    Carries net (wireFrame (ackPacket config scope n) (ackExtensions n))
      fun q => AckArrival q config.localId (wireConnection (ackPacket config scope n)) n := by
  have hflags := @ackPacket_flags config scope n
  refine ⟨_, xglNetworkReceive_wireFrame (ackPacket_encodable scope n hsource htarget)
    (Nat.zero_le _) hlocal hupper hbroadcast hother, ⟨rfl, rfl, rfl, rfl⟩,
    congrArg Prod.snd hflags, ?_, rfl⟩
  have hheader : (arrival (ackPacket config scope n) (ackExtensions n) {}).flags
      = (frameFlagsAndType (networkFrameParams (ackPacket config scope n) (ackExtensions n))).1 |||
        XGL_WIRE_FLAG_HAS_EXTENSIONS := by
    change (if (ackExtensions n).length > 0 then
      (frameFlagsAndType (networkFrameParams (ackPacket config scope n) (ackExtensions n))).1 |||
        XGL_WIRE_FLAG_HAS_EXTENSIONS
      else (frameFlagsAndType
        (networkFrameParams (ackPacket config scope n) (ackExtensions n))).1) = _
    exact if_pos (Nat.succ_pos _)
  rw [hheader, hflags]
  decide

end Kinds

end XgenLink
