import XgenLink.Proofs.Forwarding
import XgenLink.Proofs.FrameRoundTrip
import XgenLink.Proofs.ReliableSend
import XgenLink.Proofs.WireRoundTrip

/-!
# `XgenLink.Proofs.FrameArrival`: what arrives of a packet

The results about networks compare what one node was asked to send with what another one hands
over. In between a packet is not passed as a record: it goes out as a frame, plain or
authenticated, other nodes may forward it, and the network layer of one node hands a packet up
that it reads from the bytes.

This module says what survives. Addresses, payload, packet type, data type, number, session and
fragmentation do. The extensions gain a DATA_TYPE_EXT and a SECURITY_EXT behind them. The
compression id is not part of a frame, so every packet arrives without one, and the hop limit is
not that of the sender.

* `FrameParts`: what the plain and the authenticated form of a frame have in common.
* `lowerSend_frame`: the frame of a packet, with or without authentication.
* `framePacket?`, `FramedPacket`: the packet that a frame stands for where it is local.
* `ForwardHop.framePacket`: a hop changes the hop limit of the packet and nothing else.
* `Arrives`, `ArrivedFields`: what some node is given for a packet, over any number of hops.
* `Arrives.payload`, `Arrives.packetType`, `Arrives.compress`: fields that survive or do not.
* `arrives_piece`: a fragment arrives with its FRAGMENT_EXT.
* `arrives_dataType`: the data type crosses in its extension.
* `arrives_reliable`, `arrives_fragment`: the two bits of the traffic class.
-/

set_option autoImplicit false

namespace XgenLink

/-! ### Serialization -/

/-- What the two serializations have in common: the header in front, the payload behind the
extensions, and a SECURITY_EXT between them in the authenticated form. -/
structure FrameParts (frame : Frame) (bytes : Bytes) (header : WireHeader)
    (security : List WireExt) (tail : Bytes) : Prop where
  bytes_eq : bytes = wireHeaderBytes header ++
    ((frame.extensions ++ encodeWireExts security) ++ (frame.payload ++ tail))
  headerLen : header.headerLen.toNat = XGL_WIRE_BASE_HEADER_SIZE +
    (frame.extensions ++ encodeWireExts security).length
  payloadLen : header.payloadLen.toNat = frame.payload.length
  packetType : header.packetType = frame.header.packetType
  fragmented : header.flags &&& XGL_WIRE_FLAG_FRAGMENTED
    = frame.header.flags &&& XGL_WIRE_FLAG_FRAGMENTED
  addresses : header.sourceId = frame.header.sourceId ∧ header.targetId = frame.header.targetId
  connectionId : header.connectionId = frame.header.connectionId
  packetNumber : header.packetNumber = frame.header.packetNumber
  reliable : networkReliable header = networkReliable frame.header
  secured : ∀ ext ∈ security, ext.type = XGL_WIRE_EXT_SECURITY ∧ ext.Encodable

/-- Flags that are set besides leave another flag as it is. -/
theorem flag_or {set flag : UInt8} (hset : set &&& flag = 0) (flags : UInt8) :
    (flags ||| set) &&& flag = flags &&& flag := by
  have hdistrib : (flags ||| set) &&& flag = (flags &&& flag) ||| (set &&& flag) :=
    UInt8.toBitVec_inj.mp BitVec.and_or_distrib_right
  rw [hdistrib, hset, UInt8.or_zero]

/-- The reliability of a header that differs in length fields and in flags that are set besides. -/
theorem networkReliable_congr {header sent : WireHeader}
    (hclass : header.trafficClass = sent.trafficClass) (htype : header.packetType = sent.packetType)
    (hflag : header.flags &&& XGL_WIRE_FLAG_ACK_ELICITING
      = sent.flags &&& XGL_WIRE_FLAG_ACK_ELICITING) :
    networkReliable header = networkReliable sent := by
  rw [networkReliable, networkReliable, hclass, htype, hflag]

/-- Whatever the datalink serializes has these parts. -/
theorem datalinkSerialize_parts {ctx : DatalinkCtx} {size : Nat} {frame : Frame} {bytes : Bytes}
    (h : datalinkSerialize ctx size frame = .ok bytes) (hshort : frame.payload.length ≤ 65535) :
    ∃ header security tail, FrameParts frame bytes header security tail := by
  have hpayloadLen : (UInt16.ofNat frame.payload.length).toNat = frame.payload.length := by
    rw [UInt16.toNat_ofNat']
    exact Nat.mod_eq_of_lt (by omega)
  simp only [datalinkSerialize] at h
  split at h
  · rename_i provider _ _
    obtain ⟨_, _, hfits, _, _, _, sign, tag, _, _, _, hbytes⟩ :=
      xglFrameSerializeAuthenticated_eq_ok.mp h
    refine ⟨frameSecuredHeader frame,
      [frameSecurityExt frame ctx.authKeyId (UInt8.ofNat provider.tagLen)],
      tag ++ xglSerializeU16Le (xglCrc16Modbus (frameAuthenticatedFront frame ctx.authKeyId
        (UInt8.ofNat provider.tagLen) ++ frame.payload ++ tag)), ?_, ?_, hpayloadLen, rfl, ?_,
      ⟨rfl, rfl⟩, rfl, rfl, ?_, ?_⟩
    · rw [hbytes]
      simp only [appendFrameCrc, frameAuthenticatedFront, List.append_assoc]
    · show (UInt8.ofNat (XGL_WIRE_BASE_HEADER_SIZE + frame.extensions.length +
        XGL_SECURITY_EXT_SIZE)).toNat = XGL_WIRE_BASE_HEADER_SIZE + _
      rw [List.length_append, UInt8.toNat_ofNat', Nat.add_assoc]
      refine Nat.mod_eq_of_lt ?_
      simp only [XGL_WIRE_BASE_HEADER_SIZE, XGL_SECURITY_EXT_SIZE, XGL_SECURITY_EXT_VALUE_SIZE,
        XGL_WIRE_EXT_HEADER_SIZE]
      omega
    · exact flag_or (by decide) frame.header.flags
    · exact networkReliable_congr rfl rfl (flag_or (by decide) frame.header.flags)
    · intro ext hmem
      rw [List.mem_singleton.mp hmem]
      exact ⟨rfl, (by decide : XGL_WIRE_EXT_SECURITY ≠ 0), Nat.le_of_ble_eq_true rfl⟩
  · cases h
  · obtain ⟨hbytes, _, hfits⟩ := xglFrameSerialize_eq_ok h
    have hkept : ∀ {flag : UInt8}, XGL_WIRE_FLAG_HAS_EXTENSIONS &&& flag = 0 →
        (frameWireHeader frame).flags &&& flag = frame.header.flags &&& flag := by
      intro flag hflag
      show (if frame.extensions.length > 0 then frame.header.flags ||| XGL_WIRE_FLAG_HAS_EXTENSIONS
        else frame.header.flags) &&& flag = _
      split
      · exact flag_or hflag frame.header.flags
      · rfl
    refine ⟨frameWireHeader frame, [], xglSerializeU16Le (xglCrc16Modbus
      (wireHeaderBytes (frameWireHeader frame) ++ frame.extensions ++ frame.payload)), ?_, ?_,
      hpayloadLen, rfl, hkept (by decide), ⟨rfl, rfl⟩, rfl, rfl,
      networkReliable_congr rfl rfl (hkept (by decide)),
      fun ext hmem => absurd hmem List.not_mem_nil⟩
    · rw [hbytes]
      simp only [appendFrameCrc, encodeWireExts, List.flatMap_nil, List.append_nil,
        List.append_assoc]
    · show (UInt8.ofNat (XGL_WIRE_BASE_HEADER_SIZE + frame.extensions.length)).toNat = _
      rw [show encodeWireExts [] = [] from rfl, List.append_nil, UInt8.toNat_ofNat']
      refine Nat.mod_eq_of_lt ?_
      simp only [XGL_WIRE_BASE_HEADER_SIZE]
      omega

/-- The source id of the frame of a packet: the network layer fills in a missing one. -/
def sentSource (net : NetworkCtx) (packet : Packet) : UInt16 :=
  if packet.sourceId == 0 then net.localId else packet.sourceId

/-- The frame that goes out for a packet. The network layer fills in a missing source id and
completes the extensions, and the frame is not too long for the route. -/
theorem lowerSend_frame {node : Node} {packet : Packet} {bytes : Bytes}
    (h : (node.lowerSend packet).transmitted = some bytes) :
    ∃ extensions frame size,
      networkCopyPacketExtensions packet = .ok extensions ∧
      xglFrameBuild { networkFrameParams packet extensions with
        sourceId := sentSource node.network packet } = .ok frame ∧
      datalinkSerialize node.datalink size frame = .ok bytes ∧
      ∃ route, xglRouteTableLookup node.network.routeTable packet.targetId = some route ∧
        networkValidateAuthTxBudget node.network frame route = .ok := by
  simp only [Node.lowerSend, xglNetworkSendWithHandle] at h
  split at h
  · cases h
  split at h
  · cases h
  rename_i route hroute
  generalize hfilled : (if packet.sourceId == 0 then
    { packet with sourceId := node.network.localId } else packet) = filled at h
  have hparams : ∀ extensions, networkFrameParams filled extensions
      = { networkFrameParams packet extensions with sourceId := filled.sourceId } := by
    intro extensions
    rw [← hfilled]
    split <;> rfl
  have hcopy : networkCopyPacketExtensions filled = networkCopyPacketExtensions packet := by
    rw [← hfilled]
    split <;> rfl
  split at h
  · cases h
  rename_i frame hbuild
  simp only [networkBuildTxFrame, hcopy] at hbuild
  split at hbuild
  · cases hbuild
  rename_i extensions hextensions
  rw [hparams] at hbuild
  have hsource : filled.sourceId = sentSource node.network packet := by
    rw [← hfilled, sentSource]
    split <;> rfl
  rw [hsource] at hbuild
  refine ⟨extensions, frame, ?_⟩
  split at h
  swap
  · cases h
  rename_i hbudget
  simp only [networkSendFrameToLower] at h
  split at h
  · cases h
  split at h
  · cases h
  simp only [xglDatalinkSend] at h
  split at h
  · cases h
  split at h
  · cases h
  rename_i tagLen _
  split at h
  · cases h
  split at h
  · cases h
  rename_i sent hserialize
  refine ⟨_, hextensions, hbuild, hserialize.trans ?_, route, hroute, hbudget⟩
  split at h <;> cases h <;> rfl

/-! ### Reception -/

/-- The stream fields of the header that is built. -/
theorem xglFrameBuild_stream {params : FrameParams} {frame : Frame}
    (hbuild : xglFrameBuild params = .ok frame) :
    frame.header.connectionId
        = (if params.connectionId != 0 then params.connectionId else params.sessionId.toUInt32) ∧
      frame.header.packetNumber = params.packetNumber ∧
      frame.header.trafficClass = (if params.trafficClass != 0 then params.trafficClass
        else frameTrafficClassBits params) := by
  simp only [xglFrameBuild] at hbuild
  split at hbuild
  · cases hbuild
  · cases hbuild
    exact ⟨rfl, rfl, rfl⟩

/-- The packet a frame stands for where it is local. -/
def framePacket? (frame : Bytes) : Option Packet :=
  match xglNetworkDecodeFrameMetadata frame frame.length with
  | .ok metadata => some (networkLocalPacket metadata)
  | .error _ => none

/-- What is handed up for a frame is its packet, and that is for this node. -/
theorem xglNetworkReceive_deliver {ctx : NetworkCtx} {allocOk : Bool} {frame : Bytes}
    {packet : Packet}
    (h : xglNetworkReceive ctx allocOk frame frame.length = .deliver packet) :
    framePacket? frame = some packet ∧ xglNetworkIsLocal ctx packet.targetId = true := by
  simp only [xglNetworkReceive] at h
  split at h
  · cases h
  rename_i metadata hmeta
  rw [framePacket?, hmeta]
  split at h
  · cases h
  split at h
  · rename_i hlocal
    simp only [networkDeliverLocal] at h
    split at h
    · cases h
    · cases h
      exact ⟨rfl, hlocal⟩
  · simp only [networkForwardRemote] at h
    split at h
    · cases h
    split at h
    · cases h
    split at h
    · cases h
    split at h
    · cases h
    split at h
    · cases h
    split at h <;> cases h

/-- The metadata of a frame are read from its bytes. -/
theorem xglNetworkDecodeFrameMetadata_ok {frame : Bytes} {frameLen : Nat}
    {metadata : NetworkFrameMetadata}
    (h : xglNetworkDecodeFrameMetadata frame frameLen = .ok metadata) :
    metadata.header = wireHeaderOfBytes frame ∧
      metadata.extensions = readBytes frame XGL_WIRE_BASE_HEADER_SIZE
        (metadata.header.headerLen.toNat - XGL_WIRE_BASE_HEADER_SIZE) ∧
      metadata.payload = readBytes frame metadata.header.headerLen.toNat
        metadata.header.payloadLen.toNat ∧
      metadata.fragment =
        if metadata.header.flags &&& XGL_WIRE_FLAG_FRAGMENTED != 0 then 1 else 0 := by
  simp only [xglNetworkDecodeFrameMetadata] at h
  split at h
  · cases h
  split at h
  · cases h
  rename_i header hdecode
  have hof := (xglWireDecodeHeader_eq_ok.mp hdecode).2.2.2.2.2
  split at h
  · cases h
  split at h
  · cases h
  cases h
  exact ⟨hof.symm, rfl, rfl, rfl⟩

/-- The data type and the epoch come from the walk over the extensions. -/
theorem xglNetworkDecodeFrameMetadata_ext {frame : Bytes} {frameLen : Nat}
    {metadata : NetworkFrameMetadata}
    (h : xglNetworkDecodeFrameMetadata frame frameLen = .ok metadata) :
    ∃ ext, xglNetworkDecodeExtMetadata (frame.drop XGL_WIRE_BASE_HEADER_SIZE)
        (metadata.header.headerLen.toNat - XGL_WIRE_BASE_HEADER_SIZE) = .ok ext ∧
      metadata.dataType = ext.dataType ∧ metadata.sessionEpoch = ext.sessionEpoch ∧
      metadata.reliable = networkReliable metadata.header := by
  simp only [xglNetworkDecodeFrameMetadata] at h
  split at h
  · cases h
  split at h
  · cases h
  split at h
  · cases h
  rename_i ext hext
  split at h
  · cases h
  cases h
  exact ⟨ext, hext, rfl, rfl, rfl⟩

/-- The records that the network layer adds for a data type. -/
def dataTypeExts (dataType : UInt8) : List WireExt :=
  if dataType == 0 then [] else [{ type := XGL_WIRE_EXT_DATA_TYPE, value := [dataType] }]

/-- A record that the network layer reads nothing from. -/
def WireExt.Skipped (ext : WireExt) : Prop :=
  ext.type ≠ XGL_WIRE_EXT_DATA_TYPE ∧ ext.type ≠ XGL_WIRE_EXT_SESSION

/-- Such records are passed over. The induction is on the records. -/
theorem networkExtLoop_skipped {exts : List WireExt} (hskipped : ∀ ext ∈ exts, ext.Skipped)
    (final : XglError) (rest : List WireExt) (metadata : NetworkExtMetadata) :
    networkExtLoop final (exts ++ rest) metadata = networkExtLoop final rest metadata := by
  induction exts with
  | nil => rfl
  | cons ext exts ih =>
    obtain ⟨hdata, hsession⟩ := hskipped ext List.mem_cons_self
    rw [List.cons_append, networkExtLoop, if_neg (by simpa using hdata),
      if_neg (by simpa using hsession)]
    exact ih fun other hother => hskipped other (List.mem_cons_of_mem _ hother)

/-- The data type of records that hold one DATA_TYPE_EXT between others. -/
theorem networkExtLoop_dataTypeExts {own security : List WireExt}
    (hown : ∀ ext ∈ own, ext.Skipped) (hsecurity : ∀ ext ∈ security, ext.Skipped)
    (dataType : UInt8) :
    ∃ metadata, networkExtLoop .notFound (own ++ (dataTypeExts dataType ++ security)) {}
        = .ok metadata ∧ metadata.dataType = dataType ∧ metadata.sessionEpoch = 0 := by
  have hrest : ∀ metadata, networkExtLoop .notFound security metadata = .ok metadata := by
    intro metadata
    have := networkExtLoop_skipped hsecurity .notFound [] metadata
    rwa [List.append_nil] at this
  rw [networkExtLoop_skipped hown, dataTypeExts]
  by_cases hzero : dataType = 0
  · -- nothing was added, and the data type reads zero
    subst hzero
    exact ⟨{}, hrest {}, rfl, rfl⟩
  · rw [if_neg (by simpa using hzero)]
    exact ⟨_, hrest _, rfl, rfl⟩

/-- The packet that the network layer hands up for a frame with these parts. -/
structure FramedPacket (frame : Frame) (security : List WireExt) (tail : Bytes) (packet : Packet) :
    Prop where
  payload : packet.payload? = some frame.payload
  extensions_eq : packet.extensions = frame.extensions ++ encodeWireExts security
  packetType : packet.packetType = frame.header.packetType
  fragment : packet.fragment ≠ 0 ↔ frame.header.flags &&& XGL_WIRE_FLAG_FRAGMENTED ≠ 0
  compress : packet.compress = 0
  sourceId : packet.sourceId = frame.header.sourceId
  targetId : packet.targetId = frame.header.targetId
  connectionId : packet.connectionId = frame.header.connectionId
  sessionId : packet.sessionId = (packet.connectionId &&& 0xFFFF).toUInt16
  packetNumber : packet.packetNumber = frame.header.packetNumber
  reliable : packet.reliable = networkReliable frame.header
  ext : ∃ ext, xglNetworkDecodeExtMetadata
      (frame.extensions ++ encodeWireExts security ++ (frame.payload ++ tail))
      (frame.extensions ++ encodeWireExts security).length = .ok ext ∧
    packet.dataType = ext.dataType ∧ packet.sessionEpoch = ext.sessionEpoch

/-- A frame with these parts is read back by the network layer: each field comes from the header,
the data type and the session from the extensions behind it. -/
theorem FrameParts.packet {frame : Frame} {bytes : Bytes} {header : WireHeader}
    {security : List WireExt} {tail : Bytes} {packet : Packet}
    (h : FrameParts frame bytes header security tail)
    (hpacket : framePacket? bytes = some packet) : FramedPacket frame security tail packet := by
  rw [framePacket?] at hpacket
  split at hpacket
  swap
  · cases hpacket
  rename_i metadata hmeta
  cases hpacket
  obtain ⟨hheader, hextensions, hpayload, hfragment⟩ := xglNetworkDecodeFrameMetadata_ok hmeta
  obtain ⟨ext, hext, hdataType, hepoch, hreliable⟩ := xglNetworkDecodeFrameMetadata_ext hmeta
  rw [h.bytes_eq, wireHeaderOfBytes_wireHeaderBytes] at hheader
  rw [hheader] at hextensions hpayload hfragment hext hreliable
  dsimp only at hextensions hpayload hfragment hext
  rw [h.headerLen] at hextensions hpayload hext
  rw [h.payloadLen] at hpayload
  refine ⟨congrArg some (hpayload.trans ?_), hextensions.trans ?_,
    (congrArg WireHeader.packetType hheader).trans h.packetType, ?_, rfl,
    (congrArg WireHeader.sourceId hheader).trans h.addresses.1,
    (congrArg WireHeader.targetId hheader).trans h.addresses.2,
    (congrArg WireHeader.connectionId hheader).trans h.connectionId, rfl,
    (congrArg WireHeader.packetNumber hheader).trans h.packetNumber, hreliable.trans ?_, ext, ?_,
    hdataType, hepoch⟩
  · -- the payload stands behind the header and the extensions
    have hmiddle := readBytes_middle (wireHeaderBytes header ++
      (frame.extensions ++ encodeWireExts security)) frame.payload tail
    rw [List.length_append, length_wireHeaderBytes, List.append_assoc] at hmiddle
    rw [h.bytes_eq]
    exact hmiddle
  · have hmiddle := readBytes_middle (wireHeaderBytes header)
      (frame.extensions ++ encodeWireExts security) (frame.payload ++ tail)
    rw [length_wireHeaderBytes] at hmiddle
    rw [h.bytes_eq, Nat.add_sub_cancel_left]
    exact hmiddle
  · show metadata.fragment ≠ 0 ↔ _
    rw [hfragment, ← h.fragmented]
    -- the fragment bit of the header is that of its flags
    by_cases hflag : header.flags &&& XGL_WIRE_FLAG_FRAGMENTED = 0
    · simp [hflag]
    · simp [hflag]
  · exact h.reliable
  · -- the walk starts behind the header
    rw [h.bytes_eq, ← length_wireHeaderBytes header, List.drop_left, length_wireHeaderBytes,
      Nat.add_sub_cancel_left] at hext
    exact hext

/-! ### Hops -/

/-- A frame that stands for a packet has a header, and room for what this announces. -/
theorem framePacket_header {frame : Bytes} {packet : Packet}
    (hpacket : framePacket? frame = some packet) :
    ∃ header, xglWireDecodeHeader frame frame.length = .ok header ∧
      header.headerLen.toNat + header.payloadLen.toNat + XGL_CRC16_SIZE ≤ frame.length := by
  rw [framePacket?] at hpacket
  split at hpacket
  swap
  · cases hpacket
  rename_i metadata hmeta
  simp only [xglNetworkDecodeFrameMetadata] at hmeta
  split at hmeta
  · cases hmeta
  split at hmeta
  · cases hmeta
  rename_i header hdecode
  split at hmeta
  · cases hmeta
  split at hmeta
  · cases hmeta
  rename_i hfits
  exact ⟨header, hdecode, Nat.le_of_not_lt hfits⟩

/-- A frame with the header of another up to hop limit and checksum, and with its extensions and
its payload, stands for the same packet up to the hop limit. -/
theorem framePacket_congr {a b : Bytes} {packet : Packet} {header : WireHeader}
    {ttl : UInt8} {crc : UInt16} (hpacket : framePacket? a = some packet)
    (ha : xglWireDecodeHeader a a.length = .ok header)
    (hb : xglWireDecodeHeader b b.length = .ok { header with ttl := ttl, headerCrc16 := crc })
    (hroom : header.headerLen.toNat + header.payloadLen.toNat + XGL_CRC16_SIZE ≤ b.length)
    (hbytes : ∀ i, XGL_WIRE_BASE_HEADER_SIZE ≤ i →
      i < header.headerLen.toNat + header.payloadLen.toNat → byteAt b i = byteAt a i) :
    framePacket? b = some { packet with ttl := ttl } := by
  rw [framePacket?] at hpacket
  split at hpacket
  swap
  · cases hpacket
  rename_i metadata hmeta
  cases hpacket
  simp only [xglNetworkDecodeFrameMetadata, ha] at hmeta
  split at hmeta
  · cases hmeta
  split at hmeta
  · cases hmeta
  rename_i ext hext
  split at hmeta
  · cases hmeta
  cases hmeta
  have hheaderLen : XGL_WIRE_BASE_HEADER_SIZE ≤ header.headerLen.toNat :=
    wireHeaderFieldsValid.headerLen_ge (xglWireDecodeHeader_eq_ok.mp ha).2.2.2.2.1
  have hwalk : xglNetworkDecodeExtMetadata (b.drop XGL_WIRE_BASE_HEADER_SIZE)
      (header.headerLen.toNat - XGL_WIRE_BASE_HEADER_SIZE) = .ok ext := by
    rw [← hext]
    simp only [xglNetworkDecodeExtMetadata]
    rw [wireExts_congr (b.drop XGL_WIRE_BASE_HEADER_SIZE) (a.drop XGL_WIRE_BASE_HEADER_SIZE)]
    refine readBytes_congr fun i _ hi => ?_
    rw [byteAt_drop, byteAt_drop]
    exact hbytes _ (by omega) (by omega)
  have hexts : readBytes b XGL_WIRE_BASE_HEADER_SIZE
        (header.headerLen.toNat - XGL_WIRE_BASE_HEADER_SIZE)
      = readBytes a XGL_WIRE_BASE_HEADER_SIZE
        (header.headerLen.toNat - XGL_WIRE_BASE_HEADER_SIZE) :=
    readBytes_congr fun i hlo hhi => hbytes i hlo (by omega)
  have hpayload : readBytes b header.headerLen.toNat header.payloadLen.toNat
      = readBytes a header.headerLen.toNat header.payloadLen.toNat :=
    readBytes_congr fun i hlo hhi => hbytes i (by omega) hhi
  simp only [framePacket?, xglNetworkDecodeFrameMetadata, hb, hwalk, hexts, hpayload]
  rw [if_neg (by omega), if_neg (by omega)]
  rfl

/-- The same of a frame that a hop has rewritten. -/
theorem SameFrame.framePacket {a b : Bytes} (h : SameFrame a a.length b) {packet : Packet}
    (hpacket : framePacket? a = some packet) :
    ∃ ttl, framePacket? b = some { packet with ttl := ttl } := by
  obtain ⟨header, ha, hroom⟩ := framePacket_header hpacket
  obtain ⟨ttl, crc, hb⟩ := h.decode header ha
  rw [← h.length] at hb hroom
  refine ⟨ttl, framePacket_congr hpacket ha hb hroom fun i hlo hhi => ?_⟩
  rw [h.length] at hroom
  simp only [XGL_WIRE_BASE_HEADER_SIZE] at hlo
  exact h.bytes i (by omega) (by omega) (by omega) (by omega)

/-- A hop rewrites the hop limit and the checksums. -/
theorem ForwardHop.same {frame next : Bytes} (hop : ForwardHop frame next) :
    SameFrame frame frame.length next := by
  obtain ⟨net, allocOk, err, phy, hrx⟩ := hop
  obtain ⟨header, route, hforwarded⟩ := xglNetworkReceive_transmitted hrx
  exact (networkRewriteForwardFrame_same hforwarded.decode hforwarded.minLen
    hforwarded.rewrite).1

/-- A frame that is handed on stands for the packet of the frame received, up to the hop
limit. -/
theorem ForwardHop.framePacket {frame next : Bytes} (hop : ForwardHop frame next) :
    ∃ packet ttl, framePacket? frame = some packet ∧
      framePacket? next = some { packet with ttl := ttl } := by
  have hsame := hop.same
  obtain ⟨net, allocOk, err, phy, hrx⟩ := hop
  have hpacket : ∃ packet, framePacket? frame = some packet := by
    simp only [xglNetworkReceive] at hrx
    split at hrx
    · cases hrx
    · rename_i metadata hmeta
      exact ⟨networkLocalPacket metadata, by rw [framePacket?, hmeta]⟩
  obtain ⟨packet, hpacket⟩ := hpacket
  obtain ⟨ttl, hnext⟩ := hsame.framePacket hpacket
  exact ⟨packet, ttl, hpacket, hnext⟩

/-! ### Packets -/

/-- `q` is what some node is given for the frame that a node sends of `packet`, over any number
of hops. -/
def Arrives (node : Node) (packet q : Packet) : Prop :=
  ∃ bytes sent ttl, (node.lowerSend packet).transmitted = some bytes ∧
    framePacket? bytes = some sent ∧ q = { sent with ttl := ttl }

/-- The network layer completes the extensions behind those of the packet. -/
theorem networkCopyPacketExtensions_ok {packet : Packet} {extensions : Bytes}
    (h : networkCopyPacketExtensions packet = .ok extensions) :
    ∃ metadata, xglNetworkDecodeExtMetadata packet.extensions packet.extensions.length
        = .ok metadata ∧
      extensions = packet.extensions ++
        encodeWireExts (if metadata.dataTypeFound then [] else dataTypeExts packet.dataType) := by
  simp only [networkCopyPacketExtensions] at h
  split at h
  · cases h
  split at h
  · cases h
  rename_i metadata hmetadata
  refine ⟨metadata, hmetadata, ?_⟩
  split at h
  · rename_i hfound
    rw [if_pos hfound]
    split at h
    · cases h
    · cases h
      exact (List.append_nil _).symm
  rename_i hmissing
  rw [if_neg hmissing]
  simp only [networkAppendDataTypeExt] at h
  rw [dataTypeExts]
  split at h
  · rename_i hzero
    cases h
    rw [if_pos hzero]
    exact (List.append_nil _).symm
  rename_i hset
  rw [if_neg hset]
  split at h
  · cases h
  rename_i ext hencode
  cases h
  simp only [xglWireEncodeExt] at hencode
  split at hencode
  · cases hencode
  split at hencode
  · cases hencode
  cases hencode
  rfl

/-- The record of a data type is valid. -/
theorem dataTypeExts_encodable (dataType : UInt8) :
    ∀ ext ∈ dataTypeExts dataType, ext.Encodable := by
  intro ext hmem
  rw [dataTypeExts] at hmem
  split at hmem
  · cases hmem
  · rw [List.mem_singleton.mp hmem]
    exact ⟨(by decide : XGL_WIRE_EXT_DATA_TYPE ≠ 0), by simp⟩

/-- A FRAGMENT_EXT in front of other extensions is the one a receiver reads. -/
theorem deliveredFragmentExt_front (messageId : UInt32) (offset totalLen : Nat)
    {security : List WireExt} (hencodable : ∀ ext ∈ security, ext.Encodable) :
    deliveredFragmentExt (fragmentExtension messageId offset totalLen ++ encodeWireExts security)
      = .ok
        { messageId := messageId
          fragmentOffset := UInt32.ofNat offset
          messageLen := UInt32.ofNat totalLen } := by
  generalize hall : fragmentExtension messageId offset totalLen ++ encodeWireExts security
    = extensions
  generalize hvalue : xglWireEncodeFragmentExtValue messageId (UInt32.ofNat offset)
    (UInt32.ofNat totalLen) = value
  have hlen : value.length = 12 := by rw [← hvalue]; rfl
  have hrecords : extensions
      = encodeWireExts ({ type := XGL_WIRE_EXT_FRAGMENT, value := value } :: security) := by
    rw [← hall]
    simp [fragmentExtension, encodeWireExts, hvalue, hlen]
  have hwalk := wireExts_encode ({ type := XGL_WIRE_EXT_FRAGMENT, value := value } :: security)
    (List.forall_mem_cons.mpr ⟨⟨(by decide : XGL_WIRE_EXT_FRAGMENT ≠ 0), by simp [hlen]⟩,
      hencodable⟩) []
  rw [List.append_nil, ← hrecords] at hwalk
  have hne : extensions.isEmpty = false := by
    rw [hrecords]
    rfl
  rw [deliveredFragmentExt, if_neg (by simp [hne]), hwalk]
  simp only [List.find?_cons_of_pos, beq_self_eq_true]
  rw [xglWireDecodeFragmentExtValue, if_neg (by simp [hlen, XGL_FRAGMENT_EXT_VALUE_SIZE]), ← hvalue]
  simp only [xglWireEncodeFragmentExtValue, List.append_assoc]
  congr 1
  rw [xglDeserializeU32Le_serialize]
  congr 1
  · exact xglDeserializeU32Le_serialize _ _
  · exact xglDeserializeU32Le_serialize (UInt32.ofNat totalLen) []

section Arrival

variable {node : Node} {packet q : Packet}

/-- What arrives of a packet. -/
structure ArrivedFields (node : Node) (packet q : Packet) (extensions : Bytes)
    (security : List WireExt) : Prop where
  completed : networkCopyPacketExtensions packet = .ok extensions
  secured : ∀ ext ∈ security, ext.type = XGL_WIRE_EXT_SECURITY ∧ ext.Encodable
  payload : q.payload? = some (packet.payload?.getD [])
  compress : q.compress = 0
  extensions_eq : q.extensions = extensions ++ encodeWireExts security
  packetType : q.packetType = (frameFlagsAndType (networkFrameParams packet extensions)).2
  fragment : q.fragment ≠ 0 ↔ (frameFlagsAndType (networkFrameParams packet extensions)).1 &&&
    XGL_WIRE_FLAG_FRAGMENTED ≠ 0
  sourceId : q.sourceId = sentSource node.network packet
  targetId : q.targetId = packet.targetId
  connectionId : q.connectionId
    = if packet.connectionId != 0 then packet.connectionId else packet.sessionId.toUInt32
  sessionId : q.sessionId = (q.connectionId &&& 0xFFFF).toUInt16
  packetNumber : q.packetNumber = packet.packetNumber
  reliable : ∃ header : WireHeader, q.reliable = networkReliable header ∧
    header.trafficClass = (if packet.trafficClass != 0 then packet.trafficClass
      else frameTrafficClassBits (networkFrameParams packet extensions)) ∧
    header.flags = (frameFlagsAndType (networkFrameParams packet extensions)).1 ∧
    header.packetType = (frameFlagsAndType (networkFrameParams packet extensions)).2
  ext : ∃ behind ext, xglNetworkDecodeExtMetadata
      (extensions ++ encodeWireExts security ++ behind)
      (extensions ++ encodeWireExts security).length = .ok ext ∧ q.dataType = ext.dataType ∧
    q.sessionEpoch = ext.sessionEpoch

/-- Whatever arrives was sent in a frame with these parts and was read from it, over hops that
changed the hop limit only. -/
theorem Arrives.fields (h : Arrives node packet q) :
    ∃ extensions security, ArrivedFields node packet q extensions security := by
  obtain ⟨bytes, sent, ttl, hsent, hpacket, rfl⟩ := h
  obtain ⟨extensions, frame, size, hcopy, hbuild, hserialize, -⟩ := lowerSend_frame hsent
  obtain ⟨hframeExts, hframePayload, hshort, _, _, hsource, htarget, hflags, htype⟩ :=
    xglFrameBuild_ok hbuild
  obtain ⟨header, security, tail, hparts⟩ := datalinkSerialize_parts hserialize hshort
  obtain ⟨hconnection, hnumber, hclass⟩ := xglFrameBuild_stream hbuild
  have hframed := hparts.packet hpacket
  obtain ⟨ext, hext, hdecoded⟩ := hframed.ext
  have hkept : frame.extensions = extensions := hframeExts
  rw [hkept] at hext
  refine ⟨extensions, security, hcopy, hparts.secured, ?_, hframed.compress, ?_,
    hframed.packetType.trans htype, ?_, hframed.sourceId.trans hsource,
    hframed.targetId.trans htarget, hframed.connectionId.trans hconnection, hframed.sessionId,
    hframed.packetNumber.trans hnumber, ⟨frame.header, hframed.reliable, hclass, hflags, htype⟩, _,
    ext, hext, hdecoded⟩
  · show sent.payload? = _
    rw [hframed.payload, hframePayload]
    rfl
  · show sent.extensions = _
    rw [hframed.extensions_eq, hkept]
  · show sent.fragment ≠ 0 ↔ _
    rw [hframed.fragment, hflags]
    rfl

/-- The payload arrives as it was handed down. -/
theorem Arrives.payload (h : Arrives node packet q) :
    q.payload? = some (packet.payload?.getD []) :=
  h.fields.choose_spec.choose_spec.payload

/-- No compression id arrives. -/
theorem Arrives.compress (h : Arrives node packet q) : q.compress = 0 :=
  h.fields.choose_spec.choose_spec.compress

/-- The source id arrives, or that of the node where the packet had none. -/
theorem Arrives.sourceId (h : Arrives node packet q) :
    q.sourceId = sentSource node.network packet :=
  h.fields.choose_spec.choose_spec.sourceId

/-- The target id arrives. -/
theorem Arrives.targetId (h : Arrives node packet q) : q.targetId = packet.targetId :=
  h.fields.choose_spec.choose_spec.targetId

/-- The packet number arrives. -/
theorem Arrives.packetNumber (h : Arrives node packet q) : q.packetNumber = packet.packetNumber :=
  h.fields.choose_spec.choose_spec.packetNumber

/-- The session id that arrives is the low half of the connection id. -/
theorem Arrives.sessionId (h : Arrives node packet q) :
    q.sessionId = (q.connectionId &&& 0xFFFF).toUInt16 :=
  h.fields.choose_spec.choose_spec.sessionId

/-- A connection id that is not zero is that of the frame. -/
theorem Arrives.connectionId (h : Arrives node packet q) (hne : packet.connectionId ≠ 0) :
    q.connectionId = packet.connectionId := by
  rw [h.fields.choose_spec.choose_spec.connectionId, if_pos (by simpa using hne)]

/-- Control and ACK packets do not become data. -/
theorem Arrives.packetType (h : Arrives node packet q)
    (htype : packet.packetType = XGL_PACKET_TYPE_CONTROL ∨
      packet.packetType = XGL_PACKET_TYPE_ACK) :
    q.packetType = XGL_PACKET_TYPE_CONTROL ∨ q.packetType = XGL_PACKET_TYPE_ACK := by
  obtain ⟨extensions, _, hfields⟩ := h.fields
  have hexplicit : packet.packetType ≠ XGL_PACKET_TYPE_INVALID := by
    rcases htype with htype | htype <;> rw [htype] <;> decide
  have hkind : ∀ ackOnly : Bool,
      let kind := if ackOnly then XGL_PACKET_TYPE_ACK
        else if packet.packetType == XGL_PACKET_TYPE_INVALID then XGL_PACKET_TYPE_DATA
        else packet.packetType
      kind = XGL_PACKET_TYPE_CONTROL ∨ kind = XGL_PACKET_TYPE_ACK := by
    intro ackOnly
    cases ackOnly with
    | true => exact .inr rfl
    | false => simpa [hexplicit] using htype
  rw [hfields.packetType]
  exact hkind _

/-- The traffic class has the fragment bit of the packet under every priority. -/
theorem fragment_traffic_class (reliable fragment : Bool) (priority : UInt8) :
    (xglFrameSetPriority (xglFrameSetFragmented
        (if reliable then xglFrameSetReliabilityClass 0 XGL_RELIABILITY_ACK_ELICITING
          else xglFrameSetReliability 0 false) fragment)
      priority &&& XGL_TRAFFIC_FRAGMENTED_MASK != 0) = fragment := by
  revert priority
  cases reliable <;> cases fragment <;> exact forall_uint8 (by decide +kernel)

/-- Whether a data packet arrives as a fragment. -/
theorem arrives_fragment {config : TransportConfig} {peer : Option PeerState} {txData : TxData}
    {data : Bytes} {n : UInt32} {fragment : Bool} {extensions : Bytes}
    (h : Arrives node (txPacket config peer txData data n fragment extensions) q) :
    q.fragment ≠ 0 ↔ fragment = true := by
  obtain ⟨completed, _, hfields⟩ := h.fields
  rw [hfields.fragment]
  generalize hparams : networkFrameParams (txPacket config peer txData data n fragment extensions)
    completed = params
  have hbits : (frameTrafficClassBits params &&& XGL_TRAFFIC_FRAGMENTED_MASK != 0) = fragment := by
    rw [← fragment_traffic_class txData.reliable fragment txData.priority, ← hparams]
    cases hrel : txData.reliable <;> cases fragment <;>
      simp [frameTrafficClassBits, networkFrameParams, networkReliabilityClass, txPacket, hrel,
        XGL_RELIABILITY_ACK_ONLY, XGL_RELIABILITY_NONE, XGL_RELIABILITY_ACK_ELICITING]
  have hflags : params.flags = 0 := by rw [← hparams]; rfl
  -- the other bits are not the fragment bit
  have hbit : ∀ eliciting extended control : Bool,
      let flags : UInt8 := if eliciting then 0 ||| XGL_WIRE_FLAG_ACK_ELICITING else 0
      let flags := if fragment then
        flags ||| (XGL_WIRE_FLAG_FRAGMENTED ||| XGL_WIRE_FLAG_HAS_EXTENSIONS) else flags
      let flags := if extended then flags ||| XGL_WIRE_FLAG_HAS_EXTENSIONS else flags
      let flags := if control then flags ||| XGL_WIRE_FLAG_CONTROL else flags
      flags &&& XGL_WIRE_FLAG_FRAGMENTED ≠ 0 ↔ fragment = true := by
    cases fragment <;> decide
  have hbit' := hbit (frameTrafficClassBits params &&& XGL_RELIABILITY_CLASS_MASK ==
    XGL_RELIABILITY_ACK_ELICITING) (decide (params.extensions.length > 0))
    ((frameFlagsAndType params).2 == XGL_PACKET_TYPE_CONTROL)
  simp only [decide_eq_true_eq] at hbit'
  simp only [frameFlagsAndType, hbits, hflags] at hbit' ⊢
  exact hbit'

/-- The reliability the network layer reads for a packet that was sent without. -/
theorem none_traffic_class (fragment : Bool) (priority : UInt8) :
    xglFrameSetPriority (xglFrameSetFragmented (xglFrameSetReliability 0 false) fragment) priority
      &&& XGL_RELIABILITY_CLASS_MASK = XGL_RELIABILITY_NONE := by
  revert priority
  cases fragment <;> exact forall_uint8 (by decide +kernel)

/-- A data packet that arrives as ACK-eliciting is of a reliable request. -/
theorem arrives_reliable {config : TransportConfig} {peer : Option PeerState} {txData : TxData}
    {data : Bytes} {n : UInt32} {fragment : Bool} {extensions : Bytes}
    (h : Arrives node (txPacket config peer txData data n fragment extensions) q)
    (hreliable : q.reliable = XGL_RELIABILITY_ACK_ELICITING) : txData.reliable = true := by
  obtain ⟨completed, _, hfields⟩ := h.fields
  obtain ⟨header, hread, hclass, hflags, htype⟩ := hfields.reliable
  by_contra hne
  rw [Bool.not_eq_true] at hne
  generalize hparams : networkFrameParams (txPacket config peer txData data n fragment extensions)
    completed = params at hclass hflags htype
  have hbits : frameTrafficClassBits params &&& XGL_RELIABILITY_CLASS_MASK
      = XGL_RELIABILITY_NONE := by
    rw [← none_traffic_class fragment txData.priority, ← hparams]
    cases fragment <;>
      simp [frameTrafficClassBits, networkFrameParams, networkReliabilityClass, txPacket, hne,
        XGL_RELIABILITY_ACK_ONLY, XGL_RELIABILITY_NONE]
  have hnoClass : header.trafficClass &&& XGL_RELIABILITY_CLASS_MASK = XGL_RELIABILITY_NONE := by
    rw [hclass, ← hbits]
    rfl
  -- the other flags are not the one that asks for an ACK
  have hbit : ∀ fragmented extended control : Bool,
      let flags : UInt8 := 0
      let flags := if fragmented then
        flags ||| (XGL_WIRE_FLAG_FRAGMENTED ||| XGL_WIRE_FLAG_HAS_EXTENSIONS) else flags
      let flags := if extended then flags ||| XGL_WIRE_FLAG_HAS_EXTENSIONS else flags
      let flags := if control then flags ||| XGL_WIRE_FLAG_CONTROL else flags
      flags &&& XGL_WIRE_FLAG_ACK_ELICITING = 0 := by
    decide
  have hnoFlag : header.flags &&& XGL_WIRE_FLAG_ACK_ELICITING = 0 := by
    have hzero : params.flags = 0 := by rw [← hparams]; rfl
    have hbit' := hbit (frameTrafficClassBits params &&& XGL_TRAFFIC_FRAGMENTED_MASK != 0)
      (decide (params.extensions.length > 0))
      ((frameFlagsAndType params).2 == XGL_PACKET_TYPE_CONTROL)
    simp only [decide_eq_true_eq] at hbit'
    rw [hflags]
    simp only [frameFlagsAndType, hbits, hzero] at hbit' ⊢
    exact hbit'
  rw [hread] at hreliable
  simp only [networkReliable, hnoClass, hnoFlag] at hreliable
  split at hreliable
  · rename_i hcond
    exact absurd hcond (by decide)
  · split at hreliable <;> cases hreliable

/-- A fragment arrives with its extension. -/
theorem arrives_piece {config : TransportConfig} {peer : Option PeerState} {txData : TxData}
    {data : Bytes} {n messageId : UInt32} {offset totalLen : Nat}
    (h : Arrives node (txPacket config peer txData data n true
      (fragmentExtension messageId offset totalLen)) q) :
    deliveredFragmentExt q.extensions = .ok
      { messageId := messageId
        fragmentOffset := UInt32.ofNat offset
        messageLen := UInt32.ofNat totalLen } := by
  obtain ⟨extensions, security, hfields⟩ := h.fields
  obtain ⟨metadata, _, hcompleted⟩ := networkCopyPacketExtensions_ok hfields.completed
  rw [hfields.extensions_eq, hcompleted, List.append_assoc, ← encodeWireExts_append]
  refine deliveredFragmentExt_front messageId offset totalLen fun ext hmem => ?_
  rcases List.mem_append.mp hmem with hmem | hmem
  · split at hmem
    · cases hmem
    · exact dataTypeExts_encodable _ ext hmem
  · exact (hfields.secured ext hmem).2

/-- A packet without extensions of its own arrives without a FRAGMENT_EXT. -/
theorem arrives_unfragmented (h : Arrives node packet q) (hown : packet.extensions = [])
    (ext : FragmentExt) : deliveredFragmentExt q.extensions ≠ .ok ext := by
  obtain ⟨extensions, security, hfields⟩ := h.fields
  obtain ⟨metadata, _, hcompleted⟩ := networkCopyPacketExtensions_ok hfields.completed
  rw [hown, List.nil_append] at hcompleted
  generalize hadded : (if metadata.dataTypeFound then [] else dataTypeExts packet.dataType) = added
    at hcompleted
  have hkinds : ∀ other ∈ added, other.type = XGL_WIRE_EXT_DATA_TYPE ∧ other.Encodable := by
    intro other hmem
    rw [← hadded] at hmem
    split at hmem
    · cases hmem
    · refine ⟨?_, dataTypeExts_encodable _ other hmem⟩
      rw [dataTypeExts] at hmem
      split at hmem
      · cases hmem
      · rw [List.mem_singleton.mp hmem]
  have hall : ∀ other ∈ added ++ security, other.type ≠ XGL_WIRE_EXT_FRAGMENT ∧
      other.Encodable := by
    intro other hmem
    rcases List.mem_append.mp hmem with hmem | hmem
    · exact ⟨by rw [(hkinds other hmem).1]; decide, (hkinds other hmem).2⟩
    · exact ⟨by rw [(hfields.secured other hmem).1]; decide, (hfields.secured other hmem).2⟩
  have hwalk := wireExts_encode (added ++ security) (fun other hmem => (hall other hmem).2) []
  rw [List.append_nil] at hwalk
  rw [hfields.extensions_eq, hcompleted, ← encodeWireExts_append, deliveredFragmentExt]
  split
  · exact fun heq => nomatch heq
  rw [hwalk]
  have hnone : (added ++ security).find? (fun other => other.type == XGL_WIRE_EXT_FRAGMENT)
      = none := by
    rw [List.find?_eq_none]
    intro other hmem
    simpa using (hall other hmem).1
  dsimp only
  rw [hnone]
  exact fun heq => nomatch heq

/-- What arrives of the extensions: the walk over the own ones, the data type and the SECURITY_EXT
in turn. -/
theorem ArrivedFields.walk {extensions : Bytes} {security own added : List WireExt}
    (h : ArrivedFields node packet q extensions security)
    (hcompleted : extensions = encodeWireExts (own ++ added))
    (hencodable : ∀ ext ∈ own ++ added, ext.Encodable) :
    ∃ ext, networkExtLoop .notFound (own ++ (added ++ security)) {} = .ok ext ∧
      q.dataType = ext.dataType ∧ q.sessionEpoch = ext.sessionEpoch := by
  obtain ⟨behind, ext, hext, hread⟩ := h.ext
  refine ⟨ext, ?_, hread⟩
  rw [hcompleted, ← encodeWireExts_append, List.append_assoc] at hext
  have hall : ∀ other ∈ own ++ (added ++ security), other.Encodable := by
    intro other hmem
    rw [← List.append_assoc] at hmem
    rcases List.mem_append.mp hmem with hmem | hmem
    · exact hencodable other hmem
    · exact (h.secured other hmem).2
  simp only [xglNetworkDecodeExtMetadata] at hext
  split at hext
  · -- no extension at all
    rename_i hlen
    cases hext
    rw [beq_iff_eq, List.length_eq_zero_iff] at hlen
    cases hlist : own ++ (added ++ security) with
    | nil => rfl
    | cons first rest =>
      rw [hlist] at hlen
      cases hlen
  · rw [wireExts_encode _ hall] at hext
    exact hext

/-- The SECURITY_EXT of a frame is passed over by the network layer. -/
theorem ArrivedFields.secured_skipped {extensions : Bytes} {security : List WireExt}
    (h : ArrivedFields node packet q extensions security) : ∀ ext ∈ security, ext.Skipped := by
  intro ext hmem
  rw [WireExt.Skipped, (h.secured ext hmem).1]
  decide

/-- The data type of a packet whose own extensions say nothing about it, and its epoch, which no
frame carries. -/
theorem arrives_dataType {own : List WireExt} (h : Arrives node packet q)
    (hown : packet.extensions = encodeWireExts own)
    (hencodable : ∀ ext ∈ own, ext.Encodable) (hskipped : ∀ ext ∈ own, ext.Skipped) :
    q.dataType = packet.dataType ∧ q.sessionEpoch = 0 := by
  obtain ⟨extensions, security, hfields⟩ := h.fields
  obtain ⟨metadata, hmetadata, hcompleted⟩ := networkCopyPacketExtensions_ok hfields.completed
  have hmissing : metadata.dataTypeFound = false := by
    rw [hown] at hmetadata
    simp only [xglNetworkDecodeExtMetadata] at hmetadata
    split at hmetadata
    · cases hmetadata
      rfl
    · have hwalk := wireExts_encode own hencodable []
      rw [List.append_nil] at hwalk
      have hloop := networkExtLoop_skipped hskipped .notFound [] {}
      rw [List.append_nil] at hloop
      rw [hwalk, hloop] at hmetadata
      cases hmetadata
      rfl
  rw [hmissing, if_neg Bool.false_ne_true, hown, ← encodeWireExts_append] at hcompleted
  obtain ⟨ext, hext, hdataType, hepoch⟩ := hfields.walk hcompleted fun other hmem => by
    rcases List.mem_append.mp hmem with hmem | hmem
    · exact hencodable other hmem
    · exact dataTypeExts_encodable _ other hmem
  obtain ⟨read, hread, htype, hnoEpoch⟩ := networkExtLoop_dataTypeExts hskipped
    hfields.secured_skipped packet.dataType
  cases hext.symm.trans hread
  exact ⟨hdataType.trans htype, hepoch.trans hnoEpoch⟩

/-- Only a control packet arrives as one. -/
theorem Arrives.control (h : Arrives node packet q)
    (htype : q.packetType = XGL_PACKET_TYPE_CONTROL) :
    packet.packetType = XGL_PACKET_TYPE_CONTROL := by
  obtain ⟨extensions, _, hfields⟩ := h.fields
  have hkind : ∀ ackOnly : Bool,
      (let kind := if packet.packetType == XGL_PACKET_TYPE_INVALID then XGL_PACKET_TYPE_DATA
        else packet.packetType
      if ackOnly then XGL_PACKET_TYPE_ACK else kind) = XGL_PACKET_TYPE_CONTROL →
      packet.packetType = XGL_PACKET_TYPE_CONTROL := by
    intro ackOnly hread
    dsimp only at hread
    split at hread
    · exact absurd hread (by decide)
    split at hread
    · exact absurd hread (by decide)
    · exact hread
  exact hkind _ (hfields.packetType.symm.trans htype)

/-- An acknowledgement arrives as one. -/
theorem Arrives.ack (h : Arrives node packet q) (htype : packet.packetType = XGL_PACKET_TYPE_ACK) :
    q.packetType = XGL_PACKET_TYPE_ACK := by
  rcases h.packetType (.inr htype) with hcontrol | hack
  · exact absurd ((htype.symm.trans (h.control hcontrol))) (by decide)
  · exact hack

/-- A HELLO arrives as a HELLO. -/
theorem arrives_hello {config : TransportConfig} {scope : FeedbackScope}
    (h : Arrives node (helloPacket config scope) q) :
    q.dataType = XGL_TRANSPORT_CONTROL_HELLO := by
  obtain ⟨extensions, security, hfields⟩ := h.fields
  have hcompleted : extensions = encodeWireExts ([{ type := XGL_WIRE_EXT_DATA_TYPE
                                                    value := [XGL_TRANSPORT_CONTROL_HELLO] }] ++
      []) := by
    have hcopy : networkCopyPacketExtensions (helloPacket config scope)
        = .ok [XGL_WIRE_EXT_DATA_TYPE, 1, XGL_TRANSPORT_CONTROL_HELLO] := rfl
    exact Except.ok.inj (hfields.completed.symm.trans hcopy)
  obtain ⟨ext, hext, hdataType, -⟩ := hfields.walk hcompleted fun other hmem => by
    rw [List.append_nil, List.mem_singleton] at hmem
    rw [hmem]
    exact ⟨(by decide : XGL_WIRE_EXT_DATA_TYPE ≠ 0), by simp⟩
  have hrest := networkExtLoop_skipped hfields.secured_skipped .notFound []
    { dataType := XGL_TRANSPORT_CONTROL_HELLO, dataTypeFound := true }
  rw [List.append_nil] at hrest
  have hloop : networkExtLoop .notFound ([{ type := XGL_WIRE_EXT_DATA_TYPE
                                            value := [XGL_TRANSPORT_CONTROL_HELLO] }] ++
      ([] ++ security)) {}
      = networkExtLoop .notFound security
        { dataType := XGL_TRANSPORT_CONTROL_HELLO, dataTypeFound := true } := rfl
  rw [hloop, hrest] at hext
  cases hext
  exact hdataType

end Arrival

end XgenLink
