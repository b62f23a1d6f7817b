import XgenLink.Proofs.AuthenticMesh
import XgenLink.Proofs.FragmentTiling

/-!
# `XgenLink.Proofs.SentFrames`: what is sent is taken

Layers that check what they receive only work together when nothing that a node sends runs into
a check. Nodes that share their authentication settings put no frame on the wire, their own or
one they hand on, that a parser, the datalink or the network layer of another node finds
malformed. Data, fragments, acknowledgements and HELLOs alike: a receiver drops a frame only
because its provider does not accept the tag, because of the replay window, or for want of a
route or of hops.

The checks are about what a frame says of itself: lengths, types, flags, the extensions with their
values, and the two checksums. A frame is put together from parts that agree (`Assembled`), and so
the checks are gone through once for such parts. A hop keeps the frame but for the hop limit and
the checksums, so they pass again at the next node.

* `Receivable`: what the checks ask of a frame.
* `Assembled.rxMetadata`, `Assembled.framePacket`: the checks of a frame put together.
* `Sendable`: a packet as transports hand them down.
* `lowerSend_receivable`: the frame of a packet that a transport hands down.
* `Receivable.hop`, `.parsable`, `.passed`, `.verified`: what becomes of such a frame.
* `mesh_receivable`: every frame of a run.
-/

set_option autoImplicit false

namespace XgenLink

/-! ### Frames that pass the checks -/

/-- The form in which a node serializes. -/
def AuthConfig.form (auth : AuthConfig) : FrameForm :=
  match auth.authRequired, auth.authProvider with
  | true, some provider => .authenticated auth.authKeyId provider
  | _, _ => .plain

/-- The checks of datalink and network layer pass, and the frame is not longer than `limit`. It is
authenticated exactly where the settings ask for it. -/
structure Receivable (auth : AuthConfig) (limit : Nat) (frame : Bytes) : Prop where
  length : frame.length ≤ limit
  metadata : ∃ metadata, xglDatalinkDecodeRxMetadata frame frame.length auth.authRequired
      auth.authKeyId = (.ok, metadata) ∧
    metadata.authenticated = auth.authRequired ∧ metadata.hasSecurityExt = auth.authRequired ∧
    metadata.authTagLen.toNat = auth.form.tagLen
  packet : ∃ packet, framePacket? frame = some packet

/-- A record that the datalink reads nothing from. -/
def WireExt.Plain (ext : WireExt) : Prop :=
  ext.type ≠ XGL_WIRE_EXT_SECURITY ∧ ext.type ≠ XGL_WIRE_EXT_SESSION

/-- Such records are passed over. The induction is on the records. -/
theorem datalinkRxExtensionLoop_plain {exts : List WireExt} (hplain : ∀ ext ∈ exts, ext.Plain)
    (required : Bool) (key : UInt32) (final : XglError) (rest : List WireExt)
    (metadata : DatalinkRxMetadata) :
    datalinkRxExtensionLoop required key final (exts ++ rest) metadata
      = datalinkRxExtensionLoop required key final rest metadata := by
  induction exts with
  | nil => rfl
  | cons ext exts ih =>
    obtain ⟨hsecurity, hsession⟩ := hplain ext List.mem_cons_self
    rw [List.cons_append, datalinkRxExtensionLoop, if_neg (by simpa using hsecurity),
      if_neg (by simpa using hsession)]
    exact ih fun other hother => hplain other (List.mem_cons_of_mem _ hother)

/-- The SECURITY_EXT of a frame reads back. -/
theorem xglWireDecodeSecurityExtValue_frame (frame : Frame) (keyId : UInt32) {tagLen : UInt8}
    (hne : tagLen ≠ 0) :
    ∃ nonceId, xglWireDecodeSecurityExtValue (frameSecurityExt frame keyId tagLen).value
      = .ok ⟨keyId, nonceId, tagLen⟩ := by
  have hbyte : byteAt (frameSecurityExt frame keyId tagLen).value 12 = tagLen := rfl
  have hkey : xglDeserializeU32Le (frameSecurityExt frame keyId tagLen).value = keyId := by
    simp only [frameSecurityExt, List.append_assoc]
    exact xglDeserializeU32Le_serialize _ _
  unfold xglWireDecodeSecurityExtValue
  rw [if_neg (by simp [frameSecurityExt, XGL_SECURITY_EXT_VALUE_SIZE]), hbyte,
    if_neg (by simpa using hne), hkey]
  exact ⟨_, rfl⟩

/-- A node that shares the key takes it. -/
theorem datalinkRxExtensionLoop_security (frame : Frame) (keyId : UInt32) {tagLen : UInt8}
    (hne : tagLen ≠ 0) (read : WireHeader) :
    datalinkRxExtensionLoop true keyId .notFound [frameSecurityExt frame keyId tagLen]
        { header := read }
      = (.ok, { header := read, authKeyId := keyId, authTagLen := tagLen, hasSecurityExt := true })
    := by
  obtain ⟨nonceId, hread⟩ := xglWireDecodeSecurityExtValue_frame frame keyId hne
  have htype : ((frameSecurityExt frame keyId tagLen).type == XGL_WIRE_EXT_SECURITY) = true := rfl
  rw [datalinkRxExtensionLoop, if_pos htype, hread]
  simp [datalinkRxExtensionLoop]

section Metadata

variable {header : WireHeader} {exts : List WireExt} {payload tag : Bytes}

/-- The walk of the datalink over the extensions of a frame put together. -/
theorem Assembled.rxExtensions (h : Assembled header exts payload tag) (required : Bool)
    (key : UInt32) {read : WireHeader} (hread : read.headerLen = header.headerLen)
    (metadata : DatalinkRxMetadata) :
    datalinkDecodeRxExtensions (assembledBytes header exts payload tag) read required key metadata
      = datalinkRxExtensionLoop required key .notFound exts metadata := by
  simp only [datalinkDecodeRxExtensions, hread]
  have hwalk := h.walk
  split
  · -- without extensions there is nothing to walk over
    rename_i hnone
    rw [Nat.sub_eq_zero_of_le hnone] at hwalk
    have hempty : exts = [] := (congrArg Prod.fst hwalk).symm
    rw [hempty]
    rfl
  · rw [hwalk]

/-- The metadata of a frame put together, when its extensions pass. -/
theorem Assembled.rxMetadata (h : Assembled header exts payload tag) (required : Bool)
    (key : UInt32)
    (hlen : (assembledBytes header exts payload tag).length ≤ XGL_DATALINK_MAX_FRAME_SIZE)
    {after : DatalinkRxMetadata}
    (hloop : ∀ read, datalinkRxExtensionLoop required key .notFound exts { header := read }
      = (.ok, { after with header := read }))
    (htag : after.authTagLen.toNat = tag.length) :
    ∃ metadata, xglDatalinkDecodeRxMetadata (assembledBytes header exts payload tag)
        (assembledBytes header exts payload tag).length required key = (.ok, metadata) ∧
      metadata.authenticated = (header.flags &&& XGL_WIRE_FLAG_AUTHENTICATED != 0) ∧
      metadata.hasSecurityExt = after.hasSecurityExt ∧ metadata.authTagLen = after.authTagLen := by
  obtain ⟨read, hdecode, hread, hreadPayload, hreadFlags⟩ : ∃ read : WireHeader,
      xglWireDecodeHeader (assembledBytes header exts payload tag)
        (assembledBytes header exts payload tag).length = .ok read ∧
      read.headerLen = header.headerLen ∧ read.payloadLen = header.payloadLen ∧
      read.flags = header.flags := ⟨_, h.decode, rfl, rfl, rfl⟩
  have hlength := length_assembledBytes header exts payload tag
  have hcrc := (assembled_parsable h).crc
  have hwalk := h.rxExtensions required key hread
  have hheaderLen := h.headerLen
  have hpayloadLen := h.payloadLen
  obtain ⟨-, hmagic0, hmagic1, -⟩ := xglWireDecodeHeader_eq_ok.mp hdecode
  generalize assembledBytes header exts payload tag = bytes at *
  unfold xglDatalinkDecodeRxMetadata
  rw [if_neg (by simp; omega), if_neg (by simp [hmagic0, hmagic1]), hdecode]
  dsimp only
  rw [hwalk, hloop]
  simp only [datalinkCheckRxFrame, hcrc, hread, hreadPayload, hreadFlags]
  rw [if_neg (by simp), if_neg (by simp; omega)]
  exact ⟨_, rfl, rfl, rfl, rfl⟩

/-- A frame put together stands for a packet, when the network layer takes its extensions. -/
theorem Assembled.framePacket (h : Assembled header exts payload tag) {ext : NetworkExtMetadata}
    (hloop : networkExtLoop .notFound exts {} = .ok ext) :
    ∃ packet, framePacket? (assembledBytes header exts payload tag) = some packet := by
  have hlength := length_assembledBytes header exts payload tag
  have hheaderLen := h.headerLen
  have hpayloadLen := h.payloadLen
  have hext : ∃ ext, xglNetworkDecodeExtMetadata
      ((assembledBytes header exts payload tag).drop XGL_WIRE_BASE_HEADER_SIZE)
      (header.headerLen.toNat - XGL_WIRE_BASE_HEADER_SIZE) = .ok ext := by
    simp only [xglNetworkDecodeExtMetadata, h.walk, hloop]
    split
    · exact ⟨_, rfl⟩
    · exact ⟨_, rfl⟩
  obtain ⟨ext', hext⟩ := hext
  simp only [framePacket?, xglNetworkDecodeFrameMetadata, h.decode, hext]
  rw [if_neg (by omega), if_neg (by omega)]
  exact ⟨_, rfl⟩

end Metadata

/-- A walk that ends well goes on behind what it read. The induction is on the records. -/
theorem networkExtLoop_append {exts : List WireExt} {before after : NetworkExtMetadata}
    (h : networkExtLoop .notFound exts before = .ok after) (rest : List WireExt) :
    networkExtLoop .notFound (exts ++ rest) before = networkExtLoop .notFound rest after := by
  induction exts generalizing before with
  | nil =>
    cases h
    rfl
  | cons ext exts ih =>
    rw [networkExtLoop] at h
    rw [List.cons_append, networkExtLoop]
    split at h
    · rename_i hdata
      rw [if_pos hdata]
      split at h
      · cases h
      · rename_i hfirst
        rw [if_neg hfirst]
        exact ih h
    rename_i hdata
    rw [if_neg hdata]
    split at h
    · rename_i hsession
      rw [if_pos hsession]
      split at h
      · cases h
      · rename_i hfirst
        rw [if_neg hfirst]
        split at h
        · cases h
        · exact ih h
    · rename_i hsession
      rw [if_neg hsession]
      exact ih h

/-! ### Packets of a transport -/

/-- A packet as transports hand them down: it does not claim to be authenticated, and its
extensions are records that the datalink reads nothing from. -/
structure Sendable (packet : Packet) : Prop where
  flags : packet.flags &&& XGL_WIRE_FLAG_AUTHENTICATED = 0
  extensions : ∃ own, packet.extensions = encodeWireExts own ∧
    ∀ ext ∈ own, ext.Encodable ∧ ext.Plain

/-- The record of a data type is passed over by the datalink. -/
theorem dataTypeExts_plain (dataType : UInt8) : ∀ ext ∈ dataTypeExts dataType, ext.Plain := by
  intro ext hmem
  rw [dataTypeExts] at hmem
  split at hmem
  · cases hmem
  · rw [List.mem_singleton.mp hmem]
    exact ⟨(by decide : XGL_WIRE_EXT_DATA_TYPE ≠ XGL_WIRE_EXT_SECURITY),
      (by decide : XGL_WIRE_EXT_DATA_TYPE ≠ XGL_WIRE_EXT_SESSION)⟩

/-- The extensions of a sent frame, without the SECURITY_EXT. -/
theorem Sendable.completed {packet : Packet} (h : Sendable packet) {extensions : Bytes}
    (hcopy : networkCopyPacketExtensions packet = .ok extensions) :
    ∃ exts ext, extensions = encodeWireExts exts ∧ (∀ ext ∈ exts, ext.Encodable ∧ ext.Plain) ∧
      networkExtLoop .notFound exts {} = .ok ext := by
  obtain ⟨own, hown, hrecords⟩ := h.extensions
  obtain ⟨metadata, hmeta, hextensions⟩ := networkCopyPacketExtensions_ok hcopy
  have hloop : networkExtLoop .notFound own {} = .ok metadata := by
    have hwalk := wireExts_encode own (fun ext hmem => (hrecords ext hmem).1) []
    rw [List.append_nil] at hwalk
    rw [hown, xglNetworkDecodeExtMetadata] at hmeta
    split at hmeta
    · rename_i hempty
      rw [beq_iff_eq] at hempty
      rw [hempty] at hwalk
      have hnone : own = [] := (congrArg Prod.fst hwalk).symm
      rw [hnone]
      exact hmeta
    · rw [hwalk] at hmeta
      exact hmeta
  have hadded : ∀ ext ∈ (if metadata.dataTypeFound then [] else dataTypeExts packet.dataType),
      ext.Encodable ∧ ext.Plain := by
    intro ext hmem
    split at hmem
    · cases hmem
    · exact ⟨dataTypeExts_encodable _ ext hmem, dataTypeExts_plain _ ext hmem⟩
  have hrest : ∃ ext, networkExtLoop .notFound
      (if metadata.dataTypeFound then [] else dataTypeExts packet.dataType) metadata = .ok ext := by
    split
    · exact ⟨metadata, rfl⟩
    rename_i hmissing
    rw [dataTypeExts]
    split
    · exact ⟨metadata, rfl⟩
    · rw [networkExtLoop, if_pos (beq_self_eq_true _), if_neg (by simpa using hmissing)]
      exact ⟨_, rfl⟩
  obtain ⟨ext, hrest⟩ := hrest
  refine ⟨_, ext, ?_, fun record hmem => ?_, (networkExtLoop_append hloop _).trans hrest⟩
  · rw [hextensions, hown, encodeWireExts_append]
  · exact (List.mem_append.mp hmem).elim (hrecords record) (hadded record)

/-- The settings of a node: both layers authenticate alike, and no route takes frames longer than
`limit`. -/
structure Node.SetUp (auth : AuthConfig) (limit : Nat) (node : Node) : Prop where
  datalink : node.datalink.authConfig = auth
  required : node.network.authRequired = auth.authRequired
  provider : node.network.authProvider = auth.authProvider
  routes : ∀ route ∈ node.network.routeTable, route.maxFrameSize.toNat ≤ limit

/-- A frame that was serialized passes the checks, when it is not too long. -/
theorem serialize_receivable {auth : AuthConfig} {params : FrameParams} {frame : Frame} {size : Nat}
    {bytes : Bytes} {exts : List WireExt} {ext : NetworkExtMetadata}
    (hform : auth.authRequired = true → ∃ provider, auth.authProvider = some provider)
    (hbuild : xglFrameBuild params = .ok frame)
    (hflags : params.flags &&& XGL_WIRE_FLAG_AUTHENTICATED = 0)
    (hexts : params.extensions = encodeWireExts exts)
    (hrecords : ∀ ext ∈ exts, ext.Encodable ∧ ext.Plain)
    (hloop : networkExtLoop .notFound exts {} = .ok ext)
    (hok : auth.form.serialize size frame = .ok bytes) {limit : Nat}
    (hlimit : limit ≤ XGL_DATALINK_MAX_FRAME_SIZE) (hlen : bytes.length ≤ limit) :
    Receivable auth limit bytes := by
  have hencodable := fun record hmem => (hrecords record hmem).1
  have hplain := fun record hmem => (hrecords record hmem).2
  have hsecurity : ∀ record ∈ exts, record.type ≠ XGL_WIRE_EXT_SECURITY :=
    fun record hmem => (hplain record hmem).1
  obtain ⟨required, key, provider⟩ := auth
  -- serialized plainly, or with a tag
  cases required with
  | false =>
    have hplainOk : xglFrameSerialize size frame = .ok bytes := hok
    obtain ⟨hassembled, rfl⟩ := plain_assembled hbuild hexts hencodable hsecurity hflags hplainOk
    have hclear : frame.header.flags &&& XGL_WIRE_FLAG_AUTHENTICATED = 0 := by
      rw [(xglFrameBuild_ok hbuild).2.2.2.2.2.2.2.1]
      exact frameFlagsAndType_auth hflags
    have hmetadata := @Assembled.rxMetadata _ exts frame.payload [] hassembled false key
        (hlen.trans hlimit) {}
      (fun read => by
        have hwalk := datalinkRxExtensionLoop_plain hplain false key .notFound []
          { header := read }
        rw [List.append_nil] at hwalk
        exact hwalk) rfl
    obtain ⟨metadata, hmeta, hauth, hsec, htagLen⟩ := hmetadata
    refine ⟨hlen, ⟨metadata, hmeta, hauth.trans ?_, hsec, congrArg UInt8.toNat htagLen⟩,
      hassembled.framePacket hloop⟩
    show (frame.header.flags &&& XGL_WIRE_FLAG_AUTHENTICATED != 0) = false
    rw [hclear]
    rfl
  | true =>
    obtain ⟨provider, rfl⟩ := hform rfl
    have hsecuredOk : xglFrameSerializeAuthenticated size frame key provider = .ok bytes := hok
    obtain ⟨hpos, hmax, -⟩ := xglFrameSerializeAuthenticated_eq_ok.mp hsecuredOk
    obtain ⟨tag, hassembled, htag, rfl, -⟩ :=
      authenticated_assembled hbuild hexts hencodable hsecurity hsecuredOk
    simp only [XGL_AUTH_TAG_MAX_LEN] at hmax
    have htagLen : (UInt8.ofNat provider.tagLen).toNat = provider.tagLen := by
      rw [UInt8.toNat_ofNat']
      exact Nat.mod_eq_of_lt (by omega)
    have htagByte : UInt8.ofNat provider.tagLen ≠ 0 := by
      intro hzero
      rw [hzero] at htagLen
      rw [← htagLen] at hpos
      exact absurd hpos (by decide)
    have hmetadata := @Assembled.rxMetadata _ _ frame.payload tag hassembled true key
      (hlen.trans hlimit)
      { authKeyId := key, authTagLen := UInt8.ofNat provider.tagLen, hasSecurityExt := true }
      (fun read => (datalinkRxExtensionLoop_plain hplain true key .notFound _ _).trans
        (datalinkRxExtensionLoop_security frame key htagByte read)) (htagLen.trans htag.symm)
    obtain ⟨metadata, hmeta, hauth, hsec, hread⟩ := hmetadata
    refine ⟨hlen, ⟨metadata, hmeta, hauth.trans ?_, hsec,
        (congrArg UInt8.toNat hread).trans htagLen⟩,
      hassembled.framePacket ((networkExtLoop_append hloop _).trans rfl)⟩
    -- the serialization sets the flag
    have hset : ∀ flags : UInt8, ((flags ||| (XGL_WIRE_FLAG_HAS_EXTENSIONS |||
        XGL_WIRE_FLAG_AUTHENTICATED)) &&& XGL_WIRE_FLAG_AUTHENTICATED != 0) = true :=
      forall_uint8 (by decide +kernel)
    exact hset frame.header.flags

/-- The frame that goes out is as long as the network layer computed. -/
theorem datalinkSerialize_length {ctx : DatalinkCtx} {size : Nat} {frame : Frame} {bytes : Bytes}
    (h : datalinkSerialize ctx size frame = .ok bytes) {tagLen : Nat}
    (htag : datalinkAuthTagLen ctx.authRequired ctx.authProvider = .ok tagLen) :
    bytes.length
      = xglFrameSerializedSize frame.payload.length frame.extensions.length tagLen := by
  rcases datalinkAuthTagLen_ok htag with ⟨hplain, rfl⟩ | ⟨provider, -, hauth, hprovider, -, hpos, -,
    rfl⟩
  · rw [datalinkSerialize, hplain] at h
    obtain ⟨rfl, -⟩ := xglFrameSerialize_eq_ok h
    simp only [length_appendFrameCrc, List.length_append, length_wireHeaderBytes,
      xglFrameSerializedSize, xglFrameAuthOverhead, Nat.lt_irrefl, gt_iff_lt, if_false]
    omega
  · rw [datalinkSerialize, hauth, hprovider] at h
    obtain ⟨-, -, -, -, -, -, -, tag, -, hlen, -, rfl⟩ :=
      xglFrameSerializeAuthenticated_eq_ok.mp h
    simp only [length_appendFrameCrc, List.length_append, length_frameAuthenticatedFront,
      xglFrameSerializedSize, xglFrameAuthOverhead, if_pos hpos, hlen]
    omega

/-- The frame of a packet that a transport hands down passes the checks of every node with the
same settings. -/
theorem lowerSend_receivable {auth : AuthConfig} {limit : Nat} {node : Node} {packet : Packet}
    {bytes : Bytes} (hnode : node.SetUp auth limit)
    (hlimit : limit ≤ XGL_DATALINK_MAX_FRAME_SIZE) (hpacket : Sendable packet)
    (h : (node.lowerSend packet).transmitted = some bytes) : Receivable auth limit bytes := by
  obtain ⟨extensions, frame, size, hcopy, hbuild, hserialize, route, hroute, hbudget⟩ :=
    lowerSend_frame h
  obtain ⟨exts, ext, hexts, hrecords, hloop⟩ := hpacket.completed hcopy
  have hauth := hnode.datalink
  have hrequired : node.datalink.authRequired = auth.authRequired :=
    congrArg AuthConfig.authRequired hauth
  have hkey : node.datalink.authKeyId = auth.authKeyId := congrArg AuthConfig.authKeyId hauth
  have hprovider : node.datalink.authProvider = auth.authProvider :=
    congrArg AuthConfig.authProvider hauth
  have hform : auth.authRequired = true → ∃ provider, auth.authProvider = some provider := by
    intro hset
    rw [datalinkSerialize, hrequired, hprovider, hset] at hserialize
    -- a provider is there when frames have to be authenticated
    cases hnone : auth.authProvider with
    | none =>
      rw [hnone] at hserialize
      cases hserialize
    | some provider => exact ⟨provider, rfl⟩
  have hok : auth.form.serialize size frame = .ok bytes := by
    rw [datalinkSerialize, hrequired, hprovider, hkey] at hserialize
    rw [AuthConfig.form]
    split at hserialize
    · rename_i provider hset hsome
      rw [hset, hsome]
      exact hserialize
    · cases hserialize
    · rename_i hset
      rw [hset]
      exact hserialize
  refine serialize_receivable hform hbuild hpacket.flags hexts hrecords hloop hok hlimit ?_
  -- the size was computed with the tag, and checked
  obtain ⟨tagLen, htag⟩ : ∃ tagLen,
      datalinkAuthTagLen node.network.authRequired node.network.authProvider = .ok tagLen := by
    simp only [datalinkAuthTagLen, hnode.required, hnode.provider]
    -- the size is that of the frame with its tag, when there is one
    cases hset : auth.authRequired with
    | false => exact ⟨0, rfl⟩
    | true =>
      obtain ⟨provider, hsome⟩ := hform hset
      rw [AuthConfig.form, hset, hsome] at hok
      obtain ⟨hpos, hmax, -, -, -, -, sign, -, hsign, -⟩ :=
        xglFrameSerializeAuthenticated_eq_ok.mp hok
      refine ⟨provider.tagLen, ?_⟩
      rw [hsome]
      simp [hsign]
      omega
  simp only [networkValidateAuthTxBudget, htag] at hbudget
  rw [hnode.required, hnode.provider, ← hrequired, ← hprovider] at htag
  split at hbudget
  · cases hbudget
  · rename_i hfits
    rw [datalinkSerialize_length hserialize htag]
    exact (Nat.le_of_not_gt hfits).trans (hnode.routes route (List.mem_of_find?_eq_some hroute))

/-! ### What becomes of such frames -/

section Taken

variable {auth : AuthConfig} {limit : Nat} {frame next : Bytes}

/-- A hop keeps it. -/
theorem Receivable.hop (h : Receivable auth limit frame) (hop : ForwardHop frame next) :
    Receivable auth limit next := by
  have hsame := hop.same
  obtain ⟨metadata, hmeta, hauth, hsecurity, htag⟩ := h.metadata
  obtain ⟨ttl, crc, hnext⟩ := hsame.metadata_eq (xglDatalinkDecodeRxMetadata_eq_ok hmeta)
    auth.authRequired auth.authKeyId
  rw [hmeta, ← hsame.length] at hnext
  obtain ⟨packet, hpacket⟩ := h.packet
  obtain ⟨ttl', hpacket'⟩ := hsame.framePacket hpacket
  exact ⟨hsame.length.trans_le h.length, ⟨_, hnext, hauth, hsecurity, htag⟩, _, hpacket'⟩

/-- A parser that is fed the frame completes it. -/
theorem Receivable.parsable (h : Receivable auth limit frame) :
    ∃ header tagLen, ParsableFrame frame header tagLen := by
  obtain ⟨metadata, hmeta, hauth, hsecurity, -⟩ := h.metadata
  have spec := xglDatalinkDecodeRxMetadata_eq_ok hmeta
  have hsame : SameFrame frame frame.length frame :=
    ⟨rfl, fun _ _ _ _ _ => rfl, fun header hdecode => ⟨header.ttl, header.headerCrc16, hdecode⟩,
      spec.crc⟩
  obtain ⟨header, hparsable⟩ := hsame.parsable spec fun hflag => by
    -- the flag means that there is a SECURITY_EXT, and this has a tag length
    rcases spec.security with ⟨-, hnone, -⟩ | ⟨_, security, -, hdecode, -, -, htag, -⟩
    · rw [hsecurity, ← hauth, spec.authenticated] at hnone
      exact absurd hnone (by simpa using hflag)
    · rw [htag]
      exact xglWireDecodeSecurityExtValue_tagLen hdecode
  exact ⟨header, _, hparsable⟩

/-- Where frames have to be authenticated there is a provider that can verify. -/
def AuthConfig.Verifies (auth : AuthConfig) : Prop :=
  auth.authRequired = true → ∃ provider verify, auth.authProvider = some provider ∧
    provider.verify = some verify ∧ 0 < provider.tagLen ∧ provider.tagLen ≤ XGL_AUTH_TAG_MAX_LEN

/-- Without authentication the datalink hands the frame up. -/
theorem Receivable.passed (h : Receivable auth limit frame) {ctx : DatalinkCtx}
    (hctx : ctx.authConfig = auth) (hplain : auth.authRequired = false) :
    xglDatalinkProcessFrame ctx frame frame.length
      = (.ok, ctx, datalinkPassUp ctx frame frame.length) := by
  obtain ⟨metadata, hmeta, hauth, hsecurity, -⟩ := h.metadata
  have spec := xglDatalinkDecodeRxMetadata_eq_ok hmeta
  have hrequired : ctx.authRequired = auth.authRequired := congrArg AuthConfig.authRequired hctx
  have hkey : ctx.authKeyId = auth.authKeyId := congrArg AuthConfig.authKeyId hctx
  rw [xglDatalinkProcessFrame, hrequired, hkey, hmeta]
  simp [hplain, spec.shouldVerifyAuth, hauth, hsecurity]

/-- Whatever comes of it, the provider is asked. -/
theorem datalinkVerifyFrame_asks (ctx : DatalinkCtx) {provider : AuthProvider} {frameLen : Nat}
    {metadata : DatalinkRxMetadata} {input : AuthInput}
    (hinput : wireAuthInput frame (frameLen - XGL_CRC16_SIZE) metadata.header.headerLen.toNat
      metadata.payloadLen metadata.authKeyId provider = .ok input) :
    ∃ err valid, .verify input err valid
      ∈ (datalinkVerifyFrame ctx provider frame frameLen metadata).2.2 := by
  simp only [datalinkVerifyFrame, hinput]
  split
  · exact ⟨_, _, List.mem_cons_self⟩
  split
  · exact ⟨_, _, List.mem_cons_self⟩
  · exact ⟨_, _, List.mem_cons_self⟩

/-- With authentication it asks its provider about the frame. -/
theorem Receivable.verified (h : Receivable auth limit frame) {ctx : DatalinkCtx}
    (hctx : ctx.authConfig = auth) (hverifies : auth.Verifies) (hset : auth.authRequired = true) :
    ∃ input err valid, .verify input err valid
      ∈ (xglDatalinkProcessFrame ctx frame frame.length).2.2 := by
  obtain ⟨metadata, hmeta, hauth, hsecurity, htag⟩ := h.metadata
  have spec := xglDatalinkDecodeRxMetadata_eq_ok hmeta
  have hrequired : ctx.authRequired = auth.authRequired := congrArg AuthConfig.authRequired hctx
  have hkey : ctx.authKeyId = auth.authKeyId := congrArg AuthConfig.authKeyId hctx
  have hprovider : ctx.authProvider = auth.authProvider := congrArg AuthConfig.authProvider hctx
  obtain ⟨provider, verify, hsome, hcan, hpos, hmax⟩ := hverifies hset
  rw [AuthConfig.form, hset, hsome] at htag
  have hinput : ∃ input, wireAuthInput frame (frame.length - XGL_CRC16_SIZE)
      metadata.header.headerLen.toNat metadata.payloadLen metadata.authKeyId provider
      = .ok input := by
    have hlengths := spec.lengths
    have htagLen : metadata.authTagLen.toNat = provider.tagLen := htag
    simp only [wireAuthInput, spec.canonicalAad]
    rw [if_neg (by simp; omega), if_neg (by omega), if_neg (by simp; omega)]
    exact ⟨_, rfl⟩
  obtain ⟨input, hinput⟩ := hinput
  obtain ⟨err, valid, hasked⟩ := datalinkVerifyFrame_asks ctx hinput
  refine ⟨input, err, valid, ?_⟩
  rw [xglDatalinkProcessFrame, hrequired, hkey, hmeta]
  simp only [hprovider, hset, hsome, hauth, hsecurity, Bool.true_or, Bool.and_self, if_true]
  rw [if_neg (by simp [hcan])]
  exact hasked

end Taken

/-! ### The packets of the log -/

/-- One plain record is enough. -/
theorem Sendable.of_record {packet : Packet} {ext : WireExt}
    (hflags : packet.flags &&& XGL_WIRE_FLAG_AUTHENTICATED = 0)
    (hexts : packet.extensions = encodeWireExts [ext]) (hencodable : ext.Encodable)
    (hplain : ext.Plain) : Sendable packet :=
  ⟨hflags, [ext], hexts, fun record hmem => by
    rw [List.mem_singleton.mp hmem]
    exact ⟨hencodable, hplain⟩⟩

/-- An acknowledgement carries one record that the datalink reads nothing from. -/
theorem AckPacket.sendable {config : TransportConfig} {packet : Packet}
    (h : AckPacket config packet) : Sendable packet := by
  obtain ⟨_, _, ext, hencodable, htype, rfl⟩ := h
  refine .of_record (by decide : XGL_WIRE_FLAG_HAS_EXTENSIONS &&& XGL_WIRE_FLAG_AUTHENTICATED = 0)
    rfl hencodable ?_
  rcases htype with htype | htype
  · exact ⟨htype ▸ (by decide : XGL_WIRE_EXT_ACK_RANGE ≠ XGL_WIRE_EXT_SECURITY),
      htype ▸ (by decide : XGL_WIRE_EXT_ACK_RANGE ≠ XGL_WIRE_EXT_SESSION)⟩
  · exact ⟨htype ▸ (by decide : XGL_WIRE_EXT_SACK ≠ XGL_WIRE_EXT_SECURITY),
      htype ▸ (by decide : XGL_WIRE_EXT_SACK ≠ XGL_WIRE_EXT_SESSION)⟩

/-- A HELLO carries none. -/
theorem helloPacket_sendable (config : TransportConfig) (scope : FeedbackScope) :
    Sendable (helloPacket config scope) :=
  @Sendable.of_record _ ⟨XGL_WIRE_EXT_DATA_TYPE, [XGL_TRANSPORT_CONTROL_HELLO]⟩ UInt8.zero_and rfl
    ⟨(by decide : XGL_WIRE_EXT_DATA_TYPE ≠ 0), by simp⟩
    ⟨(by decide : XGL_WIRE_EXT_DATA_TYPE ≠ XGL_WIRE_EXT_SECURITY),
      (by decide : XGL_WIRE_EXT_DATA_TYPE ≠ XGL_WIRE_EXT_SESSION)⟩

section Log

variable {config : TransportConfig} {asked messages : List TxData} {numbers : List UInt32}

/-- A packet of a request carries a FRAGMENT_EXT at most. -/
theorem RequestPacket.sendable {packet : Packet}
    (h : RequestPacket config asked numbers messages packet) : Sendable packet := by
  rcases h with ⟨_, txData, n, -, -, -, data, peer, -, rfl⟩ |
    ⟨k, txData, -, -, data, peer, n, offset, budget, -, rfl⟩
  · exact ⟨UInt8.zero_and, [], rfl, fun ext hmem => absurd hmem List.not_mem_nil⟩
  · obtain ⟨ext, hexts, hencodable, htype⟩ :=
      fragmentExtension_records (UInt32.ofNat k) offset data.length
    exact .of_record UInt8.zero_and hexts hencodable
      ⟨htype ▸ (by decide : XGL_WIRE_EXT_FRAGMENT ≠ XGL_WIRE_EXT_SECURITY),
        htype ▸ (by decide : XGL_WIRE_EXT_FRAGMENT ≠ XGL_WIRE_EXT_SESSION)⟩

/-- Whatever a transport hands down goes out as the frame of such a packet. -/
theorem SentFor.sendable {packet : Packet} (h : SentFor config asked numbers messages packet) :
    ∃ first, Sendable first ∧ ∀ node : Node, node.lowerSend packet = node.lowerSend first := by
  rcases h with hack | ⟨_, -, -, scope, -, -, rfl⟩ | ⟨first, hrequest, halike⟩
  · exact ⟨packet, hack.sendable, fun _ => rfl⟩
  · exact ⟨_, helloPacket_sendable config scope, fun _ => rfl⟩
  · exact ⟨first, hrequest.sendable, fun node => halike.2 _ _ _⟩

end Log

/-! ### The network -/

section Network

variable {ι : Type} [DecidableEq ι] {config : ι → TransportConfig} {world : ι → World}
  {mesh after : NodeMesh ι} {auth : AuthConfig} {limit : Nat}

/-- What holds in every state of a network with shared settings. -/
structure FramesInv (config : ι → TransportConfig) (auth : AuthConfig) (limit : Nat)
    (mesh : NodeMesh ι) (numbers : ι → List UInt32) : Prop
    extends NodeMeshInv config mesh numbers where
  setup : ∀ i, (mesh.node i).SetUp auth limit
  frames : ∀ frame ∈ mesh.wire, Receivable auth limit frame

/-- The settings stay as they are. -/
theorem SameAbove.setUp {node next : Node} (h : SameAbove node next)
    (hnode : node.SetUp auth limit) :
    next.SetUp auth limit where
  datalink := h.auth.trans hnode.datalink
  required := h.network ▸ hnode.required
  provider := h.network ▸ hnode.provider
  routes := h.network ▸ hnode.routes

/-- One step keeps the invariant. -/
theorem framesInv_step (hfragments : ∀ i, (config i).enableFragmentation = true)
    (hlimit : limit ≤ XGL_DATALINK_MAX_FRAME_SIZE) {step : NodeMeshAction ι}
    (h : ∃ numbers, FramesInv config auth limit mesh numbers)
    (hstep : Stepped world mesh step after) :
    ∃ numbers, FramesInv config auth limit after numbers := by
  obtain ⟨numbers, hinv⟩ := h
  cases hstep with
  | same => exact ⟨numbers, hinv⟩
  | handled i node hnode sent hsent =>
    refine ⟨numbers, hinv.toNodeMeshInv.handled i hnode hsent, fun j =>
      (mesh.move_handled hnode sent j).setUp (hinv.setup j), fun frame hframe => ?_⟩
    rcases List.mem_append.mp hframe with hold | hnew
    · exact hinv.frames frame hold
    · obtain ⟨received, hreceived, hop⟩ := hsent frame hnew
      exact (hinv.frames received hreceived).hop hop
  | transport i node hnode action hreceived =>
    have hnext := @NodeMeshInv.call ι config world mesh numbers _ i node action hfragments
      hinv.toNodeMeshInv hnode (hinv.toNodeMeshInv.received hreceived)
    have hsetup : node.SetUp auth limit := hnode.setUp (hinv.setup i)
    refine ⟨_, hnext, fun j => ?_, fun frame hframe => ?_⟩
    · by_cases hj : j = i
      · subst hj
        simp only [NodeMesh.call, NodeMesh.move_node_self, Node.advance]
        exact ⟨hsetup.datalink, hsetup.required, hsetup.provider, hsetup.routes⟩
      · rw [(@NodeMesh.call_of_ne _ world mesh _ i node action j hj).1]
        exact hinv.setup j
    · rcases List.mem_append.mp hframe with hold | hnew
      · exact hinv.frames frame hold
      · -- the packet is in the log of the node, which says what it is
        obtain ⟨packet, err, hmem, htransmitted⟩ := mem_frames hnew
        obtain ⟨messages, hlog⟩ := hnext.sender i
        rw [NodeMesh.call_self.1] at hlog
        obtain ⟨first, hfirst, hsame⟩ := (hlog.log packet err (List.mem_of_mem_drop hmem)).sendable
        rw [hsame node] at htransmitted
        exact lowerSend_receivable hsetup hlimit hfirst htransmitted

omit [DecidableEq ι] in
/-- It holds at the start. -/
theorem framesInv_start {start : NodeMesh ι} (hstart : MeshStart config start)
    (hsetup : ∀ i, (start.node i).SetUp auth limit) :
    FramesInv config auth limit start fun _ => [] := by
  refine ⟨nodeMeshInv_start hstart, hsetup, fun frame hframe => ?_⟩
  rw [hstart.wire] at hframe
  cases hframe

/-- What is sent is taken. Nodes that share their authentication settings send, lose, repeat,
reorder and forward frames in any order. No frame that is ever on the wire is malformed for any of
them: it is not longer than the routes allow, a parser that is fed it completes it at its last
byte, the network layer finds a packet in it, and the datalink either hands it up or asks its
provider about it. -/
theorem mesh_receivable (config : ι → TransportConfig) (auth : AuthConfig) (limit : Nat)
    (hverifies : auth.Verifies) (hlimit : limit ≤ XGL_DATALINK_MAX_FRAME_SIZE)
    (world : ι → World) (start : NodeMesh ι) (hstart : MeshStart config start)
    (hsetup : ∀ i, (start.node i).SetUp auth limit) (actions : List (NodeMeshAction ι)) :
    let mesh := runNodeMesh world actions start
    ∀ frame ∈ mesh.wire, frame.length ≤ limit ∧
      (∀ size parser, Tracks size parser [] → frame.length ≤ size →
        ∀ inputs : List (UInt8 × UInt32), inputs.map Prod.fst = frame →
          (parserFeedAll inputs parser).2
            = List.replicate (frame.length - 1) .incomplete ++ [.complete] ∧
          (parserFeedAll inputs parser).1.cache.take frame.length = frame) ∧
      (∃ packet, framePacket? frame = some packet) ∧
      ∀ i, let processed := xglDatalinkProcessFrame (mesh.node i).datalink frame frame.length
        if auth.authRequired then ∃ input err valid, .verify input err valid ∈ processed.2.2
        else processed.1 = .ok ∧
          processed.2.2 = datalinkPassUp (mesh.node i).datalink frame frame.length := by
  intro mesh frame hframe
  obtain ⟨numbers, hinv⟩ : ∃ numbers, FramesInv config auth limit mesh numbers :=
    foldl_invariant (fun state => ∃ numbers, FramesInv config auth limit state numbers)
      (fun state action hinv =>
        framesInv_step hstart.fragments hlimit hinv (state.step_stepped world action))
      actions start ⟨_, framesInv_start hstart hsetup⟩
  have hreceivable := hinv.frames frame hframe
  obtain ⟨header, tagLen, hparsable⟩ := hreceivable.parsable
  refine ⟨hreceivable.length, fun size parser htracks hfits inputs hinputs => ?_,
    hreceivable.packet, fun i => ?_⟩
  · have hquiet : ¬ [XGL_WIRE_MAGIC_0, XGL_WIRE_MAGIC_1] <:+: ([] : Bytes) := by simp
    obtain ⟨hresults, -, hcache⟩ := hparsable.reported htracks hfits hquiet
      (hinputs.trans (List.nil_append frame).symm)
    rw [List.length_nil, Nat.zero_add] at hresults
    exact ⟨hresults, hcache⟩
  · dsimp only
    split
    · rename_i hset
      exact hreceivable.verified (hinv.setup i).datalink hverifies hset
    · rename_i hplain
      rw [Bool.not_eq_true] at hplain
      rw [hreceivable.passed (hinv.setup i).datalink hplain]
      exact ⟨rfl, rfl⟩

end Network

/-! ### Two nodes that authenticate -/

/-- They share their settings, and no frame is longer than their caches. -/
theorem attackedNode_setUp (i : Fin 2) :
    (attackedNode i).SetUp (attackedNode 0).datalink.authConfig 64 where
  datalink := rfl
  required := rfl
  provider := rfl
  routes := fun route hroute => by
    obtain ⟨_, _, rfl⟩ := List.mem_map.mp hroute
    exact Nat.le_refl 64

/-- Node 1 sends two requests, and node 2 gets the frames of the second one. -/
def taggedActions : List (NodeMeshAction (Fin 2)) :=
  [.send attackedSender attackedRequest,
    .send attackedSender { attackedRequest with reliable := true },
    .receive attackedReceiver 1 true, .receive attackedReceiver 2 true]

/-- The network behind these steps. -/
def taggedRun : NodeMesh (Fin 2) :=
  runNodeMesh (fun _ => chainWorld) taggedActions { node := attackedNode }

/-- Two data frames and a HELLO go out, and an ACK comes back. Both nodes ask their providers about
each of them. -/
theorem mesh_receivable_tagged :
    taggedRun.wire.length = 4 ∧ ∀ frame ∈ taggedRun.wire, frame.length ≤ 64 ∧
      ∀ i, ∃ input err valid, .verify input err valid
        ∈ (xglDatalinkProcessFrame (taggedRun.node i).datalink frame frame.length).2.2 := by
  have hsent : taggedRun.wire.length = 4 := by decide +kernel
  refine ⟨hsent, fun frame hframe => ?_⟩
  have hverifies : (attackedNode 0).datalink.authConfig.Verifies := fun _ =>
    ⟨sumProvider, _, rfl, rfl, by decide, by decide⟩
  rw [taggedRun] at hframe ⊢
  obtain ⟨hlength, -, -, hasked⟩ := mesh_receivable attackedConfig
    (attackedNode 0).datalink.authConfig 64 hverifies (by decide) (fun _ => chainWorld)
    { node := attackedNode } attacked_start attackedNode_setUp taggedActions frame hframe
  exact ⟨hlength, fun i => hasked i⟩

end XgenLink
