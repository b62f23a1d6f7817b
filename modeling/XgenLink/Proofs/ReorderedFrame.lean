import XgenLink.Proofs.ExtOrder
import XgenLink.Proofs.Forwarding
import XgenLink.Proofs.FrameArrival
import XgenLink.Proofs.ParserSound

/-!
# `XgenLink.Proofs.ReorderedFrame`: a frame with its extensions in another order

The records between the base header and the payload of a frame are put in another order and the
frame checksum is computed anew. The base header does not change: it has the length of the
extension area and a checksum over itself, and neither depends on the order. No layer below the
transport tells the two frames apart.

A frame is written as its parts, `tiledFrame`, so that both frames have all parts but the records
in common. Each layer reads the parts by offset and gets the same, and its loop over the records
does not depend on their order (`XgenLink.Proofs.ExtOrder`). What the layers keep of the records
are bytes, and those differ.

* `tiledFrame`: a frame by its parts.
* `withExtensions`: the frame with other records in place of its own.
* `Reordered.wellFormed`: it is as well formed as the frame itself.
* `DatalinkAlike`, `Reordered.datalink`: what the datalink makes of the two frames.
* `NetworkAlike`, `Reordered.network`: what the network layer makes of them.
-/

set_option autoImplicit false

namespace XgenLink

/-! ### Frames by their parts -/

/-- A base header, records, whatever follows them, and the frame checksum. -/
def tiledFrame (base : Bytes) (exts : List WireExt) (tail : Bytes) : Bytes :=
  appendFrameCrc (base ++ encodeWireExts exts ++ tail)

section Tiled

variable {base tail : Bytes} {exts : List WireExt}

/-- The frame is as long as its parts. -/
theorem length_tiledFrame (hbase : base.length = XGL_WIRE_BASE_HEADER_SIZE) :
    (tiledFrame base exts tail).length =
      XGL_WIRE_BASE_HEADER_SIZE + (encodeWireExts exts).length + tail.length + XGL_CRC16_SIZE := by
  unfold tiledFrame
  rw [length_appendFrameCrc, List.length_append, List.length_append, hbase]

/-- The same bytes, each part in front of what follows it. -/
theorem tiledFrame_eq (base : Bytes) (exts : List WireExt) (tail : Bytes) :
    ∃ crc, crc.length = XGL_CRC16_SIZE ∧
      tiledFrame base exts tail = base ++ (encodeWireExts exts ++ (tail ++ crc)) := by
  refine ⟨xglSerializeU16Le (xglCrc16Modbus (base ++ encodeWireExts exts ++ tail)), rfl, ?_⟩
  unfold tiledFrame appendFrameCrc
  simp only [List.append_assoc]

/-- The base header reads back. -/
theorem tiledFrame_base (hbase : base.length = XGL_WIRE_BASE_HEADER_SIZE) :
    readBytes (tiledFrame base exts tail) 0 XGL_WIRE_BASE_HEADER_SIZE = base := by
  obtain ⟨crc, _, hbytes⟩ := tiledFrame_eq base exts tail
  rw [hbytes, readBytes_append_left _ _ _ _ (by omega), ← hbase, readBytes_self]

/-- The records read back as bytes. -/
theorem tiledFrame_records (hbase : base.length = XGL_WIRE_BASE_HEADER_SIZE) :
    readBytes (tiledFrame base exts tail) XGL_WIRE_BASE_HEADER_SIZE (encodeWireExts exts).length
      = encodeWireExts exts := by
  obtain ⟨crc, _, hbytes⟩ := tiledFrame_eq base exts tail
  rw [hbytes, ← hbase]
  exact readBytes_middle base (encodeWireExts exts) (tail ++ crc)

/-- The walk over the records finds them and reaches its end. -/
theorem tiledFrame_walk (hbase : base.length = XGL_WIRE_BASE_HEADER_SIZE)
    (hexts : ∀ ext ∈ exts, ext.Encodable) :
    wireExts ((tiledFrame base exts tail).drop XGL_WIRE_BASE_HEADER_SIZE)
      (encodeWireExts exts).length = (exts, .notFound) := by
  obtain ⟨crc, _, hbytes⟩ := tiledFrame_eq base exts tail
  rw [hbytes, ← hbase, List.drop_left]
  exact wireExts_encode exts hexts (tail ++ crc)

/-- What follows the records reads back. -/
theorem tiledFrame_tail (hbase : base.length = XGL_WIRE_BASE_HEADER_SIZE) {len : Nat}
    (hlen : len ≤ tail.length) :
    readBytes (tiledFrame base exts tail)
      (XGL_WIRE_BASE_HEADER_SIZE + (encodeWireExts exts).length) len = readBytes tail 0 len := by
  obtain ⟨crc, _, hbytes⟩ := tiledFrame_eq base exts tail
  rw [hbytes, ← List.append_assoc,
    readBytes_append_right _ _ _ _ (by rw [List.length_append, hbase]), List.length_append, hbase,
    Nat.sub_self, readBytes_append_left _ _ _ _ (by omega)]

/-- Everything behind the base header up to the checksum reads back. -/
theorem tiledFrame_body (hbase : base.length = XGL_WIRE_BASE_HEADER_SIZE) :
    readBytes (tiledFrame base exts tail) XGL_WIRE_BASE_HEADER_SIZE
      ((tiledFrame base exts tail).length - XGL_CRC16_SIZE - XGL_WIRE_BASE_HEADER_SIZE)
      = encodeWireExts exts ++ tail := by
  have hlen : (tiledFrame base exts tail).length = _ := length_tiledFrame hbase
  obtain ⟨crc, _, hbytes⟩ := tiledFrame_eq base exts tail
  have hsize : (tiledFrame base exts tail).length - XGL_CRC16_SIZE - XGL_WIRE_BASE_HEADER_SIZE
      = (encodeWireExts exts ++ tail).length := by
    rw [List.length_append]
    omega
  rw [hsize, hbytes, ← List.append_assoc (encodeWireExts exts), ← hbase]
  exact readBytes_middle base (encodeWireExts exts ++ tail) crc

/-- The header is that of the base, whatever follows it. -/
theorem tiledFrame_decode (hbase : base.length = XGL_WIRE_BASE_HEADER_SIZE)
    (exts exts' : List WireExt) :
    xglWireDecodeHeader (tiledFrame base exts' tail) (tiledFrame base exts' tail).length
      = xglWireDecodeHeader (tiledFrame base exts tail) (tiledFrame base exts tail).length := by
  refine xglWireDecodeHeader_congr ?_ ?_ ?_
  · rw [length_tiledFrame hbase]
    omega
  · rw [length_tiledFrame hbase]
    omega
  · intro i hi
    have hsame : readBytes (tiledFrame base exts' tail) 0 XGL_WIRE_BASE_HEADER_SIZE
        = readBytes (tiledFrame base exts tail) 0 XGL_WIRE_BASE_HEADER_SIZE := by
      rw [tiledFrame_base hbase, tiledFrame_base hbase]
    exact byteAt_eq_of_readBytes_eq hsame i (Nat.zero_le _) (by omega)

end Tiled

/-! ### Other records in a frame -/

/-- The frame with other records in place of its own, and its checksum computed anew. -/
def withExtensions (frame : Bytes) (header : WireHeader) (exts : List WireExt) : Bytes :=
  tiledFrame (readBytes frame 0 XGL_WIRE_BASE_HEADER_SIZE) exts
    (readBytes frame header.headerLen.toNat
      (frame.length - XGL_CRC16_SIZE - header.headerLen.toNat))

/-- The records of a frame by its parts are replaced. -/
theorem withExtensions_tiledFrame {base tail : Bytes} {exts : List WireExt} {header : WireHeader}
    (hbase : base.length = XGL_WIRE_BASE_HEADER_SIZE)
    (hheaderLen : header.headerLen.toNat =
      XGL_WIRE_BASE_HEADER_SIZE + (encodeWireExts exts).length) (exts' : List WireExt) :
    withExtensions (tiledFrame base exts tail) header exts' = tiledFrame base exts' tail := by
  have hlen : (tiledFrame base exts tail).length = _ := length_tiledFrame hbase
  have htail : (tiledFrame base exts tail).length - XGL_CRC16_SIZE - header.headerLen.toNat
      = tail.length := by omega
  unfold withExtensions
  rw [tiledFrame_base hbase, htail, hheaderLen, tiledFrame_tail hbase (le_refl _), readBytes_self]

namespace WellFormedFrame

variable {frame : Bytes} {header : WireHeader} {exts : List WireExt}

/-- The announced header length is that of the base header and the records. -/
theorem headerLen (h : WellFormedFrame frame header exts) :
    header.headerLen.toNat = XGL_WIRE_BASE_HEADER_SIZE + (encodeWireExts exts).length := by
  have hge := wireHeaderFieldsValid.headerLen_ge (xglWireDecodeHeader_eq_ok.mp h.decode).2.2.2.2.1
  have hlen := congrArg List.length h.tiled
  rw [length_readBytes] at hlen
  omega

/-- The records are such that they can be encoded. -/
theorem encodable (h : WellFormedFrame frame header exts) : ∀ ext ∈ exts, ext.Encodable := by
  intro ext hmem
  have hlen := h.headerLen
  have hbyte := header.headerLen.toNat_lt
  have hvalue : ext.value.length ≤ (encodeWireExts exts).length := by
    have hmap := @List.mem_map_of_mem _ _ exts ext
      (fun ext => ext.type :: UInt8.ofNat ext.value.length :: ext.value) hmem
    have hle := (List.sublist_flatten_of_mem hmap).length_le
    rw [List.length_cons, List.length_cons] at hle
    unfold encodeWireExts List.flatMap
    omega
  exact ⟨h.types ext hmem, by omega⟩

/-- A frame is its header, its records, what follows them and its checksum. -/
theorem eq_tiled (h : WellFormedFrame frame header exts) :
    frame = withExtensions frame header exts := by
  have hheaderLen := h.headerLen
  have hlengths := h.lengths
  have hcrc := h.crc
  have htiled := h.tiled
  unfold XGL_CRC16_SIZE XGL_WIRE_BASE_HEADER_SIZE at *
  have hbody : readBytes frame 0 24 ++ encodeWireExts exts ++
        readBytes frame header.headerLen.toNat (frame.length - 2 - header.headerLen.toNat)
      = readBytes frame 0 (frame.length - 2) := by
    have hfront := readBytes_add frame 0 24 (header.headerLen.toNat - 24)
    have hwhole := readBytes_add frame 0 header.headerLen.toNat
      (frame.length - 2 - header.headerLen.toNat)
    rw [Nat.zero_add, htiled, Nat.add_sub_cancel' (by omega)] at hfront
    rw [Nat.zero_add, Nat.add_sub_cancel' (by omega), hfront] at hwhole
    exact hwhole.symm
  have hchecksum : xglSerializeU16Le (xglCrc16Modbus (readBytes frame 0 (frame.length - 2)))
      = readBytes frame (frame.length - 2) 2 := by
    rw [hcrc, xglSerializeU16Le_deserialize, readBytes_succ, readBytes_succ, readBytes_zero,
      byteAt_drop, byteAt_drop, Nat.add_zero]
  have hsplit := readBytes_add frame 0 (frame.length - 2) 2
  rw [Nat.zero_add, Nat.sub_add_cancel (by omega), readBytes_self, ← hchecksum] at hsplit
  unfold withExtensions tiledFrame appendFrameCrc XGL_WIRE_BASE_HEADER_SIZE XGL_CRC16_SIZE
  rw [hbody]
  exact hsplit

/-- The walk over the extensions finds the records and reaches its end. -/
theorem walk (h : WellFormedFrame frame header exts) :
    wireExts (frame.drop XGL_WIRE_BASE_HEADER_SIZE)
      (header.headerLen.toNat - XGL_WIRE_BASE_HEADER_SIZE) = (exts, .notFound) := by
  rw [h.headerLen, Nat.add_sub_cancel_left, h.eq_tiled]
  exact tiledFrame_walk (length_readBytes _ _ _) h.encodable

end WellFormedFrame

/-! ### The two frames -/

/-- A frame that is not authenticated, its records, which are of distinct types, and a permutation
of them. -/
structure Reordered (frame : Bytes) (header : WireHeader) (exts exts' : List WireExt) : Prop where
  wellFormed : WellFormedFrame frame header exts
  unauthenticated : header.flags &&& XGL_WIRE_FLAG_AUTHENTICATED = 0
  distinct : DistinctTypes exts
  perm : exts.Perm exts'

namespace Reordered

variable {frame : Bytes} {header : WireHeader} {exts exts' : List WireExt}

/-- Both frames by their parts, which differ in the records. -/
theorem parts (h : Reordered frame header exts exts') :
    ∃ base tail, base.length = XGL_WIRE_BASE_HEADER_SIZE ∧
      header.payloadLen.toNat ≤ tail.length ∧
      frame = tiledFrame base exts tail ∧
      withExtensions frame header exts' = tiledFrame base exts' tail := by
  have hlengths := h.wellFormed.lengths
  refine ⟨_, _, length_readBytes _ _ _, ?_, h.wellFormed.eq_tiled, rfl⟩
  rw [length_readBytes]
  omega

/-- The header announces the records in the other order too. -/
theorem headerLen' (h : Reordered frame header exts exts') :
    header.headerLen.toNat = XGL_WIRE_BASE_HEADER_SIZE + (encodeWireExts exts').length := by
  rw [← length_encodeWireExts_perm h.perm]
  exact h.wellFormed.headerLen

/-- The new frame is as long as the old one. -/
theorem length (h : Reordered frame header exts exts') :
    (withExtensions frame header exts').length = frame.length := by
  obtain ⟨base, tail, hbase, _, hframe, hframe'⟩ := h.parts
  rw [hframe', hframe, length_tiledFrame hbase, length_tiledFrame hbase,
    length_encodeWireExts_perm h.perm]

/-- Its header is the same. -/
theorem decode (h : Reordered frame header exts exts') :
    xglWireDecodeHeader (withExtensions frame header exts')
      (withExtensions frame header exts').length = .ok header := by
  obtain ⟨base, tail, hbase, _, hframe, hframe'⟩ := h.parts
  rw [hframe', tiledFrame_decode hbase exts exts', ← hframe]
  exact h.wellFormed.decode

/-- The checksum of the new frame is right. -/
theorem crc (frame : Bytes) (header : WireHeader) (exts' : List WireExt) :
    xglCrc16Modbus (readBytes (withExtensions frame header exts') 0
        ((withExtensions frame header exts').length - XGL_CRC16_SIZE)) =
      xglDeserializeU16Le ((withExtensions frame header exts').drop
        ((withExtensions frame header exts').length - XGL_CRC16_SIZE)) :=
  appendFrameCrc_crc _

/-- The payload is the same. -/
theorem payload (h : Reordered frame header exts exts') :
    readBytes (withExtensions frame header exts') header.headerLen.toNat header.payloadLen.toNat
      = readBytes frame header.headerLen.toNat header.payloadLen.toNat := by
  obtain ⟨base, tail, hbase, hfits, hframe, hframe'⟩ := h.parts
  rw [hframe', h.headerLen', tiledFrame_tail hbase hfits, ← h.headerLen', h.wellFormed.headerLen,
    hframe, tiledFrame_tail hbase hfits]

/-- The last tag length does not depend on the order. -/
theorem lastTagLen_eq (h : Reordered frame header exts exts') :
    lastTagLen exts' = lastTagLen exts := by
  unfold lastTagLen
  rw [filter_type_of_distinct h.distinct, filter_type_of_distinct (h.distinct.perm h.perm),
    find_type_perm h.perm h.distinct]

/-- The new frame is well formed as well. -/
theorem wellFormed' (h : Reordered frame header exts exts') :
    WellFormedFrame (withExtensions frame header exts') header exts' where
  decode := h.decode
  tiled := by
    obtain ⟨base, tail, hbase, _, _, hframe'⟩ := h.parts
    rw [h.headerLen', Nat.add_sub_cancel_left, hframe']
    exact tiledFrame_records hbase
  types := fun ext hmem => h.wellFormed.types ext (h.perm.mem_iff.mpr hmem)
  lengths := by
    rw [h.length, h.lastTagLen_eq]
    exact h.wellFormed.lengths
  crc := crc frame header exts'

end Reordered

/-! ### The datalink -/

/-- What the datalink makes of two frames that it does not tell apart: both are refused with the
same reports, or both are passed up. -/
inductive DatalinkAlike (ctx : DatalinkCtx) (frame frame' : Bytes) :
    XglError × DatalinkCtx × List DatalinkEvent → XglError × DatalinkCtx × List DatalinkEvent →
      Prop where
  | refused (code : XglError) (frameLen : Nat) (metadata : DatalinkRxMetadata) :
    DatalinkAlike ctx frame frame' (code, ctx, datalinkReportRxError ctx frameLen metadata)
      (code, ctx, datalinkReportRxError ctx frameLen metadata)
  | passed : DatalinkAlike ctx frame frame' (.ok, ctx, datalinkPassUp ctx frame frame.length)
      (.ok, ctx, datalinkPassUp ctx frame' frame'.length)

/-- The reports depend on the frame checksum alone. -/
theorem datalinkReportRxError_congr {ctx : DatalinkCtx} {a b : DatalinkRxMetadata}
    (h : a.frameCrcFailed = b.frameCrcFailed) (frameLen : Nat) :
    datalinkReportRxError ctx frameLen a = datalinkReportRxError ctx frameLen b := by
  unfold datalinkReportRxError
  rw [h]

namespace Reordered

variable {frame : Bytes} {header : WireHeader} {exts exts' : List WireExt}

/-- The extensions of both frames are accepted with the same metadata or refused alike. -/
theorem datalinkDecodeRxExtensions (h : Reordered frame header exts exts') (authRequired : Bool)
    (key : UInt32) (metadata : DatalinkRxMetadata) :
    SameRefusal (datalinkDecodeRxExtensions frame header authRequired key metadata)
      (datalinkDecodeRxExtensions (withExtensions frame header exts') header authRequired key
        metadata) := by
  unfold XgenLink.datalinkDecodeRxExtensions
  split
  · exact .inl rfl
  · dsimp only
    rw [h.wellFormed.walk, h.wellFormed'.walk]
    exact datalinkRxExtensionLoop_perm h.perm h.distinct authRequired key .notFound metadata

/-- The metadata of both frames are the same, or both are refused alike. -/
theorem datalinkMetadata (h : Reordered frame header exts exts') (authRequired : Bool)
    (key : UInt32) :
    SameRefusal (xglDatalinkDecodeRxMetadata frame frame.length authRequired key)
      (xglDatalinkDecodeRxMetadata (withExtensions frame header exts')
        (withExtensions frame header exts').length authRequired key) := by
  obtain ⟨_, h0, h1, _⟩ := xglWireDecodeHeader_eq_ok.mp h.wellFormed.decode
  obtain ⟨_, h0', h1', _⟩ := xglWireDecodeHeader_eq_ok.mp h.decode
  have hexts := h.datalinkDecodeRxExtensions authRequired key { header := header }
  have hdecode := h.decode
  have hcheck : ∀ metadata, datalinkCheckRxFrame (withExtensions frame header exts')
      frame.length metadata = datalinkCheckRxFrame frame frame.length metadata := by
    intro metadata
    have hcrc := crc frame header exts'
    rw [h.length] at hcrc
    unfold datalinkCheckRxFrame
    dsimp only
    rw [hcrc, h.wellFormed.crc, bne_self_eq_false, bne_self_eq_false]
  unfold xglDatalinkDecodeRxMetadata
  rw [h.length] at hdecode ⊢
  -- both frames have a length that is accepted, or neither has
  by_cases hbounds : (decide (frame.length < XGL_WIRE_BASE_HEADER_SIZE + XGL_CRC16_SIZE) ||
      decide (frame.length > XGL_DATALINK_MAX_FRAME_SIZE)) = true
  · rw [if_pos hbounds, if_pos hbounds]
    exact .inl rfl
  rw [if_neg hbounds, if_neg hbounds, if_neg (by simp [h0, h1]), if_neg (by simp [h0', h1']),
    h.wellFormed.decode, hdecode]
  dsimp only
  generalize XgenLink.datalinkDecodeRxExtensions frame header authRequired key
    { header := header } = walked at hexts ⊢
  generalize XgenLink.datalinkDecodeRxExtensions (withExtensions frame header exts') header
    authRequired key { header := header } = walked' at hexts ⊢
  obtain ⟨err, metadata⟩ := walked
  obtain ⟨err', metadata'⟩ := walked'
  rcases hexts with heq | ⟨herr, herr', hreports⟩
  · cases heq
    cases err with
    | ok => exact .inl (hcheck metadata).symm
    | _ => exact .inl rfl
  · cases herr
    cases herr'
    exact .inr ⟨rfl, rfl, hreports⟩

/-- The datalink does not tell the two frames apart. -/
theorem datalink (h : Reordered frame header exts exts') (ctx : DatalinkCtx) :
    DatalinkAlike ctx frame (withExtensions frame header exts')
      (xglDatalinkProcessFrame ctx frame frame.length)
      (xglDatalinkProcessFrame ctx (withExtensions frame header exts')
        (withExtensions frame header exts').length) := by
  have hmetadata := h.datalinkMetadata ctx.authRequired ctx.authKeyId
  have hlen := h.length
  unfold xglDatalinkProcessFrame
  -- both frames are accepted with the same metadata, or refused alike
  cases hdecoded : xglDatalinkDecodeRxMetadata frame frame.length ctx.authRequired
    ctx.authKeyId with
  | mk err metadata =>
    cases hdecoded' : xglDatalinkDecodeRxMetadata (withExtensions frame header exts')
      (withExtensions frame header exts').length ctx.authRequired ctx.authKeyId with
    | mk err' metadata' =>
      rw [hdecoded, hdecoded'] at hmetadata
      rcases hmetadata with heq | ⟨herr, herr', hreports⟩
      · cases heq
        cases err with
        | ok =>
          dsimp only
          split
          · -- a frame without the flag is not verified
            have hspec := xglDatalinkDecodeRxMetadata_eq_ok hdecoded
            have hheader := hspec.header
            rw [h.wellFormed.decode] at hheader
            have hplain : metadata.authenticated = false := by
              rw [hspec.authenticated, ← Except.ok.inj hheader, h.unauthenticated]
              rfl
            rw [hplain, Bool.false_and]
            exact .refused .invalidFrame 0 {}
          · exact .passed
        | _ =>
          rw [hlen]
          exact .refused _ _ metadata
      · cases herr
        cases herr'
        dsimp only
        rw [hlen, ← datalinkReportRxError_congr hreports]
        exact .refused .invalidFrame frame.length metadata

end Reordered

/-! ### The network layer -/

/-- What the network layer makes of two frames that differ in the order of their records: nothing,
packets that differ in the bytes of these, or frames to one PHY that differ as they do. -/
inductive NetworkAlike (ctx : NetworkCtx) (header : WireHeader) (exts exts' : List WireExt) :
    NetworkRx → NetworkRx → Prop where
  | done (error : XglError) (report : Option (XglError × String)) :
    NetworkAlike ctx header exts exts' (.done error report) (.done error report)
  | deliver (packet : Packet) (hpacket : packet.extensions = encodeWireExts exts) :
    NetworkAlike ctx header exts exts' (.deliver packet)
      (.deliver { packet with extensions := encodeWireExts exts' })
  | transmitted (hremote : xglNetworkIsLocal ctx header.targetId = false)
      (error error' : XglError) (phy : Nat) (forward : Bytes) :
    NetworkAlike ctx header exts exts' (.transmitted error phy forward)
      (.transmitted error' phy (withExtensions forward header exts'))

namespace Reordered

variable {frame : Bytes} {header : WireHeader} {exts exts' : List WireExt}

/-- The metadata of the two frames differ in the bytes of the records. -/
theorem networkMetadata (h : Reordered frame header exts exts') :
    xglNetworkDecodeFrameMetadata (withExtensions frame header exts')
        (withExtensions frame header exts').length
      = (xglNetworkDecodeFrameMetadata frame frame.length).map fun metadata =>
          { metadata with extensions := encodeWireExts exts' } := by
  have hext : xglNetworkDecodeExtMetadata
        ((withExtensions frame header exts').drop XGL_WIRE_BASE_HEADER_SIZE)
        (header.headerLen.toNat - XGL_WIRE_BASE_HEADER_SIZE)
      = xglNetworkDecodeExtMetadata (frame.drop XGL_WIRE_BASE_HEADER_SIZE)
          (header.headerLen.toNat - XGL_WIRE_BASE_HEADER_SIZE) := by
    unfold xglNetworkDecodeExtMetadata
    split
    · rfl
    · rw [h.wellFormed.walk, h.wellFormed'.walk]
      exact (networkExtLoop_perm h.perm h.distinct .notFound {}).symm
  have hdecode := h.decode
  have hrecords := h.wellFormed'.tiled
  unfold xglNetworkDecodeFrameMetadata
  rw [h.length] at hdecode ⊢
  split
  · rfl
  rw [hdecode, h.wellFormed.decode]
  dsimp only
  rw [hext]
  cases xglNetworkDecodeExtMetadata (frame.drop XGL_WIRE_BASE_HEADER_SIZE)
    (header.headerLen.toNat - XGL_WIRE_BASE_HEADER_SIZE) with
  | error err => rfl
  | ok ext =>
    dsimp only
    split
    · rfl
    · rw [hrecords, h.payload]
      rfl

/-- The frames that a hop makes of the two differ as they do. -/
theorem networkRewriteForwardFrame (h : Reordered frame header exts exts') :
    ∃ forward, networkRewriteForwardFrame frame frame.length header = .ok forward ∧
      networkRewriteForwardFrame (withExtensions frame header exts')
        (withExtensions frame header exts').length header
          = .ok (withExtensions forward header exts') := by
  obtain ⟨base, tail, hbase, _, hframe, hframe'⟩ := h.parts
  have hheaderLen := h.wellFormed.headerLen
  have henc := (xglWireEncodeHeader_decode (header.ttl - 1) h.wellFormed.decode).1
  have henc' := (xglWireEncodeHeader_decode (header.ttl - 1) h.decode).1
  refine ⟨tiledFrame (wireHeaderBytes { header with ttl := header.ttl - 1 }) exts tail, ?_, ?_⟩
  · unfold XgenLink.networkRewriteForwardFrame
    rw [henc, hframe, tiledFrame_body hbase]
    simp only [tiledFrame, List.append_assoc]
  · unfold XgenLink.networkRewriteForwardFrame
    rw [henc', hframe', tiledFrame_body hbase,
      withExtensions_tiledFrame (length_wireHeaderBytes _) hheaderLen]
    simp only [tiledFrame, List.append_assoc]

/-- A frame for another node is forwarded as the other one is. -/
theorem networkForwardRemote (h : Reordered frame header exts exts') (ctx : NetworkCtx)
    (hremote : xglNetworkIsLocal ctx header.targetId = false) (allocOk : Bool)
    {metadata : NetworkFrameMetadata} (hheader : metadata.header = header) :
    NetworkAlike ctx header exts exts'
      (networkForwardRemote ctx allocOk frame frame.length metadata)
      (networkForwardRemote ctx allocOk (withExtensions frame header exts')
        (withExtensions frame header exts').length
        { metadata with extensions := encodeWireExts exts' }) := by
  obtain ⟨forward, hforward, hforward'⟩ := h.networkRewriteForwardFrame
  unfold XgenLink.networkForwardRemote
  dsimp only
  rw [hheader, hforward, hforward', h.length]
  cases xglRouteTableLookup ctx.routeTable header.targetId with
  | none => exact .done _ _
  | some route =>
    dsimp only
    split
    · exact .done _ _
    split
    · exact .done _ _
    split
    · exact .done _ _
    split
    · exact .transmitted hremote _ _ _ forward
    · exact .done _ _

/-- The network layer does with one frame what it does with the other. -/
theorem network (h : Reordered frame header exts exts') (ctx : NetworkCtx) (allocOk : Bool) :
    NetworkAlike ctx header exts exts' (xglNetworkReceive ctx allocOk frame frame.length)
      (xglNetworkReceive ctx allocOk (withExtensions frame header exts')
        (withExtensions frame header exts').length) := by
  unfold xglNetworkReceive
  rw [h.networkMetadata]
  cases hmeta : xglNetworkDecodeFrameMetadata frame frame.length with
  | error err => exact .done err none
  | ok metadata =>
    obtain ⟨hheader, hextensions, _, _⟩ := xglNetworkDecodeFrameMetadata_ok hmeta
    rw [(xglWireDecodeHeader_eq_ok.mp h.wellFormed.decode).2.2.2.2.2] at hheader
    rw [hheader, h.wellFormed.tiled] at hextensions
    dsimp only [Except.map]
    split
    · exact .done _ _
    split
    · unfold networkDeliverLocal
      split
      · exact .done _ _
      · exact .deliver (networkLocalPacket metadata) hextensions
    · rename_i hremote
      rw [hheader, Bool.not_eq_true] at hremote
      exact h.networkForwardRemote ctx hremote allocOk hheader

end Reordered

end XgenLink
