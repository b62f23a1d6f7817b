import Mathlib.Logic.Relation
import XgenLink.Network.Receive
import XgenLink.Proofs.AuthenticationGate
import XgenLink.Proofs.ParserCompletes

/-!
# `XgenLink.Proofs.Forwarding`: a hop keeps the frame

A node that is given a frame for another one looks for a route and hands the frame to the PHY of
the route. On the way it changes three fields of the frame: the hop limit goes down by one, and
the header checksum and the frame checksum follow it. `network_rewrite_forward_frame` does not
patch these bytes. It encodes the header again from its decoded form and copies the rest, so that
the bytes of the header have to be shown to come back as they were.

`SameFrame` is what every hop keeps: the length and every byte outside the hop limit and the
checksums, with both checksums valid. It is transitive. Frames so related decode to the same
metadata up to these fields, and give a provider the same input: the authenticated header leaves
the hop limit and the checksum out. So verification at the destination does not see how many hops
there were.

* `SameFrame`, `SameFrame.trans`: what is kept, and that hops compose.
* `networkRewriteForwardFrame_same`: one rewrite.
* `SameFrame.metadata_eq`, `SameFrame.destination_eq`: what a destination makes of both frames.
* `SameFrame.parsable`: the parser of the next node completes the frame too.
* `xglNetworkReceive_transmitted`: the one path on which a frame is handed on.
* `forwarding_preserves_frame`: any number of hops.
-/

set_option autoImplicit false

namespace XgenLink

/-! ### What a hop keeps -/

/-- `b` is the first `n` bytes of `a` up to the hop limit, the header checksum and
the frame checksum, and its own checksums are right. -/
structure SameFrame (a : Bytes) (n : Nat) (b : Bytes) : Prop where
  length : b.length = n
  bytes : ∀ i, i ≠ 6 → i ≠ 22 → i ≠ 23 → i + XGL_CRC16_SIZE < n → byteAt b i = byteAt a i
  decode : ∀ header, xglWireDecodeHeader a n = .ok header →
    ∃ ttl crc, xglWireDecodeHeader b n = .ok { header with ttl := ttl, headerCrc16 := crc }
  crc : xglCrc16Modbus (readBytes b 0 (n - XGL_CRC16_SIZE)) =
    xglDeserializeU16Le (b.drop (n - XGL_CRC16_SIZE))

/-- Hops compose. -/
theorem SameFrame.trans {a b c : Bytes} {n : Nat} (hab : SameFrame a n b)
    (hbc : SameFrame b b.length c) : SameFrame a n c := by
  have hn := hab.length
  rw [hn] at hbc
  refine ⟨hbc.length, ?_, ?_, hbc.crc⟩
  · intro i h6 h22 h23 hi
    rw [hbc.bytes i h6 h22 h23 hi, hab.bytes i h6 h22 h23 hi]
  · intro header hheader
    obtain ⟨ttl, crc, hb⟩ := hab.decode header hheader
    obtain ⟨ttl', crc', hc⟩ := hbc.decode _ hb
    exact ⟨ttl', crc', hc⟩

/-- The checksum appended to a body is the one found there. -/
theorem appendFrameCrc_crc (body : Bytes) :
    xglCrc16Modbus (readBytes (appendFrameCrc body) 0
        ((appendFrameCrc body).length - XGL_CRC16_SIZE)) =
      xglDeserializeU16Le ((appendFrameCrc body).drop
        ((appendFrameCrc body).length - XGL_CRC16_SIZE)) := by
  rw [length_appendFrameCrc, Nat.add_sub_cancel]
  unfold appendFrameCrc
  have hfield := xglDeserializeU16Le_serialize (xglCrc16Modbus body) []
  rw [List.append_nil] at hfield
  rw [readBytes_append_left _ _ _ _ (by omega), readBytes_self, List.drop_left, hfield]

/-- The bytes behind the base header of a rewritten frame. -/
theorem byteAt_rewrite_body (header frame : Bytes) (n i : Nat)
    (hheader : header.length = XGL_WIRE_BASE_HEADER_SIZE)
    (hlo : XGL_WIRE_BASE_HEADER_SIZE ≤ i) (hhi : i + XGL_CRC16_SIZE < n) :
    byteAt (appendFrameCrc (header ++ readBytes frame XGL_WIRE_BASE_HEADER_SIZE
      (n - XGL_CRC16_SIZE - XGL_WIRE_BASE_HEADER_SIZE))) i = byteAt frame i := by
  unfold appendFrameCrc
  rw [byteAt_append_left _ _ _ (by rw [List.length_append, length_readBytes]; omega)]
  unfold byteAt
  rw [List.getD_append_right _ _ _ _ (by omega), hheader]
  change byteAt (readBytes frame _ _) _ = byteAt frame i
  rw [byteAt_readBytes _ _ _ _ (by omega), Nat.add_sub_cancel' hlo]

/-- `network_rewrite_forward_frame` keeps the frame and decreases the hop limit
by one. -/
theorem networkRewriteForwardFrame_same {frame forward : Bytes} {n : Nat} {header : WireHeader}
    (hdec : xglWireDecodeHeader frame n = .ok header)
    (hn : XGL_WIRE_BASE_HEADER_SIZE + XGL_CRC16_SIZE ≤ n)
    (h : networkRewriteForwardFrame frame n header = .ok forward) :
    SameFrame frame n forward ∧
      ∃ crc, xglWireDecodeHeader forward n
        = .ok { header with ttl := header.ttl - 1, headerCrc16 := crc } := by
  obtain ⟨henc, hfront⟩ := xglWireEncodeHeader_decode (header.ttl - 1) hdec
  unfold networkRewriteForwardFrame at h
  rw [henc] at h
  injection h with h
  subst h
  obtain ⟨hsize, _, _, _, hvalid, _⟩ := xglWireDecodeHeader_eq_ok.mp hdec
  generalize hhb : wireHeaderBytes { header with ttl := header.ttl - 1 } = hb
  have hhblen : hb.length = XGL_WIRE_BASE_HEADER_SIZE := by
    rw [← hhb]
    exact length_wireHeaderBytes _
  have hlength : (appendFrameCrc (hb ++ readBytes frame XGL_WIRE_BASE_HEADER_SIZE
      (n - XGL_CRC16_SIZE - XGL_WIRE_BASE_HEADER_SIZE))).length = n := by
    rw [length_appendFrameCrc, List.length_append, length_readBytes, hhblen]
    omega
  have hdecode : ∃ crc, xglWireDecodeHeader
        (appendFrameCrc (hb ++ readBytes frame XGL_WIRE_BASE_HEADER_SIZE
          (n - XGL_CRC16_SIZE - XGL_WIRE_BASE_HEADER_SIZE))) n
      = .ok { header with ttl := header.ttl - 1, headerCrc16 := crc } := by
    unfold appendFrameCrc
    rw [← hhb, List.append_assoc]
    exact ⟨_, xglWireDecodeHeader_encode _ _ n hsize hvalid⟩
  refine ⟨⟨hlength, ?_, ?_, ?_⟩, hdecode⟩
  · intro i h6 h22 h23 hi
    -- a byte of the base header, or one behind it
    rcases Nat.lt_or_ge i XGL_WIRE_BASE_HEADER_SIZE with hlt | hge
    · -- a header byte outside the hop limit and the checksum
      unfold XGL_WIRE_BASE_HEADER_SIZE at hlt
      unfold appendFrameCrc
      rw [byteAt_append_left _ _ _ (by
          rw [List.length_append, hhblen, length_readBytes]
          unfold XGL_CRC16_SIZE at *
          omega),
        byteAt_append_left _ _ _ (by rw [hhblen]; exact hlt), ← hhb]
      unfold wireHeaderBytes
      rw [byteAt_append_left _ _ _ (by rw [length_wireHeaderFront]; omega), hfront,
        byteAt_set_ne _ _ _ _ (Ne.symm h6), byteAt_readBytes _ _ _ _ (by omega), Nat.zero_add]
    · exact byteAt_rewrite_body hb frame n i hhblen hge hi
  · intro header' hdec'
    rw [hdec] at hdec'
    injection hdec' with hdec'
    subst hdec'
    obtain ⟨crc, hcrc⟩ := hdecode
    exact ⟨_, crc, hcrc⟩
  · have hcrc := appendFrameCrc_crc (hb ++ readBytes frame XGL_WIRE_BASE_HEADER_SIZE
      (n - XGL_CRC16_SIZE - XGL_WIRE_BASE_HEADER_SIZE))
    rwa [hlength] at hcrc

/-! ### Metadata and verification after a hop -/

/-- The extension loop carries the header along untouched. -/
theorem datalinkRxExtensionLoop_setHeader (authRequired : Bool) (key : UInt32) (final : XglError)
    (exts : List WireExt) (metadata : DatalinkRxMetadata) (header : WireHeader) :
    datalinkRxExtensionLoop authRequired key final exts { metadata with header := header }
      = ((datalinkRxExtensionLoop authRequired key final exts metadata).1,
          { (datalinkRxExtensionLoop authRequired key final exts metadata).2 with
            header := header }) := by
  induction exts generalizing metadata with
  | nil => rfl
  | cons ext rest ih =>
    unfold datalinkRxExtensionLoop
    split
    · split
      · rfl
      · dsimp only
        split
        · rfl
        · exact ih { metadata with
            authKeyId := _, authTagLen := _, hasSecurityExt := true }
    · split
      · split
        · rfl
        · exact ih { metadata with sessionEpoch := _ }
      · exact ih metadata

section AfterHop

variable {a b : Bytes} {n : Nat} {authRequired : Bool} {key : UInt32}
  {metadata : DatalinkRxMetadata}

/-- The extensions of both frames are the same records. -/
theorem SameFrame.wireExts_eq (h : SameFrame a n b)
    (spec : RxMetadataSpec a n authRequired key metadata) :
    wireExts (b.drop XGL_WIRE_BASE_HEADER_SIZE)
        (metadata.header.headerLen.toNat - XGL_WIRE_BASE_HEADER_SIZE)
      = wireExts (a.drop XGL_WIRE_BASE_HEADER_SIZE)
        (metadata.header.headerLen.toNat - XGL_WIRE_BASE_HEADER_SIZE) := by
  have hlens := spec.lengths
  apply wireExts_congr
  apply readBytes_congr
  intro i _ hi
  rw [byteAt_drop, byteAt_drop]
  unfold XGL_WIRE_BASE_HEADER_SIZE at *
  exact h.bytes _ (by omega) (by omega) (by omega) (by omega)

/-- For every receiver configuration the metadata of both frames agree except
for the hop limit and the header checksum. -/
theorem SameFrame.metadata_eq (h : SameFrame a n b)
    (spec : RxMetadataSpec a n authRequired key metadata) (authRequired' : Bool) (key' : UInt32) :
    ∃ ttl crc, xglDatalinkDecodeRxMetadata b n authRequired' key'
      = ((xglDatalinkDecodeRxMetadata a n authRequired' key').1,
          { (xglDatalinkDecodeRxMetadata a n authRequired' key').2 with
            header := { metadata.header with ttl := ttl, headerCrc16 := crc } }) := by
  obtain ⟨_, ha0, ha1, _⟩ := xglWireDecodeHeader_eq_ok.mp spec.header
  obtain ⟨ttl, crc, hb⟩ := h.decode _ spec.header
  obtain ⟨_, hb0, hb1, _⟩ := xglWireDecodeHeader_eq_ok.mp hb
  have hmin := spec.minLen
  have hmax := spec.maxLen
  refine ⟨ttl, crc, ?_⟩
  unfold xglDatalinkDecodeRxMetadata
  rw [if_neg (by simp; omega), if_neg (by simp [hb0, hb1]), if_neg (by simp; omega),
    if_neg (by simp [ha0, ha1]), hb, spec.header]
  dsimp only
  -- both walk the same records, starting from headers that differ in ttl and checksum
  have hext : datalinkDecodeRxExtensions b { metadata.header with ttl := ttl, headerCrc16 := crc }
        authRequired' key' { header := { metadata.header with ttl := ttl, headerCrc16 := crc } }
      = ((datalinkDecodeRxExtensions a metadata.header authRequired' key'
            { header := metadata.header }).1,
          { (datalinkDecodeRxExtensions a metadata.header authRequired' key'
            { header := metadata.header }).2 with
            header := { metadata.header with ttl := ttl, headerCrc16 := crc } }) := by
    unfold datalinkDecodeRxExtensions
    dsimp only
    split
    · rfl
    · rw [h.wireExts_eq spec]
      exact datalinkRxExtensionLoop_setHeader _ _ _ _ { header := metadata.header } _
  rw [hext]
  have hkeep : (datalinkDecodeRxExtensions a metadata.header authRequired' key'
      { header := metadata.header }).2.header = metadata.header := by
    unfold datalinkDecodeRxExtensions
    split
    · rfl
    · have := datalinkRxExtensionLoop_setHeader authRequired' key'
        (wireExts (a.drop XGL_WIRE_BASE_HEADER_SIZE)
          (metadata.header.headerLen.toNat - XGL_WIRE_BASE_HEADER_SIZE)).2
        (wireExts (a.drop XGL_WIRE_BASE_HEADER_SIZE)
          (metadata.header.headerLen.toNat - XGL_WIRE_BASE_HEADER_SIZE)).1
        { header := metadata.header } metadata.header
      rw [this]
  generalize datalinkDecodeRxExtensions a metadata.header authRequired' key'
    { header := metadata.header } = loop at hkeep ⊢
  obtain ⟨err, after⟩ := loop
  dsimp only at hkeep ⊢
  cases err with
  | ok =>
    unfold datalinkCheckRxFrame
    simp only [h.crc, spec.crc, bne_self_eq_false, Bool.false_eq_true, if_false, hkeep]
    split <;> rfl
  | _ => rfl

/-- The provider's input does not change over a hop, for any boundaries behind
the base header. -/
theorem SameFrame.wireAuthInput_eq (h : SameFrame a n b) (headerLen payloadLen : Nat)
    (keyId : UInt32) (provider : AuthProvider) (hge : XGL_WIRE_BASE_HEADER_SIZE ≤ headerLen)
    (ha0 : byteAt a 0 = XGL_WIRE_MAGIC_0) (ha1 : byteAt a 1 = XGL_WIRE_MAGIC_1) :
    wireAuthInput b (n - XGL_CRC16_SIZE) headerLen payloadLen keyId provider
      = wireAuthInput a (n - XGL_CRC16_SIZE) headerLen payloadLen keyId provider := by
  unfold wireAuthInput
  dsimp only
  split
  · rfl
  split
  · rfl
  rename_i hroom
  have hge' : 24 ≤ headerLen := hge
  have hbyte : ∀ i, i ≠ 6 → i ≠ 22 → i ≠ 23 → i < n - XGL_CRC16_SIZE →
      byteAt b i = byteAt a i := fun i h6 h22 h23 hi => h.bytes i h6 h22 h23 (by omega)
  have hpayload : readBytes b headerLen payloadLen = readBytes a headerLen payloadLen :=
    readBytes_congr fun i hlo hhi => hbyte i (by omega) (by omega) (by omega) (by omega)
  have htag : readBytes b (headerLen + payloadLen) (n - XGL_CRC16_SIZE - (headerLen + payloadLen))
      = readBytes a (headerLen + payloadLen) (n - XGL_CRC16_SIZE - (headerLen + payloadLen)) :=
    readBytes_congr fun i hlo hhi => hbyte i (by omega) (by omega) (by omega) (by omega)
  have hzero : zeroMutableHeaderBytes (readBytes b 0 headerLen)
      = zeroMutableHeaderBytes (readBytes a 0 headerLen) := by
    apply zeroMutableHeaderBytes_congr (by simp)
    intro i h6 h22 h23 hi
    rw [length_readBytes] at hi
    rw [byteAt_readBytes _ _ _ _ hi, byteAt_readBytes _ _ _ _ hi, Nat.zero_add]
    exact hbyte i h6 h22 h23 (by omega)
  have hhas : wireAuthAadHasFrameHeader (readBytes b 0 headerLen) = true ∧
      wireAuthAadHasFrameHeader (readBytes a 0 headerLen) = true := by
    unfold wireAuthAadHasFrameHeader
    simp only [length_readBytes, byteAt_readBytes _ _ _ _ (by omega : 0 < headerLen),
      byteAt_readBytes _ _ _ _ (by omega : 1 < headerLen), Nat.zero_add,
      hbyte 0 (by omega) (by omega) (by omega) (by omega),
      hbyte 1 (by omega) (by omega) (by omega) (by omega), ha0, ha1]
    simp [hge]
  have hcanon : wireAuthCanonicalAad (readBytes b 0 headerLen)
      = wireAuthCanonicalAad (readBytes a 0 headerLen) := by
    unfold wireAuthCanonicalAad
    rw [hhas.1, hhas.2, length_readBytes, length_readBytes, hzero]
    rfl
  rw [hcanon, hpayload, htag]

end AfterHop

/-- The boundaries and the key a destination takes from a frame, with the
provider's input, when the frame passes metadata validation. -/
def destinationAuthInput (config : AuthConfig) (provider : AuthProvider) (frame : Bytes)
    (frameLen : Nat) : Option (Except XglError AuthInput) :=
  match xglDatalinkDecodeRxMetadata frame frameLen config.authRequired config.authKeyId with
  | (.ok, metadata) =>
    some (wireAuthInput frame (frameLen - XGL_CRC16_SIZE) metadata.header.headerLen.toNat
      metadata.payloadLen metadata.authKeyId provider)
  | _ => none

/-- The outcome of `xgl_wire_verify_auth_trailer` at a destination. -/
def destinationVerification (config : AuthConfig) (provider : AuthProvider) (frame : Bytes)
    (frameLen : Nat) : Option (XglError × Bool) :=
  match xglDatalinkDecodeRxMetadata frame frameLen config.authRequired config.authKeyId with
  | (.ok, metadata) =>
    some (xglWireVerifyAuthTrailer frame (frameLen - XGL_CRC16_SIZE)
      metadata.header.headerLen.toNat metadata.payloadLen metadata.authKeyId provider)
  | _ => none

/-- A destination sees the same input and gets the same answer before and after
a hop. -/
theorem SameFrame.destination_eq {a b : Bytes} {n : Nat} {authRequired : Bool} {key : UInt32}
    {metadata : DatalinkRxMetadata} (h : SameFrame a n b)
    (spec : RxMetadataSpec a n authRequired key metadata) (config : AuthConfig)
    (provider : AuthProvider) :
    destinationAuthInput config provider b n = destinationAuthInput config provider a n ∧
      destinationVerification config provider b n
        = destinationVerification config provider a n := by
  obtain ⟨ttl, crc, hb⟩ := h.metadata_eq spec config.authRequired config.authKeyId
  obtain ⟨_, ha0, ha1, _, hvalid, _⟩ := xglWireDecodeHeader_eq_ok.mp spec.header
  have hge := wireHeaderFieldsValid.headerLen_ge hvalid
  unfold destinationAuthInput destinationVerification
  rw [hb]
  have hheader : ∀ m, xglDatalinkDecodeRxMetadata a n config.authRequired config.authKeyId
      = (.ok, m) → m.header = metadata.header := by
    intro m hm
    have := (xglDatalinkDecodeRxMetadata_eq_ok hm).header
    rw [spec.header] at this
    exact (Except.ok.inj this).symm
  generalize hdec : xglDatalinkDecodeRxMetadata a n config.authRequired config.authKeyId = result
    at hheader ⊢
  obtain ⟨err, m⟩ := result
  cases err with
  | ok =>
    dsimp only
    rw [hheader m rfl]
    unfold xglWireVerifyAuthTrailer
    rw [h.wireAuthInput_eq _ _ _ _ hge ha0 ha1]
    exact ⟨rfl, rfl⟩
  | _ => exact ⟨rfl, rfl⟩

/-! ### The parser of the next node -/

/-- The datalink's loop and the parser's loop find the same tag length. -/
theorem parserAuthTagLen_of_loop {authRequired : Bool} {key : UInt32} {final : XglError}
    {exts : List WireExt} {before after : DatalinkRxMetadata}
    (h : datalinkRxExtensionLoop authRequired key final exts before = (.ok, after)) :
    parserAuthTagLen exts before.authTagLen = some after.authTagLen := by
  induction exts generalizing before with
  | nil =>
    simp only [datalinkRxExtensionLoop, Prod.mk.injEq] at h
    obtain ⟨_, rfl⟩ := h
    rfl
  | cons ext rest ih =>
    unfold datalinkRxExtensionLoop at h
    unfold parserAuthTagLen
    by_cases hsec : ext.type = XGL_WIRE_EXT_SECURITY
    · rw [if_pos (by simp [hsec])] at h ⊢
      cases hdec : xglWireDecodeSecurityExtValue ext.value with
      | error err => simp [hdec] at h
      | ok security =>
        simp only [hdec] at h ⊢
        have htag := xglWireDecodeSecurityExtValue_tagLen hdec
        split at h
        · cases h
        · rw [if_neg (by simp [htag])]
          exact ih h
    · rw [if_neg (by simp [hsec])] at h ⊢
      split at h
      · split at h
        · cases h
        · have hrest := ih h
          exact hrest
      · exact ih h

/-- A flagged frame that `xgl_datalink_process_frame` accepts has a tag. -/
theorem processFrame_ok_spec {ctx : DatalinkCtx} {frame : Bytes} {n : Nat}
    (h : (xglDatalinkProcessFrame ctx frame n).1 = .ok) :
    ∃ metadata, RxMetadataSpec frame n ctx.authRequired ctx.authKeyId metadata ∧
      (metadata.header.flags &&& XGL_WIRE_FLAG_AUTHENTICATED ≠ 0 → metadata.authTagLen ≠ 0) := by
  have houtcome := xglDatalinkProcessFrame_outcome ctx frame n
  generalize xglDatalinkProcessFrame ctx frame n = result at h houtcome
  cases houtcome with
  | dropped err events herr _ => exact absurd h herr
  | replayed metadata input _ _ _ => cases h
  | plain metadata hmeta hopt hplain =>
    have spec := xglDatalinkDecodeRxMetadata_eq_ok hmeta
    refine ⟨metadata, spec, fun hflag => absurd hplain.1 ?_⟩
    rw [← spec.authFlag, spec.authenticated]
    simpa using hflag
  | verified metadata input hmeta hver _ =>
    have spec := xglDatalinkDecodeRxMetadata_eq_ok hmeta
    refine ⟨metadata, spec, fun _ => ?_⟩
    obtain ⟨_, ext, security, _, _, hlast, _⟩ := hver
    rcases spec.security with ⟨hnone, _⟩ | ⟨_, found, _, hdec, _, _, htag, _⟩
    · rw [hnone] at hlast
      cases hlast
    · rw [htag]
      exact xglWireDecodeSecurityExtValue_tagLen hdec

/-- The frame after a hop is again one that a parser completes. -/
theorem SameFrame.parsable {a b : Bytes} {n : Nat} {authRequired : Bool} {key : UInt32}
    {metadata : DatalinkRxMetadata} (h : SameFrame a n b)
    (spec : RxMetadataSpec a n authRequired key metadata)
    (hauth : metadata.header.flags &&& XGL_WIRE_FLAG_AUTHENTICATED ≠ 0 →
      metadata.authTagLen ≠ 0) :
    ∃ header, ParsableFrame b header metadata.authTagLen := by
  obtain ⟨ttl, crc, hb⟩ := h.decode _ spec.header
  have hexts := h.wireExts_eq spec
  have hof : wireHeaderOfBytes a = metadata.header :=
    (xglWireDecodeHeader_eq_ok.mp spec.header).2.2.2.2.2
  obtain ⟨before, hloop, htag, _⟩ := spec.loop
  refine ⟨{ metadata.header with ttl := ttl, headerCrc16 := crc },
    ⟨by rw [h.length]; exact hb, ?_, ?_, hauth, ?_, ?_⟩⟩
  · dsimp only
    rw [hexts]
    exact spec.walk
  · dsimp only
    rw [hexts, ← htag]
    have := parserAuthTagLen_of_loop hloop
    unfold frameExtensions at this
    rwa [hof] at this
  · rw [h.length, spec.lengths, spec.payloadLen]
  · rw [h.length]
    exact h.crc

/-- A completed frame fits the cache it was collected in. -/
theorem xglParserFeedByte_complete_fits {parser done : Parser} {byte : UInt8} {now : UInt32}
    (h : xglParserFeedByte parser byte now = (.complete, done)) :
    done.cacheLen ≤ done.cacheSize := by
  unfold xglParserFeedByte at h
  split at h
  · cases h
  · rename_i hroom
    split at h
    · split at h <;> cases h
    · -- the header state reports errors or asks for more bytes
      unfold parserFeedHeader at h
      dsimp only at h
      split at h
      · split at h <;> cases h
      split at h
      · split at h
        · cases h
        split at h
        · cases h
        split at h
        · cases h
        split at h
        · cases h
        split at h <;> cases h
      · cases h
    · dsimp only at h
      split at h <;> cases h
    · dsimp only at h
      split at h
      · split at h
        · cases h
        · cases h
          unfold Parser.push
          dsimp only
          omega
      · cases h

/-! ### Hops -/

/-- What `xgl_network_receive` did when it handed a frame to a PHY. -/
structure Forwarded (net : NetworkCtx) (allocOk : Bool) (frame : Bytes) (n : Nat)
    (header : WireHeader) (route : RouteItem) (forward : Bytes) : Prop where
  decode : xglWireDecodeHeader frame n = .ok header
  minLen : XGL_WIRE_BASE_HEADER_SIZE + XGL_CRC16_SIZE ≤ n
  lookup : xglRouteTableLookup net.routeTable header.targetId = some route
  ttl : 1 < header.ttl
  maxLen : n ≤ XGL_DATALINK_MAX_FRAME_SIZE
  routeMax : n ≤ route.maxFrameSize.toNat
  memory : n ≤ XGL_NETWORK_FORWARD_STACK_BUFFER_SIZE ∨ allocOk = true
  rewrite : networkRewriteForwardFrame frame n header = .ok forward

/-- A transmitted frame comes from the one path of `network_forward_remote` that
reaches the PHY. -/
theorem xglNetworkReceive_transmitted {net : NetworkCtx} {allocOk : Bool} {frame : Bytes} {n : Nat}
    {err : XglError} {phy : Nat} {forward : Bytes}
    (h : xglNetworkReceive net allocOk frame n = .transmitted err phy forward) :
    ∃ header route, Forwarded net allocOk frame n header route forward := by
  unfold xglNetworkReceive at h
  split at h
  · cases h
  rename_i metadata hmeta
  have hdecode : XGL_WIRE_BASE_HEADER_SIZE + XGL_CRC16_SIZE ≤ n ∧
      xglWireDecodeHeader frame n = .ok metadata.header := by
    unfold xglNetworkDecodeFrameMetadata at hmeta
    split at hmeta
    · cases hmeta
    split at hmeta
    · cases hmeta
    rename_i hlen header hheader
    dsimp only at hmeta
    split at hmeta
    · cases hmeta
    split at hmeta
    · cases hmeta
    · cases hmeta
      exact ⟨by omega, hheader⟩
  split at h
  · cases h
  split at h
  · unfold networkDeliverLocal at h
    split at h <;> cases h
  unfold networkForwardRemote at h
  split at h
  · cases h
  rename_i route hroute
  split at h
  · cases h
  rename_i httl
  split at h
  · cases h
  rename_i hsize
  split at h
  · cases h
  rename_i hmem
  split at h
  · cases h
  rename_i out hrewrite
  simp only [Bool.or_eq_true, decide_eq_true_eq, not_or, not_lt] at hsize
  simp only [Bool.and_eq_true, decide_eq_true_eq, Bool.not_eq_true', not_and,
    Bool.not_eq_false] at hmem
  split at h
  · cases h
    refine ⟨metadata.header, route, hdecode.2, hdecode.1, hroute, by simpa using httl, hsize.1,
      hsize.2, ?_, hrewrite⟩
    rcases Nat.lt_or_ge XGL_NETWORK_FORWARD_STACK_BUFFER_SIZE n with hbig | hsmall
    · exact .inr (hmem hbig)
    · exact .inl hsmall
  · cases h

/-- Some node on the way receives `frame` and hands `next` to a PHY. -/
def ForwardHop (frame next : Bytes) : Prop :=
  ∃ net allocOk err phy,
    xglNetworkReceive net allocOk frame frame.length = .transmitted err phy next

/-- Every further hop keeps what the first one kept. The induction is on the
number of hops. -/
theorem SameFrame.hops {a b c : Bytes} {n : Nat} (hab : SameFrame a n b)
    (hops : Relation.ReflTransGen ForwardHop b c) : SameFrame a n c := by
  induction hops with
  | refl => exact hab
  | tail _ hop ih =>
    obtain ⟨net, allocOk, err, phy, hrx⟩ := hop
    obtain ⟨header, route, hfwd⟩ := xglNetworkReceive_transmitted hrx
    exact ih.trans (networkRewriteForwardFrame_same hfwd.decode hfwd.minLen hfwd.rewrite).1

/-- Forwarding preserves a frame that the parser completed and the datalink
accepted. The bytes handed to the PHY have the same length, the same header with
the hop limit decreased by one, valid checksums and the same extension, payload
and tag bytes; a parser with the same cache size completes them; and after this
and any further hops every destination hands its provider the same input and
gets the same answer. With an expired hop limit, no route, an oversized frame or
no memory nothing is transmitted. -/
theorem forwarding_preserves_frame (parser done : Parser) (byte : UInt8) (now : UInt32)
    (ctx : DatalinkCtx) (frame : Bytes) (n : Nat) (net : NetworkCtx) (allocOk : Bool)
    (hcomplete : xglParserFeedByte parser byte now = (.complete, done))
    (hframe : xglParserGetFrame done = .ok (frame, n))
    (haccept : (xglDatalinkProcessFrame ctx frame n).1 = .ok) :
    (∀ err phy forward, xglNetworkReceive net allocOk frame n = .transmitted err phy forward →
      forward.length = n ∧
      (∃ header crc, xglWireDecodeHeader frame n = .ok header ∧ 1 < header.ttl ∧
        xglWireDecodeHeader forward n
          = .ok { header with ttl := header.ttl - 1, headerCrc16 := crc }) ∧
      xglCrc16Modbus (readBytes forward 0 (n - XGL_CRC16_SIZE))
        = xglDeserializeU16Le (forward.drop (n - XGL_CRC16_SIZE)) ∧
      (∀ i, XGL_WIRE_BASE_HEADER_SIZE ≤ i → i + XGL_CRC16_SIZE < n →
        byteAt forward i = byteAt frame i) ∧
      (∀ (next : Parser) (times : List UInt32), next.state = .magic → next.cacheLen = 0 →
        next.cache.length = next.cacheSize → next.cacheSize = done.cacheSize →
        times.length = n →
        ∃ next', parserFeedAll (forward.zip times) next
            = (next', List.replicate (n - 1) .incomplete ++ [.complete]) ∧
          xglParserGetFrame next' = .ok (next'.cache, n) ∧ next'.cache.take n = forward) ∧
      ∀ last, Relation.ReflTransGen ForwardHop forward last →
        ∀ (config : AuthConfig) (provider : AuthProvider),
          destinationAuthInput config provider last last.length
              = destinationAuthInput config provider frame n ∧
            destinationVerification config provider last last.length
              = destinationVerification config provider frame n) ∧
    ((wireHeaderOfBytes frame).ttl ≤ 1 ∨
        xglRouteTableLookup net.routeTable (wireHeaderOfBytes frame).targetId = none ∨
        XGL_DATALINK_MAX_FRAME_SIZE < n ∨
        (∃ route, xglRouteTableLookup net.routeTable (wireHeaderOfBytes frame).targetId
          = some route ∧ route.maxFrameSize.toNat < n) ∨
        (XGL_NETWORK_FORWARD_STACK_BUFFER_SIZE < n ∧ allocOk = false) →
      ∀ err phy forward,
        xglNetworkReceive net allocOk frame n ≠ .transmitted err phy forward) := by
  obtain ⟨metadata, spec, hauth⟩ := processFrame_ok_spec haccept
  have hfits : n ≤ done.cacheSize := by
    have hle := xglParserFeedByte_complete_fits hcomplete
    unfold xglParserGetFrame at hframe
    split at hframe
    · cases hframe
    · cases hframe
      exact hle
  constructor
  · intro err phy forward hrx
    obtain ⟨header, route, hfwd⟩ := xglNetworkReceive_transmitted hrx
    obtain ⟨hsame, crc, hheader⟩ :=
      networkRewriteForwardFrame_same hfwd.decode hfwd.minLen hfwd.rewrite
    refine ⟨hsame.length, ⟨header, crc, hfwd.decode, hfwd.ttl, hheader⟩, hsame.crc, ?_, ?_, ?_⟩
    · intro i hlo hhi
      unfold XGL_WIRE_BASE_HEADER_SIZE at hlo
      exact hsame.bytes i (by omega) (by omega) (by omega) hhi
    · intro next times hstate hempty hcache hsize htimes
      obtain ⟨_, hparsable⟩ := hsame.parsable spec hauth
      obtain ⟨next', hfeed, hget, htake⟩ := parser_completes_frame hparsable next times hstate
        hempty hcache (by rw [hsame.length, hsize]; exact hfits) (htimes.trans hsame.length.symm)
      rw [hsame.length] at hfeed hget htake
      exact ⟨next', hfeed, hget, htake⟩
    · intro last hops config provider
      have hlast := hsame.hops hops
      rw [hlast.length]
      exact hlast.destination_eq spec config provider
  · intro hblocked err phy forward hrx
    obtain ⟨header, route, hfwd⟩ := xglNetworkReceive_transmitted hrx
    have hof : wireHeaderOfBytes frame = header :=
      (xglWireDecodeHeader_eq_ok.mp hfwd.decode).2.2.2.2.2
    rw [hof] at hblocked
    -- the ways in which a hop is refused
    rcases hblocked with httl | hnone | hbig | ⟨other, hother, hbig⟩ | ⟨hbig, halloc⟩
    · exact absurd hfwd.ttl (by simpa using httl)
    · rw [hfwd.lookup] at hnone
      cases hnone
    · exact absurd hfwd.maxLen (by omega)
    · rw [hfwd.lookup] at hother
      cases hother
      exact absurd hfwd.routeMax (by omega)
    · rcases hfwd.memory with hsmall | hok
      · exact absurd hsmall (by omega)
      · rw [halloc] at hok
        cases hok

/-- Node 3 with a route to node 2. -/
def sampleForwarder : NetworkCtx where
  localId := 3
  routeTable :=
    [{ targetId := 2
       phy := some { id := 4, tx := some (fun _ => .ok) }
       maxFrameSize := 256 }]

/-- The parser that waits for the last byte of the sample frame. -/
def sampleParser : Parser where
  state := .crc
  cache := sampleFrame.take 43 ++ List.replicate 21 0
  cacheSize := 64
  cacheLen := 43
  index := 1
  timestamp := 5
  expectedHeaderLen := 39
  expectedPayloadLen := 2
  expectedAuthTagLen := 1

/-- The sample frame forwarded once: a destination verifies it as before. -/
theorem forwarding_preserves_frame_sample :
    xglNetworkReceive sampleForwarder true (sampleFrame ++ List.replicate 20 0) 44
        = .transmitted .ok 4 sampleFrameNextHop ∧
      ∀ (config : AuthConfig) (provider : AuthProvider),
        destinationVerification config provider sampleFrameNextHop 44
          = destinationVerification config provider (sampleFrame ++ List.replicate 20 0) 44 := by
  have hrx : xglNetworkReceive sampleForwarder true (sampleFrame ++ List.replicate 20 0) 44
      = .transmitted .ok 4 sampleFrameNextHop := by decide +kernel
  refine ⟨hrx, fun config provider => ?_⟩
  have hkept := (forwarding_preserves_frame sampleParser
    (xglParserFeedByte sampleParser 87 6).2 87 6 sampleDatalinkCtx
    (sampleFrame ++ List.replicate 20 0) 44 sampleForwarder true (by decide +kernel)
    (by decide +kernel) (by decide +kernel)).1 .ok 4 sampleFrameNextHop hrx
  exact (hkept.2.2.2.2.2 sampleFrameNextHop .refl config provider).2

end XgenLink
