import XgenLink.Wire.Frame

/-!
# `XgenLink.Datalink.Metadata`: validation of a received frame

`xgl_datalink_decode_rx_metadata` checks a complete frame before anything else looks at it:

* the bounds of its length and the two magic bytes;
* the header with its checksum;
* the extensions, of which SECURITY_EXT and SESSION_EXT are read and the others passed over;
* the checksum of the frame;
* the length equation over the fields inside the frame.

What is found on the way is collected in a record, which the caller reads also when the frame is
refused: the error callbacks depend on it.

* `xglDatalinkDecodeRxMetadata_eq_ok`: what an accepted frame guarantees.
-/

set_option autoImplicit false

namespace XgenLink

/-- `xgl_datalink_rx_metadata_t`. -/
structure DatalinkRxMetadata where
  header : WireHeader := {}
  authTagLen : UInt8 := 0
  hasSecurityExt : Bool := false
  authenticated : Bool := false
  shouldVerifyAuth : Bool := false
  headerCrcFailed : Bool := false
  frameCrcFailed : Bool := false
  authKeyRejected : Bool := false
  authKeyId : UInt32 := 0
  sessionEpoch : UInt32 := 0
  payloadLen : Nat := 0
  deriving DecidableEq, Repr, Inhabited

/-- The loop of `datalink_decode_rx_extensions`; `final` is the code that ended
the walk over the extensions. -/
def datalinkRxExtensionLoop (authRequired : Bool) (requiredAuthKeyId : UInt32)
    (final : XglError) : List WireExt → DatalinkRxMetadata → XglError × DatalinkRxMetadata
  -- only the end of the area ends the walk well
  | [], metadata => (if final == .notFound then .ok else .invalidFrame, metadata)
  | ext :: rest, metadata =>
    if ext.type == XGL_WIRE_EXT_SECURITY then
      match xglWireDecodeSecurityExtValue ext.value with
      | .error _ => (.invalidFrame, metadata)
      | .ok security =>
        -- the key id is kept even when it is the wrong one
        let metadata := { metadata with authKeyId := security.keyId }
        if authRequired && metadata.authKeyId != requiredAuthKeyId then
          (.invalidFrame, { metadata with authKeyRejected := true })
        else
          -- a later SECURITY_EXT overwrites what an earlier one said
          datalinkRxExtensionLoop authRequired requiredAuthKeyId final rest
            { metadata with authTagLen := security.tagLen, hasSecurityExt := true }
    else if ext.type == XGL_WIRE_EXT_SESSION then
      match xglWireDecodeSessionExtValue ext.value with
      | .error _ => (.invalidFrame, metadata)
      | .ok session =>
        datalinkRxExtensionLoop authRequired requiredAuthKeyId final rest
          { metadata with sessionEpoch := session.1 }
    else datalinkRxExtensionLoop authRequired requiredAuthKeyId final rest metadata

/-- `datalink_decode_rx_extensions`. -/
def datalinkDecodeRxExtensions (frameBuffer : Bytes) (header : WireHeader) (authRequired : Bool)
    (requiredAuthKeyId : UInt32) (metadata : DatalinkRxMetadata) :
    XglError × DatalinkRxMetadata :=
  -- no extension area
  if header.headerLen.toNat ≤ XGL_WIRE_BASE_HEADER_SIZE then (.ok, metadata)
  else
    let exts := wireExts (frameBuffer.drop XGL_WIRE_BASE_HEADER_SIZE)
      (header.headerLen.toNat - XGL_WIRE_BASE_HEADER_SIZE)
    datalinkRxExtensionLoop authRequired requiredAuthKeyId exts.2 exts.1 metadata

/-- The part of `xgl_datalink_decode_rx_metadata` behind the extensions: flags,
frame checksum and the length equation. -/
def datalinkCheckRxFrame (frameBuffer : Bytes) (frameLen : Nat)
    (metadata : DatalinkRxMetadata) : XglError × DatalinkRxMetadata :=
  let authenticated := metadata.header.flags &&& XGL_WIRE_FLAG_AUTHENTICATED != 0
  let metadata :=
    { metadata with
      authenticated := authenticated
      -- either one is enough to have the frame verified
      shouldVerifyAuth := authenticated || metadata.hasSecurityExt }
  -- the last two bytes are the checksum
  let crcOffset := frameLen - XGL_CRC16_SIZE
  if xglCrc16Modbus (readBytes frameBuffer 0 crcOffset) !=
      xglDeserializeU16Le (frameBuffer.drop crcOffset) then
    (.crcFailed, { metadata with frameCrcFailed := true })
  else
    let metadata := { metadata with payloadLen := metadata.header.payloadLen.toNat }
    let expectedFrameLen := metadata.header.headerLen.toNat + metadata.payloadLen +
      metadata.authTagLen.toNat + XGL_CRC16_SIZE
    -- nothing may stand between the tag and the checksum
    if frameLen != expectedFrameLen then (.invalidFrame, metadata) else (.ok, metadata)

/-- `xgl_datalink_decode_rx_metadata`. -/
def xglDatalinkDecodeRxMetadata (frameBuffer : Bytes) (frameLen : Nat) (authRequired : Bool)
    (requiredAuthKeyId : UInt32) : XglError × DatalinkRxMetadata :=
  if frameLen < XGL_WIRE_BASE_HEADER_SIZE + XGL_CRC16_SIZE ||
      frameLen > XGL_DATALINK_MAX_FRAME_SIZE then (.invalidFrame, {})
  else if byteAt frameBuffer 0 != XGL_WIRE_MAGIC_0 ||
      byteAt frameBuffer 1 != XGL_WIRE_MAGIC_1 then (.invalidFrame, {})
  else
    match xglWireDecodeHeader frameBuffer frameLen with
    -- any error of the header is reported as a checksum error
    | .error _ => (.crcFailed, { headerCrcFailed := true })
    | .ok header =>
      match datalinkDecodeRxExtensions frameBuffer header authRequired requiredAuthKeyId
          { header := header } with
      | (.ok, metadata) => datalinkCheckRxFrame frameBuffer frameLen metadata
      | (err, metadata) => (err, metadata)

/-! ### What an accepted frame says -/

/-- The SECURITY_EXT records among the extensions. -/
def securityExts (exts : List WireExt) : List WireExt :=
  exts.filter fun ext => ext.type == XGL_WIRE_EXT_SECURITY

/-- The extensions between the base header and the payload of a frame. -/
def frameExtensions (frame : Bytes) : List WireExt :=
  (wireExts (frame.drop XGL_WIRE_BASE_HEADER_SIZE)
    ((wireHeaderOfBytes frame).headerLen.toNat - XGL_WIRE_BASE_HEADER_SIZE)).1

/-- What the extension loop does to the authentication fields when it succeeds:
nothing without a SECURITY_EXT, and otherwise the last one decides. -/
structure ExtensionLoopSpec (authRequired : Bool) (requiredAuthKeyId : UInt32)
    (exts : List WireExt) (before after : DatalinkRxMetadata) : Prop where
  header : after.header = before.header
  payloadLen : after.payloadLen = before.payloadLen
  security :
    (securityExts exts = [] ∧ after.hasSecurityExt = before.hasSecurityExt ∧
      after.authKeyId = before.authKeyId ∧ after.authTagLen = before.authTagLen) ∨
    ∃ ext security, (securityExts exts).getLast? = some ext ∧
      xglWireDecodeSecurityExtValue ext.value = .ok security ∧
      after.hasSecurityExt = true ∧ after.authKeyId = security.keyId ∧
      after.authTagLen = security.tagLen ∧
      (authRequired = true → security.keyId = requiredAuthKeyId)

/-- The loop over the extensions meets its specification. The induction is on
the records still to come; the record at the head only counts when no later
SECURITY_EXT overrides it. -/
theorem datalinkRxExtensionLoop_ok {authRequired : Bool} {key : UInt32} {final : XglError}
    {exts : List WireExt} {before after : DatalinkRxMetadata}
    (h : datalinkRxExtensionLoop authRequired key final exts before = (.ok, after)) :
    final = .notFound ∧ ExtensionLoopSpec authRequired key exts before after := by
  induction exts generalizing before with
  | nil =>
    simp only [datalinkRxExtensionLoop, Prod.mk.injEq] at h
    obtain ⟨hfinal, rfl⟩ := h
    refine ⟨?_, ⟨rfl, rfl, .inl ⟨rfl, rfl, rfl, rfl⟩⟩⟩
    by_contra hne
    simp [hne] at hfinal
  | cons ext rest ih =>
    unfold datalinkRxExtensionLoop at h
    by_cases hsec : ext.type = XGL_WIRE_EXT_SECURITY
    · have hfilter : securityExts (ext :: rest) = ext :: securityExts rest := by
        simp [securityExts, hsec]
      rw [if_pos (by simp [hsec])] at h
      cases hdec : xglWireDecodeSecurityExtValue ext.value with
      | error err => simp [hdec] at h
      | ok security =>
        simp only [hdec] at h
        split at h
        · simp at h
        · rename_i hkey
          obtain ⟨hfinal, hheader, hpayload, hcase⟩ := ih h
          refine ⟨hfinal, hheader, hpayload, .inr ?_⟩
          rcases hcase with ⟨hnone, hhas, hid, htag⟩ | ⟨last, lastSec, hlast, hrest⟩
          · refine ⟨ext, security, by rw [hfilter, hnone]; rfl, hdec, hhas, hid, htag, ?_⟩
            intro hreq
            simpa [hreq] using hkey
          · refine ⟨last, lastSec, ?_, hrest⟩
            rw [hfilter, List.getLast?_cons, hlast]
            rfl
    · have hfilter : securityExts (ext :: rest) = securityExts rest := by
        simp [securityExts, hsec]
      rw [if_neg (by simp [hsec])] at h
      split at h
      · split at h
        · simp at h
        · obtain ⟨hfinal, hheader, hpayload, hcase⟩ := ih h
          rw [← hfilter] at hcase
          exact ⟨hfinal, hheader, hpayload, hcase⟩
      · obtain ⟨hfinal, hheader, hpayload, hcase⟩ := ih h
        rw [← hfilter] at hcase
        exact ⟨hfinal, hheader, hpayload, hcase⟩

/-- What `xgl_datalink_decode_rx_metadata` guarantees about a frame it accepts. -/
structure RxMetadataSpec (frame : Bytes) (frameLen : Nat) (authRequired : Bool)
    (requiredAuthKeyId : UInt32) (metadata : DatalinkRxMetadata) : Prop where
  header : xglWireDecodeHeader frame frameLen = .ok metadata.header
  minLen : XGL_WIRE_BASE_HEADER_SIZE + XGL_CRC16_SIZE ≤ frameLen
  maxLen : frameLen ≤ XGL_DATALINK_MAX_FRAME_SIZE
  payloadLen : metadata.payloadLen = metadata.header.payloadLen.toNat
  lengths : frameLen = metadata.header.headerLen.toNat + metadata.payloadLen +
    metadata.authTagLen.toNat + XGL_CRC16_SIZE
  crc : xglCrc16Modbus (readBytes frame 0 (frameLen - XGL_CRC16_SIZE)) =
    xglDeserializeU16Le (frame.drop (frameLen - XGL_CRC16_SIZE))
  authenticated :
    metadata.authenticated = (metadata.header.flags &&& XGL_WIRE_FLAG_AUTHENTICATED != 0)
  shouldVerifyAuth :
    metadata.shouldVerifyAuth = (metadata.authenticated || metadata.hasSecurityExt)
  walk : (wireExts (frame.drop XGL_WIRE_BASE_HEADER_SIZE)
    (metadata.header.headerLen.toNat - XGL_WIRE_BASE_HEADER_SIZE)).2 = .notFound
  loop : ∃ before, datalinkRxExtensionLoop authRequired requiredAuthKeyId .notFound
      (frameExtensions frame) { header := metadata.header } = (.ok, before) ∧
    before.authTagLen = metadata.authTagLen ∧ before.sessionEpoch = metadata.sessionEpoch
  security :
    (securityExts (frameExtensions frame) = [] ∧ metadata.hasSecurityExt = false ∧
      metadata.authTagLen = 0) ∨
    ∃ ext security, (securityExts (frameExtensions frame)).getLast? = some ext ∧
      xglWireDecodeSecurityExtValue ext.value = .ok security ∧
      metadata.hasSecurityExt = true ∧ metadata.authKeyId = security.keyId ∧
      metadata.authTagLen = security.tagLen ∧
      (authRequired = true → security.keyId = requiredAuthKeyId)

/-- The last checks keep the extension fields and add the length equation. -/
theorem datalinkCheckRxFrame_ok {frame : Bytes} {frameLen : Nat}
    {before after : DatalinkRxMetadata}
    (h : datalinkCheckRxFrame frame frameLen before = (.ok, after)) :
    xglCrc16Modbus (readBytes frame 0 (frameLen - XGL_CRC16_SIZE)) =
        xglDeserializeU16Le (frame.drop (frameLen - XGL_CRC16_SIZE)) ∧
      frameLen = before.header.headerLen.toNat + before.header.payloadLen.toNat +
        before.authTagLen.toNat + XGL_CRC16_SIZE ∧
      after = { before with
        authenticated := before.header.flags &&& XGL_WIRE_FLAG_AUTHENTICATED != 0
        shouldVerifyAuth :=
          (before.header.flags &&& XGL_WIRE_FLAG_AUTHENTICATED != 0) || before.hasSecurityExt
        payloadLen := before.header.payloadLen.toNat } := by
  unfold datalinkCheckRxFrame at h
  dsimp only at h
  split at h
  · cases h
  · split at h
    · cases h
    · rename_i hcrc hlen
      injection h with _ hafter
      simp only [bne_iff_ne, ne_eq, not_not] at hcrc hlen
      exact ⟨hcrc, hlen, hafter.symm⟩

/-- An accepted frame meets the specification. -/
theorem xglDatalinkDecodeRxMetadata_eq_ok {frame : Bytes} {frameLen : Nat}
    {authRequired : Bool} {key : UInt32} {metadata : DatalinkRxMetadata}
    (h : xglDatalinkDecodeRxMetadata frame frameLen authRequired key = (.ok, metadata)) :
    RxMetadataSpec frame frameLen authRequired key metadata := by
  unfold xglDatalinkDecodeRxMetadata at h
  split at h
  · cases h
  rename_i hbounds
  split at h
  · cases h
  split at h
  · cases h
  rename_i header hheader
  split at h
  · rename_i before hext
    obtain ⟨hcrc, hlen, rfl⟩ := datalinkCheckRxFrame_ok h
    simp only [Bool.or_eq_true, decide_eq_true_eq, not_or, not_lt] at hbounds
    have hof : wireHeaderOfBytes frame = header := (xglWireDecodeHeader_eq_ok.mp hheader).2.2.2.2.2
    have hloop : (wireExts (frame.drop XGL_WIRE_BASE_HEADER_SIZE)
          (header.headerLen.toNat - XGL_WIRE_BASE_HEADER_SIZE)).2 = .notFound ∧
        datalinkRxExtensionLoop authRequired key .notFound (frameExtensions frame)
          { header := header } = (.ok, before) := by
      unfold datalinkDecodeRxExtensions at hext
      unfold frameExtensions
      rw [hof]
      split at hext
      · rename_i hshort
        cases hext
        rw [Nat.sub_eq_zero_of_le hshort]
        exact ⟨rfl, rfl⟩
      · obtain ⟨hfinal, _⟩ := datalinkRxExtensionLoop_ok hext
        dsimp only at hext
        rw [hfinal] at hext
        exact ⟨hfinal, hext⟩
    have hspec := (datalinkRxExtensionLoop_ok hloop.2).2
    have hhdr : before.header = header := hspec.header
    exact
      { header := by rw [hheader, ← hhdr]
        minLen := hbounds.1
        maxLen := hbounds.2
        payloadLen := rfl
        lengths := hlen
        crc := hcrc
        authenticated := rfl
        shouldVerifyAuth := rfl
        walk := by
          dsimp only
          rw [hhdr]
          exact hloop.1
        loop := by
          dsimp only
          rw [hhdr]
          exact ⟨before, hloop.2, rfl, rfl⟩
        security := by
          rcases hspec.security with ⟨hnone, hhas, _, htag⟩ | hsome
          · exact .inl ⟨hnone, hhas, htag⟩
          · exact .inr hsome }
  · rename_i hne hext
    cases h
    exact (hne rfl).elim

end XgenLink
