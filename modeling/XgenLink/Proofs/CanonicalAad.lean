import XgenLink.Datalink.Metadata

/-!
# `XgenLink.Proofs.CanonicalAad`: what is verified determines the frame

A provider verifies a key, a list of authenticated bytes, a payload and a tag. They are cut out
of the frame at boundaries that the frame itself announces: the header length, the payload
length and the tag length of the provider. If two frames could be cut differently into the same
parts, a tag for one would pass for the other.

The cut is unambiguous. Two accepted frames that give the provider the same input agree
everywhere outside the bytes a forwarder may rewrite (hop limit and header checksum, which are
zeroed before they are verified) and the frame checksum.

* `RxMetadataSpec.canonicalAad`, `RxMetadataSpec.authInput`: what an accepted frame is cut into.
* `verified_input_determines_frame`: the theorem about two frames.
-/

set_option autoImplicit false

namespace XgenLink

section Canonical

variable {frame : Bytes} {authRequired : Bool} {key : UInt32} {metadata : DatalinkRxMetadata}

/-- The header and extensions of an accepted frame are canonicalised by zeroing. -/
theorem RxMetadataSpec.canonicalAad {frameLen : Nat}
    (spec : RxMetadataSpec frame frameLen authRequired key metadata) :
    wireAuthCanonicalAad (readBytes frame 0 metadata.header.headerLen.toNat)
      = .ok (zeroMutableHeaderBytes (readBytes frame 0 metadata.header.headerLen.toNat)) := by
  obtain ⟨_, h0, h1, _, hvalid, _⟩ := xglWireDecodeHeader_eq_ok.mp spec.header
  have hge := wireHeaderFieldsValid.headerLen_ge hvalid
  have hmax : metadata.header.headerLen.toNat < 256 := metadata.header.headerLen.toNat_lt
  have hpos : 1 < metadata.header.headerLen.toNat := by
    unfold XGL_WIRE_BASE_HEADER_SIZE at hge
    omega
  apply wireAuthCanonicalAad_of_header
  · rw [length_readBytes]
    exact hge
  · rw [length_readBytes]
    omega
  · rw [byteAt_readBytes _ _ _ _ (by omega), h0]
  · rw [byteAt_readBytes _ _ _ _ hpos, h1]

/-- What the provider is handed for an accepted frame, with the boundaries of its
parts. -/
theorem RxMetadataSpec.authInput {provider : AuthProvider} {input : AuthInput}
    (spec : RxMetadataSpec frame frame.length authRequired key metadata)
    (h : wireAuthInput frame (frame.length - XGL_CRC16_SIZE) metadata.header.headerLen.toNat
      metadata.payloadLen metadata.authKeyId provider = .ok input) :
    input.aad = zeroMutableHeaderBytes (readBytes frame 0 metadata.header.headerLen.toNat) ∧
      input.payload
        = readBytes frame metadata.header.headerLen.toNat metadata.payloadLen ∧
      input.tag = readBytes frame (metadata.header.headerLen.toNat + metadata.payloadLen)
        provider.tagLen ∧
      frame.length = metadata.header.headerLen.toNat + metadata.payloadLen + provider.tagLen
        + XGL_CRC16_SIZE := by
  obtain ⟨_, _, hlen, haad, _, hpayload, htag⟩ := wireAuthInput_eq_ok h
  rw [spec.canonicalAad] at haad
  injection haad with haad
  have hmin := spec.minLen
  exact ⟨haad.symm, hpayload, htag, by omega⟩

end Canonical

/-- Two frames that both pass metadata validation, and for which the provider is
handed the same key, authenticated bytes, payload and tag, have the same length
and the same bytes except the hop limit, the header checksum and the frame
checksum. The two receivers may differ in their configuration and provider. -/
theorem verified_input_determines_frame (f g : Bytes) (authRequiredF authRequiredG : Bool)
    (keyF keyG : UInt32) (metaF metaG : DatalinkRxMetadata) (providerF providerG : AuthProvider)
    (input : AuthInput)
    (hf : xglDatalinkDecodeRxMetadata f f.length authRequiredF keyF = (.ok, metaF))
    (hg : xglDatalinkDecodeRxMetadata g g.length authRequiredG keyG = (.ok, metaG))
    (hinF : wireAuthInput f (f.length - XGL_CRC16_SIZE) metaF.header.headerLen.toNat
      metaF.payloadLen metaF.authKeyId providerF = .ok input)
    (hinG : wireAuthInput g (g.length - XGL_CRC16_SIZE) metaG.header.headerLen.toNat
      metaG.payloadLen metaG.authKeyId providerG = .ok input) :
    f.length = g.length ∧
      ∀ i, i ≠ 6 → i ≠ 22 → i ≠ 23 → i + XGL_CRC16_SIZE < f.length → byteAt f i = byteAt g i := by
  have specF := xglDatalinkDecodeRxMetadata_eq_ok hf
  have specG := xglDatalinkDecodeRxMetadata_eq_ok hg
  obtain ⟨haadF, hpayF, htagF, hlenF⟩ := specF.authInput hinF
  obtain ⟨haadG, hpayG, htagG, hlenG⟩ := specG.authInput hinG
  -- the three parts have the same lengths in both frames, so the cuts agree
  have hheader : metaF.header.headerLen.toNat = metaG.header.headerLen.toNat := by
    have hF := congrArg List.length haadF
    have hG := congrArg List.length haadG
    rw [length_zeroMutableHeaderBytes, length_readBytes] at hF hG
    omega
  have hpayload : metaF.payloadLen = metaG.payloadLen := by
    have hF := congrArg List.length hpayF
    have hG := congrArg List.length hpayG
    rw [length_readBytes] at hF hG
    omega
  have htag : providerF.tagLen = providerG.tagLen := by
    have hF := congrArg List.length htagF
    have hG := congrArg List.length htagG
    rw [length_readBytes] at hF hG
    omega
  rw [haadF, ← hheader] at haadG
  rw [hpayF, ← hheader, ← hpayload] at hpayG
  rw [htagF, ← hheader, ← hpayload, ← htag] at htagG
  refine ⟨by omega, ?_⟩
  intro i h6 h22 h23 hi
  -- below the header length the authenticated bytes decide, above it payload and tag
  rcases Nat.lt_or_ge i metaF.header.headerLen.toNat with hin | hout
  · have heq := byteAt_eq_of_zeroMutableHeaderBytes_eq haadG i h6 h22 h23
    rwa [byteAt_readBytes _ _ _ _ hin, byteAt_readBytes _ _ _ _ hin, Nat.zero_add] at heq
  · rcases Nat.lt_or_ge i (metaF.header.headerLen.toNat + metaF.payloadLen) with hpay | htail
    · exact byteAt_eq_of_readBytes_eq hpayG i hout hpay
    · exact byteAt_eq_of_readBytes_eq htagG i htail (by omega)

/-- A provider whose only tag is the byte `0x77`. -/
def sampleProvider : AuthProvider where
  sign := some fun _ _ _ _ => .ok [0x77]
  verify := some fun input => (.ok, input.tag == [0x77])
  tagLen := 1

/-- A frame of node 1 for node 2 with two payload bytes, signed under key 7. -/
def sampleFrame : Bytes :=
  [0xA5, 0x5A, 2, 39, 1, 18, 8, 0, 1, 0, 2, 0, 0, 0, 0, 0, 5, 0, 0, 0, 2, 0, 95, 195,
    5, 13, 7, 0, 0, 0, 5, 0, 0, 0, 0, 0, 0, 0, 1, 170, 187, 119, 187, 87]

/-- The same frame one hop later. -/
def sampleFrameNextHop : Bytes :=
  [0xA5, 0x5A, 2, 39, 1, 18, 7, 0, 1, 0, 2, 0, 0, 0, 0, 0, 5, 0, 0, 0, 2, 0, 108, 212,
    5, 13, 7, 0, 0, 0, 5, 0, 0, 0, 0, 0, 0, 0, 1, 170, 187, 119, 139, 152]

/-- The metadata of a sample frame. -/
def sampleMetadata (frame : Bytes) : DatalinkRxMetadata :=
  (xglDatalinkDecodeRxMetadata frame frame.length true 7).2

/-- What the sample provider is handed for either sample frame. -/
def sampleAuthInput : AuthInput where
  keyId := 7
  aad := zeroMutableHeaderBytes (sampleFrame.take 39)
  payload := [170, 187]
  tag := [0x77]

/-- The frame before and after a hop: different bytes, the same verified input. -/
theorem verified_input_determines_frame_next_hop :
    sampleFrame ≠ sampleFrameNextHop ∧ sampleFrame.length = sampleFrameNextHop.length ∧
      ∀ i, i ≠ 6 → i ≠ 22 → i ≠ 23 → i + XGL_CRC16_SIZE < sampleFrame.length →
        byteAt sampleFrame i = byteAt sampleFrameNextHop i :=
  ⟨by decide,
    verified_input_determines_frame sampleFrame sampleFrameNextHop true true 7 7
      (sampleMetadata sampleFrame) (sampleMetadata sampleFrameNextHop) sampleProvider
      sampleProvider sampleAuthInput (by decide +kernel) (by decide +kernel)
      (by decide +kernel) (by decide +kernel)⟩

end XgenLink
