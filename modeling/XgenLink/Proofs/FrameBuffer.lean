import XgenLink.Network.Receive
import XgenLink.Proofs.AuthenticationGate

/-!
# `XgenLink.Proofs.FrameBuffer`: the layers read a frame and nothing behind it

The parser collects a frame in a cache, and hands the layers above a pointer to this cache with
the length of the frame. The cache is larger than most frames, and behind the frame it holds what
earlier frames left there. The models of the layers above take a buffer and a length as the source
does, so their results might depend on these bytes.

They do not. Datalink and network layer do with the cache what they do with the frame alone, as
soon as the header announces no more than the frame has. The parser only completes frames for
which that holds.

* `SameBuffer`: two buffers that hold the same frame.
* `SameBuffer.rxMetadata`, `SameBuffer.authInput`: what the datalink reads of it.
* `SameBuffer.processFrame`, `SameBuffer.networkReceive`: the layers.
-/

set_option autoImplicit false

namespace XgenLink

/-- Both buffers begin with the same `n` bytes, and the second holds all that its header
announces. -/
structure SameBuffer (a b : Bytes) (n : Nat) : Prop where
  bytes : ∀ i, i < n → byteAt a i = byteAt b i
  room : ∀ header, xglWireDecodeHeader b n = .ok header →
    header.headerLen.toNat + header.payloadLen.toNat + XGL_CRC16_SIZE ≤ n

section Buffers

variable {a b : Bytes} {n : Nat}

/-- The decoded headers are the same. -/
theorem SameBuffer.decode (h : SameBuffer a b n) :
    xglWireDecodeHeader a n = xglWireDecodeHeader b n := by
  by_cases hshort : n < XGL_WIRE_BASE_HEADER_SIZE
  · unfold xglWireDecodeHeader
    rw [if_pos hshort, if_pos hshort]
  · exact xglWireDecodeHeader_congr (by omega) (by omega) fun i hi => h.bytes i (by omega)

/-- A read inside the frame gives the same bytes. -/
theorem SameBuffer.readBytes (h : SameBuffer a b n) {offset len : Nat} (hfits : offset + len ≤ n) :
    readBytes a offset len = readBytes b offset len :=
  readBytes_congr fun i _ hi => h.bytes i (by omega)

/-- So are the extensions of a header that fits. -/
theorem SameBuffer.wireExts (h : SameBuffer a b n) {len : Nat}
    (hfits : XGL_WIRE_BASE_HEADER_SIZE + len ≤ n) :
    wireExts (a.drop XGL_WIRE_BASE_HEADER_SIZE) len
      = wireExts (b.drop XGL_WIRE_BASE_HEADER_SIZE) len := by
  apply wireExts_congr
  apply readBytes_congr
  intro i _ hi
  rw [byteAt_drop, byteAt_drop]
  exact h.bytes _ (by omega)

/-- The bounds of the parts of a frame. -/
theorem SameBuffer.fits (h : SameBuffer a b n) {header : WireHeader}
    (hdecode : xglWireDecodeHeader b n = .ok header) :
    XGL_WIRE_BASE_HEADER_SIZE ≤ header.headerLen.toNat ∧
      header.headerLen.toNat + header.payloadLen.toNat + XGL_CRC16_SIZE ≤ n := by
  obtain ⟨-, -, -, -, hvalid, -⟩ := xglWireDecodeHeader_eq_ok.mp hdecode
  exact ⟨wireHeaderFieldsValid.headerLen_ge hvalid, h.room header hdecode⟩

/-- The datalink reads the same metadata. -/
theorem SameBuffer.rxMetadata (h : SameBuffer a b n) (authRequired : Bool) (key : UInt32) :
    xglDatalinkDecodeRxMetadata a n authRequired key
      = xglDatalinkDecodeRxMetadata b n authRequired key := by
  unfold xglDatalinkDecodeRxMetadata
  split
  · rfl
  rename_i hbounds
  have hmin : XGL_WIRE_BASE_HEADER_SIZE + XGL_CRC16_SIZE ≤ n := by
    simp only [Bool.or_eq_true, decide_eq_true_eq, not_or, not_lt] at hbounds
    exact hbounds.1
  simp only [XGL_WIRE_BASE_HEADER_SIZE, XGL_CRC16_SIZE] at hmin
  rw [h.bytes 0 (by omega), h.bytes 1 (by omega), h.decode]
  split
  · rfl
  cases hdecode : xglWireDecodeHeader b n with
  | error err => rfl
  | ok header =>
    obtain ⟨hlow, hroom⟩ := h.fits hdecode
    have hexts := @SameBuffer.wireExts _ _ _ h (header.headerLen.toNat - XGL_WIRE_BASE_HEADER_SIZE)
      (by omega)
    have hcrc := @SameBuffer.readBytes _ _ _ h 0 (n - XGL_CRC16_SIZE) (by omega)
    have hfield : xglDeserializeU16Le (a.drop (n - XGL_CRC16_SIZE))
        = xglDeserializeU16Le (b.drop (n - XGL_CRC16_SIZE)) := by
      simp only [xglDeserializeU16Le, byteAt_drop, XGL_CRC16_SIZE]
      rw [h.bytes _ (by omega), h.bytes _ (by omega)]
    simp only [datalinkDecodeRxExtensions, datalinkCheckRxFrame, hexts, hcrc, hfield]

/-- The provider is asked the same. -/
theorem SameBuffer.authInput (h : SameBuffer a b n) (aadLen payloadLen : Nat) (keyId : UInt32)
    (provider : AuthProvider) :
    wireAuthInput a (n - XGL_CRC16_SIZE) aadLen payloadLen keyId provider
      = wireAuthInput b (n - XGL_CRC16_SIZE) aadLen payloadLen keyId provider := by
  unfold wireAuthInput
  split
  · rfl
  dsimp only
  split
  · rfl
  rename_i hroom
  rw [@SameBuffer.readBytes _ _ _ h 0 aadLen (by omega),
    @SameBuffer.readBytes _ _ _ h aadLen payloadLen (by omega),
    @SameBuffer.readBytes _ _ _ h (aadLen + payloadLen) (n - XGL_CRC16_SIZE - (aadLen + payloadLen))
      (by omega)]

/-- Verification and replay check do the same. -/
theorem SameBuffer.verifyFrame (h : SameBuffer a b n) (ctx : DatalinkCtx) (provider : AuthProvider)
    (metadata : DatalinkRxMetadata) :
    ∃ err next calls, ∃ up : Bool, (∀ buffer len, DatalinkEvent.upperReceive buffer len ∉ calls) ∧
      datalinkVerifyFrame ctx provider a n metadata
        = (err, next, calls ++ if up then datalinkPassUp ctx a n else []) ∧
      datalinkVerifyFrame ctx provider b n metadata
        = (err, next, calls ++ if up then datalinkPassUp ctx b n else []) := by
  have hverify : xglWireVerifyAuthTrailer a (n - XGL_CRC16_SIZE) metadata.header.headerLen.toNat
        metadata.payloadLen metadata.authKeyId provider
      = xglWireVerifyAuthTrailer b (n - XGL_CRC16_SIZE) metadata.header.headerLen.toNat
        metadata.payloadLen metadata.authKeyId provider := by
    simp only [xglWireVerifyAuthTrailer, h.authInput]
  have hquiet : ∀ input err valid buffer len,
      DatalinkEvent.upperReceive buffer len ∉ [DatalinkEvent.verify input err valid] :=
    fun input err valid buffer len hmem => by cases List.mem_singleton.mp hmem
  simp only [datalinkVerifyFrame, hverify, h.authInput]
  cases hinput : wireAuthInput b (n - XGL_CRC16_SIZE) metadata.header.headerLen.toNat
      metadata.payloadLen metadata.authKeyId provider with
  | error err =>
    dsimp only
    split
    · exact ⟨_, _, [], false, fun _ _ => List.not_mem_nil, rfl, rfl⟩
    split
    · exact ⟨_, _, [], false, fun _ _ => List.not_mem_nil, rfl, rfl⟩
    · exact ⟨_, _, [], true, fun _ _ => List.not_mem_nil, rfl, rfl⟩
  | ok input =>
    dsimp only
    split
    · exact ⟨_, _, [_], false, hquiet _ _ _, rfl, rfl⟩
    split
    · exact ⟨_, _, [_], false, hquiet _ _ _, rfl, rfl⟩
    · exact ⟨_, _, [_], true, hquiet _ _ _, rfl, rfl⟩

/-- `xgl_datalink_process_frame` does the same, and what it hands up is the buffer it was given. -/
theorem SameBuffer.processFrame (h : SameBuffer a b n) (ctx : DatalinkCtx) :
    ∃ err next calls, ∃ up : Bool, (∀ buffer len, DatalinkEvent.upperReceive buffer len ∉ calls) ∧
      xglDatalinkProcessFrame ctx a n
        = (err, next, calls ++ if up then datalinkPassUp ctx a n else []) ∧
      xglDatalinkProcessFrame ctx b n
        = (err, next, calls ++ if up then datalinkPassUp ctx b n else []) := by
  have hnone : ∀ err, ∃ err' next calls, ∃ up : Bool,
      (∀ buffer len, DatalinkEvent.upperReceive buffer len ∉ calls) ∧
      ((err, ctx, []) : XglError × DatalinkCtx × List DatalinkEvent)
        = (err', next, calls ++ if up then datalinkPassUp ctx a n else []) ∧
      (err, ctx, []) = (err', next, calls ++ if up then datalinkPassUp ctx b n else []) :=
    fun err => ⟨err, ctx, [], false, fun _ _ => List.not_mem_nil, rfl, rfl⟩
  unfold xglDatalinkProcessFrame
  rw [h.rxMetadata]
  split
  · rename_i metadata _
    split
    · split
      · split
        · exact hnone _
        · exact h.verifyFrame ctx _ metadata
      · exact hnone _
    · exact ⟨.ok, ctx, [], true, fun _ _ => List.not_mem_nil, rfl, rfl⟩
  · rename_i err metadata _ _
    refine ⟨err, ctx, datalinkReportRxError ctx n metadata, false,
      upperReceive_not_mem_datalinkReportRxError ctx n metadata, ?_, ?_⟩ <;> simp

/-- The network layer decodes the same. -/
theorem SameBuffer.frameMetadata (h : SameBuffer a b n) :
    xglNetworkDecodeFrameMetadata a n = xglNetworkDecodeFrameMetadata b n := by
  unfold xglNetworkDecodeFrameMetadata
  rw [h.decode]
  cases hdecode : xglWireDecodeHeader b n with
  | error err => rfl
  | ok header =>
    obtain ⟨hlow, hroom⟩ := h.fits hdecode
    have hexts := @SameBuffer.wireExts _ _ _ h (header.headerLen.toNat - XGL_WIRE_BASE_HEADER_SIZE)
      (by omega)
    simp only [xglNetworkDecodeExtMetadata, hexts,
      @SameBuffer.readBytes _ _ _ h XGL_WIRE_BASE_HEADER_SIZE
        (header.headerLen.toNat - XGL_WIRE_BASE_HEADER_SIZE) (by omega),
      @SameBuffer.readBytes _ _ _ h header.headerLen.toNat header.payloadLen.toNat (by omega)]

/-- So does `xgl_network_receive`. -/
theorem SameBuffer.networkReceive (h : SameBuffer a b n) (ctx : NetworkCtx) (allocOk : Bool) :
    xglNetworkReceive ctx allocOk a n = xglNetworkReceive ctx allocOk b n := by
  unfold xglNetworkReceive
  rw [h.frameMetadata]
  split
  · rfl
  rename_i metadata hmetadata
  have hrewrite : networkRewriteForwardFrame a n metadata.header
      = networkRewriteForwardFrame b n metadata.header := by
    unfold networkRewriteForwardFrame
    rw [xglNetworkDecodeFrameMetadata] at hmetadata
    split at hmetadata
    · cases hmetadata
    rw [@SameBuffer.readBytes _ _ _ h XGL_WIRE_BASE_HEADER_SIZE
      (n - XGL_CRC16_SIZE - XGL_WIRE_BASE_HEADER_SIZE) (by omega)]
  simp only [networkForwardRemote, hrewrite]

end Buffers

end XgenLink
