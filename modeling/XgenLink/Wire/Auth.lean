import XgenLink.Wire.Ext

/-!
# `XgenLink.Wire.Auth`: the authentication trailer

The tag of an authenticated frame covers the header and extensions in canonical form, with the hop
limit and the header checksum zeroed, and the payload. These are the bytes that a forwarder
rewrites, so a tag stays valid over any number of hops, and everything else in the header and the
extensions is covered.

`wireAuthInput` is what `xgl_wire_verify_auth_trailer` hands to the provider's `verify` callback;
the checks that keep it from calling the provider are its error cases. The other results say what
canonical forms have in common with the bytes they are made of.

* `wireAuthInput_eq_ok`: what the provider is called with.
* `byteAt_eq_of_zeroMutableHeaderBytes_eq`, `zeroMutableHeaderBytes_congr`: equal canonical forms
  are those of bytes that agree outside the three places.
-/

set_option autoImplicit false

namespace XgenLink

/-- `wire_auth_aad_has_frame_header`. -/
def wireAuthAadHasFrameHeader (aad : Bytes) : Bool :=
  aad.length ≥ XGL_WIRE_BASE_HEADER_SIZE &&
  byteAt aad 0 == XGL_WIRE_MAGIC_0 &&
  byteAt aad 1 == XGL_WIRE_MAGIC_1

/-- Bytes 6, 22 and 23 zeroed: the hop limit and the header checksum. -/
def zeroMutableHeaderBytes (aad : Bytes) : Bytes :=
  ((aad.set 6 0).set 22 0).set 23 0

/-- `wire_auth_canonical_aad`; the canonical buffer holds `UINT8_MAX` bytes. -/
def wireAuthCanonicalAad (aad : Bytes) : Except XglError Bytes :=
  if !wireAuthAadHasFrameHeader aad then .ok aad
  else if aad.length > 255 then .error .bufferTooSmall
  else .ok (zeroMutableHeaderBytes aad)

/-- `xgl_wire_append_auth_trailer`: the tag written behind the first `aadLen` and
the next `payloadLen` bytes of the buffer. -/
def xglWireAppendAuthTrailer (buffer : Bytes) (bufferSize aadLen payloadLen : Nat)
    (keyId : UInt32) (provider : AuthProvider) : Except XglError Bytes :=
  match provider.sign with
  | none => .error .nullPointer
  | some sign =>
    if provider.tagLen == 0 || provider.tagLen > XGL_AUTH_TAG_MAX_LEN then .error .invalidParam
    else
      let tagOffset := aadLen + payloadLen
      -- the room for the tag is what the buffer has behind the payload
      if tagOffset > bufferSize then .error .bufferTooSmall
      else if bufferSize - tagOffset < provider.tagLen then .error .bufferTooSmall
      else
        match wireAuthCanonicalAad (readBytes buffer 0 aadLen) with
        | .error err => .error err
        | .ok signingAad =>
          match sign keyId signingAad (readBytes buffer aadLen payloadLen)
              (bufferSize - tagOffset) with
          | .error err => .error err
          | .ok tag =>
            -- the provider has to return as many bytes as it announced
            if tag.length != provider.tagLen then .error .invalidFrame
            else if tag.length == 0 || tagOffset + tag.length > bufferSize then
              .error .bufferTooSmall
            else .ok tag

/-- The checks of `xgl_wire_verify_auth_trailer` before the provider is called,
and what the provider is called with. -/
def wireAuthInput (buffer : Bytes) (frameLen aadLen payloadLen : Nat) (keyId : UInt32)
    (provider : AuthProvider) : Except XglError AuthInput :=
  if provider.tagLen == 0 || provider.tagLen > XGL_AUTH_TAG_MAX_LEN then .error .invalidParam
  else
    let tagOffset := aadLen + payloadLen
    if tagOffset ≥ frameLen then .error .invalidFrame
    -- the frame is exactly as long as header, payload and tag
    else if frameLen - tagOffset != provider.tagLen then .error .invalidFrame
    else
      match wireAuthCanonicalAad (readBytes buffer 0 aadLen) with
      | .error err => .error err
      | .ok verifyingAad =>
        .ok { keyId := keyId
              aad := verifyingAad
              payload := readBytes buffer aadLen payloadLen
              tag := readBytes buffer tagOffset (frameLen - tagOffset) }

/-- `xgl_wire_verify_auth_trailer`: the error code and the `valid` flag. -/
def xglWireVerifyAuthTrailer (buffer : Bytes) (frameLen aadLen payloadLen : Nat)
    (keyId : UInt32) (provider : AuthProvider) : XglError × Bool :=
  match provider.verify with
  | none => (.nullPointer, false)
  | some verify =>
    match wireAuthInput buffer frameLen aadLen payloadLen keyId provider with
    | .error err => (err, false)
    | .ok input => verify input

/-! ### What the provider sees -/

/-- The provider is called with the canonical header and extensions, the payload
and exactly the tag bytes. -/
theorem wireAuthInput_eq_ok {buffer : Bytes} {frameLen aadLen payloadLen : Nat} {keyId : UInt32}
    {provider : AuthProvider} {input : AuthInput}
    (h : wireAuthInput buffer frameLen aadLen payloadLen keyId provider = .ok input) :
    0 < provider.tagLen ∧ provider.tagLen ≤ XGL_AUTH_TAG_MAX_LEN ∧
      frameLen = aadLen + payloadLen + provider.tagLen ∧
      wireAuthCanonicalAad (readBytes buffer 0 aadLen) = .ok input.aad ∧
      input.keyId = keyId ∧ input.payload = readBytes buffer aadLen payloadLen ∧
      input.tag = readBytes buffer (aadLen + payloadLen) provider.tagLen := by
  unfold wireAuthInput at h
  split at h
  · cases h
  · dsimp only at h
    split at h
    · cases h
    · split at h
      · cases h
      · split at h
        · cases h
        · rename_i htag hroom hlen _ aad haad
          cases h
          simp only [Bool.or_eq_true, beq_iff_eq, decide_eq_true_eq, not_or, not_lt] at htag
          simp only [bne_iff_ne, ne_eq, not_not] at hlen
          refine ⟨by omega, htag.2, by omega, haad, rfl, rfl, ?_⟩
          dsimp only
          rw [hlen]

/-- A frame header of at most 255 bytes is canonicalised by zeroing the bytes a
forwarder rewrites. -/
theorem wireAuthCanonicalAad_of_header {aad : Bytes}
    (hlen : XGL_WIRE_BASE_HEADER_SIZE ≤ aad.length) (hmax : aad.length ≤ 255)
    (h0 : byteAt aad 0 = XGL_WIRE_MAGIC_0) (h1 : byteAt aad 1 = XGL_WIRE_MAGIC_1) :
    wireAuthCanonicalAad aad = .ok (zeroMutableHeaderBytes aad) := by
  unfold wireAuthCanonicalAad wireAuthAadHasFrameHeader
  rw [if_neg (by simp [h0, h1, hlen]), if_neg (by omega)]

/-- The canonical form is as long as the header and the extensions. -/
@[simp] theorem length_zeroMutableHeaderBytes (aad : Bytes) :
    (zeroMutableHeaderBytes aad).length = aad.length := by
  simp [zeroMutableHeaderBytes]

/-- Zeroing leaves every other byte alone. -/
theorem byteAt_zeroMutableHeaderBytes (a : Bytes) (i : Nat)
    (h6 : i ≠ 6) (h22 : i ≠ 22) (h23 : i ≠ 23) :
    byteAt (zeroMutableHeaderBytes a) i = byteAt a i := by
  unfold zeroMutableHeaderBytes
  rw [byteAt_set_ne _ _ _ _ (Ne.symm h23), byteAt_set_ne _ _ _ _ (Ne.symm h22),
    byteAt_set_ne _ _ _ _ (Ne.symm h6)]

/-- The three bytes a forwarder rewrites are zero in the canonical form. -/
theorem byteAt_zeroMutableHeaderBytes_zero (a : Bytes) (i : Nat)
    (hi : i = 6 ∨ i = 22 ∨ i = 23) (hlen : i < a.length) :
    byteAt (zeroMutableHeaderBytes a) i = 0 := by
  unfold zeroMutableHeaderBytes
  rcases hi with rfl | rfl | rfl
  · rw [byteAt_set_ne _ _ _ _ (by decide), byteAt_set_ne _ _ _ _ (by decide),
      byteAt_set_self _ _ _ hlen]
  · rw [byteAt_set_ne _ _ _ _ (by decide), byteAt_set_self _ _ _ (by simpa using hlen)]
  · rw [byteAt_set_self _ _ _ (by simpa using hlen)]

/-- Equal canonical forms agree outside the three bytes. -/
theorem byteAt_eq_of_zeroMutableHeaderBytes_eq {a b : Bytes}
    (h : zeroMutableHeaderBytes a = zeroMutableHeaderBytes b) (i : Nat)
    (h6 : i ≠ 6) (h22 : i ≠ 22) (h23 : i ≠ 23) : byteAt a i = byteAt b i := by
  rw [← byteAt_zeroMutableHeaderBytes a i h6 h22 h23, h,
    byteAt_zeroMutableHeaderBytes b i h6 h22 h23]

/-- Byte strings that agree outside the three bytes have the same canonical
form. -/
theorem zeroMutableHeaderBytes_congr {a b : Bytes} (hlen : a.length = b.length)
    (h : ∀ i, i ≠ 6 → i ≠ 22 → i ≠ 23 → i < a.length → byteAt a i = byteAt b i) :
    zeroMutableHeaderBytes a = zeroMutableHeaderBytes b := by
  apply ext_byteAt
  · rw [length_zeroMutableHeaderBytes, length_zeroMutableHeaderBytes, hlen]
  · intro i hi
    rw [length_zeroMutableHeaderBytes] at hi
    by_cases hmut : i = 6 ∨ i = 22 ∨ i = 23
    · rw [byteAt_zeroMutableHeaderBytes_zero a i hmut hi,
        byteAt_zeroMutableHeaderBytes_zero b i hmut (by omega)]
    · simp only [not_or] at hmut
      rw [byteAt_zeroMutableHeaderBytes a i hmut.1 hmut.2.1 hmut.2.2,
        byteAt_zeroMutableHeaderBytes b i hmut.1 hmut.2.1 hmut.2.2,
        h i hmut.1 hmut.2.1 hmut.2.2 hi]

end XgenLink
