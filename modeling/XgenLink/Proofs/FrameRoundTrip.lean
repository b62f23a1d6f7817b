import XgenLink.Proofs.Resync

/-!
# `XgenLink.Proofs.FrameRoundTrip`: what is serialized is what the parser reports

A frame is built from parameters by `xgl_frame_build`, serialized plainly or with an
authentication tag, sent byte by byte, and put together again by the parser of another node. This
module connects both ends. A frame serialized in either form is reported by a parser in search of
a frame, also behind noise without a magic pair, and every part of it reads back.

A frame is its header, its extensions, its payload, its tag and its checksum, one behind the
other. `Assembled` states what these parts have to agree on: the lengths in the header are those
of the parts, the types and flags are valid, and the extensions announce the tag. Both forms of
serialization produce such bytes, and a parser reports any such bytes. What a parser is in
the middle of is told by the bytes it holds, so its run over the frame is a run of `heldStep`.

* `Assembled`, `assembledBytes`: the parts of a frame.
* `assembled_parsable`: a header, extensions, payload and tag put together with their
  checksums are a frame the parser accepts.
* `plain_assembled`, `authenticated_assembled`: the two forms are such frames.
* `heldQuiet_noise`, `ParsableFrame.reported`: noise is skipped, a frame is reported at its end.
* `serialize_succeeds`: a frame with room for it is serialized.
* `frame_round_trip`: the round trip of both forms.
-/

set_option autoImplicit false

namespace XgenLink

/-! ### Frames put together -/

/-- The parts of a frame and what they have to agree on. -/
structure Assembled (header : WireHeader) (exts : List WireExt) (payload tag : Bytes) : Prop where
  valid : wireHeaderFieldsValid header = true
  encodable : ∀ ext ∈ exts, ext.Encodable
  headerLen : header.headerLen.toNat = XGL_WIRE_BASE_HEADER_SIZE + (encodeWireExts exts).length
  payloadLen : header.payloadLen.toNat = payload.length
  tagLen : parserAuthTagLen exts 0 = some (UInt8.ofNat tag.length)
  tagFits : tag.length < 256
  auth : header.flags &&& XGL_WIRE_FLAG_AUTHENTICATED ≠ 0 → tag ≠ []

/-- The bytes of the parts, one behind the other. -/
def assembledBytes (header : WireHeader) (exts : List WireExt) (payload tag : Bytes) : Bytes :=
  appendFrameCrc (wireHeaderBytes header ++ encodeWireExts exts ++ payload ++ tag)

section Assembled

variable {header : WireHeader} {exts : List WireExt} {payload tag : Bytes}

/-- The same bytes, each part in front of what follows it. -/
theorem assembledBytes_eq (header : WireHeader) (exts : List WireExt) (payload tag : Bytes) :
    ∃ crc, crc.length = XGL_CRC16_SIZE ∧
      assembledBytes header exts payload tag
        = wireHeaderBytes header ++ (encodeWireExts exts ++ (payload ++ (tag ++ crc))) := by
  refine ⟨xglSerializeU16Le (xglCrc16Modbus
    (wireHeaderBytes header ++ encodeWireExts exts ++ payload ++ tag)), rfl, ?_⟩
  unfold assembledBytes appendFrameCrc
  simp only [List.append_assoc]

/-- The frame is as long as its parts. -/
theorem length_assembledBytes (header : WireHeader) (exts : List WireExt) (payload tag : Bytes) :
    (assembledBytes header exts payload tag).length
      = XGL_WIRE_BASE_HEADER_SIZE + (encodeWireExts exts).length + payload.length + tag.length +
        XGL_CRC16_SIZE := by
  unfold assembledBytes
  rw [length_appendFrameCrc, List.length_append, List.length_append, List.length_append,
    length_wireHeaderBytes]

/-- The header reads back, with its checksum filled in. -/
theorem Assembled.decode (h : Assembled header exts payload tag) :
    xglWireDecodeHeader (assembledBytes header exts payload tag)
        (assembledBytes header exts payload tag).length
      = .ok { header with
          headerCrc16 := xglDeserializeU16Le
            ((assembledBytes header exts payload tag).drop 22) } := by
  have hlen := length_assembledBytes header exts payload tag
  obtain ⟨crc, _, hbytes⟩ := assembledBytes_eq header exts payload tag
  have hdecode := xglWireDecodeHeader_encode header
    (encodeWireExts exts ++ (payload ++ (tag ++ crc))) _
    (show XGL_WIRE_BASE_HEADER_SIZE ≤ (assembledBytes header exts payload tag).length by omega)
    h.valid
  have hfields := congrArg WireHeader.headerCrc16
    (wireHeaderOfBytes_wireHeaderBytes header (encodeWireExts exts ++ (payload ++ (tag ++ crc))))
  rw [← hbytes] at hdecode hfields
  rw [hdecode]
  exact congrArg (fun checksum => Except.ok { header with headerCrc16 := checksum }) hfields.symm

/-- The extensions read back, and the walk over them reaches its end. -/
theorem Assembled.walk (h : Assembled header exts payload tag) :
    wireExts ((assembledBytes header exts payload tag).drop XGL_WIRE_BASE_HEADER_SIZE)
      (header.headerLen.toNat - XGL_WIRE_BASE_HEADER_SIZE) = (exts, .notFound) := by
  obtain ⟨crc, _, hbytes⟩ := assembledBytes_eq header exts payload tag
  rw [hbytes, ← length_wireHeaderBytes header, List.drop_left, h.headerLen, length_wireHeaderBytes,
    Nat.add_sub_cancel_left]
  exact wireExts_encode exts h.encodable _

/-- The payload reads back. -/
theorem Assembled.read_payload (h : Assembled header exts payload tag) :
    readBytes (assembledBytes header exts payload tag) header.headerLen.toNat payload.length
      = payload := by
  obtain ⟨crc, _, hbytes⟩ := assembledBytes_eq header exts payload tag
  have hmiddle := readBytes_middle (wireHeaderBytes header ++ encodeWireExts exts) payload
    (tag ++ crc)
  rw [List.length_append, length_wireHeaderBytes, ← h.headerLen, List.append_assoc] at hmiddle
  rw [hbytes]
  exact hmiddle

/-- The tag reads back. -/
theorem Assembled.read_tag (h : Assembled header exts payload tag) :
    readBytes (assembledBytes header exts payload tag) (header.headerLen.toNat + payload.length)
      tag.length = tag := by
  obtain ⟨crc, _, hbytes⟩ := assembledBytes_eq header exts payload tag
  have hmiddle := readBytes_middle (wireHeaderBytes header ++ encodeWireExts exts ++ payload) tag
    crc
  rw [List.length_append, List.length_append, length_wireHeaderBytes, ← h.headerLen,
    List.append_assoc, List.append_assoc] at hmiddle
  rw [hbytes]
  exact hmiddle

/-- The parts put together are a frame the parser accepts. -/
theorem assembled_parsable (h : Assembled header exts payload tag) :
    ParsableFrame (assembledBytes header exts payload tag)
      { header with
        headerCrc16 := xglDeserializeU16Le ((assembledBytes header exts payload tag).drop 22) }
      (UInt8.ofNat tag.length) where
  decode := h.decode
  walk := by
    dsimp only
    rw [h.walk]
  tag := by
    dsimp only
    rw [h.walk]
    exact h.tagLen
  auth := by
    intro hflag hzero
    have hfits := h.tagFits
    have hlen := congrArg UInt8.toNat hzero
    rw [UInt8.toNat_ofNat', UInt8.toNat_zero, Nat.mod_eq_of_lt hfits] at hlen
    exact h.auth hflag (List.eq_nil_of_length_eq_zero hlen)
  lengths := by
    dsimp only
    rw [length_assembledBytes, h.headerLen, h.payloadLen, UInt8.toNat_ofNat',
      Nat.mod_eq_of_lt h.tagFits]
  crc := by
    unfold assembledBytes
    generalize wireHeaderBytes header ++ encodeWireExts exts ++ payload ++ tag = body
    rw [length_appendFrameCrc, Nat.add_sub_cancel]
    unfold appendFrameCrc
    rw [readBytes_append_left _ _ _ _ (by omega), readBytes_self, List.drop_left]
    have hread := xglDeserializeU16Le_serialize (xglCrc16Modbus body) []
    rw [List.append_nil] at hread
    exact hread.symm

end Assembled

/-! ### The two forms of a frame -/

/-- How a frame is serialized. -/
inductive FrameForm where
  | plain
  | authenticated (keyId : UInt32) (provider : AuthProvider)

namespace FrameForm

/-- `xgl_frame_serialize` or `xgl_frame_serialize_authenticated`. -/
def serialize (bufferSize : Nat) (frame : Frame) : FrameForm → Except XglError Bytes
  | .plain => xglFrameSerialize bufferSize frame
  | .authenticated keyId provider =>
    xglFrameSerializeAuthenticated bufferSize frame keyId provider

/-- The length of the tag. -/
def tagLen : FrameForm → Nat
  | .plain => 0
  | .authenticated _ provider => provider.tagLen

/-- The extensions that the frame carries. -/
def carried (frame : Frame) (exts : List WireExt) : FrameForm → List WireExt
  | .plain => exts
  | .authenticated keyId provider =>
    exts ++ [frameSecurityExt frame keyId (UInt8.ofNat provider.tagLen)]

/-- The flags that the frame carries. -/
def flags (frame : Frame) : FrameForm → UInt8
  | .plain => frame.header.flags
  | .authenticated _ _ =>
    frame.header.flags ||| (XGL_WIRE_FLAG_HAS_EXTENSIONS ||| XGL_WIRE_FLAG_AUTHENTICATED)

/-- The header that the frame carries, but for its checksum. -/
def header (frame : Frame) (exts : List WireExt) (form : FrameForm) : WireHeader :=
  { frame.header with
    headerLen := UInt8.ofNat (XGL_WIRE_BASE_HEADER_SIZE +
      (encodeWireExts (form.carried frame exts)).length)
    flags := form.flags frame }

/-- What the form asks of the parameters. -/
def Admits (params : FrameParams) : FrameForm → Prop
  | .plain =>
    params.flags &&& XGL_WIRE_FLAG_AUTHENTICATED = 0 ∧ params.extensions.length ≤ 231
  | .authenticated _ provider =>
    1 ≤ provider.tagLen ∧ provider.tagLen ≤ 32 ∧ params.extensions.length ≤ 216

/-- The provider signs whatever it is given, in the room for its tag. -/
def Signs : FrameForm → Prop
  | .plain => True
  | .authenticated keyId provider =>
    ∃ sign, provider.sign = some sign ∧ ∀ aad payload room, provider.tagLen ≤ room →
      ∃ tag, sign keyId aad payload room = .ok tag ∧ tag.length = provider.tagLen

/-- The tag is the one that the provider makes of the canonical header with its
extensions and of the payload. -/
def IsTag (front payload tag : Bytes) : FrameForm → Prop
  | .plain => tag = []
  | .authenticated keyId provider =>
    ∃ sign room, provider.sign = some sign ∧
      sign keyId (zeroMutableHeaderBytes front) payload room = .ok tag

end FrameForm

/-- The bytes are those of the frame in every part. -/
structure ReadsBack (form : FrameForm) (frame : Frame) (exts : List WireExt) (bytes : Bytes) :
    Prop where
  header : xglWireDecodeHeader bytes bytes.length
    = .ok { form.header frame exts with
        headerCrc16 := xglDeserializeU16Le (bytes.drop 22) }
  records : wireExts (bytes.drop XGL_WIRE_BASE_HEADER_SIZE)
      (encodeWireExts (form.carried frame exts)).length
    = (form.carried frame exts, .notFound)
  payload : readBytes bytes
      (XGL_WIRE_BASE_HEADER_SIZE + (encodeWireExts (form.carried frame exts)).length)
      frame.payload.length = frame.payload
  tag : form.IsTag
    (readBytes bytes 0
      (XGL_WIRE_BASE_HEADER_SIZE + (encodeWireExts (form.carried frame exts)).length))
    frame.payload
    (readBytes bytes
      (XGL_WIRE_BASE_HEADER_SIZE + (encodeWireExts (form.carried frame exts)).length +
        frame.payload.length) form.tagLen)
  length : bytes.length = XGL_WIRE_BASE_HEADER_SIZE +
    (encodeWireExts (form.carried frame exts)).length + frame.payload.length + form.tagLen +
    XGL_CRC16_SIZE

section Forms

variable {params : FrameParams} {frame : Frame} {exts : List WireExt}

/-- The extensions without a SECURITY_EXT announce no tag of their own. -/
theorem parserAuthTagLen_append {front : List WireExt}
    (hfront : ∀ ext ∈ front, ext.type ≠ XGL_WIRE_EXT_SECURITY) (back : List WireExt)
    (tagLen : UInt8) :
    parserAuthTagLen (front ++ back) tagLen = parserAuthTagLen back tagLen := by
  induction front with
  | nil => rfl
  | cons ext rest ih =>
    rw [List.cons_append, parserAuthTagLen,
      if_neg (by simpa using hfront ext List.mem_cons_self)]
    exact ih fun other hother => hfront other (List.mem_cons_of_mem _ hother)

/-- A SECURITY_EXT announces its tag length. -/
theorem parserAuthTagLen_security (frame : Frame) (keyId : UInt32) {tagLen : UInt8}
    (hne : tagLen ≠ 0) :
    parserAuthTagLen [frameSecurityExt frame keyId tagLen] 0 = some tagLen := by
  have hbyte : byteAt (frameSecurityExt frame keyId tagLen).value 12 = tagLen := rfl
  unfold parserAuthTagLen
  rw [if_pos (by rfl)]
  unfold xglWireDecodeSecurityExtValue
  rw [if_neg (by simp [frameSecurityExt, XGL_SECURITY_EXT_VALUE_SIZE]), hbyte,
    if_neg (by simpa using hne)]
  dsimp only
  rw [if_neg (by simpa using hne)]
  rfl

/-- The records of two lists are encoded one list behind the other. -/
theorem encodeWireExts_append (a b : List WireExt) :
    encodeWireExts (a ++ b) = encodeWireExts a ++ encodeWireExts b :=
  List.flatMap_append

/-- What `xgl_frame_build` keeps of the parameters. -/
theorem xglFrameBuild_ok (hbuild : xglFrameBuild params = .ok frame) :
    frame.extensions = params.extensions ∧ frame.payload = params.payload ∧
      frame.payload.length ≤ 65535 ∧
      frame.header.payloadLen.toNat = frame.payload.length ∧
      frame.header.version = XGL_WIRE_VERSION ∧ frame.header.sourceId = params.sourceId ∧
      frame.header.targetId = params.targetId ∧
      frame.header.flags = (frameFlagsAndType params).1 ∧
      frame.header.packetType = (frameFlagsAndType params).2 := by
  unfold xglFrameBuild at hbuild
  split at hbuild
  · cases hbuild
  · rename_i hlong
    cases hbuild
    refine ⟨rfl, rfl, by dsimp only; omega, ?_, rfl, rfl, rfl, rfl, rfl⟩
    dsimp only
    rw [UInt16.toNat_ofNat']
    exact Nat.mod_eq_of_lt (by omega)

/-- The type of the frame stays valid. -/
theorem frameFlagsAndType_valid (htype : wirePacketTypeValid params.packetType = true) :
    wirePacketTypeValid (frameFlagsAndType params).2 = true := by
  unfold frameFlagsAndType
  dsimp only
  split
  · rfl
  · split
    · rfl
    · exact htype

/-- The flags of the frame are authenticated only when the parameters are. -/
theorem frameFlagsAndType_auth
    (hflags : params.flags &&& XGL_WIRE_FLAG_AUTHENTICATED = 0) :
    (frameFlagsAndType params).1 &&& XGL_WIRE_FLAG_AUTHENTICATED = 0 := by
  have hor : ∀ a b : UInt8, a &&& XGL_WIRE_FLAG_AUTHENTICATED = 0 →
      b &&& XGL_WIRE_FLAG_AUTHENTICATED = 0 → (a ||| b) &&& XGL_WIRE_FLAG_AUTHENTICATED = 0 := by
    intro a b ha hb
    have hdistrib : (a ||| b) &&& XGL_WIRE_FLAG_AUTHENTICATED
        = (a &&& XGL_WIRE_FLAG_AUTHENTICATED) ||| (b &&& XGL_WIRE_FLAG_AUTHENTICATED) :=
      UInt8.toBitVec_inj.mp BitVec.and_or_distrib_right
    rw [hdistrib, ha, hb]
    rfl
  have hite : ∀ (c : Prop) [Decidable c] (a b : UInt8), a &&& XGL_WIRE_FLAG_AUTHENTICATED = 0 →
      b &&& XGL_WIRE_FLAG_AUTHENTICATED = 0 →
      (if c then a ||| b else a) &&& XGL_WIRE_FLAG_AUTHENTICATED = 0 := by
    intro c _ a b ha hb
    split
    · exact hor a b ha hb
    · exact ha
  unfold frameFlagsAndType
  dsimp only
  refine hite _ _ _ (hite _ _ _ (hite _ _ _ (hite _ _ _ hflags ?_) ?_) ?_) ?_ <;> rfl

/-- A frame with extensions already says so. -/
theorem frameFlagsAndType_extensions (hext : params.extensions.length > 0) :
    (frameFlagsAndType params).1 ||| XGL_WIRE_FLAG_HAS_EXTENSIONS
      = (frameFlagsAndType params).1 := by
  have hite : ∀ (c : Prop) [Decidable c] (a b : UInt8), a ||| XGL_WIRE_FLAG_HAS_EXTENSIONS = a →
      (if c then a ||| b else a) ||| XGL_WIRE_FLAG_HAS_EXTENSIONS = if c then a ||| b else a := by
    intro c _ a b ha
    split
    · rw [UInt8.or_assoc, UInt8.or_comm b, ← UInt8.or_assoc, ha]
    · exact ha
  unfold frameFlagsAndType
  dsimp only
  rw [if_pos hext]
  refine hite _ _ _ ?_
  rw [UInt8.or_assoc, UInt8.or_self]

/-- A plain frame is put together from the parts it was built with. -/
theorem plain_assembled {bufferSize : Nat} {bytes : Bytes}
    (hbuild : xglFrameBuild params = .ok frame)
    (hexts : params.extensions = encodeWireExts exts) (hencodable : ∀ ext ∈ exts, ext.Encodable)
    (hplain : ∀ ext ∈ exts, ext.type ≠ XGL_WIRE_EXT_SECURITY)
    (hauth : params.flags &&& XGL_WIRE_FLAG_AUTHENTICATED = 0)
    (hok : xglFrameSerialize bufferSize frame = .ok bytes) :
    Assembled (FrameForm.plain.header frame exts) exts frame.payload [] ∧
      bytes = assembledBytes (FrameForm.plain.header frame exts) exts frame.payload [] := by
  obtain ⟨hext, hpayload, hshort, hpayloadLen, hversion, hsource, htarget, hflags, htype⟩ :=
    xglFrameBuild_ok hbuild
  obtain ⟨hbytes, hvalid, hfits⟩ := xglFrameSerialize_eq_ok hok
  have hlen : (encodeWireExts exts).length = frame.extensions.length := by rw [hext, hexts]
  have hpayloadOf : UInt16.ofNat frame.payload.length = frame.header.payloadLen := by
    rw [← hpayloadLen, UInt16.ofNat_toNat]
  have hsetFlags : (if frame.extensions.length > 0 then
      frame.header.flags ||| XGL_WIRE_FLAG_HAS_EXTENSIONS else frame.header.flags)
        = frame.header.flags := by
    split
    · rename_i hpos
      rw [hflags]
      exact frameFlagsAndType_extensions (by rw [← hext]; exact hpos)
    · rfl
  have hheader : frameWireHeader frame
      = { FrameForm.plain.header frame exts with headerCrc16 := 0 } := by
    unfold frameWireHeader FrameForm.header FrameForm.carried FrameForm.flags
    dsimp only
    rw [hlen, hsetFlags, hpayloadOf, ← hversion]
  rw [hheader] at hvalid hbytes
  refine ⟨⟨hvalid, hencodable, ?_, hpayloadLen, ?_, by decide, ?_⟩, ?_⟩
  · unfold FrameForm.header FrameForm.carried
    dsimp only
    rw [hlen, UInt8.toNat_ofNat']
    exact Nat.mod_eq_of_lt (by unfold XGL_WIRE_BASE_HEADER_SIZE; omega)
  · have happend := parserAuthTagLen_append hplain [] 0
    rw [List.append_nil] at happend
    exact happend
  · intro hflag
    refine absurd ?_ hflag
    change frame.header.flags &&& XGL_WIRE_FLAG_AUTHENTICATED = 0
    rw [hflags]
    exact frameFlagsAndType_auth hauth
  · rw [hbytes, hext, hexts]
    unfold assembledBytes
    rw [List.append_nil]
    rfl

/-- An authenticated frame is put together from the parts it was built with, the
SECURITY_EXT and the tag. -/
theorem authenticated_assembled {bufferSize : Nat} {keyId : UInt32} {provider : AuthProvider}
    {bytes : Bytes} (hbuild : xglFrameBuild params = .ok frame)
    (hexts : params.extensions = encodeWireExts exts) (hencodable : ∀ ext ∈ exts, ext.Encodable)
    (hplain : ∀ ext ∈ exts, ext.type ≠ XGL_WIRE_EXT_SECURITY)
    (hok : xglFrameSerializeAuthenticated bufferSize frame keyId provider = .ok bytes) :
    ∃ tag,
      Assembled ((FrameForm.authenticated keyId provider).header frame exts)
        ((FrameForm.authenticated keyId provider).carried frame exts) frame.payload tag ∧
      tag.length = provider.tagLen ∧
      bytes = assembledBytes ((FrameForm.authenticated keyId provider).header frame exts)
        ((FrameForm.authenticated keyId provider).carried frame exts) frame.payload tag ∧
      (FrameForm.authenticated keyId provider).IsTag
        (wireHeaderBytes ((FrameForm.authenticated keyId provider).header frame exts) ++
          encodeWireExts ((FrameForm.authenticated keyId provider).carried frame exts))
        frame.payload tag := by
  obtain ⟨hext, hpayload, hshort, hpayloadLen, hversion, hsource, htarget, hflags, htype⟩ :=
    xglFrameBuild_ok hbuild
  obtain ⟨hpos, hmax, hfits, _, hvalid, _, sign, tag, hsign, htagLen, hsigned, hbytes⟩ :=
    xglFrameSerializeAuthenticated_eq_ok.mp hok
  unfold XGL_AUTH_TAG_MAX_LEN at hmax
  have hcarried : (encodeWireExts ((FrameForm.authenticated keyId provider).carried
      frame exts)).length = frame.extensions.length + XGL_SECURITY_EXT_SIZE := by
    unfold FrameForm.carried
    dsimp only
    rw [encodeWireExts_append, List.length_append, ← hexts, ← hext]
    rfl
  have hpayloadOf : UInt16.ofNat frame.payload.length = frame.header.payloadLen := by
    rw [← hpayloadLen, UInt16.ofNat_toNat]
  have hheader : frameSecuredHeader frame
      = { (FrameForm.authenticated keyId provider).header frame exts with headerCrc16 := 0 } := by
    unfold frameSecuredHeader frameAuthenticatedHeader FrameForm.header FrameForm.flags
    dsimp only
    rw [hcarried, hpayloadOf, ← hversion, Nat.add_assoc]
  have hfront : frameAuthenticatedFront frame keyId (UInt8.ofNat provider.tagLen)
      = wireHeaderBytes ((FrameForm.authenticated keyId provider).header frame exts) ++
        encodeWireExts ((FrameForm.authenticated keyId provider).carried frame exts) := by
    unfold frameAuthenticatedFront FrameForm.carried
    dsimp only
    rw [hheader, hext, hexts, List.append_assoc, encodeWireExts_append]
    rfl
  have htagByte : UInt8.ofNat provider.tagLen ≠ 0 := by
    intro hzero
    have hnat := congrArg UInt8.toNat hzero
    rw [UInt8.toNat_ofNat', UInt8.toNat_zero, Nat.mod_eq_of_lt (by omega)] at hnat
    omega
  rw [hfront] at hsigned hbytes
  rw [hheader] at hvalid
  refine ⟨tag, ⟨hvalid, ?_, ?_, hpayloadLen, ?_, by omega, ?_⟩, htagLen, hbytes, sign, _, hsign,
    hsigned⟩
  · intro ext hmem
    -- a record of the application, or the SECURITY_EXT behind them
    rcases List.mem_append.mp hmem with hmem | hmem
    · exact hencodable ext hmem
    · rw [List.mem_singleton.mp hmem]
      exact ⟨(by decide : XGL_WIRE_EXT_SECURITY ≠ 0), Nat.le_of_ble_eq_true rfl⟩
  · unfold FrameForm.header
    dsimp only
    rw [hcarried, UInt8.toNat_ofNat']
    refine Nat.mod_eq_of_lt ?_
    unfold XGL_WIRE_BASE_HEADER_SIZE XGL_SECURITY_EXT_SIZE XGL_SECURITY_EXT_VALUE_SIZE
      XGL_WIRE_EXT_HEADER_SIZE
    omega
  · rw [htagLen]
    exact (parserAuthTagLen_append hplain _ 0).trans
      (parserAuthTagLen_security frame keyId htagByte)
  · rintro _ rfl
    rw [List.length_nil] at htagLen
    omega

/-- The front of a frame put together reads back. -/
theorem read_front (header : WireHeader) (records : List WireExt) (payload tag : Bytes) :
    readBytes (assembledBytes header records payload tag) 0
        (XGL_WIRE_BASE_HEADER_SIZE + (encodeWireExts records).length)
      = wireHeaderBytes header ++ encodeWireExts records := by
  obtain ⟨crc, _, hbytes⟩ := assembledBytes_eq header records payload tag
  rw [hbytes, ← List.append_assoc, readBytes_append_left _ _ _ _ (by
    rw [List.length_append, length_wireHeaderBytes]; omega), ← length_wireHeaderBytes header,
    ← List.length_append]
  exact readBytes_self _

/-- A serialized frame is put together from the parts it was built with. -/
theorem serialize_assembled {form : FrameForm} {bufferSize : Nat} {bytes : Bytes}
    (hbuild : xglFrameBuild params = .ok frame)
    (hexts : params.extensions = encodeWireExts exts) (hencodable : ∀ ext ∈ exts, ext.Encodable)
    (hplain : ∀ ext ∈ exts, ext.type ≠ XGL_WIRE_EXT_SECURITY) (hadmits : form.Admits params)
    (hok : form.serialize bufferSize frame = .ok bytes) :
    ∃ tag, Assembled (form.header frame exts) (form.carried frame exts) frame.payload tag ∧
      tag.length = form.tagLen ∧
      bytes = assembledBytes (form.header frame exts) (form.carried frame exts) frame.payload tag ∧
      form.IsTag
        (wireHeaderBytes (form.header frame exts) ++ encodeWireExts (form.carried frame exts))
        frame.payload tag := by
  cases form with
  | plain =>
    obtain ⟨hassembled, hbytes⟩ := plain_assembled hbuild hexts hencodable hplain hadmits.1 hok
    exact ⟨[], hassembled, rfl, hbytes, rfl⟩
  | authenticated keyId provider =>
    exact authenticated_assembled hbuild hexts hencodable hplain hok

end Forms

/-! ### Noise without a magic pair -/

/-- Every byte is taken without an error and without completing a frame. -/
def HeldQuiet (size : Nat) : Bytes → Bytes → Prop
  | _, [] => True
  | held, byte :: rest =>
    (heldStep size held byte).1 = .incomplete ∧ HeldQuiet size (heldStep size held byte).2 rest

section Quiet

variable {size : Nat}

/-- A byte that completes nothing leaves what is held behind it. -/
theorem heldNext_of_incomplete {held : Bytes} {byte : UInt8}
    (h : (heldStep size held byte).1 = .incomplete) :
    heldNext size held byte = (heldStep size held byte).2 := by
  unfold heldNext
  rw [if_neg (by simp [h])]

/-- One quiet run behind another. -/
theorem HeldQuiet.append {a b held : Bytes} (ha : HeldQuiet size held a)
    (hb : HeldQuiet size (heldRun size a held) b) : HeldQuiet size held (a ++ b) := by
  induction a generalizing held with
  | nil => exact hb
  | cons byte rest ih =>
    obtain ⟨hbyte, hrest⟩ := ha
    refine ⟨hbyte, ih hrest ?_⟩
    rw [← heldNext_of_incomplete hbyte]
    exact hb

/-- A quiet run of the parser. -/
theorem Tracks.feedAll_quiet {parser : Parser} {held : Bytes} (h : Tracks size parser held)
    (inputs : List (UInt8 × UInt32)) (hquiet : HeldQuiet size held (inputs.map Prod.fst)) :
    (parserFeedAll inputs parser).2 = List.replicate inputs.length .incomplete ∧
      Tracks size (parserFeedAll inputs parser).1
        (heldRun size (inputs.map Prod.fst) held) := by
  induction inputs generalizing parser held with
  | nil => exact ⟨rfl, h⟩
  | cons input rest ih =>
    obtain ⟨hbyte, hrest⟩ := hquiet
    have hagrees := h.feed input.1 input.2
    obtain ⟨hresults, htracks⟩ := ih (hagrees.tracks (by rw [hbyte]; simp)) hrest
    unfold parserFeedAll at hresults htracks ⊢
    rw [runSteps_cons]
    refine ⟨?_, ?_⟩
    · rw [hresults, hagrees.result, hbyte]
      rfl
    · rw [← heldNext_of_incomplete hbyte] at htracks
      exact htracks

/-- Noise without a magic pair is skipped, but for a first magic byte at its end. -/
theorem heldQuiet_noise (hroom : XGL_WIRE_BASE_HEADER_SIZE + XGL_CRC16_SIZE ≤ size)
    (noise : Bytes) {held : Bytes} (hheld : held = [] ∨ held = [XGL_WIRE_MAGIC_0])
    (hno : ¬ [XGL_WIRE_MAGIC_0, XGL_WIRE_MAGIC_1] <:+: held ++ noise) :
    HeldQuiet size held noise ∧
      (heldRun size noise held = [] ∨ heldRun size noise held = [XGL_WIRE_MAGIC_0]) := by
  unfold XGL_WIRE_BASE_HEADER_SIZE XGL_CRC16_SIZE at hroom
  induction noise generalizing held with
  | nil => exact ⟨trivial, hheld⟩
  | cons byte rest ih =>
    have hsearch : heldStep size held byte = heldSearch byte := by
      rcases hheld with rfl | rfl
      · exact heldStep_search (by rw [List.length_nil]; omega) (.inl rfl)
      · refine heldStep_search (by rw [List.length_singleton]; omega) (.inr ⟨rfl, ?_⟩)
        rintro rfl
        exact hno ⟨[], rest, rfl⟩
    have hincomplete : (heldStep size held byte).1 = .incomplete := by
      rw [hsearch]
      rfl
    have hnext : (heldStep size held byte).2 = [] ∨
        (heldStep size held byte).2 = [XGL_WIRE_MAGIC_0] ∧ byte = XGL_WIRE_MAGIC_0 := by
      rw [hsearch]
      unfold heldSearch
      by_cases hbyte : byte = XGL_WIRE_MAGIC_0
      · subst hbyte
        exact .inr ⟨rfl, rfl⟩
      · exact .inl (if_neg (by simpa using hbyte))
    have hrest : ¬ [XGL_WIRE_MAGIC_0, XGL_WIRE_MAGIC_1] <:+:
        (heldStep size held byte).2 ++ rest := by
      intro hinside
      refine hno (hinside.trans ?_)
      rcases hnext with hnil | ⟨hone, rfl⟩
      · rw [hnil]
        exact ⟨held ++ [byte], [], by simp⟩
      · rw [hone]
        exact ⟨held, [], by simp⟩
    obtain ⟨hquiet, hend⟩ := ih (hnext.imp_right And.left) hrest
    rw [← heldNext_of_incomplete hincomplete] at hend
    exact ⟨⟨hincomplete, hquiet⟩, hend⟩

/-- A frame is taken quietly up to its last byte. -/
theorem ParsableFrame.heldQuiet {frame : Bytes} {header : WireHeader} {tagLen : UInt8}
    (h : ParsableFrame frame header tagLen) {k : Nat} (hfit : frame.length ≤ size)
    (hpos : 1 ≤ k) (hk : k < frame.length) {held : Bytes}
    (hheld : held = [] ∨ held = [XGL_WIRE_MAGIC_0]) : HeldQuiet size held (frame.take k) := by
  have hlen := h.length_ge
  unfold XGL_WIRE_BASE_HEADER_SIZE XGL_CRC16_SIZE at hlen
  have hfirst : byteAt frame 0 = XGL_WIRE_MAGIC_0 := (xglWireDecodeHeader_eq_ok.mp h.decode).2.1
  induction k, hpos using Nat.le_induction with
  | base =>
    rw [← take_succ_byteAt frame 0 (by omega), hfirst]
    refine ⟨?_, trivial⟩
    rcases hheld with rfl | rfl
    · rw [heldStep_search (by rw [List.length_nil]; omega) (.inl rfl)]
      rfl
    · rw [heldStep_search (by rw [List.length_singleton]; omega) (.inr ⟨rfl, by decide⟩)]
      rfl
  | succ k hle ih =>
    rw [← take_succ_byteAt frame k (by omega)]
    refine (ih (by omega)).append ⟨?_, trivial⟩
    rw [h.heldRun_frame hfit hle (by omega) hheld, h.heldStep_take hfit hle (by omega),
      if_neg (by omega)]

/-- A frame behind noise without a magic pair is reported at its last byte and not
before. -/
theorem ParsableFrame.reported {frame : Bytes} {header : WireHeader} {tagLen : UInt8}
    (h : ParsableFrame frame header tagLen) {parser : Parser} (htracks : Tracks size parser [])
    (hfit : frame.length ≤ size) {noise : Bytes}
    (hno : ¬ [XGL_WIRE_MAGIC_0, XGL_WIRE_MAGIC_1] <:+: noise)
    {inputs : List (UInt8 × UInt32)} (hinputs : inputs.map Prod.fst = noise ++ frame) :
    (parserFeedAll inputs parser).2
        = List.replicate (noise.length + frame.length - 1) .incomplete ++ [.complete] ∧
      (parserFeedAll inputs parser).1.cacheLen = frame.length ∧
      (parserFeedAll inputs parser).1.cache.take frame.length = frame := by
  have hlen := h.length_ge
  unfold XGL_WIRE_BASE_HEADER_SIZE XGL_CRC16_SIZE at hlen
  obtain ⟨k, hk⟩ : ∃ k, frame.length = k + 1 := ⟨frame.length - 1, by omega⟩
  have hsnoc : frame.take k ++ [byteAt frame k] = frame := by
    rw [take_succ_byteAt frame k (by omega), ← hk, List.take_length]
  obtain ⟨front, last, rfl⟩ : ∃ front last, inputs = front ++ [last] := by
    rcases List.eq_nil_or_concat inputs with rfl | ⟨front, last, rfl⟩
    · have := congrArg List.length hinputs
      rw [List.map_nil, List.length_nil, List.length_append] at this
      omega
    · exact ⟨front, last, by rw [List.concat_eq_append]⟩
  rw [List.map_append, ← hsnoc, ← List.append_assoc] at hinputs
  obtain ⟨hfront, hlast⟩ := List.append_inj' hinputs rfl
  have hbyte : last.1 = byteAt frame k := by simpa using hlast
  obtain ⟨hquiet, hheld⟩ := heldQuiet_noise htracks.room noise (.inl rfl) hno
  have hall : HeldQuiet size [] (front.map Prod.fst) := by
    rw [hfront]
    exact hquiet.append (h.heldQuiet hfit (by omega) (by omega) hheld)
  obtain ⟨hresults, hend⟩ := htracks.feedAll_quiet front hall
  rw [hfront, heldRun_append, h.heldRun_frame hfit (by omega) (by omega) hheld] at hend
  have hstep := h.heldStep_take hfit (by omega : 1 ≤ k) (by omega)
  rw [if_pos hk.symm, ← hk, List.take_length] at hstep
  have hagrees := hend.feed last.1 last.2
  rw [hbyte, hstep] at hagrees
  have hreports := hagrees.reports rfl
  have hfrontLen : front.length = noise.length + frame.length - 1 := by
    have := congrArg List.length hfront
    rw [List.length_map, List.length_append, List.length_take] at this
    omega
  have hfeed : parserFeedAll (front ++ [last]) parser
      = ((xglParserFeedByte (parserFeedAll front parser).1 last.1 last.2).2,
          (parserFeedAll front parser).2 ++
            [(xglParserFeedByte (parserFeedAll front parser).1 last.1 last.2).1]) := by
    unfold parserFeedAll
    rw [runSteps_append]
    rfl
  rw [hfeed, hresults, hbyte, hagrees.result, hfrontLen]
  refine ⟨rfl, hreports.cacheLen, ?_⟩
  exact take_eq_of_bytes (by rw [hreports.cacheLength]; exact hreports.fits) hreports.bytes

end Quiet

/-! ### The round trip -/

section RoundTrip

variable {params : FrameParams} {frame : Frame}

/-- The header fields pass the checks, whatever the lengths. -/
theorem built_header_valid (hbuild : xglFrameBuild params = .ok frame)
    (hsource : params.sourceId ≠ 0) (htarget : params.targetId ≠ 0)
    (htype : wirePacketTypeValid params.packetType = true) {header : WireHeader}
    (hversion : header.version = XGL_WIRE_VERSION)
    (hlen : XGL_WIRE_BASE_HEADER_SIZE ≤ header.headerLen.toNat)
    (hpacket : header.packetType = frame.header.packetType)
    (hsourceId : header.sourceId = frame.header.sourceId)
    (htargetId : header.targetId = frame.header.targetId) :
    wireHeaderFieldsValid header = true := by
  obtain ⟨_, _, _, _, _, hsource', htarget', _, htype'⟩ := xglFrameBuild_ok hbuild
  unfold wireHeaderFieldsValid
  simp only [Bool.and_eq_true, decide_eq_true_eq, bne_iff_ne, beq_iff_eq]
  refine ⟨⟨⟨⟨hversion, hlen⟩, ?_⟩, ?_⟩, ?_⟩
  · rw [hpacket, htype']
    exact frameFlagsAndType_valid htype
  · rw [hsourceId, hsource']
    exact hsource
  · rw [htargetId, htarget']
    exact htarget

/-- A frame with room for it is serialized, when the provider signs. -/
theorem serialize_succeeds {form : FrameForm} {bufferSize : Nat}
    (hbuild : xglFrameBuild params = .ok frame)
    (hsource : params.sourceId ≠ 0) (htarget : params.targetId ≠ 0)
    (htype : wirePacketTypeValid params.packetType = true) (hadmits : form.Admits params)
    (hsigns : form.Signs)
    (hsize : xglFrameSerializedSize frame.payload.length frame.extensions.length form.tagLen
      ≤ bufferSize) :
    ∃ bytes, form.serialize bufferSize frame = .ok bytes := by
  obtain ⟨hext, _, hshort, _, _, _, _, _, _⟩ := xglFrameBuild_ok hbuild
  cases form with
  | plain =>
    obtain ⟨_, hfits⟩ := hadmits
    rw [← hext] at hfits
    have hlen : XGL_WIRE_BASE_HEADER_SIZE ≤ (frameWireHeader frame).headerLen.toNat := by
      unfold frameWireHeader XGL_WIRE_BASE_HEADER_SIZE
      dsimp only
      rw [UInt8.toNat_ofNat', Nat.mod_eq_of_lt (by omega)]
      omega
    exact ⟨_, xglFrameSerialize_ok hfits hsize
      (built_header_valid hbuild hsource htarget htype rfl hlen rfl rfl rfl)⟩
  | authenticated keyId provider =>
    obtain ⟨hpos, hmax, hfits⟩ := hadmits
    obtain ⟨sign, hsign, hsigned⟩ := hsigns
    rw [← hext] at hfits
    have hlen : XGL_WIRE_BASE_HEADER_SIZE ≤ (frameSecuredHeader frame).headerLen.toNat := by
      unfold frameSecuredHeader frameAuthenticatedHeader XGL_WIRE_BASE_HEADER_SIZE
        XGL_SECURITY_EXT_SIZE XGL_SECURITY_EXT_VALUE_SIZE XGL_WIRE_EXT_HEADER_SIZE
      dsimp only
      rw [UInt8.toNat_ofNat', Nat.mod_eq_of_lt (by omega)]
      omega
    have hroom : provider.tagLen ≤ bufferSize - XGL_CRC16_SIZE -
        (XGL_WIRE_BASE_HEADER_SIZE + frame.extensions.length + XGL_SECURITY_EXT_SIZE +
          frame.payload.length) := by
      unfold xglFrameSerializedSize xglFrameAuthOverhead FrameForm.tagLen at hsize
      dsimp only at hsize
      rw [if_pos (by omega)] at hsize
      omega
    obtain ⟨tag, htag, htagLen⟩ := hsigned
      (zeroMutableHeaderBytes (frameAuthenticatedFront frame keyId (UInt8.ofNat provider.tagLen)))
      frame.payload _ hroom
    exact ⟨_, xglFrameSerializeAuthenticated_eq_ok.mpr ⟨by omega, hmax, hfits, hshort,
      built_header_valid hbuild hsource htarget htype rfl hlen rfl rfl rfl, hsize, sign, tag, hsign,
      htagLen, htag, rfl⟩⟩

end RoundTrip

/-- A frame built from valid parameters, with extensions that are records without a
SECURITY_EXT, serialized in either form: it is serialized whenever it has room and the
provider signs, every part of it reads back, and a parser in search of a frame reports
it behind noise without a magic pair, at its last byte and not before. -/
theorem frame_round_trip (params : FrameParams) (frame : Frame) (exts : List WireExt)
    (form : FrameForm) (bufferSize : Nat) (hbuild : xglFrameBuild params = .ok frame)
    (hsource : params.sourceId ≠ 0) (htarget : params.targetId ≠ 0)
    (htype : wirePacketTypeValid params.packetType = true)
    (hexts : params.extensions = encodeWireExts exts) (hencodable : ∀ ext ∈ exts, ext.Encodable)
    (hplain : ∀ ext ∈ exts, ext.type ≠ XGL_WIRE_EXT_SECURITY) (hadmits : form.Admits params) :
    (form.Signs →
      xglFrameSerializedSize frame.payload.length frame.extensions.length form.tagLen
        ≤ bufferSize → ∃ bytes, form.serialize bufferSize frame = .ok bytes) ∧
    ∀ bytes, form.serialize bufferSize frame = .ok bytes →
      ReadsBack form frame exts bytes ∧
      ∀ (cacheBuffer : Bytes) (parser : Parser) (actions : List ParserAction) (noise : Bytes)
        (inputs : List (UInt8 × UInt32)),
        xglParserInit cacheBuffer = .ok parser → (runParser actions parser).state = .magic →
        bytes.length ≤ cacheBuffer.length →
        ¬ [XGL_WIRE_MAGIC_0, XGL_WIRE_MAGIC_1] <:+: noise →
        inputs.map Prod.fst = noise ++ bytes →
        let fed := parserFeedAll inputs (runParser actions parser)
        fed.2 = List.replicate (noise.length + bytes.length - 1) .incomplete ++ [.complete] ∧
        fed.1.cacheLen = bytes.length ∧ fed.1.cache.take bytes.length = bytes := by
  refine ⟨fun hsigns hsize => serialize_succeeds hbuild hsource htarget htype hadmits hsigns hsize,
    fun bytes hok => ?_⟩
  obtain ⟨tag, hassembled, htagLen, rfl, htag⟩ :=
    serialize_assembled hbuild hexts hencodable hplain hadmits hok
  have hparsable := assembled_parsable hassembled
  have hpayload := hassembled.read_payload
  have hreadTag := hassembled.read_tag
  have hwalk := hassembled.walk
  rw [hassembled.headerLen] at hpayload hreadTag hwalk
  rw [Nat.add_sub_cancel_left] at hwalk
  refine ⟨⟨hassembled.decode, hwalk, hpayload, ?_, ?_⟩, ?_⟩
  · rw [read_front, ← htagLen, hreadTag]
    exact htag
  · rw [length_assembledBytes, htagLen]
  · intro cacheBuffer parser actions noise inputs hinit hmagic hfit hno hinputs
    obtain ⟨held, htracks, _⟩ := runParser_holds hinit actions
    have hnil := htracks.held_eq_nil hmagic
    subst hnil
    exact hparsable.reported htracks hfit hno hinputs

/-- Parameters of a reliable frame with a DATA_TYPE_EXT. -/
def sampleParams : FrameParams where
  sourceId := 1
  targetId := 2
  packetType := XGL_PACKET_TYPE_DATA
  flags := 0
  trafficClass := 0
  connectionId := 0
  packetNumber := 7
  extensions := [XGL_WIRE_EXT_DATA_TYPE, 1, 3]
  payload := [0xA5, 0x5A]
  reliable := true
  reliabilityClass := 0
  fragment := false
  priority := 0
  sessionId := 9
  ttl := 8

/-- A provider whose tag is one byte. -/
def sampleSigner : AuthProvider where
  sign := some fun _ _ _ _ => .ok [0xA5]
  tagLen := 1

/-- An authenticated frame with a magic pair in its payload, behind a first magic
byte. -/
theorem frame_round_trip_sample :
    ∃ frame bytes, xglFrameBuild sampleParams = .ok frame ∧
      (FrameForm.authenticated 5 sampleSigner).serialize 64 frame = .ok bytes ∧
      ReadsBack (.authenticated 5 sampleSigner) frame
        [{ type := XGL_WIRE_EXT_DATA_TYPE, value := [3] }] bytes ∧
      (parserFeedAll ((XGL_WIRE_MAGIC_0 :: bytes).map fun byte => (byte, 0)) (idleParser 64)).2
        = List.replicate bytes.length .incomplete ++ [.complete] := by
  obtain ⟨hserialized, hback⟩ := frame_round_trip sampleParams _
    [{ type := XGL_WIRE_EXT_DATA_TYPE, value := [3] }] (.authenticated 5 sampleSigner) 64
    rfl (by decide) (by decide) (by decide) rfl (by simp [WireExt.Encodable]; decide)
    (by decide) ⟨by decide, by decide, by decide⟩
  obtain ⟨bytes, hok⟩ := hserialized
    ⟨_, rfl, fun _ _ _ _ => ⟨_, rfl, rfl⟩⟩ (by decide)
  obtain ⟨hreads, hparsed⟩ := hback bytes hok
  refine ⟨_, bytes, rfl, hok, hreads, ?_⟩
  have hfit : bytes.length ≤ 64 := by
    rw [hreads.length]
    decide
  have hfed := (hparsed (List.replicate 64 0) (idleParser 64) [] [XGL_WIRE_MAGIC_0]
    ((XGL_WIRE_MAGIC_0 :: bytes).map fun byte => (byte, 0)) rfl rfl hfit (by decide)
    (by rw [List.map_map]; exact List.map_id _)).1
  rw [List.length_singleton, Nat.add_sub_cancel_left] at hfed
  exact hfed

end XgenLink
