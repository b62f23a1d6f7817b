import XgenLink.Network.CheckedMetadata

/-!
# `XgenLink.Proofs.FrameReads`: the bytes the receive decoders look at

The decoders of the other modules read a list and get a default behind its end. A C function gets
whatever is in memory there. So this module looks at the decoders with reads that are checked: a
read outside the frame has no result, and a decoder that makes one has none either.

Both decoders bound their walk over the extensions by `header_len`, a byte of the frame, and
compare it with the length of the frame only afterwards. A frame whose `header_len` lies behind
its end therefore sends the walk out of the buffer, unless a record refuses to be read first.
`frame_reads_iff` says for which frames. The parser builds frames of the announced lengths only,
so the frames it completes are not among them; the decoders do not rely on that for anything else
they check.

* `datalinkRxExtStep`, `networkExtStep`: the bodies of the two loops, and `datalinkTouch`,
  `networkTouch`: what they do before they see a value.
* `datalinkRxExt_walkStep`, `networkExt_walkStep`: the bodies over checked reads are these.
* `DatalinkOverruns`, `NetworkOverruns`: the frames whose walk leaves them.
* `xglDatalinkDecodeRxMetadataChecked_eq`, `xglNetworkDecodeFrameMetadataChecked_eq`: a checked
  decoder that has a result has that of the decoder.
* `xglDatalinkDecodeRxMetadataChecked_none_iff`,
  `xglNetworkDecodeFrameMetadataChecked_none_iff`: when it has none.
* `frame_reads_iff`, `frame_reads_outside`: all of it, and a frame that is read outside.
-/

set_option autoImplicit false

namespace XgenLink

/-! ### Blocks that were read -/

/-- The base header is decoded from its own bytes. -/
theorem xglWireDecodeHeaderChecked_eq {buffer : Bytes} {bufferSize : Nat}
    {out : Except XglError WireHeader}
    (h : xglWireDecodeHeaderChecked buffer bufferSize = some out) :
    xglWireDecodeHeader buffer bufferSize = out := by
  unfold xglWireDecodeHeaderChecked at h
  split at h
  · rename_i hshort
    rw [xglWireDecodeHeader, if_pos hshort]
    exact Option.some.inj h
  · rename_i hsize
    simp only [checkedBytes, Option.bind_eq_bind, Option.bind_eq_some_iff] at h
    obtain ⟨base, hbase, hout⟩ := h
    split at hbase
    · cases hbase
      have hsame := Option.some.inj hout
      rw [← hsame]
      refine xglWireDecodeHeader_congr (Nat.le_of_not_lt hsize) (Nat.le_of_not_lt hsize) ?_
      intro i hi
      rw [byteAt_readBytes _ _ _ _ hi, Nat.zero_add]
    · cases hbase

/-- With the base header in the buffer it is read. -/
theorem xglWireDecodeHeaderChecked_of_le {buffer : Bytes} {bufferSize : Nat}
    (hbuffer : XGL_WIRE_BASE_HEADER_SIZE ≤ buffer.length) :
    xglWireDecodeHeaderChecked buffer bufferSize
      = some (xglWireDecodeHeader buffer bufferSize) := by
  cases hout : xglWireDecodeHeaderChecked buffer bufferSize with
  | some out => rw [xglWireDecodeHeaderChecked_eq hout]
  | none =>
    simp only [xglWireDecodeHeaderChecked, checkedBytes_of_le (show 0 + XGL_WIRE_BASE_HEADER_SIZE ≤
      buffer.length by rwa [Nat.zero_add])] at hout
    split at hout <;> cases hout

/-! ### The loop bodies -/

/-- The body of the loop of `datalink_decode_rx_extensions` on a record. -/
def datalinkRxExtStep (authRequired : Bool) (requiredAuthKeyId : UInt32) (ext : WireExt)
    (metadata : DatalinkRxMetadata) :
    Except (XglError × DatalinkRxMetadata) DatalinkRxMetadata :=
  if ext.type == XGL_WIRE_EXT_SECURITY then
    match xglWireDecodeSecurityExtValue ext.value with
    | .error _ => .error (.invalidFrame, metadata)
    | .ok security =>
      if authRequired && security.keyId != requiredAuthKeyId then
        .error (.invalidFrame, { metadata with
          authKeyId := security.keyId, authKeyRejected := true })
      else
        .ok { metadata with
          authKeyId := security.keyId, authTagLen := security.tagLen, hasSecurityExt := true }
  else if ext.type == XGL_WIRE_EXT_SESSION then
    match xglWireDecodeSessionExtValue ext.value with
    | .error _ => .error (.invalidFrame, metadata)
    | .ok session => .ok { metadata with sessionEpoch := session.1 }
  else .ok metadata

/-- The body of the loop of `xgl_network_decode_ext_metadata` on a record. -/
def networkExtStep (ext : WireExt) (metadata : NetworkExtMetadata) :
    Except XglError NetworkExtMetadata :=
  if ext.type == XGL_WIRE_EXT_DATA_TYPE then
    if metadata.dataTypeFound || ext.value.length != 1 then .error .invalidFrame
    else .ok { metadata with dataType := byteAt ext.value 0, dataTypeFound := true }
  else if ext.type == XGL_WIRE_EXT_SESSION then
    if metadata.sessionEpochFound then .error .invalidFrame
    else
      match xglWireDecodeSessionExtValue ext.value with
      | .error err => .error err
      | .ok session => .ok { metadata with sessionEpoch := session.1, sessionEpochFound := true }
  else .ok metadata

/-- What the datalink does to a record before it has seen the value: a SECURITY_EXT or SESSION_EXT
of another length than theirs is refused, one of that length is read. -/
def datalinkTouch (_ : DatalinkRxMetadata) (type : UInt8) (len : Nat) : ExtTouch :=
  if type == XGL_WIRE_EXT_SECURITY then
    if len == XGL_SECURITY_EXT_VALUE_SIZE then .reads else .refuses
  else if type == XGL_WIRE_EXT_SESSION then
    if len == XGL_SESSION_EXT_VALUE_SIZE then .reads else .refuses
  else .skips

/-- What the network layer does to a record before it has seen the value: it refuses a second
record of a type it takes, and one of another length. -/
def networkTouch (metadata : NetworkExtMetadata) (type : UInt8) (len : Nat) : ExtTouch :=
  if type == XGL_WIRE_EXT_DATA_TYPE then
    if metadata.dataTypeFound || len != 1 then .refuses else .reads
  else if type == XGL_WIRE_EXT_SESSION then
    if metadata.sessionEpochFound || len != XGL_SESSION_EXT_VALUE_SIZE then .refuses else .reads
  else .skips

/-- The datalink's loop runs its body over the records. -/
theorem datalinkRxExtensionLoop_eq (authRequired : Bool) (key : UInt32) (final : XglError)
    (exts : List WireExt) (metadata : DatalinkRxMetadata) :
    datalinkRxExtensionLoop authRequired key final exts metadata =
      match exts.foldlM (fun metadata ext => datalinkRxExtStep authRequired key ext metadata)
        metadata with
      | .error refusal => refusal
      | .ok metadata => (if final == .notFound then .ok else .invalidFrame, metadata) := by
  induction exts generalizing metadata with
  | nil => rfl
  | cons ext rest ih =>
    rw [datalinkRxExtensionLoop, List.foldlM_cons, datalinkRxExtStep]
    split
    · cases xglWireDecodeSecurityExtValue ext.value with
      | error err => rfl
      | ok security =>
        dsimp only
        split
        · rfl
        · exact ih _
    · split
      · cases xglWireDecodeSessionExtValue ext.value with
        | error err => rfl
        | ok session => exact ih _
      · exact ih _

/-- The network layer's loop runs its body over the records. -/
theorem networkExtLoop_eq (final : XglError) (exts : List WireExt)
    (metadata : NetworkExtMetadata) :
    networkExtLoop final exts metadata =
      match exts.foldlM (fun metadata ext => networkExtStep ext metadata) metadata with
      | .error err => .error err
      | .ok metadata => if final == .notFound then .ok metadata else .error final := by
  induction exts generalizing metadata with
  | nil => rfl
  | cons ext rest ih =>
    rw [networkExtLoop, List.foldlM_cons, networkExtStep]
    split
    · split
      · rfl
      · exact ih _
    · split
      · split
        · rfl
        · cases xglWireDecodeSessionExtValue ext.value with
          | error err => rfl
          | ok session => exact ih _
      · exact ih _

section Values

variable {Fields : Type} {size : Nat} {decode : Bytes → Except XglError Fields} {memory : Bytes}
  {ext : WireExtSlice}

/-- A value of another length is refused unseen. -/
theorem decodeExtValueChecked_ne (h : ext.valueLen ≠ size) :
    decodeExtValueChecked size decode memory ext = some (.error .invalidFrame) := by
  rw [decodeExtValueChecked, if_pos (by simpa using h)]

/-- A value inside the memory is decoded. -/
theorem decodeExtValueChecked_inside
    (hdecode : ∀ value : Bytes, value.length ≠ size → decode value = .error .invalidFrame)
    (hin : ext.valueOffset + ext.valueLen ≤ memory.length) :
    decodeExtValueChecked size decode memory ext = some (decode (ext.toExt memory).value) := by
  by_cases hsize : ext.valueLen = size
  · rw [decodeExtValueChecked, if_neg (by simpa using hsize), checkedBytes_of_le hin]
    rfl
  · rw [decodeExtValueChecked_ne hsize, hdecode]
    show (readBytes memory ext.valueOffset ext.valueLen).length ≠ size
    rwa [length_readBytes]

/-- A value that crosses the end of the memory is not. -/
theorem decodeExtValueChecked_outside (hsize : ext.valueLen = size)
    (hout : memory.length < ext.valueOffset + ext.valueLen) :
    decodeExtValueChecked size decode memory ext = none := by
  rw [decodeExtValueChecked, if_neg (by simpa using hsize), checkedBytes_of_lt hout]
  rfl

end Values

/-- A SECURITY_EXT of another length is refused. -/
theorem xglWireDecodeSecurityExtValue_ne (value : Bytes)
    (h : value.length ≠ XGL_SECURITY_EXT_VALUE_SIZE) :
    xglWireDecodeSecurityExtValue value = .error .invalidFrame := by
  rw [xglWireDecodeSecurityExtValue, if_pos (by simpa using h)]

/-- So is a SESSION_EXT of another length. -/
theorem xglWireDecodeSessionExtValue_ne (value : Bytes)
    (h : value.length ≠ XGL_SESSION_EXT_VALUE_SIZE) :
    xglWireDecodeSessionExtValue value = .error .invalidFrame := by
  rw [xglWireDecodeSessionExtValue, if_pos (by simpa using h)]

/-- A record is as long in the area as it says. -/
theorem length_toExt_value (ext : WireExtSlice) (memory : Bytes) :
    (ext.toExt memory).value.length = ext.valueLen :=
  length_readBytes _ _ _

/-- The datalink's body over checked reads. -/
theorem datalinkRxExt_walkStep (authRequired : Bool) (key : UInt32) (memory : Bytes) :
    WalkStep memory (datalinkRxExtStepChecked authRequired key memory)
      (datalinkRxExtStep authRequired key) datalinkTouch where
  inside slice metadata hin := by
    have hsecurity := decodeExtValueChecked_inside xglWireDecodeSecurityExtValue_ne hin
    have hsession := decodeExtValueChecked_inside xglWireDecodeSessionExtValue_ne hin
    simp only [datalinkRxExtStepChecked, datalinkRxExtStep, xglWireDecodeSecurityExtValueChecked,
      xglWireDecodeSessionExtValueChecked, hsecurity, hsession, Option.bind_eq_bind,
      Option.bind_some]
    show _ = some (if slice.type == XGL_WIRE_EXT_SECURITY then _ else
      if slice.type == XGL_WIRE_EXT_SESSION then _ else _)
    split
    · cases xglWireDecodeSecurityExtValue (slice.toExt memory).value with
      | error err => rfl
      | ok security =>
        dsimp only
        split <;> rfl
    · split
      · cases xglWireDecodeSessionExtValue (slice.toExt memory).value with
        | error err => rfl
        | ok session => rfl
      · rfl
  reads slice metadata hout htouch := by
    simp only [datalinkTouch] at htouch
    simp only [datalinkRxExtStepChecked]
    split at htouch
    · rename_i htype
      split at htouch
      · rename_i hsize
        rw [if_pos htype, xglWireDecodeSecurityExtValueChecked,
          decodeExtValueChecked_outside (beq_iff_eq.mp hsize) hout]
        rfl
      · cases htouch
    · rename_i htype
      split at htouch
      · rename_i hsession
        split at htouch
        · rename_i hsize
          rw [if_neg htype, if_pos hsession, xglWireDecodeSessionExtValueChecked,
            decodeExtValueChecked_outside (beq_iff_eq.mp hsize) hout]
          rfl
        · cases htouch
      · cases htouch
  refuses slice metadata htouch := by
    have hvalue := length_toExt_value slice memory
    simp only [datalinkTouch] at htouch
    simp only [datalinkRxExtStepChecked, datalinkRxExtStep]
    split at htouch
    · rename_i htype
      split at htouch
      · cases htouch
      · rename_i hsize
        have hne : slice.valueLen ≠ XGL_SECURITY_EXT_VALUE_SIZE := by simpa using hsize
        refine ⟨(.invalidFrame, metadata), ?_, ?_⟩
        · rw [if_pos htype, xglWireDecodeSecurityExtValueChecked, decodeExtValueChecked_ne hne]
          rfl
        · rw [if_pos (show ((slice.toExt memory).type == XGL_WIRE_EXT_SECURITY) = true from htype),
            xglWireDecodeSecurityExtValue_ne _ (hvalue ▸ hne)]
    · rename_i htype
      split at htouch
      · rename_i hsession
        split at htouch
        · cases htouch
        · rename_i hsize
          have hne : slice.valueLen ≠ XGL_SESSION_EXT_VALUE_SIZE := by simpa using hsize
          refine ⟨(.invalidFrame, metadata), ?_, ?_⟩
          · rw [if_neg htype, if_pos hsession, xglWireDecodeSessionExtValueChecked,
              decodeExtValueChecked_ne hne]
            rfl
          · rw [if_neg (show ¬ ((slice.toExt memory).type == XGL_WIRE_EXT_SECURITY) = true
                from htype),
              if_pos (show ((slice.toExt memory).type == XGL_WIRE_EXT_SESSION) = true
                from hsession),
              xglWireDecodeSessionExtValue_ne _ (hvalue ▸ hne)]
      · cases htouch
  skips slice metadata htouch := by
    simp only [datalinkTouch] at htouch
    simp only [datalinkRxExtStepChecked, datalinkRxExtStep]
    split at htouch
    · split at htouch <;> cases htouch
    · rename_i htype
      split at htouch
      · split at htouch <;> cases htouch
      · rename_i hsession
        exact ⟨by rw [if_neg htype, if_neg hsession],
          (if_neg htype).trans (if_neg hsession)⟩

/-- The network layer's body over checked reads. -/
theorem networkExt_walkStep (memory : Bytes) :
    WalkStep memory (networkExtStepChecked memory) networkExtStep networkTouch where
  inside slice metadata hin := by
    have hvalue := length_toExt_value slice memory
    have hsession := decodeExtValueChecked_inside xglWireDecodeSessionExtValue_ne hin
    simp only [networkExtStepChecked, networkExtStep, xglWireDecodeSessionExtValueChecked, hsession,
      Option.bind_eq_bind, Option.bind_some, hvalue]
    show _ = some (if slice.type == XGL_WIRE_EXT_DATA_TYPE then _ else
      if slice.type == XGL_WIRE_EXT_SESSION then _ else _)
    split
    · split
      · rfl
      · rename_i hlen
        rw [Bool.or_eq_true, not_or, bne_iff_ne, not_not] at hlen
        have hbyte : byteAt (slice.toExt memory).value 0 = byteAt memory slice.valueOffset :=
          byteAt_readBytes memory slice.valueOffset slice.valueLen 0 (by omega)
        rw [checkedByte_of_lt (by omega), hbyte]
        rfl
    · split
      · split
        · rfl
        · cases xglWireDecodeSessionExtValue (slice.toExt memory).value with
          | error err => rfl
          | ok session => rfl
      · rfl
  reads slice metadata hout htouch := by
    simp only [networkTouch] at htouch
    simp only [networkExtStepChecked]
    split at htouch
    · rename_i htype
      split at htouch
      · cases htouch
      · rename_i hlen
        rw [if_pos htype, if_neg hlen]
        rw [Bool.or_eq_true, not_or, bne_iff_ne, not_not] at hlen
        rw [checkedByte_of_le (by omega)]
        rfl
    · rename_i htype
      split at htouch
      · rename_i hsession
        split at htouch
        · cases htouch
        · rename_i hlen
          rw [Bool.or_eq_true, not_or, bne_iff_ne, not_not] at hlen
          rw [if_neg htype, if_pos hsession, if_neg hlen.1, xglWireDecodeSessionExtValueChecked,
            decodeExtValueChecked_outside hlen.2 hout]
          rfl
      · cases htouch
  refuses slice metadata htouch := by
    have hvalue := length_toExt_value slice memory
    simp only [networkTouch] at htouch
    simp only [networkExtStepChecked, networkExtStep, hvalue]
    refine ⟨.invalidFrame, ?_⟩
    show _ ∧ (if slice.type == XGL_WIRE_EXT_DATA_TYPE then _ else
      if slice.type == XGL_WIRE_EXT_SESSION then _ else _) = _
    split at htouch
    · rename_i htype
      split at htouch
      · rename_i hlen
        rw [if_pos htype, if_pos hlen, if_pos htype, if_pos hlen]
        exact ⟨rfl, rfl⟩
      · cases htouch
    · rename_i htype
      split at htouch
      · rename_i hsession
        rw [if_neg htype, if_pos hsession, if_neg htype, if_pos hsession]
        split at htouch
        · rename_i hlen
          -- a second SESSION record is refused before its value is read
          by_cases hfound : metadata.sessionEpochFound = true
          · rw [if_pos hfound, if_pos hfound]
            exact ⟨rfl, rfl⟩
          · have hne : slice.valueLen ≠ XGL_SESSION_EXT_VALUE_SIZE := by simpa [hfound] using hlen
            rw [if_neg hfound, if_neg hfound, xglWireDecodeSessionExtValueChecked,
              decodeExtValueChecked_ne hne, xglWireDecodeSessionExtValue_ne _ (hvalue ▸ hne)]
            exact ⟨rfl, rfl⟩
        · cases htouch
      · cases htouch
  skips slice metadata htouch := by
    simp only [networkTouch] at htouch
    simp only [networkExtStepChecked, networkExtStep]
    split at htouch
    · split at htouch <;> cases htouch
    · rename_i htype
      split at htouch
      · split at htouch <;> cases htouch
      · rename_i hsession
        exact ⟨by rw [if_neg htype, if_neg hsession],
          (if_neg htype).trans (if_neg hsession)⟩

/-! ### The decoders -/

/-- The datalink's walk over the extensions of this frame leaves it. -/
def DatalinkOverruns (authRequired : Bool) (requiredAuthKeyId : UInt32) (frame : Bytes) : Prop :=
  XGL_WIRE_BASE_HEADER_SIZE + XGL_CRC16_SIZE ≤ frame.length ∧
    frame.length ≤ XGL_DATALINK_MAX_FRAME_SIZE ∧
    ∃ header, xglWireDecodeHeader frame frame.length = .ok header ∧
      WalkOverruns (frame.drop XGL_WIRE_BASE_HEADER_SIZE)
        (header.headerLen.toNat - XGL_WIRE_BASE_HEADER_SIZE)
        (datalinkRxExtStep authRequired requiredAuthKeyId) datalinkTouch { header := header }

/-- The network layer's walk over the extensions of this frame leaves it. -/
def NetworkOverruns (frame : Bytes) : Prop :=
  XGL_WIRE_BASE_HEADER_SIZE + XGL_CRC16_SIZE ≤ frame.length ∧
    ∃ header, xglWireDecodeHeader frame frame.length = .ok header ∧
      WalkOverruns (frame.drop XGL_WIRE_BASE_HEADER_SIZE)
        (header.headerLen.toNat - XGL_WIRE_BASE_HEADER_SIZE) networkExtStep networkTouch {}

/-- An empty area is not left. -/
theorem not_walkOverruns_zero {State Refusal : Type} {memory : Bytes} {areaLen : Nat}
    {body : WireExt → State → Except Refusal State} {touch : State → UInt8 → Nat → ExtTouch}
    {state : State} (hzero : areaLen = 0) : ¬ WalkOverruns memory areaLen body touch state := by
  rintro ⟨hlong, -⟩
  omega

/-- The datalink leaves a frame in its extension area or nowhere. -/
theorem datalinkDecodeRxExtensionsChecked_none_iff (frame : Bytes) (header : WireHeader)
    (authRequired : Bool) (key : UInt32) (metadata : DatalinkRxMetadata) :
    datalinkDecodeRxExtensionsChecked frame header authRequired key metadata = none ↔
      WalkOverruns (frame.drop XGL_WIRE_BASE_HEADER_SIZE)
        (header.headerLen.toNat - XGL_WIRE_BASE_HEADER_SIZE) (datalinkRxExtStep authRequired key)
        datalinkTouch metadata := by
  rw [datalinkDecodeRxExtensionsChecked]
  split
  · rename_i hshort
    constructor
    · intro hnone
      cases hnone
    · intro hover
      exact absurd hover (not_walkOverruns_zero (by omega))
  · rw [← walkExtsChecked_overruns_iff (datalinkRxExt_walkStep authRequired key
      (frame.drop XGL_WIRE_BASE_HEADER_SIZE))]
    dsimp only
    cases walkExtsChecked (datalinkRxExtStepChecked authRequired key
        (frame.drop XGL_WIRE_BASE_HEADER_SIZE))
        (header.headerLen.toNat - XGL_WIRE_BASE_HEADER_SIZE + 1)
        { buffer := frame.drop XGL_WIRE_BASE_HEADER_SIZE
          len := header.headerLen.toNat - XGL_WIRE_BASE_HEADER_SIZE, offset := 0 } metadata with
    | none => simp
    | some out => cases out <;> simp

/-- So does the network layer. -/
theorem xglNetworkDecodeExtMetadataChecked_none_iff (extensions : Bytes) (extensionsLen : Nat) :
    xglNetworkDecodeExtMetadataChecked extensions extensionsLen = none ↔
      WalkOverruns extensions extensionsLen networkExtStep networkTouch {} := by
  rw [xglNetworkDecodeExtMetadataChecked]
  split
  · rename_i hzero
    constructor
    · intro hnone
      cases hnone
    · intro hover
      exact absurd hover (not_walkOverruns_zero (beq_iff_eq.mp hzero))
  · rw [← walkExtsChecked_overruns_iff (networkExt_walkStep extensions)]
    cases walkExtsChecked (networkExtStepChecked extensions) (extensionsLen + 1)
        { buffer := extensions, len := extensionsLen, offset := 0 } {} with
    | none => simp
    | some out => cases out <;> simp

/-- The checksum and the length equation are read inside the frame. -/
theorem datalinkCheckRxFrameChecked_eq {frame : Bytes} (hlen : XGL_CRC16_SIZE ≤ frame.length)
    (metadata : DatalinkRxMetadata) :
    datalinkCheckRxFrameChecked frame metadata
      = some (datalinkCheckRxFrame frame frame.length metadata) := by
  have hreceived : xglDeserializeU16Le (readBytes frame (frame.length - XGL_CRC16_SIZE)
      XGL_CRC16_SIZE) = xglDeserializeU16Le (frame.drop (frame.length - XGL_CRC16_SIZE)) := by
    unfold xglDeserializeU16Le
    rw [byteAt_readBytes _ _ _ _ (by decide), byteAt_readBytes _ _ _ _ (by decide), byteAt_drop,
      byteAt_drop]
  rw [datalinkCheckRxFrameChecked, checkedBytes_of_le (by omega), checkedBytes_of_le (by omega)]
  simp only [Option.bind_eq_bind, Option.bind_some, hreceived, datalinkCheckRxFrame]
  split
  · rfl
  · split <;> rfl

/-- The datalink's decoder behind its early checks. -/
theorem xglDatalinkDecodeRxMetadataChecked_of_header {frame : Bytes} (authRequired : Bool)
    (key : UInt32) {header : WireHeader}
    (hmin : XGL_WIRE_BASE_HEADER_SIZE + XGL_CRC16_SIZE ≤ frame.length)
    (hmax : frame.length ≤ XGL_DATALINK_MAX_FRAME_SIZE)
    (hheader : xglWireDecodeHeader frame frame.length = .ok header) :
    xglDatalinkDecodeRxMetadataChecked frame authRequired key =
      (datalinkDecodeRxExtensionsChecked frame header authRequired key
        { header := header }).map fun decoded =>
          if decoded.1 = .ok then datalinkCheckRxFrame frame frame.length decoded.2
          else decoded := by
  obtain ⟨-, h0, h1, -⟩ := xglWireDecodeHeader_eq_ok.mp hheader
  unfold XGL_WIRE_BASE_HEADER_SIZE XGL_CRC16_SIZE at hmin
  rw [xglDatalinkDecodeRxMetadataChecked,
    if_neg (by
      rw [Bool.or_eq_true, decide_eq_true_eq, decide_eq_true_eq]
      unfold XGL_WIRE_BASE_HEADER_SIZE XGL_CRC16_SIZE
      omega),
    checkedByte_of_lt (by omega), checkedByte_of_lt (by omega), h0, h1,
    xglWireDecodeHeaderChecked_of_le (by unfold XGL_WIRE_BASE_HEADER_SIZE; omega), hheader]
  simp only [Option.bind_eq_bind, Option.bind_some, bne_self_eq_false, Bool.or_self,
    Bool.false_eq_true, if_false]
  cases hext : datalinkDecodeRxExtensionsChecked frame header authRequired key
    { header := header } with
  | none => rfl
  | some decoded =>
    obtain ⟨err, metadata⟩ := decoded
    cases err with
    | ok => exact datalinkCheckRxFrameChecked_eq (by unfold XGL_CRC16_SIZE; omega) metadata
    | _ => rfl

/-- What the datalink's decoder reports of a frame it stays inside. -/
theorem datalinkDecodeRxExtensionsChecked_eq {frame : Bytes} {header : WireHeader}
    {authRequired : Bool} {key : UInt32} {metadata : DatalinkRxMetadata}
    {out : XglError × DatalinkRxMetadata}
    (h : datalinkDecodeRxExtensionsChecked frame header authRequired key metadata = some out) :
    datalinkDecodeRxExtensions frame header authRequired key metadata = out := by
  rw [datalinkDecodeRxExtensionsChecked] at h
  rw [datalinkDecodeRxExtensions]
  split at h
  · rename_i hshort
    rw [if_pos hshort]
    exact Option.some.inj h
  · rename_i hlong
    rw [if_neg hlong]
    simp only [Option.bind_eq_bind, Option.bind_eq_some_iff] at h
    obtain ⟨walked, hwalked, hout⟩ := h
    have hloop := walkExtsChecked_eq (datalinkRxExt_walkStep authRequired key
      (frame.drop XGL_WIRE_BASE_HEADER_SIZE)) rfl hwalked
    dsimp only
    rw [datalinkRxExtensionLoop_eq, wireExts]
    generalize wireExtStream _ _ = walk at hloop ⊢
    cases hfold : walk.1.foldlM
        (fun metadata ext => datalinkRxExtStep authRequired key ext metadata)
        metadata with
    | error refusal =>
      rw [hfold] at hloop
      cases hloop
      exact Option.some.inj hout
    | ok after =>
      rw [hfold] at hloop
      cases hloop
      exact Option.some.inj hout

/-- What the network layer reports of an extension area it stays inside. -/
theorem xglNetworkDecodeExtMetadataChecked_eq {extensions : Bytes} {extensionsLen : Nat}
    {out : Except XglError NetworkExtMetadata}
    (h : xglNetworkDecodeExtMetadataChecked extensions extensionsLen = some out) :
    xglNetworkDecodeExtMetadata extensions extensionsLen = out := by
  rw [xglNetworkDecodeExtMetadataChecked] at h
  rw [xglNetworkDecodeExtMetadata]
  split at h
  · rename_i hzero
    rw [if_pos hzero]
    exact Option.some.inj h
  · rename_i hlong
    rw [if_neg hlong]
    simp only [Option.bind_eq_bind, Option.bind_eq_some_iff] at h
    obtain ⟨walked, hwalked, hout⟩ := h
    have hloop := walkExtsChecked_eq (networkExt_walkStep extensions) rfl hwalked
    rw [networkExtLoop_eq, wireExts]
    generalize wireExtStream _ _ = walk at hloop ⊢
    cases hfold : walk.1.foldlM (fun metadata ext => networkExtStep ext metadata) {} with
    | error refusal =>
      rw [hfold] at hloop
      cases hloop
      exact Option.some.inj hout
    | ok after =>
      rw [hfold] at hloop
      cases hloop
      exact Option.some.inj hout

/-- Where the checked decoder has a result it is that of the decoder. -/
theorem xglDatalinkDecodeRxMetadataChecked_eq {frame : Bytes} {authRequired : Bool} {key : UInt32}
    {out : XglError × DatalinkRxMetadata}
    (h : xglDatalinkDecodeRxMetadataChecked frame authRequired key = some out) :
    xglDatalinkDecodeRxMetadata frame frame.length authRequired key = out := by
  by_cases hsize : (decide (frame.length < XGL_WIRE_BASE_HEADER_SIZE + XGL_CRC16_SIZE) ||
      decide (frame.length > XGL_DATALINK_MAX_FRAME_SIZE)) = true
  · rw [xglDatalinkDecodeRxMetadataChecked, if_pos hsize] at h
    rw [xglDatalinkDecodeRxMetadata, if_pos hsize]
    exact Option.some.inj h
  · have hbounds := hsize
    simp only [Bool.or_eq_true, decide_eq_true_eq, not_or, not_lt] at hbounds
    obtain ⟨hmin, hmax⟩ := hbounds
    have hmin' := hmin
    unfold XGL_WIRE_BASE_HEADER_SIZE XGL_CRC16_SIZE at hmin'
    cases hheader : xglWireDecodeHeader frame frame.length with
    | error err =>
      rw [xglDatalinkDecodeRxMetadataChecked, if_neg hsize, checkedByte_of_lt (by omega),
        checkedByte_of_lt (by omega),
        xglWireDecodeHeaderChecked_of_le (by unfold XGL_WIRE_BASE_HEADER_SIZE; omega),
        hheader] at h
      rw [xglDatalinkDecodeRxMetadata, if_neg hsize, hheader]
      simp only [Option.bind_eq_bind, Option.bind_some] at h
      split at h
      · rename_i hmagic
        rw [if_pos hmagic]
        exact Option.some.inj h
      · rename_i hmagic
        rw [if_neg hmagic]
        exact Option.some.inj h
    | ok header =>
      obtain ⟨-, h0, h1, -⟩ := xglWireDecodeHeader_eq_ok.mp hheader
      rw [xglDatalinkDecodeRxMetadataChecked_of_header authRequired key hmin hmax hheader,
        Option.map_eq_some_iff] at h
      obtain ⟨decoded, hext, hout⟩ := h
      have hplain := datalinkDecodeRxExtensionsChecked_eq hext
      rw [xglDatalinkDecodeRxMetadata, if_neg hsize, if_neg (by simp [h0, h1]), hheader]
      dsimp only
      rw [hplain]
      obtain ⟨err, metadata⟩ := decoded
      cases err with
      | ok => exact hout
      | _ => exact hout

/-- The datalink's decoder leaves a frame just when its walk does. -/
theorem xglDatalinkDecodeRxMetadataChecked_none_iff (frame : Bytes) (authRequired : Bool)
    (key : UInt32) :
    xglDatalinkDecodeRxMetadataChecked frame authRequired key = none ↔
      DatalinkOverruns authRequired key frame := by
  by_cases hsize : (decide (frame.length < XGL_WIRE_BASE_HEADER_SIZE + XGL_CRC16_SIZE) ||
      decide (frame.length > XGL_DATALINK_MAX_FRAME_SIZE)) = true
  · rw [xglDatalinkDecodeRxMetadataChecked, if_pos hsize]
    simp only [Bool.or_eq_true, decide_eq_true_eq] at hsize
    constructor
    · intro hnone
      cases hnone
    · rintro ⟨hmin, hmax, -⟩
      omega
  · have hbounds := hsize
    simp only [Bool.or_eq_true, decide_eq_true_eq, not_or, not_lt] at hbounds
    obtain ⟨hmin, hmax⟩ := hbounds
    have hmin' := hmin
    unfold XGL_WIRE_BASE_HEADER_SIZE XGL_CRC16_SIZE at hmin'
    cases hheader : xglWireDecodeHeader frame frame.length with
    | error err =>
      rw [xglDatalinkDecodeRxMetadataChecked, if_neg hsize, checkedByte_of_lt (by omega),
        checkedByte_of_lt (by omega),
        xglWireDecodeHeaderChecked_of_le (by unfold XGL_WIRE_BASE_HEADER_SIZE; omega), hheader]
      simp only [Option.bind_eq_bind, Option.bind_some]
      constructor
      · intro hnone
        split at hnone <;> cases hnone
      · rintro ⟨-, -, header, hother, -⟩
        rw [hheader] at hother
        cases hother
    | ok header =>
      rw [xglDatalinkDecodeRxMetadataChecked_of_header authRequired key hmin hmax hheader,
        Option.map_eq_none_iff, datalinkDecodeRxExtensionsChecked_none_iff]
      constructor
      · intro hover
        exact ⟨hmin, hmax, header, hheader, hover⟩
      · rintro ⟨-, -, other, hother, hover⟩
        rw [hheader] at hother
        cases hother
        exact hover

/-- A result of the network layer's checked decoder is that of the decoder. -/
theorem xglNetworkDecodeFrameMetadataChecked_eq {frame : Bytes}
    {out : Except XglError NetworkFrameMetadata}
    (h : xglNetworkDecodeFrameMetadataChecked frame = some out) :
    xglNetworkDecodeFrameMetadata frame frame.length = out := by
  rw [xglNetworkDecodeFrameMetadataChecked] at h
  rw [xglNetworkDecodeFrameMetadata]
  split at h
  · rename_i hshort
    rw [if_pos hshort]
    exact Option.some.inj h
  rename_i hsize
  rw [if_neg hsize]
  have hbase : XGL_WIRE_BASE_HEADER_SIZE ≤ frame.length := by
    unfold XGL_WIRE_BASE_HEADER_SIZE XGL_CRC16_SIZE at hsize
    unfold XGL_WIRE_BASE_HEADER_SIZE
    omega
  rw [xglWireDecodeHeaderChecked_of_le hbase] at h
  simp only [Option.bind_eq_bind, Option.bind_some] at h
  cases hheader : xglWireDecodeHeader frame frame.length with
  | error err =>
    rw [hheader] at h
    exact Option.some.inj h
  | ok header =>
    rw [hheader] at h
    simp only [Option.bind_eq_some_iff] at h
    obtain ⟨ext, hext, hout⟩ := h
    dsimp only
    rw [xglNetworkDecodeExtMetadataChecked_eq hext]
    -- with the extensions decoded, only the payload is left to be read
    cases ext with
    | error err => exact Option.some.inj hout
    | ok ext =>
      dsimp only at hout ⊢
      split at hout
      · rename_i hlengths
        rw [if_pos hlengths]
        exact Option.some.inj hout
      · rename_i hlengths
        rw [if_neg hlengths]
        simp only [checkedBytes, Option.bind_eq_some_iff] at hout
        obtain ⟨extensions, hextensions, payload, hpayload, hout⟩ := hout
        split at hextensions
        · split at hpayload
          · cases hextensions
            cases hpayload
            exact Option.some.inj hout
          · cases hpayload
        · cases hextensions

/-- The network layer's decoder leaves a frame just when its walk does. -/
theorem xglNetworkDecodeFrameMetadataChecked_none_iff (frame : Bytes) :
    xglNetworkDecodeFrameMetadataChecked frame = none ↔ NetworkOverruns frame := by
  rw [xglNetworkDecodeFrameMetadataChecked]
  split
  · rename_i hshort
    constructor
    · intro hnone
      cases hnone
    · rintro ⟨hmin, -⟩
      omega
  rename_i hsize
  have hbase : XGL_WIRE_BASE_HEADER_SIZE ≤ frame.length := by
    unfold XGL_WIRE_BASE_HEADER_SIZE XGL_CRC16_SIZE at hsize
    unfold XGL_WIRE_BASE_HEADER_SIZE
    omega
  rw [xglWireDecodeHeaderChecked_of_le hbase]
  simp only [Option.bind_eq_bind, Option.bind_some]
  cases hheader : xglWireDecodeHeader frame frame.length with
  | error err =>
    constructor
    · intro hnone
      cases hnone
    · rintro ⟨-, header, hother, -⟩
      rw [hheader] at hother
      cases hother
  | ok header =>
    have hwalk : NetworkOverruns frame ↔
        xglNetworkDecodeExtMetadataChecked (frame.drop XGL_WIRE_BASE_HEADER_SIZE)
          (header.headerLen.toNat - XGL_WIRE_BASE_HEADER_SIZE) = none := by
      rw [xglNetworkDecodeExtMetadataChecked_none_iff]
      constructor
      · rintro ⟨-, other, hother, hover⟩
        rw [hheader] at hother
        cases hother
        exact hover
      · intro hover
        exact ⟨Nat.le_of_not_lt hsize, header, hheader, hover⟩
    rw [hwalk]
    dsimp only
    cases xglNetworkDecodeExtMetadataChecked (frame.drop XGL_WIRE_BASE_HEADER_SIZE)
        (header.headerLen.toNat - XGL_WIRE_BASE_HEADER_SIZE) with
    | none => simp
    | some ext =>
      cases ext with
      | error err => simp
      | ok ext =>
        have hvalid : XGL_WIRE_BASE_HEADER_SIZE ≤ header.headerLen.toNat := by
          have hfields := (xglWireDecodeHeader_eq_ok.mp hheader).2.2.2.2.1
          simp only [wireHeaderFieldsValid, Bool.and_eq_true, decide_eq_true_eq] at hfields
          exact hfields.1.1.1.2
        simp only [Option.bind_some, reduceCtorEq, iff_false]
        split
        · intro hnone
          cases hnone
        · -- behind the length check both slices lie in the frame
          rename_i hlengths
          rw [checkedBytes_of_le (by omega), checkedBytes_of_le (by omega)]
          intro hnone
          cases hnone

/-- The verification step reads inside a frame whose metadata was accepted. -/
theorem wireAuthInputChecked_isSome {frame : Bytes} {frameLen aadLen payloadLen : Nat}
    (hlen : frameLen ≤ frame.length) (keyId : UInt32) (provider : AuthProvider) :
    wireAuthInputChecked frame frameLen aadLen payloadLen keyId provider
      = some (wireAuthInput frame frameLen aadLen payloadLen keyId provider) := by
  rw [wireAuthInputChecked, wireAuthInput]
  split
  · rfl
  dsimp only
  split
  · rfl
  rename_i htag
  split
  · rfl
  rw [checkedBytes_of_le (by omega), Option.bind_eq_bind, Option.bind_some]
  cases wireAuthCanonicalAad (readBytes frame 0 aadLen) with
  | error err => rfl
  | ok aad =>
    dsimp only
    rw [checkedBytes_of_le (by omega), checkedBytes_of_le (by omega)]
    rfl

/-- `xgl_datalink_process_frame` leaves a frame just when the decoder does. -/
theorem datalinkProcessFrameChecked_none_iff (ctx : DatalinkCtx) (frame : Bytes) :
    datalinkProcessFrameChecked ctx frame = none ↔
      DatalinkOverruns ctx.authRequired ctx.authKeyId frame := by
  rw [← xglDatalinkDecodeRxMetadataChecked_none_iff, datalinkProcessFrameChecked]
  cases xglDatalinkDecodeRxMetadataChecked frame ctx.authRequired ctx.authKeyId with
  | none => simp
  | some decoded =>
    simp only [Option.bind_eq_bind, Option.bind_some, reduceCtorEq, iff_false]
    split
    · cases ctx.authProvider with
      | none =>
        intro hnone
        cases hnone
      | some provider =>
        dsimp only
        split
        · intro hnone
          cases hnone
        · rw [wireAuthInputChecked_isSome (Nat.sub_le _ _)]
          intro hnone
          cases hnone
    · intro hnone
      cases hnone

/-! ### Reads inside the frame -/

/-- Both decoders, and the verification step of the datalink, read inside the frame. -/
def ReadsInside (ctx : DatalinkCtx) (frame : Bytes) : Prop :=
  xglDatalinkDecodeRxMetadataChecked frame ctx.authRequired ctx.authKeyId ≠ none ∧
    datalinkProcessFrameChecked ctx frame ≠ none ∧
    xglNetworkDecodeFrameMetadataChecked frame ≠ none

/-- The receive decoders read inside a frame of any length and content just when neither walk over
its extensions leaves it: it is refused before the walk, its `header_len` lies inside it, or every
record up to its end is whole or ends the walk unread. -/
theorem frame_reads_iff (ctx : DatalinkCtx) (frame : Bytes) :
    ReadsInside ctx frame ↔
      ¬ DatalinkOverruns ctx.authRequired ctx.authKeyId frame ∧ ¬ NetworkOverruns frame := by
  rw [ReadsInside, ne_eq, ne_eq, ne_eq, xglDatalinkDecodeRxMetadataChecked_none_iff,
    datalinkProcessFrameChecked_none_iff, xglNetworkDecodeFrameMetadataChecked_none_iff]
  constructor
  · rintro ⟨hdatalink, -, hnetwork⟩
    exact ⟨hdatalink, hnetwork⟩
  · rintro ⟨hdatalink, hnetwork⟩
    exact ⟨hdatalink, hdatalink, hnetwork⟩

/-- A frame of 26 bytes with a valid base header that announces 28 bytes of header and extensions;
the one record in the frame is empty and of a type nobody takes. -/
def overlongHeaderFrame : Bytes :=
  [0xA5, 0x5A, 2, 28, 1, 2, 8, 0, 1, 0, 2, 0, 0, 0, 0, 0, 0, 0, 0, 0, 0, 0, 213, 15, 7, 0]

/-- A datalink without authentication. -/
def plainDatalink : DatalinkCtx where
  parser :=
    { state := .magic, cache := List.replicate 64 0, cacheSize := 64, cacheLen := 0, index := 0
      timestamp := 0, expectedHeaderLen := 0, expectedPayloadLen := 0, expectedAuthTagLen := 0 }

/-- Both decoders read byte 26 of that frame. -/
theorem frame_reads_outside :
    overlongHeaderFrame.length = 26 ∧
      xglDatalinkDecodeRxMetadataChecked overlongHeaderFrame false 0 = none ∧
      xglNetworkDecodeFrameMetadataChecked overlongHeaderFrame = none ∧
      ¬ ReadsInside plainDatalink overlongHeaderFrame := by
  have hnetwork : xglNetworkDecodeFrameMetadataChecked overlongHeaderFrame = none := by
    decide +kernel
  refine ⟨rfl, by decide +kernel, hnetwork, ?_⟩
  intro hinside
  exact hinside.2.2 hnetwork

end XgenLink
