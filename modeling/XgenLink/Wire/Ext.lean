import XgenLink.Wire.Header

/-!
# `XgenLink.Wire.Ext`: header extensions and their values

Extensions are type-length-value records between the base header and the payload: a byte of type,
a byte of length, and as many bytes of value. `xglWireExtCursorNext` is the cursor step of
`xgl_wire.c`. Every consumer in the source is a `while` loop over that step, so `wireExts` walks the
cursor once and returns the records together with the code that ended the walk; the consumers
recurse over that list. NOT_FOUND is the regular end of a walk, and any other code means that the
area is malformed.

The values have layouts of their own, one encoder and one decoder for each type. Those that the
transport and the datalink use are here; `XgenLink.Wire.ExtValues` has the others and the room
checks of the encoders.

* `wireExts_encode`: walking encoded records gives the records back.
* `wireExts_congr`: a walk depends on the bytes inside its bounds only.
* `wireExtStream_tiles`: a walk that reaches the end has read its bytes as records.
-/

set_option autoImplicit false

namespace XgenLink

/-- `XGL_WIRE_EXT_HEADER_SIZE`. -/
def XGL_WIRE_EXT_HEADER_SIZE : Nat := 2

/-- `XGL_FRAGMENT_EXT_VALUE_SIZE`. -/
def XGL_FRAGMENT_EXT_VALUE_SIZE : Nat := 12

/-- `XGL_FRAGMENT_EXT_SIZE`. -/
def XGL_FRAGMENT_EXT_SIZE : Nat := XGL_WIRE_EXT_HEADER_SIZE + XGL_FRAGMENT_EXT_VALUE_SIZE

/-- `XGL_SESSION_EXT_VALUE_SIZE`. -/
def XGL_SESSION_EXT_VALUE_SIZE : Nat := 12

/-- `XGL_SECURITY_EXT_VALUE_SIZE`. -/
def XGL_SECURITY_EXT_VALUE_SIZE : Nat := 13

/-- `XGL_SECURITY_EXT_SIZE`. -/
def XGL_SECURITY_EXT_SIZE : Nat := XGL_WIRE_EXT_HEADER_SIZE + XGL_SECURITY_EXT_VALUE_SIZE

/-- `XGL_WIRE_EXT_SESSION`. -/
def XGL_WIRE_EXT_SESSION : UInt8 := 1

/-- `XGL_WIRE_EXT_ACK_RANGE`. -/
def XGL_WIRE_EXT_ACK_RANGE : UInt8 := 2

/-- `XGL_WIRE_EXT_SACK`. -/
def XGL_WIRE_EXT_SACK : UInt8 := 3

/-- `XGL_WIRE_EXT_FRAGMENT`. -/
def XGL_WIRE_EXT_FRAGMENT : UInt8 := 4

/-- `XGL_WIRE_EXT_SECURITY`. -/
def XGL_WIRE_EXT_SECURITY : UInt8 := 5

/-- `XGL_WIRE_EXT_DATA_TYPE`. -/
def XGL_WIRE_EXT_DATA_TYPE : UInt8 := 8

/-- `xgl_wire_ext_t`: the value pointer and length are the value's bytes. -/
structure WireExt where
  type : UInt8
  value : Bytes
  deriving DecidableEq, Repr, Inhabited

/-- `xgl_wire_ext_cursor_t`. -/
structure WireExtCursor where
  buffer : Bytes
  len : Nat
  offset : Nat

/-- `xgl_wire_encode_ext`. -/
def xglWireEncodeExt (bufferSize : Nat) (type : UInt8) (value : Bytes) :
    Except XglError Bytes :=
  if type == 0 || value.length > 255 then .error .invalidParam
  else if bufferSize < XGL_WIRE_EXT_HEADER_SIZE + value.length then .error .bufferTooSmall
  else .ok (type :: UInt8.ofNat value.length :: value)

/-- `xgl_wire_ext_cursor_next`. -/
def xglWireExtCursorNext (cursor : WireExtCursor) :
    Except XglError (WireExt × WireExtCursor) :=
  if cursor.offset == cursor.len then .error .notFound
  else if cursor.len - cursor.offset < XGL_WIRE_EXT_HEADER_SIZE then .error .invalidFrame
  else
    let type := byteAt cursor.buffer cursor.offset
    let valueLen := (byteAt cursor.buffer (cursor.offset + 1)).toNat
    let extLen := XGL_WIRE_EXT_HEADER_SIZE + valueLen
    if type == 0 || extLen > cursor.len - cursor.offset then .error .invalidFrame
    else
      .ok ({ type := type
             value := readBytes cursor.buffer (cursor.offset + XGL_WIRE_EXT_HEADER_SIZE) valueLen },
           { cursor with offset := cursor.offset + extLen })

/-- The records a `while` loop over the cursor sees, and the code that ends the
loop. Every step moves the cursor, so `len + 1` rounds always reach the end. -/
def wireExtStream : Nat → WireExtCursor → List WireExt × XglError
  | 0, _ => ([], .invalidFrame)
  | fuel + 1, cursor =>
    match xglWireExtCursorNext cursor with
    | .error err => ([], err)
    | .ok (ext, next) =>
      let rest := wireExtStream fuel next
      (ext :: rest.1, rest.2)

/-- The walk from `xgl_wire_ext_cursor_init` over `len` bytes of `buffer`. -/
def wireExts (buffer : Bytes) (len : Nat) : List WireExt × XglError :=
  wireExtStream (len + 1) { buffer := buffer, len := len, offset := 0 }

/-! ### Extension values -/

/-- `xgl_wire_encode_fragment_ext_value`. -/
def xglWireEncodeFragmentExtValue (messageId fragmentOffset messageLen : UInt32) : Bytes :=
  xglSerializeU32Le messageId ++ xglSerializeU32Le fragmentOffset ++
    xglSerializeU32Le messageLen

/-- The fields of a FRAGMENT_EXT. -/
structure FragmentExt where
  messageId : UInt32
  fragmentOffset : UInt32
  messageLen : UInt32
  deriving DecidableEq, Repr

/-- `xgl_wire_decode_fragment_ext_value`. -/
def xglWireDecodeFragmentExtValue (buffer : Bytes) : Except XglError FragmentExt :=
  if buffer.length != XGL_FRAGMENT_EXT_VALUE_SIZE then .error .invalidFrame
  else
    .ok { messageId := xglDeserializeU32Le buffer
          fragmentOffset := xglDeserializeU32Le (buffer.drop 4)
          messageLen := xglDeserializeU32Le (buffer.drop 8) }

/-- `xgl_wire_decode_session_ext_value`: the session epoch and the incarnation
id. -/
def xglWireDecodeSessionExtValue (buffer : Bytes) : Except XglError (UInt32 × UInt64) :=
  if buffer.length != XGL_SESSION_EXT_VALUE_SIZE then .error .invalidFrame
  else .ok (xglDeserializeU32Le buffer, wireDeserializeU64Le (buffer.drop 4))

/-- `xgl_wire_encode_security_ext_value`. -/
def xglWireEncodeSecurityExtValue (keyId : UInt32) (nonceId : UInt64) (tagLen : UInt8) :
    Except XglError Bytes :=
  if tagLen == 0 then .error .invalidParam
  else .ok (xglSerializeU32Le keyId ++ wireSerializeU64Le nonceId ++ [tagLen])

/-- The fields of a SECURITY_EXT. -/
structure SecurityExt where
  keyId : UInt32
  nonceId : UInt64
  tagLen : UInt8
  deriving DecidableEq, Repr

/-- `xgl_wire_decode_security_ext_value`. -/
def xglWireDecodeSecurityExtValue (buffer : Bytes) : Except XglError SecurityExt :=
  if buffer.length != XGL_SECURITY_EXT_VALUE_SIZE then .error .invalidFrame
  else if byteAt buffer 12 == 0 then .error .invalidFrame
  else
    .ok { keyId := xglDeserializeU32Le buffer
          nonceId := wireDeserializeU64Le (buffer.drop 4)
          tagLen := byteAt buffer 12 }

/-- A SECURITY_EXT that decodes announces a tag. -/
theorem xglWireDecodeSecurityExtValue_tagLen {buffer : Bytes} {security : SecurityExt}
    (h : xglWireDecodeSecurityExtValue buffer = .ok security) : security.tagLen ≠ 0 := by
  unfold xglWireDecodeSecurityExtValue at h
  split at h
  · cases h
  · split at h
    · cases h
    · rename_i hzero
      cases h
      simpa using hzero

/-- `xgl_wire_ack_range_t`. -/
structure WireAckRange where
  gap : UInt16
  length : UInt16
  deriving DecidableEq, Repr

/-- `xgl_wire_encode_ack_range_ext_value`. -/
def xglWireEncodeAckRangeExtValue (bufferSize : Nat) (largestAck ackDelayUs : UInt32)
    (ranges : List WireAckRange) : Except XglError Bytes :=
  let requiredSize := 9 + ranges.length * 4
  if requiredSize > 255 then .error .invalidParam
  else if bufferSize < requiredSize then .error .bufferTooSmall
  else
    .ok (xglSerializeU32Le largestAck ++ xglSerializeU32Le ackDelayUs ++
      [UInt8.ofNat ranges.length] ++
      ranges.flatMap fun r => xglSerializeU16Le r.gap ++ xglSerializeU16Le r.length)

/-- The fields of an ACK_RANGE. -/
structure AckRangeExt where
  largestAck : UInt32
  ackDelayUs : UInt32
  ranges : List WireAckRange
  deriving DecidableEq, Repr

/-- `xgl_wire_decode_ack_range_ext_value`. -/
def xglWireDecodeAckRangeExtValue (buffer : Bytes) (rangeCapacity : Nat) :
    Except XglError AckRangeExt :=
  if buffer.length < 9 then .error .invalidFrame
  else
    let encodedCount := (byteAt buffer 8).toNat
    if 9 + encodedCount * 4 != buffer.length then .error .invalidFrame
    else if rangeCapacity < encodedCount then .error .bufferTooSmall
    else
      .ok { largestAck := xglDeserializeU32Le buffer
            ackDelayUs := xglDeserializeU32Le (buffer.drop 4)
            ranges := (List.range encodedCount).map fun i =>
              { gap := xglDeserializeU16Le (buffer.drop (9 + 4 * i))
                length := xglDeserializeU16Le (buffer.drop (9 + 4 * i + 2)) } }

/-- `xgl_wire_encode_sack_ext_value`. -/
def xglWireEncodeSackExtValue (bufferSize : Nat) (basePacket : UInt32) (bitmap : Bytes) :
    Except XglError Bytes :=
  let requiredSize := 5 + bitmap.length
  if bitmap.length > 255 || requiredSize > 255 then .error .invalidParam
  else if bufferSize < requiredSize then .error .bufferTooSmall
  else .ok (xglSerializeU32Le basePacket ++ [UInt8.ofNat bitmap.length] ++ bitmap)

/-- The fields of a SACK. -/
structure SackExt where
  basePacket : UInt32
  bitmap : Bytes
  deriving DecidableEq, Repr

/-- `xgl_wire_decode_sack_ext_value`. -/
def xglWireDecodeSackExtValue (buffer : Bytes) (bitmapCapacity : Nat) :
    Except XglError SackExt :=
  if buffer.length < 5 then .error .invalidFrame
  else
    let encodedBitmapLen := (byteAt buffer 4).toNat
    if 5 + encodedBitmapLen != buffer.length then .error .invalidFrame
    else if bitmapCapacity < encodedBitmapLen then .error .bufferTooSmall
    else
      .ok { basePacket := xglDeserializeU32Le buffer
            bitmap := readBytes buffer 5 encodedBitmapLen }

/-! ### The walk -/

/-- The bytes of a list of records. -/
def encodeWireExts (exts : List WireExt) : Bytes :=
  exts.flatMap fun ext => ext.type :: UInt8.ofNat ext.value.length :: ext.value

/-- A record the encoder accepts. -/
def WireExt.Encodable (ext : WireExt) : Prop :=
  ext.type ≠ 0 ∧ ext.value.length ≤ 255

/-- Without extension bytes there are no extensions. -/
theorem wireExts_zero (buffer : Bytes) : wireExts buffer 0 = ([], .notFound) := rfl

/-- What one accepted cursor step returns. -/
theorem xglWireExtCursorNext_ok {cursor next : WireExtCursor} {ext : WireExt}
    (h : xglWireExtCursorNext cursor = .ok (ext, next)) :
    next.buffer = cursor.buffer ∧ next.len = cursor.len ∧
      next.offset = cursor.offset + (XGL_WIRE_EXT_HEADER_SIZE + ext.value.length) ∧
      next.offset ≤ cursor.len ∧
      ext.type = byteAt cursor.buffer cursor.offset ∧ ext.type ≠ 0 ∧
      ext.value = readBytes cursor.buffer (cursor.offset + XGL_WIRE_EXT_HEADER_SIZE)
        (byteAt cursor.buffer (cursor.offset + 1)).toNat := by
  unfold xglWireExtCursorNext at h
  split at h
  · cases h
  · split at h
    · cases h
    · dsimp only at h
      split at h
      · cases h
      · rename_i hend hroom hshape
        simp only [Bool.or_eq_true, beq_iff_eq, decide_eq_true_eq, not_or, not_lt] at hshape
        injection h with h
        injection h with hext hnext
        subst hext hnext
        refine ⟨rfl, rfl, ?_, ?_, rfl, hshape.1, rfl⟩
        · rw [length_readBytes]
        · simp only [XGL_WIRE_EXT_HEADER_SIZE] at hshape hroom ⊢
          omega

/-- Walking the encoded records `exts` that lie between `before` and `after`
gives them back and ends at the end of the extensions. -/
theorem wireExtStream_encode (exts : List WireExt) (hexts : ∀ ext ∈ exts, ext.Encodable)
    (before after : Bytes) (fuel : Nat) (hfuel : exts.length < fuel) :
    wireExtStream fuel
        { buffer := before ++ (encodeWireExts exts ++ after)
          len := before.length + (encodeWireExts exts).length
          offset := before.length }
      = (exts, .notFound) := by
  induction exts generalizing before fuel with
  | nil =>
    obtain ⟨fuel, rfl⟩ : ∃ m, fuel = m + 1 := ⟨fuel - 1, by simp at hfuel; omega⟩
    simp [wireExtStream, xglWireExtCursorNext, encodeWireExts]
  | cons ext exts ih =>
    obtain ⟨fuel, rfl⟩ : ∃ m, fuel = m + 1 := ⟨fuel - 1, by omega⟩
    obtain ⟨htype, hlen⟩ := hexts ext List.mem_cons_self
    have hfuel' : exts.length < fuel := by
      rw [List.length_cons] at hfuel
      omega
    -- the record at the cursor, followed by the others
    let head : Bytes := ext.type :: UInt8.ofNat ext.value.length :: ext.value
    have hsplit : encodeWireExts (ext :: exts) = head ++ encodeWireExts exts := rfl
    have hheadlen : head.length = 2 + ext.value.length := by
      simp [head]
      omega
    have hbuf : before ++ (encodeWireExts (ext :: exts) ++ after)
        = (before ++ head) ++ (encodeWireExts exts ++ after) := by
      rw [hsplit]
      simp
    have hb0 : byteAt (before ++ (encodeWireExts (ext :: exts) ++ after)) before.length
        = ext.type := by
      rw [hsplit]
      unfold byteAt
      rw [List.getD_append_right _ _ _ _ (le_refl _), Nat.sub_self]
      rfl
    have hb1 : (byteAt (before ++ (encodeWireExts (ext :: exts) ++ after))
        (before.length + 1)).toNat = ext.value.length := by
      rw [hsplit]
      unfold byteAt
      rw [List.getD_append_right _ _ _ _ (by omega), Nat.add_sub_cancel_left]
      change (UInt8.ofNat ext.value.length).toNat = ext.value.length
      rw [UInt8.toNat_ofNat']
      omega
    have hval : readBytes (before ++ (encodeWireExts (ext :: exts) ++ after))
        (before.length + XGL_WIRE_EXT_HEADER_SIZE) ext.value.length = ext.value := by
      rw [hsplit, readBytes_append_right _ _ _ _ (by omega), Nat.add_sub_cancel_left]
      have hmid := readBytes_middle [ext.type, UInt8.ofNat ext.value.length] ext.value
        (encodeWireExts exts ++ after)
      simpa [head, XGL_WIRE_EXT_HEADER_SIZE] using hmid
    have htotal : (encodeWireExts (ext :: exts)).length
        = 2 + ext.value.length + (encodeWireExts exts).length := by
      rw [hsplit, List.length_append, hheadlen]
    have hstep : xglWireExtCursorNext
        { buffer := before ++ (encodeWireExts (ext :: exts) ++ after)
          len := before.length + (encodeWireExts (ext :: exts)).length
          offset := before.length }
        = .ok (ext,
          { buffer := (before ++ head) ++ (encodeWireExts exts ++ after)
            len := (before ++ head).length + (encodeWireExts exts).length
            offset := (before ++ head).length }) := by
      unfold xglWireExtCursorNext
      dsimp only
      rw [hb0, hb1, hval, htotal, if_neg (by simp),
        if_neg (by simp [XGL_WIRE_EXT_HEADER_SIZE]; omega),
        if_neg (by simp [htype, XGL_WIRE_EXT_HEADER_SIZE]), hbuf]
      simp only [List.length_append, hheadlen, XGL_WIRE_EXT_HEADER_SIZE, Nat.add_assoc]
    rw [wireExtStream, hstep]
    simp only [ih (fun e he => hexts e (List.mem_cons_of_mem _ he)) (before ++ head) fuel hfuel']

/-- Each record takes at least two bytes. -/
theorem length_encodeWireExts_ge (exts : List WireExt) :
    2 * exts.length ≤ (encodeWireExts exts).length := by
  induction exts with
  | nil => simp
  | cons ext exts ih =>
    unfold encodeWireExts at ih ⊢
    simp only [List.flatMap_cons, List.length_append, List.length_cons]
    omega

/-- Walking encoded records gives the records back. -/
theorem wireExts_encode (exts : List WireExt) (hexts : ∀ ext ∈ exts, ext.Encodable)
    (after : Bytes) :
    wireExts (encodeWireExts exts ++ after) (encodeWireExts exts).length = (exts, .notFound) := by
  have hfuel := length_encodeWireExts_ge exts
  have hwalk := wireExtStream_encode exts hexts [] after ((encodeWireExts exts).length + 1)
    (by omega)
  simpa [wireExts] using hwalk

/-- A cursor that has not passed its end never reads beyond it. -/
theorem wireExtStream_congr (fuel : Nat) (a b : Bytes) (len offset : Nat)
    (h : readBytes a 0 len = readBytes b 0 len) (hoff : offset ≤ len) :
    wireExtStream fuel { buffer := a, len := len, offset := offset }
      = wireExtStream fuel { buffer := b, len := len, offset := offset } := by
  induction fuel generalizing offset with
  | zero => rfl
  | succ fuel ih =>
    have hbyte : ∀ i, i < len → byteAt a i = byteAt b i := by
      intro i hi
      have ha := byteAt_readBytes a 0 len i hi
      have hb := byteAt_readBytes b 0 len i hi
      rw [Nat.zero_add] at ha hb
      rw [← ha, ← hb, h]
    have hread : ∀ off n, off + n ≤ len → readBytes a off n = readBytes b off n := by
      intro off n hn
      have ha := readBytes_readBytes a 0 len off n hn
      have hb := readBytes_readBytes b 0 len off n hn
      rw [Nat.zero_add] at ha hb
      rw [← ha, ← hb, h]
    simp only [wireExtStream, xglWireExtCursorNext, XGL_WIRE_EXT_HEADER_SIZE]
    by_cases hend : offset = len
    · simp [hend]
    · by_cases hroom : len - offset < 2
      · simp [hend, hroom]
      · rw [hbyte offset (by omega), hbyte (offset + 1) (by omega)]
        by_cases hshape : byteAt b offset = 0 ∨ len - offset < 2 + (byteAt b (offset + 1)).toNat
        · simp [hend, hroom, hshape]
        · rw [not_or] at hshape
          have hfit : offset + 2 + (byteAt b (offset + 1)).toNat ≤ len := by omega
          have hnext := ih (offset + (2 + (byteAt b (offset + 1)).toNat)) (by omega)
          simp only [hend, hroom, hshape, hread _ _ hfit, hnext, beq_iff_eq, Bool.or_eq_true,
            decide_eq_true_eq, or_self, if_false]

/-- A walk depends on the bytes inside its bounds only. -/
theorem wireExts_congr (a b : Bytes) (len : Nat) (h : readBytes a 0 len = readBytes b 0 len) :
    wireExts a len = wireExts b len :=
  wireExtStream_congr _ a b len 0 h (Nat.zero_le _)

/-- A walk never ends with success. -/
theorem wireExtStream_end_ne_ok (fuel : Nat) (cursor : WireExtCursor) :
    (wireExtStream fuel cursor).2 ≠ .ok := by
  induction fuel generalizing cursor with
  | zero =>
    intro h
    cases h
  | succ fuel ih =>
    unfold wireExtStream
    split
    · rename_i err hnext
      rintro rfl
      unfold xglWireExtCursorNext at hnext
      split at hnext
      · cases hnext
      · split at hnext
        · cases hnext
        · dsimp only at hnext
          split at hnext <;> cases hnext
    · exact ih _

/-- Nor does a walk from the start. -/
theorem wireExts_end_ne_ok (buffer : Bytes) (len : Nat) : (wireExts buffer len).2 ≠ .ok :=
  wireExtStream_end_ne_ok _ _

/-- A walk that reaches the end has read its bytes as records one after the other. -/
theorem wireExtStream_tiles {fuel : Nat} {cursor : WireExtCursor} {exts : List WireExt}
    (h : wireExtStream fuel cursor = (exts, .notFound)) (hoff : cursor.offset ≤ cursor.len) :
    readBytes cursor.buffer cursor.offset (cursor.len - cursor.offset) = encodeWireExts exts ∧
      ∀ ext ∈ exts, ext.Encodable := by
  induction fuel generalizing cursor exts with
  | zero => cases h
  | succ fuel ih =>
    unfold wireExtStream at h
    cases hnext : xglWireExtCursorNext cursor with
    | error err =>
      rw [hnext] at h
      cases h
      -- nothing but the end of the area gives NOT_FOUND
      -- only the end of the bytes gives this code
      unfold xglWireExtCursorNext at hnext
      split at hnext
      · rename_i hend
        rw [beq_iff_eq] at hend
        rw [hend, Nat.sub_self]
        exact ⟨rfl, fun ext hext => by cases hext⟩
      · split at hnext
        · cases hnext
        · dsimp only at hnext
          split at hnext <;> cases hnext
    | ok step =>
      obtain ⟨ext, next⟩ := step
      rw [hnext] at h
      dsimp only at h
      obtain ⟨hbuffer, hlen, hoffset, hle, htype, hne, hvalue⟩ := xglWireExtCursorNext_ok hnext
      obtain ⟨rest, herr⟩ : ∃ rest, wireExtStream fuel next = (rest, .notFound) := by
        cases hrest : wireExtStream fuel next with
        | mk rest err =>
          rw [hrest] at h
          cases h
          exact ⟨rest, rfl⟩
      rw [herr] at h
      cases h
      obtain ⟨htiles, hall⟩ := ih herr (hlen ▸ hle)
      have hsize : ext.value.length = (byteAt cursor.buffer (cursor.offset + 1)).toNat := by
        rw [hvalue, length_readBytes]
      have hshort : ext.value.length ≤ 255 := by
        have := (byteAt cursor.buffer (cursor.offset + 1)).toNat_lt
        omega
      refine ⟨?_, ?_⟩
      · rw [hbuffer, hlen, hoffset] at htiles
        have hsplit : cursor.len - cursor.offset = ext.value.length +
            (cursor.len - (cursor.offset + (XGL_WIRE_EXT_HEADER_SIZE + ext.value.length))) + 1 + 1
            := by
          unfold XGL_WIRE_EXT_HEADER_SIZE at hoffset ⊢
          omega
        unfold encodeWireExts at htiles ⊢
        rw [List.flatMap_cons, ← htiles, hsplit, readBytes_succ, readBytes_succ, ← htype]
        have hcount : UInt8.ofNat ext.value.length
            = byteAt cursor.buffer (cursor.offset + 1) := by
          rw [hsize, UInt8.ofNat_toNat]
        rw [hcount]
        have hbody : readBytes cursor.buffer (cursor.offset + 1 + 1) (ext.value.length +
            (cursor.len - (cursor.offset + (XGL_WIRE_EXT_HEADER_SIZE + ext.value.length))))
              = ext.value ++ readBytes cursor.buffer
                (cursor.offset + (XGL_WIRE_EXT_HEADER_SIZE + ext.value.length))
                (cursor.len - (cursor.offset + (XGL_WIRE_EXT_HEADER_SIZE + ext.value.length)))
            := by
          rw [readBytes_add]
          congr 1
          · rw [hsize]
            exact hvalue.symm
          · congr 1
            unfold XGL_WIRE_EXT_HEADER_SIZE
            omega
        rw [hbody]
        rfl
      · intro x hx
        rcases List.mem_cons.mp hx with rfl | hrest
        · exact ⟨hne, hshort⟩
        · exact hall x hrest

end XgenLink
