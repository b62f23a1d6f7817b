import XgenLink.Lib.CheckedRead
import XgenLink.Wire.Ext

/-!
# `XgenLink.Wire.ExtStream`: the language of the extension cursor

`wireExts` runs the cursor with a bound on its rounds. Here the cursor is taken step by step
(`CursorYields`), without one: `wireExts_yields` shows that the bound is never what ends a walk,
and `ext_stream_exact` that the cursor reads exactly the strings the encoder writes. So there is
one list of records for each string that is accepted, and one string for each list.

The bytes a step looks at are those of `xglWireExtCursorNextChecked`, which is undefined where a
read would leave the string. A record whose value goes past the end of the area is refused from
its length, before anyone follows its value pointer.

* `xglWireExtCursorNextChecked_inside`: a step stays inside a string that holds the area.
* `wireExtStream_yields`: the bounded walk is the walk of the cursor.
* `EncodesExt`: what the encoder writes for a record.
* `ext_stream_exact`: encodings and walks.
-/

set_option autoImplicit false

namespace XgenLink

/-! ### The step over checked reads -/

/-- `xgl_wire_ext_t` before anyone follows its value pointer. -/
structure WireExtSlice where
  type : UInt8
  valueOffset : Nat
  valueLen : Nat
  deriving DecidableEq, Repr

/-- The record a slice of `buffer` points to. -/
def WireExtSlice.toExt (slice : WireExtSlice) (buffer : Bytes) : WireExt where
  type := slice.type
  value := readBytes buffer slice.valueOffset slice.valueLen

/-- `xgl_wire_ext_cursor_next` over the memory `cursor.buffer`: nothing when a
read would leave it. -/
def xglWireExtCursorNextChecked (cursor : WireExtCursor) :
    Option (Except XglError (WireExtSlice × WireExtCursor)) :=
  if cursor.offset == cursor.len then some (.error .notFound)
  else if cursor.len - cursor.offset < XGL_WIRE_EXT_HEADER_SIZE then some (.error .invalidFrame)
  else do
    let type ← checkedByte cursor.buffer cursor.offset
    let valueLen := (← checkedByte cursor.buffer (cursor.offset + 1)).toNat
    let extLen := XGL_WIRE_EXT_HEADER_SIZE + valueLen
    if type == 0 || extLen > cursor.len - cursor.offset then return .error .invalidFrame
    else
      return .ok ({ type := type
                    valueOffset := cursor.offset + XGL_WIRE_EXT_HEADER_SIZE
                    valueLen := valueLen },
        { cursor with offset := cursor.offset + extLen })

/-- What a checked step reports, with the value pointer followed. -/
def followSlice (buffer : Bytes) :
    Except XglError (WireExtSlice × WireExtCursor) → Except XglError (WireExt × WireExtCursor)
  | .error err => .error err
  | .ok (slice, next) => .ok (slice.toExt buffer, next)

/-- A step that stays inside the memory is the step of the cursor. -/
theorem xglWireExtCursorNextChecked_eq {cursor : WireExtCursor}
    {out : Except XglError (WireExtSlice × WireExtCursor)}
    (h : xglWireExtCursorNextChecked cursor = some out) :
    xglWireExtCursorNext cursor = followSlice cursor.buffer out := by
  unfold xglWireExtCursorNextChecked at h
  unfold xglWireExtCursorNext
  split at h
  · rename_i hend
    rw [if_pos hend]
    cases h
    rfl
  rename_i hend
  rw [if_neg hend]
  split at h
  · rename_i hroom
    rw [if_pos hroom]
    cases h
    rfl
  rename_i hroom
  rw [if_neg hroom]
  -- both header bytes were there
  -- the type byte was there
  cases htype : checkedByte cursor.buffer cursor.offset with
  | none => simp [htype] at h
  | some type =>
    -- so was the length byte
    cases hlen : checkedByte cursor.buffer (cursor.offset + 1) with
    | none => simp [htype, hlen] at h
    | some len =>
      have htypeByte : byteAt cursor.buffer cursor.offset = type := by
        unfold checkedByte at htype
        split at htype <;> simp_all
      have hlenByte : byteAt cursor.buffer (cursor.offset + 1) = len := by
        unfold checkedByte at hlen
        split at hlen <;> simp_all
      simp only [htype, hlen, Option.bind_eq_bind, Option.bind_some] at h
      dsimp only
      rw [htypeByte, hlenByte]
      split at h
      · rename_i hshape
        rw [if_pos hshape]
        cases h
        rfl
      · rename_i hshape
        rw [if_neg hshape]
        cases h
        rfl

/-- Inside a string that holds the whole area, a step stays inside it. -/
theorem xglWireExtCursorNextChecked_inside {cursor : WireExtCursor}
    (harea : cursor.len ≤ cursor.buffer.length) (hoff : cursor.offset ≤ cursor.len) :
    ∃ out, xglWireExtCursorNextChecked cursor = some out ∧
      ∀ slice next, out = .ok (slice, next) →
        slice.valueOffset + slice.valueLen ≤ cursor.len := by
  unfold xglWireExtCursorNextChecked
  split
  · exact ⟨_, rfl, fun _ _ h => by cases h⟩
  rename_i hend
  split
  · exact ⟨_, rfl, fun _ _ h => by cases h⟩
  rename_i hroom
  simp only [beq_iff_eq, XGL_WIRE_EXT_HEADER_SIZE, not_lt] at hend hroom
  rw [checkedByte_of_lt (by omega), checkedByte_of_lt (by omega)]
  simp only [Option.bind_eq_bind, Option.bind_some]
  split
  · exact ⟨_, rfl, fun _ _ h => by cases h⟩
  · rename_i hshape
    refine ⟨_, rfl, ?_⟩
    intro slice next h
    cases h
    have hfit : XGL_WIRE_EXT_HEADER_SIZE + (byteAt cursor.buffer (cursor.offset + 1)).toNat
        ≤ cursor.len - cursor.offset := by
      rw [Bool.or_eq_true, not_or, decide_eq_true_eq] at hshape
      exact Nat.le_of_not_lt hshape.2
    show cursor.offset + XGL_WIRE_EXT_HEADER_SIZE
        + (byteAt cursor.buffer (cursor.offset + 1)).toNat ≤ cursor.len
    omega

/-! ### Walks without a bound -/

/-- Repeated steps from a cursor yield the records `exts` and leave the second
cursor. -/
inductive CursorYields : WireExtCursor → List WireExt → WireExtCursor → Prop where
  | done (cursor : WireExtCursor) : CursorYields cursor [] cursor
  | step {cursor next final : WireExtCursor} {ext : WireExt} {exts : List WireExt}
      (head : xglWireExtCursorNext cursor = .ok (ext, next))
      (tail : CursorYields next exts final) : CursorYields cursor (ext :: exts) final

/-- The cursor stays in its area and keeps what it walks over. -/
theorem CursorYields.inside {cursor final : WireExtCursor} {exts : List WireExt}
    (h : CursorYields cursor exts final) (hoff : cursor.offset ≤ cursor.len) :
    final.buffer = cursor.buffer ∧ final.len = cursor.len ∧ final.offset ≤ final.len ∧
      cursor.offset + 2 * exts.length ≤ final.offset := by
  induction h with
  | done cursor => exact ⟨rfl, rfl, hoff, by simp⟩
  | @step cursor next final ext exts head tail ih =>
    obtain ⟨hbuffer, hlen, hoffset, hle, _⟩ := xglWireExtCursorNext_ok head
    obtain ⟨hfb, hfl, hfo, hcount⟩ := ih (hlen ▸ hle)
    refine ⟨hfb.trans hbuffer, hfl.trans hlen, hfo, ?_⟩
    rw [List.length_cons]
    unfold XGL_WIRE_EXT_HEADER_SIZE at hoffset
    omega

/-- The code that ends a walk is one of two. -/
theorem xglWireExtCursorNext_error {cursor : WireExtCursor} {err : XglError}
    (h : xglWireExtCursorNext cursor = .error err) : err = .notFound ∨ err = .invalidFrame := by
  unfold xglWireExtCursorNext at h
  split at h
  · cases h
    exact .inl rfl
  · split at h
    · cases h
      exact .inr rfl
    · dsimp only at h
      split at h <;> cases h
      exact .inr rfl

/-- With a round for every byte left, the bounded walk is the walk of the cursor. -/
theorem wireExtStream_yields (fuel : Nat) (cursor : WireExtCursor)
    (hoff : cursor.offset ≤ cursor.len) (hfuel : cursor.len - cursor.offset < fuel) :
    ∃ final, CursorYields cursor (wireExtStream fuel cursor).1 final ∧
      xglWireExtCursorNext final = .error (wireExtStream fuel cursor).2 := by
  induction fuel generalizing cursor with
  | zero => omega
  | succ fuel ih =>
    unfold wireExtStream
    cases hnext : xglWireExtCursorNext cursor with
    | error err => exact ⟨cursor, .done cursor, hnext⟩
    | ok step =>
      obtain ⟨ext, next⟩ := step
      obtain ⟨_, hlen, hoffset, hle, _⟩ := xglWireExtCursorNext_ok hnext
      have hmoved : cursor.offset < next.offset := by
        unfold XGL_WIRE_EXT_HEADER_SIZE at hoffset
        omega
      obtain ⟨final, hyields, hend⟩ := ih next (hlen ▸ hle) (by omega)
      exact ⟨final, .step hnext hyields, hend⟩

/-- The cursor of `xgl_wire_ext_cursor_init` over a whole string. -/
def xglWireExtCursorInit (bytes : Bytes) : WireExtCursor where
  buffer := bytes
  len := bytes.length
  offset := 0

/-- With a round for every byte of the string the walk is that of the cursor, to its end. -/
theorem wireExts_yields (bytes : Bytes) :
    ∃ final, CursorYields (xglWireExtCursorInit bytes) (wireExts bytes bytes.length).1 final ∧
      xglWireExtCursorNext final = .error (wireExts bytes bytes.length).2 :=
  wireExtStream_yields _ (xglWireExtCursorInit bytes) (Nat.zero_le _) (Nat.lt_succ_self _)

/-! ### Encodings -/

/-- `piece` is what `xgl_wire_encode_ext` writes for the record, into a buffer of
any size that it accepts. -/
def EncodesExt (ext : WireExt) (piece : Bytes) : Prop :=
  ∃ bufferSize, xglWireEncodeExt bufferSize ext.type ext.value = .ok piece

/-- What the encoder writes is type, length and value. -/
theorem EncodesExt.eq {ext : WireExt} {piece : Bytes} (h : EncodesExt ext piece) :
    ext.Encodable ∧ piece = ext.type :: UInt8.ofNat ext.value.length :: ext.value := by
  obtain ⟨bufferSize, h⟩ := h
  unfold xglWireEncodeExt at h
  split at h
  · cases h
  · split at h
    · cases h
    · rename_i hvalid _
      cases h
      simp only [Bool.or_eq_true, beq_iff_eq, decide_eq_true_eq, not_or, not_lt] at hvalid
      exact ⟨hvalid, rfl⟩

/-- Every buffer with room for a record takes it. -/
theorem xglWireEncodeExt_of_room {ext : WireExt} (h : ext.Encodable) {bufferSize : Nat}
    (hroom : XGL_WIRE_EXT_HEADER_SIZE + ext.value.length ≤ bufferSize) :
    xglWireEncodeExt bufferSize ext.type ext.value
      = .ok (ext.type :: UInt8.ofNat ext.value.length :: ext.value) := by
  unfold xglWireEncodeExt
  rw [if_neg (by simpa [WireExt.Encodable] using h), if_neg (by omega)]

/-- The pieces of a list of records in a row are its encoding. -/
theorem encodes_flatten {exts : List WireExt} {pieces : List Bytes}
    (h : List.Forall₂ EncodesExt exts pieces) :
    (∀ ext ∈ exts, ext.Encodable) ∧ pieces.flatten = encodeWireExts exts := by
  induction h with
  | nil =>
    refine ⟨?_, rfl⟩
    intro ext hext
    cases hext
  | @cons ext piece exts pieces head _ ih =>
    obtain ⟨hvalid, hpiece⟩ := head.eq
    refine ⟨?_, ?_⟩
    · intro ext hext
      rcases List.mem_cons.mp hext with rfl | hrest
      · exact hvalid
      · exact ih.1 ext hrest
    · rw [List.flatten_cons, ih.2, hpiece]
      rfl

/-- Records the encoder accepts have pieces. -/
theorem encodes_exist {exts : List WireExt} (h : ∀ ext ∈ exts, ext.Encodable) :
    ∃ pieces, List.Forall₂ EncodesExt exts pieces := by
  induction exts with
  | nil => exact ⟨[], .nil⟩
  | cons ext exts ih =>
    obtain ⟨pieces, hpieces⟩ := ih fun e he => h e (List.mem_cons_of_mem _ he)
    have hhead := xglWireEncodeExt_of_room (h ext List.mem_cons_self) (le_refl _)
    exact ⟨_ :: pieces, .cons ⟨_, hhead⟩ hpieces⟩

/-- The cursor reads exactly the strings the encoder writes. The concatenated encodings of any
records yield those records and then NOT_FOUND; every string is walked to its end code in at most
one step for two bytes, and when that code is NOT_FOUND the string is the encoding of what was
yielded, otherwise the code is INVALID_FRAME; no step of any walk reads outside the string, and no
value it points to lies outside. -/
theorem ext_stream_exact :
    (∀ exts : List WireExt, (∀ ext ∈ exts, ext.type ≠ 0 ∧ ext.value.length ≤ 255) →
      (∃ pieces, List.Forall₂ EncodesExt exts pieces) ∧
      ∀ pieces, List.Forall₂ EncodesExt exts pieces →
        ∃ final, CursorYields (xglWireExtCursorInit pieces.flatten) exts final ∧
          xglWireExtCursorNext final = .error .notFound) ∧
    (∀ bytes : Bytes, ∃ exts final, CursorYields (xglWireExtCursorInit bytes) exts final ∧
      2 * exts.length ≤ bytes.length ∧
      ((xglWireExtCursorNext final = .error .notFound ∧
          (∃ pieces, List.Forall₂ EncodesExt exts pieces) ∧
          ∀ pieces, List.Forall₂ EncodesExt exts pieces → pieces.flatten = bytes) ∨
        xglWireExtCursorNext final = .error .invalidFrame)) ∧
    (∀ (bytes : Bytes) (exts : List WireExt) (cursor : WireExtCursor),
      CursorYields (xglWireExtCursorInit bytes) exts cursor →
      ∃ out, xglWireExtCursorNextChecked cursor = some out ∧
        xglWireExtCursorNext cursor = followSlice bytes out ∧
        ∀ slice next, out = .ok (slice, next) →
          slice.valueOffset + slice.valueLen ≤ bytes.length) := by
  refine ⟨?_, ?_, ?_⟩
  · intro exts hexts
    refine ⟨encodes_exist hexts, ?_⟩
    intro pieces hpieces
    have hwalk := wireExts_encode exts hexts []
    rw [List.append_nil, ← (encodes_flatten hpieces).2] at hwalk
    have hyields := wireExts_yields pieces.flatten
    rw [hwalk] at hyields
    exact hyields
  · intro bytes
    obtain ⟨final, hyields, hend⟩ := wireExts_yields bytes
    refine ⟨_, final, hyields, ?_, ?_⟩
    · obtain ⟨_, hlen, hoff, hcount⟩ := hyields.inside (Nat.zero_le _)
      have hzero : (xglWireExtCursorInit bytes).offset = 0 := rfl
      have hsize : (xglWireExtCursorInit bytes).len = bytes.length := rfl
      omega
    · rcases xglWireExtCursorNext_error hend with hcode | hcode
      · refine .inl ⟨hcode ▸ hend, ?_, ?_⟩
        all_goals
          have htiles := wireExtStream_tiles (Prod.ext rfl hcode : wireExts bytes bytes.length
            = ((wireExts bytes bytes.length).1, .notFound)) (Nat.zero_le _)
        · exact encodes_exist htiles.2
        · intro pieces hpieces
          rw [(encodes_flatten hpieces).2, ← htiles.1]
          exact readBytes_self bytes
      · exact .inr (hcode ▸ hend)
  · intro bytes exts cursor hyields
    obtain ⟨hbuffer, hlen, hoff, _⟩ := hyields.inside (Nat.zero_le _)
    have hbytes : cursor.buffer = bytes := hbuffer
    have hsize : cursor.len = bytes.length := hlen
    obtain ⟨out, hout, hvalue⟩ := @xglWireExtCursorNextChecked_inside cursor
      (by rw [hbytes, hsize]) hoff
    refine ⟨out, hout, ?_, ?_⟩
    · rw [← hbytes]
      exact xglWireExtCursorNextChecked_eq hout
    · intro slice next h
      rw [← hsize]
      exact hvalue slice next h

end XgenLink
