import XgenLink.Proofs.ParserCompletes

/-!
# `XgenLink.Proofs.ParserRefines`: the parser as a function of the bytes it holds

The parser of the code is a cache with a write index, a state, and the lengths it has noted from
the header. Its runs are hard to talk about, since any byte may throw it back to the search for
the magic bytes, with the cache as it was.

All of this is determined by the bytes it holds since the last magic byte. `heldStep` is the
parser on these bytes alone: it decides again at every byte what the header announces, where the
code remembers it. Facts about runs of the parser are then facts about lists of bytes: what is
held behind some bytes is what is held behind the first of them, moved on over the others.

* `heldStep`, `HeldOutcome`: the parser on the bytes it holds, and the outcomes of a byte.
* `Tracks`, `HeldPhase`: the parser holds the bytes. One case for each state.
* `Tracks.feed_magic`, `.feed_header`, `.feed_payload`, `.feed_crc`: a byte in each state.
* `Tracks.feed`: feeding a byte is `heldStep`.
* `Tracks.complete`: a frame is completed exactly at the announced length.
-/

set_option autoImplicit false

namespace XgenLink

/-! ### The parser on the bytes it holds -/

/-- The length of the frame that a complete header announces, when its extensions
check out. -/
def announcedLen (held : Bytes) (header : WireHeader) : Option Nat :=
  if header.headerLen.toNat - XGL_WIRE_BASE_HEADER_SIZE = 0 then
    some (header.headerLen.toNat + header.payloadLen.toNat + XGL_CRC16_SIZE)
  else
    let exts := wireExts (held.drop XGL_WIRE_BASE_HEADER_SIZE)
      (header.headerLen.toNat - XGL_WIRE_BASE_HEADER_SIZE)
    match parserAuthTagLen exts.1 0 with
    | none => none
    | some tagLen =>
      if exts.2 != .notFound then none
      else if header.flags &&& XGL_WIRE_FLAG_AUTHENTICATED != 0 && tagLen == 0 then none
      else some (header.headerLen.toNat + header.payloadLen.toNat + tagLen.toNat + XGL_CRC16_SIZE)

/-- The checksum at the end of the bytes is that of the bytes before it. -/
def crcMatches (held : Bytes) : Bool :=
  xglCrc16Modbus (readBytes held 0 (held.length - XGL_CRC16_SIZE)) ==
    xglDeserializeU16Le (held.drop (held.length - XGL_CRC16_SIZE))

/-- One byte behind a complete base header. -/
def heldBody (size : Nat) (held : Bytes) (header : WireHeader) : ParseResult × Bytes :=
  if held.length < header.headerLen.toNat then (.incomplete, held)
  else
    match announcedLen held header with
    | none => (.error, [])
    | some total =>
      if size < total then (.error, [])
      else if held.length < total then (.incomplete, held)
      else if crcMatches held then (.complete, held)
      else (.error, [])

/-- The search for the two magic bytes. -/
def heldSearch (byte : UInt8) : ParseResult × Bytes :=
  (.incomplete, if byte == XGL_WIRE_MAGIC_0 then [byte] else [])

/-- The parser on the bytes it holds. -/
def heldStep (size : Nat) (held : Bytes) (byte : UInt8) : ParseResult × Bytes :=
  if size ≤ held.length then (.error, [])
  else if held.length = 0 ∨ (held.length = 1 ∧ byte ≠ XGL_WIRE_MAGIC_1) then heldSearch byte
  else if held.length + 1 < XGL_WIRE_BASE_HEADER_SIZE then (.incomplete, held ++ [byte])
  else
    match xglWireDecodeHeader (held ++ [byte]) XGL_WIRE_BASE_HEADER_SIZE with
    | .error _ => (.error, [])
    | .ok header => heldBody size (held ++ [byte]) header

section HeldStep

variable {size : Nat} {held : Bytes} {byte : UInt8} (hlt : held.length < size)
include hlt

/-- A byte in the search for the magic bytes. -/
theorem heldStep_search (h : held.length = 0 ∨ (held.length = 1 ∧ byte ≠ XGL_WIRE_MAGIC_1)) :
    heldStep size held byte = heldSearch byte := by
  unfold heldStep
  rw [if_neg (by omega), if_pos h]

/-- A byte of the base header. -/
theorem heldStep_short (h : ¬ (held.length = 0 ∨ (held.length = 1 ∧ byte ≠ XGL_WIRE_MAGIC_1)))
    (hshort : held.length + 1 < XGL_WIRE_BASE_HEADER_SIZE) :
    heldStep size held byte = (.incomplete, held ++ [byte]) := by
  unfold heldStep
  rw [if_neg (by omega), if_neg h, if_pos hshort]

/-- A byte behind a complete base header is judged by what the header announces. -/
theorem heldStep_full (h : ¬ (held.length = 0 ∨ (held.length = 1 ∧ byte ≠ XGL_WIRE_MAGIC_1)))
    (hfull : ¬ held.length + 1 < XGL_WIRE_BASE_HEADER_SIZE) :
    heldStep size held byte
      = match xglWireDecodeHeader (held ++ [byte]) XGL_WIRE_BASE_HEADER_SIZE with
        | .error _ => (.error, [])
        | .ok header => heldBody size (held ++ [byte]) header := by
  unfold heldStep
  rw [if_neg (by omega), if_neg h, if_neg hfull]

end HeldStep

/-- The outcomes of a byte: it is kept, starts the search anew or is dropped, or it
ends a header or a frame that does not check out, or it completes a frame. -/
inductive HeldOutcome (size : Nat) (held : Bytes) (byte : UInt8) : ParseResult × Bytes → Prop where
  | kept : HeldOutcome size held byte (.incomplete, held ++ [byte])
  | restarted (hbyte : byte = XGL_WIRE_MAGIC_0) : HeldOutcome size held byte (.incomplete, [byte])
  | skipped : HeldOutcome size held byte (.incomplete, [])
  | failed : HeldOutcome size held byte (.error, [])
  | complete (header : WireHeader) (total : Nat)
      (hdecode : xglWireDecodeHeader (held ++ [byte]) XGL_WIRE_BASE_HEADER_SIZE = .ok header)
      (hannounced : announcedLen (held ++ [byte]) header = some total)
      (hreached : total ≤ held.length + 1) (hcrc : crcMatches (held ++ [byte]) = true) :
      HeldOutcome size held byte (.complete, held ++ [byte])

/-- Every byte ends in one of the outcomes. -/
theorem heldStep_cases (size : Nat) (held : Bytes) (byte : UInt8) :
    HeldOutcome size held byte (heldStep size held byte) := by
  unfold heldStep
  split
  · exact .failed
  · split
    · unfold heldSearch
      split
      · rename_i hbyte
        exact .restarted (beq_iff_eq.mp hbyte)
      · exact .skipped
    · split
      · exact .kept
      · split
        · exact .failed
        · rename_i header hdecode
          unfold heldBody
          split
          · exact .kept
          · split
            · exact .failed
            · rename_i total hannounced
              split
              · exact .failed
              · split
                · exact .kept
                · rename_i hreached
                  split
                  · rename_i hcrc
                    rw [List.length_append, List.length_singleton] at hreached
                    exact .complete header total hdecode hannounced (by omega) hcrc
                  · exact .failed

/-- What the header announces depends on the bytes of the header only. -/
theorem announcedLen_congr {a b : Bytes} {header : WireHeader}
    (hge : XGL_WIRE_BASE_HEADER_SIZE ≤ header.headerLen.toNat)
    (h : ∀ i, i < header.headerLen.toNat → byteAt a i = byteAt b i) :
    announcedLen a header = announcedLen b header := by
  have hwalk : wireExts (a.drop XGL_WIRE_BASE_HEADER_SIZE)
        (header.headerLen.toNat - XGL_WIRE_BASE_HEADER_SIZE)
      = wireExts (b.drop XGL_WIRE_BASE_HEADER_SIZE)
        (header.headerLen.toNat - XGL_WIRE_BASE_HEADER_SIZE) := by
    apply wireExts_congr
    apply readBytes_congr
    intro i _ hi
    rw [byteAt_drop, byteAt_drop]
    exact h _ (by omega)
  unfold announcedLen
  rw [hwalk]

/-- The announced length covers header and checksum. -/
theorem le_announcedLen {held : Bytes} {header : WireHeader} {total : Nat}
    (h : announcedLen held header = some total) :
    header.headerLen.toNat + XGL_CRC16_SIZE ≤ total := by
  unfold announcedLen at h
  split at h
  · cases h
    omega
  · dsimp only at h
    split at h
    · cases h
    · split at h
      · cases h
      · split at h
        · cases h
        · cases h
          omega

/-! ### The parser holds the bytes -/

/-- The lengths a parser behind the header has noted. -/
structure Noted (parser : Parser) (held : Bytes) (header : WireHeader) (total : Nat) : Prop where
  decode : xglWireDecodeHeader held XGL_WIRE_BASE_HEADER_SIZE = .ok header
  reached : header.headerLen.toNat ≤ held.length
  announced : announcedLen held header = some total
  fits : total ≤ parser.cacheSize

/-- The state of a parser that holds the bytes. -/
inductive HeldPhase (parser : Parser) (held : Bytes) : Prop where
  | magic (hstate : parser.state = .magic) (hheld : held = [])
  | header (hstate : parser.state = .header) (hindex : parser.index = 0) (hpos : 1 ≤ held.length)
      (hfirst : byteAt held 0 = XGL_WIRE_MAGIC_0)
      (hsecond : 2 ≤ held.length → byteAt held 1 = XGL_WIRE_MAGIC_1)
      (hshort : XGL_WIRE_BASE_HEADER_SIZE ≤ held.length →
        ∃ header, xglWireDecodeHeader held XGL_WIRE_BASE_HEADER_SIZE = .ok header ∧
          held.length < header.headerLen.toNat)
  | payload (hstate : parser.state = .payload) (header : WireHeader) (total : Nat)
      (hnoted : Noted parser held header total)
      (hheader : parser.expectedHeaderLen = header.headerLen.toNat)
      (htotal : header.headerLen.toNat + parser.expectedPayloadLen.toNat +
        parser.expectedAuthTagLen.toNat + XGL_CRC16_SIZE = total)
      (hmore : held.length + XGL_CRC16_SIZE < total)
  | crc (hstate : parser.state = .crc) (header : WireHeader) (total : Nat)
      (hnoted : Noted parser held header total)
      (hindex : held.length + XGL_CRC16_SIZE = total + parser.index)
      (hmore : held.length < total)

/-- The parser with a cache of `size` bytes holds exactly the bytes. -/
structure Tracks (size : Nat) (parser : Parser) (held : Bytes) : Prop where
  room : XGL_WIRE_BASE_HEADER_SIZE + XGL_CRC16_SIZE ≤ size
  cacheSize : parser.cacheSize = size
  cacheLength : parser.cache.length = size
  cacheLen : parser.cacheLen = held.length
  fits : held.length ≤ size
  bytes : ∀ i, i < held.length → byteAt parser.cache i = byteAt held i
  phase : HeldPhase parser held

/-- The parser reports the frame it holds. -/
structure Reports (size : Nat) (parser : Parser) (frame : Bytes) : Prop where
  room : XGL_WIRE_BASE_HEADER_SIZE + XGL_CRC16_SIZE ≤ size
  state : parser.state = .crc
  cacheSize : parser.cacheSize = size
  cacheLength : parser.cache.length = size
  cacheLen : parser.cacheLen = frame.length
  fits : frame.length ≤ size
  bytes : ∀ i, i < frame.length → byteAt parser.cache i = byteAt frame i

/-- A parser just set up holds nothing. -/
theorem tracks_init {cacheBuffer : Bytes} {parser : Parser}
    (h : xglParserInit cacheBuffer = .ok parser) : Tracks cacheBuffer.length parser [] := by
  unfold xglParserInit at h
  split at h
  · cases h
  · rename_i hroom
    cases h
    exact ⟨by omega, rfl, rfl, rfl, Nat.zero_le _, fun i hi => absurd hi (Nat.not_lt_zero i),
      .magic rfl rfl⟩

/-- A reset parser holds nothing. -/
theorem tracks_reset {size : Nat} {parser : Parser}
    (hroom : XGL_WIRE_BASE_HEADER_SIZE + XGL_CRC16_SIZE ≤ size) (hsize : parser.cacheSize = size)
    (hlength : parser.cache.length = size) : Tracks size (xglParserReset parser) [] where
  room := hroom
  cacheSize := hsize
  cacheLength := hlength
  cacheLen := rfl
  fits := Nat.zero_le _
  bytes := fun i hi => absurd hi (Nat.not_lt_zero i)
  phase := .magic rfl rfl

/-- The cache of a parser that holds the bytes starts with them. -/
theorem take_eq_of_bytes {cache held : Bytes} (hlen : held.length ≤ cache.length)
    (h : ∀ i, i < held.length → byteAt cache i = byteAt held i) :
    cache.take held.length = held := by
  apply ext_byteAt
  · rw [List.length_take]
    omega
  · intro i hi
    rw [List.length_take] at hi
    rw [byteAt_take _ _ _ (by omega)]
    exact h i (by omega)

section Feed

variable {size : Nat} {parser : Parser} {held : Bytes}

/-- The cache after a byte was stored. -/
theorem Tracks.push_bytes (h : Tracks size parser held) (byte : UInt8) (hlt : held.length < size) :
    ∀ i, i < (held ++ [byte]).length →
      byteAt (parser.push byte).cache i = byteAt (held ++ [byte]) i := by
  intro i hi
  rw [List.length_append, List.length_singleton] at hi
  unfold Parser.push
  dsimp only
  rw [h.cacheLen]
  rcases Nat.lt_or_ge i held.length with hold | hnew
  · rw [byteAt_set_ne _ _ _ _ (by omega), byteAt_append_left _ _ _ hold]
    exact h.bytes i hold
  · obtain rfl : i = held.length := by omega
    rw [byteAt_set_self _ _ _ (by rw [h.cacheLength]; exact hlt)]
    unfold byteAt
    simp

/-- The header is decoded from the cache as from the bytes held. -/
theorem decode_of_bytes {cache held : Bytes}
    (hlen : XGL_WIRE_BASE_HEADER_SIZE ≤ held.length)
    (h : ∀ i, i < held.length → byteAt cache i = byteAt held i) :
    xglWireDecodeHeader cache XGL_WIRE_BASE_HEADER_SIZE
      = xglWireDecodeHeader held XGL_WIRE_BASE_HEADER_SIZE :=
  xglWireDecodeHeader_congr (le_refl _) (le_refl _) fun i hi => h i (by omega)

/-- The check of the extensions finds what the header announces. -/
theorem validate_announced {header : WireHeader}
    (hdecode : xglWireDecodeHeader held XGL_WIRE_BASE_HEADER_SIZE = .ok header)
    (hreached : header.headerLen.toNat ≤ held.length)
    (hbytes : ∀ i, i < held.length → byteAt parser.cache i = byteAt held i)
    (hexpected : parser.expectedHeaderLen = header.headerLen.toNat) :
    (announcedLen held header = none ∧
        xglParserValidateHeaderExtensions parser = (.error, xglParserReset parser)) ∨
      ∃ tagLen, announcedLen held header = some (header.headerLen.toNat +
          header.payloadLen.toNat + tagLen.toNat + XGL_CRC16_SIZE) ∧
        xglParserValidateHeaderExtensions parser
          = (.incomplete, { parser with expectedAuthTagLen := tagLen }) := by
  have hvalid := (xglWireDecodeHeader_eq_ok.mp hdecode).2.2.2.2.1
  have hge := wireHeaderFieldsValid.headerLen_ge hvalid
  have hcache := (decode_of_bytes (by omega) hbytes).trans hdecode
  have hwalk : wireExts (parser.cache.drop XGL_WIRE_BASE_HEADER_SIZE)
        (header.headerLen.toNat - XGL_WIRE_BASE_HEADER_SIZE)
      = wireExts (held.drop XGL_WIRE_BASE_HEADER_SIZE)
        (header.headerLen.toNat - XGL_WIRE_BASE_HEADER_SIZE) := by
    apply wireExts_congr
    apply readBytes_congr
    intro i _ hi
    rw [byteAt_drop, byteAt_drop]
    exact hbytes _ (by omega)
  have hextLen : parser.expectedHeaderLen - XGL_WIRE_BASE_HEADER_SIZE
      = header.headerLen.toNat - XGL_WIRE_BASE_HEADER_SIZE := by rw [hexpected]
  unfold xglParserValidateHeaderExtensions announcedLen
  dsimp only
  rw [hextLen]
  by_cases hzero : header.headerLen.toNat - XGL_WIRE_BASE_HEADER_SIZE = 0
  · rw [if_pos hzero, if_pos (by simp [hzero])]
    exact .inr ⟨0, rfl, rfl⟩
  · rw [if_neg hzero, if_neg (by simpa using hzero), hcache, hwalk]
    dsimp only
    generalize wireExts (held.drop XGL_WIRE_BASE_HEADER_SIZE)
      (header.headerLen.toNat - XGL_WIRE_BASE_HEADER_SIZE) = exts
    cases parserAuthTagLen exts.1 0 with
    | none => exact .inl ⟨rfl, rfl⟩
    | some tagLen =>
      dsimp only
      by_cases hend : (exts.2 != .notFound) = true
      · rw [if_pos hend, if_pos hend]
        exact .inl ⟨rfl, rfl⟩
      · rw [if_neg hend, if_neg hend]
        by_cases hauth : (header.flags &&& XGL_WIRE_FLAG_AUTHENTICATED != 0 && tagLen == 0) = true
        · rw [if_pos hauth, if_pos hauth]
          exact .inl ⟨rfl, rfl⟩
        · rw [if_neg hauth, if_neg hauth]
          exact .inr ⟨tagLen, rfl, rfl⟩

/-- What feeding a byte has to agree on with `heldStep`. -/
structure Agrees (size : Nat) (fed : ParseResult × Parser) (step : ParseResult × Bytes) : Prop where
  result : fed.1 = step.1
  tracks : step.1 ≠ .complete → Tracks size fed.2 step.2
  reports : step.1 = .complete → Reports size fed.2 step.2

/-- A byte that does not complete a frame agrees when result and bytes held do. -/
theorem Agrees.continues {fed : ParseResult × Parser} {step : ParseResult × Bytes}
    (hresult : fed.1 = step.1) (hne : step.1 ≠ .complete) (htracks : Tracks size fed.2 step.2) :
    Agrees size fed step :=
  ⟨hresult, fun _ => htracks, fun h => absurd h hne⟩

/-- A byte in the search for the first magic byte. -/
theorem Tracks.feed_magic (h : Tracks size parser held) (hstate : parser.state = .magic)
    (hheld : held = []) (byte : UInt8) (now : UInt32) :
    Agrees size (xglParserFeedByte parser byte now) (heldStep size held byte) := by
  subst hheld
  have hroom := h.room
  have hlen := h.cacheLen
  have hcs := h.cacheSize
  unfold XGL_WIRE_BASE_HEADER_SIZE XGL_CRC16_SIZE at hroom
  rw [heldStep_search (by rw [List.length_nil]; omega) (.inl rfl)]
  unfold xglParserFeedByte heldSearch
  rw [if_neg (by rw [hlen, hcs, List.length_nil]; omega), hstate]
  dsimp only
  by_cases hbyte : (byte == XGL_WIRE_MAGIC_0) = true
  · rw [if_pos hbyte, if_pos hbyte]
    refine .continues rfl (by simp) ⟨h.room, hcs, by simp [h.cacheLength], rfl, ?_, ?_, ?_⟩
    · rw [List.length_singleton]
      omega
    · intro i hi
      rw [List.length_singleton] at hi
      obtain rfl : i = 0 := by omega
      exact byteAt_set_self _ _ _ (by rw [h.cacheLength]; omega)
    · exact .header rfl rfl (Nat.le_refl _) (beq_iff_eq.mp hbyte)
        (fun h => by rw [List.length_singleton] at h; omega)
        (fun h => by rw [List.length_singleton] at h; unfold XGL_WIRE_BASE_HEADER_SIZE at h; omega)
  · rw [if_neg hbyte, if_neg hbyte]
    exact .continues rfl (by simp) ⟨h.room, hcs, h.cacheLength, hlen, h.fits, h.bytes,
      .magic hstate rfl⟩

/-- A byte that completes the header or lies in front of its end. -/
theorem Tracks.feed_header (h : Tracks size parser held) (hstate : parser.state = .header)
    (hindex : parser.index = 0) (hpos : 1 ≤ held.length)
    (hfirst : byteAt held 0 = XGL_WIRE_MAGIC_0)
    (hsecond : 2 ≤ held.length → byteAt held 1 = XGL_WIRE_MAGIC_1)
    (hshort : XGL_WIRE_BASE_HEADER_SIZE ≤ held.length →
      ∃ header, xglWireDecodeHeader held XGL_WIRE_BASE_HEADER_SIZE = .ok header ∧
        held.length < header.headerLen.toNat) (hlt : held.length < size) (byte : UInt8)
    (now : UInt32) :
    Agrees size (xglParserFeedByte parser byte now) (heldStep size held byte) := by
  have hroom := h.room
  have hbytes := h.push_bytes byte hlt
  have hplen : (parser.push byte).cacheLen = held.length + 1 := by
    rw [← h.cacheLen]
    rfl
  have hpcache : (parser.push byte).cache.length = size := by
    simp [Parser.push, h.cacheLength]
  have hpsize : (parser.push byte).cacheSize = size := h.cacheSize
  have hpstate : (parser.push byte).state = .header := hstate
  have hpindex : (parser.push byte).index = 0 := hindex
  have hgrown : (held ++ [byte]).length = held.length + 1 := by simp
  have hfits : (held ++ [byte]).length ≤ size := by omega
  have hpos' : 1 ≤ (held ++ [byte]).length := by omega
  have hplen' : (parser.push byte).cacheLen = (held ++ [byte]).length := by rw [hplen, hgrown]
  have hreset : Tracks size (xglParserReset (parser.push byte)) [] :=
    tracks_reset hroom hpsize hpcache
  have hguard : ¬ parser.cacheLen ≥ parser.cacheSize := by
    rw [h.cacheLen, h.cacheSize]
    omega
  unfold xglParserFeedByte
  rw [if_neg hguard, hstate]
  dsimp only
  unfold parserFeedHeader
  dsimp only
  generalize parser.push byte = pushed at *
  rw [hplen]
  -- the byte behind the first magic byte may be the first magic byte again
  by_cases hone : held.length = 1 ∧ byte ≠ XGL_WIRE_MAGIC_1
  · -- the second byte is not the second magic byte: the search goes on with it
    have hbyte1 : byteAt pushed.cache 1 = byte := by
      rw [hbytes 1 (by omega)]
      unfold byteAt
      simp [hone.1]
    rw [if_pos (by simp [hone.1, hbyte1, hone.2]), heldStep_search hlt (.inr hone)]
    unfold heldSearch
    by_cases hmagic : (byte == XGL_WIRE_MAGIC_0) = true
    · rw [if_pos hmagic, if_pos hmagic]
      refine .continues rfl (by simp) ⟨hroom, hpsize, by simp [hpcache], rfl, ?_, ?_, ?_⟩
      · rw [List.length_singleton]
        omega
      · intro i hi
        rw [List.length_singleton] at hi
        obtain rfl : i = 0 := by omega
        exact byteAt_set_self _ _ _ (by rw [hpcache]; omega)
      · exact .header rfl hpindex (Nat.le_refl _) (beq_iff_eq.mp hmagic)
          (fun h => by rw [List.length_singleton] at h; omega)
          (fun h => by
            rw [List.length_singleton] at h
            unfold XGL_WIRE_BASE_HEADER_SIZE at h
            omega)
    · rw [if_neg hmagic, if_neg hmagic]
      exact .continues rfl (by simp) hreset
  have hnot : ¬ (held.length = 0 ∨ held.length = 1 ∧ byte ≠ XGL_WIRE_MAGIC_1) := by
    rintro (hzero | hcase)
    · omega
    · exact hone hcase
  have hsecond' : byteAt (held ++ [byte]) 1 = XGL_WIRE_MAGIC_1 := by
    rcases Nat.lt_or_ge held.length 2 with hshort2 | hlong
    · have hl : held.length = 1 := by omega
      have hb : byte = XGL_WIRE_MAGIC_1 := not_not.mp fun hne => hone ⟨hl, hne⟩
      unfold byteAt
      simp [hl, hb]
    · rw [byteAt_append_left _ _ _ (by omega)]
      exact hsecond hlong
  have hfirst' : byteAt (held ++ [byte]) 0 = XGL_WIRE_MAGIC_0 := by
    rw [byteAt_append_left _ _ _ (by omega)]
    exact hfirst
  rw [if_neg]
  swap
  · simp only [Bool.and_eq_true, beq_iff_eq, bne_iff_ne, ne_eq, not_and, not_not]
    intro _
    rw [hbytes 1 (by omega), hsecond']
  -- the base header is not complete yet
  by_cases hbase : held.length + 1 < XGL_WIRE_BASE_HEADER_SIZE
  · rw [if_neg (by omega), heldStep_short hlt hnot hbase]
    have hbefore : ¬ XGL_WIRE_BASE_HEADER_SIZE ≤ (held ++ [byte]).length := by omega
    exact .continues rfl (by simp) ⟨hroom, hpsize, hpcache, hplen', hfits, hbytes,
      .header hpstate hpindex hpos' hfirst' (fun _ => hsecond') fun hlen => absurd hlen hbefore⟩
  rw [if_pos (by omega), heldStep_full hlt hnot hbase, decode_of_bytes (by omega) hbytes]
  cases hdecode : xglWireDecodeHeader (held ++ [byte]) XGL_WIRE_BASE_HEADER_SIZE with
  | error err => exact .continues rfl (by simp) hreset
  | ok header =>
    dsimp only
    unfold heldBody
    rw [hgrown]
    -- bytes of the extension area are still to come
    by_cases hmore : held.length + 1 < header.headerLen.toNat
    · rw [if_pos hmore, if_pos hmore]
      have hmore' : (held ++ [byte]).length < header.headerLen.toNat := by omega
      exact .continues rfl (by simp) ⟨hroom, hpsize, hpcache, hgrown.symm, hfits, hbytes,
        .header hpstate hpindex hpos' hfirst' (fun _ => hsecond')
          fun _ => ⟨header, hdecode, hmore'⟩⟩
    rw [if_neg hmore, if_neg hmore]
    have hannounced := @validate_announced
      { pushed with
        cacheLen := held.length + 1
        expectedHeaderLen := header.headerLen.toNat
        expectedPayloadLen := header.payloadLen }
    rcases hannounced hdecode (by omega) hbytes rfl with
      ⟨hnone, hval⟩ | ⟨tagLen, hsome, hval⟩
    · rw [hnone, hval]
      exact .continues rfl (by simp) (tracks_reset hroom hpsize hpcache)
    · rw [hsome, hval]
      dsimp only
      have hheader : held.length + 1 = header.headerLen.toNat := by
        rcases Nat.lt_or_ge held.length XGL_WIRE_BASE_HEADER_SIZE with hsmall | hlarge
        · have hvalid := (xglWireDecodeHeader_eq_ok.mp hdecode).2.2.2.2.1
          have hge := wireHeaderFieldsValid.headerLen_ge hvalid
          omega
        · -- the header was decoded before, with the same length
          obtain ⟨old, hold, hlt'⟩ := hshort hlarge
          have hsame : xglWireDecodeHeader (held ++ [byte]) XGL_WIRE_BASE_HEADER_SIZE
              = xglWireDecodeHeader held XGL_WIRE_BASE_HEADER_SIZE :=
            xglWireDecodeHeader_congr (le_refl _) (le_refl _) fun i hi =>
              byteAt_append_left _ _ _ (by omega)
          rw [hdecode, hold] at hsame
          cases hsame
          omega
      have hnotTotal : held.length + 1 < header.headerLen.toNat + header.payloadLen.toNat +
          tagLen.toNat + XGL_CRC16_SIZE := by
        unfold XGL_CRC16_SIZE
        omega
      have hreached : header.headerLen.toNat ≤ (held ++ [byte]).length := by omega
      -- a frame that the cache does not hold is given up
      by_cases hbig : size < header.headerLen.toNat + header.payloadLen.toNat + tagLen.toNat +
          XGL_CRC16_SIZE
      · rw [if_pos (by rw [hpsize]; exact hbig), if_pos hbig]
        exact .continues rfl (by simp) (tracks_reset hroom hpsize hpcache)
      · have htotal : header.headerLen.toNat + header.payloadLen.toNat + tagLen.toNat +
            XGL_CRC16_SIZE ≤ pushed.cacheSize := by omega
        rw [if_neg (by rw [hpsize]; exact hbig), if_neg hbig, if_pos hnotTotal]
        -- something follows the header, or the checksum does at once
        by_cases hbody : (header.payloadLen > 0 || tagLen > 0) = true
        · rw [if_pos hbody]
          have hpositive : 0 < header.payloadLen.toNat + tagLen.toNat := by
            simp only [Bool.or_eq_true, decide_eq_true_eq, gt_iff_lt, UInt16.lt_iff_toNat_lt,
              UInt8.lt_iff_toNat_lt] at hbody
            change 0 < _ ∨ 0 < _ at hbody
            omega
          have hrest : (held ++ [byte]).length + XGL_CRC16_SIZE < header.headerLen.toNat +
              header.payloadLen.toNat + tagLen.toNat + XGL_CRC16_SIZE := by omega
          exact .continues rfl (by simp) ⟨hroom, hpsize, hpcache, hgrown.symm, hfits, hbytes,
            .payload rfl header _ ⟨hdecode, hreached, hsome, htotal⟩ rfl rfl hrest⟩
        · rw [if_neg hbody]
          have hempty : header.payloadLen.toNat = 0 ∧ tagLen.toNat = 0 := by
            simp only [Bool.or_eq_true, decide_eq_true_eq, gt_iff_lt, UInt16.lt_iff_toNat_lt,
              UInt8.lt_iff_toNat_lt] at hbody
            change ¬ (0 < _ ∨ 0 < _) at hbody
            omega
          have hrest : (held ++ [byte]).length + XGL_CRC16_SIZE = header.headerLen.toNat +
              header.payloadLen.toNat + tagLen.toNat + XGL_CRC16_SIZE + pushed.index := by omega
          exact .continues rfl (by simp) ⟨hroom, hpsize, hpcache, hgrown.symm, hfits, hbytes,
            .crc rfl header _ ⟨hdecode, hreached, hsome, htotal⟩ hrest (hgrown ▸ hnotTotal)⟩

/-- What the parser has noted stays true of one more byte, and `heldStep` is then
decided by the announced length. -/
theorem Noted.grow {header : WireHeader} {total : Nat} (h : Noted parser held header total)
    (hsize : parser.cacheSize = size) (byte : UInt8) (hlt : held.length < size) :
    Noted parser (held ++ [byte]) header total ∧
      heldStep size held byte
        = if held.length + 1 < total then (.incomplete, held ++ [byte])
          else if crcMatches (held ++ [byte]) then (.complete, held ++ [byte])
          else (.error, []) := by
  have hvalid := (xglWireDecodeHeader_eq_ok.mp h.decode).2.2.2.2.1
  have hge := wireHeaderFieldsValid.headerLen_ge hvalid
  have hreached := h.reached
  have hfits := h.fits
  have hgrown : (held ++ [byte]).length = held.length + 1 := by simp
  have hdecode : xglWireDecodeHeader (held ++ [byte]) XGL_WIRE_BASE_HEADER_SIZE = .ok header := by
    rw [← h.decode]
    exact xglWireDecodeHeader_congr (le_refl _) (le_refl _) fun i hi =>
      byteAt_append_left _ _ _ (by omega)
  have hannounced : announcedLen (held ++ [byte]) header = some total := by
    rw [← h.announced]
    exact announcedLen_congr hge fun i hi => byteAt_append_left _ _ _ (by omega)
  unfold XGL_WIRE_BASE_HEADER_SIZE at hge
  refine ⟨⟨hdecode, by omega, hannounced, hfits⟩, ?_⟩
  rw [heldStep_full hlt (by omega) (by unfold XGL_WIRE_BASE_HEADER_SIZE; omega), hdecode]
  dsimp only
  unfold heldBody
  rw [hgrown, if_neg (by omega), hannounced]
  dsimp only
  rw [if_neg (by omega)]

/-- A byte of payload or tag. -/
theorem Tracks.feed_payload (h : Tracks size parser held) (hstate : parser.state = .payload)
    {header : WireHeader} {total : Nat} (hnoted : Noted parser held header total)
    (hheader : parser.expectedHeaderLen = header.headerLen.toNat)
    (htotal : header.headerLen.toNat + parser.expectedPayloadLen.toNat +
      parser.expectedAuthTagLen.toNat + XGL_CRC16_SIZE = total)
    (hmore : held.length + XGL_CRC16_SIZE < total) (byte : UInt8) (now : UInt32) :
    Agrees size (xglParserFeedByte parser byte now) (heldStep size held byte) := by
  have hfits := hnoted.fits
  have hreached := hnoted.reached
  rw [h.cacheSize] at hfits
  have hlt : held.length < size := by omega
  obtain ⟨hgrow, hstep⟩ := hnoted.grow h.cacheSize byte hlt
  have hbytes := h.push_bytes byte hlt
  have hgrown : (held ++ [byte]).length = held.length + 1 := by simp
  have hpcache : (parser.push byte).cache.length = size := by simp [Parser.push, h.cacheLength]
  have hplen : (parser.push byte).cacheLen = (held ++ [byte]).length := by
    rw [hgrown, ← h.cacheLen]
    rfl
  have hguard : ¬ parser.cacheLen ≥ parser.cacheSize := by
    rw [h.cacheLen, h.cacheSize]
    omega
  have hfits' : (held ++ [byte]).length ≤ size := by omega
  unfold XGL_CRC16_SIZE at htotal hmore
  rw [hstep, if_pos (by omega)]
  unfold xglParserFeedByte
  rw [if_neg hguard, hstate]
  dsimp only
  rw [hplen, show (parser.push byte).expectedHeaderLen = header.headerLen.toNat from hheader,
    show (parser.push byte).expectedPayloadLen = parser.expectedPayloadLen from rfl,
    show (parser.push byte).expectedAuthTagLen = parser.expectedAuthTagLen from rfl]
  -- the last byte of payload and tag
  by_cases hend : (held ++ [byte]).length - header.headerLen.toNat
      ≥ parser.expectedPayloadLen.toNat + parser.expectedAuthTagLen.toNat
  · rw [if_pos hend]
    have hindex : (held ++ [byte]).length + XGL_CRC16_SIZE = total + 0 := by
      unfold XGL_CRC16_SIZE
      omega
    have hrest : (held ++ [byte]).length < total := by omega
    exact .continues rfl (by simp) ⟨h.room, h.cacheSize, hpcache, rfl, hfits', hbytes,
      .crc rfl header total ⟨hgrow.decode, hgrow.reached, hgrow.announced, hgrow.fits⟩ hindex
        hrest⟩
  · rw [if_neg hend]
    have hrest : (held ++ [byte]).length + XGL_CRC16_SIZE < total := by
      unfold XGL_CRC16_SIZE
      omega
    exact .continues rfl (by simp) ⟨h.room, h.cacheSize, hpcache, hplen, hfits', hbytes,
      .payload hstate header total ⟨hgrow.decode, hgrow.reached, hgrow.announced, hgrow.fits⟩
        hheader htotal hrest⟩

/-- The checksum is read from the cache as from the bytes held. -/
theorem crcMatches_of_bytes {cache frame : Bytes} (hlen : XGL_CRC16_SIZE ≤ frame.length)
    (h : ∀ i, i < frame.length → byteAt cache i = byteAt frame i) :
    (xglCrc16Modbus (readBytes cache 0 (frame.length - XGL_CRC16_SIZE)) !=
        xglDeserializeU16Le (cache.drop (frame.length - XGL_CRC16_SIZE))) = !crcMatches frame := by
  have hread : readBytes cache 0 (frame.length - XGL_CRC16_SIZE)
      = readBytes frame 0 (frame.length - XGL_CRC16_SIZE) :=
    readBytes_congr fun i _ hi => h i (by omega)
  unfold XGL_CRC16_SIZE at hlen
  have hfield : xglDeserializeU16Le (cache.drop (frame.length - XGL_CRC16_SIZE))
      = xglDeserializeU16Le (frame.drop (frame.length - XGL_CRC16_SIZE)) := by
    unfold xglDeserializeU16Le XGL_CRC16_SIZE
    simp only [byteAt_drop]
    rw [h _ (by omega), h _ (by omega)]
  unfold crcMatches
  rw [hread, hfield]
  rfl

/-- A byte of the checksum. -/
theorem Tracks.feed_crc (h : Tracks size parser held) (hstate : parser.state = .crc)
    {header : WireHeader} {total : Nat} (hnoted : Noted parser held header total)
    (hindex : held.length + XGL_CRC16_SIZE = total + parser.index)
    (hmore : held.length < total) (byte : UInt8) (now : UInt32) :
    Agrees size (xglParserFeedByte parser byte now) (heldStep size held byte) := by
  have hfits := hnoted.fits
  have hreached := hnoted.reached
  rw [h.cacheSize] at hfits
  have hlt : held.length < size := by omega
  obtain ⟨hgrow, hstep⟩ := hnoted.grow h.cacheSize byte hlt
  have hbytes := h.push_bytes byte hlt
  have hgrown : (held ++ [byte]).length = held.length + 1 := by simp
  have hpcache : (parser.push byte).cache.length = size := by simp [Parser.push, h.cacheLength]
  have hplen : (parser.push byte).cacheLen = (held ++ [byte]).length := by
    rw [hgrown, ← h.cacheLen]
    rfl
  have hguard : ¬ parser.cacheLen ≥ parser.cacheSize := by
    rw [h.cacheLen, h.cacheSize]
    omega
  have hfits' : (held ++ [byte]).length ≤ size := by omega
  have hannounced := le_announcedLen hnoted.announced
  unfold XGL_CRC16_SIZE at hindex hannounced
  rw [hstep]
  unfold xglParserFeedByte
  rw [if_neg hguard, hstate]
  dsimp only
  -- the second byte of the checksum
  by_cases hlast : parser.index + 1 ≥ XGL_CRC16_SIZE
  · have hdone : ¬ held.length + 1 < total := by
      unfold XGL_CRC16_SIZE at hlast
      omega
    rw [if_pos hlast, if_neg hdone, hplen,
      crcMatches_of_bytes (by unfold XGL_CRC16_SIZE; omega) hbytes]
    cases hcrc : crcMatches (held ++ [byte]) with
    | false =>
      rw [if_pos (by rfl), if_neg (by decide)]
      exact .continues rfl (by simp) (tracks_reset h.room h.cacheSize hpcache)
    | true =>
      rw [if_neg (by decide), if_pos (by rfl)]
      exact ⟨rfl, fun hne => absurd rfl hne, fun _ =>
        ⟨h.room, hstate, h.cacheSize, hpcache, rfl, hfits', hbytes⟩⟩
  · have hrest : (held ++ [byte]).length < total := by
      unfold XGL_CRC16_SIZE at hlast
      omega
    rw [if_neg hlast, if_pos (by omega)]
    have hindex' : (held ++ [byte]).length + XGL_CRC16_SIZE = total + (parser.index + 1) := by
      unfold XGL_CRC16_SIZE
      omega
    exact .continues rfl (by simp) ⟨h.room, h.cacheSize, hpcache, hplen, hfits', hbytes,
      .crc hstate header total ⟨hgrow.decode, hgrow.reached, hgrow.announced, hgrow.fits⟩ hindex'
        hrest⟩

/-- Feeding a byte is `heldStep` on the bytes held. -/
theorem Tracks.feed (h : Tracks size parser held) (byte : UInt8) (now : UInt32) :
    Agrees size (xglParserFeedByte parser byte now) (heldStep size held byte) := by
  rcases Nat.lt_or_ge held.length size with hlt | hfull
  · cases h.phase with
    | magic hstate hheld => exact h.feed_magic hstate hheld byte now
    | header hstate hindex hpos hfirst hsecond hshort =>
      exact h.feed_header hstate hindex hpos hfirst hsecond hshort hlt byte now
    | payload hstate header total hnoted hheader htotal hmore =>
      exact h.feed_payload hstate hnoted hheader htotal hmore byte now
    | crc hstate header total hnoted hindex hmore =>
      exact h.feed_crc hstate hnoted hindex hmore byte now
  · -- the overflow guard
    have hguard : parser.cacheLen ≥ parser.cacheSize := by
      rw [h.cacheLen, h.cacheSize]
      exact hfull
    unfold xglParserFeedByte heldStep
    rw [if_pos hguard, if_pos hfull]
    exact .continues rfl (by simp) (tracks_reset h.room h.cacheSize h.cacheLength)

/-- A frame is completed exactly at the announced length. -/
theorem Tracks.complete (h : Tracks size parser held) {byte : UInt8}
    (hcomplete : (heldStep size held byte).1 = .complete) :
    (heldStep size held byte).2 = held ++ [byte] ∧
      ∃ header, xglWireDecodeHeader (held ++ [byte]) XGL_WIRE_BASE_HEADER_SIZE = .ok header ∧
        announcedLen (held ++ [byte]) header = some (held ++ [byte]).length ∧
        crcMatches (held ++ [byte]) = true := by
  have houtcome := heldStep_cases size held byte
  generalize hstep : heldStep size held byte = step at hcomplete houtcome ⊢
  cases houtcome with
  | kept => cases hcomplete
  | restarted hbyte => cases hcomplete
  | skipped => cases hcomplete
  | failed => cases hcomplete
  | complete header total hdecode hannounced hreached hcrc =>
    have hle := le_announcedLen hannounced
    have hge := wireHeaderFieldsValid.headerLen_ge
      (xglWireDecodeHeader_eq_ok.mp hdecode).2.2.2.2.1
    have hgrown : (held ++ [byte]).length = held.length + 1 := by simp
    unfold XGL_CRC16_SIZE at hle
    refine ⟨rfl, header, hdecode, ?_, hcrc⟩
    -- before this byte the frame was not complete yet
    have hbefore : held.length < total := by
      cases h.phase with
      | magic hstate hheld =>
        rw [hheld, List.length_nil]
        omega
      | header hstate hindex hpos hfirst hsecond hshort =>
        rcases Nat.lt_or_ge held.length XGL_WIRE_BASE_HEADER_SIZE with hsmall | hlarge
        · omega
        · obtain ⟨old, hold, hlt⟩ := hshort hlarge
          have hsame : xglWireDecodeHeader (held ++ [byte]) XGL_WIRE_BASE_HEADER_SIZE
              = xglWireDecodeHeader held XGL_WIRE_BASE_HEADER_SIZE :=
            xglWireDecodeHeader_congr (le_refl _) (le_refl _) fun i hi =>
              byteAt_append_left _ _ _ (by omega)
          rw [hdecode, hold] at hsame
          cases hsame
          omega
      | payload hstate old oldTotal hnoted hheader htotal hmore =>
        have hfits := hnoted.fits
        rw [h.cacheSize] at hfits
        obtain ⟨hgrow, _⟩ := hnoted.grow h.cacheSize byte (by omega)
        have := hgrow.decode
        rw [hdecode] at this
        cases this
        rw [hgrow.announced] at hannounced
        cases hannounced
        omega
      | crc hstate old oldTotal hnoted hindex hmore =>
        have hfits := hnoted.fits
        rw [h.cacheSize] at hfits
        obtain ⟨hgrow, _⟩ := hnoted.grow h.cacheSize byte (by omega)
        have := hgrow.decode
        rw [hdecode] at this
        cases this
        rw [hgrow.announced] at hannounced
        cases hannounced
        exact hmore
    rw [hannounced, hgrown]
    congr 1
    omega

/-- A reported frame is what `xgl_parser_get_frame` returns. -/
theorem Reports.get_frame {frame : Bytes} (h : Reports size parser frame)
    (hpos : 0 < frame.length) :
    xglParserGetFrame parser = .ok (parser.cache, frame.length) ∧
      parser.cache.take frame.length = frame := by
  refine ⟨?_, take_eq_of_bytes (by rw [h.cacheLength]; exact h.fits) h.bytes⟩
  unfold xglParserGetFrame
  rw [if_neg, h.cacheLen]
  rw [h.state, h.cacheLen]
  simp only [Bool.or_eq_true, bne_iff_ne, beq_iff_eq, not_or, ne_eq, not_not]
  exact ⟨trivial, by omega⟩

end Feed

end XgenLink
