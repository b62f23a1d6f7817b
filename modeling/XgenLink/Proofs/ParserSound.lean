import Mathlib.Data.List.Induction
import XgenLink.Proofs.CanonicalAad
import XgenLink.Proofs.ParserRefines

/-!
# `XgenLink.Proofs.ParserSound`: what a parser reports, and where it writes

The parser is the first code that bytes from outside meet. It is fed any bytes, reset after every
reported frame, and reset by timeouts at any point. In every state such a run reaches it writes
inside its cache, and what it reports is a well-formed frame made of the last bytes it was fed.

Where it writes is read off from `xgl_parser_feed_byte` itself. `parserWrites` runs it over a
memory that goes on behind the cache, with any contents, and asks at which index the byte fed
shows.

* `WellFormedFrame`: the shape of a reported frame.
* `xglParserFeedByte_others`, `parserWrites_bound`: the bytes a feed leaves alone.
* `HoldsLast`, `runParser_holds`: the parser holds the last bytes it was fed.
* `Tracks.wellFormed`: what it reports is well formed.
* `parser_sound`: the guarantees for every state such a run reaches.
-/

set_option autoImplicit false

namespace XgenLink

/-! ### Runs -/

/-- What happens to the parser of a datalink context: a byte is fed, or a timeout
resets it. -/
inductive ParserAction where
  | feed (byte : UInt8) (currentTimeMs : UInt32)
  | timeout

/-- One action; `xgl_datalink_receive` resets the parser behind every frame. -/
def parserStep (parser : Parser) : ParserAction → Parser
  | .feed byte currentTimeMs =>
    let fed := xglParserFeedByte parser byte currentTimeMs
    if fed.1 == .complete then xglParserReset fed.2 else fed.2
  | .timeout => xglParserReset parser

/-- A run of the parser. -/
def runParser (actions : List ParserAction) (parser : Parser) : Parser :=
  actions.foldl parserStep parser

/-- The bytes fed in a run. -/
def fedBytes (actions : List ParserAction) : Bytes :=
  actions.filterMap fun action =>
    match action with
    | .feed byte _ => some byte
    | .timeout => none

/-- `xgl_parser_feed_byte` writes the index of the cache for this byte: over some memory, of any
contents and however far it goes on behind the cache, the byte at the index changes. -/
def parserWrites (parser : Parser) (byte : UInt8) (currentTimeMs : UInt32) (i : Nat) : Prop :=
  ∃ memory : Bytes,
    byteAt (xglParserFeedByte { parser with cache := memory } byte currentTimeMs).2.cache i
      ≠ byteAt memory i

/-! ### Frames -/

/-- The tag length of the last SECURITY_EXT, or zero. -/
def lastTagLen (exts : List WireExt) : UInt8 :=
  (exts.filter fun ext => ext.type == XGL_WIRE_EXT_SECURITY).getLast?.elim 0
    fun ext => byteAt ext.value 12

/-- The shape of a frame: a header that decodes (magic bytes, valid fields, header
CRC), extensions that are records one after the other, the announced length and the
frame CRC. -/
structure WellFormedFrame (frame : Bytes) (header : WireHeader) (exts : List WireExt) : Prop where
  decode : xglWireDecodeHeader frame frame.length = .ok header
  tiled : readBytes frame XGL_WIRE_BASE_HEADER_SIZE
    (header.headerLen.toNat - XGL_WIRE_BASE_HEADER_SIZE) = encodeWireExts exts
  types : ∀ ext ∈ exts, ext.type ≠ 0
  lengths : frame.length = header.headerLen.toNat + header.payloadLen.toNat +
    (lastTagLen exts).toNat + XGL_CRC16_SIZE
  crc : xglCrc16Modbus (readBytes frame 0 (frame.length - XGL_CRC16_SIZE)) =
    xglDeserializeU16Le (frame.drop (frame.length - XGL_CRC16_SIZE))

/-- The loop over the extensions ends with the last tag length. -/
theorem parserAuthTagLen_eq {exts : List WireExt} {start tagLen : UInt8}
    (h : parserAuthTagLen exts start = some tagLen) :
    tagLen = (exts.filter fun ext => ext.type == XGL_WIRE_EXT_SECURITY).getLast?.elim start
      fun ext => byteAt ext.value 12 := by
  induction exts generalizing start with
  | nil =>
    cases h
    rfl
  | cons ext rest ih =>
    unfold parserAuthTagLen at h
    by_cases htype : (ext.type == XGL_WIRE_EXT_SECURITY) = true
    · rw [if_pos htype] at h
      split at h
      · cases h
      · rename_i security hsecurity
        split at h
        · cases h
        · have htag : security.tagLen = byteAt ext.value 12 := by
            unfold xglWireDecodeSecurityExtValue at hsecurity
            split at hsecurity
            · cases hsecurity
            · split at hsecurity
              · cases hsecurity
              · cases hsecurity
                rfl
          rw [List.filter_cons, if_pos htype, ih h, htag, List.getLast?_cons]
          cases (rest.filter fun ext => ext.type == XGL_WIRE_EXT_SECURITY).getLast? <;> rfl
    · rw [if_neg htype] at h
      rw [List.filter_cons, if_neg htype]
      exact ih h

/-- A header whose announcement is met has extensions that tile its area. -/
theorem announcedLen_some {frame : Bytes} {header : WireHeader} {total : Nat}
    (h : announcedLen frame header = some total) :
    ∃ exts, readBytes frame XGL_WIRE_BASE_HEADER_SIZE
        (header.headerLen.toNat - XGL_WIRE_BASE_HEADER_SIZE) = encodeWireExts exts ∧
      (∀ ext ∈ exts, ext.type ≠ 0) ∧
      total = header.headerLen.toNat + header.payloadLen.toNat + (lastTagLen exts).toNat +
        XGL_CRC16_SIZE := by
  unfold announcedLen at h
  split at h
  · rename_i hzero
    cases h
    refine ⟨[], by rw [hzero]; rfl, ?_, rfl⟩
    intro ext hext
    cases hext
  · dsimp only at h
    split at h
    · cases h
    · rename_i tagLen htag
      split at h
      · cases h
      · rename_i hend
        split at h
        · cases h
        · cases h
          have hwalk : wireExts (frame.drop XGL_WIRE_BASE_HEADER_SIZE)
                (header.headerLen.toNat - XGL_WIRE_BASE_HEADER_SIZE)
              = ((wireExts (frame.drop XGL_WIRE_BASE_HEADER_SIZE)
                  (header.headerLen.toNat - XGL_WIRE_BASE_HEADER_SIZE)).1, .notFound) := by
            simp only [bne_iff_ne, ne_eq, not_not] at hend
            rw [← hend]
          obtain ⟨htiles, hall⟩ := wireExtStream_tiles hwalk (Nat.zero_le _)
          refine ⟨_, ?_, fun ext hext => (hall ext hext).1, ?_⟩
          · rw [← htiles]
            apply ext_byteAt
            · rw [length_readBytes, length_readBytes]
              rfl
            · intro i hi
              rw [length_readBytes] at hi
              rw [byteAt_readBytes _ _ _ _ hi, byteAt_readBytes _ _ _ _ (by exact hi), byteAt_drop,
                Nat.zero_add]
          · rw [parserAuthTagLen_eq htag]
            rfl

/-! ### One byte -/

section Step

variable {size : Nat} {parser : Parser} {held : Bytes}

/-- The check of the extensions does not touch the cache. -/
theorem xglParserValidateHeaderExtensions_cache (parser : Parser) :
    (xglParserValidateHeaderExtensions parser).2.cache = parser.cache := by
  unfold xglParserValidateHeaderExtensions
  dsimp only
  split
  · rfl
  · split
    · rfl
    · split
      · rfl
      · split
        · rfl
        · split <;> rfl

/-- A header byte is stored behind the others, and once more at the start when it
is a repeated first magic byte. -/
theorem parserFeedHeader_cache (parser : Parser) (byte : UInt8) :
    (parserFeedHeader parser byte).2.cache = (parser.push byte).cache ∨
      ((parser.push byte).cacheLen = 2 ∧
        byteAt (parser.push byte).cache 1 ≠ XGL_WIRE_MAGIC_1 ∧ byte = XGL_WIRE_MAGIC_0 ∧
        (parserFeedHeader parser byte).2.cache = (parser.push byte).cache.set 0 byte) := by
  unfold parserFeedHeader
  dsimp only
  generalize parser.push byte = pushed
  split
  · rename_i hsecond
    simp only [Bool.and_eq_true, beq_iff_eq, bne_iff_ne] at hsecond
    split
    · rename_i hbyte
      exact .inr ⟨hsecond.1, hsecond.2, beq_iff_eq.mp hbyte, rfl⟩
    · exact .inl rfl
  · split
    · split
      · exact .inl rfl
      · rename_i header hdecode
        split
        · exact .inl rfl
        · have hkept := xglParserValidateHeaderExtensions_cache { pushed with
            expectedHeaderLen := header.headerLen.toNat
            expectedPayloadLen := header.payloadLen }
          generalize xglParserValidateHeaderExtensions { pushed with
            expectedHeaderLen := header.headerLen.toNat
            expectedPayloadLen := header.payloadLen } = checked at hkept ⊢
          obtain ⟨result, checked⟩ := checked
          cases result with
          | error => exact .inl hkept
          | incomplete =>
            dsimp only
            split
            · exact .inl hkept
            · split <;> exact .inl hkept
          | complete =>
            dsimp only
            split
            · exact .inl hkept
            · split <;> exact .inl hkept
    · exact .inl rfl

/-- A full cache is not written. -/
theorem xglParserFeedByte_full {parser : Parser} (hfull : parser.cacheLen ≥ parser.cacheSize)
    (byte : UInt8) (now : UInt32) :
    (xglParserFeedByte parser byte now).2.cache = parser.cache := by
  unfold xglParserFeedByte
  rw [if_pos hfull]
  rfl

/-- Every state stores the byte behind the bytes cached or at the start, and leaves the other bytes
of its memory alone. -/
theorem xglParserFeedByte_others (parser : Parser) (byte : UInt8) (now : UInt32) {i : Nat}
    (hlen : i ≠ parser.cacheLen) (hstart : i ≠ 0) :
    byteAt (xglParserFeedByte parser byte now).2.cache i = byteAt parser.cache i := by
  have hpush : byteAt (parser.push byte).cache i = byteAt parser.cache i :=
    byteAt_set_ne _ _ _ _ (Ne.symm hlen)
  unfold xglParserFeedByte
  split
  · rfl
  split
  · split
    · exact byteAt_set_ne _ _ _ _ (Ne.symm hstart)
    · rfl
  · rcases parserFeedHeader_cache parser byte with hkept | ⟨-, -, -, hset⟩
    · rw [hkept]
      exact hpush
    · -- a repeated first magic byte is stored once more at the start
      rw [hset, byteAt_set_ne _ _ _ _ (Ne.symm hstart)]
      exact hpush
  · dsimp only
    split <;> exact hpush
  · dsimp only
    split
    · split <;> exact hpush
    · exact hpush

/-- Whatever the memory, a write lies in the cache: behind the bytes cached or at the start. -/
theorem parserWrites_bound {parser : Parser} {byte : UInt8} {now : UInt32} {i : Nat}
    (h : parserWrites parser byte now i) :
    i < parser.cacheSize ∧ (i = parser.cacheLen ∨ i = 0) := by
  obtain ⟨memory, hchanged⟩ := h
  have hroom : parser.cacheLen < parser.cacheSize := by
    by_contra hfull
    exact hchanged (congrArg (byteAt · i)
      (@xglParserFeedByte_full { parser with cache := memory } (Nat.not_lt.mp hfull) byte now))
  have hplace : i = parser.cacheLen ∨ i = 0 := by
    by_contra hother
    rw [not_or] at hother
    exact hchanged (xglParserFeedByte_others { parser with cache := memory } byte now hother.1
      hother.2)
  exact ⟨by omega, hplace⟩

/-- The cache of the parser is such a memory. -/
theorem byteAt_of_not_parserWrites {parser : Parser} {byte : UInt8} {now : UInt32} {i : Nat}
    (h : ¬ parserWrites parser byte now i) :
    byteAt (xglParserFeedByte parser byte now).2.cache i = byteAt parser.cache i := by
  by_contra hchanged
  exact h ⟨parser.cache, hchanged⟩

/-- What a parser reports is well formed. -/
theorem Tracks.wellFormed (h : Tracks size parser held) {byte : UInt8}
    (hcomplete : (heldStep size held byte).1 = .complete) :
    ∃ header exts, WellFormedFrame (held ++ [byte]) header exts := by
  obtain ⟨_, header, hdecode, hannounced, hcrc⟩ := h.complete hcomplete
  have hge := wireHeaderFieldsValid.headerLen_ge (xglWireDecodeHeader_eq_ok.mp hdecode).2.2.2.2.1
  have hle := le_announcedLen hannounced
  obtain ⟨exts, htiled, htypes, htotal⟩ := announcedLen_some hannounced
  refine ⟨header, exts, ?_, htiled, htypes, htotal, beq_iff_eq.mp hcrc⟩
  rw [← hdecode]
  exact xglWireDecodeHeader_congr (by omega) (le_refl _) fun _ _ => rfl

end Step

/-! ### Runs -/

/-- The parser holds the last bytes it was fed. -/
structure HoldsLast (size : Nat) (fed : Bytes) (parser : Parser) (held : Bytes) : Prop
    extends Tracks size parser held where
  last : ∃ before, fed = before ++ held

/-- Every state of a run holds the last bytes it was fed. The induction is on the
actions, from the last one. -/
theorem runParser_holds {cacheBuffer : Bytes} {parser : Parser}
    (hinit : xglParserInit cacheBuffer = .ok parser) (actions : List ParserAction) :
    ∃ held, HoldsLast cacheBuffer.length (fedBytes actions) (runParser actions parser) held := by
  induction actions using List.reverseRecOn with
  | nil => exact ⟨[], tracks_init hinit, [], rfl⟩
  | append_singleton actions action ih =>
    obtain ⟨held, htracks, before, hfed⟩ := ih
    unfold runParser fedBytes at *
    rw [List.foldl_append, List.filterMap_append, hfed]
    cases action with
    | timeout =>
      exact ⟨[], tracks_reset htracks.room htracks.cacheSize htracks.cacheLength, before ++ held,
        rfl⟩
    | feed byte now =>
      have hagrees := htracks.feed byte now
      dsimp only [List.foldl_cons, List.foldl_nil, parserStep]
      by_cases hcomplete : (heldStep cacheBuffer.length held byte).1 = .complete
      · have hreports := hagrees.reports hcomplete
        rw [if_pos (by rw [hagrees.result, hcomplete]; rfl)]
        exact ⟨[], tracks_reset hreports.room hreports.cacheSize hreports.cacheLength,
          before ++ held ++ [byte], (List.append_nil _).symm⟩
      · rw [if_neg (by rw [hagrees.result]; simpa using hcomplete)]
        refine ⟨_, hagrees.tracks hcomplete, ?_⟩
        have houtcome := heldStep_cases cacheBuffer.length held byte
        generalize heldStep cacheBuffer.length held byte = step at houtcome ⊢
        change ∃ front, before ++ held ++ [byte] = front ++ step.2
        cases houtcome with
        | kept => exact ⟨before, List.append_assoc _ _ _⟩
        | restarted hbyte => exact ⟨before ++ held, rfl⟩
        | skipped => exact ⟨before ++ held ++ [byte], (List.append_nil _).symm⟩
        | failed => exact ⟨before ++ held ++ [byte], (List.append_nil _).symm⟩
        | complete header total hdecode hannounced hreached hcrc =>
          exact ⟨before, List.append_assoc _ _ _⟩

/-- In every state that a parser reaches when it is fed any bytes, reset behind
every frame and reset by timeouts: the next byte is written inside the cache, behind
the bytes cached or at the start, and no other byte of the memory changes, the count
never exceeds the cache, an error leaves the parser hunting with nothing cached, and a
reported frame consists of the last bytes fed and is well formed. -/
theorem parser_sound (cacheBuffer : Bytes) (parser : Parser)
    (hinit : xglParserInit cacheBuffer = .ok parser) (actions : List ParserAction) (byte : UInt8)
    (now : UInt32) :
    let before := runParser actions parser
    let fed := xglParserFeedByte before byte now
    before.cacheSize = cacheBuffer.length ∧
    (∀ i, parserWrites before byte now i →
      i < before.cacheSize ∧ (i = before.cacheLen ∨ i = 0)) ∧
    (∀ i, ¬ parserWrites before byte now i → byteAt fed.2.cache i = byteAt before.cache i) ∧
    before.cacheLen ≤ before.cacheSize ∧ fed.2.cacheLen ≤ before.cacheSize ∧
    (fed.1 = .error → fed.2.state = .magic ∧ fed.2.cacheLen = 0) ∧
    (fed.1 = .complete → ∃ earlier header exts,
      fedBytes (actions ++ [.feed byte now]) = earlier ++ fed.2.cache.take fed.2.cacheLen ∧
      (fed.2.cache.take fed.2.cacheLen).length = fed.2.cacheLen ∧
      WellFormedFrame (fed.2.cache.take fed.2.cacheLen) header exts) := by
  intro before fed
  obtain ⟨held, htracks, earlier, hfed⟩ := runParser_holds hinit actions
  have hagrees : Agrees cacheBuffer.length fed (heldStep cacheBuffer.length held byte) :=
    htracks.feed byte now
  have hsize : before.cacheSize = cacheBuffer.length := htracks.cacheSize
  have hfedLen : fed.2.cacheLen ≤ cacheBuffer.length := by
    -- the byte completes a frame, and the parser starts anew behind it
    by_cases hcomplete : (heldStep cacheBuffer.length held byte).1 = .complete
    · have hreports := hagrees.reports hcomplete
      rw [hreports.cacheLen]
      exact hreports.fits
    · have hnext := hagrees.tracks hcomplete
      rw [hnext.cacheLen]
      exact hnext.fits
  refine ⟨hsize, fun i hi => parserWrites_bound hi, fun i hi => byteAt_of_not_parserWrites hi, ?_,
    hsize ▸ hfedLen, ?_, ?_⟩
  · rw [hsize, show before.cacheLen = held.length from htracks.cacheLen]
    exact htracks.fits
  · intro herror
    rw [hagrees.result] at herror
    have hnext := hagrees.tracks (by rw [herror]; simp)
    have hnil : (heldStep cacheBuffer.length held byte).2 = [] := by
      have houtcome := heldStep_cases cacheBuffer.length held byte
      generalize heldStep cacheBuffer.length held byte = step at houtcome herror ⊢
      cases houtcome <;> first | rfl | cases herror
    rw [hnil] at hnext
    refine ⟨?_, hnext.cacheLen⟩
    -- without bytes held the parser hunts for the magic
    cases hnext.phase with
    | magic hstate _ => exact hstate
    | header hstate hindex hpos => cases hpos
    | payload hstate header total hnoted =>
      have := wireHeaderFieldsValid.headerLen_ge
        (xglWireDecodeHeader_eq_ok.mp hnoted.decode).2.2.2.2.1
      have := hnoted.reached
      rw [List.length_nil] at this
      unfold XGL_WIRE_BASE_HEADER_SIZE at *
      omega
    | crc hstate header total hnoted =>
      have := wireHeaderFieldsValid.headerLen_ge
        (xglWireDecodeHeader_eq_ok.mp hnoted.decode).2.2.2.2.1
      have := hnoted.reached
      rw [List.length_nil] at this
      unfold XGL_WIRE_BASE_HEADER_SIZE at *
      omega
  · intro hcomplete
    rw [hagrees.result] at hcomplete
    have hreports := hagrees.reports hcomplete
    obtain ⟨header, exts, hwell⟩ := htracks.wellFormed hcomplete
    have hframe := (htracks.complete hcomplete).1
    rw [hframe] at hreports
    have htake : fed.2.cache.take fed.2.cacheLen = held ++ [byte] := by
      rw [hreports.cacheLen]
      exact take_eq_of_bytes (by rw [hreports.cacheLength]; exact hreports.fits) hreports.bytes
    rw [htake]
    refine ⟨earlier, header, exts, ?_, hreports.cacheLen.symm, hwell⟩
    unfold fedBytes at hfed ⊢
    rw [List.filterMap_append, hfed, List.append_assoc]
    rfl

/-- A parser just set up over a cache of zeros. -/
def idleParser (size : Nat) : Parser where
  state := .magic
  cache := List.replicate size 0
  cacheSize := size
  cacheLen := 0
  index := 0
  timestamp := 0
  expectedHeaderLen := 0
  expectedPayloadLen := 0
  expectedAuthTagLen := 0

/-- The sample frame behind a timeout, but for its last byte. -/
def sampleFeeds : List ParserAction :=
  .timeout :: (sampleFrame.take 43).map fun byte => .feed byte 0

/-- The sample frame is reported at its last byte, and it is well formed. -/
theorem parser_sound_sample :
    xglParserInit (List.replicate 64 0) = .ok (idleParser 64) ∧
      ∃ header exts, WellFormedFrame sampleFrame header exts := by
  refine ⟨rfl, ?_⟩
  have hcomplete :
      (xglParserFeedByte (runParser sampleFeeds (idleParser 64)) 87 0).1 = .complete := by
    decide +kernel
  have hframe : (xglParserFeedByte (runParser sampleFeeds (idleParser 64)) 87 0).2.cache.take
      (xglParserFeedByte (runParser sampleFeeds (idleParser 64)) 87 0).2.cacheLen
        = sampleFrame := by
    decide +kernel
  obtain ⟨_, header, exts, _, _, hwell⟩ := (parser_sound (List.replicate 64 0) (idleParser 64) rfl
    sampleFeeds 87 0).2.2.2.2.2.2 hcomplete
  rw [hframe] at hwell
  exact ⟨header, exts, hwell⟩

end XgenLink
