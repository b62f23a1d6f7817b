import XgenLink.Lib.Run
import XgenLink.Wire.Parser

/-!
# `XgenLink.Proofs.ParserCompletes`: the parser completes every well-formed frame

`xgl_parser_feed_byte` puts a frame together from single bytes. It hunts for the two magic bytes,
collects the base header, checks it, collects the extensions that the header announces and checks
these, and then collects payload, tag and checksum.

A parser that hunts for the magic and is fed the bytes of a well-formed frame that fits its cache
reports the frame at the last byte and not before (`parser_completes_frame`). The induction is on
the number of bytes fed; `ParserAt` says what the parser holds after `k` of them: which state it
is in, what it has noted of the header, and that the cache starts with the bytes fed.

* `ParsableFrame`: a frame whose parts agree with each other.
* `ParserAt`: the parser in the middle of a frame.
* `ParserAt.feed_header`, `ParserAt.feed`: one byte further.
* `ParserAt.feed_last`: the last byte completes it.
* `parser_completes_frame`: the whole frame.
-/

set_option autoImplicit false

namespace XgenLink

/-- A frame whose header, extensions, lengths and checksum agree, with the tag
length its last SECURITY_EXT announces. -/
structure ParsableFrame (frame : Bytes) (header : WireHeader) (tagLen : UInt8) : Prop where
  decode : xglWireDecodeHeader frame frame.length = .ok header
  walk : (wireExts (frame.drop XGL_WIRE_BASE_HEADER_SIZE)
    (header.headerLen.toNat - XGL_WIRE_BASE_HEADER_SIZE)).2 = .notFound
  tag : parserAuthTagLen (wireExts (frame.drop XGL_WIRE_BASE_HEADER_SIZE)
    (header.headerLen.toNat - XGL_WIRE_BASE_HEADER_SIZE)).1 0 = some tagLen
  auth : header.flags &&& XGL_WIRE_FLAG_AUTHENTICATED ≠ 0 → tagLen ≠ 0
  lengths : frame.length = header.headerLen.toNat + header.payloadLen.toNat + tagLen.toNat +
    XGL_CRC16_SIZE
  crc : xglCrc16Modbus (readBytes frame 0 (frame.length - XGL_CRC16_SIZE)) =
    xglDeserializeU16Le (frame.drop (frame.length - XGL_CRC16_SIZE))

/-- Feeding bytes, each with its time, and the results in order. -/
def parserFeedAll (inputs : List (UInt8 × UInt32)) (parser : Parser) :
    Parser × List ParseResult :=
  runSteps
    (fun parser input =>
      ((xglParserFeedByte parser input.1 input.2).2,
        [(xglParserFeedByte parser input.1 input.2).1]))
    inputs parser

/-- What the parser holds after `k` bytes of the frame. -/
structure ParserAt (size : Nat) (frame : Bytes) (header : WireHeader) (tagLen : UInt8) (k : Nat)
    (parser : Parser) : Prop where
  cacheSize : parser.cacheSize = size
  cacheLength : parser.cache.length = size
  cacheLen : parser.cacheLen = k
  bytes : ∀ i, i < k → byteAt parser.cache i = byteAt frame i
  phase :
    (k < header.headerLen.toNat ∧ parser.state = .header ∧ parser.index = 0) ∨
    (header.headerLen.toNat ≤ k ∧
      k < header.headerLen.toNat + (header.payloadLen.toNat + tagLen.toNat) ∧
      parser.state = .payload ∧ parser.expectedHeaderLen = header.headerLen.toNat ∧
      parser.expectedPayloadLen = header.payloadLen ∧ parser.expectedAuthTagLen = tagLen) ∨
    (header.headerLen.toNat + (header.payloadLen.toNat + tagLen.toNat) ≤ k ∧
      parser.state = .crc ∧
      parser.index + (header.headerLen.toNat + (header.payloadLen.toNat + tagLen.toNat)) = k)

section Steps

variable {size k : Nat} {frame : Bytes} {header : WireHeader} {tagLen : UInt8} {parser : Parser}

/-- Storing the next byte of the frame. -/
theorem ParserAt.push_bytes (h : ParserAt size frame header tagLen k parser) (hk : k < size) :
    ∀ i, i < k + 1 → byteAt (parser.push (byteAt frame k)).cache i = byteAt frame i := by
  intro i hi
  have hlen := h.cacheLen
  unfold Parser.push
  dsimp only
  rw [hlen]
  rcases Nat.lt_or_ge i k with hlt | hge
  · rw [byteAt_set_ne _ _ _ _ (by omega)]
    exact h.bytes i hlt
  · have hik : i = k := by omega
    rw [hik, byteAt_set_self _ _ _ (by rw [h.cacheLength]; exact hk)]

/-- The header is decoded from the cache as from the frame once it is complete. -/
theorem ParsableFrame.decode_cache (hframe : ParsableFrame frame header tagLen) {cache : Bytes}
    (hbytes : ∀ i, i < XGL_WIRE_BASE_HEADER_SIZE → byteAt cache i = byteAt frame i) :
    xglWireDecodeHeader cache XGL_WIRE_BASE_HEADER_SIZE = .ok header := by
  have hsize := (xglWireDecodeHeader_eq_ok.mp hframe.decode).1
  rw [xglWireDecodeHeader_congr (le_refl _) hsize hbytes, hframe.decode]

/-- The extensions check out once the whole header is in the cache. -/
theorem ParsableFrame.validate (hframe : ParsableFrame frame header tagLen)
    (hbytes : ∀ i, i < header.headerLen.toNat → byteAt parser.cache i = byteAt frame i)
    (hexp : parser.expectedHeaderLen = header.headerLen.toNat) :
    xglParserValidateHeaderExtensions parser
      = (.incomplete, { parser with expectedAuthTagLen := tagLen }) := by
  have hvalid := (xglWireDecodeHeader_eq_ok.mp hframe.decode).2.2.2.2.1
  have hge := wireHeaderFieldsValid.headerLen_ge hvalid
  have hwalk : wireExts (parser.cache.drop XGL_WIRE_BASE_HEADER_SIZE)
        (header.headerLen.toNat - XGL_WIRE_BASE_HEADER_SIZE)
      = wireExts (frame.drop XGL_WIRE_BASE_HEADER_SIZE)
        (header.headerLen.toNat - XGL_WIRE_BASE_HEADER_SIZE) := by
    apply wireExts_congr
    apply readBytes_congr
    intro i _ hi
    rw [byteAt_drop, byteAt_drop]
    exact hbytes _ (by omega)
  unfold xglParserValidateHeaderExtensions
  dsimp only
  rw [hexp]
  by_cases hzero : header.headerLen.toNat - XGL_WIRE_BASE_HEADER_SIZE = 0
  · -- no extensions: the tag length stays zero
    have htag := hframe.tag
    rw [hzero, wireExts_zero] at htag
    have htag0 : tagLen = 0 := by
      simpa [parserAuthTagLen] using htag.symm
    rw [if_pos (by simp [hzero]), htag0]
  · rw [if_neg (by simpa using hzero),
      hframe.decode_cache (fun i hi => hbytes i (by omega)), hwalk, hframe.tag]
    dsimp only
    rw [if_neg (by simp [hframe.walk]), if_neg]
    simp only [Bool.and_eq_true, bne_iff_ne, ne_eq, beq_iff_eq, not_and]
    exact hframe.auth

/-- A byte of the header. -/
theorem ParserAt.feed_header (h : ParserAt size frame header tagLen k parser)
    (hframe : ParsableFrame frame header tagLen) (hfit : frame.length ≤ size) (hk : 1 ≤ k)
    (hlt : k < header.headerLen.toNat) (hstate : parser.state = .header)
    (hindex : parser.index = 0) (now : UInt32) :
    ∃ parser', xglParserFeedByte parser (byteAt frame k) now = (.incomplete, parser') ∧
      ParserAt size frame header tagLen (k + 1) parser' := by
  obtain ⟨_, h0, h1, _, hvalid, _⟩ := xglWireDecodeHeader_eq_ok.mp hframe.decode
  have hge := wireHeaderFieldsValid.headerLen_ge hvalid
  have hlens := hframe.lengths
  have hcl := h.cacheLen
  have hsz := h.cacheSize
  have hcacheLen : parser.cache.length = size := h.cacheLength
  have hbytes := h.push_bytes (by omega)
  have hpushed : (parser.push (byteAt frame k)).cacheLen = k + 1 := by
    unfold Parser.push
    simp [hcl]
  have hqlen : (parser.push (byteAt frame k)).cache.length = size := by
    simp [Parser.push, hcacheLen]
  have hqsize : (parser.push (byteAt frame k)).cacheSize = size := hsz
  have hqstate : (parser.push (byteAt frame k)).state = .header := hstate
  have hqindex : (parser.push (byteAt frame k)).index = 0 := hindex
  unfold xglParserFeedByte
  rw [if_neg (by omega), hstate]
  dsimp only
  unfold parserFeedHeader
  dsimp only
  generalize parser.push (byteAt frame k) = pushed at *
  rw [hpushed]
  -- the second byte is the second magic byte
  have hmagic : ¬ ((k + 1 == 2 && byteAt pushed.cache 1 != XGL_WIRE_MAGIC_1) = true) := by
    simp only [Bool.and_eq_true, beq_iff_eq, bne_iff_ne, ne_eq, not_and, not_not]
    intro _
    rw [hbytes 1 (Nat.lt_succ_of_le hk), h1]
  rw [if_neg hmagic]
  -- the base header is complete with this byte, or it is not
  by_cases hbase : k + 1 ≥ XGL_WIRE_BASE_HEADER_SIZE
  · rw [if_pos hbase, hframe.decode_cache (fun i hi => hbytes i (by omega))]
    dsimp only
    -- bytes of the extension area are still to come
    by_cases hmore : k + 1 < header.headerLen.toNat
    · rw [if_pos hmore]
      exact ⟨_, rfl, ⟨hqsize, hqlen, rfl, hbytes, .inl ⟨hmore, hqstate, hqindex⟩⟩⟩
    · rw [if_neg hmore, hframe.validate]
      rotate_left
      · exact fun i hi => hbytes i (by omega)
      · rfl
      dsimp only
      rw [if_neg (by omega)]
      -- something follows the header, or the checksum does at once
      by_cases hbody : header.payloadLen > 0 ∨ tagLen > 0
      · have hpos : 0 < header.payloadLen.toNat + tagLen.toNat := by
          rcases hbody with hp | ht
          · have := UInt16.lt_iff_toNat_lt.mp hp
            simp at this
            omega
          · have := UInt8.lt_iff_toNat_lt.mp ht
            simp at this
            omega
        rw [if_pos (by simpa using hbody)]
        exact ⟨_, rfl, ⟨hqsize, hqlen, rfl, hbytes,
          .inr (.inl ⟨by omega, by omega, rfl, rfl, rfl, rfl⟩)⟩⟩
      · have hzero : header.payloadLen.toNat = 0 ∧ tagLen.toNat = 0 := by
          simp only [gt_iff_lt, UInt16.lt_iff_toNat_lt, UInt8.lt_iff_toNat_lt] at hbody
          simp at hbody
          simp [hbody]
        rw [if_neg (by simpa using hbody)]
        refine ⟨_, rfl, ⟨hqsize, hqlen, rfl, hbytes, .inr (.inr ⟨by omega, rfl, ?_⟩)⟩⟩
        dsimp only
        omega
  · rw [if_neg hbase]
    exact ⟨_, rfl, ⟨hqsize, hqlen, hpushed, hbytes, .inl ⟨by omega, hqstate, hqindex⟩⟩⟩

/-- Any byte of the frame but the last. The state the parser is in follows from `k`. -/
theorem ParserAt.feed (h : ParserAt size frame header tagLen k parser)
    (hframe : ParsableFrame frame header tagLen) (hfit : frame.length ≤ size) (hk : 1 ≤ k)
    (hlast : k + 1 < frame.length) (now : UInt32) :
    ∃ parser', xglParserFeedByte parser (byteAt frame k) now = (.incomplete, parser') ∧
      ParserAt size frame header tagLen (k + 1) parser' := by
  have hlens := hframe.lengths
  have hcl := h.cacheLen
  have hsz := h.cacheSize
  have hcacheLen : parser.cache.length = size := h.cacheLength
  have hbytes := h.push_bytes (by omega)
  rcases h.phase with ⟨hlt, hstate, hindex⟩ | ⟨hge, hlt, hstate, hh, hp, ht⟩ | ⟨hge, hstate, hindex⟩
  · exact h.feed_header hframe hfit hk hlt hstate hindex now
  · unfold xglParserFeedByte
    rw [if_neg (by omega), hstate]
    dsimp only [Parser.push]
    rw [hcl, hh, hp, ht]
    by_cases hdone : k + 1 - header.headerLen.toNat ≥ header.payloadLen.toNat + tagLen.toNat
    · rw [if_pos hdone]
      refine ⟨_, rfl, ⟨hsz, ?_, rfl, ?_, .inr (.inr ⟨by omega, rfl, ?_⟩)⟩⟩
      · simp [hcacheLen]
      · simpa [Parser.push, hcl] using hbytes
      · change 0 + _ = _
        omega
    · rw [if_neg hdone]
      refine ⟨_, rfl, ⟨hsz, ?_, rfl, ?_, .inr (.inl ⟨by omega, by omega, hstate, rfl, rfl, rfl⟩)⟩⟩
      · simp [hcacheLen]
      · simpa [Parser.push, hcl] using hbytes
  · unfold xglParserFeedByte
    rw [if_neg (by omega), hstate]
    dsimp only [Parser.push]
    unfold XGL_CRC16_SIZE at *
    rw [if_neg (by omega)]
    refine ⟨_, rfl, ⟨hsz, ?_, ?_, ?_, .inr (.inr ⟨by omega, hstate, ?_⟩)⟩⟩
    · simp [hcacheLen]
    · simp [hcl]
    · simpa [Parser.push, hcl] using hbytes
    · change parser.index + 1 + _ = _
      omega

/-- The last byte of the frame completes it. -/
theorem ParserAt.feed_last (h : ParserAt size frame header tagLen k parser)
    (hframe : ParsableFrame frame header tagLen) (hfit : frame.length ≤ size)
    (hlast : k + 1 = frame.length) (now : UInt32) :
    ∃ parser', xglParserFeedByte parser (byteAt frame k) now = (.complete, parser') ∧
      xglParserGetFrame parser' = .ok (parser'.cache, frame.length) ∧
      parser'.cache.length = size ∧
      ∀ i, i < frame.length → byteAt parser'.cache i = byteAt frame i := by
  have hlens := hframe.lengths
  have hcl := h.cacheLen
  have hsz := h.cacheSize
  have hbytes := h.push_bytes (by omega)
  have hcrc := hframe.crc
  unfold XGL_CRC16_SIZE at hlens hcrc
  rcases h.phase with ⟨hlt, _⟩ | ⟨_, hlt, _⟩ | ⟨hge, hstate, hindex⟩
  · omega
  · omega
  · have hcache : ∀ i, i < frame.length →
        byteAt (parser.cache.set k (byteAt frame k)) i = byteAt frame i := by
      simpa [Parser.push, hcl, hlast] using hbytes
    have hread : readBytes (parser.cache.set k (byteAt frame k)) 0 (frame.length - 2)
        = readBytes frame 0 (frame.length - 2) :=
      readBytes_congr fun i _ hi => hcache i (by omega)
    have hfield : xglDeserializeU16Le
        ((parser.cache.set k (byteAt frame k)).drop (frame.length - 2))
        = xglDeserializeU16Le (frame.drop (frame.length - 2)) := by
      unfold xglDeserializeU16Le
      simp only [byteAt_drop]
      rw [hcache _ (by omega), hcache _ (by omega)]
    unfold xglParserFeedByte XGL_CRC16_SIZE
    rw [if_neg (by omega), hstate]
    dsimp only [Parser.push]
    rw [if_pos (by omega), hcl, hlast, hread, hfield, hcrc, if_neg (by simp)]
    refine ⟨_, rfl, ?_, by simp [h.cacheLength], hcache⟩
    unfold xglParserGetFrame
    rw [if_neg]
    simp only [Bool.or_eq_true, bne_iff_ne, beq_iff_eq, not_or, ne_eq, not_not]
    exact ⟨hstate, by omega⟩

end Steps

/-- The parser completes at the last byte, from any point of the frame on. -/
theorem ParserAt.feedAll {size : Nat} {frame : Bytes} {header : WireHeader} {tagLen : UInt8}
    (hframe : ParsableFrame frame header tagLen) (hfit : frame.length ≤ size) (rest : Nat) :
    ∀ (k : Nat) (parser : Parser) (times : List UInt32),
      ParserAt size frame header tagLen k parser →
      1 ≤ k → k + (rest + 1) = frame.length → times.length = rest + 1 →
      ∃ parser',
        parserFeedAll ((readBytes frame k (rest + 1)).zip times) parser
          = (parser', List.replicate rest .incomplete ++ [.complete]) ∧
        xglParserGetFrame parser' = .ok (parser'.cache, frame.length) ∧
        parser'.cache.length = size ∧
        ∀ i, i < frame.length → byteAt parser'.cache i = byteAt frame i := by
  induction rest with
  | zero =>
    intro k parser times h hk hlen htimes
    obtain ⟨now, rfl⟩ := List.length_eq_one_iff.mp htimes
    obtain ⟨parser', hfeed, hget, hsize, hbytes⟩ := h.feed_last hframe hfit (by omega) now
    refine ⟨parser', ?_, hget, hsize, hbytes⟩
    simp [parserFeedAll, runSteps, readBytes_succ, hfeed]
  | succ rest ih =>
    intro k parser times h hk hlen htimes
    obtain ⟨now, times, rfl⟩ := List.exists_cons_of_length_eq_add_one htimes
    obtain ⟨next, hfeed, hnext⟩ := h.feed hframe hfit hk (by omega) now
    obtain ⟨parser', hall, hget, hsize, hbytes⟩ := ih (k + 1) next times hnext (by omega)
      (by omega) (by simpa using htimes)
    refine ⟨parser', ?_, hget, hsize, hbytes⟩
    unfold parserFeedAll at hall ⊢
    rw [readBytes_succ, List.zip_cons_cons, runSteps_cons, hfeed, hall]
    rfl

/-- A parser in its initial state with a cache that holds the frame reports it
at its last byte and not before, whatever the times and the old cache contents,
and then returns exactly the frame. -/
theorem parser_completes_frame {frame : Bytes} {header : WireHeader} {tagLen : UInt8}
    (hframe : ParsableFrame frame header tagLen) (parser : Parser) (times : List UInt32)
    (hstate : parser.state = .magic) (hempty : parser.cacheLen = 0)
    (hcache : parser.cache.length = parser.cacheSize) (hfit : frame.length ≤ parser.cacheSize)
    (htimes : times.length = frame.length) :
    ∃ parser',
      parserFeedAll (frame.zip times) parser
        = (parser', List.replicate (frame.length - 1) .incomplete ++ [.complete]) ∧
      xglParserGetFrame parser' = .ok (parser'.cache, frame.length) ∧
      parser'.cache.take frame.length = frame := by
  obtain ⟨hsize, h0, _, _, hvalid, _⟩ := xglWireDecodeHeader_eq_ok.mp hframe.decode
  have hge := wireHeaderFieldsValid.headerLen_ge hvalid
  unfold XGL_WIRE_BASE_HEADER_SIZE at hsize hge
  obtain ⟨rest, hrest⟩ : ∃ rest, frame.length = rest + 2 := ⟨frame.length - 2, by omega⟩
  obtain ⟨now, times, rfl⟩ := List.exists_cons_of_length_eq_add_one (htimes.trans hrest)
  -- the first byte is the magic byte the parser hunts for
  have hfirst : xglParserFeedByte parser (byteAt frame 0) now
      = (.incomplete,
          { parser with
            cache := parser.cache.set 0 (byteAt frame 0)
            cacheLen := 1
            index := 0
            timestamp := now
            state := .header }) := by
    unfold xglParserFeedByte
    rw [if_neg (by omega), hstate]
    dsimp only
    rw [if_pos (by simp [h0])]
  have hat : ParserAt parser.cacheSize frame header tagLen 1
      { parser with
        cache := parser.cache.set 0 (byteAt frame 0)
        cacheLen := 1
        index := 0
        timestamp := now
        state := .header } := by
    refine ⟨rfl, by simp [hcache], rfl, ?_, .inl ⟨by omega, rfl, rfl⟩⟩
    intro i hi
    obtain rfl : i = 0 := by omega
    exact byteAt_set_self _ _ _ (by omega)
  obtain ⟨parser', hall, hget, hlong, hbytes⟩ := hat.feedAll hframe hfit rest 1 _ times (by omega)
    (by omega) (by simpa [hrest] using htimes)
  have hsplit : frame = byteAt frame 0 :: readBytes frame 1 (rest + 1) := by
    rw [← readBytes_succ, ← hrest, readBytes_self]
  refine ⟨parser', ?_, hget, ?_⟩
  · conv_lhs => rw [hsplit]
    unfold parserFeedAll at hall ⊢
    rw [List.zip_cons_cons, runSteps_cons, hfirst, hall, hrest]
    rfl
  · apply ext_byteAt
    · rw [List.length_take]
      omega
    · intro i hi
      rw [List.length_take] at hi
      rw [byteAt_take _ _ _ (by omega)]
      exact hbytes i (by omega)

end XgenLink
