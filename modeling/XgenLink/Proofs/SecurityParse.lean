import XgenLink.Proofs.ParserSound

/-!
# `XgenLink.Proofs.SecurityParse`: authenticated frames and their SECURITY_EXT

A frame with the AUTHENTICATED flag ends with a tag, and its SECURITY_EXT says how long this is
and under which key and number it was made. Without a SECURITY_EXT there is nothing to verify.

`xgl_parser_validate_header_extensions` refuses a header with the AUTHENTICATED flag and no
SECURITY_EXT, but it looks at the flags only when there are extensions at all: it returns early
for a header of exactly 24 bytes, and such a header passes with the flag set. The parser then
takes the tag to be empty and reports the frame.

* `HasSecurityExt`: the extension area announces a tag.
* `HeaderChecked`: what the parser knows once it is behind the header. Every byte keeps it.
* `state_of_complete`: a frame is reported behind its header.
* `authenticated_has_security_iff`: a reported frame with the flag has its
  SECURITY_EXT exactly when its header is longer than the base header.
* `bare_authenticated_frame`: a frame that is reported without one.
-/

set_option autoImplicit false

namespace XgenLink

/-! ### Extensions -/

/-- The extension area of a cached header has a SECURITY_EXT that announces a tag. -/
def HasSecurityExt (cache : Bytes) (header : WireHeader) : Prop :=
  ∃ ext ∈ (wireExts (cache.drop XGL_WIRE_BASE_HEADER_SIZE)
      (header.headerLen.toNat - XGL_WIRE_BASE_HEADER_SIZE)).1,
    ext.type = XGL_WIRE_EXT_SECURITY ∧
      ∃ security, xglWireDecodeSecurityExtValue ext.value = .ok security ∧ security.tagLen ≠ 0

/-- A tag length that the loop did not start with comes from a SECURITY_EXT. -/
theorem parserAuthTagLen_found {exts : List WireExt} {start tagLen : UInt8}
    (h : parserAuthTagLen exts start = some tagLen) :
    tagLen = start ∨ ∃ ext ∈ exts, ext.type = XGL_WIRE_EXT_SECURITY ∧
      ∃ security, xglWireDecodeSecurityExtValue ext.value = .ok security ∧
        security.tagLen ≠ 0 := by
  induction exts generalizing start with
  | nil =>
    cases h
    exact .inl rfl
  | cons ext rest ih =>
    simp only [parserAuthTagLen] at h
    split at h
    · rename_i htype
      split at h
      · cases h
      · rename_i security hsecurity
        have htag := xglWireDecodeSecurityExtValue_tagLen hsecurity
        exact .inr ⟨ext, List.mem_cons_self, beq_iff_eq.mp htype, security, hsecurity, htag⟩
    · rcases ih h with hsame | ⟨found, hmem, hfound⟩
      · exact .inl hsame
      · exact .inr ⟨found, List.mem_cons_of_mem _ hmem, hfound⟩

/-- An accepted header with the flag and with extensions has its SECURITY_EXT. -/
theorem HasSecurityExt.of_announced {cache : Bytes} {header : WireHeader} {total : Nat}
    (h : announcedLen cache header = some total)
    (hauth : header.flags &&& XGL_WIRE_FLAG_AUTHENTICATED ≠ 0)
    (hlong : header.headerLen.toNat - XGL_WIRE_BASE_HEADER_SIZE ≠ 0) :
    HasSecurityExt cache header := by
  simp only [announcedLen, if_neg hlong] at h
  split at h
  · cases h
  rename_i tagLen htag
  split at h
  · cases h
  split at h
  · cases h
  rename_i hflag
  -- the flag is set, so the loop found a tag length
  have hne : tagLen ≠ 0 := by
    intro hzero
    exact hflag (by simp [hauth, hzero])
  exact (parserAuthTagLen_found htag).resolve_left hne

/-- A header without extensions has none. -/
theorem not_hasSecurityExt_of_short {cache : Bytes} {header : WireHeader}
    (hshort : header.headerLen.toNat - XGL_WIRE_BASE_HEADER_SIZE = 0) :
    ¬ HasSecurityExt cache header := by
  rintro ⟨ext, hmem, _⟩
  rw [hshort] at hmem
  simp [wireExts, wireExtStream, xglWireExtCursorNext] at hmem

/-! ### One byte -/

/-- What happens to a parser: a byte is fed, or it is reset, by its caller or by a
timeout. -/
inductive ParserInput where
  | feed (byte : UInt8) (currentTimeMs : UInt32)
  | reset

/-- The parser behind an input. -/
def parserTakes (parser : Parser) : ParserInput → Parser
  | .feed byte currentTimeMs => (xglParserFeedByte parser byte currentTimeMs).2
  | .reset => xglParserReset parser

/-- Behind the header, the cache holds a header whose extensions checked out. -/
structure HeaderChecked (parser : Parser) : Prop where
  size : parser.cacheSize = parser.cache.length
  room : parser.cacheLen ≤ parser.cacheSize
  checked : parser.state = .payload ∨ parser.state = .crc →
    ∃ header total, xglWireDecodeHeader parser.cache XGL_WIRE_BASE_HEADER_SIZE = .ok header ∧
      header.headerLen.toNat ≤ parser.cacheLen ∧ announcedLen parser.cache header = some total

/-- A reset leaves nothing to check. -/
theorem HeaderChecked.reset {parser : Parser} (hsize : parser.cacheSize = parser.cache.length) :
    HeaderChecked (xglParserReset parser) := by
  refine ⟨hsize, Nat.zero_le _, ?_⟩
  rintro (hstate | hstate) <;> cases hstate

/-- A byte behind the header leaves the header as it is. -/
theorem HeaderChecked.push {parser after : Parser} (h : HeaderChecked parser)
    (hstate : parser.state = .payload ∨ parser.state = .crc) {byte : UInt8}
    (hlt : parser.cacheLen < parser.cacheSize) (hcache : after.cache = (parser.push byte).cache)
    (hlen : after.cacheLen = parser.cacheLen + 1) (hsize : after.cacheSize = parser.cacheSize) :
    HeaderChecked after := by
  obtain ⟨header, total, hdecode, hreached, hannounced⟩ := h.checked hstate
  have hge := wireHeaderFieldsValid.headerLen_ge (xglWireDecodeHeader_eq_ok.mp hdecode).2.2.2.2.1
  have hlength : after.cache.length = parser.cache.length := by
    rw [hcache]
    exact List.length_set
  have hbytes : ∀ i, i < header.headerLen.toNat → byteAt after.cache i = byteAt parser.cache i := by
    intro i hi
    rw [hcache]
    exact byteAt_set_ne _ _ _ _ (by omega)
  refine ⟨by rw [hsize, hlength, h.size], by omega, fun _ => ⟨header, total, ?_, by omega, ?_⟩⟩
  · rw [← hdecode]
    exact xglWireDecodeHeader_congr (le_refl _) (le_refl _) fun i hi => hbytes i (by omega)
  · rw [← hannounced]
    exact announcedLen_congr hge hbytes

/-- A byte of the header: the parser gets behind the header only when its extensions
check out. -/
theorem HeaderChecked.header {parser : Parser} (h : HeaderChecked parser)
    (hlt : parser.cacheLen < parser.cacheSize) (hstate : parser.state = .header) (byte : UInt8) :
    HeaderChecked (parserFeedHeader parser byte).2 := by
  have hsize : (parser.push byte).cacheSize = (parser.push byte).cache.length :=
    h.size.trans List.length_set.symm
  have hroom : (parser.push byte).cacheLen ≤ (parser.push byte).cacheSize := hlt
  have hhunting : (parser.push byte).state = .header := hstate
  have hpos : 1 ≤ (parser.push byte).cacheSize := Nat.lt_of_le_of_lt (Nat.zero_le _) hlt
  simp only [parserFeedHeader]
  generalize parser.push byte = pushed at hsize hroom hhunting hpos ⊢
  split
  · split
    · refine ⟨hsize.trans List.length_set.symm, hpos, ?_⟩
      rintro (hbehind | hbehind) <;> cases hbehind
    · exact .reset hsize
  split
  · split
    · exact .reset hsize
    rename_i header hdecode
    split
    · refine ⟨hsize, hroom, ?_⟩
      rintro (hbehind | hbehind) <;> exact absurd (hhunting.symm.trans hbehind) (by decide)
    rename_i hreached
    have hlong : header.headerLen.toNat ≤ pushed.cacheLen := Nat.le_of_not_lt hreached
    have hlength : header.headerLen.toNat ≤ pushed.cache.length := by omega
    -- what the check of the extensions has found
    rcases @validate_announced
        { pushed with
          expectedHeaderLen := header.headerLen.toNat
          expectedPayloadLen := header.payloadLen }
        pushed.cache header hdecode hlength (fun _ _ => rfl) rfl with
      ⟨_, hrefused⟩ | ⟨tagLen, hannounced, hpassed⟩
    · rw [hrefused]
      exact .reset hsize
    · rw [hpassed]
      dsimp only
      split
      · exact .reset hsize
      · split <;> exact ⟨hsize, hroom, fun _ => ⟨header, _, hdecode, hlong, hannounced⟩⟩
  · refine ⟨hsize, hroom, ?_⟩
    rintro (hbehind | hbehind) <;> exact absurd (hhunting.symm.trans hbehind) (by decide)

/-- Every byte keeps the header checked. -/
theorem HeaderChecked.feed {parser : Parser} (h : HeaderChecked parser) (byte : UInt8)
    (now : UInt32) : HeaderChecked (xglParserFeedByte parser byte now).2 := by
  simp only [xglParserFeedByte]
  split
  · exact .reset h.size
  rename_i hlt
  rw [ge_iff_le, Nat.not_le] at hlt
  split
  · split
    · refine ⟨h.size.trans List.length_set.symm, Nat.lt_of_le_of_lt (Nat.zero_le _) hlt, ?_⟩
      rintro (hbehind | hbehind) <;> cases hbehind
    · exact h
  · rename_i hstate
    exact h.header hlt hstate byte
  · rename_i hstate
    split
    · exact h.push (.inl hstate) hlt rfl rfl rfl
    · exact h.push (.inl hstate) hlt rfl rfl rfl
  · rename_i hstate
    have hpushed : HeaderChecked { parser.push byte with index := parser.index + 1 } :=
      h.push (.inr hstate) hlt rfl rfl rfl
    split
    · split
      · exact .reset hpushed.size
      · exact hpushed
    · exact hpushed

/-- Every input keeps the header checked. -/
theorem HeaderChecked.takes {parser : Parser} (h : HeaderChecked parser) (input : ParserInput) :
    HeaderChecked (parserTakes parser input) := by
  cases input with
  | feed byte now => exact h.feed byte now
  | reset => exact .reset h.size

/-- A frame is reported behind its header. -/
theorem state_of_complete {parser : Parser} {byte : UInt8} {now : UInt32}
    (h : (xglParserFeedByte parser byte now).1 = .complete) :
    (xglParserFeedByte parser byte now).2.state = .crc := by
  have hheader : (parserFeedHeader parser byte).1 ≠ .complete := by
    simp only [parserFeedHeader]
    split
    · split <;> simp
    split
    · split
      · simp
      split
      · simp
      split
      · simp
      · split
        · simp
        · split <;> simp
    · simp
  simp only [xglParserFeedByte] at h ⊢
  split at h
  · cases h
  split at h
  · split at h <;> cases h
  · exact absurd h hheader
  · split at h <;> cases h
  · rename_i hfull _ hstate
    rw [if_neg hfull]
    split at h
    · rename_i hindex
      rw [if_pos hindex]
      split at h
      · cases h
      · rename_i hcrc
        rw [if_neg hcrc]
        exact hstate
    · cases h

/-! ### Streams -/

/-- For every stream of bytes and resets: when a frame with the AUTHENTICATED flag is
reported, its extension area holds a SECURITY_EXT with a tag length exactly when the
header is longer than the base header. -/
theorem authenticated_has_security_iff (cacheBuffer : Bytes) (parser : Parser)
    (hinit : xglParserInit cacheBuffer = .ok parser) (inputs : List ParserInput) (byte : UInt8)
    (now : UInt32) :
    let fed := xglParserFeedByte (inputs.foldl parserTakes parser) byte now
    ∀ header, fed.1 = .complete →
      xglWireDecodeHeader fed.2.cache XGL_WIRE_BASE_HEADER_SIZE = .ok header →
      ((header.flags &&& XGL_WIRE_FLAG_AUTHENTICATED ≠ 0 → HasSecurityExt fed.2.cache header) ↔
        (header.flags &&& XGL_WIRE_FLAG_AUTHENTICATED ≠ 0 →
          header.headerLen.toNat ≠ XGL_WIRE_BASE_HEADER_SIZE)) := by
  intro fed header hcomplete hdecode
  have hfresh : HeaderChecked parser := by
    simp only [xglParserInit] at hinit
    split at hinit
    · cases hinit
    · cases hinit
      refine ⟨rfl, Nat.zero_le _, ?_⟩
      rintro (hbehind | hbehind) <;> cases hbehind
  have hrun := foldl_invariant HeaderChecked (fun _ input h => h.takes input) inputs parser hfresh
  obtain ⟨checked, total, hchecked, hlong, hannounced⟩ :=
    (hrun.feed byte now).checked (.inr (state_of_complete hcomplete))
  have hsame : checked = header := Except.ok.inj (hchecked.symm.trans hdecode)
  subst hsame
  have hge := wireHeaderFieldsValid.headerLen_ge (xglWireDecodeHeader_eq_ok.mp hdecode).2.2.2.2.1
  constructor
  · intro hsecurity hauth hbase
    exact not_hasSecurityExt_of_short (by rw [hbase]; exact Nat.sub_self _) (hsecurity hauth)
  · intro hlonger hauth
    refine .of_announced hannounced hauth ?_
    have hne := hlonger hauth
    omega

/-- The header of the sample frame. -/
def securedSampleHeader : WireHeader where
  version := 2
  headerLen := 39
  packetType := 1
  flags := 18
  ttl := 8
  trafficClass := 0
  sourceId := 1
  targetId := 2
  connectionId := 0
  packetNumber := 5
  payloadLen := 2
  headerCrc16 := 0xC35F

/-- The sample frame is reported, and its SECURITY_EXT is there. -/
theorem authenticated_sample_has_security :
    (xglParserFeedByte (((sampleFrame.take 43).map fun byte => .feed byte 0).foldl parserTakes
        (idleParser 64)) 87 0).1 = .complete ∧
      HasSecurityExt (xglParserFeedByte (((sampleFrame.take 43).map fun byte =>
        .feed byte 0).foldl parserTakes (idleParser 64)) 87 0).2.cache securedSampleHeader := by
  have hcomplete : (xglParserFeedByte (((sampleFrame.take 43).map fun byte =>
      .feed byte 0).foldl parserTakes (idleParser 64)) 87 0).1 = .complete := by
    decide +kernel
  refine ⟨hcomplete, ?_⟩
  refine (authenticated_has_security_iff (List.replicate 64 0) (idleParser 64) rfl
    ((sampleFrame.take 43).map fun byte => .feed byte 0) 87 0 securedSampleHeader hcomplete ?_).mpr
      ?_ ?_
  · decide +kernel
  · intro _
    decide
  · decide

/-- A frame with the AUTHENTICATED flag, no extensions and one payload byte. -/
def bareFrame : Bytes :=
  [0xA5, 0x5A, 2, 24, 1, 16, 8, 0, 1, 0, 2, 0, 5, 0, 0, 0, 0, 0, 0, 0, 1, 0, 32, 0, 7, 65, 208]

/-- Its header. -/
def bareHeader : WireHeader where
  version := 2
  headerLen := 24
  packetType := 1
  flags := 16
  ttl := 8
  trafficClass := 0
  sourceId := 1
  targetId := 2
  connectionId := 5
  packetNumber := 0
  payloadLen := 1
  headerCrc16 := 32

/-- It is reported at its last byte, and there is no SECURITY_EXT. -/
theorem bare_authenticated_frame :
    xglParserInit (List.replicate 64 0) = .ok (idleParser 64) ∧
      ∃ fed, fed = xglParserFeedByte (((bareFrame.take 26).map fun byte =>
          .feed byte 0).foldl parserTakes (idleParser 64)) 208 0 ∧
        fed.1 = .complete ∧
        xglWireDecodeHeader fed.2.cache XGL_WIRE_BASE_HEADER_SIZE = .ok bareHeader ∧
        bareHeader.flags &&& XGL_WIRE_FLAG_AUTHENTICATED ≠ 0 ∧
        ¬ HasSecurityExt fed.2.cache bareHeader := by
  refine ⟨rfl, _, rfl, ?_, ?_, by decide, not_hasSecurityExt_of_short rfl⟩
  · decide +kernel
  · decide +kernel

end XgenLink
