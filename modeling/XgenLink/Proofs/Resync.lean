import XgenLink.Proofs.ParserSound

/-!
# `XgenLink.Proofs.Resync`: what noise in front of a frame does to the parser

A parser in search of a frame skips bytes until it sees the two magic bytes. Noise can have them
by chance. Behind such a false magic the parser swallows a whole base header of 24 bytes before it
looks at it. The header does not decode, and all of its bytes are dropped; they are not searched
again. When the noise ends inside such a header, the first bytes of the frame are swallowed with
it, its magic bytes among them, and the frame is lost.

So a frame behind noise is found exactly when the noise does not end inside such a header.
`headerDebt` computes this from the noise alone: it is cut from the left into headers of 24 bytes,
one at each magic behind the one before. A first magic byte at the end of the noise costs nothing,
since the parser starts anew at the one of the frame.

* `heldRun`, `Tracks.run`: runs of the parser on the bytes held.
* `heldRun_frame`: the bytes of a frame, one after the other.
* `headerDebt`: how many bytes the noise leaves a false header short of.
* `Scanned`, `scanned_noise`: the parser agrees with that.
* `resync_iff`: when the frame behind the noise is reported.
* `resync_loses_frame`: a false magic that costs the frame behind it.
-/

set_option autoImplicit false

namespace XgenLink

/-! ### Runs on the bytes held -/

/-- The bytes held after a byte; nothing behind a reported frame. -/
def heldNext (size : Nat) (held : Bytes) (byte : UInt8) : Bytes :=
  if (heldStep size held byte).1 = .complete then [] else (heldStep size held byte).2

/-- The bytes held after a run. -/
def heldRun (size : Nat) (bytes held : Bytes) : Bytes :=
  bytes.foldl (heldNext size) held

/-- The bytes held behind two stretches. -/
theorem heldRun_append (size : Nat) (a b held : Bytes) :
    heldRun size (a ++ b) held = heldRun size b (heldRun size a held) :=
  List.foldl_append

/-- The actions that feed bytes at given times. -/
def feedAll (inputs : List (UInt8 × UInt32)) : List ParserAction :=
  inputs.map fun input => .feed input.1 input.2

/-- A run of the parser is a run on the bytes held. -/
theorem Tracks.run {size : Nat} {parser : Parser} {held : Bytes} (h : Tracks size parser held)
    (inputs : List (UInt8 × UInt32)) :
    Tracks size (runParser (feedAll inputs) parser) (heldRun size (inputs.map Prod.fst) held) := by
  induction inputs generalizing parser held with
  | nil => exact h
  | cons input rest ih =>
    have hagrees := h.feed input.1 input.2
    refine ih ?_
    unfold parserStep heldNext
    dsimp only
    by_cases hcomplete : (heldStep size held input.1).1 = .complete
    · have hreports := hagrees.reports hcomplete
      rw [if_pos (by rw [hagrees.result, hcomplete]; rfl), if_pos hcomplete]
      exact tracks_reset hreports.room hreports.cacheSize hreports.cacheLength
    · rw [if_neg (by rw [hagrees.result]; simpa using hcomplete), if_neg hcomplete]
      exact hagrees.tracks hcomplete

/-- A byte adds at most itself. -/
theorem length_heldNext_le (size : Nat) (held : Bytes) (byte : UInt8) :
    (heldNext size held byte).length ≤ held.length + 1 := by
  unfold heldNext
  split
  · exact Nat.zero_le _
  · have houtcome := heldStep_cases size held byte
    generalize heldStep size held byte = step at houtcome ⊢
    cases houtcome <;> simp

/-- No more is held than was held before and was fed. -/
theorem length_heldRun_le (size : Nat) (bytes held : Bytes) :
    (heldRun size bytes held).length ≤ held.length + bytes.length := by
  induction bytes generalizing held with
  | nil => exact Nat.le_refl _
  | cons byte rest ih =>
    have hrest := ih (heldNext size held byte)
    have hone := length_heldNext_le size held byte
    rw [List.length_cons]
    change (heldRun size rest (heldNext size held byte)).length ≤ _
    omega

/-! ### The bytes of a frame -/

/-- A frame that checks out announces its own length. -/
theorem ParsableFrame.announced {frame : Bytes} {header : WireHeader} {tagLen : UInt8}
    (h : ParsableFrame frame header tagLen) : announcedLen frame header = some frame.length := by
  unfold announcedLen
  by_cases hzero : header.headerLen.toNat - XGL_WIRE_BASE_HEADER_SIZE = 0
  · have htag := h.tag
    rw [hzero, wireExts_zero] at htag
    have htag0 : tagLen = 0 := by simpa [parserAuthTagLen] using htag.symm
    rw [if_pos hzero, h.lengths, htag0]
    rfl
  · rw [if_neg hzero]
    dsimp only
    rw [h.tag]
    dsimp only
    rw [if_neg (by simp [h.walk]), if_neg, h.lengths]
    simp only [Bool.and_eq_true, bne_iff_ne, ne_eq, beq_iff_eq, not_and]
    exact h.auth

/-- A frame has at least a base header and a checksum. -/
theorem ParsableFrame.length_ge {frame : Bytes} {header : WireHeader} {tagLen : UInt8}
    (h : ParsableFrame frame header tagLen) :
    XGL_WIRE_BASE_HEADER_SIZE + XGL_CRC16_SIZE ≤ frame.length := by
  have hge := wireHeaderFieldsValid.headerLen_ge (xglWireDecodeHeader_eq_ok.mp h.decode).2.2.2.2.1
  have hlengths := h.lengths
  omega

/-- A parser in search of a magic byte holds nothing. -/
theorem Tracks.held_eq_nil {size : Nat} {parser : Parser} {held : Bytes}
    (h : Tracks size parser held) (hmagic : parser.state = .magic) : held = [] := by
  cases h.phase with
  | magic _ hheld => exact hheld
  | header hstate => exact absurd (hmagic.symm.trans hstate) (by simp)
  | payload hstate => exact absurd (hmagic.symm.trans hstate) (by simp)
  | crc hstate => exact absurd (hmagic.symm.trans hstate) (by simp)

/-- The first bytes of a frame, with one more. -/
theorem take_succ_byteAt (frame : Bytes) (k : Nat) (hk : k < frame.length) :
    frame.take k ++ [byteAt frame k] = frame.take (k + 1) := by
  rw [byteAt_of_lt frame k hk]
  exact List.take_append_getElem hk

/-- One byte of a frame behind the first one. -/
theorem ParsableFrame.heldStep_take {frame : Bytes} {header : WireHeader} {tagLen : UInt8}
    (h : ParsableFrame frame header tagLen) {size k : Nat} (hfit : frame.length ≤ size)
    (hpos : 1 ≤ k) (hk : k < frame.length) :
    heldStep size (frame.take k) (byteAt frame k)
      = (if k + 1 = frame.length then .complete else .incomplete, frame.take (k + 1)) := by
  obtain ⟨_, h0, h1, _, hvalid, _⟩ := xglWireDecodeHeader_eq_ok.mp h.decode
  have hge := wireHeaderFieldsValid.headerLen_ge hvalid
  have hannounced := h.announced
  have htotal := le_announcedLen hannounced
  have hlen : (frame.take k).length = k := by
    rw [List.length_take]
    omega
  have hnot : ¬ ((frame.take k).length = 0 ∨
      ((frame.take k).length = 1 ∧ byteAt frame k ≠ XGL_WIRE_MAGIC_1)) := by
    rw [hlen]
    rintro (hzero | ⟨hone, hne⟩)
    · omega
    · rw [hone, h1] at hne
      exact hne rfl
  have hbytes : ∀ i, i < k + 1 → byteAt (frame.take (k + 1)) i = byteAt frame i := fun i hi =>
    byteAt_take _ _ _ hi
  unfold XGL_WIRE_BASE_HEADER_SIZE XGL_CRC16_SIZE at *
  -- a byte of the base header
  by_cases hshort : k + 1 < 24
  · rw [heldStep_short (by omega) hnot (by rw [hlen]; exact hshort), take_succ_byteAt frame k hk,
      if_neg (by omega)]
  · have hdecode : xglWireDecodeHeader (frame.take (k + 1)) 24 = .ok header := by
      rw [← h.decode]
      exact xglWireDecodeHeader_congr (le_refl _) (by unfold XGL_WIRE_BASE_HEADER_SIZE; omega)
        fun i hi => hbytes i (by unfold XGL_WIRE_BASE_HEADER_SIZE at hi; omega)
    have hlen' : (frame.take (k + 1)).length = k + 1 := by
      rw [List.length_take]
      omega
    rw [heldStep_full (by omega) hnot (by rw [hlen]; exact hshort), take_succ_byteAt frame k hk]
    unfold XGL_WIRE_BASE_HEADER_SIZE
    rw [hdecode]
    dsimp only
    unfold heldBody
    rw [hlen']
    -- a byte of the extension area, or one behind it
    by_cases hmore : k + 1 < header.headerLen.toNat
    · rw [if_pos hmore, if_neg (by omega)]
    · have hsame : announcedLen (frame.take (k + 1)) header = some frame.length := by
        rw [← hannounced]
        exact announcedLen_congr hge fun i hi => hbytes i (by omega)
      rw [if_neg hmore, hsame]
      dsimp only
      rw [if_neg (by omega)]
      -- the last byte of the frame
      by_cases hlast : k + 1 = frame.length
      · have hcrc : crcMatches frame = true := beq_iff_eq.mpr h.crc
        rw [if_neg (by omega), if_pos hlast, hlast, List.take_length, hcrc, if_pos rfl]
      · rw [if_pos (by omega), if_neg hlast]

/-- The bytes held in the middle of a frame. -/
theorem ParsableFrame.heldRun_frame {frame : Bytes} {header : WireHeader} {tagLen : UInt8}
    (h : ParsableFrame frame header tagLen) {size k : Nat} (hfit : frame.length ≤ size)
    (hpos : 1 ≤ k) (hk : k < frame.length) {held : Bytes}
    (hheld : held = [] ∨ held = [XGL_WIRE_MAGIC_0]) :
    heldRun size (frame.take k) held = frame.take k := by
  obtain ⟨hlen, h0, _⟩ := xglWireDecodeHeader_eq_ok.mp h.decode
  unfold XGL_WIRE_BASE_HEADER_SIZE at hlen
  have hfirst : byteAt frame 0 = XGL_WIRE_MAGIC_0 := h0
  induction k, hpos using Nat.le_induction with
  | base =>
    -- the first byte starts the frame, also behind a first magic byte
    have htake : frame.take 1 = [XGL_WIRE_MAGIC_0] := by
      have := take_succ_byteAt frame 0 (by omega)
      rw [hfirst] at this
      exact this.symm
    rw [htake]
    unfold heldRun
    rw [List.foldl_cons, List.foldl_nil]
    unfold heldNext
    have hsearch : heldStep size held XGL_WIRE_MAGIC_0 = heldSearch XGL_WIRE_MAGIC_0 := by
      rcases hheld with rfl | rfl
      · exact heldStep_search (by rw [List.length_nil]; omega) (.inl rfl)
      · exact heldStep_search (by rw [List.length_singleton]; omega) (.inr ⟨rfl, by decide⟩)
    rw [hsearch]
    rfl
  | succ k hle ih =>
    rw [← take_succ_byteAt frame k (by omega), heldRun_append, ih (by omega)]
    unfold heldRun
    rw [List.foldl_cons, List.foldl_nil]
    unfold heldNext
    rw [h.heldStep_take hfit hle (by omega), if_neg (by omega : ¬ k + 1 = frame.length)]
    rw [if_neg (by simp), take_succ_byteAt frame k (by omega)]

/-! ### Noise -/

/-- The search for the magic bytes: how many bytes are still due to the header begun,
and whether the last byte is a first magic byte. -/
def scanByte (scan : Nat × Bool) (byte : UInt8) : Nat × Bool :=
  if scan.1 > 0 then (scan.1 - 1, false)
  else if scan.2 && byte == XGL_WIRE_MAGIC_1 then (XGL_WIRE_BASE_HEADER_SIZE - 2, false)
  else (0, byte == XGL_WIRE_MAGIC_0)

/-- How many bytes the noise leaves the last header begun in it short of: it is cut
from the left into headers of 24 bytes, one at each magic behind the one before. -/
def headerDebt (noise : Bytes) : Nat :=
  (noise.foldl scanByte (0, false)).1

/-- No position of the noise starts a header that decodes. -/
def NoHeaderInside (noise frame : Bytes) : Prop :=
  ∀ i, i < noise.length →
    ∀ header, xglWireDecodeHeader ((noise ++ frame).drop i) ((noise ++ frame).length - i)
      ≠ .ok header

/-- The bytes held agree with the search in the noise read so far. -/
inductive Scanned (read held : Bytes) : Nat × Bool → Prop where
  | idle (hheld : held = []) : Scanned read held (0, false)
  | pending (hheld : held = [XGL_WIRE_MAGIC_0]) (hread : ∃ before, read = before ++ held) :
      Scanned read held (0, true)
  | inside (debt : Nat) (hpos : 0 < debt) (hdue : held.length + debt = XGL_WIRE_BASE_HEADER_SIZE)
      (htwo : 2 ≤ held.length) (hread : ∃ before, read = before ++ held) :
      Scanned read held (debt, false)

section Noise

variable {size : Nat} {noise frame : Bytes}

/-- A byte of a header begun in the noise is kept until the header is whole. -/
theorem heldNext_inside {held : Bytes} {byte : UInt8}
    (hroom : XGL_WIRE_BASE_HEADER_SIZE + XGL_CRC16_SIZE ≤ size) (htwo : 2 ≤ held.length)
    (hshort : held.length + 1 < XGL_WIRE_BASE_HEADER_SIZE) :
    heldNext size held byte = held ++ [byte] := by
  unfold heldNext
  unfold XGL_WIRE_BASE_HEADER_SIZE XGL_CRC16_SIZE at *
  rw [heldStep_short (by omega) (by omega) hshort, if_neg (by simp)]

/-- A whole header that was begun in the noise does not decode, and is dropped. -/
theorem heldNext_dropped {held before after : Bytes} {byte : UInt8}
    (hroom : XGL_WIRE_BASE_HEADER_SIZE + XGL_CRC16_SIZE ≤ size)
    (hno : NoHeaderInside noise frame) (htwo : 2 ≤ held.length)
    (hfull : held.length + 1 = XGL_WIRE_BASE_HEADER_SIZE) (hbefore : before.length < noise.length)
    (hstream : noise ++ frame = before ++ (held ++ [byte]) ++ after) :
    heldNext size held byte = [] := by
  have herror : ∀ header,
      xglWireDecodeHeader (held ++ [byte]) XGL_WIRE_BASE_HEADER_SIZE ≠ .ok header := by
    intro header hdecode
    apply hno before.length hbefore header
    rw [← hdecode, hstream, List.append_assoc, List.drop_left]
    refine xglWireDecodeHeader_congr ?_ (le_refl _) fun i hi => ?_
    · simp only [List.length_append, List.length_singleton]
      omega
    · exact byteAt_append_left _ _ _ (by simpa [hfull] using hi)
  have hlong : XGL_WIRE_BASE_HEADER_SIZE < size := by
    unfold XGL_CRC16_SIZE at hroom
    omega
  unfold heldNext
  rw [heldStep_full (by omega) (by omega) (by omega)]
  cases hdecode : xglWireDecodeHeader (held ++ [byte]) XGL_WIRE_BASE_HEADER_SIZE with
  | error err => simp
  | ok header => exact absurd hdecode (herror header)

/-- One byte of noise, by what the search was in. -/
theorem Scanned.step {read held : Bytes} {scan : Nat × Bool} {byte : UInt8} {rest : Bytes}
    (hroom : XGL_WIRE_BASE_HEADER_SIZE + XGL_CRC16_SIZE ≤ size)
    (hno : NoHeaderInside noise frame) (hnoise : noise = read ++ byte :: rest)
    (h : Scanned read held scan) :
    Scanned (read ++ [byte]) (heldNext size held byte) (scanByte scan byte) := by
  have hpos : 1 < size := by
    unfold XGL_WIRE_BASE_HEADER_SIZE XGL_CRC16_SIZE at hroom
    omega
  -- a byte in the search starts a header only when it is a first magic byte
  have hsearch : ∀ held : Bytes, held.length < size →
      held.length = 0 ∨ (held.length = 1 ∧ byte ≠ XGL_WIRE_MAGIC_1) →
      Scanned (read ++ [byte]) (heldNext size held byte) (0, byte == XGL_WIRE_MAGIC_0) := by
    intro held hlt hcase
    unfold heldNext
    rw [heldStep_search hlt hcase]
    unfold heldSearch
    rw [if_neg (by simp)]
    -- a first magic byte begins a header, any other is skipped
    by_cases hbyte : byte = XGL_WIRE_MAGIC_0
    · subst hbyte
      exact .pending rfl ⟨read, rfl⟩
    · rw [if_neg (by simpa using hbyte), beq_eq_false_iff_ne.mpr hbyte]
      exact .idle rfl
  cases h with
  | idle hheld =>
    subst hheld
    exact hsearch [] (by rw [List.length_nil]; omega) (.inl rfl)
  | pending hheld hread =>
    subst hheld
    unfold scanByte
    -- the second magic byte makes it a header
    by_cases hbyte : byte = XGL_WIRE_MAGIC_1
    · subst hbyte
      obtain ⟨before, rfl⟩ := hread
      have hkept : heldNext size [XGL_WIRE_MAGIC_0] XGL_WIRE_MAGIC_1
          = [XGL_WIRE_MAGIC_0, XGL_WIRE_MAGIC_1] := by
        unfold heldNext
        rw [heldStep_short hpos (by simp) (by decide), if_neg (by simp)]
        rfl
      rw [hkept]
      exact .inside 22 (by decide) rfl (le_refl _) ⟨before, List.append_assoc _ _ _⟩
    · rw [if_neg (by simp), if_neg (by simpa using hbyte)]
      exact hsearch _ hpos (.inr ⟨rfl, hbyte⟩)
  | inside debt hdebt hdue htwo hread =>
    obtain ⟨before, rfl⟩ := hread
    unfold scanByte
    rw [if_pos hdebt]
    dsimp only
    -- the byte completes the header, which does not decode
    by_cases hlast : debt = 1
    · have hdropped : heldNext size held byte = [] :=
        @heldNext_dropped _ _ _ _ before (rest ++ frame) _ hroom hno htwo (by omega)
          (by rw [hnoise]; simp) (by rw [hnoise]; simp)
      rw [hdropped, hlast]
      exact .idle rfl
    · rw [heldNext_inside hroom htwo (by omega)]
      refine .inside (debt - 1) (by omega) ?_ ?_ ⟨before, List.append_assoc _ _ _⟩
      · rw [List.length_append, List.length_singleton]
        omega
      · rw [List.length_append, List.length_singleton]
        omega

/-- The noise as a whole. The induction is on what was read of it, from the last
byte. -/
theorem scanned_noise (hroom : XGL_WIRE_BASE_HEADER_SIZE + XGL_CRC16_SIZE ≤ size)
    (hno : NoHeaderInside noise frame) (read rest : Bytes) (hnoise : noise = read ++ rest) :
    Scanned read (heldRun size read []) (read.foldl scanByte (0, false)) := by
  induction read using List.reverseRecOn generalizing rest with
  | nil => exact .idle rfl
  | append_singleton read byte ih =>
    have hread := ih (byte :: rest) (by rw [hnoise]; simp)
    rw [heldRun_append, List.foldl_append]
    exact hread.step hroom hno
        (by rw [hnoise, List.append_assoc]; rfl : noise = read ++ byte :: rest)

/-- What is left of a header begun in the noise swallows the first bytes of the
frame. -/
theorem heldRun_swallowed (hroom : XGL_WIRE_BASE_HEADER_SIZE + XGL_CRC16_SIZE ≤ size)
    (hno : NoHeaderInside noise frame) {before held : Bytes} {debt : Nat}
    (hnoise : noise = before ++ held) (htwo : 2 ≤ held.length) (hpos : 0 < debt)
    (hdue : held.length + debt = XGL_WIRE_BASE_HEADER_SIZE) (hlen : debt ≤ frame.length) :
    heldRun size (frame.take debt) held = [] := by
  have hkept : ∀ k, k < debt → heldRun size (frame.take k) held = held ++ frame.take k := by
    intro k
    induction k with
    | zero =>
      intro _
      rw [List.take_zero, List.append_nil]
      rfl
    | succ k ih =>
      intro hk
      have htake : (frame.take k).length = k := by
        rw [List.length_take]
        omega
      rw [← take_succ_byteAt frame k (by omega), heldRun_append, ih (by omega)]
      change heldNext size (held ++ frame.take k) (byteAt frame k) = _
      rw [heldNext_inside hroom, List.append_assoc]
      · rw [List.length_append]
        omega
      · rw [List.length_append, htake]
        omega
  obtain ⟨k, rfl⟩ : ∃ k, debt = k + 1 := ⟨debt - 1, by omega⟩
  have htake : (frame.take k).length = k := by
    rw [List.length_take]
    omega
  have hsplit : held ++ frame.take k ++ [byteAt frame k] = held ++ frame.take (k + 1) := by
    rw [List.append_assoc, take_succ_byteAt frame k (by omega)]
  rw [← take_succ_byteAt frame k (by omega), heldRun_append, hkept k (by omega)]
  refine @heldNext_dropped _ _ _ _ before (frame.drop (k + 1)) _ hroom hno ?_ ?_ ?_ ?_
  · rw [List.length_append]
    omega
  · rw [List.length_append, htake]
    omega
  · rw [hnoise, List.length_append]
    omega
  · rw [hsplit, hnoise, List.append_assoc, List.append_assoc, List.append_assoc,
      List.take_append_drop]

end Noise

/-! ### The frame behind the noise -/

/-- The last byte of the inputs completes the frame. -/
def ReportsFrame (parser : Parser) (inputs : List (UInt8 × UInt32)) (frame : Bytes) : Prop :=
  ∃ front last, inputs = front ++ [last] ∧
    let fed := xglParserFeedByte (runParser (feedAll front) parser) last.1 last.2
    fed.1 = .complete ∧ fed.2.cache.take fed.2.cacheLen = frame

/-- On the bytes held: the last byte completes the frame. -/
theorem Tracks.reportsFrame_iff {size : Nat} {parser : Parser} {held : Bytes}
    (h : Tracks size parser held) (front : List (UInt8 × UInt32)) (last : UInt8 × UInt32)
    (frame : Bytes) :
    ReportsFrame parser (front ++ [last]) frame ↔
      (heldStep size (heldRun size (front.map Prod.fst) held) last.1).1 = .complete ∧
        heldRun size (front.map Prod.fst) held ++ [last.1] = frame := by
  have htracks := h.run front
  have hagrees := htracks.feed last.1 last.2
  have hcache : (heldStep size (heldRun size (front.map Prod.fst) held) last.1).1 = .complete →
      (xglParserFeedByte (runParser (feedAll front) parser) last.1 last.2).2.cache.take
        (xglParserFeedByte (runParser (feedAll front) parser) last.1 last.2).2.cacheLen
      = heldRun size (front.map Prod.fst) held ++ [last.1] := by
    intro hcomplete
    have hreports := hagrees.reports hcomplete
    rw [(htracks.complete hcomplete).1] at hreports
    rw [hreports.cacheLen]
    exact take_eq_of_bytes (by rw [hreports.cacheLength]; exact hreports.fits) hreports.bytes
  constructor
  · rintro ⟨front', last', hinputs, hcomplete, hframe⟩
    obtain ⟨rfl, hlast⟩ := List.append_inj' hinputs rfl
    obtain rfl : last = last' := by simpa using hlast
    rw [hagrees.result] at hcomplete
    exact ⟨hcomplete, by rw [← hcache hcomplete, hframe]⟩
  · rintro ⟨hcomplete, hframe⟩
    refine ⟨front, last, rfl, ?_, ?_⟩
    · rw [hagrees.result, hcomplete]
    · rw [hcache hcomplete, hframe]

/-- A frame behind noise in which no header decodes is reported at its last byte
exactly when the noise does not end inside a header that it begins: the bytes of a
header that does not decode are dropped unsearched. -/
theorem resync_iff (cacheBuffer : Bytes) (parser : Parser)
    (hinit : xglParserInit cacheBuffer = .ok parser) (actions : List ParserAction)
    (hmagic : (runParser actions parser).state = .magic) (noise frame : Bytes)
    (header : WireHeader) (tagLen : UInt8) (hframe : ParsableFrame frame header tagLen)
    (hfit : frame.length ≤ cacheBuffer.length) (hno : NoHeaderInside noise frame)
    (inputs : List (UInt8 × UInt32)) (hinputs : inputs.map Prod.fst = noise ++ frame) :
    ReportsFrame (runParser actions parser) inputs frame ↔ headerDebt noise = 0 := by
  obtain ⟨held, htracks, _⟩ := runParser_holds hinit actions
  have hroom := htracks.room
  have hnil : held = [] := htracks.held_eq_nil hmagic
  subst hnil
  have hlen := hframe.length_ge
  unfold XGL_CRC16_SIZE at hlen
  obtain ⟨k, hk⟩ : ∃ k, frame.length = k + 1 := ⟨frame.length - 1, by omega⟩
  have hsnoc : frame.take k ++ [byteAt frame k] = frame := by
    rw [take_succ_byteAt frame k (by omega), ← hk, List.take_length]
  -- cut the last input off
  obtain ⟨front, last, rfl⟩ : ∃ front last, inputs = front ++ [last] := by
    rcases List.eq_nil_or_concat inputs with rfl | ⟨front, last, rfl⟩
    · have := congrArg List.length hinputs
      rw [List.map_nil, List.length_nil, List.length_append] at this
      omega
    · exact ⟨front, last, by rw [List.concat_eq_append]⟩
  rw [List.map_append, ← hsnoc, ← List.append_assoc] at hinputs
  obtain ⟨hfront, hlast⟩ := List.append_inj' hinputs rfl
  have hbyte : last.1 = byteAt frame k := by simpa using hlast
  rw [Tracks.reportsFrame_iff htracks, hfront, hbyte, heldRun_append]
  have hscanned := scanned_noise hroom hno noise [] (List.append_nil _).symm
  unfold headerDebt
  generalize hread : heldRun cacheBuffer.length noise [] = held at hscanned ⊢
  generalize noise.foldl scanByte (0, false) = scan at hscanned ⊢
  have hfound : held = [] ∨ held = [XGL_WIRE_MAGIC_0] →
      (heldStep cacheBuffer.length (heldRun cacheBuffer.length (frame.take k) held)
          (byteAt frame k)).1 = .complete ∧
        heldRun cacheBuffer.length (frame.take k) held ++ [byteAt frame k] = frame := by
    intro hheld
    have hpos : 1 ≤ k := by
      unfold XGL_WIRE_BASE_HEADER_SIZE at hlen
      omega
    rw [hframe.heldRun_frame hfit hpos (by omega) hheld,
      hframe.heldStep_take hfit hpos (by omega), if_pos hk.symm]
    exact ⟨rfl, hsnoc⟩
  -- the noise ends in the search, or inside a header
  cases hscanned with
  | idle hheld => exact ⟨fun _ => rfl, fun _ => hfound (.inl hheld)⟩
  | pending hheld hbefore => exact ⟨fun _ => rfl, fun _ => hfound (.inr hheld)⟩
  | inside debt hpos hdue htwo hbefore =>
    obtain ⟨before, hbefore⟩ := hbefore
    refine ⟨fun hreported => ?_, fun hzero => absurd hzero (by omega)⟩
    -- the header begun in the noise takes the first bytes of the frame with it
    have hswallowed : heldRun cacheBuffer.length (frame.take k) held
        = heldRun cacheBuffer.length ((frame.take k).drop debt) [] := by
      have hsplit := List.take_append_drop debt (frame.take k)
      rw [List.take_take, Nat.min_eq_left (by unfold XGL_WIRE_BASE_HEADER_SIZE at *; omega)]
        at hsplit
      rw [← heldRun_swallowed hroom hno hbefore htwo hpos hdue (by omega), ← heldRun_append, hsplit]
    have hshort := length_heldRun_le cacheBuffer.length ((frame.take k).drop debt) []
    have hwhole := congrArg List.length hreported.2
    rw [hswallowed, List.length_append, List.length_singleton] at hwhole
    rw [List.length_nil, List.length_drop, List.length_take] at hshort
    omega

/-- The header of the sample frame as it decodes. -/
def sampleHeader : WireHeader := wireHeaderOfBytes sampleFrame

/-- The sample frame is well formed. -/
theorem sampleFrame_parsable : ParsableFrame sampleFrame sampleHeader 1 where
  decode := by decide +kernel
  walk := by decide +kernel
  tag := by decide +kernel
  auth := by decide +kernel
  lengths := by decide +kernel
  crc := by decide +kernel

/-- No header starts inside a false magic in front of the sample frame. -/
theorem noHeaderInside_magic :
    NoHeaderInside [XGL_WIRE_MAGIC_0, XGL_WIRE_MAGIC_1] sampleFrame := by
  intro i hi header hdecode
  have hnone : ∀ i, i < 2 → (xglWireDecodeHeader
      (([XGL_WIRE_MAGIC_0, XGL_WIRE_MAGIC_1] ++ sampleFrame).drop i) (46 - i)).isOk = false := by
    decide +kernel
  have hfalse := hnone i hi
  rw [show xglWireDecodeHeader (([XGL_WIRE_MAGIC_0, XGL_WIRE_MAGIC_1] ++ sampleFrame).drop i)
    (46 - i) = .ok header from hdecode] at hfalse
  cases hfalse

/-- A magic that starts nothing costs the frame behind it. -/
theorem resync_loses_frame :
    ParsableFrame sampleFrame sampleHeader 1 ∧ sampleFrame.length ≤ (idleParser 64).cacheSize ∧
      (idleParser 64).state = .magic ∧
      NoHeaderInside [XGL_WIRE_MAGIC_0, XGL_WIRE_MAGIC_1] sampleFrame ∧
      ¬ ReportsFrame (idleParser 64)
        (([XGL_WIRE_MAGIC_0, XGL_WIRE_MAGIC_1] ++ sampleFrame).map fun byte => (byte, 0))
        sampleFrame := by
  refine ⟨sampleFrame_parsable, by decide, rfl, noHeaderInside_magic, ?_⟩
  rintro ⟨front, last, hinputs, hcomplete, _⟩
  have hfront : front = (([XGL_WIRE_MAGIC_0, XGL_WIRE_MAGIC_1] ++ sampleFrame).map
      fun byte => (byte, (0 : UInt32))).dropLast := by
    rw [hinputs, List.dropLast_concat]
  have hlast : last = (87, 0) := by
    have := congrArg List.getLast? hinputs
    rw [List.getLast?_concat] at this
    exact (Option.some.inj (this.symm.trans (by decide +kernel)))
  subst hfront hlast
  exact absurd hcomplete (by decide +kernel)

/-- Noise that is no magic costs nothing. -/
theorem resync_iff_behind_first_magic :
    ReportsFrame (idleParser 64)
      (([XGL_WIRE_MAGIC_0] ++ sampleFrame).map fun byte => (byte, 0)) sampleFrame := by
  refine (resync_iff (List.replicate 64 0) (idleParser 64) rfl [] rfl [XGL_WIRE_MAGIC_0]
    sampleFrame sampleHeader 1 sampleFrame_parsable (by decide) ?_ _ (by decide +kernel)).mpr rfl
  intro i hi header hdecode
  obtain rfl : i = 0 := by simpa using hi
  have hfalse : (xglWireDecodeHeader ([XGL_WIRE_MAGIC_0] ++ sampleFrame) 45).isOk = false := by
    decide +kernel
  rw [show xglWireDecodeHeader ([XGL_WIRE_MAGIC_0] ++ sampleFrame) 45 = .ok header from hdecode]
    at hfalse
  cases hfalse

end XgenLink
