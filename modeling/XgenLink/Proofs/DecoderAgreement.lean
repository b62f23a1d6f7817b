import XgenLink.Datalink.Receive
import XgenLink.Proofs.FrameArrival

/-!
# `XgenLink.Proofs.DecoderAgreement`: two decoders, one frame

A received frame is decoded twice. The datalink checks the replay window with what
`xgl_datalink_decode_rx_metadata` reads from it; the transport orders packets by what
`xgl_network_decode_frame_metadata` reads from the same bytes. If the two read different epochs
or numbers, a frame could be fresh for the one and old for the other.

They do not look at the same records in the same way. The datalink reads SECURITY_EXT, which the
network layer passes over; it keeps the last SESSION_EXT, while the network layer refuses a
second one. But where both accept a frame they agree.

* `extensionLoops_epoch`: the two walks over the extensions, side by side.
* `xglNetworkDecodeFrameMetadata_walk`: the walk behind an accepted frame.
* `decoders_agree`: header, epoch, payload, reliability, scope and number.
-/

set_option autoImplicit false

namespace XgenLink

/-- Two walks over the same records that both succeed read the same epoch. The
induction is on the records; a step of either loop sets the epoch only at a
SESSION_EXT, and to the same value. -/
theorem extensionLoops_epoch {authRequired : Bool} {key : UInt32} {final final' : XglError}
    {exts : List WireExt} {rx rx' : DatalinkRxMetadata} {net net' : NetworkExtMetadata}
    (hrx : datalinkRxExtensionLoop authRequired key final exts rx = (.ok, rx'))
    (hnet : networkExtLoop final' exts net = .ok net')
    (heq : rx.sessionEpoch = net.sessionEpoch) : rx'.sessionEpoch = net'.sessionEpoch := by
  induction exts generalizing rx net with
  | nil =>
    simp only [datalinkRxExtensionLoop, Prod.mk.injEq] at hrx
    simp only [networkExtLoop] at hnet
    split at hnet
    · cases hnet
      rw [← hrx.2]
      exact heq
    · cases hnet
  | cons ext rest ih =>
    simp only [datalinkRxExtensionLoop] at hrx
    simp only [networkExtLoop] at hnet
    by_cases hsecurity : ext.type = XGL_WIRE_EXT_SECURITY
    · -- only the datalink looks at it
      rw [hsecurity, if_neg (by decide), if_neg (by decide)] at hnet
      rw [if_pos (by rw [hsecurity]; rfl)] at hrx
      split at hrx
      · cases hrx
      · split at hrx
        · cases hrx
        · exact ih hrx hnet heq
    rw [if_neg (by simpa using hsecurity)] at hrx
    -- both look at it, and the network layer takes it only once
    by_cases hsession : ext.type = XGL_WIRE_EXT_SESSION
    · rw [hsession, if_neg (by decide), if_pos (by decide)] at hnet
      rw [if_pos (by rw [hsession]; rfl)] at hrx
      split at hnet
      · cases hnet
      · split at hrx
        · cases hrx
        · rename_i session hdecode
          rw [hdecode] at hnet
          exact ih hrx hnet rfl
    rw [if_neg (by simpa using hsession)] at hrx
    -- the types that only the network layer looks at
    split at hnet
    · split at hnet
      · cases hnet
      · exact ih hrx hnet heq
    · rw [if_neg (by simpa using hsession)] at hnet
      exact ih hrx hnet heq

/-- Without a SESSION_EXT the datalink leaves the epoch alone. -/
theorem datalinkRxExtensionLoop_noSession {authRequired : Bool} {key : UInt32}
    {final : XglError} {exts : List WireExt} {rx rx' : DatalinkRxMetadata}
    (hnone : ∀ ext ∈ exts, ext.type ≠ XGL_WIRE_EXT_SESSION)
    (h : datalinkRxExtensionLoop authRequired key final exts rx = (.ok, rx')) :
    rx'.sessionEpoch = rx.sessionEpoch := by
  induction exts generalizing rx with
  | nil =>
    simp only [datalinkRxExtensionLoop, Prod.mk.injEq] at h
    rw [← h.2]
  | cons ext rest ih =>
    have hhead := hnone ext List.mem_cons_self
    have hrest := fun e he => hnone e (List.mem_cons_of_mem ext he)
    simp only [datalinkRxExtensionLoop] at h
    split at h
    · split at h
      · cases h
      · split at h
        · cases h
        · have hkept := ih hrest h
          exact hkept
    · rw [if_neg (by simpa using hhead)] at h
      exact ih hrest h

/-- What the network layer accepted, walk included. -/
theorem xglNetworkDecodeFrameMetadata_walk {frame : Bytes} {frameLen : Nat}
    {net : NetworkFrameMetadata} (h : xglNetworkDecodeFrameMetadata frame frameLen = .ok net) :
    ∃ ext, xglNetworkDecodeExtMetadata (frame.drop XGL_WIRE_BASE_HEADER_SIZE)
        (net.header.headerLen.toNat - XGL_WIRE_BASE_HEADER_SIZE) = .ok ext ∧
      net.sessionEpoch = ext.sessionEpoch ∧ net.reliable = networkReliable net.header := by
  simp only [xglNetworkDecodeFrameMetadata] at h
  split at h
  · cases h
  split at h
  · cases h
  split at h
  · cases h
  rename_i ext hext
  split at h
  · cases h
  cases h
  exact ⟨ext, hext, rfl, rfl⟩

/-- Both layers read the same reliability from a header. -/
theorem networkReliable_eliciting (header : WireHeader) :
    networkReliable header = XGL_RELIABILITY_ACK_ELICITING ↔
      datalinkIsAckEliciting header = true := by
  unfold networkReliable datalinkIsAckEliciting
  dsimp only
  split
  · rename_i heliciting
    exact ⟨fun _ => heliciting, fun _ => rfl⟩
  · rename_i heliciting
    constructor
    · intro h
      split at h <;> exact absurd h (by decide)
    · intro h
      exact absurd h heliciting

/-- Where both receive decoders accept a frame, they read the same header, the same session epoch
(0 without a SESSION_EXT) and the same payload, which ends before the tag and the checksum; they
agree on whether the frame asks for an acknowledgement; and the packet handed to the transport has
the scope and the number the replay window was asked about. -/
theorem decoders_agree (frame : Bytes) (frameLen : Nat) (authRequired : Bool) (key : UInt32)
    (rx : DatalinkRxMetadata) (net : NetworkFrameMetadata)
    (hrx : xglDatalinkDecodeRxMetadata frame frameLen authRequired key = (.ok, rx))
    (hnet : xglNetworkDecodeFrameMetadata frame frameLen = .ok net) :
    rx.header = net.header ∧
      rx.sessionEpoch = net.sessionEpoch ∧
      ((∀ ext ∈ frameExtensions frame, ext.type ≠ XGL_WIRE_EXT_SESSION) → rx.sessionEpoch = 0) ∧
      net.payload = readBytes frame rx.header.headerLen.toNat rx.payloadLen ∧
      net.header.payloadLen.toNat = rx.payloadLen ∧
      rx.header.headerLen.toNat + rx.payloadLen + rx.authTagLen.toNat + XGL_CRC16_SIZE
        = frameLen ∧
      (datalinkIsAckEliciting rx.header = true ↔ net.reliable = XGL_RELIABILITY_ACK_ELICITING) ∧
      (networkLocalPacket net).sourceId = rx.header.sourceId ∧
      (networkLocalPacket net).connectionId = rx.header.connectionId ∧
      (networkLocalPacket net).sessionEpoch = rx.sessionEpoch ∧
      (networkLocalPacket net).packetNumber = rx.header.packetNumber := by
  have hspec := xglDatalinkDecodeRxMetadata_eq_ok hrx
  obtain ⟨hnetHeader, _, hpayload, _⟩ := xglNetworkDecodeFrameMetadata_ok hnet
  obtain ⟨ext, hext, hepoch, hreliable⟩ := xglNetworkDecodeFrameMetadata_walk hnet
  have hheader : rx.header = net.header :=
    (xglWireDecodeHeader_eq_ok.mp hspec.header).2.2.2.2.2.symm.trans hnetHeader.symm
  obtain ⟨before, hloop, _, hbefore⟩ := hspec.loop
  -- the network layer's walk is over the same records
  have hsame : rx.sessionEpoch = net.sessionEpoch := by
    unfold xglNetworkDecodeExtMetadata at hext
    split at hext
    · rename_i hshort
      have hnone : frameExtensions frame = [] := by
        unfold frameExtensions
        rw [← hnetHeader, beq_iff_eq.mp hshort]
        rfl
      rw [hnone] at hloop
      cases hext
      rw [← hbefore, hepoch]
      exact extensionLoops_epoch hloop (rfl : networkExtLoop .notFound [] {} = .ok {}) rfl
    · rw [← hbefore, hepoch]
      rw [hnetHeader] at hext
      exact extensionLoops_epoch hloop hext rfl
  refine ⟨hheader, hsame, ?_, ?_, ?_, hspec.lengths.symm, ?_, ?_, ?_, hsame.symm, ?_⟩
  · intro hnone
    rw [← hbefore]
    exact datalinkRxExtensionLoop_noSession hnone hloop
  · rw [hpayload, hheader, hspec.payloadLen, hheader]
  · rw [hspec.payloadLen, hheader]
  · rw [hreliable, hheader]
    exact (networkReliable_eliciting net.header).symm
  · rw [hheader]
    rfl
  · rw [hheader]
    rfl
  · rw [hheader]
    rfl

/-- A data frame from node 1 to node 2 with epoch 9 in its SESSION_EXT and three bytes of
payload. -/
def sessionFrame : Bytes :=
  [0xA5, 0x5A, 2, 38, 1, 1, 8, 65, 1, 0, 2, 0, 5, 0, 0, 0, 7, 0, 0, 0, 3, 0, 35, 248, 1, 12, 9, 0,
    0, 0, 0, 0, 0, 0, 0, 0, 0, 0, 10, 11, 12, 110, 206]

/-- The header of that frame. -/
def sessionHeader : WireHeader where
  version := 2
  headerLen := 38
  packetType := 1
  flags := 1
  ttl := 8
  trafficClass := 65
  sourceId := 1
  targetId := 2
  connectionId := 5
  packetNumber := 7
  payloadLen := 3
  headerCrc16 := 63523

/-- Both decoders accept the frame and read epoch 9 and the three bytes. -/
theorem decoders_agree_session :
    ∃ rx net, xglDatalinkDecodeRxMetadata sessionFrame 43 false 0 = (.ok, rx) ∧
      xglNetworkDecodeFrameMetadata sessionFrame 43 = .ok net ∧
      rx.header = net.header ∧ rx.sessionEpoch = net.sessionEpoch ∧ rx.sessionEpoch = 9 ∧
      net.payload = readBytes sessionFrame rx.header.headerLen.toNat rx.payloadLen := by
  have hrx : xglDatalinkDecodeRxMetadata sessionFrame 43 false 0
      = (.ok, { header := sessionHeader, sessionEpoch := 9, payloadLen := 3 }) := by
    decide +kernel
  have hnet : xglNetworkDecodeFrameMetadata sessionFrame 43
      = .ok { header := sessionHeader
              dataType := 0
              sessionEpoch := 9
              extensions := [1, 12, 9, 0, 0, 0, 0, 0, 0, 0, 0, 0, 0, 0]
              payload := [10, 11, 12]
              reliable := 64
              fragment := 0
              priority := 1 } := by
    decide +kernel
  obtain ⟨hheader, hepoch, _, hpayload, _⟩ := decoders_agree sessionFrame 43 false 0 _ _ hrx hnet
  exact ⟨_, _, hrx, hnet, hheader, hepoch, rfl, hpayload⟩

end XgenLink
