import XgenLink.Datalink.Receive
import XgenLink.Proofs.CanonicalAad

/-!
# `XgenLink.Proofs.AuthenticationGate`: what reaches the network layer

Every frame the datalink passes up is either plain, and then authentication is not required, or
it carries the AUTHENTICATED flag and a SECURITY_EXT and the provider has just verified it. Just
now, and this frame: the event that verified it is the one right before the event that passes
it up, and the input that was verified is built from the bytes passed up.

The datalink is followed through everything it does: the bytes that complete a frame, the
header and metadata checks, the provider, the replay window. A context keeps its settings, so
one gate serves for a whole run.

* `PlainFrame`, `VerifiedFrame`, `PassesGate`: the two ways through the gate.
* `ProcessOutcome`, `xglDatalinkProcessFrame_outcome`: the ways a frame can be treated.
* `Gated.append`: event lists that pass the gate do so one after the other.
* `processFrame_gated`, `receiveByte_gated`, `datalinkReceive_gated`: a frame, a byte, a call.
* `passed_up_frames_pass_gate`: the gate over every run of `xgl_datalink_receive`.
-/

set_option autoImplicit false

namespace XgenLink

/-! ### The gate -/

/-- The AUTHENTICATED flag of a frame. -/
def frameHasAuthFlag (frame : Bytes) : Bool :=
  (wireHeaderOfBytes frame).flags &&& XGL_WIRE_FLAG_AUTHENTICATED != 0

/-- A plain frame: neither the flag nor any SECURITY_EXT. -/
def PlainFrame (frame : Bytes) : Prop :=
  frameHasAuthFlag frame = false ∧ securityExts (frameExtensions frame) = []

/-- What the provider has to be asked about a frame: the key of its last
SECURITY_EXT, header and extensions with bytes 6, 22 and 23 zeroed, the payload
and the `tagLen` bytes before the frame checksum. -/
def gateAuthInput (frame : Bytes) (frameLen tagLen : Nat) (security : SecurityExt) :
    AuthInput where
  keyId := security.keyId
  aad := zeroMutableHeaderBytes (readBytes frame 0 (wireHeaderOfBytes frame).headerLen.toNat)
  payload := readBytes frame (wireHeaderOfBytes frame).headerLen.toNat
    (wireHeaderOfBytes frame).payloadLen.toNat
  tag := readBytes frame (frameLen - XGL_CRC16_SIZE - tagLen) tagLen

/-- An authenticated frame the provider accepts with `input`. -/
def VerifiedFrame (authRequired : Bool) (authKeyId : UInt32) (provider : Option AuthProvider)
    (frame : Bytes) (frameLen : Nat) (input : AuthInput) : Prop :=
  frameHasAuthFlag frame = true ∧
    ∃ ext security p verify, (securityExts (frameExtensions frame)).getLast? = some ext ∧
      xglWireDecodeSecurityExtValue ext.value = .ok security ∧
      (authRequired = true → security.keyId = authKeyId) ∧
      provider = some p ∧ p.verify = some verify ∧
      input = gateAuthInput frame frameLen p.tagLen security ∧ verify input = (.ok, true)

/-! ### One frame -/

/-- The replay decision of `xgl_datalink_process_frame` for decoded metadata. -/
def frameReplay (ctx : DatalinkCtx) (metadata : DatalinkRxMetadata) :
    ReplayResult × List (Option ReplayWindow) :=
  datalinkCheckReplay ctx.replaySlots metadata.header.sourceId metadata.header.connectionId
    metadata.sessionEpoch metadata.header.packetNumber

/-- Whether the replay decision drops the frame: a rejected number, or a
duplicate of a frame that elicits no acknowledgement. -/
def replayDrops (result : ReplayResult) (header : WireHeader) : Bool :=
  result == .reject || (result == .acceptDuplicate && !datalinkIsAckEliciting header)

/-- The outcomes of `xgl_datalink_process_frame`. -/
inductive ProcessOutcome (ctx : DatalinkCtx) (frame : Bytes) (frameLen : Nat) :
    XglError × DatalinkCtx × List DatalinkEvent → Prop where
  /-- Not accepted before the replay check: nothing passed up, nothing changed. -/
  | dropped (err : XglError) (events : List DatalinkEvent) (herr : err ≠ .ok)
      (hquiet : ∀ buf n, DatalinkEvent.upperReceive buf n ∉ events) :
      ProcessOutcome ctx frame frameLen (err, ctx, events)
  /-- A plain frame where authentication is optional. -/
  | plain (metadata : DatalinkRxMetadata)
      (hmeta : xglDatalinkDecodeRxMetadata frame frameLen ctx.authRequired ctx.authKeyId
        = (.ok, metadata))
      (hopt : ctx.authRequired = false) (hplain : PlainFrame frame) :
      ProcessOutcome ctx frame frameLen (.ok, ctx, datalinkPassUp ctx frame frameLen)
  /-- Verified, but dropped by the replay window. -/
  | replayed (metadata : DatalinkRxMetadata) (input : AuthInput)
      (hmeta : xglDatalinkDecodeRxMetadata frame frameLen ctx.authRequired ctx.authKeyId
        = (.ok, metadata))
      (hver : VerifiedFrame ctx.authRequired ctx.authKeyId ctx.authProvider frame frameLen input)
      (hdrop : replayDrops (frameReplay ctx metadata).1 metadata.header = true) :
      ProcessOutcome ctx frame frameLen
        (.invalidFrame, { ctx with replaySlots := (frameReplay ctx metadata).2 },
          [.verify input .ok true])
  /-- Verified and passed up. -/
  | verified (metadata : DatalinkRxMetadata) (input : AuthInput)
      (hmeta : xglDatalinkDecodeRxMetadata frame frameLen ctx.authRequired ctx.authKeyId
        = (.ok, metadata))
      (hver : VerifiedFrame ctx.authRequired ctx.authKeyId ctx.authProvider frame frameLen input)
      (hkeep : replayDrops (frameReplay ctx metadata).1 metadata.header = false) :
      ProcessOutcome ctx frame frameLen
        (.ok, { ctx with replaySlots := (frameReplay ctx metadata).2 },
          .verify input .ok true :: datalinkPassUp ctx frame frameLen)

/-- The error reports of a frame that does not decode pass nothing up. -/
theorem upperReceive_not_mem_datalinkReportRxError (ctx : DatalinkCtx) (frameLen : Nat)
    (metadata : DatalinkRxMetadata) (buf : Bytes) (n : Nat) :
    DatalinkEvent.upperReceive buf n ∉ datalinkReportRxError ctx frameLen metadata := by
  unfold datalinkReportRxError datalinkReport
  intro hmem
  rw [List.mem_append] at hmem
  rcases hmem with hmem | hmem <;> split at hmem <;> try split at hmem
  all_goals simp at hmem

/-- The flag the metadata reports is the flag of the frame. -/
theorem RxMetadataSpec.authFlag {frame : Bytes} {frameLen : Nat} {authRequired : Bool}
    {key : UInt32} {metadata : DatalinkRxMetadata}
    (spec : RxMetadataSpec frame frameLen authRequired key metadata) :
    metadata.authenticated = frameHasAuthFlag frame := by
  rw [spec.authenticated, frameHasAuthFlag, (xglWireDecodeHeader_eq_ok.mp spec.header).2.2.2.2.2]

/-- What the provider is asked about an accepted frame is the gate's input. -/
theorem RxMetadataSpec.gateAuthInput_eq {frame : Bytes} {frameLen : Nat} {authRequired : Bool}
    {key : UInt32} {metadata : DatalinkRxMetadata} {provider : AuthProvider} {input : AuthInput}
    {security : SecurityExt}
    (spec : RxMetadataSpec frame frameLen authRequired key metadata)
    (hkey : metadata.authKeyId = security.keyId)
    (h : wireAuthInput frame (frameLen - XGL_CRC16_SIZE) metadata.header.headerLen.toNat
      metadata.payloadLen metadata.authKeyId provider = .ok input) :
    input = gateAuthInput frame frameLen provider.tagLen security := by
  obtain ⟨_, _, hlen, haad, hid, hpayload, htag⟩ := wireAuthInput_eq_ok h
  have hof : wireHeaderOfBytes frame = metadata.header :=
    (xglWireDecodeHeader_eq_ok.mp spec.header).2.2.2.2.2
  rw [spec.canonicalAad] at haad
  injection haad with haad
  have hoffset : metadata.header.headerLen.toNat + metadata.payloadLen
      = frameLen - XGL_CRC16_SIZE - provider.tagLen := by omega
  unfold gateAuthInput
  rw [hof, ← spec.payloadLen, ← hoffset, haad, ← hpayload, ← htag, ← hkey, ← hid]

/-- Verification and replay check of a frame whose metadata decoded. -/
theorem datalinkVerifyFrame_outcome {ctx : DatalinkCtx} {provider : AuthProvider} {frame : Bytes}
    {frameLen : Nat} {metadata : DatalinkRxMetadata}
    (hmeta : xglDatalinkDecodeRxMetadata frame frameLen ctx.authRequired ctx.authKeyId
      = (.ok, metadata))
    (hprov : ctx.authProvider = some provider) (hauth : metadata.authenticated = true)
    (hsec : metadata.hasSecurityExt = true) :
    ProcessOutcome ctx frame frameLen
      (datalinkVerifyFrame ctx provider frame frameLen metadata) := by
  have spec := xglDatalinkDecodeRxMetadata_eq_ok hmeta
  unfold datalinkVerifyFrame
  dsimp only
  split
  · -- the provider was not asked, or did not accept
    refine .dropped _ _ (by decide) ?_
    intro buf n hmem
    split at hmem <;> simp at hmem
  · rename_i hok
    simp only [bne_iff_ne, ne_eq, Bool.or_eq_true, Bool.not_eq_true', not_or, not_not,
      Bool.not_eq_false] at hok
    -- so the provider was asked
    unfold xglWireVerifyAuthTrailer at hok ⊢
    cases hverify : provider.verify with
    | none =>
      rw [hverify] at hok
      simp at hok
    -- the provider can verify, so it was asked
    | some verify =>
      rw [hverify] at hok
      dsimp only at hok ⊢
      cases hinput : wireAuthInput frame (frameLen - XGL_CRC16_SIZE)
          metadata.header.headerLen.toNat metadata.payloadLen metadata.authKeyId provider with
      -- without an input there is nothing to ask about
      | error err =>
        rw [hinput] at hok
        simp at hok
      | ok input =>
        rw [hinput] at hok
        dsimp only at hok ⊢
        have hres : verify input = (.ok, true) := Prod.ext hok.1 hok.2
        rcases spec.security with ⟨_, hnone, _⟩ | ⟨ext, security, hlast, hdec, _, hkey, _, hreq⟩
        · rw [hnone] at hsec
          cases hsec
        have hver : VerifiedFrame ctx.authRequired ctx.authKeyId ctx.authProvider frame frameLen
            input :=
          ⟨spec.authFlag ▸ hauth, ext, security, provider, verify, hlast, hdec, hreq, hprov,
            hverify, spec.gateAuthInput_eq hkey hinput, hres⟩
        rw [hok.1, hok.2]
        -- the replay window has the last word
        split
        · rename_i hdrop
          exact .replayed metadata input hmeta hver hdrop
        · rename_i hkeep
          exact .verified metadata input hmeta hver (Bool.not_eq_true _ ▸ hkeep)

/-- Every call of `xgl_datalink_process_frame` ends in one of the outcomes. -/
theorem xglDatalinkProcessFrame_outcome (ctx : DatalinkCtx) (frame : Bytes) (frameLen : Nat) :
    ProcessOutcome ctx frame frameLen (xglDatalinkProcessFrame ctx frame frameLen) := by
  unfold xglDatalinkProcessFrame
  split
  · rename_i metadata hmeta
    have spec := xglDatalinkDecodeRxMetadata_eq_ok hmeta
    split
    · split
      · rename_i provider hboth hprov
        rw [Bool.and_eq_true] at hboth
        split
        · exact .dropped _ _ (by decide) (by simp)
        · exact datalinkVerifyFrame_outcome hmeta hprov hboth.1 hboth.2
      · exact .dropped _ _ (by decide) (by simp)
    -- neither flag nor SECURITY_EXT: the frame is plain, if that is allowed
    · rename_i hneither
      rw [Bool.or_eq_true, not_or, Bool.not_eq_true, Bool.not_eq_true, spec.shouldVerifyAuth,
        Bool.or_eq_false_iff] at hneither
      obtain ⟨hopt, hflag, hnosec⟩ := hneither
      refine .plain metadata hmeta hopt ⟨spec.authFlag ▸ hflag, ?_⟩
      rcases spec.security with ⟨hnone, _⟩ | ⟨_, _, _, _, hhas, _⟩
      · exact hnone
      · rw [hnosec] at hhas
        cases hhas
  · rename_i err metadata hne hmeta
    refine .dropped _ _ ?_ (upperReceive_not_mem_datalinkReportRxError ctx frameLen metadata)
    intro herr
    exact hne (by rw [herr])

/-! ### Runs -/

/-- The authentication settings of a context. -/
structure AuthConfig where
  authRequired : Bool
  authKeyId : UInt32
  authProvider : Option AuthProvider

/-- The settings a context was initialised with. -/
def DatalinkCtx.authConfig (ctx : DatalinkCtx) : AuthConfig where
  authRequired := ctx.authRequired
  authKeyId := ctx.authKeyId
  authProvider := ctx.authProvider

/-- The gate: the frame is plain and authentication optional, or the last thing
before it is a successful verification of exactly this frame. -/
def PassesGate (config : AuthConfig) (before : List DatalinkEvent) (frame : Bytes)
    (frameLen : Nat) : Prop :=
  (config.authRequired = false ∧ PlainFrame frame) ∨
    ∃ input earlier, before = earlier ++ [.verify input .ok true] ∧
      VerifiedFrame config.authRequired config.authKeyId config.authProvider frame frameLen input

/-- Every frame passed up in an event list passes the gate. -/
def Gated (config : AuthConfig) (events : List DatalinkEvent) : Prop :=
  ∀ before frame frameLen after,
    events = before ++ .upperReceive frame frameLen :: after →
    PassesGate config before frame frameLen

/-- Event lists that pass nothing up are gated. -/
theorem gated_of_quiet {config : AuthConfig} {events : List DatalinkEvent}
    (h : ∀ buf n, DatalinkEvent.upperReceive buf n ∉ events) : Gated config events := by
  intro before frame frameLen after heq
  exact absurd (heq ▸ List.mem_append_right before List.mem_cons_self) (h frame frameLen)

/-- What happened earlier does not open the gate. -/
theorem Gated.append {config : AuthConfig} {a b : List DatalinkEvent} (ha : Gated config a)
    (hb : Gated config b) : Gated config (a ++ b) := by
  intro before frame frameLen after heq
  rw [List.append_eq_append_iff] at heq
  rcases heq with ⟨mid, rfl, hmid⟩ | ⟨mid, hmid, hb'⟩
  · -- the frame was passed up in the second part
    rcases hb mid frame frameLen after hmid with hplain | ⟨input, earlier, rfl, hver⟩
    · exact .inl hplain
    · exact .inr ⟨input, a ++ earlier, by rw [List.append_assoc], hver⟩
  · cases mid with
    | nil =>
      rw [List.append_nil] at hmid
      rw [hmid] at *
      rcases hb [] frame frameLen after (by simpa using hb'.symm) with
        hplain | ⟨_, earlier, hnil, _⟩
      · exact .inl hplain
      · simp at hnil
    | cons head rest =>
      rw [List.cons_append, List.cons.injEq] at hb'
      obtain ⟨rfl, _⟩ := hb'
      exact ha before frame frameLen rest hmid

/-- Passing one frame up behind nothing, or behind its own verification. -/
theorem gated_passUp {config : AuthConfig} {ctx : DatalinkCtx} {before : List DatalinkEvent}
    {frame : Bytes} {frameLen : Nat}
    (hquiet : ∀ buf n, DatalinkEvent.upperReceive buf n ∉ before)
    (hgate : PassesGate config before frame frameLen) :
    Gated config (before ++ datalinkPassUp ctx frame frameLen) := by
  unfold datalinkPassUp
  split
  · intro pre buf n post heq
    rw [List.append_eq_append_iff] at heq
    -- the frame passed up is the one at the end; what comes before passes nothing up
    rcases heq with ⟨mid, rfl, hmid⟩ | ⟨mid, hmid, hrest⟩
    · cases mid with
      | nil =>
        simp only [List.nil_append, List.cons.injEq, DatalinkEvent.upperReceive.injEq] at hmid
        obtain ⟨⟨rfl, rfl⟩, _⟩ := hmid
        simpa using hgate
      | cons head rest => simp at hmid
    · cases mid with
      | nil =>
        simp only [List.nil_append, List.cons.injEq, DatalinkEvent.upperReceive.injEq] at hrest
        obtain ⟨⟨rfl, rfl⟩, _⟩ := hrest
        rw [List.append_nil] at hmid
        rwa [← hmid]
      | cons head rest =>
        rw [List.cons_append, List.cons.injEq] at hrest
        rw [hmid, ← hrest.1] at hquiet
        exact absurd (List.mem_append_right pre List.mem_cons_self) (hquiet buf n)
  · rw [List.append_nil]
    exact gated_of_quiet hquiet

/-- One processed frame keeps the settings and is gated. -/
theorem processFrame_gated (ctx : DatalinkCtx) (frame : Bytes) (frameLen : Nat) :
    (xglDatalinkProcessFrame ctx frame frameLen).2.1.authConfig = ctx.authConfig ∧
      Gated ctx.authConfig (xglDatalinkProcessFrame ctx frame frameLen).2.2 := by
  have houtcome := xglDatalinkProcessFrame_outcome ctx frame frameLen
  generalize xglDatalinkProcessFrame ctx frame frameLen = result at houtcome ⊢
  cases houtcome with
  | dropped err events _ hquiet => exact ⟨rfl, gated_of_quiet hquiet⟩
  | plain metadata _ hopt hplain =>
    exact ⟨rfl, @gated_passUp _ _ [] _ _ (by simp) (.inl ⟨hopt, hplain⟩)⟩
  | replayed metadata input _ _ _ => exact ⟨rfl, gated_of_quiet (by simp)⟩
  | verified metadata input _ hver _ =>
    exact ⟨rfl, gated_passUp (by simp)
      (.inr ⟨input, [], rfl, hver⟩)⟩

/-- One byte keeps the settings and is gated. -/
theorem receiveByte_gated (ctx : DatalinkCtx) (byte : UInt8) (now : UInt32) :
    (datalinkReceiveByte ctx byte now).1.authConfig = ctx.authConfig ∧
      Gated ctx.authConfig (datalinkReceiveByte ctx byte now).2 := by
  unfold datalinkReceiveByte
  dsimp only
  split
  · cases xglParserGetFrame (xglParserFeedByte ctx.parser byte now).2 with
    | error err => exact ⟨rfl, gated_of_quiet (by simp)⟩
    | ok completed =>
      exact processFrame_gated { ctx with parser := (xglParserFeedByte ctx.parser byte now).2 }
        completed.1 completed.2
  · exact ⟨rfl, gated_of_quiet (by simp)⟩

/-- One poll keeps the settings and is gated. -/
theorem datalinkReceive_gated (ctx : DatalinkCtx) (phyRx : Option (Except XglError Bytes))
    (now timeout : UInt32) :
    (xglDatalinkReceive ctx phyRx now timeout).2.1.authConfig = ctx.authConfig ∧
      Gated ctx.authConfig (xglDatalinkReceive ctx phyRx now timeout).2.2 := by
  have hreport : ∀ (c : DatalinkCtx) (b : Bool),
      Gated ctx.authConfig (if b then datalinkReport c .timeout "Parser timeout" else []) := by
    intro c b
    apply gated_of_quiet
    intro buf n hmem
    unfold datalinkReport at hmem
    split at hmem <;> try split at hmem
    all_goals simp at hmem
  unfold xglDatalinkReceive
  cases phyRx with
  -- no PHY, or a PHY that fails: nothing is read
  | none => exact ⟨rfl, gated_of_quiet (by simp)⟩
  | some read =>
    dsimp only
    generalize hstart : (if xglParserCheckTimeout ctx.parser now timeout then
      { ctx with parser := xglParserReset ctx.parser } else ctx) = start
    have hconfig : start.authConfig = ctx.authConfig := by
      rw [← hstart]
      split <;> rfl
    cases read with
    | error err => exact ⟨hconfig, hreport _ _⟩
    | ok bytes =>
      -- the bytes of a read are fed one by one
      have hrun := runSteps_rule
        (fun c => c.authConfig = ctx.authConfig) (Gated ctx.authConfig)
        (gated_of_quiet (by simp)) (fun _ _ => Gated.append)
        (fun c byte hc => ⟨(receiveByte_gated c byte now).1.trans hc,
          hc ▸ (receiveByte_gated c byte now).2⟩) bytes start hconfig
      exact ⟨hrun.1, (hreport _ _).append hrun.2⟩

/-- Over every sequence of polls, for every configuration and every provider:
each frame passed to the upper layer is plain while authentication is optional,
or carries the flag and a SECURITY_EXT and was verified immediately before, under
the required key when authentication is required. And a frame that is neither
changes no replay window, whatever the state it meets. -/
theorem passed_up_frames_pass_gate (rxCache : Bytes) (config : AuthConfig)
    (errorCallback upperLayer : Bool) (ctx : DatalinkCtx)
    (hinit : xglDatalinkInit rxCache config.authRequired config.authKeyId config.authProvider
      errorCallback upperLayer = .ok ctx) :
    (∀ polls, Gated config (datalinkRun polls ctx).2) ∧
      ∀ polls frame frameLen, let reached := (datalinkRun polls ctx).1
        ¬ (config.authRequired = false ∧ PlainFrame frame) →
        ¬ (∃ input, VerifiedFrame config.authRequired config.authKeyId config.authProvider frame
          frameLen input) →
        (xglDatalinkProcessFrame reached frame frameLen).2.1.replaySlots = reached.replaySlots := by
  have hconfig : ctx.authConfig = config := by
    unfold xglDatalinkInit at hinit
    split at hinit
    · cases hinit
    · cases hinit
      rfl
  have hrun : ∀ polls, (datalinkRun polls ctx).1.authConfig = config ∧
      Gated config (datalinkRun polls ctx).2 := by
    intro polls
    exact runSteps_rule (fun c => c.authConfig = config) (Gated config)
      (gated_of_quiet (by simp)) (fun _ _ => Gated.append)
      (fun c poll hc => by
        obtain ⟨hkeep, hgated⟩ :=
          datalinkReceive_gated c poll.phyRx poll.currentTimeMs poll.timeoutMs
        exact ⟨hkeep.trans hc, hc ▸ hgated⟩) polls ctx hconfig
  refine ⟨fun polls => (hrun polls).2, ?_⟩
  intro polls frame frameLen
  dsimp only
  intro hplain hverified
  have hcfg := (hrun polls).1
  have houtcome := xglDatalinkProcessFrame_outcome (datalinkRun polls ctx).1 frame frameLen
  generalize (datalinkRun polls ctx).1 = reached at hcfg houtcome ⊢
  rw [← hcfg] at hverified hplain
  generalize xglDatalinkProcessFrame reached frame frameLen = result at houtcome ⊢
  -- a frame that is not verified is dropped or plain, and both leave the windows
  cases houtcome with
  | dropped err events _ _ => rfl
  | plain metadata _ hopt hpl => rfl
  | replayed metadata input _ hver _ => exact absurd ⟨input, hver⟩ hverified
  | verified metadata input _ hver _ => exact absurd ⟨input, hver⟩ hverified

/-- Settings that require key 7. -/
def sampleConfig : AuthConfig where
  authRequired := true
  authKeyId := 7
  authProvider := some sampleProvider

/-- A fresh context with a cache of 64 bytes. -/
def sampleDatalinkCtx : DatalinkCtx where
  parser :=
    { state := .magic, cache := List.replicate 64 0, cacheSize := 64, cacheLen := 0, index := 0
      timestamp := 0, expectedHeaderLen := 0, expectedPayloadLen := 0, expectedAuthTagLen := 0 }
  authRequired := true
  authKeyId := 7
  authProvider := some sampleProvider

/-- The sample frame in two chunks: it is verified and passed up, through the
gate. -/
theorem passed_up_frames_pass_gate_sample :
    (datalinkRun
        [{ phyRx := some (.ok (sampleFrame.take 20)), currentTimeMs := 5, timeoutMs := 1000 },
          { phyRx := some (.ok (sampleFrame.drop 20)), currentTimeMs := 6, timeoutMs := 1000 }]
        sampleDatalinkCtx).2
      = [.verify sampleAuthInput .ok true,
          .upperReceive (sampleFrame ++ List.replicate 20 0) 44] ∧
      ∀ polls, Gated sampleConfig (datalinkRun polls sampleDatalinkCtx).2 :=
  ⟨by decide +kernel,
    (passed_up_frames_pass_gate (List.replicate 64 0) sampleConfig false true sampleDatalinkCtx
      rfl).1⟩

end XgenLink
