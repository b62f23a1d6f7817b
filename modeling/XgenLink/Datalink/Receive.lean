import XgenLink.Datalink.Metadata
import XgenLink.Lib.Run
import XgenLink.Security.ReplayWindow
import XgenLink.Wire.Parser

/-!
# `XgenLink.Datalink.Receive`: the datalink receive path

`xgl_datalink_receive` feeds the bytes of one PHY read to the parser and processes every frame
the parser completes. `xgl_datalink_process_frame` validates such a frame, has the provider
verify it, checks the replay window of its scope and passes it up. A frame is verified when the
instance requires it or when the frame asks for it, by its flag or by a SECURITY_EXT.

There are 16 replay windows. A scope gets the first free one with its first verified frame and
keeps it; when none is free the frame is rejected.

What the layer does to the outside (provider calls, error callbacks, frames passed up) is recorded
as events, in the order in which it happens. What the layers above do with a frame is not part of
this module.
-/

set_option autoImplicit false

namespace XgenLink

/-- `XGL_DATALINK_REPLAY_WINDOW_COUNT`. -/
def XGL_DATALINK_REPLAY_WINDOW_COUNT : Nat := 16

/-- `XGL_DATALINK_REPLAY_WINDOW_SIZE`. -/
def XGL_DATALINK_REPLAY_WINDOW_SIZE : UInt8 := 64

/-- `xgl_datalink_ctx_t`. A replay slot is `none` while `replay_window_used` is
false; the callback and the upper layer are flags that say whether they are
registered. -/
structure DatalinkCtx where
  parser : Parser
  authRequired : Bool := false
  authKeyId : UInt32 := 0
  authProvider : Option AuthProvider := none
  replaySlots : List (Option ReplayWindow) :=
    List.replicate XGL_DATALINK_REPLAY_WINDOW_COUNT none
  errorCallback : Bool := false
  upperLayer : Bool := true

/-- What the datalink does to the outside while it receives. -/
inductive DatalinkEvent where
  | errorCallback (error : XglError) (message : String)
  | verify (input : AuthInput) (error : XglError) (valid : Bool)
  | upperReceive (frameBuffer : Bytes) (frameLen : Nat)
  deriving DecidableEq, Repr

/-- `xgl_datalink_init`. -/
def xglDatalinkInit (rxCache : Bytes) (authRequired : Bool) (authKeyId : UInt32)
    (authProvider : Option AuthProvider) (errorCallback upperLayer : Bool) :
    Except XglError DatalinkCtx :=
  match xglParserInit rxCache with
  | .error err => .error err
  | .ok parser =>
    .ok { parser := parser
          authRequired := authRequired
          authKeyId := authKeyId
          authProvider := authProvider
          errorCallback := errorCallback
          upperLayer := upperLayer }

/-- Whether a replay slot holds the window of the scope. -/
def replaySlotMatches (sourceId : UInt16) (connectionId sessionEpoch : UInt32) :
    Option ReplayWindow → Bool
  | none => false
  | some window => window.scopeEq sourceId connectionId sessionEpoch

/-- `datalink_check_replay` on the slots: the window of the scope, or the first
free slot when there is none. -/
def datalinkCheckReplay (slots : List (Option ReplayWindow)) (sourceId : UInt16)
    (connectionId sessionEpoch packetNumber : UInt32) :
    ReplayResult × List (Option ReplayWindow) :=
  -- the window of the scope, when it has one
  match slots.findIdx? (replaySlotMatches sourceId connectionId sessionEpoch) with
  | some i =>
    match slots.getD i none with
    | none => (.reject, slots)
    | some window =>
      let checked :=
        xglReplayWindowCheck window sourceId connectionId sessionEpoch packetNumber
      (checked.1, slots.set i (some checked.2))
  -- otherwise the first free slot
  | none =>
    match slots.findIdx? Option.isNone with
    -- all slots are taken
    | none => (.reject, slots)
    | some i =>
      match xglReplayWindowInit sourceId connectionId sessionEpoch
          XGL_DATALINK_REPLAY_WINDOW_SIZE with
      | .error _ => (.reject, slots)
      | .ok window =>
        let checked :=
          xglReplayWindowCheck window sourceId connectionId sessionEpoch packetNumber
        (checked.1, slots.set i (some checked.2))

/-- `datalink_is_ack_eliciting`. -/
def datalinkIsAckEliciting (header : WireHeader) : Bool :=
  header.trafficClass &&& XGL_RELIABILITY_CLASS_MASK == XGL_RELIABILITY_ACK_ELICITING ||
    header.flags &&& XGL_WIRE_FLAG_ACK_ELICITING != 0

/-- The error callback, when one is registered. -/
def datalinkReport (ctx : DatalinkCtx) (error : XglError) (message : String) :
    List DatalinkEvent :=
  if ctx.errorCallback then [.errorCallback error message] else []

/-- Handing the frame to the network layer, when one is connected. -/
def datalinkPassUp (ctx : DatalinkCtx) (frameBuffer : Bytes) (frameLen : Nat) :
    List DatalinkEvent :=
  if ctx.upperLayer then [.upperReceive frameBuffer frameLen] else []

/-- The error callbacks of `xgl_datalink_process_frame` for a frame whose
metadata did not decode. -/
def datalinkReportRxError (ctx : DatalinkCtx) (frameLen : Nat) (metadata : DatalinkRxMetadata) :
    List DatalinkEvent :=
  (if metadata.frameCrcFailed then datalinkReport ctx .crcFailed "Frame CRC16 validation failed"
    else []) ++
  (if frameLen > XGL_DATALINK_MAX_FRAME_SIZE then
      datalinkReport ctx .invalidFrame "Frame size exceeds maximum allowed"
    else [])

/-- The verification and replay steps of `xgl_datalink_process_frame` for a frame
with `should_verify_auth`. -/
def datalinkVerifyFrame (ctx : DatalinkCtx) (provider : AuthProvider) (frameBuffer : Bytes)
    (frameLen : Nat) (metadata : DatalinkRxMetadata) :
    XglError × DatalinkCtx × List DatalinkEvent :=
  let verified := xglWireVerifyAuthTrailer frameBuffer (frameLen - XGL_CRC16_SIZE)
    metadata.header.headerLen.toNat metadata.payloadLen metadata.authKeyId provider
  -- the provider call itself, when the length checks let it happen
  let calls :=
    match wireAuthInput frameBuffer (frameLen - XGL_CRC16_SIZE)
        metadata.header.headerLen.toNat metadata.payloadLen metadata.authKeyId provider with
    | .error _ => []
    | .ok input => [DatalinkEvent.verify input verified.1 verified.2]
  -- the replay window only sees frames that the provider has verified
  if verified.1 != .ok || !verified.2 then (.invalidFrame, ctx, calls)
  else
    let replay := datalinkCheckReplay ctx.replaySlots metadata.header.sourceId
      metadata.header.connectionId metadata.sessionEpoch metadata.header.packetNumber
    let ctx := { ctx with replaySlots := replay.2 }
    -- a duplicate that wants an acknowledgement goes up, since the last one may have been lost
    if replay.1 == .reject ||
        (replay.1 == .acceptDuplicate && !datalinkIsAckEliciting metadata.header) then
      (.invalidFrame, ctx, calls)
    else (.ok, ctx, calls ++ datalinkPassUp ctx frameBuffer frameLen)

/-- `xgl_datalink_process_frame`. -/
def xglDatalinkProcessFrame (ctx : DatalinkCtx) (frameBuffer : Bytes) (frameLen : Nat) :
    XglError × DatalinkCtx × List DatalinkEvent :=
  match xglDatalinkDecodeRxMetadata frameBuffer frameLen ctx.authRequired ctx.authKeyId with
  | (.ok, metadata) =>
    if ctx.authRequired || metadata.shouldVerifyAuth then
      -- the flag and the extension have to be there both
      match metadata.authenticated && metadata.hasSecurityExt, ctx.authProvider with
      | true, some provider =>
        if provider.verify.isNone then (.invalidFrame, ctx, [])
        else datalinkVerifyFrame ctx provider frameBuffer frameLen metadata
      -- one of the two is missing, or there is no provider
      | _, _ => (.invalidFrame, ctx, [])
    else (.ok, ctx, datalinkPassUp ctx frameBuffer frameLen)
  | (err, metadata) => (err, ctx, datalinkReportRxError ctx frameLen metadata)

/-- One byte of the loop of `xgl_datalink_receive`. -/
def datalinkReceiveByte (ctx : DatalinkCtx) (byte : UInt8) (currentTimeMs : UInt32) :
    DatalinkCtx × List DatalinkEvent :=
  let fed := xglParserFeedByte ctx.parser byte currentTimeMs
  let ctx := { ctx with parser := fed.2 }
  match fed.1 with
  | .complete =>
    let processed :=
      match xglParserGetFrame ctx.parser with
      | .error _ => (ctx, [])
      | .ok (frameBuffer, frameLen) => (xglDatalinkProcessFrame ctx frameBuffer frameLen).2
    -- the parser starts anew after every complete frame, whatever became of it
    ({ processed.1 with parser := xglParserReset processed.1.parser }, processed.2)
  | _ => (ctx, [])

/-- The loop of `xgl_datalink_receive` over the bytes of one read. -/
def datalinkReceiveBytes (currentTimeMs : UInt32) (bytes : Bytes) (ctx : DatalinkCtx) :
    DatalinkCtx × List DatalinkEvent :=
  runSteps (fun ctx byte => datalinkReceiveByte ctx byte currentTimeMs) bytes ctx

/-- `xgl_datalink_receive`; `phyRx` is what the PHY's receive function returns,
`none` when it has none. -/
def xglDatalinkReceive (ctx : DatalinkCtx) (phyRx : Option (Except XglError Bytes))
    (currentTimeMs timeoutMs : UInt32) : XglError × DatalinkCtx × List DatalinkEvent :=
  match phyRx with
  -- a PHY without a receive function
  | none => (.invalidParam, ctx, [])
  | some read =>
    -- the timeout is looked at before the bytes are
    let timedOut := xglParserCheckTimeout ctx.parser currentTimeMs timeoutMs
    let ctx := if timedOut then { ctx with parser := xglParserReset ctx.parser } else ctx
    let reports := if timedOut then datalinkReport ctx .timeout "Parser timeout" else []
    match read with
    | .error err => (err, ctx, reports)
    | .ok bytes =>
      let received := datalinkReceiveBytes currentTimeMs bytes ctx
      (.ok, received.1, reports ++ received.2)

/-- One poll of the datalink: what the PHY returns and the two time arguments. -/
structure DatalinkPoll where
  phyRx : Option (Except XglError Bytes)
  currentTimeMs : UInt32
  timeoutMs : UInt32

/-- A run of `xgl_datalink_receive` over a sequence of polls. -/
def datalinkRun (polls : List DatalinkPoll) (ctx : DatalinkCtx) :
    DatalinkCtx × List DatalinkEvent :=
  runSteps
    (fun ctx poll => (xglDatalinkReceive ctx poll.phyRx poll.currentTimeMs poll.timeoutMs).2)
    polls ctx

end XgenLink
