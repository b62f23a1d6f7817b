import XgenLink.Datalink.Receive

/-!
# `XgenLink.System.Poll`: the receive loop of `xgl_run`

`xgl_run` goes over the routes and reads the PHY of each one that is due, always through the one
parser of the datalink context. Two PHYs that deliver halves of frames in turn therefore meet in
one cache.

A route that wants to be read less often than `xgl_run` is called has an interval of its own, and
the time of its last reading is kept beside the table. A route without such times is read at every
call.

* `xglRunReceive`: the loop of one call.
* `framesHanded`, `phyStream`: what a sequence of calls hands to `xgl_datalink_process_frame`, and
  what it read from a PHY.
-/

set_option autoImplicit false

namespace XgenLink

/-- `XGL_DATALINK_RX_MAX_BYTES_PER_CALL`; `xgl_run` passes it as the timeout. -/
def XGL_DATALINK_RX_MAX_BYTES_PER_CALL : UInt32 := 1000

/-- The fields of `xgl_route_item_t` the loop reads. `rxPhy` tells the PHYs apart; it
is `none` when the route has no PHY or the PHY no receive function. -/
structure PollRoute where
  rxPhy : Option Nat
  readFreqHz : UInt32 := 0

/-- The fields of an instance the loop changes; `routeLastReadMs` is `none` when the
pointer is NULL. -/
structure PollHandle where
  routeLastReadMs : Option (List UInt32)
  datalink : DatalinkCtx

/-- A call of `xgl_run`: its argument, the time, and what the receive function of
each route's PHY returns. -/
structure RunCall where
  freqHz : UInt32
  currentTimeMs : UInt32
  rx : Nat → Except XglError Bytes

/-- One round of the loop. -/
structure RoutePoll where
  index : Nat
  route : PollRoute
  freqHz : UInt32
  currentTimeMs : UInt32
  rx : Except XglError Bytes

/-- The rounds of a call. -/
def routePolls (routes : List PollRoute) (call : RunCall) : List RoutePoll :=
  routes.zipIdx.map fun entry =>
    { index := entry.2
      route := entry.1
      freqHz := call.freqHz
      currentTimeMs := call.currentTimeMs
      rx := call.rx entry.2 }

/-- The polling interval of a route. -/
def routeIntervalMs (readFreqHz : UInt32) : UInt32 :=
  -- a frequency above 1000 Hz is once in a millisecond
  if 1000 / readFreqHz == 0 then 1 else 1000 / readFreqHz

/-- `should_read`. -/
def routeShouldRead (handle : PollHandle) (poll : RoutePoll) : Bool :=
  match handle.routeLastReadMs with
  -- no times to compare with
  | none => true
  | some times =>
    if poll.route.readFreqHz > 0 && poll.freqHz > 0 && poll.route.readFreqHz < poll.freqHz &&
        poll.index < times.length then
      -- a time of 0 stands for a route that was never read
      !(times.getD poll.index 0 != 0 &&
        poll.currentTimeMs - times.getD poll.index 0 < routeIntervalMs poll.route.readFreqHz)
    else true

/-- The PHY a round reads, when it reads one. -/
def routeDue (handle : PollHandle) (poll : RoutePoll) : Option Nat :=
  match poll.route.rxPhy with
  | none => none
  | some phy => if routeShouldRead handle poll then some phy else none

/-- One round of the loop of `xgl_run`. -/
def runRoute (handle : PollHandle) (poll : RoutePoll) : PollHandle × List DatalinkEvent :=
  match routeDue handle poll with
  | none => (handle, [])
  | some _ =>
    let received := xglDatalinkReceive handle.datalink (some poll.rx) poll.currentTimeMs
      XGL_DATALINK_RX_MAX_BYTES_PER_CALL
    ({ routeLastReadMs := handle.routeLastReadMs.map fun times =>
          times.set poll.index poll.currentTimeMs
       datalink := received.2.1 },
      received.2.2)

/-- The receive loop of `xgl_run`. -/
def xglRunReceive (routes : List PollRoute) (handle : PollHandle) (call : RunCall) :
    PollHandle × List DatalinkEvent :=
  runSteps runRoute (routePolls routes call) handle

/-! ### What a run reads and hands on -/

/-- The frame that a byte hands to `xgl_datalink_process_frame`. -/
def handedFrame (parser : Parser) (byte : UInt8) (currentTimeMs : UInt32) : List Bytes :=
  match xglParserFeedByte parser byte currentTimeMs with
  | (.complete, fed) =>
    match xglParserGetFrame fed with
    | .error _ => []
    | .ok (frameBuffer, frameLen) => [frameBuffer.take frameLen]
  | _ => []

/-- The frames that the bytes of one read hand on. -/
def readFrames (currentTimeMs : UInt32) (bytes : Bytes) (ctx : DatalinkCtx) : List Bytes :=
  (runSteps
    (fun ctx byte =>
      ((datalinkReceiveByte ctx byte currentTimeMs).1, handedFrame ctx.parser byte currentTimeMs))
    bytes ctx).2

/-- The read of a round: the PHY and the bytes. -/
def routeRead (handle : PollHandle) (poll : RoutePoll) : Option (Nat × Bytes) :=
  match routeDue handle poll, poll.rx with
  | some phy, .ok bytes => some (phy, bytes)
  | _, _ => none

/-- Whether the parser timeout elapses in a round. -/
def routeTimesOut (handle : PollHandle) (poll : RoutePoll) : Bool :=
  (routeDue handle poll).isSome &&
    xglParserCheckTimeout handle.datalink.parser poll.currentTimeMs
      XGL_DATALINK_RX_MAX_BYTES_PER_CALL

/-- The frames that a round hands on. -/
def routeFrames (handle : PollHandle) (poll : RoutePoll) : List Bytes :=
  match routeRead handle poll with
  | none => []
  | some (_, bytes) =>
    readFrames poll.currentTimeMs bytes
      (if routeTimesOut handle poll then
        { handle.datalink with parser := xglParserReset handle.datalink.parser }
      else handle.datalink)

/-- The frames that rounds hand on, in order. -/
def pollFrames (polls : List RoutePoll) (handle : PollHandle) : List Bytes :=
  (runSteps (fun handle poll => ((runRoute handle poll).1, routeFrames handle poll)) polls
    handle).2

/-- The reads of rounds, in order. -/
def pollReads (polls : List RoutePoll) (handle : PollHandle) : List (Nat × Bytes) :=
  (runSteps (fun handle poll => ((runRoute handle poll).1, (routeRead handle poll).toList)) polls
    handle).2

/-- The bytes that reads gave for one PHY. -/
def logStream (log : List (Nat × Bytes)) (phy : Nat) : Bytes :=
  (log.filter fun read => read.1 == phy).flatMap Prod.snd

/-- The frames that calls of `xgl_run` hand to `xgl_datalink_process_frame`. -/
def framesHanded (routes : List PollRoute) (calls : List RunCall) (handle : PollHandle) :
    List Bytes :=
  pollFrames (calls.flatMap (routePolls routes)) handle

/-- The bytes that calls of `xgl_run` read from a PHY. -/
def phyStream (routes : List PollRoute) (calls : List RunCall) (handle : PollHandle) (phy : Nat) :
    Bytes :=
  logStream (pollReads (calls.flatMap (routePolls routes)) handle) phy

/-- The frames of a byte stream on a parser of its own. -/
def parsedAlone (parser : Parser) (bytes : Bytes) : List Bytes :=
  (runSteps
    (fun parser byte =>
      let fed := xglParserFeedByte parser byte 0
      (if fed.1 == .complete then xglParserReset fed.2 else fed.2, handedFrame parser byte 0))
    bytes parser).2

/-- The loops of successive calls are one loop over all their rounds. -/
theorem runSteps_xglRunReceive (routes : List PollRoute) (calls : List RunCall)
    (handle : PollHandle) :
    runSteps (xglRunReceive routes) calls handle
      = runSteps runRoute (calls.flatMap (routePolls routes)) handle := by
  induction calls generalizing handle with
  | nil => rfl
  | cons call rest ih =>
    rw [List.flatMap_cons, runSteps_append, runSteps_cons, ih]
    rfl

end XgenLink
