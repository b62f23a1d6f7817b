import XgenLink.Core.Types

/-!
# `XgenLink.Security.ReplayWindow`: the anti-replay window

`xgl_replay_window_t` of `xgl_security.c`: the largest packet number seen in a (source, connection,
epoch) scope and a bitmap of the 64 numbers up to it. Bit 0 is the largest number itself, and bit
`i` the number `i` below it.

A window accepts a number as new once. A number further back than the window is as wide is
rejected, since it cannot be told whether it was seen; a number ahead moves the window, however
far it is.
-/

set_option autoImplicit false

namespace XgenLink

/-- `xgl_replay_window_t`. -/
structure ReplayWindow where
  sourceId : UInt16
  connectionId : UInt32
  sessionEpoch : UInt32
  largestPacketNumber : UInt32 := 0
  receivedBitmap : UInt64 := 0
  windowSize : UInt8
  hasLargest : Bool := false
  deriving DecidableEq, Repr

/-- `xgl_replay_result_t`. -/
inductive ReplayResult where
  | reject
  | acceptNew
  | acceptDuplicate
  deriving DecidableEq, Repr

/-- `xgl_replay_window_init`. -/
def xglReplayWindowInit (sourceId : UInt16) (connectionId sessionEpoch : UInt32)
    (windowSize : UInt8) : Except XglError ReplayWindow :=
  if sourceId == 0 || windowSize == 0 || windowSize > 64 then .error .invalidParam
  else
    .ok { sourceId := sourceId
          connectionId := connectionId
          sessionEpoch := sessionEpoch
          windowSize := windowSize }

/-- Whether the window belongs to the scope. -/
def ReplayWindow.scopeEq (window : ReplayWindow) (sourceId : UInt16)
    (connectionId sessionEpoch : UInt32) : Bool :=
  window.sourceId == sourceId && window.connectionId == connectionId &&
    window.sessionEpoch == sessionEpoch

/-- `xgl_replay_window_check`. -/
def xglReplayWindowCheck (window : ReplayWindow) (sourceId : UInt16)
    (connectionId sessionEpoch packetNumber : UInt32) : ReplayResult × ReplayWindow :=
  if !window.scopeEq sourceId connectionId sessionEpoch then (.reject, window)
  -- the first number sets the window up
  else if !window.hasLargest then
    (.acceptNew,
      { window with
        largestPacketNumber := packetNumber
        receivedBitmap := 1
        hasLargest := true })
  else if packetNumber > window.largestPacketNumber then
    let diff := packetNumber - window.largestPacketNumber
    (.acceptNew,
      { window with
        receivedBitmap :=
          -- a shift by 64 or more would be undefined in C
          if diff ≥ 64 then 1 else (window.receivedBitmap <<< diff.toUInt64) ||| 1
        largestPacketNumber := packetNumber })
  else
    let offset := window.largestPacketNumber - packetNumber
    -- too old to tell
    if offset ≥ window.windowSize.toUInt32 || offset ≥ 64 then (.reject, window)
    else
      let bit : UInt64 := 1 <<< offset.toUInt64
      -- seen before
      if window.receivedBitmap &&& bit != 0 then (.acceptDuplicate, window)
      else (.acceptNew, { window with receivedBitmap := window.receivedBitmap ||| bit })

end XgenLink
