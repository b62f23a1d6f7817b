import XgenLink.Core.Types

/-!
# `XgenLink.Transport.Window`: the sliding window and the RTT estimator

`xgl_window.c` over 32-bit packet numbers, with the acknowledgement flags as a list of length
`windowSize`, and the estimator state of `xgl_rtt.c` as far as the transport reads it. The flag at
an index belongs to the number that lies so far above the base; when the base moves, the flags move
to the front by one place for each number, and the last place is clear.

The tests of the window use the difference from the base, modulo 2^32, except for the one that
compares a number with the base as it is.
-/

set_option autoImplicit false

namespace XgenLink

/-! ### Sliding window -/

/-- `xgl_sliding_window_t`. -/
structure SlidingWindow where
  windowSize : UInt8
  sendBasePacketNumber : UInt32 := 0
  nextPacketNumber : UInt32 := 0
  ackReceived : List Bool
  deriving DecidableEq, Repr

/-- The largest window `xgl_window_init_with_allocator` accepts. -/
def XGL_WINDOW_MAX_SIZE : UInt8 := 128

/-- The window `xgl_window_init_with_allocator` sets up once its flags are
allocated. -/
def freshWindow (windowSize : UInt8) : SlidingWindow where
  windowSize := windowSize
  ackReceived := List.replicate windowSize.toNat false

/-- `xgl_window_reset`. -/
def xglWindowReset (window : SlidingWindow) : SlidingWindow :=
  freshWindow window.windowSize

/-- `xgl_window_can_send_packet_number`. -/
def xglWindowCanSendPacketNumber (window : SlidingWindow) : Bool :=
  window.nextPacketNumber - window.sendBasePacketNumber < window.windowSize.toUInt32

/-- `xgl_window_get_next_packet_number`. -/
def xglWindowGetNextPacketNumber (window : SlidingWindow) : UInt32 :=
  window.nextPacketNumber

/-- `xgl_window_advance_next_packet_number`. -/
def xglWindowAdvanceNextPacketNumber (window : SlidingWindow) : SlidingWindow :=
  { window with nextPacketNumber := window.nextPacketNumber + 1 }

/-- `xgl_window_is_in_window_packet_number`. -/
def xglWindowIsInWindowPacketNumber (window : SlidingWindow) (packetNumber : UInt32) : Bool :=
  if packetNumber < window.sendBasePacketNumber then false
  else packetNumber - window.sendBasePacketNumber < window.windowSize.toUInt32

/-- `xgl_window_mark_ack_packet_number`; numbers outside the window are
ignored. -/
def xglWindowMarkAckPacketNumber (window : SlidingWindow) (packetNumber : UInt32) :
    SlidingWindow :=
  if xglWindowIsInWindowPacketNumber window packetNumber then
    { window with
      ackReceived :=
        window.ackReceived.set (packetNumber - window.sendBasePacketNumber).toNat true }
  else window

/-- The loop of `xgl_window_advance_base_packet_number`, which runs at most
`windowSize` times. -/
def windowAdvanceBaseLoop : Nat → SlidingWindow → SlidingWindow
  | 0, window => window
  | fuel + 1, window =>
    match window.ackReceived with
    | true :: rest =>
      windowAdvanceBaseLoop fuel
        { window with
          ackReceived := rest ++ [false]
          sendBasePacketNumber := window.sendBasePacketNumber + 1 }
    | _ => window

/-- `xgl_window_advance_base_packet_number`. -/
def xglWindowAdvanceBasePacketNumber (window : SlidingWindow) : SlidingWindow :=
  windowAdvanceBaseLoop window.windowSize.toNat window

/-! ### Frames of the window operations -/

/-- A mark keeps the next number. -/
@[simp] theorem xglWindowMarkAckPacketNumber_next (window : SlidingWindow) (n : UInt32) :
    (xglWindowMarkAckPacketNumber window n).nextPacketNumber = window.nextPacketNumber := by
  unfold xglWindowMarkAckPacketNumber
  split <;> rfl

/-- It keeps the size. -/
@[simp] theorem xglWindowMarkAckPacketNumber_size (window : SlidingWindow) (n : UInt32) :
    (xglWindowMarkAckPacketNumber window n).windowSize = window.windowSize := by
  unfold xglWindowMarkAckPacketNumber
  split <;> rfl

/-- The base loop moves the base only. -/
theorem windowAdvanceBaseLoop_frame (fuel : Nat) (window : SlidingWindow) :
    (windowAdvanceBaseLoop fuel window).nextPacketNumber = window.nextPacketNumber ∧
      (windowAdvanceBaseLoop fuel window).windowSize = window.windowSize := by
  induction fuel generalizing window with
  | zero => exact ⟨rfl, rfl⟩
  | succ fuel ih =>
    unfold windowAdvanceBaseLoop
    split
    · exact ih _
    · exact ⟨rfl, rfl⟩

/-- Moving the base keeps the next number. -/
@[simp] theorem xglWindowAdvanceBasePacketNumber_next (window : SlidingWindow) :
    (xglWindowAdvanceBasePacketNumber window).nextPacketNumber = window.nextPacketNumber :=
  (windowAdvanceBaseLoop_frame _ window).1

/-- It keeps the size. -/
@[simp] theorem xglWindowAdvanceBasePacketNumber_size (window : SlidingWindow) :
    (xglWindowAdvanceBasePacketNumber window).windowSize = window.windowSize :=
  (windowAdvanceBaseLoop_frame _ window).2

/-! ### RTT estimator -/

/-- `XGL_DEFAULT_RTO_MS`. -/
def XGL_DEFAULT_RTO_MS : Int32 := 1000

/-- `xgl_rtt_estimator_t`; its fields start as `xgl_rtt_init` sets them. -/
structure RttEstimator where
  srtt : Int32 := 0
  rttvar : Int32 := 0
  rto : Int32 := XGL_DEFAULT_RTO_MS
  initialized : Bool := false
  deriving DecidableEq, Repr

/-- `xgl_rtt_get_rto`. -/
def xglRttGetRto (est : RttEstimator) : Int32 :=
  est.rto

end XgenLink
