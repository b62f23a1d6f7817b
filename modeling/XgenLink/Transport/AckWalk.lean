import XgenLink.Transport.AckReceive

/-!
# `XgenLink.Transport.AckWalk`: the loops over acknowledgement ranges

`xgl_reliable_remove_ack_ranges` and `transport_mark_ack_range_windows` walk the (gap, length)
ranges with the same two nested loops over 64-bit numbers and differ in what they do with a packet
number. The loops are modelled here statement by statement, with the work on a number as a
parameter. A walk is `none` when an addition or subtraction would wrap around or when the inner
loop has not come to its end within the fuel.

`ackRangeNumbers` is the list of the numbers that the ranges stand for. That the loops visit just
these, and come to their end, is shown in `XgenLink.Proofs.AckRangeRelease`; the other modules use
the list.
-/

set_option autoImplicit false

namespace XgenLink

/-- Addition of `uint64_t` values that does not wrap. -/
def addExact (a b : UInt64) : Option UInt64 :=
  if a.toNat + b.toNat < 2 ^ 64 then some (a + b) else none

/-- Subtraction of `uint64_t` values that does not wrap. -/
def subExact (a b : UInt64) : Option UInt64 :=
  if b ≤ a then some (a - b) else none

section Loops

variable {σ : Type} (body : σ → UInt32 → σ)

/-- The inner loop: from `packetNumber` down, until `low` has been visited. -/
def ackRangeInner (low : UInt64) : Nat → UInt64 → σ → Option σ
  | 0, _, _ => none
  | fuel + 1, packetNumber, state =>
    -- the packet number is cut to 32 bits for the work on it
    let state := body state packetNumber.toUInt32
    -- the test is behind the body, so that `low` is visited too
    if packetNumber == low then some state
    else
      match subExact packetNumber 1 with
      | none => none
      | some packetNumber => ackRangeInner low fuel packetNumber state

/-- The low end of a range: `high - length + 1`, or 0 when the range reaches below 0. -/
def ackRangeLow (high length : UInt64) : Option UInt64 :=
  match addExact high 1 with
  | none => none
  | some above =>
    if above > length then
      match subExact high length with
      | none => none
      | some below => addExact below 1
    else some 0

/-- The body of the outer loop for a range that is not empty. -/
def ackRangeVisit (fuel : Nat) (high : UInt64) (range : WireAckRange) (state : σ) :
    Option (UInt64 × σ) :=
  match ackRangeLow high range.length.toUInt64 with
  | none => none
  | some low =>
    match ackRangeInner body low fuel high state with
    | none => none
    | some state => some (low, state)

/-- The outer loop from range number `i` on. -/
def ackRangeOuter (fuel : Nat) : Nat → UInt64 → List WireAckRange → σ → Option σ
  | _, _, [], state => some state
  | i, nextHigh, range :: rest, state =>
    -- an empty range leaves the number where it was
    if range.length == 0 then ackRangeOuter fuel (i + 1) nextHigh rest state
    -- the gap of the first range is not read
    else if i > 0 then
      match addExact range.gap.toUInt64 1 with
      | none => none
      | some skip =>
        -- a gap that reaches below 0 ends the walk
        if nextHigh < skip then some state
        else
          match subExact nextHigh skip with
          | none => none
          | some high =>
            match ackRangeVisit body fuel high range state with
            | none => none
            | some (low, state) => ackRangeOuter fuel (i + 1) low rest state
    else
      -- the first range starts at the largest acknowledged number
      match ackRangeVisit body fuel nextHigh range state with
      | none => none
      | some (low, state) => ackRangeOuter fuel (i + 1) low rest state

end Loops

/-- `xgl_reliable_remove_ack_ranges` as it is written: the number of packets removed and the
queue. -/
def reliableRemoveAckRangesWalk (fuel : Nat) (queue : ReliableQueue) (targetId : UInt16)
    (largestAck : UInt32) (ranges : List WireAckRange) : Option (Nat × ReliableQueue) :=
  ackRangeOuter
    (fun state packetNumber =>
      let step := xglReliableRemovePacketNumber state.2 packetNumber targetId
      (if step.1 then state.1 + 1 else state.1, step.2))
    fuel 0 largestAck.toUInt64 ranges (0, queue)

/-- The loops of `transport_mark_ack_range_windows` as they are written: the windows of peer
and context before their bases move. -/
def markAckRangesWalk (fuel : Nat) (windows : SlidingWindow × SlidingWindow)
    (largestAck : UInt32) (ranges : List WireAckRange) : Option (SlidingWindow × SlidingWindow) :=
  ackRangeOuter markAcked fuel 0 largestAck.toUInt64 ranges windows

end XgenLink
