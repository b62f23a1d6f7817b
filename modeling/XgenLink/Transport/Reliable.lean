import XgenLink.Wire.Ext

/-!
# `XgenLink.Transport.Reliable`: the wait-ACK queue

`xgl_reliable.c` and its helpers. The queue is the wait-ACK list in order of insertion. The source
finds a packet through hash buckets that are filled at the front, so among packets of one number
and target it finds the one inserted last; lookups and removals here do the same on the list.
`XgenLink.Transport.ReliableMemory` has the queue with its buckets, and
`XgenLink.Proofs.QueueRefines` shows that the two agree.

A queued packet owns copies of its payload and extensions, its retry count, its timeout and the time
of its last transmission; 0 stands for "not sent yet".

* `mem_reliableUnlink_of_not_isFor`, `mem_of_mem_reliableUnlink`: what a removal
  leaves in the queue.
-/

set_option autoImplicit false

namespace XgenLink

/-- `xgl_reliable_packet_t`. `retransmissions` is not a field of the source: it counts
the successful retransmissions of the packet without a bound. -/
structure ReliablePacket where
  data : Bytes
  sourceId : UInt16
  targetId : UInt16
  packetNumber : UInt32
  sessionId : UInt16 := 0
  connectionId : UInt32 := 0
  sessionEpoch : UInt32 := 0
  dataType : UInt8
  packetType : UInt8 := XGL_PACKET_TYPE_DATA
  flags : UInt8 := 0
  fragment : Bool := false
  priority : UInt8
  extensions : Bytes := []
  retryCount : UInt8 := 0
  sendTimestamp : UInt32 := 0
  timeoutMs : Int32
  initialTimeoutMs : Int32
  retransmissions : Nat := 0
  deriving DecidableEq, Repr

/-- `xgl_reliable_queue_t`. -/
structure ReliableQueue where
  waitAckList : List ReliablePacket := []
  maxRetryCount : UInt8
  deriving DecidableEq, Repr

/-- The test a bucket walk makes. -/
def ReliablePacket.isFor (packet : ReliablePacket) (packetNumber : UInt32) (targetId : UInt16) :
    Bool :=
  packet.packetNumber == packetNumber && packet.targetId == targetId

/-- `xgl_reliable_find_packet_number`. -/
def xglReliableFindPacketNumber (queue : ReliableQueue) (packetNumber : UInt32)
    (targetId : UInt16) : Option ReliablePacket :=
  queue.waitAckList.reverse.find? fun packet => packet.isFor packetNumber targetId

/-- The packet a lookup finds taken off a wait-ACK list. -/
def reliableUnlink (packetNumber : UInt32) (targetId : UInt16) (packets : List ReliablePacket) :
    List ReliablePacket :=
  (packets.reverse.eraseP fun packet => packet.isFor packetNumber targetId).reverse

/-- `xgl_reliable_remove_packet_number`: whether a packet was found, and the
queue. -/
def xglReliableRemovePacketNumber (queue : ReliableQueue) (packetNumber : UInt32)
    (targetId : UInt16) : Bool × ReliableQueue :=
  ((xglReliableFindPacketNumber queue packetNumber targetId).isSome,
    { queue with waitAckList := reliableUnlink packetNumber targetId queue.waitAckList })

/-- The first packet of a list that passes the test, updated. -/
def updateFirst (test : ReliablePacket → Bool) (update : ReliablePacket → ReliablePacket) :
    List ReliablePacket → List ReliablePacket
  | [] => []
  | packet :: rest =>
    if test packet then update packet :: rest else packet :: updateFirst test update rest

/-- Writing through the pointer a lookup returns. -/
def reliableUpdate (queue : ReliableQueue) (packetNumber : UInt32) (targetId : UInt16)
    (update : ReliablePacket → ReliablePacket) : ReliableQueue :=
  { queue with
    waitAckList := (updateFirst (fun packet => packet.isFor packetNumber targetId) update
      queue.waitAckList.reverse).reverse }

/-- Adding a packet to the wait-ACK list, the part of
`xgl_reliable_add_packet_number` behind its allocations. -/
def reliableAppend (queue : ReliableQueue) (packet : ReliablePacket) : ReliableQueue :=
  { queue with waitAckList := queue.waitAckList ++ [packet] }

/-- `xgl_reliable_clear`. -/
def xglReliableClear (queue : ReliableQueue) : ReliableQueue :=
  { queue with waitAckList := [] }

/-- `xgl_reliable_is_empty`. -/
def xglReliableIsEmpty (queue : ReliableQueue) : Bool :=
  queue.waitAckList.isEmpty

/-- The doubling loop of `xgl_reliable_calc_backoff`. -/
def backoffLoop : Nat → Int32 → Int32
  | 0, backoff => backoff
  | fuel + 1, backoff => if backoff * 2 > 30000 then 30000 else backoffLoop fuel (backoff * 2)

/-- `xgl_reliable_calc_backoff`. -/
def xglReliableCalcBackoff (initialTimeoutMs : Int32) (retryCount : UInt8) : Int32 :=
  backoffLoop (min retryCount.toNat 10) initialTimeoutMs

/-! ### Acknowledgement ranges -/

/-- The numbers from `high` down to `low`, as the 32-bit loops visit them. -/
def numbersDown (high low : Nat) : List UInt32 :=
  (List.range (high - low + 1)).map fun i => UInt32.ofNat (high - i)

/-- The walk over (gap, length) ranges that `xgl_reliable_remove_ack_ranges` and
`transport_mark_ack_range_windows` both make: the packet numbers in the order
visited. The range at index zero starts at `nextHigh` itself. -/
def ackRangeNumbers : Bool → Nat → List WireAckRange → List UInt32
  | _, _, [] => []
  | first, nextHigh, range :: rest =>
    if range.length == 0 then ackRangeNumbers false nextHigh rest
    else
      let skip := if first then 0 else range.gap.toNat + 1
      if nextHigh < skip then []
      else
        let high := nextHigh - skip
        let low := if high + 1 > range.length.toNat then high - range.length.toNat + 1 else 0
        numbersDown high low ++ ackRangeNumbers false low rest

/-- Removing numbers one after the other, with the count of those found. -/
def reliableRemoveNumbers (targetId : UInt16) : List UInt32 → Nat × ReliableQueue →
    Nat × ReliableQueue
  | [], acc => acc
  | n :: rest, (removed, queue) =>
    let step := xglReliableRemovePacketNumber queue n targetId
    reliableRemoveNumbers targetId rest (if step.1 then removed + 1 else removed, step.2)

/-- `xgl_reliable_remove_ack_ranges`: the number of packets removed and the
queue. -/
def xglReliableRemoveAckRanges (queue : ReliableQueue) (targetId : UInt16) (largestAck : UInt32)
    (ranges : List WireAckRange) : Nat × ReliableQueue :=
  reliableRemoveNumbers targetId (ackRangeNumbers true largestAck.toNat ranges) (0, queue)

/-! ### What is found in the queue and what stays there -/

/-- What a lookup finds is queued and has the number. -/
theorem xglReliableFindPacketNumber_mem {queue : ReliableQueue} {n : UInt32} {targetId : UInt16}
    {entry : ReliablePacket} (h : xglReliableFindPacketNumber queue n targetId = some entry) :
    entry ∈ queue.waitAckList ∧ entry.isFor n targetId = true := by
  rw [xglReliableFindPacketNumber] at h
  have hfor := List.find?_some h
  exact ⟨List.mem_reverse.mp (List.mem_of_find?_eq_some h), hfor⟩

/-- Taking a packet off keeps every packet of another number or target. -/
theorem mem_reliableUnlink_of_not_isFor {packetNumber : UInt32} {targetId : UInt16}
    {packets : List ReliablePacket} {packet : ReliablePacket} (hmem : packet ∈ packets)
    (hne : packet.isFor packetNumber targetId = false) :
    packet ∈ reliableUnlink packetNumber targetId packets := by
  unfold reliableUnlink
  rw [List.mem_reverse, List.mem_eraseP_of_neg (by simp [hne]), List.mem_reverse]
  exact hmem

/-- Nothing appears when a packet is taken off. -/
theorem mem_of_mem_reliableUnlink {packetNumber : UInt32} {targetId : UInt16}
    {packets : List ReliablePacket} {packet : ReliablePacket}
    (hmem : packet ∈ reliableUnlink packetNumber targetId packets) : packet ∈ packets := by
  unfold reliableUnlink at hmem
  rw [List.mem_reverse] at hmem
  exact List.mem_reverse.mp (List.mem_of_mem_eraseP hmem)

end XgenLink
