import XgenLink.Core.LinkedList
import XgenLink.Transport.Reliable

/-!
# `XgenLink.Transport.ReliableMemory`: the wait-ACK queue in memory

`XgenLink.Transport.Reliable` has the queue as a list of packets. Here it is as the source
keeps it: packets at addresses, each in the wait-ACK list through its node and in the chain
of its hash through `index_next`. `xgl_reliable.c`, `xgl_reliable_packet.c`,
`xgl_reliable_ack.c`, `xgl_reliable_extensions.c` and `xgl_reliable_timeout.c`.

The node is the first field of a packet, so packet and node have one address; 0 is `NULL`.
Memory is one function for each kind of field: the links of the nodes, `index_next`, and the
other fields. Which packets are allocated is not kept by the source. `live` lists them here,
and `handed` those of them that are the caller's again, after `xgl_reliable_process_timeouts`
returned them. What a freed packet leaves behind is arbitrary, `junk`.

A loop over links is given as many rounds as there are allocated packets, and one more to see
the end. If it is not at its end then, it never will be, and the queue is `stuck`.
-/

set_option autoImplicit false

namespace XgenLink

/-- `XGL_RELIABLE_INDEX_BUCKETS`. -/
def reliableIndexBuckets : Nat := 32

/-- The links and the fields of one packet, as they stand in memory. -/
structure PacketCell where
  next : Nat
  prev : Nat
  indexNext : Nat
  packet : ReliablePacket

/-- `xgl_reliable_queue_t` and the packets in memory. -/
structure QueueMemory where
  nodes : ListNodes
  indexNext : Nat → Nat
  packets : Nat → ReliablePacket
  waitAckList : XglList := {}
  indexBuckets : Fin reliableIndexBuckets → Nat := fun _ => 0
  maxRetryCount : UInt8
  live : List Nat := []
  handed : List Nat := []
  junk : PacketCell
  stuck : Bool := false

namespace QueueMemory

/-- The rounds of a loop over links. -/
def rounds (queue : QueueMemory) : Nat := queue.live.length + 1

/-! ### Memory -/

/-- Every field of a packet is overwritten. -/
def store (queue : QueueMemory) (address : Nat) (cell : PacketCell) : QueueMemory :=
  { queue with
    nodes :=
      { next := Function.update queue.nodes.next address cell.next
        prev := Function.update queue.nodes.prev address cell.prev }
    indexNext := Function.update queue.indexNext address cell.indexNext
    packets := Function.update queue.packets address cell.packet }

/-- `reliable_free` of a packet, and `reliable_free_packet` with its buffers. -/
def freePacket (queue : QueueMemory) (address : Nat) : QueueMemory :=
  { queue.store address queue.junk with live := queue.live.erase address }

/-! ### The index -/

/-- `reliable_index_bucket`. The product is taken in a wider type and then cut to 32 bits. -/
def indexBucket (targetId : UInt16) (packetNumber : UInt32) : Fin reliableIndexBuckets :=
  let mixed := packetNumber ^^^ targetId.toUInt32 * 2654435761
  ⟨mixed.toNat % reliableIndexBuckets, Nat.mod_lt _ (by decide)⟩

/-- The bucket of the packet at an address. -/
def bucketOf (queue : QueueMemory) (address : Nat) : Fin reliableIndexBuckets :=
  indexBucket (queue.packets address).targetId (queue.packets address).packetNumber

/-- `reliable_index_packet`. -/
def indexPacket (queue : QueueMemory) (address : Nat) : QueueMemory :=
  let bucket := queue.bucketOf address
  { queue with
    indexNext := Function.update queue.indexNext address (queue.indexBuckets bucket)
    indexBuckets := Function.update queue.indexBuckets bucket address }

/-- The loop of `reliable_unindex_packet`: the links and the head of the bucket. -/
def unindexLoop (address : Nat) : Nat → Nat → Nat → (Nat → Nat) → Nat → Option ((Nat → Nat) × Nat)
  | 0, _, _, _, _ => none
  | rounds + 1, previous, current, indexNext, bucket =>
    if current = 0 then some (indexNext, bucket)
    -- the packet is at hand, `previous` is the one before it or `NULL`
    else if current = address then
      let linked :=
        -- at the head of the chain, so the bucket changes
        if previous = 0 then (indexNext, indexNext current)
        else (Function.update indexNext previous (indexNext current), bucket)
      some (Function.update linked.1 current 0, linked.2)
    else unindexLoop address rounds current (indexNext current) indexNext bucket

/-- `reliable_unindex_packet`. -/
def unindexPacket (queue : QueueMemory) (address : Nat) : QueueMemory :=
  let bucket := queue.bucketOf address
  match unindexLoop address queue.rounds 0 (queue.indexBuckets bucket) queue.indexNext
      (queue.indexBuckets bucket) with
  -- the loop never came to its end
  | none => { queue with stuck := true }
  | some (indexNext, head) =>
    { queue with
      indexNext := indexNext
      indexBuckets := Function.update queue.indexBuckets bucket head }

/-- The loop of `xgl_reliable_find_packet_number`: 0 for `NULL`. -/
def findLoop (queue : QueueMemory) (packetNumber : UInt32) (targetId : UInt16) :
    Nat → Nat → Option Nat
  | 0, _ => none
  | rounds + 1, current =>
    -- the end of the chain
    if current = 0 then some 0
    else if (queue.packets current).isFor packetNumber targetId then some current
    else findLoop queue packetNumber targetId rounds (queue.indexNext current)

/-- `xgl_reliable_find_packet_number`. -/
def findPacketNumber (queue : QueueMemory) (packetNumber : UInt32) (targetId : UInt16) :
    Option Nat :=
  queue.findLoop packetNumber targetId queue.rounds
    (queue.indexBuckets (indexBucket targetId packetNumber))

/-! ### Adding and removing -/

/-- The wait-ACK list and its nodes after an operation of `xgl_list.c`. -/
def withList (queue : QueueMemory) (list : XglList × ListNodes) : QueueMemory :=
  { queue with waitAckList := list.1, nodes := list.2 }

/-- `xgl_reliable_add_packet_number`. Both allocations have an answer, 0 for `NULL`. -/
def addPacketNumber (queue : QueueMemory) (data : Bytes) (sourceId targetId : UInt16)
    (packetNumber : UInt32) (dataType priority : UInt8) (timeoutMs : Int32)
    (answer dataAnswer : Nat) : XglError × QueueMemory :=
  if data = [] then (.invalidParam, queue)
  else if answer = 0 then (.noMemory, queue)
  else
    let packet : ReliablePacket :=
      { data := data, sourceId := sourceId, targetId := targetId, packetNumber := packetNumber,
        dataType := dataType, priority := priority, timeoutMs := timeoutMs,
        initialTimeoutMs := timeoutMs }
    let allocated := { queue with live := answer :: queue.live }
    let filled := allocated.store answer { next := 0, prev := 0, indexNext := 0, packet := packet }
    -- the packet is freed again before it is in the list or the index
    if dataAnswer = 0 then (.noMemory, filled.freePacket answer)
    else
      -- the list first, then the index
      let inited := { filled with nodes := xglListNodeInit filled.nodes answer }
      let inserted := inited.withList (xglListInsertTail inited.waitAckList inited.nodes answer)
      (.ok, inserted.indexPacket answer)

/-- `xgl_reliable_remove_packet_number`. -/
def removePacketNumber (queue : QueueMemory) (packetNumber : UInt32) (targetId : UInt16) :
    XglError × QueueMemory :=
  match queue.findPacketNumber packetNumber targetId with
  | none => (.sequenceError, { queue with stuck := true })
  | some address =>
    if address ≠ 0 then
      -- the index first, then the list
      let unindexed := queue.unindexPacket address
      let removed := unindexed.withList
        (xglListRemove unindexed.waitAckList unindexed.nodes address)
      (.ok, removed.freePacket address)
    else (.sequenceError, queue)

/-- `xgl_reliable_remove_ack_ranges`: the number of packets removed and the queue. -/
def removeAckRanges (queue : QueueMemory) (targetId : UInt16) (largestAck : UInt32)
    (ranges : List WireAckRange) : Nat × QueueMemory :=
  (ackRangeNumbers true largestAck.toNat ranges).foldl
    (fun state packetNumber =>
      let out := state.2.removePacketNumber packetNumber targetId
      (if out.1 = .ok then state.1 + 1 else state.1, out.2))
    (0, queue)

/-- The loop of `xgl_reliable_clear`. -/
def clearLoop : Nat → QueueMemory → QueueMemory
  | 0, queue => { queue with stuck := true }
  | rounds + 1, queue =>
    let removed := xglListRemoveHead queue.waitAckList queue.nodes
    if removed.1 ≠ 0 then
      clearLoop rounds
        (((queue.withList removed.2).unindexPacket removed.1).freePacket removed.1)
    else queue.withList removed.2

/-- `xgl_reliable_clear`. -/
def clear (queue : QueueMemory) : QueueMemory :=
  { clearLoop queue.rounds queue with indexBuckets := fun _ => 0 }

/-! ### Extensions and timeouts -/

/-- Writing through a pointer to a packet. -/
def edit (queue : QueueMemory) (address : Nat) (update : ReliablePacket → ReliablePacket) :
    QueueMemory :=
  { queue with
    packets := Function.update queue.packets address (update (queue.packets address)) }

/-- `xgl_reliable_set_packet_extensions`. Extensions of length 0 stand for `NULL`; the
allocation has an answer. -/
def setPacketExtensions (queue : QueueMemory) (address : Nat) (extensions : Bytes)
    (answer : Nat) : XglError × QueueMemory :=
  let released := queue.edit address fun packet => { packet with extensions := [] }
  if extensions = [] then (.ok, released)
  else if answer = 0 then (.noMemory, released)
  else (.ok, released.edit address fun packet => { packet with extensions := extensions })

/-- The body of the loop of `xgl_reliable_process_timeouts`: the packet for the caller, 0 for
`NULL`, and the queue. `wanted` is whether the caller has room for one. -/
def timeoutPacket (wanted : Bool) (currentTimeMs : UInt32) (exhausted address : Nat)
    (queue : QueueMemory) : Nat × QueueMemory :=
  let packet := queue.packets address
  -- a packet that was never sent
  if packet.sendTimestamp = 0 then (exhausted, queue)
  else if currentTimeMs - packet.sendTimestamp ≥ packet.timeoutMs.toUInt32 then
    if packet.retryCount ≥ queue.maxRetryCount then
      -- the list first here, the other way round than in a removal
      let removed := queue.withList (xglListRemove queue.waitAckList queue.nodes address)
      let unindexed := removed.unindexPacket address
      -- the caller takes over one packet at most
      if wanted ∧ exhausted = 0 then
        (address, { unindexed with handed := address :: unindexed.handed })
      -- nobody wants it
      else (exhausted, unindexed.freePacket address)
    else
      let retryCount := packet.retryCount + 1
      (exhausted, queue.edit address fun packet =>
        { packet with
          retryCount := retryCount
          timeoutMs := xglReliableCalcBackoff packet.initialTimeoutMs retryCount
          sendTimestamp := currentTimeMs })
  else (exhausted, queue)

/-- The loop: `node` is at hand and `tmp` was read before the body ran. -/
def timeoutLoop (wanted : Bool) (currentTimeMs : UInt32) :
    Nat → Nat → Nat → Nat → QueueMemory → Nat × QueueMemory
  | 0, _, _, exhausted, queue => (exhausted, { queue with stuck := true })
  | rounds + 1, node, tmp, exhausted, queue =>
    if node = 0 then (exhausted, queue)
    else
      let out := timeoutPacket wanted currentTimeMs exhausted node queue
      timeoutLoop wanted currentTimeMs rounds tmp (if tmp ≠ 0 then out.2.nodes.next tmp else 0)
        out.1 out.2

/-- `xgl_reliable_process_timeouts`: the packet for the caller and the queue. -/
def processTimeouts (queue : QueueMemory) (currentTimeMs : UInt32) (wanted : Bool) :
    Nat × QueueMemory :=
  let head := queue.waitAckList.head
  timeoutLoop wanted currentTimeMs queue.rounds head
    (if head ≠ 0 then queue.nodes.next head else 0) 0 queue

/-! ### Runs -/

/-- A call of a user of the queue. Beside the calls of the source a user writes fields of a
packet it has a pointer to, and frees a packet that it was handed. -/
inductive Call where
  | add (data : Bytes) (sourceId targetId : UInt16) (packetNumber : UInt32)
    (dataType priority : UInt8) (timeoutMs : Int32) (answer dataAnswer : Nat)
  | remove (packetNumber : UInt32) (targetId : UInt16)
  | removeAckRanges (targetId : UInt16) (largestAck : UInt32) (ranges : List WireAckRange)
  | setPacketExtensions (address : Nat) (extensions : Bytes) (answer : Nat)
  | processTimeouts (currentTimeMs : UInt32) (wanted : Bool)
  | clear
  | edit (address : Nat) (update : ReliablePacket → ReliablePacket)
  | free (address : Nat)

/-- The queue after a call. -/
def step (queue : QueueMemory) : Call → QueueMemory
  | .add data sourceId targetId packetNumber dataType priority timeoutMs answer dataAnswer =>
    (queue.addPacketNumber data sourceId targetId packetNumber dataType priority timeoutMs answer
      dataAnswer).2
  | .remove packetNumber targetId => (queue.removePacketNumber packetNumber targetId).2
  | .removeAckRanges targetId largestAck ranges =>
    (queue.removeAckRanges targetId largestAck ranges).2
  | .setPacketExtensions address extensions answer =>
    (queue.setPacketExtensions address extensions answer).2
  | .processTimeouts currentTimeMs wanted => (queue.processTimeouts currentTimeMs wanted).2
  | .clear => queue.clear
  | .edit address update => queue.edit address update
  | .free address =>
    { queue.freePacket address with handed := queue.handed.erase address }

end QueueMemory

end XgenLink
