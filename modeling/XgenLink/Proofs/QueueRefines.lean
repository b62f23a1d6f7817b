import XgenLink.Lib.Run
import XgenLink.Proofs.QueueThreads

/-!
# `XgenLink.Proofs.QueueRefines`: the queue in memory refines the queue as a list

`XgenLink.Transport.Reliable` models the wait-ACK queue as a list of packets, and the
transport is modelled over that list. `XgenLink.Transport.ReliableMemory` models it as the
source keeps it: nodes with links, hash chains, allocations that fail, packets that are freed.
This module shows that the second does what the first says.

* `QueueRequest` and `QueueReply` are what a user of the queue can ask and what it gets. A
  packet is named by its number and target, since that is how the transport gets hold of one:
  it looks it up and writes through the pointer.
* `ReliableQueue.serve` answers from the list, `QueueMemory.serve` from memory.
* `view` reads the packets off the cells of the list. Each `_refines` lemma says that one
  operation commutes with it.
* `queue_refines_list`: in every run the two give the same replies and end with the same
  packets in the same order.

The two sides share the answers of the allocator, which are part of a request. On the list an
answer only decides whether the call succeeds. In memory it is the address.
-/

set_option autoImplicit false

namespace XgenLink

/-! ### What a user asks -/

/-- A call of a user. The transport holds no pointer to a packet from one call to the next, so
a packet is given by its number and target. The one exception is a packet that
`xgl_reliable_process_timeouts` handed out: it is out of the queue, and `free` gives its
memory back. -/
inductive QueueRequest where
  | add (data : Bytes) (sourceId targetId : UInt16) (packetNumber : UInt32)
    (dataType priority : UInt8) (timeoutMs : Int32) (answer dataAnswer : Nat)
  | find (packetNumber : UInt32) (targetId : UInt16)
  | update (packetNumber : UInt32) (targetId : UInt16) (write : ReliablePacket → ReliablePacket)
  | setPacketExtensions (packetNumber : UInt32) (targetId : UInt16) (extensions : Bytes)
    (answer : Nat)
  | remove (packetNumber : UInt32) (targetId : UInt16)
  | removeAckRanges (targetId : UInt16) (largestAck : UInt32) (ranges : List WireAckRange)
  | processTimeouts (currentTimeMs : UInt32) (wanted : Bool)
  | clear
  | free (address : Nat)

/-- What a call returns: an error code, a count, or a packet to look at, `none` for `NULL`. -/
inductive QueueReply where
  | status (error : XglError)
  | count (removed : Nat)
  | packet (found : Option ReliablePacket)
  deriving DecidableEq, Repr

/-! ### The queue as a list -/

/-- What `xgl_reliable_process_timeouts` makes of one packet: `none` when it is due and has no
retry left, and else the packet as it stays in the queue. -/
def timeoutOutcome (currentTimeMs : UInt32) (maxRetryCount : UInt8) (packet : ReliablePacket) :
    Option ReliablePacket :=
  if packet.sendTimestamp = 0 then some packet
  else if currentTimeMs - packet.sendTimestamp ≥ packet.timeoutMs.toUInt32 then
    if packet.retryCount ≥ maxRetryCount then none
    else some
      { packet with
        retryCount := packet.retryCount + 1
        timeoutMs := xglReliableCalcBackoff packet.initialTimeoutMs (packet.retryCount + 1)
        sendTimestamp := currentTimeMs }
  else some packet

/-- A call never changes the number or the target of a packet. -/
theorem timeoutOutcome_key {currentTimeMs : UInt32} {maxRetryCount : UInt8}
    {packet kept : ReliablePacket}
    (h : timeoutOutcome currentTimeMs maxRetryCount packet = some kept) :
    kept.packetNumber = packet.packetNumber ∧ kept.targetId = packet.targetId := by
  unfold timeoutOutcome at h
  split at h
  · cases h
    exact ⟨rfl, rfl⟩
  split at h
  · split at h
    · cases h
    · cases h
      exact ⟨rfl, rfl⟩
  · cases h
    exact ⟨rfl, rfl⟩

namespace ReliableQueue

/-- `xgl_reliable_add_packet_number` on the list. -/
def add (queue : ReliableQueue) (data : Bytes) (sourceId targetId : UInt16)
    (packetNumber : UInt32) (dataType priority : UInt8) (timeoutMs : Int32)
    (answer dataAnswer : Nat) : XglError × ReliableQueue :=
  if data = [] then (.invalidParam, queue)
  else if answer = 0 ∨ dataAnswer = 0 then (.noMemory, queue)
  else
    (.ok, reliableAppend queue
      { data := data, sourceId := sourceId, targetId := targetId, packetNumber := packetNumber,
        dataType := dataType, priority := priority, timeoutMs := timeoutMs,
        initialTimeoutMs := timeoutMs })

/-- `xgl_reliable_process_timeouts` on the list: the packets without a retry leave it, and the
first of them is for the caller when it wants one. -/
def processTimeouts (queue : ReliableQueue) (currentTimeMs : UInt32) (wanted : Bool) :
    Option ReliablePacket × ReliableQueue :=
  (if wanted then queue.waitAckList.find? fun packet =>
      (timeoutOutcome currentTimeMs queue.maxRetryCount packet).isNone
    else none,
    { queue with
      waitAckList :=
        queue.waitAckList.filterMap (timeoutOutcome currentTimeMs queue.maxRetryCount) })

/-- A request answered from the list. -/
def serve (queue : ReliableQueue) : QueueRequest → ReliableQueue × List QueueReply
  | .add data sourceId targetId packetNumber dataType priority timeoutMs answer dataAnswer =>
    let out := queue.add data sourceId targetId packetNumber dataType priority timeoutMs answer
      dataAnswer
    (out.2, [.status out.1])
  | .find packetNumber targetId =>
    (queue, [.packet (xglReliableFindPacketNumber queue packetNumber targetId)])
  | .update packetNumber targetId write =>
    (reliableUpdate queue packetNumber targetId write,
      [.packet (xglReliableFindPacketNumber queue packetNumber targetId)])
  | .setPacketExtensions packetNumber targetId extensions answer =>
    if (xglReliableFindPacketNumber queue packetNumber targetId).isNone then
      (queue, [.status .nullPointer])
    else
      (reliableUpdate queue packetNumber targetId fun packet =>
          { packet with extensions := if answer = 0 then [] else extensions },
        [.status (if extensions = [] then .ok else if answer = 0 then .noMemory else .ok)])
  | .remove packetNumber targetId =>
    let out := xglReliableRemovePacketNumber queue packetNumber targetId
    (out.2, [.status (if out.1 then .ok else .sequenceError)])
  | .removeAckRanges targetId largestAck ranges =>
    let out := xglReliableRemoveAckRanges queue targetId largestAck ranges
    (out.2, [.count out.1])
  | .processTimeouts currentTimeMs wanted =>
    let out := queue.processTimeouts currentTimeMs wanted
    (out.2, [.packet out.1])
  | .clear => (xglReliableClear queue, [])
  | .free _ => (queue, [])

end ReliableQueue

namespace QueueMemory

/-! ### The queue in memory -/

/-- What a pointer points to. -/
def pointed (queue : QueueMemory) (address : Nat) : Option ReliablePacket :=
  if address = 0 then none else some (queue.packets address)

/-- A lookup, and what is done with the pointer it returns. -/
def withPacket (queue : QueueMemory) (packetNumber : UInt32) (targetId : UInt16)
    (use : Nat → QueueMemory × List QueueReply) : QueueMemory × List QueueReply :=
  (queue.findPacketNumber packetNumber targetId).elim ({ queue with stuck := true }, []) use

/-- A request answered from memory. -/
def serve (queue : QueueMemory) : QueueRequest → QueueMemory × List QueueReply
  | .add data sourceId targetId packetNumber dataType priority timeoutMs answer dataAnswer =>
    let out := queue.addPacketNumber data sourceId targetId packetNumber dataType priority
      timeoutMs answer dataAnswer
    (out.2, [.status out.1])
  | .find packetNumber targetId =>
    queue.withPacket packetNumber targetId fun address =>
      (queue, [.packet (queue.pointed address)])
  | .update packetNumber targetId write =>
    queue.withPacket packetNumber targetId fun address =>
      (if address = 0 then queue else queue.edit address write,
        [.packet (queue.pointed address)])
  | .setPacketExtensions packetNumber targetId extensions answer =>
    queue.withPacket packetNumber targetId fun address =>
      -- the source checks the pointer first
      if address = 0 then (queue, [.status .nullPointer])
      else
        let out := queue.setPacketExtensions address extensions answer
        (out.2, [.status out.1])
  | .remove packetNumber targetId =>
    let out := queue.removePacketNumber packetNumber targetId
    (out.2, [.status out.1])
  | .removeAckRanges targetId largestAck ranges =>
    let out := queue.removeAckRanges targetId largestAck ranges
    (out.2, [.count out.1])
  | .processTimeouts currentTimeMs wanted =>
    let out := queue.processTimeouts currentTimeMs wanted
    (out.2, [.packet (out.2.pointed out.1)])
  | .clear => (queue.clear, [])
  | .free address => ({ queue.freePacket address with handed := queue.handed.erase address }, [])

/-- The cells from an address on, as far as some rounds reach. -/
def cellsFrom (next : Nat → Nat) : Nat → Nat → List Nat
  | 0, _ => []
  | rounds + 1, current =>
    if current = 0 then [] else current :: cellsFrom next rounds (next current)

/-- The packets of the wait-ACK list, in order, read off its nodes. -/
def contents (queue : QueueMemory) : List ReliablePacket :=
  (cellsFrom queue.nodes.next queue.rounds queue.waitAckList.head).map queue.packets

/-- The allocator serves addresses that are not in use, a user writes no key of a packet, and
frees only packets it was handed. -/
def ProperRequest (queue : QueueMemory) : QueueRequest → Prop
  | .add _ _ _ _ _ _ _ answer _ => answer ≠ 0 → answer ∉ queue.live
  | .update _ _ write => ∀ packet, (write packet).packetNumber = packet.packetNumber
      ∧ (write packet).targetId = packet.targetId
  | .free address => address ∈ queue.handed
  | _ => True

/-! ### The list in the memory -/

variable {queue : QueueMemory} {cells before after : List Nat} {a : Nat}
  {packetNumber : UInt32} {targetId : UInt16}

/-- The queue as a list of packets. -/
def view (queue : QueueMemory) (cells : List Nat) : ReliableQueue :=
  { waitAckList := cells.map queue.packets, maxRetryCount := queue.maxRetryCount }

/-- The view is made of the packets of the cells. -/
theorem view_congr {queue' : QueueMemory}
    (hpackets : ∀ b ∈ cells, queue'.packets b = queue.packets b)
    (hretry : queue'.maxRetryCount = queue.maxRetryCount) :
    view queue' cells = view queue cells := by
  rw [view, view, hretry, List.map_congr_left hpackets]

/-- Enough rounds reach the end of the list. -/
theorem cellsFrom_eq {next : Nat → Nat} {rounds head : Nat} (h : Chained 0 next head cells)
    (hrounds : cells.length < rounds) : cellsFrom next rounds head = cells := by
  induction cells generalizing rounds head with
  | nil =>
    cases rounds with
    | zero => rfl
    | succ rounds => exact if_pos h
  | cons b rest ih =>
    obtain ⟨rfl, hne, hrest⟩ := h
    cases rounds with
    | zero => exact absurd hrounds (Nat.not_lt_zero _)
    | succ rounds =>
      rw [cellsFrom, if_neg hne, ih hrest (Nat.lt_of_succ_lt_succ hrounds)]

/-- The packets read off the nodes are those of the view. -/
theorem Threaded.contents_eq (h : Threaded queue cells) :
    queue.contents = (view queue cells).waitAckList := by
  rw [contents, cellsFrom_eq h.listed.next h.length_lt]
  rfl

/-! ### Adding -/

/-- Adding commutes with the view, with both allocations failing or not. A packet whose data
got no buffer is freed again before it is in the list. -/
theorem Threaded.addPacketNumber_refines (h : Threaded queue cells) {data : Bytes}
    {sourceId : UInt16} {dataType priority : UInt8} {timeoutMs : Int32}
    {answer dataAnswer : Nat} (hfresh : answer ≠ 0 → answer ∉ queue.live) :
    ∃ cells', Threaded (queue.addPacketNumber data sourceId targetId packetNumber dataType priority
        timeoutMs answer dataAnswer).2 cells' ∧
      ((queue.addPacketNumber data sourceId targetId packetNumber dataType priority timeoutMs
          answer dataAnswer).1,
        view (queue.addPacketNumber data sourceId targetId packetNumber dataType priority
          timeoutMs answer dataAnswer).2 cells')
        = (view queue cells).add data sourceId targetId packetNumber dataType priority timeoutMs
          answer dataAnswer := by
  rw [QueueMemory.addPacketNumber, ReliableQueue.add]
  by_cases hdata : data = []
  · rw [if_pos hdata, if_pos hdata]
    exact ⟨cells, h, rfl⟩
  rw [if_neg hdata, if_neg hdata]
  by_cases hanswer : answer = 0
  · rw [if_pos hanswer, if_pos (.inl hanswer)]
    exact ⟨cells, h, rfl⟩
  rw [if_neg hanswer]
  have hnew := hfresh hanswer
  have hcell : answer ∉ cells := fun hin => hnew (h.live answer hin)
  have hhanded : answer ∉ queue.handed := fun hin => hnew (h.handed answer hin).1
  have hne : ∀ b ∈ cells, b ≠ answer := fun b hb heq => hcell (heq ▸ hb)
  by_cases hdataAnswer : dataAnswer = 0
  · simp only [hdataAnswer, or_true, if_true]
    refine ⟨cells, (h.allocate hnew _).free hcell hhanded, congrArg _ (view_congr ?_ rfl)⟩
    intro b hb
    exact (Function.update_of_ne (hne b hb) _ _).trans (Function.update_of_ne (hne b hb) _ _)
  · simp only [hanswer, hdataAnswer, or_self, if_false]
    refine ⟨cells ++ [answer],
      (h.allocate hnew _).attach List.mem_cons_self hanswer hcell hhanded, congrArg _ ?_⟩
    rw [view, reliableAppend, view, List.map_append]
    refine congr (congrArg ReliableQueue.mk (congrArg₂ _ ?_ ?_)) rfl
    · exact List.map_congr_left fun b hb => Function.update_of_ne (hne b hb) _ _
    · exact congrArg (· :: []) (Function.update_self _ _ _)

/-! ### Looking up -/

/-- A lookup in memory finds the packet that the search of the list finds. -/
theorem Threaded.findPacketNumber_refines (h : Threaded queue cells) (packetNumber : UInt32)
    (targetId : UInt16) :
    ∃ found, queue.findPacketNumber packetNumber targetId = some found ∧
      queue.pointed found = xglReliableFindPacketNumber (view queue cells) packetNumber targetId
      := by
  rw [xglReliableFindPacketNumber, view, ← List.map_reverse, List.find?_map]
  rcases h.find_split packetNumber targetId with
    ⟨hfind, hnone⟩ | ⟨older, found, newer, rfl, hne, hfind, hfits, hnewer⟩
  · refine ⟨0, hfind, ?_⟩
    rw [pointed, if_pos rfl, List.find?_eq_none.mpr]
    · rfl
    · intro b hb
      exact Bool.eq_false_iff.mp (hnone b (List.mem_reverse.mp hb))
  · refine ⟨found, hfind, ?_⟩
    have hfirst : ((fun packet => packet.isFor packetNumber targetId) ∘ queue.packets) found
        = true := hfits
    rw [pointed, if_neg hne, List.reverse_append, List.reverse_cons, List.append_assoc,
      List.singleton_append, List.find?_append, List.find?_eq_none.mpr, Option.none_or,
      List.find?_cons_of_pos hfirst]
    · rfl
    · intro b hb
      exact Bool.eq_false_iff.mp (hnewer b (List.mem_reverse.mp hb))

/-- Nothing to write to. -/
theorem updateFirst_none {test : ReliablePacket → Bool} {write : ReliablePacket → ReliablePacket}
    {packets : List ReliablePacket} (h : ∀ packet ∈ packets, test packet = false) :
    updateFirst test write packets = packets := by
  induction packets with
  | nil => rfl
  | cons packet rest ih =>
    rw [updateFirst, h packet List.mem_cons_self, if_neg Bool.false_ne_true,
      ih fun other hother => h other (List.mem_cons_of_mem _ hother)]

/-- Writing to the first packet that passes the test. -/
theorem updateFirst_append {test : ReliablePacket → Bool}
    {write : ReliablePacket → ReliablePacket} {front rest : List ReliablePacket}
    {packet : ReliablePacket} (hfront : ∀ other ∈ front, test other = false)
    (hpacket : test packet = true) :
    updateFirst test write (front ++ packet :: rest) = front ++ write packet :: rest := by
  induction front with
  | nil => rw [List.nil_append, updateFirst, if_pos hpacket, List.nil_append]
  | cons other front ih =>
    rw [List.cons_append, updateFirst, hfront other List.mem_cons_self,
      if_neg Bool.false_ne_true, ih fun one hone => hfront one (List.mem_cons_of_mem _ hone),
      List.cons_append]

/-- Writing through the pointer of a lookup is writing to the packet the search finds. -/
theorem Threaded.edit_refines (h : Threaded queue (before ++ a :: after))
    (hfits : (queue.packets a).isFor packetNumber targetId = true)
    (hafter : ∀ b ∈ after, (queue.packets b).isFor packetNumber targetId = false)
    (write : ReliablePacket → ReliablePacket) :
    view (queue.edit a write) (before ++ a :: after)
      = reliableUpdate (view queue (before ++ a :: after)) packetNumber targetId write := by
  have hcell : a ∉ before ++ after := (List.nodup_middle.mp h.nodup).notMem
  have hne : ∀ b ∈ before ++ after, b ≠ a := fun b hb heq => hcell (heq ▸ hb)
  have hother : ∀ b ∈ before ++ after, (queue.edit a write).packets b = queue.packets b :=
    fun b hb => Function.update_of_ne (hne b hb) _ _
  have hself : (queue.edit a write).packets a = write (queue.packets a) :=
    Function.update_self _ _ _
  have hnewer : ∀ packet ∈ (after.map queue.packets).reverse,
      packet.isFor packetNumber targetId = false := by
    intro packet hpacket
    obtain ⟨b, hb, rfl⟩ := List.mem_map.mp (List.mem_reverse.mp hpacket)
    exact hafter b hb
  rw [reliableUpdate, view, view, List.map_append, List.map_append, List.map_cons, List.map_cons,
    List.reverse_append, List.reverse_cons, List.append_assoc, List.singleton_append,
    updateFirst_append hnewer hfits, List.reverse_append, List.reverse_cons,
    List.reverse_reverse, List.reverse_reverse, List.append_assoc, List.singleton_append, hself,
    List.map_congr_left fun b hb => hother b (List.mem_append_left _ hb),
    List.map_congr_left fun b hb => hother b (List.mem_append_right _ hb)]
  rfl

/-- When no packet fits there is none to write to. -/
theorem reliableUpdate_none (hnone : ∀ b ∈ cells,
      (queue.packets b).isFor packetNumber targetId = false)
    (write : ReliablePacket → ReliablePacket) :
    reliableUpdate (view queue cells) packetNumber targetId write = view queue cells := by
  rw [reliableUpdate, view, updateFirst_none, List.reverse_reverse]
  intro packet hpacket
  obtain ⟨b, hb, rfl⟩ := List.mem_map.mp (List.mem_reverse.mp hpacket)
  exact hnone b hb

/-- What `xgl_reliable_set_packet_extensions` does: the packet ends up with the extensions, or
with none when their buffer was refused. -/
theorem setPacketExtensions_eq (queue : QueueMemory) (address : Nat) (extensions : Bytes)
    (answer : Nat) :
    queue.setPacketExtensions address extensions answer
      = (if extensions = [] then .ok else if answer = 0 then .noMemory else .ok,
        queue.edit address fun packet =>
          { packet with extensions := if answer = 0 then [] else extensions }) := by
  rw [QueueMemory.setPacketExtensions]
  by_cases hnone : extensions = []
  · rw [if_pos hnone, if_pos hnone, hnone]
    simp only [ite_self]
  rw [if_neg hnone, if_neg hnone]
  by_cases hanswer : answer = 0
  · rw [if_pos hanswer, if_pos hanswer]
    simp only [hanswer, if_true]
  · rw [if_neg hanswer, if_neg hanswer]
    simp only [edit, hanswer, if_false, Function.update_idem, Function.update_self]

/-! ### Removing -/

/-- Taking the last packet that fits out of a list of cells. -/
theorem reliableUnlink_map (hfits : (queue.packets a).isFor packetNumber targetId = true)
    (hafter : ∀ b ∈ after, (queue.packets b).isFor packetNumber targetId = false) :
    reliableUnlink packetNumber targetId ((before ++ a :: after).map queue.packets)
      = (before ++ after).map queue.packets := by
  have hnone : ∀ packet ∈ (after.map queue.packets).reverse,
      ¬ packet.isFor packetNumber targetId = true := by
    intro packet hpacket
    obtain ⟨b, hb, rfl⟩ := List.mem_map.mp (List.mem_reverse.mp hpacket)
    rw [hafter b hb]
    exact Bool.false_ne_true
  have herase : List.eraseP (fun packet => packet.isFor packetNumber targetId)
      (queue.packets a :: (before.map queue.packets).reverse)
        = (before.map queue.packets).reverse :=
    List.eraseP_cons_of_pos hfits
  rw [reliableUnlink, List.map_append, List.map_cons, List.reverse_append, List.reverse_cons,
    List.append_assoc, List.singleton_append, List.eraseP_append_right _ hnone, herase,
    List.reverse_append, List.reverse_reverse, List.reverse_reverse, List.map_append]

/-- Nothing to take out. -/
theorem reliableUnlink_none {packets : List ReliablePacket}
    (h : ∀ packet ∈ packets, packet.isFor packetNumber targetId = false) :
    reliableUnlink packetNumber targetId packets = packets := by
  have hnone : ∀ packet ∈ packets.reverse, ¬ packet.isFor packetNumber targetId = true := by
    intro packet hpacket
    rw [h packet (List.mem_reverse.mp hpacket)]
    exact Bool.false_ne_true
  rw [reliableUnlink, List.eraseP_of_forall_not hnone, List.reverse_reverse]

/-- A removal in memory is a removal from the list. -/
theorem Threaded.removePacketNumber_refines (h : Threaded queue cells) (packetNumber : UInt32)
    (targetId : UInt16) :
    ∃ cells', Threaded (queue.removePacketNumber packetNumber targetId).2 cells'
      ∧ (queue.removePacketNumber packetNumber targetId).1
        = (if (xglReliableRemovePacketNumber (view queue cells) packetNumber targetId).1
            then .ok else .sequenceError)
      ∧ view (queue.removePacketNumber packetNumber targetId).2 cells'
        = (xglReliableRemovePacketNumber (view queue cells) packetNumber targetId).2 := by
  obtain ⟨found, hfind, hpointed⟩ := h.findPacketNumber_refines packetNumber targetId
  rw [xglReliableRemovePacketNumber, ← hpointed, QueueMemory.removePacketNumber, hfind]
  rcases h.find_split packetNumber targetId with
    ⟨hzero, hnone⟩ | ⟨older, address, newer, rfl, hne, hsome, hfits, hnewer⟩
  · obtain rfl : found = 0 := Option.some.inj (hfind.symm.trans hzero)
    have hkept : ∀ packet ∈ (view queue cells).waitAckList,
        packet.isFor packetNumber targetId = false := by
      intro packet hpacket
      obtain ⟨b, hb, rfl⟩ := List.mem_map.mp hpacket
      exact hnone b hb
    simp only [ne_eq, not_true_eq_false, if_false, reliableUnlink_none hkept, pointed, if_true,
      Option.isSome_none, Bool.false_eq_true]
    exact ⟨cells, h, trivial, rfl⟩
  · obtain rfl : found = address := Option.some.inj (hfind.symm.trans hsome)
    obtain ⟨detached, heq, _, hthreaded, hpackets, hretry⟩ := h.detach_free
    simp only [ne_eq, hne, not_false_eq_true, if_true, if_false, heq, pointed, Option.isSome_some]
    refine ⟨_, hthreaded, trivial, ?_⟩
    rw [view_congr hpackets hretry, view, view, reliableUnlink_map hfits hnewer]

/-- So is a removal of acknowledged ranges. -/
theorem Threaded.removeAckRanges_refines (h : Threaded queue cells) (targetId : UInt16)
    (largestAck : UInt32) (ranges : List WireAckRange) :
    ∃ cells', Threaded (queue.removeAckRanges targetId largestAck ranges).2 cells'
      ∧ ((queue.removeAckRanges targetId largestAck ranges).1,
          view (queue.removeAckRanges targetId largestAck ranges).2 cells')
        = xglReliableRemoveAckRanges (view queue cells) targetId largestAck ranges := by
  rw [QueueMemory.removeAckRanges, xglReliableRemoveAckRanges]
  generalize ackRangeNumbers true largestAck.toNat ranges = numbers
  generalize (0 : Nat) = removed
  -- the induction is on the numbers in the order they are visited
  induction numbers generalizing queue cells removed with
  | nil => exact ⟨cells, h, rfl⟩
  | cons packetNumber rest ih =>
    obtain ⟨cells', hthreaded, hresult, hview⟩ := h.removePacketNumber_refines packetNumber targetId
    have hcount : (if (queue.removePacketNumber packetNumber targetId).1 = .ok
        then removed + 1 else removed)
        = if (xglReliableRemovePacketNumber (view queue cells) packetNumber targetId).1 = true
          then removed + 1 else removed := by
      rw [hresult]
      cases (xglReliableRemovePacketNumber (view queue cells) packetNumber targetId).1 <;> rfl
    rw [List.foldl_cons, reliableRemoveNumbers, ← hview, ← hcount]
    exact ih hthreaded _

/-! ### Clearing -/

/-- The loop of `xgl_reliable_clear` frees the cells from the first to the last. -/
theorem Threaded.clearLoop (h : Threaded queue cells) {rounds : Nat}
    (hrounds : cells.length < rounds) :
    Threaded (QueueMemory.clearLoop rounds queue) [] ∧
      (QueueMemory.clearLoop rounds queue).maxRetryCount = queue.maxRetryCount := by
  induction cells generalizing queue rounds with
  | nil =>
    cases rounds with
    | zero => exact absurd hrounds (Nat.not_lt_zero _)
    | succ rounds =>
      rw [QueueMemory.clearLoop, h.listed.removeHead_nil]
      exact ⟨h, rfl⟩
  | cons a rest ih =>
    cases rounds with
    | zero => exact absurd hrounds (Nat.not_lt_zero _)
    | succ rounds =>
      obtain ⟨hhead, hne, _⟩ := h.listed.next
      have hsome : queue.waitAckList.head ≠ 0 := hhead.symm ▸ hne
      obtain ⟨detached, _, heq, hthreaded, _, hretry⟩ := @detach_free queue [] rest a h
      rw [QueueMemory.clearLoop, xglListRemoveHead, if_neg hsome]
      simp only [hhead, ne_eq, hne, not_false_eq_true, if_true, heq]
      obtain ⟨hempty, hkept⟩ := ih hthreaded (Nat.lt_of_succ_lt_succ hrounds)
      exact ⟨hempty, hkept.trans hretry⟩

/-- Clearing leaves the empty list. -/
theorem Threaded.clear_refines (h : Threaded queue cells) :
    Threaded queue.clear [] ∧ view queue.clear [] = xglReliableClear (view queue cells) := by
  obtain ⟨hcleared, hretry⟩ := h.clearLoop h.length_lt
  refine ⟨?_, ?_⟩
  · exact
      { listed := hcleared.listed
        indexed := fun _ => rfl
        live := hcleared.live
        handed := hcleared.handed
        liveNodup := hcleared.liveNodup
        handedNodup := hcleared.handedNodup
        running := hcleared.running }
  · exact congrArg (ReliableQueue.mk []) hretry

/-! ### Timeouts -/

section Timeouts

variable {wanted : Bool} {currentTimeMs : UInt32} {exhausted : Nat}

/-- A packet that stays in the queue is written in its place. -/
theorem timeoutPacket_kept {kept : ReliablePacket}
    (h : timeoutOutcome currentTimeMs queue.maxRetryCount (queue.packets a) = some kept) :
    QueueMemory.timeoutPacket wanted currentTimeMs exhausted a queue
      = (exhausted, queue.edit a fun _ => kept) := by
  have hsame : queue.edit a (fun _ => queue.packets a) = queue := by
    rw [edit, Function.update_eq_self]
  rw [QueueMemory.timeoutPacket]
  unfold timeoutOutcome at h
  by_cases hsent : (queue.packets a).sendTimestamp = 0
  · rw [if_pos hsent] at h
    cases h
    simp only [hsent, if_true, hsame]
  rw [if_neg hsent] at h
  by_cases hdue : currentTimeMs - (queue.packets a).sendTimestamp
      ≥ (queue.packets a).timeoutMs.toUInt32
  · rw [if_pos hdue] at h
    by_cases hretry : (queue.packets a).retryCount ≥ queue.maxRetryCount
    · rw [if_pos hretry] at h
      cases h
    · rw [if_neg hretry] at h
      cases h
      simp only [hsent, hdue, hretry, if_true, if_false]
      rfl
  · rw [if_neg hdue] at h
    cases h
    simp only [hsent, hdue, if_false, hsame]

/-- A packet without a retry left is taken out of both structures, and handed to the caller or
freed. -/
theorem timeoutPacket_gone
    (h : timeoutOutcome currentTimeMs queue.maxRetryCount (queue.packets a) = none) :
    QueueMemory.timeoutPacket wanted currentTimeMs exhausted a queue
      = let detached := (queue.withList
          (xglListRemove queue.waitAckList queue.nodes a)).unindexPacket a
        if wanted ∧ exhausted = 0 then
          (a, { detached with handed := a :: detached.handed })
        else (exhausted, detached.freePacket a) := by
  unfold timeoutOutcome at h
  rw [QueueMemory.timeoutPacket]
  by_cases hsent : (queue.packets a).sendTimestamp = 0
  · rw [if_pos hsent] at h
    cases h
  rw [if_neg hsent] at h
  by_cases hdue : currentTimeMs - (queue.packets a).sendTimestamp
      ≥ (queue.packets a).timeoutMs.toUInt32
  · rw [if_pos hdue] at h
    by_cases hretry : (queue.packets a).retryCount ≥ queue.maxRetryCount
    · simp only [hsent, hdue, hretry, if_true, if_false]
    · rw [if_neg hretry] at h
      cases h
  · rw [if_neg hdue] at h
    cases h

/-- One round of the loop: what it leaves of the packet at hand is in its place, no other
packet has changed, and the caller's packet is the one it had, or this one. -/
theorem Threaded.timeoutPacket_refines (h : Threaded queue (before ++ a :: after))
    (hexhausted : exhausted = 0 ∨ exhausted ∈ queue.handed) :
    let out := QueueMemory.timeoutPacket wanted currentTimeMs exhausted a queue
    let outcome := timeoutOutcome currentTimeMs queue.maxRetryCount (queue.packets a)
    ∃ seen, Threaded out.2 ((before ++ seen) ++ after) ∧
      seen.map out.2.packets = outcome.toList ∧
      (∀ b ∈ before ++ after, out.2.packets b = queue.packets b) ∧
      out.2.maxRetryCount = queue.maxRetryCount ∧
      (out.1 = 0 ∨ out.1 ∈ out.2.handed) ∧
      out.2.pointed out.1 = (queue.pointed exhausted).or
        (if wanted ∧ outcome.isNone then some (queue.packets a) else none) := by
  have hcell : a ∉ before ++ after := (List.nodup_middle.mp h.nodup).notMem
  have hmem : a ∈ before ++ a :: after := List.mem_append_right _ List.mem_cons_self
  have hne : ∀ b ∈ before ++ after, b ≠ a := fun b hb heq => hcell (heq ▸ hb)
  have hcaller : exhausted = 0 ∨ exhausted ≠ a :=
    hexhausted.imp_right fun hin heq => (h.handed a (heq ▸ hin)).2 hmem
  -- what the caller was handed before is not touched
  have hpointed : ∀ queue' : QueueMemory,
      (∀ b, b ≠ a → queue'.packets b = queue.packets b) →
      queue'.pointed exhausted = queue.pointed exhausted := by
    intro queue' hothers
    unfold pointed
    rcases hcaller with hzero | hother
    · rw [if_pos hzero, if_pos hzero]
    · rw [hothers exhausted hother]
  -- the packet stays in the queue, or it has no retry left
  cases houtcome : timeoutOutcome currentTimeMs queue.maxRetryCount (queue.packets a) with
  | some kept =>
    simp only [timeoutPacket_kept houtcome]
    have hothers : ∀ b, b ≠ a → (queue.edit a fun _ => kept).packets b = queue.packets b :=
      fun b hb => Function.update_of_ne hb _ _
    refine ⟨[a], ?_, ?_, fun b hb => hothers b (hne b hb), rfl, hexhausted, ?_⟩
    · rw [List.append_assoc, List.singleton_append]
      exact h.edit (timeoutOutcome_key houtcome)
    · exact congrArg (· :: []) (Function.update_self _ _ _)
    · rw [hpointed _ hothers, if_neg (fun hboth => Bool.false_ne_true hboth.2), Option.or_none]
  | none =>
    rw [timeoutPacket_gone houtcome]
    obtain ⟨detached, _, heq, hthreaded, hlive, hhanded, hpackets, hretry⟩ := h.detach
    have hnotHanded : a ∉ detached.handed := by
      rw [hhanded]
      exact fun hin => (h.handed a hin).2 hmem
    rw [← List.append_nil before] at hthreaded
    simp only [heq, Option.isNone_none, and_true]
    -- the caller wants a packet and has none yet
    by_cases hwanted : wanted = true ∧ exhausted = 0
    · obtain ⟨hwanted, rfl⟩ := hwanted
      have hnonzero : a ≠ 0 := h.listed.next.ne_null hmem
      simp only [hwanted, true_and, if_true]
      refine ⟨[], hthreaded.hand (hlive.symm ▸ h.live a hmem)
        (by rwa [List.append_nil]) hnotHanded, rfl, fun b _ => congrFun hpackets b, hretry,
        .inr List.mem_cons_self, ?_⟩
      rw [pointed, if_neg hnonzero, pointed, if_pos rfl, Option.none_or, hpackets]
    · simp only [hwanted, if_false]
      have hothers : ∀ b, b ≠ a → (detached.freePacket a).packets b = queue.packets b :=
        fun b hb => (Function.update_of_ne hb _ _).trans (congrFun hpackets b)
      refine ⟨[], hthreaded.free (by rwa [List.append_nil]) hnotHanded, rfl,
        fun b hb => hothers b (hne b hb), hretry, ?_, ?_⟩
      · exact hexhausted.imp_right fun hin => show exhausted ∈ detached.handed from hhanded ▸ hin
      · rw [hpointed _ hothers]
        by_cases hwants : wanted = true
        · have hnonzero : exhausted ≠ 0 := fun hzero => hwanted ⟨hwants, hzero⟩
          rw [pointed, if_neg hnonzero, Option.some_or]
        · rw [if_neg hwants, Option.or_none]

/-- The loop of `xgl_reliable_process_timeouts`, with the cells that were seen and those to
come. The induction is on the cells to come, and `tmp` is the one after the next: it was read
before the body of the loop could free the cell at hand. -/
theorem Threaded.timeoutLoop_refines {rounds node tmp : Nat}
    (h : Threaded queue (before ++ after)) (hrounds : after.length < rounds)
    (hnode : node = after.headD 0) (htmp : tmp = after.tail.headD 0)
    (hexhausted : exhausted = 0 ∨ exhausted ∈ queue.handed) :
    let out := QueueMemory.timeoutLoop wanted currentTimeMs rounds node tmp exhausted queue
    let outcome := timeoutOutcome currentTimeMs queue.maxRetryCount
    ∃ kept, Threaded out.2 (before ++ kept) ∧
      kept.map out.2.packets = (after.map queue.packets).filterMap outcome ∧
      (∀ b ∈ before, out.2.packets b = queue.packets b) ∧
      out.2.maxRetryCount = queue.maxRetryCount ∧
      out.2.pointed out.1 = (queue.pointed exhausted).or
        (if wanted then (after.map queue.packets).find? fun packet => (outcome packet).isNone
          else none) := by
  induction after generalizing before queue rounds node tmp exhausted with
  | nil =>
    -- more rounds are left than cells to come, so one is
    cases rounds with
    | zero => exact absurd hrounds (Nat.not_lt_zero _)
    | succ rounds =>
      have hnull : node = 0 := hnode
      rw [QueueMemory.timeoutLoop, if_pos hnull]
      exact ⟨[], h, rfl, fun _ _ => rfl, rfl, by simp⟩
  | cons a rest ih =>
    cases rounds with
    | zero => exact absurd hrounds (Nat.not_lt_zero _)
    | succ rounds =>
      have hcell : node = a := hnode
      have hnext : tmp = rest.headD 0 := htmp
      have hne : a ≠ 0 :=
        h.listed.next.ne_null (List.mem_append_right _ List.mem_cons_self)
      subst hcell
      rw [QueueMemory.timeoutLoop, if_neg hne]
      obtain ⟨seen, hseen, hmap, hothers, hretry, hcaller, hpointed⟩ :=
        @Threaded.timeoutPacket_refines queue before rest node wanted currentTimeMs exhausted h
          hexhausted
      generalize hround : QueueMemory.timeoutPacket wanted currentTimeMs exhausted node queue
        = round at hseen hmap hothers hretry hcaller hpointed ⊢
      dsimp only at hmap hpointed ⊢
      -- the next cell is still in the list, so its link leads to the one behind it
      have hbehind : (if tmp ≠ 0 then round.2.nodes.next tmp else 0) = rest.tail.headD 0 := by
        cases rest with
        | nil => exact if_neg (not_not.mpr hnext)
        | cons b rest =>
          have hb : tmp = b := hnext
          subst hb
          have hbne : tmp ≠ 0 :=
            hseen.listed.next.ne_null (List.mem_append_right _ List.mem_cons_self)
          rw [if_pos hbne]
          exact hseen.listed.next.next_eq
      obtain ⟨kept, hthreaded, hkept, hbefore, hlimit, hlast⟩ :=
        ih hseen (Nat.lt_of_succ_lt_succ hrounds) hnext hbehind hcaller
      have hrest : rest.map round.2.packets = rest.map queue.packets :=
        List.map_congr_left fun b hb => hothers b (List.mem_append_right _ hb)
      rw [hretry, hrest] at hkept hlast
      refine ⟨seen ++ kept, by rwa [← List.append_assoc], ?_, fun b hb => ?_,
        hlimit.trans hretry, ?_⟩
      · have hseenKept := List.map_congr_left fun b hb =>
          hbefore b (List.mem_append_right before hb)
        rw [List.map_append, hkept, hseenKept, hmap, List.map_cons, List.filterMap_cons]
        cases timeoutOutcome currentTimeMs queue.maxRetryCount (queue.packets node) <;> rfl
      · exact (hbefore b (List.mem_append_left _ hb)).trans
          (hothers b (List.mem_append_left _ hb))
      · rw [hlast, hpointed, Option.or_assoc, List.map_cons, List.find?_cons]
        cases wanted with
        | false => simp
        | true =>
          cases houtcome :
            (timeoutOutcome currentTimeMs queue.maxRetryCount (queue.packets node)).isNone <;> simp

end Timeouts

/-- The timeouts of the queue in memory are those of the list, and the pointer that the caller
gets leads to the packet that the list gives it. -/
theorem Threaded.processTimeouts_refines (h : Threaded queue cells) (currentTimeMs : UInt32)
    (wanted : Bool) :
    ∃ cells', Threaded (queue.processTimeouts currentTimeMs wanted).2 cells' ∧
      ((queue.processTimeouts currentTimeMs wanted).2.pointed
          (queue.processTimeouts currentTimeMs wanted).1,
        view (queue.processTimeouts currentTimeMs wanted).2 cells')
        = (view queue cells).processTimeouts currentTimeMs wanted := by
  have hhead := h.listed.next.head_eq
  have hsecond : (if queue.waitAckList.head ≠ 0 then queue.nodes.next queue.waitAckList.head
      else 0) = cells.tail.headD 0 := by
    cases cells with
    | nil => exact if_neg (not_not.mpr hhead)
    | cons a rest =>
      have ha : queue.waitAckList.head = a := hhead
      have hne : a ≠ 0 := h.listed.next.ne_null List.mem_cons_self
      rw [ha, if_pos hne]
      exact (show Chained 0 queue.nodes.next queue.waitAckList.head ([] ++ a :: rest) from
        h.listed.next).next_eq
  obtain ⟨kept, hthreaded, hkept, -, hretry, hpointed⟩ :=
    @Threaded.timeoutLoop_refines queue [] cells wanted currentTimeMs 0 queue.rounds
      queue.waitAckList.head _ h h.length_lt hhead hsecond (.inl rfl)
  refine ⟨kept, hthreaded, Prod.ext ?_ ?_⟩
  · exact hpointed.trans (Option.none_or)
  · show ReliableQueue.mk _ _ = ReliableQueue.mk _ _
    exact congr (congrArg ReliableQueue.mk hkept) hretry

/-! ### Runs -/

/-- One request is answered from memory as it is from the list. -/
theorem Threaded.serve_refines (h : Threaded queue cells) {request : QueueRequest}
    (hproper : ProperRequest queue request) :
    (∃ cells', Threaded (queue.serve request).1 cells' ∧
      view (queue.serve request).1 cells' = ((view queue cells).serve request).1) ∧
      (queue.serve request).2 = ((view queue cells).serve request).2 := by
  -- what the two sides do with each kind of request
  cases request with
  | add data sourceId targetId packetNumber dataType priority timeoutMs answer dataAnswer =>
    obtain ⟨cells', hthreaded, hview⟩ := h.addPacketNumber_refines hproper
    refine ⟨⟨cells', hthreaded, ?_⟩, ?_⟩
    · exact congrArg Prod.snd hview
    · exact congrArg (fun out : XglError × ReliableQueue => [QueueReply.status out.1]) hview
  | find packetNumber targetId =>
    obtain ⟨found, hfind, hpointed⟩ := h.findPacketNumber_refines packetNumber targetId
    simp only [QueueMemory.serve, withPacket, hfind, Option.elim_some, ReliableQueue.serve,
      hpointed, and_true]
    exact ⟨cells, h, rfl⟩
  | update packetNumber targetId write =>
    obtain ⟨found, hfind, hpointed⟩ := h.findPacketNumber_refines packetNumber targetId
    simp only [QueueMemory.serve, withPacket, hfind, Option.elim_some, ReliableQueue.serve,
      hpointed, and_true]
    rcases h.find_split packetNumber targetId with
      ⟨hzero, hnone⟩ | ⟨older, address, newer, rfl, hne, hsome, hfits, hnewer⟩
    · obtain rfl : found = 0 := Option.some.inj (hfind.symm.trans hzero)
      rw [if_pos rfl]
      exact ⟨cells, h, (reliableUpdate_none hnone write).symm⟩
    · obtain rfl : found = address := Option.some.inj (hfind.symm.trans hsome)
      rw [if_neg hne]
      exact ⟨_, h.edit (hproper _), h.edit_refines hfits hnewer write⟩
  | setPacketExtensions packetNumber targetId extensions answer =>
    obtain ⟨found, hfind, hpointed⟩ := h.findPacketNumber_refines packetNumber targetId
    simp only [QueueMemory.serve, withPacket, hfind, Option.elim_some, ReliableQueue.serve,
      ← hpointed]
    rcases h.find_split packetNumber targetId with
      ⟨hzero, hnone⟩ | ⟨older, address, newer, rfl, hne, hsome, hfits, hnewer⟩
    · obtain rfl : found = 0 := Option.some.inj (hfind.symm.trans hzero)
      exact ⟨⟨cells, h, rfl⟩, rfl⟩
    · obtain rfl : found = address := Option.some.inj (hfind.symm.trans hsome)
      simp only [pointed, hne, if_false, Option.isNone_some, Bool.false_eq_true,
        setPacketExtensions_eq, and_true]
      exact ⟨_, h.edit ⟨rfl, rfl⟩, h.edit_refines hfits hnewer _⟩
  | remove packetNumber targetId =>
    obtain ⟨cells', hthreaded, hresult, hview⟩ := h.removePacketNumber_refines packetNumber targetId
    exact ⟨⟨cells', hthreaded, hview⟩, congrArg (fun error => [QueueReply.status error]) hresult⟩
  | removeAckRanges targetId largestAck ranges =>
    obtain ⟨cells', hthreaded, hview⟩ := h.removeAckRanges_refines targetId largestAck ranges
    refine ⟨⟨cells', hthreaded, ?_⟩, ?_⟩
    · exact congrArg Prod.snd hview
    · exact congrArg (fun out : Nat × ReliableQueue => [QueueReply.count out.1]) hview
  | processTimeouts currentTimeMs wanted =>
    obtain ⟨cells', hthreaded, hview⟩ := h.processTimeouts_refines currentTimeMs wanted
    refine ⟨⟨cells', hthreaded, ?_⟩, ?_⟩
    · exact congrArg Prod.snd hview
    · exact congrArg
        (fun out : Option ReliablePacket × ReliableQueue => [QueueReply.packet out.1]) hview
  | clear => exact ⟨⟨[], h.clear_refines.1, h.clear_refines.2⟩, rfl⟩
  | free address =>
    have hin : address ∈ queue.handed := hproper
    refine ⟨⟨cells, h.release hin, view_congr (fun b hb => ?_) rfl⟩, rfl⟩
    refine Function.update_of_ne ?_ _ _
    rintro rfl
    exact (h.handed b hin).2 hb

/-- A queue after `xgl_reliable_init`, with anything in memory. -/
def init (nodes : ListNodes) (indexNext : Nat → Nat) (packets : Nat → ReliablePacket)
    (junk : PacketCell) (maxRetryCount : UInt8) : QueueMemory :=
  { nodes := nodes, indexNext := indexNext, packets := packets, junk := junk,
    maxRetryCount := maxRetryCount }

/-- An initialized queue is threaded and has no cells. -/
theorem threaded_init (nodes : ListNodes) (indexNext : Nat → Nat)
    (packets : Nat → ReliablePacket) (junk : PacketCell) (maxRetryCount : UInt8) :
    Threaded (init nodes indexNext packets junk maxRetryCount) [] where
  listed := listed_init
  indexed := fun _ => rfl
  live := fun _ h => nomatch h
  handed := fun _ h => nomatch h
  liveNodup := List.nodup_nil
  handedNodup := List.nodup_nil
  running := rfl

/-- **The queue in memory is the queue as a list.** Whatever a user asks of an initialized
queue, with any allocations failing, the replies are those of the list, and the nodes hold the
packets of the list in its order. -/
theorem queue_refines_list (nodes : ListNodes) (indexNext : Nat → Nat)
    (packets : Nat → ReliablePacket) (junk : PacketCell) (maxRetryCount : UInt8)
    (requests : List QueueRequest)
    (h : Along (fun queue request => (queue.serve request).1) ProperRequest requests
      (init nodes indexNext packets junk maxRetryCount)) :
    let memory := runSteps QueueMemory.serve requests
      (init nodes indexNext packets junk maxRetryCount)
    let list := runSteps ReliableQueue.serve requests { maxRetryCount := maxRetryCount }
    memory.2 = list.2 ∧ memory.1.contents = list.1.waitAckList := by
  obtain ⟨⟨cells, hthreaded, hview⟩, hreplies⟩ := runSteps_refines
    (fun (queue : QueueMemory) (list : ReliableQueue) =>
      ∃ cells, Threaded queue cells ∧ view queue cells = list)
    (by
      rintro queue _ request ⟨cells, hthreaded, rfl⟩ hproper
      exact hthreaded.serve_refines hproper)
    requests (init nodes indexNext packets junk maxRetryCount)
    { maxRetryCount := maxRetryCount }
    ⟨[], threaded_init nodes indexNext packets junk maxRetryCount, rfl⟩ h
  refine ⟨hreplies, ?_⟩
  rw [hthreaded.contents_eq, hview]

/-- A packet of zeros. -/
def blankPacket : ReliablePacket :=
  { data := [], sourceId := 0, targetId := 0, packetNumber := 0, dataType := 0, priority := 0,
    timeoutMs := 0, initialTimeoutMs := 0 }

/-- Two packets of one number and target are in one chain; a third is given up for want of a
data buffer. The newer of the two is removed, the other is sent, runs out of retries and is
handed to the caller, who frees it, and its address is used again. -/
def reuseRequests : List QueueRequest :=
  [.add [1] 1 2 7 0 0 100 64 1000, .add [2] 1 2 7 0 0 100 128 1000,
    .add [3] 1 2 8 0 0 100 192 0, .find 7 2, .remove 7 2,
    .setPacketExtensions 7 2 [8, 1, 0] 2000,
    .update 7 2 fun packet => { packet with sendTimestamp := 1 }, .processTimeouts 200 true,
    .free 64, .add [4] 1 3 9 0 0 100 64 1000, .find 9 3]

/-- The replies of that run, and the packets behind it, are those of the list. -/
theorem queue_refines_list_after_reuse :
    let memory := runSteps QueueMemory.serve reuseRequests
      (init { next := fun _ => 0, prev := fun _ => 0 } (fun _ => 0) (fun _ => blankPacket)
        { next := 64, prev := 64, indexNext := 64, packet := blankPacket } 0)
    let list := runSteps ReliableQueue.serve reuseRequests { maxRetryCount := 0 }
    memory.2 = list.2 ∧ memory.1.contents = list.1.waitAckList := by
  refine queue_refines_list _ _ _ _ 0 reuseRequests ?_
  refine ⟨fun _ => ?_, fun _ => ?_, fun _ => ?_, trivial, trivial, trivial,
    fun _ => ⟨rfl, rfl⟩, trivial, ?_, fun _ => ?_, trivial, trivial⟩
  · decide
  · decide +kernel
  · decide +kernel
  · show 64 ∈ _
    decide +kernel
  · decide +kernel

end QueueMemory

end XgenLink
