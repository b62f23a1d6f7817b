import XgenLink.Proofs.QueueRefines

/-!
# `XgenLink.Proofs.QueueIndex`: the index of the wait-ACK queue and its list

The queue has two ways to its packets: the wait-ACK list, which the timers and the clearing
walk, and the hash buckets, which every lookup by number and target walks. This module proves
that they never disagree, whatever a user calls and whatever the allocator answers.

* `Call` and `step` (`XgenLink.Transport.ReliableMemory`) are the calls of a user with the
  addresses it passes. `ProperQueueCall` is what is asked of them.
* `Threaded.step`: each call keeps the invariant of `XgenLink.Proofs.QueueThreads`. The lemmas
  of `XgenLink.Proofs.QueueRefines` say it of each operation.
* `Coincide` reads off the invariant what the two structures have in common, in terms of the
  links and the buckets alone.
* `queue_index_matches_list`: it holds after every run.
-/

set_option autoImplicit false

namespace XgenLink

namespace QueueMemory

variable {queue : QueueMemory} {cells : List Nat}

/-! ### Runs -/

/-- The allocator serves addresses that are not in use, a user writes no key of a packet
through a pointer it has, and frees only packets it was handed. -/
def ProperQueueCall (queue : QueueMemory) : Call → Prop
  | .add _ _ _ _ _ _ _ answer _ => answer ≠ 0 → answer ∉ queue.live
  | .edit _ update => ∀ packet, (update packet).packetNumber = packet.packetNumber
      ∧ (update packet).targetId = packet.targetId
  | .free address => address ∈ queue.handed
  | _ => True

/-- One call keeps the invariant. -/
theorem Threaded.step (h : Threaded queue cells) {call : Call}
    (hproper : ProperQueueCall queue call) : ∃ cells', Threaded (queue.step call) cells' := by
  cases call with
  | add => exact (h.addPacketNumber_refines hproper).imp fun _ out => out.1
  | remove packetNumber targetId =>
    exact (h.removePacketNumber_refines packetNumber targetId).imp fun _ out => out.1
  | removeAckRanges targetId largestAck ranges =>
    exact (h.removeAckRanges_refines targetId largestAck ranges).imp fun _ out => out.1
  | setPacketExtensions address extensions answer =>
    simp only [QueueMemory.step, setPacketExtensions_eq]
    exact ⟨cells, h.edit ⟨rfl, rfl⟩⟩
  | processTimeouts currentTimeMs wanted =>
    exact (h.processTimeouts_refines currentTimeMs wanted).imp fun _ out => out.1
  | clear => exact ⟨[], h.clear_refines.1⟩
  | edit address update => exact ⟨cells, h.edit (hproper _)⟩
  | free address => exact ⟨cells, h.release hproper⟩

/-- The index and the list of a queue have the same packets. -/
structure Coincide (queue : QueueMemory) (cells : List Nat) : Prop where
  /-- The list ends, forwards and backwards, and has each packet once. -/
  next : Chained 0 queue.nodes.next queue.waitAckList.head cells
  prev : Chained 0 queue.nodes.prev queue.waitAckList.tail cells.reverse
  nodup : cells.Nodup
  count : queue.waitAckList.count = cells.length
  /-- The chain of every bucket ends, and has each packet of the list that hashes into the
  bucket once, and nothing else. -/
  chains : ∀ i, ∃ chain, Chained 0 queue.indexNext (queue.indexBuckets i) chain ∧ chain.Nodup
    ∧ ∀ a, a ∈ chain ↔ a ∈ cells ∧ queue.bucketOf a = i
  /-- No packet of them was freed. -/
  live : ∀ a ∈ cells, a ∈ queue.live
  /-- A lookup ends with a packet of the list that has the number and the target, or with
  `NULL` when there is none. -/
  find : ∀ packetNumber targetId, ∃ found,
    queue.findPacketNumber packetNumber targetId = some found
      ∧ (found ≠ 0 → found ∈ cells)
      ∧ (found ≠ 0 → (queue.packets found).packetNumber = packetNumber
          ∧ (queue.packets found).targetId = targetId)
      ∧ (found ≠ 0 ↔ ∃ a ∈ cells, (queue.packets a).packetNumber = packetNumber
          ∧ (queue.packets a).targetId = targetId)
  /-- No loop ran without end. -/
  running : queue.stuck = false

/-- A packet fits when it has the number and the target. -/
theorem isFor_iff {packet : ReliablePacket} {packetNumber : UInt32} {targetId : UInt16} :
    packet.isFor packetNumber targetId = true
      ↔ packet.packetNumber = packetNumber ∧ packet.targetId = targetId := by
  rw [ReliablePacket.isFor, Bool.and_eq_true, beq_iff_eq, beq_iff_eq]

/-- The invariant says that index and list have the same packets. -/
theorem Threaded.coincide (h : Threaded queue cells) : Coincide queue cells where
  next := h.listed.next
  prev := h.listed.prev
  nodup := h.nodup
  count := h.listed.count
  chains := by
    intro i
    refine ⟨_, h.indexed i, (h.indexed i).nodup, fun a => ?_⟩
    rw [List.mem_reverse, mem_inBucket]
  live := h.live
  find := by
    intro packetNumber targetId
    rcases h.find_split packetNumber targetId with
      ⟨hfind, hnone⟩ | ⟨older, found, newer, rfl, hne, hfind, hfits, -⟩
    · refine ⟨0, hfind, fun hne => absurd rfl hne, fun hne => absurd rfl hne,
        fun hne => absurd rfl hne, ?_⟩
      rintro ⟨a, ha, hkey⟩ -
      have hfits := hnone a ha
      rw [isFor_iff.mpr hkey] at hfits
      cases hfits
    · have hmem : found ∈ older ++ found :: newer :=
        List.mem_append_right _ List.mem_cons_self
      exact ⟨found, hfind, fun _ => hmem, fun _ => isFor_iff.mp hfits,
        fun _ => ⟨found, hmem, isFor_iff.mp hfits⟩, fun _ => hne⟩
  running := h.running

/-- **Index and list coincide.** After any calls of a user, with any allocations failing, the
chains of the buckets have the packets of the wait-ACK list, each in the chain of its hash,
none that was freed, and a lookup finds a packet of the list exactly if there is one. -/
theorem queue_index_matches_list (nodes : ListNodes) (indexNext : Nat → Nat)
    (packets : Nat → ReliablePacket) (junk : PacketCell) (maxRetryCount : UInt8)
    (calls : List Call)
    (h : Along QueueMemory.step ProperQueueCall calls
      (init nodes indexNext packets junk maxRetryCount)) :
    ∃ cells, Coincide (calls.foldl QueueMemory.step
      (init nodes indexNext packets junk maxRetryCount)) cells := by
  obtain ⟨cells, hcells⟩ := foldl_along (fun queue => ∃ cells, Threaded queue cells)
    (fun _ _ hinv hcall => hinv.elim fun _ hthreaded => hthreaded.step hcall) calls _
    ⟨[], threaded_init nodes indexNext packets junk maxRetryCount⟩ h
  exact ⟨cells, hcells.coincide⟩

/-- Two packets of one number and target are in one chain; a third is given up for want of a
data buffer. One is removed, the other runs out of retries and is handed to the caller, who
frees it, and its address is used again. -/
theorem queue_index_matches_list_after_reuse :
    ∃ cells, Coincide
      ([Call.add [1] 1 2 7 0 0 100 64 1000, .add [2] 1 2 7 0 0 100 128 1000,
        .add [3] 1 2 8 0 0 100 192 0, .setPacketExtensions 64 [8, 1, 0] 2000, .remove 7 2,
        .edit 64 fun packet => { packet with sendTimestamp := 1 }, .processTimeouts 200 true,
        .free 64, .add [4] 1 3 9 0 0 100 64 1000].foldl QueueMemory.step
        (init { next := fun _ => 0, prev := fun _ => 0 } (fun _ => 0) (fun _ => blankPacket)
          { next := 64, prev := 64, indexNext := 64, packet := blankPacket } 0)) cells := by
  refine queue_index_matches_list _ _ _ _ 0 [Call.add [1] 1 2 7 0 0 100 64 1000,
    .add [2] 1 2 7 0 0 100 128 1000, .add [3] 1 2 8 0 0 100 192 0,
    .setPacketExtensions 64 [8, 1, 0] 2000, .remove 7 2,
    .edit 64 fun packet => { packet with sendTimestamp := 1 }, .processTimeouts 200 true,
    .free 64, .add [4] 1 3 9 0 0 100 64 1000] ?_
  refine ⟨fun _ => ?_, fun _ => ?_, fun _ => ?_, trivial, trivial, fun _ => ⟨rfl, rfl⟩, trivial,
    ?_, fun _ => ?_, trivial⟩
  · decide
  · decide +kernel
  · decide +kernel
  · show 64 ∈ _
    decide +kernel
  · decide +kernel

end QueueMemory

end XgenLink
