import XgenLink.Proofs.LinkedCells
import XgenLink.Transport.ReliableMemory

/-!
# `XgenLink.Proofs.QueueThreads`: a packet in two structures

Every packet of the wait-ACK queue is in two structures at once, the wait-ACK list and the
chain of its hash bucket, and every way out of the queue unlinks it from both. This module
states the invariant that ties the two together and proves what the smallest steps do to it.
The calls of the queue are made of these steps.

* `Indexed`: the chain of a bucket has those cells of the list that hash into it, the newest
  first. Packets are put in front of a chain and behind the list.
* `Threaded`: the invariant. It names the cells of the list in order, and says which packets
  are allocated and which of them are the caller's again.
* `Threaded.detach`: taking a cell out of both structures. Unlinking reads and writes links of
  cells in the same structure only, so the two are undone independently and in either order.
* `Threaded.allocate`, `Threaded.attach`, `Threaded.free`, `Threaded.hand`, `Threaded.release`,
  `Threaded.edit`: the other steps in the life of a packet.
* `Threaded.find_split`: where a lookup ends. It searches one bucket, and finds what a search
  of the whole list from its end would find.
-/

set_option autoImplicit false

namespace XgenLink

namespace QueueMemory

variable {queue : QueueMemory} {cells before after : List Nat} {a : Nat}

/-! ### The index -/

/-- The cells of a bucket, in the order of the list. -/
def inBucket (queue : QueueMemory) (i : Fin reliableIndexBuckets) (cells : List Nat) : List Nat :=
  cells.filter fun a => queue.bucketOf a = i

/-- The chain of every bucket has the cells that hash into it, the newest first. -/
def Indexed (queue : QueueMemory) (cells : List Nat) : Prop :=
  ∀ i, Chained 0 queue.indexNext (queue.indexBuckets i) (queue.inBucket i cells).reverse

/-- The cells of a bucket are those of the list with its hash. -/
theorem mem_inBucket {i : Fin reliableIndexBuckets} :
    a ∈ queue.inBucket i cells ↔ a ∈ cells ∧ queue.bucketOf a = i := by
  rw [inBucket, List.mem_filter, decide_eq_true_eq]

/-- The cells of two parts of the list, one behind the other. -/
theorem inBucket_append (i : Fin reliableIndexBuckets) :
    queue.inBucket i (before ++ after) = queue.inBucket i before ++ queue.inBucket i after :=
  List.filter_append before after

/-- A cell at the front of the list is at the front of its bucket. -/
theorem inBucket_cons_self : queue.inBucket (queue.bucketOf a) (a :: cells)
    = a :: queue.inBucket (queue.bucketOf a) cells :=
  List.filter_cons_of_pos (decide_eq_true rfl)

/-- It is in no other bucket. -/
theorem inBucket_cons_other {i : Fin reliableIndexBuckets} (h : queue.bucketOf a ≠ i) :
    queue.inBucket i (a :: cells) = queue.inBucket i cells :=
  List.filter_cons_of_neg fun heq => h (of_decide_eq_true heq)

/-- What the index depends on. -/
theorem Indexed.congr {queue' : QueueMemory} (h : Indexed queue cells)
    (hbuckets : queue'.indexBuckets = queue.indexBuckets)
    (hnext : ∀ b ∈ cells, queue'.indexNext b = queue.indexNext b)
    (hkeys : ∀ b ∈ cells, queue'.bucketOf b = queue.bucketOf b) : Indexed queue' cells := by
  intro i
  have hsame : queue'.inBucket i cells = queue.inBucket i cells :=
    List.filter_congr fun b hb => by rw [hkeys b hb]
  rw [hbuckets, hsame]
  exact (h i).congr fun b hb => hnext b (mem_inBucket.mp (List.mem_reverse.mp hb)).1

/-- A new packet goes to the front of its chain. -/
theorem Indexed.indexPacket (h : Indexed queue cells) (ha : a ∉ cells) (hne : a ≠ 0) :
    Indexed (queue.indexPacket a) (cells ++ [a]) := by
  intro i
  have hother : ∀ b ∈ (queue.inBucket i cells).reverse,
      (queue.indexPacket a).indexNext b = queue.indexNext b := by
    intro b hb
    refine Function.update_of_ne ?_ _ _
    rintro rfl
    exact ha (mem_inBucket.mp (List.mem_reverse.mp hb)).1
  show Chained 0 (queue.indexPacket a).indexNext ((queue.indexPacket a).indexBuckets i)
    (queue.inBucket i (cells ++ [a])).reverse
  rw [inBucket_append]
  by_cases hi : queue.bucketOf a = i
  · subst hi
    have hbucket : (queue.indexPacket a).indexBuckets (queue.bucketOf a) = a :=
      Function.update_self _ _ _
    rw [hbucket, inBucket_cons_self, List.reverse_append]
    exact (h _).push hne (Function.update_self _ _ _) hother
  · have hbucket : (queue.indexPacket a).indexBuckets i = queue.indexBuckets i :=
      Function.update_of_ne (Ne.symm hi) _ _
    have hnil : queue.inBucket i [] = [] := rfl
    rw [hbucket, inBucket_cons_other hi, hnil, List.append_nil]
    exact (h i).congr hother

/-- The loop of `reliable_unindex_packet` stops at the packet, with the cell before it. -/
theorem unindexLoop_eq {indexNext : Nat → Nat} {rounds previous current bucket : Nat}
    (h : Chained 0 indexNext current (before ++ a :: after)) (ha : a ∉ before)
    (hrounds : before.length < rounds) :
    unindexLoop a rounds previous current indexNext bucket
      = some (Function.update
            (if before.getLastD previous ≠ 0 then
              Function.update indexNext (before.getLastD previous) (indexNext a)
            else indexNext) a 0,
          if before.getLastD previous ≠ 0 then bucket else indexNext a) := by
  induction before generalizing rounds previous current with
  | nil =>
    obtain ⟨rfl, hne, _⟩ := h
    cases rounds with
    | zero => exact absurd hrounds (Nat.not_lt_zero _)
    | succ rounds =>
      rw [unindexLoop, if_neg hne, if_pos rfl]
      by_cases hprevious : previous = 0
      · subst hprevious
        rfl
      · simp [hprevious]
  | cons b rest ih =>
    obtain ⟨rfl, hne, hrest⟩ := h
    cases rounds with
    | zero => exact absurd hrounds (Nat.not_lt_zero _)
    | succ rounds =>
      have hstep : current ≠ a := fun heq => ha (heq ▸ List.mem_cons_self)
      rw [unindexLoop, if_neg hne, if_neg hstep,
        ih hrest (fun hin => ha (List.mem_cons_of_mem _ hin)) (Nat.lt_of_succ_lt_succ hrounds),
        List.getLastD_cons]

/-- The loop of a lookup returns the first packet of the chain that fits. -/
theorem findLoop_eq {packetNumber : UInt32} {targetId : UInt16} {rounds current : Nat}
    (h : Chained 0 queue.indexNext current cells) (hrounds : cells.length < rounds) :
    queue.findLoop packetNumber targetId rounds current
      = some ((cells.find? fun b => (queue.packets b).isFor packetNumber targetId).getD 0) := by
  induction cells generalizing rounds current with
  | nil =>
    have hcurrent : current = 0 := h
    cases rounds with
    | zero => exact absurd hrounds (Nat.not_lt_zero _)
    | succ rounds => rw [findLoop, if_pos hcurrent]; rfl
  | cons b rest ih =>
    obtain ⟨rfl, hne, hrest⟩ := h
    cases rounds with
    | zero => exact absurd hrounds (Nat.not_lt_zero _)
    | succ rounds =>
      rw [findLoop, if_neg hne]
      by_cases hfits : (queue.packets current).isFor packetNumber targetId = true
      · rw [if_pos hfits, List.find?_cons, hfits]
        rfl
      · rw [if_neg hfits, List.find?_cons, Bool.not_eq_true _ |>.mp hfits]
        exact ih hrest (Nat.lt_of_succ_lt_succ hrounds)

/-! ### The invariant -/

/-- What every state of the queue satisfies, with the cells of the list. -/
structure Threaded (queue : QueueMemory) (cells : List Nat) : Prop where
  listed : Listed queue.waitAckList queue.nodes cells
  indexed : Indexed queue cells
  live : ∀ b ∈ cells, b ∈ queue.live
  /-- A packet that was handed to the caller is in neither structure. -/
  handed : ∀ b ∈ queue.handed, b ∈ queue.live ∧ b ∉ cells
  liveNodup : queue.live.Nodup
  handedNodup : queue.handed.Nodup
  running : queue.stuck = false

/-- No cell is in the list twice. -/
theorem Threaded.nodup (h : Threaded queue cells) : cells.Nodup := h.listed.next.nodup

/-- No loop over the cells takes all its rounds. -/
theorem Threaded.length_lt (h : Threaded queue cells) : cells.length < queue.rounds :=
  Nat.lt_succ_of_le (h.nodup.length_le_of_subset h.live)

/-- A bucket has no more cells than the list. -/
theorem length_inBucket_le (i : Fin reliableIndexBuckets) :
    (queue.inBucket i cells).length ≤ cells.length :=
  List.length_filter_le _ _

/-- Unlinking a packet from its chain, wherever the list is at. -/
theorem unindexPacket_eq (hindexed : Indexed queue (before ++ a :: after))
    (hnodup : (before ++ a :: after).Nodup)
    (hlength : (before ++ a :: after).length < queue.rounds) :
    ∃ indexNext indexBuckets,
      (∀ queue' : QueueMemory, queue'.indexNext = queue.indexNext →
        queue'.indexBuckets = queue.indexBuckets → queue'.packets = queue.packets →
        queue'.live = queue.live →
        queue'.unindexPacket a
          = { queue' with indexNext := indexNext, indexBuckets := indexBuckets })
      ∧ Indexed { queue with indexNext := indexNext, indexBuckets := indexBuckets }
          (before ++ after) := by
  have hsplit : (queue.inBucket (queue.bucketOf a) (before ++ a :: after)).reverse
      = (queue.inBucket (queue.bucketOf a) after).reverse
        ++ a :: (queue.inBucket (queue.bucketOf a) before).reverse := by
    rw [inBucket_append, inBucket_cons_self, List.reverse_append, List.reverse_cons,
      List.append_assoc, List.singleton_append]
  have hchain := hindexed (queue.bucketOf a)
  rw [hsplit] at hchain
  have hcell : a ∉ before ++ after := (List.nodup_middle.mp hnodup).notMem
  have hnewer : a ∉ (queue.inBucket (queue.bucketOf a) after).reverse := fun hin =>
    hcell (List.mem_append_right _ (mem_inBucket.mp (List.mem_reverse.mp hin)).1)
  have hrounds : (queue.inBucket (queue.bucketOf a) after).reverse.length < queue.rounds := by
    have hle := @length_inBucket_le queue after (queue.bucketOf a)
    rw [List.length_append, List.length_cons] at hlength
    rw [List.length_reverse]
    omega
  have hloop := @unindexLoop_eq _ _ a _ _ 0 _ (queue.indexBuckets (queue.bucketOf a)) hchain
    hnewer hrounds
  -- the cell before it in the chain, if there is one, is of the same bucket
  generalize hp : (queue.inBucket (queue.bucketOf a) after).reverse.getLastD 0 = p at hloop
  have hpBucket : p ≠ 0 → queue.bucketOf p = queue.bucketOf a := by
    intro hne
    have hmem := getLastD_mem 0 (queue.inBucket (queue.bucketOf a) after).reverse
    rw [hp] at hmem
    rcases List.mem_cons.mp hmem with hzero | hin
    · exact absurd hzero hne
    · exact (mem_inBucket.mp (List.mem_reverse.mp hin)).2
  refine ⟨Function.update
      (if p ≠ 0 then Function.update queue.indexNext p (queue.indexNext a)
        else queue.indexNext) a 0,
    Function.update queue.indexBuckets (queue.bucketOf a)
      (if p ≠ 0 then queue.indexBuckets (queue.bucketOf a) else queue.indexNext a), ?_, ?_⟩
  · intro queue' hnext hbuckets hpackets hlive
    have hbucket : queue'.bucketOf a = queue.bucketOf a := by rw [bucketOf, bucketOf, hpackets]
    have hsameRounds : queue'.rounds = queue.rounds := by rw [rounds, rounds, hlive]
    rw [unindexPacket]
    simp only [hbucket, hsameRounds, hnext, hbuckets, hloop]
  · intro i
    show Chained 0 (Function.update _ a 0)
      (Function.update queue.indexBuckets (queue.bucketOf a) _ i)
      (queue.inBucket i (before ++ after)).reverse
    have hnot : a ∉ (queue.inBucket i (before ++ after)).reverse := fun hin =>
      hcell (mem_inBucket.mp (List.mem_reverse.mp hin)).1
    -- the chain of its own bucket changes, no other one does
    by_cases hi : i = queue.bucketOf a
    · subst hi
      rw [Function.update_self]
      refine Chained.update ?_ hnot 0
      rw [inBucket_append, List.reverse_append]
      exact hchain.unlink hp.symm
    · rw [Function.update_of_ne hi]
      refine Chained.update ?_ hnot 0
      have hsame : queue.inBucket i (before ++ a :: after)
          = queue.inBucket i (before ++ after) := by
        rw [inBucket_append, inBucket_append, inBucket_cons_other (Ne.symm hi)]
      have hother := hindexed i
      rw [hsame] at hother
      -- it has a cell before it, or it is the first of the chain
      by_cases hzero : p ≠ 0
      · rw [if_pos hzero]
        refine hother.update ?_ _
        intro hin
        exact hi ((mem_inBucket.mp (List.mem_reverse.mp hin)).2.symm.trans (hpBucket hzero))
      · rw [if_neg hzero]
        exact hother

/-- A cell of the others is a cell of the list. -/
theorem mem_of_mem_without {b : Nat} (hb : b ∈ before ++ after) : b ∈ before ++ a :: after := by
  rcases List.mem_append.mp hb with hin | hin
  · exact List.mem_append_left _ hin
  · exact List.mem_append_right _ (List.mem_cons_of_mem _ hin)

/-- A cell taken out of both structures, in either order. -/
theorem Threaded.detach (h : Threaded queue (before ++ a :: after)) :
    ∃ detached : QueueMemory,
      (queue.unindexPacket a).withList
          (xglListRemove (queue.unindexPacket a).waitAckList (queue.unindexPacket a).nodes a)
        = detached
      ∧ (queue.withList (xglListRemove queue.waitAckList queue.nodes a)).unindexPacket a
        = detached
      ∧ Threaded detached (before ++ after)
      ∧ detached.live = queue.live ∧ detached.handed = queue.handed
      ∧ detached.packets = queue.packets ∧ detached.maxRetryCount = queue.maxRetryCount := by
  obtain ⟨indexNext, indexBuckets, hunindex, hindexed⟩ :=
    unindexPacket_eq h.indexed h.nodup h.length_lt
  have hself := hunindex queue rfl rfl rfl rfl
  have hlist := hunindex (queue.withList (xglListRemove queue.waitAckList queue.nodes a))
    rfl rfl rfl rfl
  refine ⟨_, rfl, ?_, ?_, ?_⟩
  · rw [hself, hlist]
    rfl
  · rw [hself]
    exact
      { listed := h.listed.remove
        indexed := hindexed.congr rfl (fun _ _ => rfl) fun _ _ => rfl
        live := fun b hb => h.live b (mem_of_mem_without hb)
        handed := fun b hb => ⟨(h.handed b hb).1, fun hin =>
          (h.handed b hb).2 (mem_of_mem_without hin)⟩
        liveNodup := h.liveNodup
        handedNodup := h.handedNodup
        running := h.running }
  · rw [hself]
    exact ⟨rfl, rfl, rfl, rfl⟩

/-- A packet that is in neither structure is freed, whatever it leaves behind. -/
theorem Threaded.free (h : Threaded queue cells) (ha : a ∉ cells) (hhanded : a ∉ queue.handed) :
    Threaded (queue.freePacket a) cells := by
  have hne : ∀ b ∈ cells, b ≠ a := fun b hb heq => ha (heq ▸ hb)
  have hneHanded : ∀ b ∈ queue.handed, b ≠ a := fun b hb heq => hhanded (heq ▸ hb)
  constructor
  · exact h.listed.congr fun b hb =>
      ⟨Function.update_of_ne (hne b hb) _ _, Function.update_of_ne (hne b hb) _ _⟩
  · refine h.indexed.congr rfl (fun b hb => Function.update_of_ne (hne b hb) _ _) ?_
    intro b hb
    have hpacket : (queue.freePacket a).packets b = queue.packets b :=
      Function.update_of_ne (hne b hb) _ _
    rw [bucketOf, bucketOf, hpacket]
  · exact fun b hb => (List.mem_erase_of_ne (hne b hb)).mpr (h.live b hb)
  · exact fun b hb => ⟨(List.mem_erase_of_ne (hneHanded b hb)).mpr (h.handed b hb).1,
      (h.handed b hb).2⟩
  · exact h.liveNodup.erase a
  · exact h.handedNodup
  · exact h.running

/-- A packet that is in neither structure is handed to the caller. -/
theorem Threaded.hand (h : Threaded queue cells) (hlive : a ∈ queue.live) (ha : a ∉ cells)
    (hhanded : a ∉ queue.handed) :
    Threaded { queue with handed := a :: queue.handed } cells where
  listed := h.listed
  indexed := h.indexed.congr rfl (fun _ _ => rfl) fun _ _ => rfl
  live := h.live
  handed := List.forall_mem_cons.mpr ⟨⟨hlive, ha⟩, h.handed⟩
  liveNodup := h.liveNodup
  handedNodup := List.nodup_cons.mpr ⟨hhanded, h.handedNodup⟩
  running := h.running

/-- The caller frees a packet it was handed. -/
theorem Threaded.release (h : Threaded queue cells) (ha : a ∈ queue.handed) :
    Threaded { queue.freePacket a with handed := queue.handed.erase a } cells := by
  have hdropped : Threaded { queue with handed := queue.handed.erase a } cells :=
    { listed := h.listed
      indexed := h.indexed.congr rfl (fun _ _ => rfl) fun _ _ => rfl
      live := h.live
      handed := fun b hb => h.handed b (List.mem_of_mem_erase hb)
      liveNodup := h.liveNodup
      handedNodup := h.handedNodup.erase a
      running := h.running }
  exact hdropped.free (h.handed a ha).2 h.handedNodup.not_mem_erase

/-- Writing fields of a packet that are not its key. -/
theorem Threaded.edit (h : Threaded queue cells) {update : ReliablePacket → ReliablePacket}
    (hkey : (update (queue.packets a)).packetNumber = (queue.packets a).packetNumber
      ∧ (update (queue.packets a)).targetId = (queue.packets a).targetId) :
    Threaded (queue.edit a update) cells where
  listed := h.listed
  indexed := by
    refine h.indexed.congr rfl (fun _ _ => rfl) ?_
    intro b hb
    by_cases heq : b = a
    · subst heq
      have hpacket : (queue.edit b update).packets b = update (queue.packets b) :=
        Function.update_self _ _ _
      rw [bucketOf, bucketOf, hpacket, hkey.1, hkey.2]
    · have hpacket : (queue.edit a update).packets b = queue.packets b :=
        Function.update_of_ne heq _ _
      rw [bucketOf, bucketOf, hpacket]
  live := h.live
  handed := h.handed
  liveNodup := h.liveNodup
  handedNodup := h.handedNodup
  running := h.running

/-! ### Adding -/

/-- A packet in memory that was just allocated is in neither structure. -/
theorem Threaded.allocate (h : Threaded queue cells) (hfresh : a ∉ queue.live)
    (cell : PacketCell) :
    Threaded ({ queue with live := a :: queue.live }.store a cell) cells := by
  have hne : ∀ b ∈ cells, b ≠ a := fun b hb heq => hfresh (heq ▸ h.live b hb)
  constructor
  · exact h.listed.congr fun b hb =>
      ⟨Function.update_of_ne (hne b hb) _ _, Function.update_of_ne (hne b hb) _ _⟩
  · refine h.indexed.congr rfl (fun b hb => Function.update_of_ne (hne b hb) _ _) ?_
    intro b hb
    have hpacket : ({ queue with live := a :: queue.live }.store a cell).packets b
        = queue.packets b := Function.update_of_ne (hne b hb) _ _
    rw [bucketOf, bucketOf, hpacket]
  · exact fun b hb => List.mem_cons_of_mem _ (h.live b hb)
  · exact fun b hb => ⟨List.mem_cons_of_mem _ (h.handed b hb).1, (h.handed b hb).2⟩
  · exact List.nodup_cons.mpr ⟨hfresh, h.liveNodup⟩
  · exact h.handedNodup
  · exact h.running

/-- A live packet that is in neither structure is put into both. -/
theorem Threaded.attach (h : Threaded queue cells) (hlive : a ∈ queue.live) (hne : a ≠ 0)
    (ha : a ∉ cells) (hhanded : a ∉ queue.handed) :
    Threaded ((queue.withList (xglListInsertTail queue.waitAckList
      (xglListNodeInit queue.nodes a) a)).indexPacket a) (cells ++ [a]) := by
  have hinited : Listed queue.waitAckList (xglListNodeInit queue.nodes a) cells := by
    refine h.listed.congr fun b hb => ?_
    have hba : b ≠ a := fun heq => ha (heq ▸ hb)
    exact ⟨Function.update_of_ne hba _ _, Function.update_of_ne hba _ _⟩
  have hindexed : Indexed (queue.withList (xglListInsertTail queue.waitAckList
      (xglListNodeInit queue.nodes a) a)) cells :=
    h.indexed.congr rfl (fun _ _ => rfl) fun _ _ => rfl
  constructor
  · exact hinited.insertTail ha hne
  · exact hindexed.indexPacket ha hne
  · intro b hb
    rcases List.mem_append.mp hb with hin | hin
    · exact h.live b hin
    · exact List.mem_singleton.mp hin ▸ hlive
  · intro b hb
    refine ⟨(h.handed b hb).1, fun hin => ?_⟩
    rcases List.mem_append.mp hin with hin | hin
    · exact (h.handed b hb).2 hin
    · exact hhanded (List.mem_singleton.mp hin ▸ hb)
  · exact h.liveNodup
  · exact h.handedNodup
  · exact h.running

/-! ### Looking up and removing -/

/-- What `xgl_reliable_find_packet_number` returns: the packet of the list that was added
last among those that fit. -/
theorem Threaded.findPacketNumber_eq (h : Threaded queue cells) (packetNumber : UInt32)
    (targetId : UInt16) :
    queue.findPacketNumber packetNumber targetId
      = some (((queue.inBucket (indexBucket targetId packetNumber) cells).reverse.find? fun b =>
          (queue.packets b).isFor packetNumber targetId).getD 0) := by
  refine findLoop_eq (h.indexed _) ?_
  rw [List.length_reverse]
  exact Nat.lt_of_le_of_lt (length_inBucket_le _) h.length_lt

/-- Packets that fit are in the bucket that is searched. -/
theorem bucketOf_of_isFor {packetNumber : UInt32} {targetId : UInt16}
    (h : (queue.packets a).isFor packetNumber targetId = true) :
    queue.bucketOf a = indexBucket targetId packetNumber := by
  rw [ReliablePacket.isFor, Bool.and_eq_true, beq_iff_eq, beq_iff_eq] at h
  rw [bucketOf, h.1, h.2]

/-- Searching the bucket is searching the whole list: a packet that fits is in the bucket. -/
theorem find?_inBucket (queue : QueueMemory) (cells : List Nat) (packetNumber : UInt32)
    (targetId : UInt16) :
    ((queue.inBucket (indexBucket targetId packetNumber) cells).reverse.find? fun b =>
        (queue.packets b).isFor packetNumber targetId)
      = cells.reverse.find? fun b => (queue.packets b).isFor packetNumber targetId := by
  rw [inBucket, ← List.filter_reverse, List.find?_filter]
  congr 1
  funext b
  by_cases hfits : (queue.packets b).isFor packetNumber targetId = true
  · rw [hfits]
    exact decide_eq_true ⟨decide_eq_true (bucketOf_of_isFor hfits), rfl⟩
  · rw [Bool.not_eq_true] at hfits
    rw [hfits]
    exact decide_eq_false fun h => Bool.noConfusion h.2

/-- Where a lookup ends: with `NULL` when no packet of the list fits, and else with the last
packet of the list that does. -/
theorem Threaded.find_split (h : Threaded queue cells) (packetNumber : UInt32)
    (targetId : UInt16) :
    (queue.findPacketNumber packetNumber targetId = some 0 ∧
      ∀ b ∈ cells, (queue.packets b).isFor packetNumber targetId = false) ∨
    ∃ older found newer, cells = older ++ found :: newer ∧ found ≠ 0 ∧
      queue.findPacketNumber packetNumber targetId = some found ∧
      (queue.packets found).isFor packetNumber targetId = true ∧
      ∀ b ∈ newer, (queue.packets b).isFor packetNumber targetId = false := by
  rw [h.findPacketNumber_eq, find?_inBucket]
  cases hsearch : cells.reverse.find? fun b => (queue.packets b).isFor packetNumber targetId with
  | none =>
    refine .inl ⟨rfl, fun b hb => ?_⟩
    rw [← Bool.not_eq_true]
    exact List.find?_eq_none.mp hsearch b (List.mem_reverse.mpr hb)
  | some found =>
    obtain ⟨hfits, newer, older, hsplit, hnewer⟩ := List.find?_eq_some_iff_append.mp hsearch
    -- the search runs from the end of the list
    have hcells : cells = older.reverse ++ found :: newer.reverse := by
      have hreverse := congrArg List.reverse hsplit
      rw [List.reverse_reverse, List.reverse_append, List.reverse_cons, List.append_assoc,
        List.singleton_append] at hreverse
      exact hreverse
    have hmem : found ∈ cells := by
      rw [hcells]
      exact List.mem_append_right _ List.mem_cons_self
    refine .inr ⟨older.reverse, found, newer.reverse, hcells, h.listed.next.ne_null hmem, rfl,
      hfits, fun b hb => ?_⟩
    have hother := hnewer b (List.mem_reverse.mp hb)
    rwa [Bool.not_eq_true'] at hother

/-- A cell that was taken out is freed. -/
theorem Threaded.detach_free (h : Threaded queue (before ++ a :: after)) :
    ∃ detached : QueueMemory,
      (queue.unindexPacket a).withList
          (xglListRemove (queue.unindexPacket a).waitAckList (queue.unindexPacket a).nodes a)
        = detached
      ∧ (queue.withList (xglListRemove queue.waitAckList queue.nodes a)).unindexPacket a
        = detached
      ∧ Threaded (detached.freePacket a) (before ++ after)
      ∧ (∀ b ∈ before ++ after, (detached.freePacket a).packets b = queue.packets b)
      ∧ (detached.freePacket a).maxRetryCount = queue.maxRetryCount := by
  obtain ⟨detached, hfirst, hsecond, hthreaded, _, hhanded, hpackets, hretry⟩ := h.detach
  have hcell : a ∉ before ++ after := (List.nodup_middle.mp h.nodup).notMem
  refine ⟨detached, hfirst, hsecond, hthreaded.free hcell ?_, fun b hb => ?_, hretry⟩
  · rw [hhanded]
    exact fun hin => (h.handed a hin).2 (List.mem_append_right _ List.mem_cons_self)
  · have hne : b ≠ a := fun heq => hcell (heq ▸ hb)
    rw [← hpackets]
    exact Function.update_of_ne hne _ _

end QueueMemory

end XgenLink
