import XgenLink.Lib.Chain
import XgenLink.Lib.Run
import XgenLink.Lib.Spans
import XgenLink.Memory.TieredPool

/-!
# `XgenLink.Proofs.BlockPools`: no block is handed out twice

The free blocks of a pool are a chain through memory from the head of the free list to `NULL`,
and every block is either on it or held by a caller. Callers write into blocks they hold, so
they never touch a link. A free is taken when the pointer is a block of the pool that is not on
the chain, which is to say when it is held; every other free leaves memory and pool as they are:
a foreign pointer, a pointer into the middle of a block, a block that is free already.

The invariant, `Pooled`, names the chain. It looks at a pool and its own blocks only, so the
three pools of a tiered pool keep it side by side: their buffers are apart, and what one writes
into its free blocks is in no block of another.

* `mempoolContainsBlock_iff`: the arithmetic of the source tells the blocks of a pool from all
  other addresses, without wrapping.
* `mempoolScan_iff`: the scan of a free finds out whether the block is free already.
* `Pooled.alloc`, `Pooled.free_not_held`, `Pooled.returned`: the two calls. `Pooled.frame` is
  what lets other writes happen meanwhile.
* `pooled_init`: a buffer that was split is a pool, all blocks free.
* `MempoolHolds`, `MempoolHolds.step`: a caller and its pool, call by call.
-/

set_option autoImplicit false

namespace XgenLink

/-! ### Pointers in memory -/

variable {memory memory' : Memory} {block next ptr : Nat}

/-- A pointer that was stored is loaded again. -/
theorem mempoolLoadNext_store_self (h : next < sizeRange) :
    mempoolLoadNext (mempoolStoreNext memory block next) block = next := by
  have hbytes : ((List.range pointerSize).map fun i =>
      mempoolStoreNext memory block next (block + i)) = natToLe pointerSize next := by
    apply List.ext_getElem
    · rw [List.length_map, List.length_range, length_natToLe]
    · intro i hi hi'
      rw [length_natToLe] at hi'
      rw [List.getElem_map, List.getElem_range, mempoolStoreNext,
        if_pos ⟨Nat.le_add_right _ _, Nat.add_lt_add_left hi' _⟩, Nat.add_sub_cancel_left,
        byteAt_of_lt _ _ (by rw [length_natToLe]; exact hi')]
  rw [mempoolLoadNext, hbytes, natOfLe_natToLe]
  exact Nat.mod_eq_of_lt h

/-- Loads from bytes that did not change. -/
theorem mempoolLoadNext_congr
    (h : ∀ address, block ≤ address → address < block + pointerSize →
      memory' address = memory address) :
    mempoolLoadNext memory' block = mempoolLoadNext memory block := by
  rw [mempoolLoadNext, mempoolLoadNext]
  congr 1
  apply List.map_congr_left
  intro i hi
  exact h _ (Nat.le_add_right _ _) (Nat.add_lt_add_left (List.mem_range.mp hi) _)

/-- A store changes the eight bytes at the block. -/
theorem mempoolStoreNext_of_apart {address : Nat}
    (h : address < block ∨ block + pointerSize ≤ address) :
    mempoolStoreNext memory block next address = memory address := by
  apply if_neg
  omega

/-! ### The blocks of a pool -/

/-- Where the blocks of a pool start. -/
def Mempool.start (pool : Mempool) : Nat := pool.pool

/-- Where they end. -/
def Mempool.stop (pool : Mempool) : Nat := pool.pool + pool.blockCount * pool.blockSize

/-- The aligned blocks of a pool. -/
def Mempool.IsBlock (pool : Mempool) (ptr : Nat) : Prop :=
  ∃ i < pool.blockCount, ptr = pool.pool + i * pool.blockSize

/-- All of them. -/
def Mempool.blocks (pool : Mempool) : List Nat :=
  (List.range pool.blockCount).map fun i => pool.pool + i * pool.blockSize

/-- A pool with blocks has room for a pointer in each, at addresses below 2^64. -/
def Mempool.Sound (pool : Mempool) : Prop :=
  pool.blockCount = 0
    ∨ pool.pool ≠ 0 ∧ pointerSize ≤ pool.blockSize ∧ pool.stop < sizeRange

variable {pool : Mempool} {a b : Nat}

/-- The list has the blocks of the pool. -/
theorem mem_blocks : a ∈ pool.blocks ↔ pool.IsBlock a := by
  simp [Mempool.blocks, Mempool.IsBlock, eq_comm]

/-- There are as many as the pool counts. -/
theorem length_blocks : pool.blocks.length = pool.blockCount := by
  rw [Mempool.blocks, List.length_map, List.length_range]

/-- A pool that has a block is set up. -/
theorem Mempool.Sound.of_block (h : pool.Sound) (ha : pool.IsBlock a) :
    pool.pool ≠ 0 ∧ pointerSize ≤ pool.blockSize ∧ pool.stop < sizeRange := by
  obtain ⟨i, hi, _⟩ := ha
  exact h.resolve_left (by omega)

/-- A block lies in the buffer. -/
theorem Mempool.IsBlock.bounds (ha : pool.IsBlock a) :
    pool.start ≤ a ∧ a + pool.blockSize ≤ pool.stop := by
  obtain ⟨i, hi, rfl⟩ := ha
  have hle : (i + 1) * pool.blockSize ≤ pool.blockCount * pool.blockSize :=
    Nat.mul_le_mul_right _ hi
  rw [Nat.add_mul, Nat.one_mul] at hle
  exact ⟨Nat.le_add_right _ _, by rw [Mempool.stop]; omega⟩

/-- Two blocks are one or apart. -/
theorem Mempool.IsBlock.apart (ha : pool.IsBlock a) (hb : pool.IsBlock b) (hne : a ≠ b) :
    a + pool.blockSize ≤ b ∨ b + pool.blockSize ≤ a := by
  obtain ⟨i, _, rfl⟩ := ha
  obtain ⟨j, _, rfl⟩ := hb
  rcases Nat.lt_trichotomy i j with hlt | heq | hlt
  · have := Nat.mul_le_mul_right pool.blockSize (Nat.succ_le_of_lt hlt)
    rw [Nat.succ_mul] at this
    omega
  · exact absurd (by rw [heq]) hne
  · have := Nat.mul_le_mul_right pool.blockSize (Nat.succ_le_of_lt hlt)
    rw [Nat.succ_mul] at this
    omega

/-- No block of a sound pool has an address beyond the buffer, so the products do not wrap. -/
theorem mempoolSizeOverflows_of_sound (hsize : 0 < pool.blockSize) (hstop : pool.stop < sizeRange) :
    mempoolSizeOverflows pool.blockCount pool.blockSize = false := by
  have hle : pool.blockCount ≤ (sizeRange - 1) / pool.blockSize := by
    rw [Nat.le_div_iff_mul_le hsize]
    rw [Mempool.stop] at hstop
    omega
  rw [mempoolSizeOverflows, Bool.and_eq_false_iff]
  exact .inr (decide_eq_false (Nat.not_lt.mpr hle))

/-- The test of a pool tells its aligned blocks. -/
theorem mempoolContainsBlock_iff (h : pool.Sound) :
    mempoolContainsBlock pool ptr = true ↔ pool.IsBlock ptr := by
  rcases h with hzero | ⟨hpool, hsize, hstop⟩
  -- a pool without blocks has none at any address
  · have hnone : ¬ pool.IsBlock ptr := by
      intro ⟨i, hi, _⟩
      omega
    simp [mempoolContainsBlock, hzero, hnone]
  · have hpositive : 0 < pool.blockSize := Nat.lt_of_lt_of_le (by decide) hsize
    have hwrap := mempoolSizeOverflows_of_sound hpositive hstop
    have hend : (pool.pool + pool.blockCount * pool.blockSize) % sizeRange = pool.stop :=
      Nat.mod_eq_of_lt hstop
    simp only [mempoolContainsBlock, hend, hwrap]
    constructor
    -- the tests that pass put the pointer at a multiple of the block size, inside the buffer
    · intro htest
      split at htest
      · cases htest
      split at htest
      · cases htest
      rename_i hrange
      rw [beq_iff_eq] at htest
      rw [Mempool.stop] at hrange
      refine ⟨(ptr - pool.pool) / pool.blockSize, ?_, ?_⟩
      · rw [Nat.div_lt_iff_lt_mul hpositive]
        omega
      · have := Nat.div_add_mod' (ptr - pool.pool) pool.blockSize
        omega
    -- a block passes each test, because no product or sum wraps
    · intro hblock
      have hbounds := hblock.bounds
      obtain ⟨i, hi, rfl⟩ := hblock
      rw [Mempool.start] at hbounds
      have hset : ¬ (pool.pool = 0 ∨ pool.pool + i * pool.blockSize = 0 ∨ pool.blockSize = 0
          ∨ pool.blockCount = 0 ∨ false = true) := by
        simp only [Bool.false_eq_true, or_false]
        omega
      rw [if_neg hset, if_neg (by omega), Nat.add_sub_cancel_left, beq_iff_eq, Nat.mul_mod_left]

/-! ### The free list -/

/-- The scan finds a block of the chain if it may look at all of them. -/
theorem mempoolScan_iff {count head : Nat} {free : List Nat}
    (hchain : Chained 0 (mempoolLoadNext memory) head free) (hlength : free.length ≤ count) :
    mempoolScan memory ptr count head = true ↔ ptr ∈ free := by
  induction free generalizing head count with
  | nil =>
    have hhead : head = 0 := hchain
    cases count with
    | zero => simp [mempoolScan]
    | succ count => simp [mempoolScan, hhead]
  | cons a rest ih =>
    obtain ⟨rfl, hne, hrest⟩ := hchain
    cases count with
    | zero => exact absurd hlength (by simp)
    | succ count =>
      have hrec := ih hrest (Nat.le_of_succ_le_succ hlength)
      rw [mempoolScan, if_neg hne, List.mem_cons]
      by_cases heq : head = ptr
      · rw [if_pos heq]
        exact iff_of_true rfl (.inl heq.symm)
      · rw [if_neg heq, hrec]
        exact (or_iff_right fun h => heq h.symm).symm

/-- What holds of a pool beside the blocks that are held, with the chain of its free
blocks. -/
structure Pooled (memory : Memory) (pool : Mempool) (held free : List Nat) : Prop where
  sound : pool.Sound
  chain : Chained 0 (mempoolLoadNext memory) pool.freeList free
  blocks : ∀ a ∈ free, pool.IsBlock a
  apart : ∀ a ∈ free, a ∉ held
  /-- A block that is not free is held. -/
  all : ∀ a, pool.IsBlock a → a ∈ free ∨ a ∈ held
  length : free.length = pool.freeCount

variable {held free : List Nat}

/-- No more blocks are free than there are. -/
theorem Pooled.length_le (h : Pooled memory pool held free) :
    pool.freeCount ≤ pool.blockCount := by
  rw [← h.length, ← length_blocks]
  exact h.chain.nodup.length_le_of_subset fun a ha => mem_blocks.mpr (h.blocks a ha)

/-- While a block is held, not all are free. -/
theorem Pooled.length_lt (h : Pooled memory pool held free) (hblock : pool.IsBlock a)
    (ha : a ∉ free) : pool.freeCount < pool.blockCount := by
  rw [← h.length, ← length_blocks]
  refine (List.nodup_cons.mpr ⟨ha, h.chain.nodup⟩).length_le_of_subset ?_
  intro b hb
  rcases List.mem_cons.mp hb with rfl | hb
  · exact mem_blocks.mpr hblock
  · exact mem_blocks.mpr (h.blocks b hb)

/-- A count of blocks is a `size_t`. -/
theorem Mempool.Sound.blockCount_lt (h : pool.Sound) : pool.blockCount < sizeRange := by
  rcases h with hzero | ⟨_, hsize, hstop⟩
  · rw [hzero]
    decide
  · have hle := Nat.mul_le_mul_left pool.blockCount
      (Nat.le_trans (by decide : 1 ≤ pointerSize) hsize)
    rw [Nat.mul_one] at hle
    rw [Mempool.stop] at hstop
    omega

/-- Writes outside the free blocks of a pool, and other blocks that are held beside its own,
do not concern it. -/
theorem Pooled.frame (h : Pooled memory pool held free) {held' : List Nat}
    (hmemory : ∀ a ∈ free, ∀ address, a ≤ address → address < a + pointerSize →
      memory' address = memory address)
    (hheld : ∀ a, pool.IsBlock a → (a ∈ held' ↔ a ∈ held)) : Pooled memory' pool held' free where
  sound := h.sound
  chain := h.chain.congr fun a ha => mempoolLoadNext_congr (hmemory a ha)
  blocks := h.blocks
  apart := fun a ha hin => h.apart a ha ((hheld a (h.blocks a ha)).mp hin)
  all := fun a ha => (h.all a ha).imp_right (hheld a ha).mpr
  length := h.length

/-- The head of the free list is a pointer. -/
theorem Pooled.freeList_lt (h : Pooled memory pool held free) : pool.freeList < sizeRange := by
  cases free with
  | nil =>
    rw [show pool.freeList = 0 from h.chain]
    decide
  | cons a rest =>
    have hblock := h.blocks a List.mem_cons_self
    have hbounds := hblock.bounds
    have hstop := (h.sound.of_block hblock).2.2
    rw [show pool.freeList = a from h.chain.1]
    omega

/-! ### Allocation -/

/-- An allocation from an empty free list changes nothing. -/
theorem xglMempoolAlloc_zero (hptr : (xglMempoolAlloc memory pool).1 = 0) :
    (xglMempoolAlloc memory pool).2 = pool := by
  by_cases hfree : pool.freeList = 0
  · rw [xglMempoolAlloc, if_pos hfree]
  · rw [xglMempoolAlloc, if_neg hfree] at hptr
    exact absurd hptr hfree

/-- An allocation changes the free list and the counts of a pool. -/
theorem xglMempoolAlloc_pool :
    ∃ freeList freeCount peak, (xglMempoolAlloc memory pool).2
      = { pool with freeList := freeList, freeCount := freeCount, peakUsed := peak } := by
  by_cases hfree : pool.freeList = 0
  · rw [xglMempoolAlloc, if_pos hfree]
    exact ⟨pool.freeList, pool.freeCount, pool.peakUsed, rfl⟩
  · rw [xglMempoolAlloc, if_neg hfree]
    exact ⟨_, _, _, rfl⟩

/-- What an allocation does while the chain is not empty. The count does not wrap. -/
theorem Pooled.alloc_eq (h : Pooled memory pool held free) (hfree : pool.freeList ≠ 0) :
    ∃ peak, xglMempoolAlloc memory pool
      = (pool.freeList,
          { pool with
            freeList := mempoolLoadNext memory pool.freeList
            freeCount := pool.freeCount - 1
            peakUsed := peak }) := by
  obtain ⟨rest, hcells, _⟩ := h.chain.pop hfree
  have hlength := h.length
  rw [hcells, List.length_cons] at hlength
  have hcount := h.length_le
  have hrange := h.sound.blockCount_lt
  have hless : (pool.freeCount + sizeRange - 1) % sizeRange = pool.freeCount - 1 := by
    rw [show pool.freeCount + sizeRange - 1 = pool.freeCount - 1 + sizeRange by omega,
      Nat.add_mod_right]
    exact Nat.mod_eq_of_lt (by omega)
  rw [xglMempoolAlloc, if_neg hfree]
  simp only [hless]
  exact ⟨_, rfl⟩

/-- A block that is allocated was the first of the chain, and is now held. -/
theorem Pooled.alloc (h : Pooled memory pool held free)
    (hptr : (xglMempoolAlloc memory pool).1 ≠ 0) :
    ∃ rest, free = (xglMempoolAlloc memory pool).1 :: rest
      ∧ Pooled memory (xglMempoolAlloc memory pool).2 ((xglMempoolAlloc memory pool).1 :: held)
          rest := by
  have hfree : pool.freeList ≠ 0 := by
    intro hzero
    rw [xglMempoolAlloc, if_pos hzero] at hptr
    exact hptr rfl
  -- the head leaves the chain, and the rest is the new chain
  obtain ⟨peak, halloc⟩ := h.alloc_eq hfree
  obtain ⟨rest, rfl, hrest⟩ := h.chain.pop hfree
  have hnodup := List.nodup_cons.mp h.chain.nodup
  rw [halloc]
  refine ⟨rest, rfl, h.sound, hrest, ?_, ?_, ?_, ?_⟩
  · intro a ha
    exact h.blocks a (List.mem_cons_of_mem _ ha)
  · intro a ha hheld
    rcases List.mem_cons.mp hheld with rfl | hheld
    · exact hnodup.1 ha
    · exact h.apart a (List.mem_cons_of_mem _ ha) hheld
  · intro a ha
    rcases h.all a ha with hin | hheld
    · rcases List.mem_cons.mp hin with rfl | hin
      · exact .inr List.mem_cons_self
      · exact .inl hin
    · exact .inr (List.mem_cons_of_mem _ hheld)
  · show rest.length = pool.freeCount - 1
    rw [← h.length, List.length_cons, Nat.add_sub_cancel]

/-! ### Free -/

/-- Freeing what is not held changes nothing: a foreign or misaligned pointer, `NULL`, or a
block that is free already. -/
theorem Pooled.free_not_held (h : Pooled memory pool held free) (hptr : ptr ∉ held) :
    xglMempoolFree memory pool ptr = (memory, pool) := by
  by_cases hzero : ptr = 0
  · rw [xglMempoolFree, if_pos hzero]
  · rw [xglMempoolFree, if_neg hzero]
    apply if_pos
    by_cases hcontains : mempoolContainsBlock pool ptr = true
    · have hblock := (mempoolContainsBlock_iff h.sound).mp hcontains
      have hlisted : mempoolFreeListContains memory pool ptr = true := by
        rw [mempoolFreeListContains, if_neg hzero]
        refine (mempoolScan_iff h.chain ?_).mpr ((h.all ptr hblock).resolve_right hptr)
        rw [h.length]
        exact h.length_le
      rw [hlisted, Bool.or_true]
    · rw [Bool.not_eq_true] at hcontains
      rw [hcontains, Bool.not_false, Bool.true_or, Bool.true_or]

/-- Freeing a block that is held puts it in front of the free list. -/
theorem Pooled.free_held (h : Pooled memory pool held free) (hblock : pool.IsBlock ptr)
    (hptr : ptr ∈ held) :
    xglMempoolFree memory pool ptr
      = (mempoolStoreNext memory ptr pool.freeList,
          { pool with freeList := ptr, freeCount := pool.freeCount + 1 }) := by
  have hnotFree : ptr ∉ free := fun hin => h.apart ptr hin hptr
  have hbounds := hblock.bounds
  have hzero : ptr ≠ 0 := by
    have := (h.sound.of_block hblock).1
    rw [Mempool.start] at hbounds
    omega
  have hlt := h.length_lt hblock hnotFree
  have hrange := h.sound.blockCount_lt
  have hcontains := (mempoolContainsBlock_iff h.sound).mpr hblock
  have hscan : mempoolFreeListContains memory pool ptr = false := by
    rw [mempoolFreeListContains, if_neg hzero, ← Bool.not_eq_true]
    intro hfound
    refine hnotFree ((mempoolScan_iff h.chain ?_).mp hfound)
    rw [h.length]
    exact h.length_le
  rw [xglMempoolFree, if_neg hzero, hcontains, hscan, Bool.not_true, Bool.false_or, Bool.or_false,
    if_neg (by rw [decide_eq_true_eq]; omega), Nat.mod_eq_of_lt (by omega)]

/-- Then it is on the chain, and no longer held. -/
theorem Pooled.returned (h : Pooled memory pool held free) (hblock : pool.IsBlock ptr)
    (hptr : ptr ∈ held) (hnodup : held.Nodup) :
    Pooled (mempoolStoreNext memory ptr pool.freeList)
      { pool with freeList := ptr, freeCount := pool.freeCount + 1 } (held.erase ptr)
      (ptr :: free) := by
  obtain ⟨hpool, hsize, hstop⟩ := h.sound.of_block hblock
  have hbounds := hblock.bounds
  rw [Mempool.start] at hbounds
  have hzero : ptr ≠ 0 := by omega
  constructor
  -- the block goes to the front of the chain
  · exact h.sound
  · refine h.chain.push hzero (mempoolLoadNext_store_self h.freeList_lt) ?_
    intro b hb
    -- the link of another free block is in no byte that was written
    have hne : ptr ≠ b := fun heq => h.apart b hb (heq ▸ hptr)
    have hapart := hblock.apart (h.blocks b hb) hne
    refine mempoolLoadNext_congr fun address hfrom hto => mempoolStoreNext_of_apart ?_
    omega
  · intro b hb
    rcases List.mem_cons.mp hb with rfl | hb
    · exact hblock
    · exact h.blocks b hb
  · intro b hb hheld
    rcases List.mem_cons.mp hb with rfl | hb
    · exact (hnodup.mem_erase_iff.mp hheld).1 rfl
    · exact h.apart b hb (List.mem_of_mem_erase hheld)
  · intro b hb
    by_cases heq : b = ptr
    · exact .inl (heq ▸ List.mem_cons_self)
    · exact (h.all b hb).imp (List.mem_cons_of_mem _) (List.mem_erase_of_ne heq).mpr
  · rw [List.length_cons, h.length]

/-! ### Splitting a buffer -/

variable {buffer bufferSize blockSize : Nat}

/-- The links that were written stay in the blocks they belong to. -/
theorem mempoolLink_outside {count address : Nat} (hsize : pointerSize ≤ blockSize)
    (h : address < buffer ∨ buffer + count * blockSize ≤ address) :
    (mempoolLink memory buffer blockSize count).1 address = memory address := by
  induction count with
  | zero => rfl
  | succ i ih =>
    rw [Nat.succ_mul] at h
    refine (mempoolStoreNext_of_apart ?_).trans (ih ?_)
    · omega
    · omega

/-- The head of the list is the block that was linked last. -/
theorem mempoolLink_head_lt {count : Nat} (hspace : buffer + count * blockSize < sizeRange) :
    (mempoolLink memory buffer blockSize count).2 < sizeRange := by
  cases count with
  | zero => exact (by decide : 0 < sizeRange)
  | succ i =>
    rw [Nat.succ_mul] at hspace
    show buffer + i * blockSize < sizeRange
    omega

/-- After any number of rounds the blocks seen so far are chained, the last one first. -/
theorem mempoolLink_chained {count : Nat} (hbuffer : buffer ≠ 0) (hsize : pointerSize ≤ blockSize)
    (hspace : buffer + count * blockSize < sizeRange) :
    Chained 0 (mempoolLoadNext (mempoolLink memory buffer blockSize count).1)
      (mempoolLink memory buffer blockSize count).2
      ((List.range count).map fun i => buffer + i * blockSize).reverse := by
  induction count with
  | zero => rfl
  | succ i ih =>
    rw [Nat.succ_mul] at hspace
    have hbefore : buffer + i * blockSize < sizeRange := by omega
    rw [List.range_succ, List.map_append, List.map_singleton, List.reverse_append,
      List.reverse_singleton, List.singleton_append]
    have hne : buffer + i * blockSize ≠ 0 := by omega
    refine (ih hbefore).push hne (mempoolLoadNext_store_self (mempoolLink_head_lt hbefore)) ?_
    intro b hb
    obtain ⟨j, hj, rfl⟩ := List.mem_map.mp (List.mem_reverse.mp hb)
    have hle := Nat.mul_le_mul_right blockSize (List.mem_range.mp hj)
    rw [Nat.succ_mul] at hle
    -- an earlier block ends where the new one starts, or before
    refine mempoolLoadNext_congr fun address hfrom hto => mempoolStoreNext_of_apart (.inl ?_)
    omega

/-- What a successful `xgl_mempool_init` leaves. -/
theorem xglMempoolInit_eq (h : (xglMempoolInit memory pool buffer bufferSize blockSize).1 = 0) :
    buffer ≠ 0 ∧ pointerSize ≤ blockSize
      ∧ (xglMempoolInit memory pool buffer bufferSize blockSize).2
        = ((mempoolLink memory buffer blockSize (bufferSize / blockSize)).1,
            { pool := buffer, blockSize := blockSize, blockCount := bufferSize / blockSize,
              freeCount := bufferSize / blockSize, peakUsed := 0,
              freeList := (mempoolLink memory buffer blockSize (bufferSize / blockSize)).2 }) := by
  unfold xglMempoolInit at h ⊢
  by_cases hargs : buffer = 0 ∨ bufferSize = 0 ∨ blockSize = 0
  · rw [if_pos hargs] at h
    cases h
  by_cases hsmall : blockSize < pointerSize
  · rw [if_neg hargs, if_pos hsmall] at h
    cases h
  by_cases hnone : bufferSize / blockSize = 0
  · rw [if_neg hargs, if_neg hsmall, if_pos hnone] at h
    cases h
  rw [if_neg hargs, if_neg hsmall, if_neg hnone]
  exact ⟨fun hzero => hargs (.inl hzero), Nat.not_lt.mp hsmall, rfl⟩

/-- A buffer that was split: all blocks are free, they lie in the buffer, and memory outside
is as it was. -/
theorem pooled_init (h : (xglMempoolInit memory pool buffer bufferSize blockSize).1 = 0)
    (hspace : buffer + bufferSize < sizeRange) :
    ∃ memory' pool' free, (xglMempoolInit memory pool buffer bufferSize blockSize).2
        = (memory', pool')
      ∧ Pooled memory' pool' [] free
      ∧ pool'.blockSize = blockSize
      ∧ pool'.start = buffer ∧ pool'.stop ≤ buffer + bufferSize
      ∧ ∀ address, address < buffer ∨ buffer + bufferSize ≤ address →
          memory' address = memory address := by
  obtain ⟨hbuffer, hsize, heq⟩ := xglMempoolInit_eq h
  have hfits : bufferSize / blockSize * blockSize ≤ bufferSize := Nat.div_mul_le_self _ _
  refine ⟨_, _, _, heq, ⟨.inr ⟨hbuffer, hsize, ?_⟩, mempoolLink_chained hbuffer hsize (by omega),
    ?_, ?_, ?_, ?_⟩, rfl, rfl, ?_, ?_⟩
  · show buffer + bufferSize / blockSize * blockSize < sizeRange
    omega
  · intro a ha
    obtain ⟨i, hi, rfl⟩ := List.mem_map.mp (List.mem_reverse.mp ha)
    exact ⟨i, List.mem_range.mp hi, rfl⟩
  · exact fun _ _ => List.not_mem_nil
  · intro a ⟨i, hi, heq⟩
    exact .inl (List.mem_reverse.mpr (List.mem_map.mpr ⟨i, List.mem_range.mpr hi, heq.symm⟩))
  · rw [List.length_reverse, List.length_map, List.length_range]
  · show buffer + bufferSize / blockSize * blockSize ≤ buffer + bufferSize
    omega
  · intro address houtside
    exact mempoolLink_outside hsize (by omega)

/-! ### A run of one pool -/

/-- The blocks of a pool are those of another: only the free list and the counts differ. -/
def SameBlocks (pool pool' : Mempool) : Prop :=
  pool'.pool = pool.pool ∧ pool'.blockSize = pool.blockSize ∧ pool'.blockCount = pool.blockCount

/-- A caller may write into a block it holds, and outside the pool. -/
def MayWrite (pool : Mempool) (held : List Nat) (address : Nat) : Prop :=
  (∃ a ∈ held, pool.IsBlock a ∧ a ≤ address ∧ address < a + pool.blockSize)
    ∨ address < pool.start ∨ pool.stop ≤ address

/-- What a pool is to its callers: the free list ends, has each free block once and none that
is held, its length is the count, a free of a held block puts it in front, and a free of
anything that is not held does nothing. -/
structure PoolIntact (memory : Memory) (pool : Mempool) (held : List Nat) : Prop where
  freeList : ∃ free, Chained 0 (mempoolLoadNext memory) pool.freeList free ∧ free.Nodup
    ∧ (∀ a ∈ free, pool.IsBlock a) ∧ (∀ a ∈ free, a ∉ held) ∧ free.length = pool.freeCount
  goodFree : ∀ ptr, ptr ∈ held → pool.IsBlock ptr →
    (xglMempoolFree memory pool ptr).2.freeList = ptr
      ∧ (xglMempoolFree memory pool ptr).2.freeCount = pool.freeCount + 1
  badFree : ∀ ptr, ptr ∉ held → xglMempoolFree memory pool ptr = (memory, pool)

/-- The invariant says what a caller relies on. -/
theorem Pooled.intact (h : Pooled memory pool held free) : PoolIntact memory pool held where
  freeList := ⟨free, h.chain, h.chain.nodup, h.blocks, h.apart, h.length⟩
  goodFree := by
    intro ptr hptr hblock
    rw [h.free_held hblock hptr]
    exact ⟨rfl, rfl⟩
  badFree := fun _ hptr => h.free_not_held hptr

/-- A write of a caller touches no link. -/
theorem Pooled.write (h : Pooled memory pool held free) {address : Nat} {byte : UInt8}
    (hwrite : MayWrite pool held address) :
    Pooled (Function.update memory address byte) pool held free := by
  refine h.frame ?_ fun _ _ => Iff.rfl
  intro a ha other hfrom hto
  apply Function.update_of_ne
  rintro rfl
  have hblock := h.blocks a ha
  have hsize := (h.sound.of_block hblock).2.1
  have hbounds := hblock.bounds
  rcases hwrite with ⟨b, hb, hheld, hle, hlt⟩ | hlt | hge
  · have hne : a ≠ b := fun heq => h.apart a ha (heq ▸ hb)
    have hapart := hblock.apart hheld hne
    omega
  · omega
  · omega

/-- Callers write where they may. -/
def ProperUse (run : MempoolRun) : MempoolCall → Prop
  | .alloc => True
  | .free _ => True
  | .write address _ => MayWrite run.pool run.held address

/-- What every state of a run satisfies. -/
structure MempoolHolds (start : Mempool) (run : MempoolRun) : Prop where
  pooled : ∃ free, Pooled run.memory run.pool run.held free
  same : SameBlocks start run.pool
  nodup : run.held.Nodup
  blocks : ∀ a ∈ run.held, run.pool.IsBlock a

/-- A block of the one is a block of the other. -/
theorem SameBlocks.isBlock_iff {pool' : Mempool} (h : SameBlocks pool pool') :
    pool'.IsBlock a ↔ pool.IsBlock a := by
  rw [Mempool.IsBlock, Mempool.IsBlock, h.1, h.2.1, h.2.2]

/-- The geometry stays the same over two steps. -/
theorem SameBlocks.trans {pool' pool'' : Mempool} (h : SameBlocks pool pool')
    (h' : SameBlocks pool' pool'') : SameBlocks pool pool'' :=
  ⟨h'.1.trans h.1, h'.2.1.trans h.2.1, h'.2.2.trans h.2.2⟩

/-- An allocation keeps the geometry. -/
theorem sameBlocks_alloc : SameBlocks pool (xglMempoolAlloc memory pool).2 := by
  obtain ⟨freeList, freeCount, peak, heq⟩ := @xglMempoolAlloc_pool memory pool
  rw [heq]
  exact ⟨rfl, rfl, rfl⟩

/-- A block that is handed out is a block of the pool that nobody held. -/
theorem Pooled.alloc_fresh (h : Pooled memory pool held free)
    (hptr : (xglMempoolAlloc memory pool).1 ≠ 0) :
    pool.IsBlock (xglMempoolAlloc memory pool).1 ∧ (xglMempoolAlloc memory pool).1 ∉ held := by
  obtain ⟨rest, hfree, _⟩ := h.alloc hptr
  have hmem : (xglMempoolAlloc memory pool).1 ∈ free := by
    rw [hfree]
    exact List.mem_cons_self
  exact ⟨h.blocks _ hmem, h.apart _ hmem⟩

/-- One call keeps them. -/
theorem MempoolHolds.step {start : Mempool} {run : MempoolRun} (h : MempoolHolds start run)
    {call : MempoolCall} (hproper : ProperUse run call) : MempoolHolds start (run.step call) := by
  obtain ⟨⟨free, hpooled⟩, hsame, hnodup, hblocks⟩ := h
  cases call with
  | alloc =>
    -- an allocation from an empty pool does nothing
    by_cases hptr : (xglMempoolAlloc run.memory run.pool).1 = 0
    · have hstep : run.step .alloc = run := by
        simp only [MempoolRun.step, hptr, if_true, xglMempoolAlloc_zero hptr]
      rw [hstep]
      exact ⟨⟨free, hpooled⟩, hsame, hnodup, hblocks⟩
    · obtain ⟨rest, _, hrest⟩ := hpooled.alloc hptr
      obtain ⟨hblock, hfresh⟩ := hpooled.alloc_fresh hptr
      have hgrown := @sameBlocks_alloc run.memory run.pool
      have hstep : run.step .alloc
          = { memory := run.memory, pool := (xglMempoolAlloc run.memory run.pool).2,
              held := (xglMempoolAlloc run.memory run.pool).1 :: run.held } := by
        simp only [MempoolRun.step, hptr, if_false]
      rw [hstep]
      refine ⟨⟨rest, hrest⟩, hsame.trans hgrown, List.nodup_cons.mpr ⟨hfresh, hnodup⟩, ?_⟩
      intro a ha
      rw [hgrown.isBlock_iff]
      rcases List.mem_cons.mp ha with rfl | ha
      · exact hblock
      · exact hblocks a ha
  | free ptr =>
    -- a free of what is not held does nothing
    by_cases hptr : ptr ∈ run.held
    · have hblock := hblocks ptr hptr
      have hstep : run.step (.free ptr)
          = { memory := mempoolStoreNext run.memory ptr run.pool.freeList,
              pool := { run.pool with freeList := ptr, freeCount := run.pool.freeCount + 1 },
              held := run.held.erase ptr } := by
        simp only [MempoolRun.step, hpooled.free_held hblock hptr]
      rw [hstep]
      exact ⟨⟨ptr :: free, hpooled.returned hblock hptr hnodup⟩, hsame, hnodup.erase ptr,
        fun a ha => hblocks a (List.mem_of_mem_erase ha)⟩
    · have hstep : run.step (.free ptr) = run := by
        simp only [MempoolRun.step, hpooled.free_not_held hptr, List.erase_of_not_mem hptr]
      rw [hstep]
      exact ⟨⟨free, hpooled⟩, hsame, hnodup, hblocks⟩
  | write address byte =>
    exact ⟨⟨free, hpooled.write hproper⟩, hsame, hnodup, hblocks⟩

end XgenLink
