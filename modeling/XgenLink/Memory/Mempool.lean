import XgenLink.Lib.Bytes

/-!
# `XgenLink.Memory.Mempool`: fixed-size blocks of one buffer

`xgl_mempool.c` splits a buffer into blocks of one size. The free blocks are a list that is
threaded through the blocks themselves: the first eight bytes of a free block are the address
of the next one. A caller may write anything into a block it holds.

Addresses and sizes are numbers below 2^64; sums and differences are reduced where the source
may wrap. Memory is a byte at each address, and a pointer in memory is its eight bytes, the
low one first.
-/

set_option autoImplicit false

namespace XgenLink

/-! ### Memory -/

/-- The bytes of the address space. -/
abbrev Memory := Nat → UInt8

/-- `sizeof(void*)`. -/
def pointerSize : Nat := 8

/-- The values of a `size_t` and of a pointer. -/
def sizeRange : Nat := 2 ^ 64

/-- `mempool_store_next`. -/
def mempoolStoreNext (memory : Memory) (block next : Nat) : Memory := fun address =>
  if block ≤ address ∧ address < block + pointerSize then
    byteAt (natToLe pointerSize next) (address - block)
  else memory address

/-- `mempool_load_next`. -/
def mempoolLoadNext (memory : Memory) (block : Nat) : Nat :=
  natOfLe ((List.range pointerSize).map fun i => memory (block + i))

/-! ### One pool -/

/-- `xgl_mempool_t`. -/
structure Mempool where
  pool : Nat := 0
  blockSize : Nat := 0
  blockCount : Nat := 0
  freeCount : Nat := 0
  peakUsed : Nat := 0
  freeList : Nat := 0
  deriving DecidableEq, Repr

/-- `mempool_size_overflows`. -/
def mempoolSizeOverflows (count blockSize : Nat) : Bool :=
  blockSize ≠ 0 && count > (sizeRange - 1) / blockSize

/-- `mempool_contains_block`. -/
def mempoolContainsBlock (pool : Mempool) (ptr : Nat) : Bool :=
  if pool.pool = 0 ∨ ptr = 0 ∨ pool.blockSize = 0 ∨ pool.blockCount = 0
      ∨ mempoolSizeOverflows pool.blockCount pool.blockSize then false
  else
    let start := pool.pool
    let stop := (start + pool.blockCount * pool.blockSize) % sizeRange
    if ptr < start ∨ ptr ≥ stop then false else (ptr - start) % pool.blockSize == 0

/-- The loop of `mempool_free_list_contains`: at most as many blocks as are given are
looked at. -/
def mempoolScan (memory : Memory) (ptr : Nat) : Nat → Nat → Bool
  | 0, _ => false
  | count + 1, current =>
    if current = 0 then false
    else if current = ptr then true
    else mempoolScan memory ptr count (mempoolLoadNext memory current)

/-- `mempool_free_list_contains`. -/
def mempoolFreeListContains (memory : Memory) (pool : Mempool) (ptr : Nat) : Bool :=
  if ptr = 0 then false else mempoolScan memory ptr pool.blockCount pool.freeList

/-- The loop of `xgl_mempool_init` after a number of its rounds: the memory and the head of
the free list. -/
def mempoolLink (memory : Memory) (buffer blockSize : Nat) : Nat → Memory × Nat
  | 0 => (memory, 0)
  | i + 1 =>
    let linked := mempoolLink memory buffer blockSize i
    let block := buffer + i * blockSize
    (mempoolStoreNext linked.1 block linked.2, block)

/-- `xgl_mempool_init`: the result, the memory and the pool afterwards. -/
def xglMempoolInit (memory : Memory) (pool : Mempool) (buffer bufferSize blockSize : Nat) :
    Int × Memory × Mempool :=
  if buffer = 0 ∨ bufferSize = 0 ∨ blockSize = 0 then (-1, memory, pool)
  else if blockSize < pointerSize then (-1, memory, pool)
  else
    let blockCount := bufferSize / blockSize
    if blockCount = 0 then (-1, memory, { pool with blockCount := blockCount })
    else
      let linked := mempoolLink memory buffer blockSize blockCount
      (0, linked.1,
        { pool := buffer, blockSize := blockSize, blockCount := blockCount,
          freeCount := blockCount, peakUsed := 0, freeList := linked.2 })

/-- `xgl_mempool_destroy`. -/
def xglMempoolDestroy (_pool : Mempool) : Mempool := {}

/-- `xgl_mempool_alloc`: the block, 0 for `NULL`, and the pool afterwards. -/
def xglMempoolAlloc (memory : Memory) (pool : Mempool) : Nat × Mempool :=
  if pool.freeList = 0 then (0, pool)
  else
    let block := pool.freeList
    let freeCount := (pool.freeCount + sizeRange - 1) % sizeRange
    let usedCount := (pool.blockCount + sizeRange - freeCount) % sizeRange
    (block,
      { pool with
        freeList := mempoolLoadNext memory block
        freeCount := freeCount
        peakUsed := if usedCount > pool.peakUsed then usedCount else pool.peakUsed })

/-- `xgl_mempool_free`: the memory and the pool afterwards. -/
def xglMempoolFree (memory : Memory) (pool : Mempool) (ptr : Nat) : Memory × Mempool :=
  if ptr = 0 then (memory, pool)
  else if !mempoolContainsBlock pool ptr || pool.freeCount ≥ pool.blockCount
      || mempoolFreeListContains memory pool ptr then (memory, pool)
  else
    (mempoolStoreNext memory ptr pool.freeList,
      { pool with freeList := ptr, freeCount := (pool.freeCount + 1) % sizeRange })

/-! ### Runs -/

/-- A pool in memory, and the blocks its callers hold: those they were given and have not
returned. -/
structure MempoolRun where
  memory : Memory
  pool : Mempool
  held : List Nat := []

/-- A call into the pool with any pointer, or a caller that writes a byte. -/
inductive MempoolCall where
  | alloc
  | free (ptr : Nat)
  | write (address : Nat) (byte : UInt8)

/-- What a call or a write does. -/
def MempoolRun.step (run : MempoolRun) : MempoolCall → MempoolRun
  | .alloc =>
    let out := xglMempoolAlloc run.memory run.pool
    { run with
      pool := out.2
      held := if out.1 = 0 then run.held else out.1 :: run.held }
  | .free ptr =>
    let out := xglMempoolFree run.memory run.pool ptr
    { memory := out.1, pool := out.2, held := run.held.erase ptr }
  | .write address byte =>
    { run with memory := Function.update run.memory address byte }

end XgenLink
