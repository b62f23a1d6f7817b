import XgenLink.Memory.Mempool

/-!
# `XgenLink.Memory.TieredPool`: three pools behind one interface

`xgl_tiered_pool.c` over buffers of the application: a pool of small, one of medium and one
of large blocks. An allocation is served by the first tier that is large enough and has a
block left; a free looks at the address only, not at the size it is given.
-/

set_option autoImplicit false

namespace XgenLink

/-- The three pools. -/
inductive Tier where
  | small
  | medium
  | large
  deriving DecidableEq, Repr

/-- `XGL_TIERED_POOL_SMALL_SIZE`, `XGL_TIERED_POOL_MEDIUM_SIZE`, `XGL_TIERED_POOL_LARGE_SIZE`. -/
def Tier.size : Tier → Nat
  | .small => 64
  | .medium => 256
  | .large => 1024

/-- `xgl_tiered_pool_t`. -/
structure TieredPool where
  smallPool : Mempool := {}
  mediumPool : Mempool := {}
  largePool : Mempool := {}
  smallBuffer : Nat := 0
  mediumBuffer : Nat := 0
  largeBuffer : Nat := 0
  smallCount : Nat := 0
  mediumCount : Nat := 0
  largeCount : Nat := 0
  ownsBuffers : Bool := false
  deriving DecidableEq, Repr

/-- The pool of a tier. -/
def TieredPool.tier (pool : TieredPool) : Tier → Mempool
  | .small => pool.smallPool
  | .medium => pool.mediumPool
  | .large => pool.largePool

/-- How many blocks a tier was set up with. -/
def TieredPool.count (pool : TieredPool) : Tier → Nat
  | .small => pool.smallCount
  | .medium => pool.mediumCount
  | .large => pool.largeCount

/-- The pool with another pool in a tier. -/
def TieredPool.setTier (pool : TieredPool) (mempool : Mempool) : Tier → TieredPool
  | .small => { pool with smallPool := mempool }
  | .medium => { pool with mediumPool := mempool }
  | .large => { pool with largePool := mempool }

/-- `tiered_pool_size_overflows`. -/
def tieredPoolSizeOverflows (count blockSize : Nat) : Bool :=
  count > (sizeRange - 1) / blockSize

/-- `tiered_pool_init_one`. -/
def tieredPoolInitOne (memory : Memory) (mempool : Mempool) (buffer count blockSize : Nat) :
    Int × Memory × Mempool :=
  if count = 0 then (0, memory, mempool)
  else if buffer = 0 ∨ tieredPoolSizeOverflows count blockSize then (-1, memory, mempool)
  else xglMempoolInit memory mempool buffer (count * blockSize % sizeRange) blockSize

/-- `tiered_pool_contains_block`, word for word the test of a single pool. -/
def tieredPoolContainsBlock (mempool : Mempool) (ptr : Nat) : Bool :=
  if mempool.pool = 0 ∨ ptr = 0 ∨ mempool.blockSize = 0 ∨ mempool.blockCount = 0
      ∨ tieredPoolSizeOverflows mempool.blockCount mempool.blockSize then false
  else
    let start := mempool.pool
    let stop := (start + mempool.blockCount * mempool.blockSize) % sizeRange
    if ptr < start ∨ ptr ≥ stop then false else (ptr - start) % mempool.blockSize == 0

/-- `xgl_tiered_pool_init_static`: the result, the memory and the pool. Where a tier fails,
those before it have already linked their blocks. -/
def xglTieredPoolInitStatic (memory : Memory) (smallBuffer smallCount mediumBuffer mediumCount
    largeBuffer largeCount : Nat) : Int × Memory × TieredPool :=
  let small := tieredPoolInitOne memory {} smallBuffer smallCount Tier.small.size
  if small.1 ≠ 0 then (-1, small.2.1, {})
  else
    let medium := tieredPoolInitOne small.2.1 {} mediumBuffer mediumCount Tier.medium.size
    if medium.1 ≠ 0 then (-1, medium.2.1, {})
    else
      let large := tieredPoolInitOne medium.2.1 {} largeBuffer largeCount Tier.large.size
      if large.1 ≠ 0 then (-1, large.2.1, {})
      else
        (0, large.2.1,
          { smallPool := small.2.2
            mediumPool := medium.2.2
            largePool := large.2.2
            smallBuffer := if smallCount > 0 then smallBuffer else 0
            mediumBuffer := if mediumCount > 0 then mediumBuffer else 0
            largeBuffer := if largeCount > 0 then largeBuffer else 0
            smallCount := smallCount
            mediumCount := mediumCount
            largeCount := largeCount
            ownsBuffers := false })

/-- One of the three attempts of `xgl_tiered_pool_alloc`: the block and the pool, if the tier
is large enough, set up, and not exhausted. -/
def tieredPoolTry (memory : Memory) (pool : TieredPool) (size : Nat) (tier : Tier) :
    Option (Nat × TieredPool) :=
  if size ≤ tier.size ∧ pool.count tier > 0 then
    let out := xglMempoolAlloc memory (pool.tier tier)
    if out.1 ≠ 0 then some (out.1, pool.setTier out.2 tier) else none
  else none

/-- `xgl_tiered_pool_alloc`: the block, 0 for `NULL`, and the pool afterwards. -/
def xglTieredPoolAlloc (memory : Memory) (pool : TieredPool) (size : Nat) : Nat × TieredPool :=
  if size = 0 then (0, pool)
  else
    match tieredPoolTry memory pool size .small with
    | some out => out
    | none =>
      match tieredPoolTry memory pool size .medium with
      | some out => out
      | none =>
        match tieredPoolTry memory pool size .large with
        | some out => out
        | none => (0, pool)

/-- A free that one tier takes. -/
def tieredPoolFreeIn (memory : Memory) (pool : TieredPool) (ptr : Nat) (tier : Tier) :
    Memory × TieredPool :=
  let out := xglMempoolFree memory (pool.tier tier) ptr
  (out.1, pool.setTier out.2 tier)

/-- `xgl_tiered_pool_free`: the memory and the pool afterwards. -/
def xglTieredPoolFree (memory : Memory) (pool : TieredPool) (ptr size : Nat) :
    Memory × TieredPool :=
  if ptr = 0 ∨ size = 0 then (memory, pool)
  else if tieredPoolContainsBlock pool.smallPool ptr then
    tieredPoolFreeIn memory pool ptr .small
  else if tieredPoolContainsBlock pool.mediumPool ptr then
    tieredPoolFreeIn memory pool ptr .medium
  else if tieredPoolContainsBlock pool.largePool ptr then
    tieredPoolFreeIn memory pool ptr .large
  else (memory, pool)

/-! ### Runs -/

/-- A tiered pool in memory, and the blocks its callers hold. -/
structure TieredRun where
  memory : Memory
  pool : TieredPool
  held : List Nat := []

/-- A call into the pool, or a caller that writes a byte. -/
inductive TieredCall where
  | alloc (size : Nat)
  | free (ptr size : Nat)
  | write (address : Nat) (byte : UInt8)

/-- What a call or a write does. A free of size 0 is none: the caller keeps the block. -/
def TieredRun.step (run : TieredRun) : TieredCall → TieredRun
  | .alloc size =>
    let out := xglTieredPoolAlloc run.memory run.pool size
    { run with
      pool := out.2
      held := if out.1 = 0 then run.held else out.1 :: run.held }
  | .free ptr size =>
    let out := xglTieredPoolFree run.memory run.pool ptr size
    { memory := out.1, pool := out.2,
      held := if size = 0 then run.held else run.held.erase ptr }
  | .write address byte =>
    { run with memory := Function.update run.memory address byte }

end XgenLink
