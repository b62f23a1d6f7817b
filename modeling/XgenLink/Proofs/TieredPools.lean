import XgenLink.Proofs.BlockPools

/-!
# `XgenLink.Proofs.TieredPools`: three pools whose buffers are apart

A tiered pool has a pool of small, one of medium and one of large blocks, each over a buffer of its
own. An allocation tries the tiers from the smallest one that is large enough up to the largest,
so a block can be larger than was asked for. A free has the address and the size that the caller
remembers; the size plays no part. The block goes back to the tier whose buffer it lies in:
buffers are apart, so one tier at most passes the test.

Each tier keeps the invariant of a single pool (`XgenLink.Proofs.BlockPools`), since no tier writes
into the buffer of another. What is left to show after a call is what has changed in one tier.

* `xglTieredPoolAlloc_cases`, `xglTieredPoolFree_owned`: the calls by the tier they go to.
* `TieredHolds`, `TieredHolds.setTier`: the invariant, and one tier changed.
* `TieredHolds.step`: one call keeps it.
* `tieredHolds_initStatic`: it holds of a pool just set up.
* `TieredIntact`, `block_pools_intact`: what a tiered pool is to its callers, after any run.
-/

set_option autoImplicit false

namespace XgenLink

variable {memory memory' : Memory} {pool : TieredPool} {held : List Nat} {tier other : Tier}
  {ptr size : Nat}

/-! ### The tiers of a pool -/

/-- Both tests for blocks are one: a block size of zero is refused before the division. -/
theorem tieredPoolContainsBlock_eq : tieredPoolContainsBlock = mempoolContainsBlock := by
  funext mempool ptr
  by_cases hzero : mempool.blockSize = 0
  · simp [tieredPoolContainsBlock, mempoolContainsBlock, hzero]
  · simp [tieredPoolContainsBlock, mempoolContainsBlock, tieredPoolSizeOverflows,
      mempoolSizeOverflows, hzero]

/-- The pool of the tier that was replaced. -/
@[simp] theorem tier_setTier_self (mempool : Mempool) :
    (pool.setTier mempool tier).tier tier = mempool := by
  cases tier <;> rfl

/-- The pools of the other tiers. -/
theorem tier_setTier_of_ne {mempool : Mempool} (h : other ≠ tier) :
    (pool.setTier mempool tier).tier other = pool.tier other := by
  cases tier <;> cases other <;> first | rfl | exact absurd rfl h

/-- What an allocation does: nothing, or it takes the first block of one tier that is large
enough. -/
theorem xglTieredPoolAlloc_cases (memory : Memory) (pool : TieredPool) (size : Nat) :
    xglTieredPoolAlloc memory pool size = (0, pool)
      ∨ ∃ tier, size ≤ tier.size ∧ (xglMempoolAlloc memory (pool.tier tier)).1 ≠ 0
          ∧ xglTieredPoolAlloc memory pool size
            = ((xglMempoolAlloc memory (pool.tier tier)).1,
                pool.setTier (xglMempoolAlloc memory (pool.tier tier)).2 tier) := by
  have htry : ∀ {tier out}, tieredPoolTry memory pool size tier = some out →
      size ≤ tier.size ∧ (xglMempoolAlloc memory (pool.tier tier)).1 ≠ 0
        ∧ out = ((xglMempoolAlloc memory (pool.tier tier)).1,
            pool.setTier (xglMempoolAlloc memory (pool.tier tier)).2 tier) := by
    intro tier out hout
    rw [tieredPoolTry] at hout
    by_cases hfits : size ≤ tier.size ∧ pool.count tier > 0
    · rw [if_pos hfits] at hout
      by_cases hptr : (xglMempoolAlloc memory (pool.tier tier)).1 ≠ 0
      · exact ⟨hfits.1, hptr, (Option.some.inj ((if_pos hptr).symm.trans hout)).symm⟩
      · cases (if_neg hptr).symm.trans hout
    · rw [if_neg hfits] at hout
      cases hout
  rw [xglTieredPoolAlloc]
  by_cases hzero : size = 0
  · rw [if_pos hzero]
    exact .inl rfl
  rw [if_neg hzero]
  -- the tiers are tried from small to large
  split
  · rename_i out hsmall
    obtain ⟨hsize, hptr, rfl⟩ := htry hsmall
    exact .inr ⟨.small, hsize, hptr, rfl⟩
  split
  · rename_i out hmedium
    obtain ⟨hsize, hptr, rfl⟩ := htry hmedium
    exact .inr ⟨.medium, hsize, hptr, rfl⟩
  split
  · rename_i out hlarge
    obtain ⟨hsize, hptr, rfl⟩ := htry hlarge
    exact .inr ⟨.large, hsize, hptr, rfl⟩
  · exact .inl rfl

/-! ### The invariant -/

/-- What every state of a run satisfies. -/
structure TieredHolds (start : TieredPool) (run : TieredRun) : Prop where
  pooled : ∀ tier, ∃ free, Pooled run.memory (run.pool.tier tier) run.held free
  /-- The buffers of the tiers are apart. -/
  apart : ∀ tier other, tier ≠ other →
    Apart Mempool.start Mempool.stop (run.pool.tier tier) (run.pool.tier other)
  /-- A tier with blocks has blocks of its size. -/
  size : ∀ tier, (run.pool.tier tier).blockCount = 0 ∨ (run.pool.tier tier).blockSize = tier.size
  same : ∀ tier, SameBlocks (start.tier tier) (run.pool.tier tier)
  nodup : run.held.Nodup
  owned : ∀ a ∈ run.held, ∃ tier, (run.pool.tier tier).IsBlock a

variable {start : TieredPool} {run : TieredRun}

/-- An address is a block of one tier at most. -/
theorem TieredHolds.one_tier (h : TieredHolds start run) (ha : (run.pool.tier tier).IsBlock ptr)
    (hb : (run.pool.tier other).IsBlock ptr) : tier = other := by
  by_contra hne
  obtain ⟨free, hpooled⟩ := h.pooled tier
  have hsize := (hpooled.sound.of_block ha).2.1
  have hboundsA := ha.bounds
  have hboundsB := hb.bounds
  rw [pointerSize] at hsize
  obtain ⟨free', hpooled'⟩ := h.pooled other
  have hsize' := (hpooled'.sound.of_block hb).2.1
  rw [pointerSize] at hsize'
  rcases h.apart tier other hne with hle | hle <;> omega

/-- A block is as large as its tier says. -/
theorem TieredHolds.block_size (h : TieredHolds start run)
    (ha : (run.pool.tier tier).IsBlock ptr) : (run.pool.tier tier).blockSize = tier.size := by
  rcases h.size tier with hzero | hsize
  · obtain ⟨i, hi, _⟩ := ha
    omega
  · exact hsize

/-- A free whose pointer no tier owns does nothing. -/
theorem xglTieredPoolFree_foreign
    (h : ∀ tier, tieredPoolContainsBlock (pool.tier tier) ptr = false) :
    xglTieredPoolFree memory pool ptr size = (memory, pool) := by
  have hsmall : tieredPoolContainsBlock pool.smallPool ptr = false := h .small
  have hmedium : tieredPoolContainsBlock pool.mediumPool ptr = false := h .medium
  have hlarge : tieredPoolContainsBlock pool.largePool ptr = false := h .large
  simp [xglTieredPoolFree, hsmall, hmedium, hlarge]

/-- A free whose pointer one tier owns goes to that tier. -/
theorem xglTieredPoolFree_owned (hptr : ptr ≠ 0) (hsize : size ≠ 0)
    (howner : tieredPoolContainsBlock (pool.tier tier) ptr = true)
    (hothers : ∀ other, other ≠ tier → tieredPoolContainsBlock (pool.tier other) ptr = false) :
    xglTieredPoolFree memory pool ptr size = tieredPoolFreeIn memory pool ptr tier := by
  rw [xglTieredPoolFree, if_neg (not_or.mpr ⟨hptr, hsize⟩)]
  cases tier with
  | small => exact if_pos howner
  | medium =>
    have hsmall : tieredPoolContainsBlock pool.smallPool ptr = false := hothers .small (by decide)
    rw [hsmall]
    exact if_pos howner
  | large =>
    have hsmall : tieredPoolContainsBlock pool.smallPool ptr = false := hothers .small (by decide)
    have hmedium : tieredPoolContainsBlock pool.mediumPool ptr = false :=
      hothers .medium (by decide)
    rw [hsmall, hmedium]
    exact if_pos howner

/-- The test of a tier tells its blocks. -/
theorem TieredHolds.contains_iff (h : TieredHolds start run) :
    tieredPoolContainsBlock (run.pool.tier tier) ptr = true
      ↔ (run.pool.tier tier).IsBlock ptr := by
  obtain ⟨free, hpooled⟩ := h.pooled tier
  rw [tieredPoolContainsBlock_eq]
  exact mempoolContainsBlock_iff hpooled.sound

/-- A free goes to the tier that owns the address, whatever size is passed. -/
theorem TieredHolds.free_owned (h : TieredHolds start run) (hsize : size ≠ 0)
    (hblock : (run.pool.tier tier).IsBlock ptr) :
    xglTieredPoolFree run.memory run.pool ptr size
      = tieredPoolFreeIn run.memory run.pool ptr tier := by
  obtain ⟨free, hpooled⟩ := h.pooled tier
  have hbounds := hblock.bounds
  have hbase := (hpooled.sound.of_block hblock).1
  have hptr : ptr ≠ 0 := by
    rw [Mempool.start] at hbounds
    omega
  refine xglTieredPoolFree_owned hptr hsize (h.contains_iff.mpr hblock) fun other hne => ?_
  rw [← Bool.not_eq_true, h.contains_iff]
  exact fun hother => hne (h.one_tier hother hblock)

/-- A free of what is not held does nothing. -/
theorem TieredHolds.free_not_held (h : TieredHolds start run) (hptr : ptr ∉ run.held) :
    xglTieredPoolFree run.memory run.pool ptr size = (run.memory, run.pool) := by
  by_cases hsize : size = 0
  · rw [xglTieredPoolFree, if_pos (.inr hsize)]
  by_cases howned : ∃ tier, (run.pool.tier tier).IsBlock ptr
  · obtain ⟨tier, hblock⟩ := howned
    obtain ⟨free, hpooled⟩ := h.pooled tier
    rw [h.free_owned hsize hblock, tieredPoolFreeIn, hpooled.free_not_held hptr]
    cases tier <;> rfl
  · refine xglTieredPoolFree_foreign fun tier => ?_
    rw [← Bool.not_eq_true, h.contains_iff]
    exact fun hblock => howned ⟨tier, hblock⟩

/-- A free of a block that is held puts it in front of the free list of its tier. -/
theorem TieredHolds.free_held (h : TieredHolds start run) (hsize : size ≠ 0)
    (hblock : (run.pool.tier tier).IsBlock ptr) (hptr : ptr ∈ run.held) :
    xglTieredPoolFree run.memory run.pool ptr size
      = (mempoolStoreNext run.memory ptr (run.pool.tier tier).freeList,
          run.pool.setTier
            { run.pool.tier tier with
              freeList := ptr, freeCount := (run.pool.tier tier).freeCount + 1 } tier) := by
  obtain ⟨free, hpooled⟩ := h.pooled tier
  rw [h.free_owned hsize hblock, tieredPoolFreeIn, hpooled.free_held hblock hptr]

/-! ### One call -/

/-- The same blocks start at the same address. -/
theorem SameBlocks.start_eq {mempool mempool' : Mempool} (h : SameBlocks mempool mempool') :
    mempool'.start = mempool.start :=
  h.1

/-- They end at the same address. -/
theorem SameBlocks.stop_eq {mempool mempool' : Mempool} (h : SameBlocks mempool mempool') :
    mempool'.stop = mempool.stop := by
  rw [Mempool.stop, Mempool.stop, h.1, h.2.1, h.2.2]

/-- Replacing the pool of a tier by one of the same blocks changes the blocks of no tier. -/
theorem sameBlocks_setTier {mempool : Mempool} (h : SameBlocks (pool.tier tier) mempool)
    (other : Tier) : SameBlocks (pool.tier other) ((pool.setTier mempool tier).tier other) := by
  by_cases heq : other = tier
  · subst heq
    rw [tier_setTier_self]
    exact h
  · rw [tier_setTier_of_ne heq]
    exact ⟨rfl, rfl, rfl⟩

/-- What is left to show after one tier changed. -/
theorem TieredHolds.setTier (h : TieredHolds start run) {mempool : Mempool}
    (hsame : SameBlocks (run.pool.tier tier) mempool)
    (hself : ∃ free, Pooled memory' mempool held free)
    (hothers : ∀ other, other ≠ tier → ∃ free, Pooled memory' (run.pool.tier other) held free)
    (hnodup : held.Nodup) (howned : ∀ a ∈ held, ∃ tier, (run.pool.tier tier).IsBlock a) :
    TieredHolds start
      { memory := memory', pool := run.pool.setTier mempool tier, held := held } := by
  have hblocks := sameBlocks_setTier hsame
  constructor
  · intro other
    by_cases heq : other = tier
    · subst heq
      exact (@tier_setTier_self run.pool other mempool).symm ▸ hself
    · exact (@tier_setTier_of_ne run.pool tier other mempool heq).symm ▸ hothers other heq
  · intro first second hne
    have hapart := h.apart first second hne
    rw [Apart] at hapart ⊢
    show ((run.pool.setTier mempool tier).tier first).stop
        ≤ ((run.pool.setTier mempool tier).tier second).start
      ∨ ((run.pool.setTier mempool tier).tier second).stop
        ≤ ((run.pool.setTier mempool tier).tier first).start
    rw [(hblocks first).start_eq, (hblocks first).stop_eq, (hblocks second).start_eq,
      (hblocks second).stop_eq]
    exact hapart
  · intro other
    show ((run.pool.setTier mempool tier).tier other).blockCount = 0
      ∨ ((run.pool.setTier mempool tier).tier other).blockSize = other.size
    rw [(hblocks other).2.1, (hblocks other).2.2]
    exact h.size other
  · exact fun other => (h.same other).trans (hblocks other)
  · exact hnodup
  · intro a ha
    obtain ⟨owner, howner⟩ := howned a ha
    exact ⟨owner, (hblocks owner).isBlock_iff.mpr howner⟩

/-- A block that is handed out is a block of its tier that nobody held. -/
theorem TieredHolds.alloc_fresh (h : TieredHolds start run)
    (hptr : (xglMempoolAlloc run.memory (run.pool.tier tier)).1 ≠ 0) :
    (run.pool.tier tier).IsBlock (xglMempoolAlloc run.memory (run.pool.tier tier)).1
      ∧ (xglMempoolAlloc run.memory (run.pool.tier tier)).1 ∉ run.held := by
  obtain ⟨free, hpooled⟩ := h.pooled tier
  exact hpooled.alloc_fresh hptr

/-- An allocation served by one tier. -/
theorem TieredHolds.alloc_in (h : TieredHolds start run)
    (hptr : (xglMempoolAlloc run.memory (run.pool.tier tier)).1 ≠ 0) :
    TieredHolds start
      { memory := run.memory
        pool := run.pool.setTier (xglMempoolAlloc run.memory (run.pool.tier tier)).2 tier
        held := (xglMempoolAlloc run.memory (run.pool.tier tier)).1 :: run.held } := by
  obtain ⟨free, hpooled⟩ := h.pooled tier
  obtain ⟨hblock, hfresh⟩ := hpooled.alloc_fresh hptr
  obtain ⟨rest, _, hrest⟩ := hpooled.alloc hptr
  refine h.setTier sameBlocks_alloc ⟨rest, hrest⟩ ?_ (List.nodup_cons.mpr ⟨hfresh, h.nodup⟩) ?_
  · intro other hne
    obtain ⟨free', hother⟩ := h.pooled other
    refine ⟨free', hother.frame (fun _ _ _ _ _ => rfl) ?_⟩
    -- the new block is none of another tier
    intro a ha
    rw [List.mem_cons]
    refine or_iff_right ?_
    rintro rfl
    exact hne (h.one_tier ha hblock)
  · intro a ha
    rcases List.mem_cons.mp ha with rfl | ha
    · exact ⟨tier, hblock⟩
    · exact h.owned a ha

/-- A block returned to its tier. -/
theorem TieredHolds.returned (h : TieredHolds start run)
    (hblock : (run.pool.tier tier).IsBlock ptr) (hptr : ptr ∈ run.held) :
    TieredHolds start
      { memory := mempoolStoreNext run.memory ptr (run.pool.tier tier).freeList
        pool := run.pool.setTier
          { run.pool.tier tier with
            freeList := ptr, freeCount := (run.pool.tier tier).freeCount + 1 } tier
        held := run.held.erase ptr } := by
  obtain ⟨free, hpooled⟩ := h.pooled tier
  have hsize := (hpooled.sound.of_block hblock).2.1
  have hbounds := hblock.bounds
  refine h.setTier ⟨rfl, rfl, rfl⟩ ⟨ptr :: free, hpooled.returned hblock hptr h.nodup⟩ ?_
    (h.nodup.erase ptr) fun a ha => h.owned a (List.mem_of_mem_erase ha)
  intro other hne
  obtain ⟨free', hother⟩ := h.pooled other
  refine ⟨free', hother.frame ?_ ?_⟩
  · -- the link is written into this tier's buffer
    intro a ha address hfrom hto
    have hblockOther := hother.blocks a ha
    have hsizeOther := (hother.sound.of_block hblockOther).2.1
    have hboundsOther := hblockOther.bounds
    apply mempoolStoreNext_of_apart
    rcases h.apart tier other hne.symm with hle | hle <;> omega
  · intro a ha
    refine List.mem_erase_of_ne ?_
    rintro rfl
    exact hne (h.one_tier ha hblock)

/-- Callers write where every tier lets them. -/
def ProperTieredUse (run : TieredRun) : TieredCall → Prop
  | .alloc _ => True
  | .free _ _ => True
  | .write address _ => ∀ tier, MayWrite (run.pool.tier tier) run.held address

/-- One call keeps the invariant. -/
theorem TieredHolds.step (h : TieredHolds start run) {call : TieredCall}
    (hproper : ProperTieredUse run call) : TieredHolds start (run.step call) := by
  cases call with
  | alloc size =>
    rcases xglTieredPoolAlloc_cases run.memory run.pool size with halloc | ⟨tier, _, hptr, halloc⟩
    · have hstep : run.step (.alloc size) = run := by
        simp only [TieredRun.step, halloc, if_true]
      rw [hstep]
      exact h
    · have hstep : run.step (.alloc size)
          = { memory := run.memory
              pool := run.pool.setTier (xglMempoolAlloc run.memory (run.pool.tier tier)).2 tier
              held := (xglMempoolAlloc run.memory (run.pool.tier tier)).1 :: run.held } := by
        simp only [TieredRun.step, halloc, hptr, if_false]
      rw [hstep]
      exact h.alloc_in hptr
  | free ptr size =>
    -- a free of size zero does nothing
    by_cases hsize : size = 0
    · have hstep : run.step (.free ptr size) = run := by
        simp only [TieredRun.step, xglTieredPoolFree, hsize, or_true, if_true]
      rw [hstep]
      exact h
    -- the block is held by somebody, or the free does nothing
    by_cases hptr : ptr ∈ run.held
    · obtain ⟨tier, hblock⟩ := h.owned ptr hptr
      have hfree := h.free_held hsize hblock hptr
      simp only [TieredRun.step, hfree, hsize, if_false]
      exact h.returned hblock hptr
    · have hstep : run.step (.free ptr size) = run := by
        simp only [TieredRun.step, h.free_not_held hptr, hsize, if_false,
          List.erase_of_not_mem hptr]
      rw [hstep]
      exact h
  | write address byte =>
    refine ⟨fun tier => ?_, h.apart, h.size, h.same, h.nodup, h.owned⟩
    obtain ⟨free, hpooled⟩ := h.pooled tier
    exact ⟨free, hpooled.write (hproper tier)⟩

/-! ### Setting the tiers up -/

variable {mempool : Mempool} {buffer count blockSize : Nat}

/-- What is known of a tier that was set up from a buffer: the buffer is outside of what
other tiers are concerned with. -/
structure TierSetUp (memory memory' : Memory) (mempool : Mempool)
    (buffer count blockSize : Nat) : Prop where
  pooled : ∃ free, Pooled memory' mempool [] free
  size : mempool.blockCount = 0 ∨ mempool.blockSize = blockSize
  /-- Without blocks nothing is set up; else the blocks lie in the buffer. -/
  inside : mempool.start = 0 ∧ mempool.stop = 0
    ∨ count ≠ 0 ∧ mempool.start = buffer ∧ mempool.stop ≤ buffer + count * blockSize
  outside : ∀ address, count = 0 ∨ address < buffer ∨ buffer + count * blockSize ≤ address →
    memory' address = memory address

/-- A tier without blocks has an empty chain. -/
theorem pooled_empty : Pooled memory {} [] [] where
  sound := .inl rfl
  chain := rfl
  blocks := fun _ h => nomatch h
  apart := fun _ h => nomatch h
  all := by
    intro a ⟨i, hi, _⟩
    exact absurd hi (Nat.not_lt_zero i)
  length := rfl

/-- What a successful `tiered_pool_init_one` leaves. -/
theorem tierSetUp_initOne (hspace : count ≠ 0 → buffer + count * blockSize < sizeRange)
    (h : (tieredPoolInitOne memory {} buffer count blockSize).1 = 0) :
    TierSetUp memory (tieredPoolInitOne memory {} buffer count blockSize).2.1
      (tieredPoolInitOne memory {} buffer count blockSize).2.2 buffer count blockSize := by
  by_cases hnone : count = 0
  · rw [tieredPoolInitOne, if_pos hnone]
    exact ⟨⟨[], pooled_empty⟩, .inl rfl, .inl ⟨rfl, rfl⟩, fun _ _ => rfl⟩
  have hfits := hspace hnone
  by_cases hbad : buffer = 0 ∨ tieredPoolSizeOverflows count blockSize
  · rw [tieredPoolInitOne, if_neg hnone, if_pos hbad] at h
    cases h
  have hproduct : count * blockSize % sizeRange = count * blockSize := Nat.mod_eq_of_lt (by omega)
  have heq : tieredPoolInitOne memory {} buffer count blockSize
      = xglMempoolInit memory {} buffer (count * blockSize) blockSize := by
    rw [tieredPoolInitOne, if_neg hnone, if_neg hbad, hproduct]
  rw [heq] at h ⊢
  obtain ⟨memory', mempool, free, hout, hpooled, hsize, hstart, hstop, hframe⟩ :=
    pooled_init h hfits
  rw [hout]
  exact ⟨⟨free, hpooled⟩, .inr hsize, .inr ⟨hnone, hstart, hstop⟩, fun address haddress =>
    hframe address (haddress.resolve_left hnone)⟩

/-- A tier is not concerned with memory outside its buffer. -/
theorem TierSetUp.frame (h : TierSetUp memory memory' mempool buffer count blockSize)
    {later : Memory}
    (hsame : ∀ address, count ≠ 0 → buffer ≤ address → address < buffer + count * blockSize →
      later address = memory' address) :
    ∃ free, Pooled later mempool [] free := by
  obtain ⟨free, hpooled⟩ := h.pooled
  refine ⟨free, hpooled.frame ?_ fun _ _ => Iff.rfl⟩
  intro a ha address hfrom hto
  have hblock := hpooled.blocks a ha
  obtain ⟨hbase, hsize, _⟩ := hpooled.sound.of_block hblock
  have hbounds := hblock.bounds
  rcases h.inside with ⟨hstart, _⟩ | ⟨hcount, hstart, hstop⟩
  · exact absurd hstart hbase
  · exact hsame address hcount (by omega) (by omega)

/-- The buffers of an application: in the address space, and apart. -/
def BuffersApart (buffer count : Tier → Nat) : Prop :=
  (∀ tier, count tier ≠ 0 → buffer tier + count tier * tier.size < sizeRange) ∧
    ∀ tier other, tier ≠ other → count tier ≠ 0 → count other ≠ 0 →
      buffer tier + count tier * tier.size ≤ buffer other
        ∨ buffer other + count other * other.size ≤ buffer tier

/-- A successful `xgl_tiered_pool_init_static` sets up the three tiers one after the other. -/
theorem xglTieredPoolInitStatic_eq {smallBuffer smallCount mediumBuffer mediumCount largeBuffer
      largeCount : Nat} {small medium large : Int × Memory × Mempool}
    (hsmall : tieredPoolInitOne memory {} smallBuffer smallCount Tier.small.size = small)
    (hmedium : tieredPoolInitOne small.2.1 {} mediumBuffer mediumCount Tier.medium.size = medium)
    (hlarge : tieredPoolInitOne medium.2.1 {} largeBuffer largeCount Tier.large.size = large)
    {out : Int × Memory × TieredPool}
    (hout : xglTieredPoolInitStatic memory smallBuffer smallCount mediumBuffer mediumCount
      largeBuffer largeCount = out) (h : out.1 = 0) :
    small.1 = 0 ∧ medium.1 = 0 ∧ large.1 = 0 ∧ out.2.1 = large.2.1
      ∧ out.2.2.smallPool = small.2.2 ∧ out.2.2.mediumPool = medium.2.2
      ∧ out.2.2.largePool = large.2.2 := by
  subst hout
  simp only [xglTieredPoolInitStatic, hsmall, hmedium, hlarge] at h ⊢
  by_cases h1 : small.1 ≠ 0
  · rw [if_pos h1] at h
    cases h
  by_cases h2 : medium.1 ≠ 0
  · rw [if_neg h1, if_pos h2] at h
    cases h
  by_cases h3 : large.1 ≠ 0
  · rw [if_neg h1, if_neg h2, if_pos h3] at h
    cases h
  rw [if_neg h1, if_neg h2, if_neg h3]
  exact ⟨not_not.mp h1, not_not.mp h2, not_not.mp h3, rfl, rfl, rfl, rfl⟩

/-- Tiers in buffers that are apart are apart. -/
theorem TierSetUp.apart {before before' : Memory} {mempool' : Mempool} {buffer' count' : Nat}
    {blockSize' : Nat} (h : TierSetUp before memory mempool buffer count blockSize)
    (h' : TierSetUp before' memory' mempool' buffer' count' blockSize')
    (hbuffers : count ≠ 0 → count' ≠ 0 →
      buffer + count * blockSize ≤ buffer' ∨ buffer' + count' * blockSize' ≤ buffer) :
    Apart Mempool.start Mempool.stop mempool mempool' := by
  rw [Apart]
  rcases h.inside with ⟨hstart, hstop⟩ | ⟨hcount, hstart, hstop⟩
  · exact .inl (by omega)
  · rcases h'.inside with ⟨hstart', hstop'⟩ | ⟨hcount', hstart', hstop'⟩
    · exact .inr (by omega)
    · exact (hbuffers hcount hcount').imp (fun hle => by omega) (fun hle => by omega)

/-- A tiered pool that was set up over buffers that are apart. -/
theorem tieredHolds_initStatic {buffer count : Tier → Nat} (hbuffers : BuffersApart buffer count)
    {out : Int × Memory × TieredPool}
    (hout : xglTieredPoolInitStatic memory (buffer .small) (count .small) (buffer .medium)
      (count .medium) (buffer .large) (count .large) = out) (hok : out.1 = 0) :
    TieredHolds out.2.2 { memory := out.2.1, pool := out.2.2 } := by
  obtain ⟨hspace, hapart⟩ := hbuffers
  obtain ⟨small, hsmall⟩ : ∃ out, tieredPoolInitOne memory {} (buffer .small) (count .small)
    Tier.small.size = out := ⟨_, rfl⟩
  obtain ⟨medium, hmedium⟩ : ∃ out, tieredPoolInitOne small.2.1 {} (buffer .medium)
    (count .medium) Tier.medium.size = out := ⟨_, rfl⟩
  obtain ⟨large, hlarge⟩ : ∃ out, tieredPoolInitOne medium.2.1 {} (buffer .large)
    (count .large) Tier.large.size = out := ⟨_, rfl⟩
  obtain ⟨hok1, hok2, hok3, hmemory, hpool1, hpool2, hpool3⟩ :=
    xglTieredPoolInitStatic_eq hsmall hmedium hlarge hout hok
  have hset1 := tierSetUp_initOne (hspace .small) (hsmall.symm ▸ hok1)
  have hset2 := tierSetUp_initOne (hspace .medium) (hmedium.symm ▸ hok2)
  have hset3 := tierSetUp_initOne (hspace .large) (hlarge.symm ▸ hok3)
  rw [hsmall] at hset1
  rw [hmedium] at hset2
  rw [hlarge] at hset3
  have hsm := hapart .small .medium (by decide)
  have hsl := hapart .small .large (by decide)
  have hml := hapart .medium .large (by decide)
  constructor
  · intro tier
    -- what later tiers write stays in their own buffers
    cases tier with
    | small =>
      show ∃ free, Pooled out.2.1 out.2.2.smallPool [] free
      rw [hmemory, hpool1]
      refine hset1.frame fun address hcount hfrom hto => ?_
      refine (hset3.outside address ?_).trans (hset2.outside address ?_)
      · by_cases hnone : count .large = 0
        · exact .inl hnone
        · have := hsl hcount hnone
          omega
      · by_cases hnone : count .medium = 0
        · exact .inl hnone
        · have := hsm hcount hnone
          omega
    | medium =>
      show ∃ free, Pooled out.2.1 out.2.2.mediumPool [] free
      rw [hmemory, hpool2]
      refine hset2.frame fun address hcount hfrom hto => hset3.outside address ?_
      -- a tier without blocks has no buffer
      by_cases hnone : count .large = 0
      · exact .inl hnone
      · have := hml hcount hnone
        omega
    | large =>
      show ∃ free, Pooled out.2.1 out.2.2.largePool [] free
      rw [hmemory, hpool3]
      exact hset3.pooled
  · intro tier other hne
    show Apart Mempool.start Mempool.stop (out.2.2.tier tier) (out.2.2.tier other)
    have h12 := hset1.apart hset2 hsm
    have h13 := hset1.apart hset3 hsl
    have h23 := hset2.apart hset3 hml
    cases tier <;> cases other <;>
      simp only [TieredPool.tier, hpool1, hpool2, hpool3, ne_eq, not_true_eq_false] at hne ⊢ <;>
      first | assumption | exact Or.symm (by assumption)
  · intro tier
    cases tier with
    | small =>
      show out.2.2.smallPool.blockCount = 0 ∨ out.2.2.smallPool.blockSize = Tier.small.size
      rw [hpool1]
      exact hset1.size
    | medium =>
      show out.2.2.mediumPool.blockCount = 0 ∨ out.2.2.mediumPool.blockSize = Tier.medium.size
      rw [hpool2]
      exact hset2.size
    | large =>
      show out.2.2.largePool.blockCount = 0 ∨ out.2.2.largePool.blockSize = Tier.large.size
      rw [hpool3]
      exact hset3.size
  · exact fun _ => ⟨rfl, rfl, rfl⟩
  · exact List.nodup_nil
  · exact fun _ h => nomatch h

/-! ### Runs -/

/-- What a tiered pool is to its callers. -/
structure TieredIntact (start : TieredPool) (run : TieredRun) : Prop where
  /-- Every tier is an intact pool of the blocks it was set up with. -/
  intact : ∀ tier, PoolIntact run.memory (run.pool.tier tier) run.held
  same : ∀ tier, SameBlocks (start.tier tier) (run.pool.tier tier)
  /-- No block is held twice, and each that is held belongs to a tier. -/
  nodup : run.held.Nodup
  owned : ∀ a ∈ run.held, ∃ tier, (run.pool.tier tier).IsBlock a
  /-- An allocation returns a block of a tier whose blocks are large enough, and nobody held
  it. -/
  alloc : ∀ size, (xglTieredPoolAlloc run.memory run.pool size).1 ≠ 0 →
    (xglTieredPoolAlloc run.memory run.pool size).1 ∉ run.held
      ∧ ∃ tier, (run.pool.tier tier).IsBlock (xglTieredPoolAlloc run.memory run.pool size).1
          ∧ size ≤ (run.pool.tier tier).blockSize
  /-- A free of a block that is held puts it in front of the free list of the tier that owns
  its address, whatever size is passed, and leaves the other tiers alone. -/
  free : ∀ tier ptr size, ptr ∈ run.held → (run.pool.tier tier).IsBlock ptr → size ≠ 0 →
    ((xglTieredPoolFree run.memory run.pool ptr size).2.tier tier).freeList = ptr
      ∧ ((xglTieredPoolFree run.memory run.pool ptr size).2.tier tier).freeCount
          = (run.pool.tier tier).freeCount + 1
      ∧ ∀ other, other ≠ tier →
          (xglTieredPoolFree run.memory run.pool ptr size).2.tier other = run.pool.tier other
  /-- A free of anything else does nothing. -/
  badFree : ∀ ptr size, ptr ∉ run.held →
    xglTieredPoolFree run.memory run.pool ptr size = (run.memory, run.pool)

/-- The invariant, as the callers see it. -/
theorem TieredHolds.intact (h : TieredHolds start run) : TieredIntact start run where
  intact := by
    intro tier
    obtain ⟨free, hpooled⟩ := h.pooled tier
    exact hpooled.intact
  same := h.same
  nodup := h.nodup
  owned := h.owned
  alloc := by
    intro size hptr
    rcases xglTieredPoolAlloc_cases run.memory run.pool size with
      halloc | ⟨tier, hsize, hblock, halloc⟩
    · rw [halloc] at hptr
      exact absurd rfl hptr
    · obtain ⟨hisBlock, hfresh⟩ := h.alloc_fresh hblock
      rw [halloc]
      exact ⟨hfresh, tier, hisBlock, (h.block_size hisBlock).symm ▸ hsize⟩
  free := by
    intro tier ptr size hptr hblock hsize
    rw [h.free_held hsize hblock hptr]
    exact ⟨congrArg Mempool.freeList (tier_setTier_self _),
      congrArg Mempool.freeCount (tier_setTier_self _), fun other hne => tier_setTier_of_ne hne⟩
  badFree := fun ptr size hptr => h.free_not_held hptr

/-- **Blocks are not handed out twice.** For a buffer split by `xgl_mempool_init`, after any
allocations, frees of arbitrary pointers and writes into held blocks, the pool is intact, and
so are the tiers of a pool over buffers that are apart. -/
theorem block_pools_intact :
    (∀ (memory : Memory) (pool : Mempool) (buffer bufferSize blockSize : Nat)
        (calls : List MempoolCall) (out : Int × Memory × Mempool),
      buffer + bufferSize < sizeRange →
      xglMempoolInit memory pool buffer bufferSize blockSize = out → out.1 = 0 →
      Along MempoolRun.step ProperUse calls { memory := out.2.1, pool := out.2.2 } →
      ∀ run, calls.foldl MempoolRun.step { memory := out.2.1, pool := out.2.2 } = run →
        PoolIntact run.memory run.pool run.held ∧ SameBlocks out.2.2 run.pool
          ∧ run.held.Nodup ∧ ∀ a ∈ run.held, run.pool.IsBlock a) ∧
    ∀ (memory : Memory) (buffer count : Tier → Nat) (calls : List TieredCall)
        (out : Int × Memory × TieredPool),
      BuffersApart buffer count →
      xglTieredPoolInitStatic memory (buffer .small) (count .small) (buffer .medium)
        (count .medium) (buffer .large) (count .large) = out → out.1 = 0 →
      Along TieredRun.step ProperTieredUse calls { memory := out.2.1, pool := out.2.2 } →
      TieredIntact out.2.2
        (calls.foldl TieredRun.step { memory := out.2.1, pool := out.2.2 }) := by
  constructor
  · intro memory pool buffer bufferSize blockSize calls out hspace hout hok hproper run hrun
    subst hout
    obtain ⟨memory', pool', free, heq, hpooled, _⟩ := pooled_init hok hspace
    rw [heq] at hproper hrun ⊢
    have hstart : MempoolHolds pool' { memory := memory', pool := pool' } :=
      ⟨⟨free, hpooled⟩, ⟨rfl, rfl, rfl⟩, List.nodup_nil, fun _ h => nomatch h⟩
    have hend := foldl_along (MempoolHolds pool') (fun _ _ h hcall => h.step hcall) calls _ hstart
      hproper
    rw [hrun] at hend
    obtain ⟨⟨free', hpooled'⟩, hsame, hnodup, hblocks⟩ := hend
    exact ⟨hpooled'.intact, hsame, hnodup, hblocks⟩
  · intro memory buffer count calls out hbuffers hout hok hproper
    exact (foldl_along (TieredHolds out.2.2) (fun _ _ h hcall => h.step hcall) calls _
      (tieredHolds_initStatic hbuffers hout hok) hproper).intact

/-- Two blocks of 16 bytes at 64, and one small and one medium block: a caller overwrites the
link in a block it holds, returns it twice and frees a misaligned pointer; a small request
falls back to the medium tier and comes back under another size. -/
theorem block_pools_intact_after_bad_frees :
    (∃ run, [MempoolCall.alloc, .write 80 255, .write 81 255, .free 80, .free 80, .free 72,
        .alloc].foldl MempoolRun.step
          { memory := (xglMempoolInit (fun _ => 0) {} 64 40 16).2.1,
            pool := (xglMempoolInit (fun _ => 0) {} 64 40 16).2.2 } = run
      ∧ PoolIntact run.memory run.pool run.held) ∧
    TieredIntact (xglTieredPoolInitStatic (fun _ => 0) 64 1 128 1 0 0).2.2
      ([TieredCall.alloc 10, .alloc 10, .free 128 7].foldl TieredRun.step
        { memory := (xglTieredPoolInitStatic (fun _ => 0) 64 1 128 1 0 0).2.1,
          pool := (xglTieredPoolInitStatic (fun _ => 0) 64 1 128 1 0 0).2.2 }) := by
  constructor
  · refine ⟨_, rfl, (block_pools_intact.1 (fun _ => 0) {} 64 40 16 [MempoolCall.alloc,
      .write 80 255, .write 81 255, .free 80, .free 80, .free 72, .alloc] _ (by decide) rfl
      (by decide) ⟨trivial, ?_, ?_, trivial, trivial, trivial, trivial, trivial⟩ _ rfl).1⟩
    · exact .inl ⟨80, by decide +kernel, ⟨1, by decide +kernel, by decide +kernel⟩,
        by decide, by decide +kernel⟩
    · exact .inl ⟨80, by decide +kernel, ⟨1, by decide +kernel, by decide +kernel⟩,
        by decide, by decide +kernel⟩
  · have hbuffers : BuffersApart
        (fun tier => if tier = .small then 64 else if tier = .medium then 128 else 0)
        (fun tier => if tier = .large then 0 else 1) := by
      constructor
      · intro tier _
        cases tier <;> decide
      · intro tier other _ _ _
        cases tier <;> cases other <;> first | contradiction | decide
    exact block_pools_intact.2 (fun _ => 0) _ _ [TieredCall.alloc 10, .alloc 10, .free 128 7] _
      hbuffers rfl (by decide +kernel)
      ⟨trivial, trivial, trivial, trivial⟩

end XgenLink
