import Mathlib.Logic.Function.Basic

/-!
# `XgenLink.Memory.TrackingAllocator`: the allocator that keeps accounts

`xgl_tracking_allocator.c` wraps an underlying allocator. Each block it asks for starts with
a header: the size its caller asked for, a magic number and the phase it is charged to. The
caller gets the address behind the header. Allocations and frees are counted once for the
whole tracker and once for their phase; a free is charged to the phase in the header, not to
the current one.

A `size_t` and a pointer are 64 bits, so the header takes 16 bytes. Memory is seen where the
tracker looks at it, at the headers: `headers` is what stands at an address when it is read
as a header. The underlying allocator is the function `malloc` from the request to the
address, 0 for `NULL`.
-/

set_option autoImplicit false

namespace XgenLink

/-! ### Statistics -/

/-- `xgl_allocator_phase_t`, without its count. -/
inductive AllocatorPhase where
  | init
  | runtimeTx
  | runtimeRx
  | reliable
  | fragment
  deriving DecidableEq, Repr

/-- `XGL_ALLOCATOR_PHASE_COUNT`. -/
def allocatorPhaseCount : Nat := 5

/-- The phases in the order of their values. -/
def AllocatorPhase.all : List AllocatorPhase :=
  [.init, .runtimeTx, .runtimeRx, .reliable, .fragment]

/-- The phase with an enumeration value below the count. -/
def AllocatorPhase.ofValue (value : Nat) : Option AllocatorPhase :=
  if value ≥ allocatorPhaseCount then none else all[value]?

/-- `xgl_allocator_stats_t`. -/
structure AllocatorStats where
  totalAllocated : UInt64 := 0
  totalFreed : UInt64 := 0
  currentAllocated : UInt64 := 0
  peakAllocated : UInt64 := 0
  allocCount : UInt64 := 0
  freeCount : UInt64 := 0
  deriving DecidableEq, Repr

/-- `update_alloc_stats`. -/
def updateAllocStats (stats : AllocatorStats) (size : UInt64) : AllocatorStats :=
  let current := stats.currentAllocated + size
  { stats with
    totalAllocated := stats.totalAllocated + size
    currentAllocated := current
    allocCount := stats.allocCount + 1
    peakAllocated := if current > stats.peakAllocated then current else stats.peakAllocated }

/-- `update_free_stats`: the current count stops at 0. -/
def updateFreeStats (stats : AllocatorStats) (size : UInt64) : AllocatorStats :=
  { stats with
    totalFreed := stats.totalFreed + size
    currentAllocated :=
      if stats.currentAllocated ≥ size then stats.currentAllocated - size else 0
    freeCount := stats.freeCount + 1 }

/-- What `xgl_tracking_allocator_reset_stats` does to the statistics of the tracker and to
those of each phase: what is allocated now becomes the new total and the new peak. -/
def resetAllocatorStats (stats : AllocatorStats) : AllocatorStats :=
  { totalAllocated := stats.currentAllocated
    totalFreed := 0
    currentAllocated := stats.currentAllocated
    peakAllocated := stats.currentAllocated
    allocCount := 0
    freeCount := 0 }

/-! ### The tracker and the headers -/

/-- `xgl_alloc_header_t`. -/
structure AllocHeader where
  size : UInt64
  magic : UInt32
  phase : AllocatorPhase
  deriving DecidableEq, Repr

/-- `sizeof(xgl_alloc_header_t)`. -/
def allocHeaderSize : UInt64 := 16

/-- `XGL_ALLOC_MAGIC`. -/
def xglAllocMagic : UInt32 := 0xA110CA7E

/-- `xgl_tracking_allocator_t`, without its interface and the underlying allocator. -/
structure TrackingAllocator where
  stats : AllocatorStats := {}
  phaseStats : AllocatorPhase → AllocatorStats := fun _ => {}
  currentPhase : AllocatorPhase := .init

/-- The tracker beside the headers in memory. -/
structure TrackedMemory where
  tracker : TrackingAllocator := {}
  headers : UInt64 → AllocHeader

/-- `xgl_alloc` over an underlying allocator: it is not asked for 0 bytes. -/
def underlyingAlloc (malloc : UInt64 → UInt64) (size : UInt64) : UInt64 :=
  if size = 0 then 0 else malloc size

/-- `tracking_malloc_impl`: the memory afterwards and the pointer for the caller. -/
def trackingMallocImpl (malloc : UInt64 → UInt64) (memory : TrackedMemory) (size : UInt64) :
    TrackedMemory × UInt64 :=
  if size = 0 then (memory, 0)
  else
    -- the source does not look whether the sum wraps
    let totalSize := size + allocHeaderSize
    let ptr := underlyingAlloc malloc totalSize
    if ptr = 0 then (memory, 0)
    else
      let tracker := memory.tracker
      let phase := tracker.currentPhase
      let header : AllocHeader := { size := size, magic := xglAllocMagic, phase := phase }
      ({ tracker :=
          { tracker with
            stats := updateAllocStats tracker.stats size
            phaseStats := Function.update tracker.phaseStats phase
              (updateAllocStats (tracker.phaseStats phase) size) }
         headers := Function.update memory.headers ptr header }, ptr + allocHeaderSize)

/-- `tracking_free_impl`: the memory afterwards and the address handed to `xgl_free`, if the
pointer is taken. -/
def trackingFreeImpl (memory : TrackedMemory) (ptr : UInt64) : TrackedMemory × Option UInt64 :=
  if ptr = 0 then (memory, none)
  else
    let actualPtr := ptr - allocHeaderSize
    -- whatever stands in front of the pointer is read as a header
    let header := memory.headers actualPtr
    if header.magic ≠ xglAllocMagic then (memory, none)
    else
      let tracker := memory.tracker
      ({ tracker :=
          { tracker with
            stats := updateFreeStats tracker.stats header.size
            -- the phase of the header is below the count: it is one of the five
            phaseStats := Function.update tracker.phaseStats header.phase
              (updateFreeStats (tracker.phaseStats header.phase) header.size) }
         -- the magic number is cleared, so that a second free is seen
         headers := Function.update memory.headers actualPtr { header with magic := 0 } },
        some actualPtr)

/-- `xgl_tracking_allocator_reset_stats`. -/
def xglTrackingAllocatorResetStats (tracker : TrackingAllocator) : TrackingAllocator :=
  { tracker with
    stats := resetAllocatorStats tracker.stats
    phaseStats := fun phase => resetAllocatorStats (tracker.phaseStats phase) }

/-- `xgl_tracking_allocator_set_phase`: a value from the count on is ignored. -/
def xglTrackingAllocatorSetPhase (tracker : TrackingAllocator) (value : Nat) :
    TrackingAllocator :=
  match AllocatorPhase.ofValue value with
  | none => tracker
  | some phase => { tracker with currentPhase := phase }

/-! ### Runs -/

/-- An allocation that was served and not yet freed: the block of the underlying allocator,
how many bytes that one was asked for, and what the caller asked for in which phase. -/
structure LiveBlock where
  address : UInt64
  request : UInt64
  size : UInt64
  phase : AllocatorPhase
  deriving DecidableEq, Repr

/-- The pointer the caller holds. -/
def LiveBlock.pointer (block : LiveBlock) : UInt64 := block.address + allocHeaderSize

/-- The memory and the live allocations, which the code itself does not list. -/
structure TrackerRun where
  memory : TrackedMemory
  live : List LiveBlock := []

/-- One call into the tracker. An allocation carries the answer of the underlying allocator,
0 where that fails. -/
inductive TrackerCall where
  | alloc (size answer : UInt64)
  | free (ptr : UInt64)
  | setPhase (value : Nat)
  | resetStats
  deriving DecidableEq, Repr

/-- The new memory and the new list of live allocations. -/
def TrackerRun.step (run : TrackerRun) : TrackerCall → TrackerRun
  | .alloc size answer =>
    let out := trackingMallocImpl (fun _ => answer) run.memory size
    { memory := out.1
      live :=
        if out.2 = 0 then run.live
        else
          { address := answer, request := size + allocHeaderSize, size := size,
            phase := run.memory.tracker.currentPhase } :: run.live }
  | .free ptr =>
    let out := trackingFreeImpl run.memory ptr
    { memory := out.1
      live :=
        match out.2 with
        | none => run.live
        | some actualPtr => run.live.eraseP fun block => block.address == actualPtr }
  | .setPhase value =>
    { run with
      memory := { run.memory with
        tracker := xglTrackingAllocatorSetPhase run.memory.tracker value } }
  | .resetStats =>
    { run with
      memory := { run.memory with
        tracker := xglTrackingAllocatorResetStats run.memory.tracker } }

end XgenLink
