import Mathlib.Algebra.GroupWithZero.Nat
import XgenLink.Lib.Run
import XgenLink.Lib.Spans
import XgenLink.Memory.TrackingAllocator

/-!
# `XgenLink.Proofs.AllocatorAccounting`: the accounts of the tracking allocator

The tracker keeps a count of the bytes that are allocated now, for all phases together and
for each. The counts are right as long as no request wraps: `tracking_malloc_impl` adds the
size of the header to the size it was asked for and does not check the sum, so a size within
a header of `SIZE_MAX` asks the underlying allocator for a block of a few bytes.

The argument is an invariant, `Charged`: every live block still has the header it was given,
its request is the size and the header, and the blocks are apart from each other. So their
requests fit into the address space together, no count wraps and no decrement saturates.
-/

set_option autoImplicit false

namespace XgenLink

/-! ### Statistics that stand at a number of bytes -/

/-- The current count is the number, the difference of the totals, and at most the peak. -/
structure StatsHold (stats : AllocatorStats) (n : Nat) : Prop where
  current : stats.currentAllocated.toNat = n
  balance : stats.currentAllocated = stats.totalAllocated - stats.totalFreed
  peak : stats.currentAllocated ≤ stats.peakAllocated

variable {stats : AllocatorStats} {n : Nat} {size answer ptr : UInt64}

/-- Statistics that were never updated. -/
theorem statsHold_zero : StatsHold {} 0 where
  current := rfl
  balance := rfl
  peak := by decide

/-- An allocation that does not take the count beyond a `size_t`. -/
theorem StatsHold.alloc (h : StatsHold stats n) (hfits : n + size.toNat < 2 ^ 64) :
    StatsHold (updateAllocStats stats size) (n + size.toNat) where
  current := by
    show (stats.currentAllocated + size).toNat = n + size.toNat
    rw [UInt64.toNat_add, h.current, Nat.mod_eq_of_lt hfits]
  balance := by
    show stats.currentAllocated + size = stats.totalAllocated + size - stats.totalFreed
    rw [h.balance]
    grind
  peak := by
    show stats.currentAllocated + size ≤ if stats.currentAllocated + size > stats.peakAllocated
      then stats.currentAllocated + size else stats.peakAllocated
    split
    · exact UInt64.le_refl _
    · rename_i hle
      exact UInt64.not_lt.mp hle

/-- A free of bytes that are counted: the decrement does not saturate. -/
theorem StatsHold.free (h : StatsHold stats (n + size.toNat)) :
    StatsHold (updateFreeStats stats size) n := by
  have hge : stats.currentAllocated ≥ size := by
    show size.toNat ≤ stats.currentAllocated.toNat
    have := h.current
    omega
  have hcurrent : (updateFreeStats stats size).currentAllocated = stats.currentAllocated - size :=
    if_pos hge
  have hsub : (stats.currentAllocated - size).toNat = n := by
    rw [UInt64.toNat_sub_of_le _ _ hge, h.current, Nat.add_sub_cancel]
  constructor
  · rw [hcurrent, hsub]
  · rw [hcurrent, h.balance]
    show _ = stats.totalAllocated - (stats.totalFreed + size)
    grind
  · rw [hcurrent]
    have hle : stats.currentAllocated.toNat ≤ stats.peakAllocated.toNat := h.peak
    have := h.current
    show (stats.currentAllocated - size).toNat ≤ stats.peakAllocated.toNat
    omega

theorem StatsHold.reset (h : StatsHold stats n) : StatsHold (resetAllocatorStats stats) n where
  current := h.current
  balance := by
    show stats.currentAllocated = stats.currentAllocated - 0
    grind
  peak := UInt64.le_refl stats.currentAllocated

/-! ### The bytes of the live blocks -/

/-- Where a block of the underlying allocator starts. -/
def LiveBlock.start (block : LiveBlock) : Nat := block.address.toNat

/-- Where it ends. -/
def LiveBlock.stop (block : LiveBlock) : Nat := block.address.toNat + block.request.toNat

/-- How many bytes the callers asked for. -/
def liveBytes (live : List LiveBlock) : Nat := (live.map fun block => block.size.toNat).sum

/-- The live blocks that are charged to a phase. -/
def chargedTo (phase : AllocatorPhase) (live : List LiveBlock) : List LiveBlock :=
  live.filter fun block => block.phase = phase

/-- The bytes of one block more. -/
@[simp] theorem liveBytes_cons (block : LiveBlock) (live : List LiveBlock) :
    liveBytes (block :: live) = block.size.toNat + liveBytes live :=
  List.sum_cons

/-- The bytes of two lists of blocks. -/
@[simp] theorem liveBytes_append (a b : List LiveBlock) :
    liveBytes (a ++ b) = liveBytes a + liveBytes b := by
  rw [liveBytes, List.map_append, List.sum_append]
  rfl

/-- The blocks of a phase, in two lists. -/
@[simp] theorem chargedTo_append (phase : AllocatorPhase) (a b : List LiveBlock) :
    chargedTo phase (a ++ b) = chargedTo phase a ++ chargedTo phase b :=
  List.filter_append a b

/-- A block of the phase is among its blocks. -/
theorem chargedTo_cons_self (block : LiveBlock) (live : List LiveBlock) :
    chargedTo block.phase (block :: live) = block :: chargedTo block.phase live :=
  List.filter_cons_of_pos (decide_eq_true rfl)

/-- A block of another phase is not. -/
theorem chargedTo_cons_other {phase : AllocatorPhase} {block : LiveBlock}
    (h : phase ≠ block.phase) (live : List LiveBlock) :
    chargedTo phase (block :: live) = chargedTo phase live :=
  List.filter_cons_of_neg fun heq => h (of_decide_eq_true heq).symm

/-- A phase has no more bytes than all phases. -/
theorem liveBytes_chargedTo_le (phase : AllocatorPhase) (live : List LiveBlock) :
    liveBytes (chargedTo phase live) ≤ liveBytes live := by
  induction live with
  | nil => exact Nat.le_refl 0
  | cons block rest ih =>
    by_cases hphase : phase = block.phase
    · subst hphase
      rw [chargedTo_cons_self, liveBytes_cons, liveBytes_cons]
      omega
    · rw [chargedTo_cons_other hphase, liveBytes_cons]
      omega

/-- Every block is charged to one phase. -/
theorem sum_liveBytes_chargedTo (live : List LiveBlock) :
    (AllocatorPhase.all.map fun phase => liveBytes (chargedTo phase live)).sum
      = liveBytes live := by
  induction live with
  | nil => rfl
  | cons block rest ih =>
    rw [liveBytes_cons, ← ih]
    -- the block's own phase grows by the block, and the other four stay
    cases hphase : block.phase <;>
      simp only [AllocatorPhase.all, List.map_cons, List.map_nil, List.sum_cons, List.sum_nil,
        chargedTo, List.filter_cons, hphase, reduceCtorEq, decide_true, decide_false, if_true,
        Bool.false_eq_true, if_false, liveBytes_cons] <;>
      omega

/-! ### What is claimed of a state, of a call and of the underlying allocator -/

/-- The accounts of a state are right. -/
structure Accounted (run : TrackerRun) : Prop where
  /-- The current count is the bytes of the live allocations. -/
  live : run.memory.tracker.stats.currentAllocated.toNat = liveBytes run.live
  /-- It is the sum of the counts of the phases. -/
  phases : run.memory.tracker.stats.currentAllocated.toNat
    = (AllocatorPhase.all.map fun phase =>
        (run.memory.tracker.phaseStats phase).currentAllocated.toNat).sum
  /-- It is what was allocated less what was freed. -/
  balance : run.memory.tracker.stats.currentAllocated
    = run.memory.tracker.stats.totalAllocated - run.memory.tracker.stats.totalFreed
  /-- So is the count of each phase. -/
  phaseBalance : ∀ phase, (run.memory.tracker.phaseStats phase).currentAllocated
    = (run.memory.tracker.phaseStats phase).totalAllocated
      - (run.memory.tracker.phaseStats phase).totalFreed
  /-- No count is above its peak. -/
  peak : run.memory.tracker.stats.currentAllocated ≤ run.memory.tracker.stats.peakAllocated
  phasePeak : ∀ phase, (run.memory.tracker.phaseStats phase).currentAllocated
    ≤ (run.memory.tracker.phaseStats phase).peakAllocated
  /-- The underlying allocator was asked for the bytes of each allocation and its header. -/
  backed : ∀ block ∈ run.live,
    block.size.toNat + allocHeaderSize.toNat ≤ block.request.toNat

/-- The underlying allocator serves blocks that lie in the address space and apart from the
live ones, and callers free pointers they were given, or none. -/
def ProperCall (run : TrackerRun) : TrackerCall → Prop
  | .alloc size answer => answer ≠ 0 →
    answer.toNat + (size + allocHeaderSize).toNat ≤ 2 ^ 64 ∧
      ∀ block ∈ run.live,
        answer.toNat + (size + allocHeaderSize).toNat ≤ block.start ∨ block.stop ≤ answer.toNat
  | .free ptr => ptr = 0 ∨ ∃ block ∈ run.live, block.pointer = ptr
  | .setPhase _ => True
  | .resetStats => True

/-- An allocation that is served leaves room for the header. -/
def LeavesRoom : TrackerCall → Prop
  | .alloc size answer => underlyingAlloc (fun _ => answer) (size + allocHeaderSize) ≠ 0 →
    size.toNat + allocHeaderSize.toNat < 2 ^ 64
  | .free _ => True
  | .setPhase _ => True
  | .resetStats => True

/-- Whether an allocation leaves room can be computed. -/
instance : DecidablePred LeavesRoom
  | .alloc _ _ => inferInstanceAs (Decidable (_ → _))
  | .free _ => inferInstanceAs (Decidable True)
  | .setPhase _ => inferInstanceAs (Decidable True)
  | .resetStats => inferInstanceAs (Decidable True)

/-- A tracker after `xgl_tracking_allocator_init`, with anything in memory. -/
def freshTracker (headers : UInt64 → AllocHeader) : TrackerRun :=
  { memory := { headers := headers } }

/-! ### The invariant -/

/-- What every state satisfies as long as no request wrapped. -/
structure Charged (run : TrackerRun) : Prop where
  total : StatsHold run.memory.tracker.stats (liveBytes run.live)
  phases : ∀ phase,
    StatsHold (run.memory.tracker.phaseStats phase) (liveBytes (chargedTo phase run.live))
  /-- Live blocks have the headers they were given. -/
  headers : ∀ block ∈ run.live, run.memory.headers block.address
    = { size := block.size, magic := xglAllocMagic, phase := block.phase }
  request : ∀ block ∈ run.live,
    block.request.toNat = block.size.toNat + allocHeaderSize.toNat
  inSpace : ∀ block ∈ run.live, block.stop ≤ 2 ^ 64
  apart : run.live.Pairwise (Apart LiveBlock.start LiveBlock.stop)

variable {run : TrackerRun}

/-- A header takes 16 bytes. -/
theorem allocHeaderSize_toNat : allocHeaderSize.toNat = 16 := rfl

/-- A new tracker has nothing to account for. -/
theorem charged_fresh (headers : UInt64 → AllocHeader) : Charged (freshTracker headers) where
  total := statsHold_zero
  phases := fun _ => statsHold_zero
  headers := fun _ h => nomatch h
  request := fun _ h => nomatch h
  inSpace := fun _ h => nomatch h
  apart := List.Pairwise.nil

/-- The accounts are right in every such state. -/
theorem Charged.accounted (h : Charged run) : Accounted run where
  live := h.total.current
  phases := by
    have hphases : (fun phase => (run.memory.tracker.phaseStats phase).currentAllocated.toNat)
        = fun phase => liveBytes (chargedTo phase run.live) := by
      funext phase
      exact (h.phases phase).current
    rw [h.total.current, hphases, sum_liveBytes_chargedTo]
  balance := h.total.balance
  phaseBalance := fun phase => (h.phases phase).balance
  peak := h.total.peak
  phasePeak := fun phase => (h.phases phase).peak
  backed := fun block hblock => (h.request block hblock).ge

/-- The sizes of blocks that fit into the address space with their headers. -/
theorem liveBytes_le_spanTotal {live : List LiveBlock}
    (hrequest : ∀ block ∈ live, block.request.toNat = block.size.toNat + allocHeaderSize.toNat) :
    liveBytes live + 16 * live.length = spanTotal LiveBlock.start LiveBlock.stop live := by
  induction live with
  | nil => rfl
  | cons block rest ih =>
    have hblock := hrequest block List.mem_cons_self
    have hrest := ih fun other hother => hrequest other (List.mem_cons_of_mem _ hother)
    rw [allocHeaderSize_toNat] at hblock
    rw [liveBytes_cons, spanTotal_cons, List.length_cons, ← hrest]
    show _ = block.address.toNat + block.request.toNat - block.address.toNat + _
    omega

/-- The blocks that are live after an allocation, if any, have together fewer than 2^64
bytes. -/
theorem liveBytes_lt {live : List LiveBlock} (hne : live ≠ [])
    (hrequest : ∀ block ∈ live, block.request.toNat = block.size.toNat + allocHeaderSize.toNat)
    (hspace : ∀ block ∈ live, block.stop ≤ 2 ^ 64)
    (hapart : live.Pairwise (Apart LiveBlock.start LiveBlock.stop)) :
    liveBytes live < 2 ^ 64 := by
  have htotal := total_le_of_apart hapart hspace
  have hsizes := liveBytes_le_spanTotal hrequest
  have hlength := List.length_pos_iff.mpr hne
  omega

/-! ### One call -/

/-- A block that starts inside the room of another is not apart from it. -/
theorem Charged.address_ne (h : Charged run) {block : LiveBlock} (hblock : block ∈ run.live)
    {stop : Nat} (hstop : answer.toNat < stop)
    (hapart : stop ≤ block.start ∨ block.stop ≤ answer.toNat) : block.address ≠ answer := by
  intro heq
  have hrequest := h.request block hblock
  rw [allocHeaderSize_toNat] at hrequest
  have hstart : block.start = answer.toNat := congrArg UInt64.toNat heq
  have hlength : block.stop = block.start + block.request.toNat := rfl
  rcases hapart with hle | hle <;> omega

/-- The address of a served block is the answer of the underlying allocator. -/
theorem underlyingAlloc_served {request : UInt64}
    (h : underlyingAlloc (fun _ => answer) request ≠ 0) :
    underlyingAlloc (fun _ => answer) request = answer := by
  by_cases hzero : request = 0
  · exact absurd (if_pos hzero) h
  · exact if_neg hzero

/-- The block of an allocation that is served. -/
def servedBlock (run : TrackerRun) (size answer : UInt64) : LiveBlock where
  address := answer
  request := size + allocHeaderSize
  size := size
  phase := run.memory.tracker.currentPhase

/-- What an allocation does that the underlying allocator serves. -/
theorem step_alloc_served (hsize : size ≠ 0)
    (hserved : underlyingAlloc (fun _ => answer) (size + allocHeaderSize) ≠ 0)
    (hptr : answer + allocHeaderSize ≠ 0) :
    run.step (.alloc size answer)
      = { memory :=
            { tracker :=
                { run.memory.tracker with
                  stats := updateAllocStats run.memory.tracker.stats size
                  phaseStats := Function.update run.memory.tracker.phaseStats
                    run.memory.tracker.currentPhase
                    (updateAllocStats
                      (run.memory.tracker.phaseStats run.memory.tracker.currentPhase) size) }
              headers := Function.update run.memory.headers answer
                { size := size, magic := xglAllocMagic,
                  phase := run.memory.tracker.currentPhase } }
          live := servedBlock run size answer :: run.live } := by
  have hanswer := underlyingAlloc_served hserved
  rw [hanswer] at hserved
  simp only [TrackerRun.step, trackingMallocImpl, hsize, if_false, hanswer, hserved, hptr,
    servedBlock]

/-- An allocation that is not served changes nothing. -/
theorem step_alloc_failed
    (h : size = 0 ∨ underlyingAlloc (fun _ => answer) (size + allocHeaderSize) = 0) :
    run.step (.alloc size answer) = run := by
  by_cases hsize : size = 0
  · simp only [TrackerRun.step, trackingMallocImpl, hsize, if_true]
  · simp only [TrackerRun.step, trackingMallocImpl, hsize, if_false, h.resolve_left hsize, if_true]

/-- A served allocation that leaves room for the header. -/
theorem Charged.alloc_served (h : Charged run) (hproper : ProperCall run (.alloc size answer))
    (hsize : size ≠ 0)
    (hserved : underlyingAlloc (fun _ => answer) (size + allocHeaderSize) ≠ 0)
    (hroom : size.toNat + allocHeaderSize.toNat < 2 ^ 64) :
    Charged (run.step (.alloc size answer)) := by
  have hrequest : (size + allocHeaderSize).toNat = size.toNat + allocHeaderSize.toNat := by
    rw [UInt64.toNat_add, Nat.mod_eq_of_lt hroom]
  have hpositive : 0 < size.toNat := by
    rw [Nat.pos_iff_ne_zero]
    intro hzero
    exact hsize (UInt64.toNat_inj.mp hzero)
  have hanswer : answer ≠ 0 := by
    rintro rfl
    exact hserved (ite_self 0)
  obtain ⟨hspace, hapart⟩ := hproper hanswer
  -- an address at the very end would leave no room for the header
  have hptr : answer + allocHeaderSize ≠ 0 := by
    intro hzero
    have hwraps := congrArg UInt64.toNat hzero
    rw [UInt64.toNat_add, UInt64.toNat_zero, allocHeaderSize_toNat] at hwraps
    rw [hrequest, allocHeaderSize_toNat] at hspace
    omega
  rw [step_alloc_served hsize hserved hptr]
  -- the new block is in the address space and apart from the others, so the bytes still fit
  have hrequests : ∀ block ∈ servedBlock run size answer :: run.live,
      block.request.toNat = block.size.toNat + allocHeaderSize.toNat :=
    List.forall_mem_cons.mpr ⟨hrequest, h.request⟩
  have hspaces : ∀ block ∈ servedBlock run size answer :: run.live,
      block.stop ≤ 2 ^ 64 :=
    List.forall_mem_cons.mpr ⟨hspace, h.inSpace⟩
  have haparts : (servedBlock run size answer :: run.live).Pairwise
      (Apart LiveBlock.start LiveBlock.stop) :=
    List.pairwise_cons.mpr ⟨hapart, h.apart⟩
  have hfits := liveBytes_lt (List.cons_ne_nil _ _) hrequests hspaces haparts
  rw [liveBytes_cons, Nat.add_comm] at hfits
  have hsizeEq : (servedBlock run size answer).size = size := rfl
  rw [hsizeEq] at hfits
  constructor
  · show StatsHold _ (liveBytes (servedBlock run size answer :: run.live))
    rw [liveBytes_cons, Nat.add_comm]
    exact h.total.alloc hfits
  -- the counts of the phase that is charged grow, the others stay
  · intro phase
    by_cases hphase : phase = run.memory.tracker.currentPhase
    · subst hphase
      have hle := liveBytes_chargedTo_le run.memory.tracker.currentPhase run.live
      show StatsHold (Function.update run.memory.tracker.phaseStats _ _ _)
        (liveBytes (chargedTo (servedBlock run size answer).phase
          (servedBlock run size answer :: run.live)))
      rw [Function.update_self, chargedTo_cons_self, liveBytes_cons, Nat.add_comm]
      exact (h.phases _).alloc (by omega)
    · have hother : phase ≠ (servedBlock run size answer).phase := hphase
      show StatsHold (Function.update run.memory.tracker.phaseStats _ _ phase)
        (liveBytes (chargedTo phase (servedBlock run size answer :: run.live)))
      rw [Function.update_of_ne hphase, chargedTo_cons_other hother]
      exact h.phases phase
  -- the header of the new block is written, and no other one is overwritten
  · intro block hblock
    rcases List.mem_cons.mp hblock with rfl | hblock
    · exact Function.update_self _ _ _
    · have hne := h.address_ne hblock (by omega) (hapart block hblock)
      exact (Function.update_of_ne hne _ _).trans (h.headers block hblock)
  · exact hrequests
  · exact hspaces
  · exact haparts

/-- What freeing the pointer of a live block does. -/
theorem step_free_live {block : LiveBlock} (hptr : block.pointer ≠ 0)
    (hheader : run.memory.headers block.address
      = { size := block.size, magic := xglAllocMagic, phase := block.phase }) :
    run.step (.free block.pointer)
      = { memory :=
            { tracker :=
                { run.memory.tracker with
                  stats := updateFreeStats run.memory.tracker.stats block.size
                  phaseStats := Function.update run.memory.tracker.phaseStats block.phase
                    (updateFreeStats (run.memory.tracker.phaseStats block.phase) block.size) }
              headers := Function.update run.memory.headers block.address
                { size := block.size, magic := 0, phase := block.phase } }
          live := run.live.eraseP fun other => other.address == block.address } := by
  have hactual : block.pointer - allocHeaderSize = block.address := by
    show block.address + allocHeaderSize - allocHeaderSize = block.address
    grind
  simp only [TrackerRun.step, trackingFreeImpl, hptr, if_false, hactual, hheader, ne_eq,
    not_true_eq_false]

/-- Blocks that are apart start at different addresses. -/
theorem address_ne_of_apart {a b : LiveBlock} (h : Apart LiveBlock.start LiveBlock.stop a b)
    (ha : 0 < a.request.toNat) (hb : 0 < b.request.toNat) : a.address ≠ b.address := by
  intro heq
  have hstart : a.start = b.start := congrArg UInt64.toNat heq
  have hstopA : a.stop = a.start + a.request.toNat := rfl
  have hstopB : b.stop = b.start + b.request.toNat := rfl
  rcases h with hle | hle <;> omega

/-- Freeing a pointer that is live. -/
theorem Charged.free_live (h : Charged run) {block : LiveBlock} (hblock : block ∈ run.live)
    (hptr : block.pointer ≠ 0) : Charged (run.step (.free block.pointer)) := by
  rw [step_free_live hptr (h.headers block hblock)]
  obtain ⟨found, before, after, _, hfound, hlive, herase⟩ :=
    List.exists_of_eraseP hblock (p := fun other => other.address == block.address)
      (beq_self_eq_true _)
  have hmem : found ∈ run.live := hlive ▸ List.mem_append_right _ List.mem_cons_self
  have hrest : ∀ other ∈ before ++ after, other ∈ run.live := by
    intro other hother
    rw [hlive]
    rcases List.mem_append.mp hother with hin | hin
    · exact List.mem_append_left _ hin
    · exact List.mem_append_right _ (List.mem_cons_of_mem _ hin)
  -- the block that is taken off has the header of the one that is freed
  have hheader := (h.headers found hmem).symm.trans
    ((congrArg run.memory.headers (eq_of_beq hfound)).trans (h.headers block hblock))
  have hsize : block.size = found.size := (congrArg AllocHeader.size hheader).symm
  have hphase : block.phase = found.phase := (congrArg AllocHeader.phase hheader).symm
  have haddress : block.address = found.address := (eq_of_beq hfound).symm
  rw [herase, hsize, hphase, haddress]
  have hapart := h.apart
  rw [hlive, List.pairwise_append, List.pairwise_cons] at hapart
  obtain ⟨hbefore, ⟨hfoundApart, hafter⟩, hacross⟩ := hapart
  -- the blocks have different addresses because each is at least a header long
  have hpositive : ∀ other ∈ run.live, 0 < other.request.toNat := by
    intro other hother
    rw [h.request other hother, allocHeaderSize_toNat]
    omega
  have hne : ∀ other ∈ before ++ after, other.address ≠ found.address := by
    intro other hother
    have hother' := hpositive other (hrest other hother)
    rcases List.mem_append.mp hother with hin | hin
    · exact address_ne_of_apart (hacross other hin found List.mem_cons_self) hother'
        (hpositive found hmem)
    · exact (address_ne_of_apart (hfoundApart other hin) (hpositive found hmem) hother').symm
  have hbytes : liveBytes run.live = liveBytes (before ++ after) + found.size.toNat := by
    rw [hlive, liveBytes_append, liveBytes_cons, liveBytes_append]
    omega
  constructor
  · exact (hbytes ▸ h.total).free
  -- the phase of the block loses its bytes, whatever phase is current now
  · intro phase
    have hstats := h.phases phase
    rw [hlive, chargedTo_append] at hstats
    show StatsHold (Function.update run.memory.tracker.phaseStats found.phase _ phase)
      (liveBytes (chargedTo phase (before ++ after)))
    rw [chargedTo_append]
    by_cases heq : phase = found.phase
    · subst heq
      have hcharged :
          liveBytes (chargedTo found.phase before ++ chargedTo found.phase (found :: after))
          = liveBytes (chargedTo found.phase before ++ chargedTo found.phase after)
            + found.size.toNat := by
        rw [chargedTo_cons_self, liveBytes_append, liveBytes_cons, liveBytes_append]
        omega
      rw [Function.update_self]
      exact (hcharged ▸ hstats).free
    · rw [Function.update_of_ne heq]
      rw [chargedTo_cons_other heq] at hstats
      exact hstats
  · intro other hother
    exact (Function.update_of_ne (hne other hother) _ _).trans
      (h.headers other (hrest other hother))
  · exact fun other hother => h.request other (hrest other hother)
  · exact fun other hother => h.inSpace other (hrest other hother)
  · exact List.pairwise_append.mpr ⟨hbefore, hafter, fun a ha b hb =>
      hacross a ha b (List.mem_cons_of_mem _ hb)⟩

/-- A phase change touches no count. -/
theorem Charged.setPhase (h : Charged run) (value : Nat) :
    Charged (run.step (.setPhase value)) := by
  have hstats : (xglTrackingAllocatorSetPhase run.memory.tracker value).stats
      = run.memory.tracker.stats
      ∧ (xglTrackingAllocatorSetPhase run.memory.tracker value).phaseStats
        = run.memory.tracker.phaseStats := by
    unfold xglTrackingAllocatorSetPhase
    cases AllocatorPhase.ofValue value <;> exact ⟨rfl, rfl⟩
  constructor
  · exact hstats.1 ▸ h.total
  · exact hstats.2 ▸ h.phases
  · exact h.headers
  · exact h.request
  · exact h.inSpace
  · exact h.apart

/-- A reset keeps the current counts. -/
theorem Charged.resetStats (h : Charged run) : Charged (run.step .resetStats) where
  total := h.total.reset
  phases := fun phase => (h.phases phase).reset
  headers := h.headers
  request := h.request
  inSpace := h.inSpace
  apart := h.apart

/-- One call keeps the invariant, unless it is an allocation that wraps and is served. -/
theorem Charged.step (h : Charged run) {call : TrackerCall} (hproper : ProperCall run call)
    (hroom : LeavesRoom call) : Charged (run.step call) := by
  cases call with
  | alloc size answer =>
    by_cases hfailed : size = 0
        ∨ underlyingAlloc (fun _ => answer) (size + allocHeaderSize) = 0
    · rw [step_alloc_failed hfailed]
      exact h
    · rw [not_or] at hfailed
      exact h.alloc_served hproper hfailed.1 hfailed.2 (hroom hfailed.2)
  | free ptr =>
    by_cases hnull : ptr = 0
    · subst hnull
      exact h
    · rcases hproper with hzero | ⟨block, hblock, hptr⟩
      · exact absurd hzero hnull
      · subst hptr
        exact h.free_live hblock hnull
  | setPhase value => exact h.setPhase value
  | resetStats => exact h.resetStats

/-! ### Runs -/

/-- The accounts after an allocation that wraps and is served are wrong: the block is smaller
than the allocation, or the caller is given `NULL` for bytes that were counted. -/
theorem not_accounted_of_wrapped (h : Accounted run) (hsize : size ≠ 0)
    (hserved : underlyingAlloc (fun _ => answer) (size + allocHeaderSize) ≠ 0)
    (hwraps : 2 ^ 64 ≤ size.toNat + allocHeaderSize.toNat) :
    ¬ Accounted (run.step (.alloc size answer)) := by
  intro hafter
  by_cases hptr : answer + allocHeaderSize = 0
  · -- the bytes are counted, but no caller holds them
    have hanswer := underlyingAlloc_served hserved
    rw [hanswer] at hserved
    have hcount := hafter.live
    simp only [TrackerRun.step, trackingMallocImpl, hsize, if_false, hanswer, hserved, hptr,
      if_true] at hcount
    have hsame := UInt64.toNat_inj.mp (hcount.trans h.live.symm)
    have hgrown : run.memory.tracker.stats.currentAllocated + size
        = run.memory.tracker.stats.currentAllocated := hsame
    exact hsize (by grind)
  · rw [step_alloc_served hsize hserved hptr] at hafter
    have hbacked : size.toNat + allocHeaderSize.toNat ≤ (size + allocHeaderSize).toNat :=
      hafter.backed _ List.mem_cons_self
    have hlt := (size + allocHeaderSize).toNat_lt
    omega

/-- **The accounts of the tracker.** Take any run of allocations of any size, frees of live
pointers, phase changes and resets, over an underlying allocator that serves disjoint blocks
or fails. In every state the run passes through the accounts are right, if and only if every
allocation that is served leaves room for the header in a `size_t`. -/
theorem tracking_allocator_accounts (headers : UInt64 → AllocHeader) (calls : List TrackerCall)
    (h : Along TrackerRun.step ProperCall calls (freshTracker headers)) :
    (∀ done rest, calls = done ++ rest →
        Accounted (done.foldl TrackerRun.step (freshTracker headers)))
      ↔ ∀ call ∈ calls, LeavesRoom call := by
  constructor
  · intro haccounts call hcall
    obtain ⟨done, rest, rfl⟩ := List.append_of_mem hcall
    cases call with
    | alloc size answer =>
      intro hserved
      by_contra hwraps
      have hsize : size ≠ 0 := by
        rintro rfl
        exact hwraps (by decide)
      have hbefore := haccounts done _ rfl
      have hafter := haccounts (done ++ [.alloc size answer]) rest (by simp)
      rw [List.foldl_append] at hafter
      exact not_accounted_of_wrapped hbefore hsize hserved (by omega) hafter
    | free ptr => trivial
    | setPhase value => trivial
    | resetStats => trivial
  · intro hroom done rest hcalls
    subst hcalls
    have hdone := (along_append.mp h).1.of_mem fun call hcall =>
      hroom call (List.mem_append_left _ hcall)
    exact (foldl_along Charged (fun _ _ hcharged hcall => hcharged.step hcall.2 hcall.1) done _
      (charged_fresh headers) hdone).accounted

/-- The accounts after three allocations in two phases, a reset between them and a free in
another phase than the block's. -/
theorem tracking_allocator_accounts_across_phases :
    Accounted ([.alloc 100 4096, .setPhase 3, .alloc 8 8192, .resetStats, .alloc 40 0,
      .free 4112].foldl TrackerRun.step
      (freshTracker fun _ => { size := 0, magic := 0, phase := .init })) := by
  refine (tracking_allocator_accounts _ [.alloc 100 4096, .setPhase 3, .alloc 8 8192, .resetStats,
    .alloc 40 0, .free 4112] ?_).mpr ?_ _ [] rfl
  · exact ⟨fun _ => ⟨by decide, by decide⟩, trivial, fun _ => ⟨by decide, by decide⟩, trivial,
      fun h => absurd rfl h, .inr (by decide), trivial⟩
  · decide

/-- A request for `SIZE_MAX` bytes asks the underlying allocator for 15, and is answered. -/
theorem size_max_is_served : ¬ ∀ (headers : UInt64 → AllocHeader) (calls : List TrackerCall),
    Along TrackerRun.step ProperCall calls (freshTracker headers) →
    ∀ done rest, calls = done ++ rest →
      Accounted (done.foldl TrackerRun.step (freshTracker headers)) := by
  intro h
  have haccounted := h (fun _ => { size := 0, magic := 0, phase := .init })
    [.alloc 0xFFFFFFFFFFFFFFFF 4096] ⟨fun _ => ⟨by decide, by decide⟩, trivial⟩
    [.alloc 0xFFFFFFFFFFFFFFFF 4096] [] rfl
  have hbacked := haccounted.backed _ List.mem_cons_self
  revert hbacked
  decide

end XgenLink
