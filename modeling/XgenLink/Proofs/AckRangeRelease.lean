import XgenLink.Proofs.AckWindows
import XgenLink.Proofs.IdlePackets
import XgenLink.Transport.AckWalk

/-!
# `XgenLink.Proofs.AckRangeRelease`: what an ACK_RANGE releases

The ranges of an acknowledgement stand for a set of packet numbers, from the largest one down.
`AckDenotes` says which, in terms of integers, as what the protocol documents puts it: a gap, a
length, a gap, a length, clipped at zero.

Two loops of the source decode that encoding, each with 64-bit arithmetic of its own. One takes
the numbers out of the queue, the other marks them in the window of the peer. `AckWalk` has the
loops with their exact arithmetic: a subtraction that would pass below zero, or an addition
that would wrap, ends the walk with `none`. The results say that this never happens, that both
loops come to their end, and that they visit exactly the numbers of the set.

* `ackRangeInner_eq`, `ackRangeVisit_eq`, `ackRangeOuter_eq`: the loops visit the numbers of
  `ackRangeNumbers`, from the inner loop outwards.
* `mem_ackRangeNumbers_iff`: these are the numbers of the set.
* `reliableRemoveNumbers_eq`: removing them keeps the rest of the queue in order.
* `ack_ranges_release`: queue and window agree on the set.
-/

set_option autoImplicit false

namespace XgenLink

/-! ### The set -/

/-- Where a range starts: at `nextHigh` when it is the one at index 0, and `gap + 1` below it
otherwise. -/
def ackRangeStart (first : Bool) (nextHigh : Int) (range : WireAckRange) : Int :=
  if first then nextHigh else nextHigh - (range.gap.toNat + 1)

/-- The packet numbers a list of ranges acknowledges. A range is `length` numbers
long, less what lies below 0. The next range goes on from its low end. An empty range changes
nothing, and behind a gap that passes below 0 nothing is acknowledged. -/
def AckDenotes : Bool → Int → List WireAckRange → Int → Prop
  | _, _, [], _ => False
  | first, nextHigh, range :: rest, n =>
    if range.length = 0 then AckDenotes false nextHigh rest n
    else
      0 ≤ ackRangeStart first nextHigh range ∧
        ((0 ≤ n ∧ ackRangeStart first nextHigh range - range.length.toNat < n ∧
            n ≤ ackRangeStart first nextHigh range) ∨
          AckDenotes false (max 0 (ackRangeStart first nextHigh range - range.length.toNat + 1))
            rest n)

/-- The set is decided range by range. -/
instance decidableAckDenotes : ∀ (first : Bool) (nextHigh : Int) (ranges : List WireAckRange)
    (n : Int), Decidable (AckDenotes first nextHigh ranges n)
  | _, _, [], _ => inferInstanceAs (Decidable False)
  | first, nextHigh, range :: rest, n =>
    have := decidableAckDenotes false nextHigh rest n
    have := decidableAckDenotes false
      (max 0 (ackRangeStart first nextHigh range - range.length.toNat + 1)) rest n
    inferInstanceAs (Decidable (if range.length = 0 then AckDenotes false nextHigh rest n
      else 0 ≤ ackRangeStart first nextHigh range ∧
        ((0 ≤ n ∧ ackRangeStart first nextHigh range - range.length.toNat < n ∧
            n ≤ ackRangeStart first nextHigh range) ∨
          AckDenotes false (max 0 (ackRangeStart first nextHigh range - range.length.toNat + 1))
            rest n)))

/-- The number is acknowledged by the ranges below the largest number. -/
def AckedByRanges (largestAck : UInt32) (ranges : List WireAckRange) (n : UInt32) : Prop :=
  AckDenotes true largestAck.toNat ranges n.toNat

/-- So an acknowledgement can be evaluated on concrete numbers. -/
instance (largestAck : UInt32) (ranges : List WireAckRange) (n : UInt32) :
    Decidable (AckedByRanges largestAck ranges n) :=
  inferInstanceAs (Decidable (AckDenotes _ _ _ _))

/-! ### The numbers the loops visit -/

/-- A range of one number. -/
theorem numbersDown_self (n : Nat) : numbersDown n n = [UInt32.ofNat n] := by
  simp [numbersDown, List.range_succ]

/-- The first number of a longer range, and the range below it. -/
theorem numbersDown_succ {high low : Nat} (h : low ≤ high) :
    numbersDown (high + 1) low = UInt32.ofNat (high + 1) :: numbersDown high low := by
  rw [numbersDown, numbersDown, show high + 1 - low + 1 = (high - low + 1) + 1 by omega,
    List.range_succ_eq_map, List.map_cons, List.map_map]
  refine congrArg₂ List.cons rfl (List.map_congr_left fun i _ => ?_)
  show UInt32.ofNat (high + 1 - (i + 1)) = _
  rw [Nat.add_sub_add_right]

/-- A range has every number from its high end to its low end. -/
theorem mem_numbersDown_iff {high low : Nat} (hle : low ≤ high) (hhigh : high < 2 ^ 32)
    {n : UInt32} : n ∈ numbersDown high low ↔ low ≤ n.toNat ∧ n.toNat ≤ high := by
  simp only [numbersDown, List.mem_map, List.mem_range]
  constructor
  · rintro ⟨i, hi, rfl⟩
    rw [UInt32.toNat_ofNat_of_lt' (show high - i < 2 ^ 32 by omega)]
    omega
  · rintro ⟨hlow, hup⟩
    refine ⟨high - n.toNat, by omega, ?_⟩
    rw [Nat.sub_sub_self hup, UInt32.ofNat_toNat]

section Loops

variable {σ : Type} {body : σ → UInt32 → σ}

/-- The inner loop ends and visits the numbers of the range in descending order. -/
theorem ackRangeInner_eq {low : UInt64} {fuel : Nat} {high : UInt64} (state : σ)
    (hle : low.toNat ≤ high.toNat) (hfuel : high.toNat - low.toNat < fuel) :
    ackRangeInner body low fuel high state
      = some ((numbersDown high.toNat low.toNat).foldl body state) := by
  -- induction on the numbers still to visit
  induction fuel generalizing high state with
  | zero => omega
  | succ fuel ih =>
    have hnumber : high.toUInt32 = UInt32.ofNat high.toNat := by
      rw [← UInt32.toNat_inj, UInt64.toNat_toUInt32, UInt32.toNat_ofNat']
    rw [ackRangeInner]
    -- the last number of the range, or one with more below it
    by_cases heq : high = low
    · subst heq
      rw [if_pos (beq_self_eq_true _), numbersDown_self, hnumber]
      rfl
    · have hlt : low.toNat < high.toNat := by
        have : high.toNat ≠ low.toNat := fun h => heq (UInt64.toNat_inj.mp h)
        omega
      have hone : (1 : UInt64) ≤ high := UInt64.le_iff_toNat_le.mpr (by
        rw [UInt64.toNat_one]
        omega)
      have hpred : (high - 1).toNat = high.toNat - 1 := UInt64.toNat_sub_of_le _ _ hone
      simp only [beq_iff_eq, heq, if_false, subExact, if_pos hone]
      have hnext : numbersDown high.toNat low.toNat
          = UInt32.ofNat high.toNat :: numbersDown (high.toNat - 1) low.toNat := by
        have hdown := @numbersDown_succ (high.toNat - 1) low.toNat (by omega)
        rwa [Nat.sub_add_cancel (by omega)] at hdown
      rw [ih _ (by omega) (by omega), hpred, hnext, hnumber]
      rfl

/-- The low end of a range is computed without wrapping around. -/
theorem ackRangeLow_eq {high length : UInt64} (hhigh : high.toNat < 2 ^ 32)
    (hlength : 0 < length.toNat) :
    ∃ low, ackRangeLow high length = some low ∧
      low.toNat = if high.toNat + 1 > length.toNat then high.toNat - length.toNat + 1 else 0 := by
  have habove : (high + 1).toNat = high.toNat + 1 := by
    rw [UInt64.toNat_add, UInt64.toNat_one]
    omega
  rw [ackRangeLow, addExact, if_pos (by rw [UInt64.toNat_one]; omega)]
  dsimp only
  by_cases hmore : high.toNat + 1 > length.toNat
  · have hle : length ≤ high := UInt64.le_iff_toNat_le.mpr (by omega)
    have hsub : (high - length).toNat = high.toNat - length.toNat := UInt64.toNat_sub_of_le _ _ hle
    rw [if_pos (show high + 1 > length from UInt64.lt_iff_toNat_lt.mpr (by omega)), subExact,
      if_pos hle, if_pos hmore]
    dsimp only
    rw [addExact, if_pos (by rw [hsub, UInt64.toNat_one]; omega)]
    refine ⟨_, rfl, ?_⟩
    rw [UInt64.toNat_add, hsub, UInt64.toNat_one]
    omega
  · rw [if_neg (fun h => hmore (by have := UInt64.lt_iff_toNat_lt.mp h; omega)), if_neg hmore]
    exact ⟨0, rfl, rfl⟩

/-- One range that is not empty. -/
theorem ackRangeVisit_eq {fuel : Nat} {high : UInt64} {range : WireAckRange} (state : σ)
    (hhigh : high.toNat < 2 ^ 32) (hlength : range.length ≠ 0) (hfuel : 2 ^ 32 ≤ fuel) :
    ∃ low : UInt64, low.toNat = (if high.toNat + 1 > range.length.toNat then
        high.toNat - range.length.toNat + 1 else 0) ∧ low.toNat ≤ high.toNat ∧
      ackRangeVisit body fuel high range state
        = some (low, (numbersDown high.toNat low.toNat).foldl body state) := by
  have hpos : 0 < range.length.toUInt64.toNat := by
    rw [UInt16.toNat_toUInt64]
    exact Nat.pos_of_ne_zero fun h => hlength (UInt16.toNat_inj.mp h)
  obtain ⟨low, hlow, hat⟩ := ackRangeLow_eq hhigh hpos
  rw [UInt16.toNat_toUInt64] at hat hpos
  have hle : low.toNat ≤ high.toNat := by
    rw [hat]
    split <;> omega
  refine ⟨low, hat, hle, ?_⟩
  rw [ackRangeVisit, hlow]
  dsimp only
  rw [ackRangeInner_eq state hle (by omega)]

/-- The loops end without wrapping around and visit the numbers of `ackRangeNumbers`. -/
theorem ackRangeOuter_eq {fuel : Nat} (hfuel : 2 ^ 32 ≤ fuel) (ranges : List WireAckRange)
    (i : Nat) (nextHigh : UInt64) (state : σ) (hhigh : nextHigh.toNat < 2 ^ 32) :
    ackRangeOuter body fuel i nextHigh ranges state
      = some ((ackRangeNumbers (i == 0) nextHigh.toNat ranges).foldl body state) := by
  induction ranges generalizing i nextHigh state with
  | nil => rfl
  | cons range rest ih =>
    have hlater : ∀ j, (j + 1 == 0) = false := fun j => by simp
    rw [ackRangeOuter, ackRangeNumbers]
    -- an empty range is passed over
    by_cases hempty : range.length = 0
    · rw [if_pos (by simpa using hempty), if_pos (by simpa using hempty), ih _ _ _ hhigh, hlater]
    have hnot : ¬ (range.length == 0) = true := by simpa using hempty
    rw [if_neg hnot, if_neg hnot]
    by_cases hi : i > 0
    · -- a later range starts behind its gap
      have hskip : (range.gap.toUInt64 + 1).toNat = range.gap.toNat + 1 := by
        have := range.gap.toNat_lt
        rw [UInt64.toNat_add, UInt16.toNat_toUInt64, UInt64.toNat_one]
        omega
      have hnotFirst : (i == 0) = false := by simpa using Nat.ne_of_gt hi
      have hgap := range.gap.toNat_lt
      rw [if_pos hi, addExact, if_pos (by rw [UInt16.toNat_toUInt64, UInt64.toNat_one]; omega)]
      simp only [hnotFirst, Bool.false_eq_true, if_false]
      by_cases hpast : nextHigh.toNat < range.gap.toNat + 1
      · rw [if_pos (UInt64.lt_iff_toNat_lt.mpr (by omega)), if_pos hpast]
        rfl
      · have hle : range.gap.toUInt64 + 1 ≤ nextHigh := UInt64.le_iff_toNat_le.mpr (by omega)
        have hsub : (nextHigh - (range.gap.toUInt64 + 1)).toNat
            = nextHigh.toNat - (range.gap.toNat + 1) := by
          rw [UInt64.toNat_sub_of_le _ _ hle, hskip]
        rw [if_neg (UInt64.not_lt.mpr hle), subExact, if_pos hle, if_neg hpast]
        dsimp only
        obtain ⟨low, hat, hlow, hvisit⟩ := @ackRangeVisit_eq σ body fuel
          (nextHigh - (range.gap.toUInt64 + 1)) range state (by omega) hempty hfuel
        rw [hvisit]
        dsimp only
        rw [ih _ _ _ (by omega), hlater, hsub, hat, hsub, List.foldl_append]
    -- the first range starts at the largest number itself
    · have hzero : i = 0 := Nat.eq_zero_of_not_pos hi
      subst hzero
      obtain ⟨low, hat, hlow, hvisit⟩ := @ackRangeVisit_eq σ body fuel nextHigh range state hhigh
        hempty hfuel
      rw [if_neg hi, hvisit]
      simp only [beq_self_eq_true, if_true, Nat.not_lt_zero, if_false, Nat.sub_zero]
      rw [ih _ _ _ (by omega), hlater, hat, List.foldl_append]

end Loops

/-- The numbers the loops visit are those that are acknowledged. -/
theorem mem_ackRangeNumbers_iff {first : Bool} {nextHigh : Nat} {ranges : List WireAckRange}
    {n : UInt32} (hhigh : nextHigh < 2 ^ 32) :
    n ∈ ackRangeNumbers first nextHigh ranges ↔ AckDenotes first nextHigh ranges n.toNat := by
  induction ranges generalizing first nextHigh with
  | nil => exact ⟨fun h => absurd h List.not_mem_nil, False.elim⟩
  | cons range rest ih =>
    rw [ackRangeNumbers, AckDenotes]
    by_cases hempty : range.length = 0
    · rw [if_pos (by simpa using hempty), if_pos hempty]
      exact ih hhigh
    have hlength : 0 < range.length.toNat :=
      Nat.pos_of_ne_zero fun h => hempty (UInt16.toNat_inj.mp h)
    rw [if_neg (by simpa using hempty), if_neg hempty]
    -- the start of the range, once for the first and once for a later one
    have hrange : ∀ skip : Nat, (n ∈ (if nextHigh < skip then [] else
          numbersDown (nextHigh - skip) (if nextHigh - skip + 1 > range.length.toNat then
              nextHigh - skip - range.length.toNat + 1 else 0) ++
            ackRangeNumbers false (if nextHigh - skip + 1 > range.length.toNat then
              nextHigh - skip - range.length.toNat + 1 else 0) rest)) ↔
        0 ≤ (nextHigh : Int) - skip ∧
          ((0 ≤ (n.toNat : Int) ∧ (nextHigh : Int) - skip - range.length.toNat < n.toNat ∧
              (n.toNat : Int) ≤ nextHigh - skip) ∨
            AckDenotes false (max 0 ((nextHigh : Int) - skip - range.length.toNat + 1)) rest
              n.toNat) := by
      intro skip
      -- the gap passes below zero, and nothing is acknowledged any more
      by_cases hpast : nextHigh < skip
      · rw [if_pos hpast]
        exact ⟨fun h => absurd h List.not_mem_nil, fun h => by omega⟩
      · rw [if_neg hpast, List.mem_append]
        -- clipping at zero is `max` on the integers
        generalize hlow : (if nextHigh - skip + 1 > range.length.toNat then
          nextHigh - skip - range.length.toNat + 1 else 0) = low
        have hle : low ≤ nextHigh - skip := by
          rw [← hlow]
          split <;> omega
        have hmax : max 0 ((nextHigh : Int) - skip - range.length.toNat + 1) = (low : Int) := by
          rw [← hlow]
          split <;> omega
        rw [hmax, mem_numbersDown_iff hle (by omega), ih (by omega)]
        refine ⟨fun h => ⟨by omega, h.imp_left fun hin => ?_⟩,
          fun h => h.2.imp_left fun hin => ?_⟩
        · omega
        · omega
    cases first with
    | true => simpa [ackRangeStart] using hrange 0
    | false => simpa [ackRangeStart] using hrange (range.gap.toNat + 1)

/-! ### The queue -/

/-- No two queued packets of the target have the same number. -/
def NumbersDistinct (targetId : UInt16) (packets : List ReliablePacket) : Prop :=
  ((packets.filter fun packet => packet.targetId == targetId).map
    ReliablePacket.packetNumber).Nodup

/-- Fewer packets have distinct numbers too. -/
theorem NumbersDistinct.filter {targetId : UInt16} {packets : List ReliablePacket}
    (h : NumbersDistinct targetId packets) (test : ReliablePacket → Bool) :
    NumbersDistinct targetId (packets.filter test) :=
  h.sublist ((List.filter_sublist.filter _).map _)

/-- At most one packet of a target carries a number. -/
theorem NumbersDistinct.single {targetId : UInt16} {packets : List ReliablePacket}
    (h : NumbersDistinct targetId packets) (n : UInt32) :
    packets.reverse.Pairwise fun a b =>
      a.isFor n targetId = true → b.isFor n targetId = false := by
  rw [List.pairwise_reverse]
  rw [NumbersDistinct, List.Nodup, List.pairwise_map, List.pairwise_filter] at h
  refine h.imp fun {a b} hne hb => ?_
  rw [Bool.eq_false_iff]
  intro ha
  simp only [ReliablePacket.isFor, Bool.and_eq_true, beq_iff_eq] at ha hb hne
  exact hne ha.2 hb.2 (ha.1.trans hb.1.symm)

/-- When at most one element passes the test, erasing it is filtering. -/
theorem eraseP_eq_filter {α : Type} {test : α → Bool} {l : List α}
    (h : l.Pairwise fun a b => test a = true → test b = false) :
    l.eraseP test = l.filter fun a => !test a := by
  induction l with
  | nil => rfl
  | cons a rest ih =>
    obtain ⟨hfirst, hrest⟩ := List.pairwise_cons.mp h
    rw [List.eraseP_cons, List.filter_cons]
    cases ha : test a with
    | true =>
      -- nothing behind the first hit passes
      have hnone : rest.filter (fun b => !test b) = rest :=
        List.filter_eq_self.mpr fun b hb => by rw [hfirst b hb ha]; rfl
      simp only [cond_true, Bool.not_true, Bool.false_eq_true, if_false, hnone]
    | false =>
      simp only [cond_false, Bool.not_false, if_true, ih hrest]

/-- A number of the target is taken off where it stands. -/
theorem reliableUnlink_eq_filter {n : UInt32} {targetId : UInt16} {packets : List ReliablePacket}
    (h : NumbersDistinct targetId packets) :
    reliableUnlink n targetId packets
      = packets.filter fun packet => !packet.isFor n targetId := by
  rw [reliableUnlink, eraseP_eq_filter (h.single n), List.filter_reverse, List.reverse_reverse]

/-- Removing numbers takes out the packets of the target that carry them and counts them. -/
theorem reliableRemoveNumbers_eq {targetId : UInt16} (numbers : List UInt32)
    {queue : ReliableQueue} (removed : Nat) (h : NumbersDistinct targetId queue.waitAckList) :
    (reliableRemoveNumbers targetId numbers (removed, queue)).2
      = { queue with
          waitAckList := queue.waitAckList.filter fun packet =>
            !(packet.targetId == targetId && numbers.contains packet.packetNumber) } := by
  induction numbers generalizing queue removed with
  | nil =>
    have hall : queue.waitAckList.filter (fun packet =>
        !(packet.targetId == targetId && [].contains packet.packetNumber)) = queue.waitAckList :=
      List.filter_eq_self.mpr fun packet _ => by simp
    rw [reliableRemoveNumbers, hall]
  | cons n rest ih =>
    simp only [reliableRemoveNumbers, xglReliableRemovePacketNumber, reliableUnlink_eq_filter h]
    rw [ih _ (h.filter _), List.filter_filter]
    refine congrArg (fun list => { queue with waitAckList := list })
      (List.filter_congr fun packet _ => ?_)
    rw [List.contains_cons, ReliablePacket.isFor]
    cases packet.targetId == targetId <;> cases packet.packetNumber == n <;>
      cases rest.contains packet.packetNumber <;> rfl

/-! ### Queue and window -/

/-- What the removal of an acknowledgement does to a queue: the packets of the target with
an acknowledged number are taken out and counted, and the others stay in order. -/
structure QueueReleased (queue : ReliableQueue) (targetId : UInt16) (largestAck : UInt32)
    (ranges : List WireAckRange) (out : Nat × ReliableQueue) : Prop where
  kept : out.2 = { queue with
    waitAckList := queue.waitAckList.filter fun packet =>
      !decide (packet.targetId = targetId ∧ AckedByRanges largestAck ranges packet.packetNumber) }
  count : out.1 = (queue.waitAckList.filter fun packet =>
    decide (packet.targetId = targetId ∧
      AckedByRanges largestAck ranges packet.packetNumber)).length

/-- What the marks of an acknowledgement do to the window of the peer: among its numbers the
acknowledged ones are marked, and nothing else changes. -/
structure WindowMarked (window : SlidingWindow) (largestAck : UInt32) (ranges : List WireAckRange)
    (after : SlidingWindow) : Prop where
  kept : MarkKept window after
  marks : ∀ n, xglWindowIsInWindowPacketNumber window n = true →
    (after.Flag (n - window.sendBasePacketNumber).toNat ↔
      window.Flag (n - window.sendBasePacketNumber).toNat ∨ AckedByRanges largestAck ranges n)

section Release

variable {fuel : Nat} {largestAck : UInt32} {ranges : List WireAckRange}

/-- The numbers of the loops are the acknowledged ones, from the largest number on. -/
theorem mem_ackRangeNumbers_acked {n : UInt32} :
    n ∈ ackRangeNumbers true largestAck.toNat ranges ↔ AckedByRanges largestAck ranges n :=
  mem_ackRangeNumbers_iff largestAck.toNat_lt

/-- The loops of the removal come to their end with what the removal of all numbers gives. -/
theorem reliableRemoveAckRangesWalk_eq (hfuel : 2 ^ 32 ≤ fuel) (queue : ReliableQueue)
    (targetId : UInt16) :
    reliableRemoveAckRangesWalk fuel queue targetId largestAck ranges
      = some (xglReliableRemoveAckRanges queue targetId largestAck ranges) := by
  have hfold : ∀ numbers (acc : Nat × ReliableQueue),
      numbers.foldl (fun state packetNumber =>
        let step := xglReliableRemovePacketNumber state.2 packetNumber targetId
        (if step.1 then state.1 + 1 else state.1, step.2)) acc
        = reliableRemoveNumbers targetId numbers acc := by
    intro numbers
    induction numbers with
    | nil => exact fun _ => rfl
    | cons n rest ih => exact fun acc => ih _
  have hto : largestAck.toUInt64.toNat = largestAck.toNat := UInt32.toNat_toUInt64 _
  rw [reliableRemoveAckRangesWalk, ackRangeOuter_eq hfuel _ _ _ _ (hto ▸ largestAck.toNat_lt), hto,
    hfold]
  rfl

/-- The loops of the marks come to their end. -/
theorem markAckRangesWalk_eq (hfuel : 2 ^ 32 ≤ fuel) (windows : SlidingWindow × SlidingWindow) :
    markAckRangesWalk fuel windows largestAck ranges
      = some ((ackRangeNumbers true largestAck.toNat ranges).foldl markAcked windows) := by
  have hto : largestAck.toUInt64.toNat = largestAck.toNat := UInt32.toNat_toUInt64 _
  rw [markAckRangesWalk, ackRangeOuter_eq hfuel _ _ _ _ (hto ▸ largestAck.toNat_lt), hto]
  rfl

/-- The removal releases the acknowledged packets of the target. -/
theorem xglReliableRemoveAckRanges_released {queue : ReliableQueue} {targetId : UInt16}
    (hdistinct : NumbersDistinct targetId queue.waitAckList) :
    QueueReleased queue targetId largestAck ranges
      (xglReliableRemoveAckRanges queue targetId largestAck ranges) := by
  have hkept : (xglReliableRemoveAckRanges queue targetId largestAck ranges).2
      = { queue with
          waitAckList := queue.waitAckList.filter fun packet =>
            !decide (packet.targetId = targetId ∧
              AckedByRanges largestAck ranges packet.packetNumber) } := by
    rw [xglReliableRemoveAckRanges, reliableRemoveNumbers_eq _ 0 hdistinct]
    refine congrArg (fun list => { queue with waitAckList := list })
      (List.filter_congr fun packet _ => ?_)
    congr 1
    rw [Bool.eq_iff_iff, Bool.and_eq_true, beq_iff_eq, List.contains_iff_mem, decide_eq_true_iff,
      mem_ackRangeNumbers_acked]
  refine ⟨hkept, ?_⟩
  have hlength := reliableRemoveNumbers_length targetId
    (ackRangeNumbers true largestAck.toNat ranges) (0, queue)
  have hsplit := queue.waitAckList.length_eq_length_filter_add fun packet =>
    decide (packet.targetId = targetId ∧ AckedByRanges largestAck ranges packet.packetNumber)
  have hafter := congrArg (fun queue => queue.waitAckList.length) hkept
  dsimp only at hafter hlength
  rw [xglReliableRemoveAckRanges] at hafter ⊢
  omega

/-- The marks are those of the acknowledged numbers in the window of the peer. -/
theorem foldl_markAcked_marked {windows : SlidingWindow × SlidingWindow}
    (hlength : windows.1.ackReceived.length = windows.1.windowSize.toNat) :
    WindowMarked windows.1 largestAck ranges
      ((ackRangeNumbers true largestAck.toNat ranges).foldl markAcked windows).1 := by
  rw [foldl_markAcked_fst]
  refine ⟨markAll_mark _ _, fun n hin => ?_⟩
  obtain ⟨hlow, _⟩ := xglWindowIsInWindowPacketNumber_iff.mp hin
  rw [flag_markAll hlength, toNat_sub_base hlow, ← mem_ackRangeNumbers_acked]
  refine or_congr_right ⟨?_, fun hmem => ⟨n, hmem, hin, by omega⟩⟩
  rintro ⟨other, hmem, _, hat⟩
  rwa [show n = other from UInt32.toNat_inj.mp (by omega)]

end Release

/-- For every queue whose packets of the target have distinct numbers and every list of
ranges: both walks come to their end without wrapping around; the removal takes out exactly
the packets of the target with an acknowledged number, counts them and keeps the others in
order; and in the window of the peer exactly the same numbers are marked before the bases
move. -/
theorem ack_ranges_release (fuel : Nat) (hfuel : 2 ^ 32 ≤ fuel) (queue : ReliableQueue)
    (targetId : UInt16) (windows : SlidingWindow × SlidingWindow) (largestAck : UInt32)
    (ranges : List WireAckRange) (hdistinct : NumbersDistinct targetId queue.waitAckList)
    (hlength : windows.1.ackReceived.length = windows.1.windowSize.toNat) :
    (∃ out, reliableRemoveAckRangesWalk fuel queue targetId largestAck ranges = some out ∧
      out = xglReliableRemoveAckRanges queue targetId largestAck ranges ∧
      QueueReleased queue targetId largestAck ranges out) ∧
    ∃ marked, markAckRangesWalk fuel windows largestAck ranges = some marked ∧
      transportMarkAckRangeWindows windows largestAck ranges = advanceBases marked ∧
      WindowMarked windows.1 largestAck ranges marked.1 :=
  ⟨⟨_, reliableRemoveAckRangesWalk_eq hfuel queue targetId, rfl,
      xglReliableRemoveAckRanges_released hdistinct⟩,
    _, markAckRangesWalk_eq hfuel windows, rfl, foldl_markAcked_marked hlength⟩

/-- Three packets for one target. -/
def rangedQueue : ReliableQueue where
  waitAckList := [3, 5, 7].map fun n =>
    { data := [1]
      sourceId := 1
      targetId := 9
      packetNumber := n
      dataType := 0
      priority := 0
      timeoutMs := 100
      initialTimeoutMs := 100 }
  maxRetryCount := 3

/-- The numbers 7, 6 and 5 are acknowledged: two packets leave and the third one stays. -/
theorem ack_ranges_release_rangedQueue :
    ∃ out, reliableRemoveAckRangesWalk (2 ^ 32) rangedQueue 9 7
        [{ gap := 4, length := 1 }, { gap := 0, length := 2 }] = some out ∧
      out.1 = 2 ∧ out.2.waitAckList.map ReliablePacket.packetNumber = [3] := by
  obtain ⟨⟨out, hwalk, _, hreleased⟩, _⟩ := ack_ranges_release (2 ^ 32) (Nat.le_refl _) rangedQueue
    9 (freshWindow 8, freshWindow 8) 7 [{ gap := 4, length := 1 }, { gap := 0, length := 2 }]
    (show List.Nodup _ by decide) (by decide)
  refine ⟨out, hwalk, hreleased.count.trans (by decide), ?_⟩
  rw [hreleased.kept]
  decide

end XgenLink
