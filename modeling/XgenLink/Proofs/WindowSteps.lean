import XgenLink.Transport.AckReceive

/-!
# `XgenLink.Proofs.WindowSteps`: what marking and advancing do to a window

A send window spans the packet numbers from a base on, and keeps a flag for each of them. A number
that is acknowledged is marked, in any order. The base moves on when the number at the base is
marked, over all marked numbers in front. The flags are read relative to the base, so advancing
drops the leading marks and moves the others to the front.

Numbers are taken modulo 2^32 and compared both by their distance from the base and as they are.
`WindowShape` keeps the two in agreement.

* `MarkKept`: the fields a mark leaves alone.
* `flag_mark`, `flag_markAll`: the flags behind marks.
* `Advanced`, `xglWindowAdvanceBasePacketNumber_advanced`: the window behind an
  advance.
* `WindowSound`: nothing that was not sent is marked. `markAll_sound_iff` and
  `xglWindowAdvanceBasePacketNumber_sound_iff` say what marking and advancing do to that.
-/

set_option autoImplicit false

namespace XgenLink

/-! ### Marks -/

/-- The flag at an index is set. -/
def SlidingWindow.Flag (window : SlidingWindow) (i : Nat) : Prop :=
  window.ackReceived[i]? = some true

/-- Marking several numbers one after the other. -/
def markAll (window : SlidingWindow) (numbers : List UInt32) : SlidingWindow :=
  numbers.foldl xglWindowMarkAckPacketNumber window

/-- The fields a mark leaves alone. -/
structure MarkKept (before after : SlidingWindow) : Prop where
  base : after.sendBasePacketNumber = before.sendBasePacketNumber
  next : after.nextPacketNumber = before.nextPacketNumber
  size : after.windowSize = before.windowSize
  length : after.ackReceived.length = before.ackReceived.length

/-- Nothing changes. -/
theorem MarkKept.refl (window : SlidingWindow) : MarkKept window window := ⟨rfl, rfl, rfl, rfl⟩

/-- One mark behind another. -/
theorem MarkKept.trans {a b c : SlidingWindow} (hab : MarkKept a b) (hbc : MarkKept b c) :
    MarkKept a c :=
  ⟨hbc.base.trans hab.base, hbc.next.trans hab.next, hbc.size.trans hab.size,
    hbc.length.trans hab.length⟩

/-- A mark sets a flag and leaves the rest. -/
theorem xglWindowMarkAckPacketNumber_mark (window : SlidingWindow) (n : UInt32) :
    MarkKept window (xglWindowMarkAckPacketNumber window n) := by
  unfold xglWindowMarkAckPacketNumber
  split
  · exact ⟨rfl, rfl, rfl, List.length_set⟩
  · exact .refl _

/-- So do several marks. -/
theorem markAll_mark (window : SlidingWindow) (numbers : List UInt32) :
    MarkKept window (markAll window numbers) := by
  induction numbers generalizing window with
  | nil => exact .refl _
  | cons n rest ih => exact (xglWindowMarkAckPacketNumber_mark window n).trans (ih _)

/-- A number lies in the same windows. -/
theorem MarkKept.isInWindow {before after : SlidingWindow} (h : MarkKept before after)
    (n : UInt32) :
    xglWindowIsInWindowPacketNumber after n = xglWindowIsInWindowPacketNumber before n := by
  unfold xglWindowIsInWindowPacketNumber
  rw [h.base, h.size]

/-- A number in the window is a number of its span, at its distance from the base. -/
theorem xglWindowIsInWindowPacketNumber_iff {window : SlidingWindow} {n : UInt32} :
    xglWindowIsInWindowPacketNumber window n = true ↔
      window.sendBasePacketNumber.toNat ≤ n.toNat ∧
        n.toNat < window.sendBasePacketNumber.toNat + window.windowSize.toNat := by
  unfold xglWindowIsInWindowPacketNumber
  by_cases hlow : n < window.sendBasePacketNumber
  · rw [if_pos hlow]
    rw [UInt32.lt_iff_toNat_lt] at hlow
    constructor
    · intro h
      cases h
    · omega
  · rw [if_neg hlow, decide_eq_true_iff, UInt32.lt_iff_toNat_lt]
    rw [UInt32.lt_iff_toNat_lt] at hlow
    rw [UInt32.toNat_sub_of_le _ _ (UInt32.le_iff_toNat_le.mpr (by omega)),
      UInt8.toNat_toUInt32]
    omega

/-- The distance of a number from the base of its window. -/
theorem toNat_sub_base {window : SlidingWindow} {n : UInt32}
    (h : window.sendBasePacketNumber.toNat ≤ n.toNat) :
    (n - window.sendBasePacketNumber).toNat = n.toNat - window.sendBasePacketNumber.toNat :=
  UInt32.toNat_sub_of_le _ _ (UInt32.le_iff_toNat_le.mpr h)

section Marks

variable {window : SlidingWindow} (hlen : window.ackReceived.length = window.windowSize.toNat)
include hlen

/-- The flags behind a mark. -/
theorem flag_mark (n : UInt32) (i : Nat) :
    (xglWindowMarkAckPacketNumber window n).Flag i ↔
      window.Flag i ∨ (xglWindowIsInWindowPacketNumber window n = true ∧
        n.toNat = window.sendBasePacketNumber.toNat + i) := by
  unfold xglWindowMarkAckPacketNumber
  by_cases hin : xglWindowIsInWindowPacketNumber window n = true
  · obtain ⟨hlow, hhigh⟩ := xglWindowIsInWindowPacketNumber_iff.mp hin
    rw [if_pos hin]
    unfold SlidingWindow.Flag
    dsimp only
    rw [toNat_sub_base hlow, List.getElem?_set]
    by_cases hi : n.toNat - window.sendBasePacketNumber.toNat = i
    · rw [if_pos hi, if_pos (by omega)]
      exact ⟨fun _ => .inr ⟨hin, by omega⟩, fun _ => rfl⟩
    · rw [if_neg hi]
      exact ⟨.inl, fun h => h.resolve_right fun hn => hi (by omega)⟩
  · rw [if_neg hin]
    exact ⟨.inl, fun h => h.resolve_right fun hn => hin hn.1⟩

/-- The flags behind several marks. -/
theorem flag_markAll (numbers : List UInt32) (i : Nat) :
    (markAll window numbers).Flag i ↔
      window.Flag i ∨ ∃ n ∈ numbers, xglWindowIsInWindowPacketNumber window n = true ∧
        n.toNat = window.sendBasePacketNumber.toNat + i := by
  induction numbers generalizing window with
  | nil => simp [markAll]
  | cons n rest ih =>
    have hmark := xglWindowMarkAckPacketNumber_mark window n
    have hrest := ih
      (by rw [hmark.length, hmark.size, hlen])
    change (markAll (xglWindowMarkAckPacketNumber window n) rest).Flag i ↔ _
    rw [hrest, flag_mark hlen, hmark.base]
    simp only [hmark.isInWindow, List.mem_cons, exists_eq_or_imp, or_assoc]

end Marks

/-! ### Advancing -/

/-- The window moved on by a number of marked entries. -/
structure Advanced (k : Nat) (before after : SlidingWindow) : Prop where
  base : after.sendBasePacketNumber = before.sendBasePacketNumber + UInt32.ofNat k
  next : after.nextPacketNumber = before.nextPacketNumber
  size : after.windowSize = before.windowSize
  length : after.ackReceived.length = before.ackReceived.length
  flags : ∀ i, after.Flag i ↔ before.Flag (i + k)
  marked : ∀ i, i < k → before.Flag i

/-- The window has not moved. -/
theorem Advanced.zero (window : SlidingWindow) : Advanced 0 window window :=
  ⟨by rw [show UInt32.ofNat 0 = 0 from rfl, UInt32.add_zero], rfl, rfl, rfl, fun _ => .rfl,
    fun _ h => absurd h (by omega)⟩

/-- The loop moves on until it runs out or an entry is not marked. -/
theorem windowAdvanceBaseLoop_advanced (fuel : Nat) (window : SlidingWindow) :
    ∃ k, k ≤ fuel ∧ Advanced k window (windowAdvanceBaseLoop fuel window) ∧
      (k = fuel ∨ ¬ (windowAdvanceBaseLoop fuel window).Flag 0) := by
  induction fuel generalizing window with
  | zero => exact ⟨0, le_refl _, .zero window, .inl rfl⟩
  | succ fuel ih =>
    unfold windowAdvanceBaseLoop
    split
    · rename_i rest hflags
      obtain ⟨k, hk, hadvanced, hend⟩ := ih { window with
        ackReceived := rest ++ [false]
        sendBasePacketNumber := window.sendBasePacketNumber + 1 }
      -- the entry appended behind the others is not marked
      have hshift : ∀ i, (rest ++ [false])[i]? = some true ↔ window.Flag (i + 1) := by
        intro i
        unfold SlidingWindow.Flag
        rw [hflags, List.getElem?_cons_succ, List.getElem?_append]
        split
        · rfl
        · rename_i hlong
          rw [List.getElem?_eq_none (Nat.not_lt.mp hlong)]
          cases hi : i - rest.length with
          | zero => simp
          | succ j => simp
      refine ⟨k + 1, by omega, ⟨?_, hadvanced.next, hadvanced.size, ?_, ?_, ?_⟩,
        hend.imp_left fun heq => by omega⟩
      · rw [hadvanced.base, UInt32.add_assoc]
        congr 1
        rw [← UInt32.ofNat_one, ← UInt32.ofNat_add, Nat.add_comm]
      · rw [hadvanced.length, hflags]
        simp
      · intro i
        rw [hadvanced.flags i]
        exact hshift (i + k)
      · intro i hi
        cases i with
        | zero =>
          unfold SlidingWindow.Flag
          rw [hflags]
          rfl
        | succ i => exact (hshift i).mp (hadvanced.marked i (by omega))
    · rename_i hflags
      refine ⟨0, Nat.zero_le _, .zero window, .inr fun hflag => ?_⟩
      unfold SlidingWindow.Flag at hflag
      -- without entries, or with the one at the base unmarked, the window stays
      cases hlist : window.ackReceived with
      | nil =>
        rw [hlist] at hflag
        cases hflag
      | cons first rest =>
        rw [hlist, List.getElem?_cons_zero] at hflag
        cases hflag
        exact hflags rest hlist

/-- Advancing drops the leading marks. -/
theorem xglWindowAdvanceBasePacketNumber_advanced {window : SlidingWindow}
    (hlen : window.ackReceived.length = window.windowSize.toNat) :
    ∃ k, k ≤ window.windowSize.toNat ∧
      Advanced k window (xglWindowAdvanceBasePacketNumber window) ∧
      ¬ (xglWindowAdvanceBasePacketNumber window).Flag 0 := by
  obtain ⟨k, hk, hadvanced, hend⟩ :=
    windowAdvanceBaseLoop_advanced window.windowSize.toNat window
  refine ⟨k, hk, hadvanced, hend.elim (fun heq hflag => ?_) id⟩
  have hbeyond := (hadvanced.flags 0).mp hflag
  unfold SlidingWindow.Flag at hbeyond
  rw [Nat.zero_add, heq, List.getElem?_eq_none (by omega)] at hbeyond
  cases hbeyond

/-! ### Sound windows -/

/-- The base does not pass the next number, the next number lies in the span of the
window, and there is a flag for every entry. -/
structure WindowShape (window : SlidingWindow) : Prop where
  base_le : window.sendBasePacketNumber.toNat ≤ window.nextPacketNumber.toNat
  next_le : window.nextPacketNumber.toNat ≤
    window.sendBasePacketNumber.toNat + window.windowSize.toNat
  length : window.ackReceived.length = window.windowSize.toNat

/-- Nothing that was not sent is marked. -/
structure WindowSound (window : SlidingWindow) : Prop extends WindowShape window where
  unmarked : ∀ i, window.nextPacketNumber.toNat - window.sendBasePacketNumber.toNat ≤ i →
    ¬ window.Flag i

/-- A number in the window that was not sent. -/
def Unsent (window : SlidingWindow) (n : UInt32) : Prop :=
  xglWindowIsInWindowPacketNumber window n = true ∧ window.nextPacketNumber ≤ n

/-- A marked window keeps its shape. -/
theorem MarkKept.shape {before after : SlidingWindow} (h : MarkKept before after)
    (hshape : WindowShape before) : WindowShape after where
  base_le := by
    rw [h.base, h.next]
    exact hshape.base_le
  next_le := by
    rw [h.base, h.next, h.size]
    exact hshape.next_le
  length := by
    rw [h.length, h.size]
    exact hshape.length

/-- Marking keeps a window sound exactly when every number in the window was sent. -/
theorem markAll_sound_iff {window : SlidingWindow} (hsound : WindowSound window)
    (numbers : List UInt32) :
    WindowSound (markAll window numbers) ↔ ∀ n ∈ numbers, ¬ Unsent window n := by
  have hkept := markAll_mark window numbers
  have hbase := hsound.base_le
  constructor
  · rintro hmarked n hn ⟨hin, hunsent⟩
    obtain ⟨hlow, _⟩ := xglWindowIsInWindowPacketNumber_iff.mp hin
    rw [UInt32.le_iff_toNat_le] at hunsent
    refine hmarked.unmarked (n.toNat - window.sendBasePacketNumber.toNat) ?_ ?_
    · rw [hkept.base, hkept.next]
      omega
    · rw [flag_markAll hsound.length]
      exact .inr ⟨n, hn, hin, by omega⟩
  · intro hsent
    refine ⟨hkept.shape hsound.toWindowShape, fun i hi hflag => ?_⟩
    rw [hkept.base, hkept.next] at hi
    rcases (flag_markAll hsound.length numbers i).mp hflag with hold | ⟨n, hn, hin, hat⟩
    · exact hsound.unmarked i hi hold
    · refine hsent n hn ⟨hin, ?_⟩
      rw [UInt32.le_iff_toNat_le]
      omega

/-- Advancing neither repairs nor breaks a window. -/
theorem xglWindowAdvanceBasePacketNumber_sound_iff {window : SlidingWindow}
    (hshape : WindowShape window) :
    WindowSound (xglWindowAdvanceBasePacketNumber window) ↔ WindowSound window := by
  obtain ⟨k, hk, hadvanced, _⟩ := xglWindowAdvanceBasePacketNumber_advanced hshape.length
  have hbase := hshape.base_le
  have hnext := hshape.next_le
  have hmax := window.nextPacketNumber.toNat_lt
  have hsize := window.windowSize.toNat_lt
  have hto : (xglWindowAdvanceBasePacketNumber window).sendBasePacketNumber.toNat
      = (window.sendBasePacketNumber.toNat + k) % 2 ^ 32 := by
    rw [hadvanced.base, UInt32.toNat_add, UInt32.toNat_ofNat']
    omega
  constructor
  · intro hafter
    have hbase' := hafter.base_le
    have hnext' := hafter.next_le
    rw [hadvanced.next] at hbase' hnext'
    rw [hadvanced.size] at hnext'
    -- the base has not passed the next number, not even around the end of the range
    have hkle : window.sendBasePacketNumber.toNat + k ≤ window.nextPacketNumber.toNat := by
      rw [hto] at hbase' hnext'
      omega
    refine ⟨hshape, fun i hi hflag => ?_⟩
    have hik : k ≤ i := by omega
    refine hafter.unmarked (i - k) ?_ ?_
    · rw [hadvanced.next, hto]
      omega
    · rw [hadvanced.flags, Nat.sub_add_cancel hik]
      exact hflag
  · intro hsound
    -- only entries that were sent are marked
    have hkle : window.sendBasePacketNumber.toNat + k ≤ window.nextPacketNumber.toNat := by
      rcases Nat.eq_zero_or_pos k with rfl | hpos
      · omega
      · have hlast := hadvanced.marked (k - 1) (by omega)
        have hsent : ¬ window.nextPacketNumber.toNat - window.sendBasePacketNumber.toNat ≤ k - 1 :=
          fun hle => hsound.unmarked _ hle hlast
        omega
    refine ⟨⟨?_, ?_, ?_⟩, fun i hi hflag => ?_⟩
    · rw [hadvanced.next, hto]
      omega
    · rw [hadvanced.next, hadvanced.size, hto]
      omega
    · rw [hadvanced.length, hadvanced.size]
      exact hshape.length
    · rw [hadvanced.next, hto] at hi
      exact hsound.unmarked (i + k) (by omega) ((hadvanced.flags i).mp hflag)

end XgenLink
