import Mathlib.Data.Nat.Bitwise
import XgenLink.Lib.Run
import XgenLink.Security.ReplayWindow

/-!
# `XgenLink.Proofs.ReplayExact`: what the replay window decides

An authenticated frame that arrives twice is a replay. Remembering every number that was accepted
would tell, but takes memory without bound. The replay window keeps one number, the largest that
was accepted, and 64 bits for the numbers below it; a number too far below is rejected unseen.

Its decisions are those of a receiver that does remember every number it has accepted, and rejects
the numbers that lie the size of the window or more below the largest. The size is at most 64 but
may be smaller, and the bits behind it are kept all the same, so they agree with the history also
where the window does not use them.

* `ReplayHistory`, `replayStep`: a window and the numbers it has accepted.
* `replayVerdict`: the decision by the history.
* `Encodes`: the bits are the accepted numbers up to 63 below the largest.
* `Encodes.first`, `.above`, `.below_largest`: a call, by where its number lies.
* `replay_window_exact`: every call of every sequence of calls.
-/

set_option autoImplicit false

namespace XgenLink

/-! ### Histories -/

/-- The arguments of `xgl_replay_window_check`. -/
structure ReplayCall where
  sourceId : UInt16
  connectionId : UInt32
  sessionEpoch : UInt32
  packetNumber : UInt32

/-- The call is made with the scope of the window. -/
def ReplayCall.own (call : ReplayCall) (window : ReplayWindow) : Bool :=
  window.scopeEq call.sourceId call.connectionId call.sessionEpoch

/-- A window and the numbers it has returned `ACCEPT_NEW` for, the last one first. -/
structure ReplayHistory where
  window : ReplayWindow
  accepted : List UInt32 := []

/-- What the check returns for a call. -/
def ReplayHistory.verdict (history : ReplayHistory) (call : ReplayCall) : ReplayResult :=
  (xglReplayWindowCheck history.window call.sourceId call.connectionId call.sessionEpoch
    call.packetNumber).1

/-- The history after a call. -/
def replayStep (history : ReplayHistory) (call : ReplayCall) : ReplayHistory where
  window := (xglReplayWindowCheck history.window call.sourceId call.connectionId
    call.sessionEpoch call.packetNumber).2
  accepted :=
    if history.verdict call = .acceptNew then call.packetNumber :: history.accepted
    else history.accepted

/-- The decision by the numbers accepted before: a number above all of them is new, one that
lies the size of the window or more below the largest is rejected, and any other is new once. -/
def replayVerdict (windowSize : Nat) (accepted : List UInt32) (packetNumber : UInt32) :
    ReplayResult :=
  match (accepted.map UInt32.toNat).max? with
  | none => .acceptNew
  | some largest =>
    if packetNumber.toNat > largest then .acceptNew
    else if largest - packetNumber.toNat ≥ windowSize then .reject
    else if packetNumber ∈ accepted then .acceptDuplicate
    else .acceptNew

/-! ### Bits -/

/-- The mask of a bit. -/
theorem toNat_bit {offset : UInt32} (hoffset : offset.toNat < 64) :
    ((1 : UInt64) <<< offset.toUInt64).toNat = 2 ^ offset.toNat := by
  rw [UInt64.toNat_shiftLeft, UInt32.toNat_toUInt64, Nat.mod_eq_of_lt hoffset,
    Nat.shiftLeft_eq, show (1 : UInt64).toNat = 1 from rfl, Nat.one_mul]
  exact Nat.mod_eq_of_lt (Nat.pow_lt_pow_right (by decide) hoffset)

/-- The test for one bit. -/
theorem and_bit_ne_zero (bitmap : UInt64) {offset : UInt32} (hoffset : offset.toNat < 64) :
    (bitmap &&& (1 <<< offset.toUInt64) != 0) = bitmap.toNat.testBit offset.toNat := by
  rw [Bool.eq_iff_iff, bne_iff_ne, ne_eq, ← UInt64.toNat_inj, UInt64.toNat_and, toNat_bit hoffset,
    Nat.and_two_pow]
  cases bitmap.toNat.testBit offset.toNat <;> simp

/-- Setting one bit. -/
theorem testBit_or_bit (bitmap : UInt64) {offset : UInt32} (hoffset : offset.toNat < 64)
    (i : Nat) :
    (bitmap ||| (1 <<< offset.toUInt64)).toNat.testBit i
      = (bitmap.toNat.testBit i || decide (i = offset.toNat)) := by
  rw [UInt64.toNat_or, Nat.testBit_or, toNat_bit hoffset, Nat.testBit_two_pow]
  simp only [eq_comm]

/-- Moving the bits up and setting the lowest. -/
theorem testBit_shift_or_one (bitmap : UInt64) {diff : UInt32} (hdiff : diff.toNat < 64)
    {i : Nat} (hi : i < 64) :
    ((bitmap <<< diff.toUInt64) ||| 1).toNat.testBit i
      = (decide (i = 0) || (decide (diff.toNat ≤ i) && bitmap.toNat.testBit (i - diff.toNat))) := by
  rw [UInt64.toNat_or, Nat.testBit_or, UInt64.toNat_shiftLeft, UInt32.toNat_toUInt64,
    Nat.mod_eq_of_lt hdiff, Nat.testBit_mod_two_pow, Nat.testBit_shiftLeft,
    show (1 : UInt64).toNat = 2 ^ 0 from rfl, Nat.testBit_two_pow]
  simp only [hi, decide_true, Bool.true_and, ge_iff_le, Bool.or_comm, eq_comm]

/-- Only the lowest bit. -/
theorem testBit_one (i : Nat) : (1 : UInt64).toNat.testBit i = decide (i = 0) := by
  rw [show (1 : UInt64).toNat = 2 ^ 0 from rfl, Nat.testBit_two_pow]
  simp only [eq_comm]

/-! ### The invariant -/

/-- The window knows the largest accepted number, and bit `i` says whether the number `i`
below it was accepted. -/
structure Encodes (history : ReplayHistory) : Prop where
  started : history.window.hasLargest = true ↔ history.accepted ≠ []
  largest : history.accepted ≠ [] → history.window.largestPacketNumber ∈ history.accepted
  below : ∀ n ∈ history.accepted, n.toNat ≤ history.window.largestPacketNumber.toNat
  bits : ∀ i < 64, history.window.receivedBitmap.toNat.testBit i = true ↔
    ∃ n ∈ history.accepted, n.toNat + i = history.window.largestPacketNumber.toNat

section Step

variable {history : ReplayHistory} {call : ReplayCall}

/-- The largest accepted number. -/
theorem Encodes.max (h : Encodes history) (hsome : history.accepted ≠ []) :
    (history.accepted.map UInt32.toNat).max?
      = some history.window.largestPacketNumber.toNat := by
  rw [List.max?_eq_some_iff]
  refine ⟨List.mem_map_of_mem (h.largest hsome), fun n hn => ?_⟩
  obtain ⟨m, hm, rfl⟩ := List.mem_map.mp hn
  exact h.below m hm

/-- A call with another scope is rejected and changes nothing. -/
theorem replayStep_other (hother : call.own history.window = false) :
    history.verdict call = .reject ∧ replayStep history call = history := by
  have hcheck : xglReplayWindowCheck history.window call.sourceId call.connectionId
      call.sessionEpoch call.packetNumber = (.reject, history.window) := by
    rw [xglReplayWindowCheck, if_pos (by simpa [ReplayCall.own] using hother)]
  have hverdict : history.verdict call = .reject := by rw [ReplayHistory.verdict, hcheck]
  refine ⟨hverdict, ?_⟩
  rw [replayStep, hcheck, hverdict]
  rfl

/-- The first number. -/
theorem Encodes.first (h : Encodes history) (hown : call.own history.window = true)
    (hnone : history.accepted = []) :
    history.verdict call = .acceptNew ∧ Encodes (replayStep history call) := by
  have hstart : history.window.hasLargest = false := by
    rw [Bool.eq_false_iff]
    exact fun htrue => h.started.mp htrue hnone
  have hcheck : xglReplayWindowCheck history.window call.sourceId call.connectionId
      call.sessionEpoch call.packetNumber = (.acceptNew, { history.window with
        largestPacketNumber := call.packetNumber
        receivedBitmap := 1
        hasLargest := true }) := by
    rw [xglReplayWindowCheck, if_neg (by simpa [ReplayCall.own] using hown),
      if_pos (by simp [hstart])]
  have hverdict : history.verdict call = .acceptNew := by rw [ReplayHistory.verdict, hcheck]
  refine ⟨hverdict, ?_⟩
  rw [replayStep, hcheck, hverdict, hnone]
  refine ⟨by simp, by simp, by simp, fun i hi => ?_⟩
  rw [testBit_one]
  simp

/-- A number above the largest. -/
theorem Encodes.above (h : Encodes history) (hown : call.own history.window = true)
    (hsome : history.accepted ≠ [])
    (habove : call.packetNumber > history.window.largestPacketNumber) :
    history.verdict call = .acceptNew ∧ Encodes (replayStep history call) := by
  have hlt : history.window.largestPacketNumber.toNat < call.packetNumber.toNat :=
    UInt32.lt_iff_toNat_lt.mp habove
  generalize hdiff : call.packetNumber - history.window.largestPacketNumber = diff
  have hdiffNat : diff.toNat
      = call.packetNumber.toNat - history.window.largestPacketNumber.toNat := by
    rw [← hdiff]
    exact UInt32.toNat_sub_of_le _ _ (UInt32.le_of_lt habove)
  have hcheck : xglReplayWindowCheck history.window call.sourceId call.connectionId
      call.sessionEpoch call.packetNumber = (.acceptNew, { history.window with
        receivedBitmap :=
          if diff ≥ 64 then 1 else (history.window.receivedBitmap <<< diff.toUInt64) ||| 1
        largestPacketNumber := call.packetNumber }) := by
    rw [xglReplayWindowCheck, if_neg (by simpa [ReplayCall.own] using hown),
      if_neg (by simp [h.started.mpr hsome]), if_pos habove]
    simp only [hdiff]
  have hverdict : history.verdict call = .acceptNew := by rw [ReplayHistory.verdict, hcheck]
  refine ⟨hverdict, ?_⟩
  rw [replayStep, hcheck, hverdict, if_pos rfl]
  refine ⟨by simp [h.started.mpr hsome], by simp, fun n hn => ?_, fun i hi => ?_⟩
  · rcases List.mem_cons.mp hn with rfl | hn
    · exact le_refl _
    · exact (h.below n hn).trans hlt.le
  · -- bit `i` was bit `i - diff`, when it was a bit at all
    have hold : (∃ n ∈ history.accepted, n.toNat + i = call.packetNumber.toNat) ↔
        diff.toNat ≤ i ∧ i - diff.toNat < 64 ∧
          history.window.receivedBitmap.toNat.testBit (i - diff.toNat) = true := by
      constructor
      · rintro ⟨n, hn, hsum⟩
        have hle := h.below n hn
        have hfits : i - diff.toNat < 64 := by omega
        exact ⟨by omega, hfits, (h.bits _ hfits).mpr ⟨n, hn, by omega⟩⟩
      · rintro ⟨hle, hfits, hbit⟩
        obtain ⟨n, hn, hsum⟩ := (h.bits _ hfits).mp hbit
        exact ⟨n, hn, by omega⟩
    have hnew : (∃ n ∈ call.packetNumber :: history.accepted,
        n.toNat + i = call.packetNumber.toNat) ↔
        i = 0 ∨ ∃ n ∈ history.accepted, n.toNat + i = call.packetNumber.toNat := by
      simp only [List.mem_cons, exists_eq_or_imp]
      rw [Nat.add_eq_left]
    show (if diff ≥ 64 then (1 : UInt64) else _).toNat.testBit i = true ↔ _
    rw [hnew, hold]
    -- the window moves past all its bits, or by some of them
    by_cases hfar : diff ≥ 64
    · have hfarNat : 64 ≤ diff.toNat := UInt32.le_iff_toNat_le.mp hfar
      rw [if_pos hfar, testBit_one, decide_eq_true_eq]
      constructor
      · exact Or.inl
      · rintro (hzero | ⟨hle, _⟩)
        · exact hzero
        · omega
    · have hnear : diff.toNat < 64 := by
        rw [ge_iff_le, UInt32.not_le] at hfar
        exact UInt32.lt_iff_toNat_lt.mp hfar
      rw [if_neg hfar, testBit_shift_or_one _ hnear hi, Bool.or_eq_true, Bool.and_eq_true,
        decide_eq_true_eq, decide_eq_true_eq]
      constructor
      · rintro (hzero | ⟨hle, hbit⟩)
        · exact .inl hzero
        · exact .inr ⟨hle, by omega, hbit⟩
      · rintro (hzero | ⟨hle, _, hbit⟩)
        · exact .inl hzero
        · exact .inr ⟨hle, hbit⟩

/-- A number up to the largest. -/
theorem Encodes.below_largest (h : Encodes history) (hown : call.own history.window = true)
    (hsome : history.accepted ≠ []) (hsize : history.window.windowSize.toNat ≤ 64)
    (hbelow : ¬ call.packetNumber > history.window.largestPacketNumber) :
    history.verdict call = replayVerdict history.window.windowSize.toNat history.accepted
        call.packetNumber ∧
      Encodes (replayStep history call) ∧
      (history.verdict call = .reject → replayStep history call = history) := by
  have hle : call.packetNumber.toNat ≤ history.window.largestPacketNumber.toNat := by
    rw [gt_iff_lt, UInt32.not_lt] at hbelow
    exact UInt32.le_iff_toNat_le.mp hbelow
  generalize hoffset : history.window.largestPacketNumber - call.packetNumber = offset
  have hoffsetNat : offset.toNat
      = history.window.largestPacketNumber.toNat - call.packetNumber.toNat := by
    rw [← hoffset]
    exact UInt32.toNat_sub_of_le _ _ (UInt32.le_iff_toNat_le.mpr hle)
  have hspec : replayVerdict history.window.windowSize.toNat history.accepted call.packetNumber
      = if history.window.windowSize.toNat ≤ offset.toNat then .reject
        else if call.packetNumber ∈ history.accepted then .acceptDuplicate else .acceptNew := by
    rw [replayVerdict, h.max hsome]
    dsimp only
    rw [if_neg (by omega), hoffsetNat]
  have hcheck : xglReplayWindowCheck history.window call.sourceId call.connectionId
      call.sessionEpoch call.packetNumber
      = if offset ≥ history.window.windowSize.toUInt32 || offset ≥ 64 then
          (.reject, history.window)
        else if history.window.receivedBitmap &&& (1 <<< offset.toUInt64) != 0 then
          (.acceptDuplicate, history.window)
        else (.acceptNew, { history.window with
          receivedBitmap := history.window.receivedBitmap ||| (1 <<< offset.toUInt64) }) := by
    rw [xglReplayWindowCheck, if_neg (by simpa [ReplayCall.own] using hown),
      if_neg (by simp [h.started.mpr hsome]), if_neg hbelow]
    simp only [hoffset]
  -- only the size of the window counts, the bitmap has room for it
  have hfar : (offset ≥ history.window.windowSize.toUInt32 || offset ≥ 64)
      = decide (history.window.windowSize.toNat ≤ offset.toNat) := by
    have h64 : (64 : UInt32).toNat = 64 := rfl
    rw [Bool.eq_iff_iff, Bool.or_eq_true, decide_eq_true_eq, decide_eq_true_eq, decide_eq_true_eq,
      ge_iff_le, ge_iff_le, UInt32.le_iff_toNat_le, UInt32.le_iff_toNat_le, UInt8.toNat_toUInt32,
      h64]
    omega
  rw [hfar] at hcheck
  rw [hspec]
  -- too far below the largest
  by_cases hreject : history.window.windowSize.toNat ≤ offset.toNat
  · rw [if_pos (by simpa using hreject)] at hcheck
    have hverdict : history.verdict call = .reject := by rw [ReplayHistory.verdict, hcheck]
    have hsame : replayStep history call = history := by
      rw [replayStep, hcheck, hverdict]
      rfl
    rw [if_pos hreject, hsame]
    exact ⟨hverdict, h, fun _ => rfl⟩
  rw [if_neg (by simpa using hreject)] at hcheck
  have hroom : offset.toNat < 64 := by omega
  have hmem : (∃ n ∈ history.accepted,
      n.toNat + offset.toNat = history.window.largestPacketNumber.toNat) ↔
      call.packetNumber ∈ history.accepted := by
    constructor
    · rintro ⟨n, hn, hsum⟩
      have heq : n = call.packetNumber := UInt32.toNat_inj.mp (by omega)
      exact heq ▸ hn
    · exact fun hn => ⟨_, hn, by omega⟩
  have hbit := h.bits offset.toNat hroom
  rw [and_bit_ne_zero _ hroom] at hcheck
  -- accepted before, so its bit is set
  by_cases hdup : call.packetNumber ∈ history.accepted
  · rw [if_pos (hbit.mpr (hmem.mpr hdup))] at hcheck
    have hverdict : history.verdict call = .acceptDuplicate := by
      rw [ReplayHistory.verdict, hcheck]
    have hsame : replayStep history call = history := by
      rw [replayStep, hcheck, hverdict]
      rfl
    rw [if_neg hreject, if_pos hdup, hsame]
    exact ⟨hverdict, h, fun _ => rfl⟩
  · rw [if_neg (fun hset => hdup (hmem.mp (hbit.mp hset)))] at hcheck
    have hverdict : history.verdict call = .acceptNew := by rw [ReplayHistory.verdict, hcheck]
    rw [if_neg hreject, if_neg hdup]
    refine ⟨hverdict, ?_, fun hno => by rw [hverdict] at hno; cases hno⟩
    rw [replayStep, hcheck, hverdict, if_pos rfl]
    clear hbit hmem
    refine ⟨by simp [h.started.mpr hsome], fun _ => List.mem_cons_of_mem _ (h.largest hsome),
      fun n hn => ?_, fun i hi => ?_⟩
    · rcases List.mem_cons.mp hn with rfl | hn
      · exact hle
      · exact h.below n hn
    · show (history.window.receivedBitmap ||| (1 <<< offset.toUInt64)).toNat.testBit i = true ↔ _
      rw [testBit_or_bit _ hroom, Bool.or_eq_true, decide_eq_true_eq, h.bits i hi]
      simp only [List.mem_cons, exists_eq_or_imp]
      constructor
      · rintro (hold | rfl)
        · exact .inr hold
        · exact .inl (by omega)
      · rintro (hnew | hold)
        · exact .inr (by omega)
        · exact .inl hold

/-- One call. -/
theorem Encodes.step (h : Encodes history) (hsize : history.window.windowSize.toNat ≤ 64)
    (call : ReplayCall) :
    Encodes (replayStep history call) ∧
      (call.own history.window = true → history.verdict call
        = replayVerdict history.window.windowSize.toNat history.accepted call.packetNumber) ∧
      (history.verdict call = .reject → replayStep history call = history) := by
  cases hown : call.own history.window with
  | false =>
    obtain ⟨hverdict, hsame⟩ := replayStep_other hown
    rw [hsame]
    exact ⟨h, fun hno => (by cases hno), fun _ => rfl⟩
  | true =>
    by_cases hnone : history.accepted = []
    · obtain ⟨hverdict, hnext⟩ := h.first hown hnone
      refine ⟨hnext, fun _ => ?_, fun hno => ?_⟩
      · rw [hverdict, hnone]
        rfl
      · rw [hverdict] at hno
        cases hno
    by_cases habove : call.packetNumber > history.window.largestPacketNumber
    · obtain ⟨hverdict, hnext⟩ := h.above hown hnone habove
      refine ⟨hnext, fun _ => ?_, fun hno => ?_⟩
      · rw [hverdict, replayVerdict, h.max hnone]
        exact (if_pos (UInt32.lt_iff_toNat_lt.mp habove)).symm
      · rw [hverdict] at hno
        cases hno
    · obtain ⟨hverdict, hnext, hsame⟩ := h.below_largest hown hnone hsize habove
      exact ⟨hnext, fun _ => hverdict, hsame⟩

/-- The scope and the size of the window stay. -/
theorem replayStep_settings (history : ReplayHistory) (call : ReplayCall) :
    (replayStep history call).window.windowSize = history.window.windowSize ∧
      ∀ other : ReplayCall, other.own (replayStep history call).window
        = other.own history.window := by
  simp only [replayStep, xglReplayWindowCheck]
  split
  · exact ⟨rfl, fun _ => rfl⟩
  split
  · exact ⟨rfl, fun _ => rfl⟩
  split
  · exact ⟨rfl, fun _ => rfl⟩
  split
  · exact ⟨rfl, fun _ => rfl⟩
  split
  · exact ⟨rfl, fun _ => rfl⟩
  · exact ⟨rfl, fun _ => rfl⟩

/-- A number that was accepted before is not new. -/
theorem Encodes.not_new (h : Encodes history) (hsize : history.window.windowSize.toNat ≤ 64)
    (hmem : call.packetNumber ∈ history.accepted) : history.verdict call ≠ .acceptNew := by
  cases hown : call.own history.window with
  | false =>
    rw [(replayStep_other hown).1]
    decide
  | true =>
    have hsome : history.accepted ≠ [] := List.ne_nil_of_mem hmem
    have hle := h.below _ hmem
    rw [(h.step hsize call).2.1 hown, replayVerdict, h.max hsome]
    dsimp only
    rw [if_neg (by omega), if_pos hmem]
    split <;> decide

end Step

/-! ### Runs -/

/-- The replay window decides exactly as the history does. After any calls, with its own scope
or another: a call with its own scope gets the verdict of the numbers accepted so far, one with
another scope is rejected, a rejected call changes nothing, no number is accepted twice, and
the bitmap is the accepted numbers up to 63 below the largest. -/
theorem replay_window_exact (sourceId : UInt16) (connectionId sessionEpoch : UInt32)
    (windowSize : UInt8) (window : ReplayWindow)
    (hinit : xglReplayWindowInit sourceId connectionId sessionEpoch windowSize = .ok window)
    (calls : List ReplayCall) :
    let history := calls.foldl replayStep { window := window }
    Encodes history ∧ history.accepted.Nodup ∧
      ∀ call : ReplayCall,
        (call.own window = true → history.verdict call
          = replayVerdict windowSize.toNat history.accepted call.packetNumber) ∧
        (call.own window = false → history.verdict call = .reject) ∧
        (history.verdict call = .reject → replayStep history call = history) ∧
        (call.packetNumber ∈ history.accepted → history.verdict call ≠ .acceptNew) := by
  have hwindow : windowSize.toNat ≤ 64 ∧ window.windowSize = windowSize ∧
      Encodes { window := window } := by
    rw [xglReplayWindowInit] at hinit
    split at hinit
    · cases hinit
    rename_i hvalid
    cases hinit
    simp only [Bool.or_eq_true, not_or, decide_eq_true_eq, gt_iff_lt, UInt8.not_lt] at hvalid
    refine ⟨UInt8.le_iff_toNat_le.mp hvalid.2, rfl, ⟨by simp, fun hno => absurd rfl hno,
      fun n hn => absurd hn List.not_mem_nil, fun i hi => ?_⟩⟩
    simp
  -- the invariant of the run: the bits, the settings of the window, and no number twice
  have hrun := @foldl_invariant _ _ replayStep (fun history => Encodes history ∧
      history.accepted.Nodup ∧ history.window.windowSize = windowSize ∧
      ∀ call : ReplayCall, call.own history.window = call.own window)
    ?_ calls { window := window } ⟨hwindow.2.2, List.nodup_nil, hwindow.2.1, fun _ => rfl⟩
  · obtain ⟨hencodes, hnodup, hsize, hscope⟩ := hrun
    have hfits : (calls.foldl replayStep { window := window }).window.windowSize.toNat ≤ 64 := by
      rw [hsize]
      exact hwindow.1
    refine ⟨hencodes, hnodup, fun call => ?_⟩
    obtain ⟨_, hverdict, hsame⟩ := hencodes.step hfits call
    rw [hsize, hscope] at hverdict
    refine ⟨hverdict, fun hother => ?_, hsame, hencodes.not_new hfits⟩
    exact (replayStep_other ((hscope call).trans hother)).1
  · rintro history call ⟨hencodes, hnodup, hsize, hscope⟩
    have hfits : history.window.windowSize.toNat ≤ 64 := by
      rw [hsize]
      exact hwindow.1
    obtain ⟨hwindowSize, hown⟩ := replayStep_settings history call
    refine ⟨(hencodes.step hfits call).1, ?_, hwindowSize.trans hsize,
      fun other => (hown other).trans (hscope other)⟩
    simp only [replayStep]
    split
    · rename_i hnew
      exact List.nodup_cons.mpr ⟨fun hmem => hencodes.not_new hfits hmem hnew, hnodup⟩
    · exact hnodup

/-- A call of the scope 1, 2, 3. -/
def sampleCall (packetNumber : UInt32) : ReplayCall where
  sourceId := 1
  connectionId := 2
  sessionEpoch := 3
  packetNumber := packetNumber

/-- With a window of eight: 5 and 70 are new, 5 is then too old, 65 is new and once more a
duplicate. -/
theorem replay_window_exact_sample :
    let window : ReplayWindow :=
      { sourceId := 1, connectionId := 2, sessionEpoch := 3, windowSize := 8 }
    let history := [sampleCall 5, sampleCall 70, sampleCall 5, sampleCall 65].foldl replayStep
      { window := window }
    xglReplayWindowInit 1 2 3 8 = .ok window ∧ history.accepted = [65, 70, 5] ∧
      history.verdict (sampleCall 65) = .acceptDuplicate ∧ history.accepted.Nodup := by
  refine ⟨rfl, by decide, by decide, ?_⟩
  exact (replay_window_exact 1 2 3 8 _ rfl [sampleCall 5, sampleCall 70, sampleCall 5,
    sampleCall 65]).2.1

end XgenLink
