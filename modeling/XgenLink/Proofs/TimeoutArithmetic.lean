import Mathlib.Data.List.Induction
import XgenLink.Transport.Rtt
import XgenLink.Transport.Send

/-!
# `XgenLink.Proofs.TimeoutArithmetic`: where the timeout arithmetic leaves 32 bits

Timeouts are computed in signed integers of 32 bits. The models compute with checks: an operation
whose exact result has no place in 32 bits has no result, since signed overflow is undefined. This
module says for which inputs every check passes.

The estimator keeps two moving averages. In exact integers both stay between zero and the largest
measurement, so every step of an update fits into 32 bits but the last: the variation is
multiplied by four and added to the smoothed time before the sum is clamped.

The backoff doubles a timeout before it caps it. Below the cap a double fits, so only the first
doubling can overflow, and it does for initial timeouts from 2 to the 30 on. A timeout is a cast
of an unsigned request, which may also be negative.

* `RttAverages`, `RttAverages.Within.feed`: the averages in exact integers, and their bounds.
* `rttSmooth_spec`, `xglRttUpdate_spec`: one update computes the averages, or overflows in the sum.
* `rtt_sound_iff`: the sequences of measurements the estimator is sound on.
* `backoffSound_iff`, `backoff_sound_iff`: the requested timeouts the backoff is sound on.
-/

set_option autoImplicit false

namespace XgenLink

/-! ### The averages in exact integers -/

/-- The two averages of the measurements so far, in exact integers. -/
structure RttAverages where
  srtt : Int := 0
  rttvar : Int := 0
  started : Bool := false

/-- One more measurement, where a negative one counts as zero. -/
def RttAverages.feed (averages : RttAverages) (measuredRtt : Int32) : RttAverages :=
  let measured := max measuredRtt.toInt 0
  if averages.started then
    let error := measured - averages.srtt
    { srtt := averages.srtt + error / 8
      rttvar := averages.rttvar + (|error| - averages.rttvar) / 4
      started := true }
  else { srtt := measured, rttvar := measured / 2, started := true }

/-- The averages of a sequence of measurements. -/
def rttAverages (measurements : List Int32) : RttAverages :=
  measurements.foldl RttAverages.feed {}

/-- The largest measurement of a sequence, where a negative one counts as zero. -/
def largestRtt (measurements : List Int32) : Int :=
  measurements.foldl (fun largest measured => max largest (max measured.toInt 0)) 0

/-- The retransmission timeout of averages, before it is clamped. -/
def RttAverages.sum (averages : RttAverages) : Int := averages.srtt + 4 * averages.rttvar

/-- The averages lie between zero and a bound. -/
structure RttAverages.Within (averages : RttAverages) (bound : Int) : Prop where
  srtt_nonneg : 0 ≤ averages.srtt
  srtt_le : averages.srtt ≤ bound
  rttvar_nonneg : 0 ≤ averages.rttvar
  rttvar_le : averages.rttvar ≤ bound

/-- A measurement within the bound keeps the averages within it. -/
theorem RttAverages.Within.feed {averages : RttAverages} {bound : Int}
    (h : averages.Within bound) {measuredRtt : Int32} (hmeasured : measuredRtt.toInt ≤ bound) :
    (averages.feed measuredRtt).Within bound := by
  obtain ⟨hs, hsle, hv, hvle⟩ := h
  have hlow : 0 ≤ max measuredRtt.toInt 0 := Int.le_max_right _ _
  have hhigh : max measuredRtt.toInt 0 ≤ bound := Int.max_le.2 ⟨hmeasured, by omega⟩
  rw [RttAverages.feed]
  generalize max measuredRtt.toInt 0 = measured at *
  split
  · -- the error is at most the bound on either side
    have habs : 0 ≤ |measured - averages.srtt| ∧ |measured - averages.srtt| ≤ bound :=
      ⟨abs_nonneg _, abs_le.2 ⟨by omega, by omega⟩⟩
    show RttAverages.Within
      { srtt := averages.srtt + (measured - averages.srtt) / 8
        rttvar := averages.rttvar + (|measured - averages.srtt| - averages.rttvar) / 4
        started := true } bound
    generalize |measured - averages.srtt| = error at *
    constructor <;> dsimp only <;> omega
  · constructor <;> dsimp only <;> omega

/-! ### One update -/

/-- The estimator holds the averages. -/
structure TracksExact (est : RttEstimator) (averages : RttAverages) : Prop where
  srtt : est.srtt.toInt = averages.srtt
  rttvar : est.rttvar.toInt = averages.rttvar
  started : est.initialized = averages.started

/-- The absolute value of a number other than the least one. -/
theorem absInt32_eq {value : Int32} (h : -2 ^ 31 < value.toInt) :
    ∃ result, absInt32 value = some result ∧ result.toInt = |value.toInt| := by
  have hhigh := value.toInt_lt
  have hsign : value < 0 ↔ value.toInt < 0 := Int32.lt_iff_toInt_lt
  rw [absInt32]
  split <;> rename_i hneg
  · have hneg' := hsign.1 hneg
    obtain ⟨result, hresult, hexact⟩ :=
      @int32Checked_of_range (-value.toInt) (by omega) (by omega)
    exact ⟨result, hresult, by rw [hexact, abs_of_neg hneg']⟩
  · have hnonneg : 0 ≤ value.toInt := by
      have := mt hsign.2 hneg
      omega
    exact ⟨value, rfl, (abs_of_nonneg hnonneg).symm⟩

/-- A clamped number, in exact integers. -/
theorem toInt_clampInt32 {value low high : Int32} (h : low.toInt ≤ high.toInt) :
    (clampInt32 value low high).toInt = min high.toInt (max low.toInt value.toInt) := by
  rw [clampInt32]
  split <;> rename_i hlow
  · have := Int32.lt_iff_toInt_lt.1 hlow
    omega
  · have hlow' := mt Int32.lt_iff_toInt_lt.2 hlow
    split <;> rename_i hhigh
    · have hhigh' : high.toInt < value.toInt := Int32.lt_iff_toInt_lt.1 hhigh
      omega
    · have hhigh' : ¬ high.toInt < value.toInt := mt Int32.lt_iff_toInt_lt.2 hhigh
      omega

/-- The smoothing of two averages within 31 bits does not overflow. -/
theorem rttSmooth_spec {est : RttEstimator} {averages : RttAverages}
    (htracks : TracksExact est averages)
    (hwithin : averages.Within (2 ^ 31 - 1)) {measured : Int32} (hmeasured : 0 ≤ measured.toInt) :
    ∃ srtt rttvar, rttSmooth est measured = some (srtt, rttvar) ∧
      srtt.toInt = averages.srtt + (measured.toInt - averages.srtt) / 8 ∧
      rttvar.toInt
        = averages.rttvar + (|measured.toInt - averages.srtt| - averages.rttvar) / 4 := by
  obtain ⟨hs, hsle, hv, hvle⟩ := hwithin
  have hmle := measured.toInt_lt
  -- each intermediate value in turn, with its exact value and its range
  obtain ⟨error, herror, heq⟩ :=
    @int32Checked_of_range (measured.toInt - est.srtt.toInt)
      (by rw [htracks.srtt]; omega) (by rw [htracks.srtt]; omega)
  have hshift : (int32ShiftRight error XGL_RTT_ALPHA_SHIFT).toInt
      = (measured.toInt - averages.srtt) / 8 := by
    rw [toInt_int32ShiftRight, heq, htracks.srtt]
    rfl
  obtain ⟨srtt, hsrtt, hseq⟩ :=
    @int32Checked_of_range (est.srtt.toInt + (int32ShiftRight error XGL_RTT_ALPHA_SHIFT).toInt)
      (by rw [hshift, htracks.srtt]; omega) (by rw [hshift, htracks.srtt]; omega)
  have hrange : -2 ^ 31 < error.toInt := by
    rw [heq, htracks.srtt]
    omega
  obtain ⟨absError, habs, habseq⟩ := absInt32_eq hrange
  have habsval : absError.toInt = |measured.toInt - averages.srtt| := by
    rw [habseq, heq, htracks.srtt]
  have habsle : |measured.toInt - averages.srtt| ≤ 2 ^ 31 - 1 := abs_le.2 ⟨by omega, by omega⟩
  have habsnn : 0 ≤ |measured.toInt - averages.srtt| := abs_nonneg _
  obtain ⟨delta, hdelta, hdeltaeq⟩ :=
    @int32Checked_of_range (absError.toInt - est.rttvar.toInt)
      (by rw [habsval, htracks.rttvar]; omega) (by rw [habsval, htracks.rttvar]; omega)
  have hshift' : (int32ShiftRight delta XGL_RTT_BETA_SHIFT).toInt
      = (|measured.toInt - averages.srtt| - averages.rttvar) / 4 := by
    rw [toInt_int32ShiftRight, hdeltaeq, habsval, htracks.rttvar]
    rfl
  obtain ⟨rttvar, hrttvar, hveq⟩ :=
    @int32Checked_of_range
      (est.rttvar.toInt + (int32ShiftRight delta XGL_RTT_BETA_SHIFT).toInt)
      (by rw [hshift', htracks.rttvar]; omega) (by rw [hshift', htracks.rttvar]; omega)
  refine ⟨srtt, rttvar, ?_, ?_, ?_⟩
  · simp [rttSmooth, herror, hsrtt, habs, hdelta, hrttvar]
  · rw [hseq, hshift, htracks.srtt]
  · rw [hveq, hshift', htracks.rttvar]

/-- One update holds the averages of one more measurement and their clamped sum,
or overflows in the sum. -/
theorem xglRttUpdate_spec {est : RttEstimator} {averages : RttAverages}
    (htracks : TracksExact est averages) (hwithin : averages.Within (2 ^ 31 - 1))
    (measuredRtt : Int32) :
    ((averages.feed measuredRtt).sum < 2 ^ 31 →
      ∃ after, xglRttUpdate est measuredRtt = some after ∧
        TracksExact after (averages.feed measuredRtt) ∧
        after.rto.toInt = min 5000 (max 100 (averages.feed measuredRtt).sum)) ∧
    (¬ (averages.feed measuredRtt).sum < 2 ^ 31 → xglRttUpdate est measuredRtt = none) := by
  have hbound := measuredRtt.toInt_lt
  have hafter : (averages.feed measuredRtt).Within (2 ^ 31 - 1) := hwithin.feed (by omega)
  -- the clamped measurement
  generalize hmeasured : (if measuredRtt < 0 then 0 else measuredRtt) = measured
  have hexact : measured.toInt = max measuredRtt.toInt 0 := by
    have hsign : measuredRtt < 0 ↔ measuredRtt.toInt < 0 := Int32.lt_iff_toInt_lt
    rw [← hmeasured]
    split <;> rename_i hneg
    · have := hsign.1 hneg
      show (0 : Int) = _
      omega
    · have := mt hsign.2 hneg
      omega
  have hnonneg : 0 ≤ measured.toInt := hexact ▸ Int.le_max_right _ _
  -- the two averages
  obtain ⟨srtt, rttvar, hpair, hsrtt, hrttvar⟩ : ∃ srtt rttvar,
      rttAverage est measured = some (srtt, rttvar) ∧
      srtt.toInt = (averages.feed measuredRtt).srtt ∧
      rttvar.toInt = (averages.feed measuredRtt).rttvar := by
    rw [rttAverage, htracks.started, RttAverages.feed, ← hexact]
    -- the first measurement sets both averages
    cases averages.started with
    | false =>
      refine ⟨measured, int32ShiftRight measured 1, rfl, rfl, ?_⟩
      rw [toInt_int32ShiftRight]
      rfl
    | true => exact rttSmooth_spec htracks hwithin hnonneg
  obtain ⟨hs, hsle, hv, hvle⟩ := hafter
  have hupdate : xglRttUpdate est measuredRtt = (do
      let product ← int32Checked (4 * (averages.feed measuredRtt).rttvar)
      let rto ← int32Checked ((averages.feed measuredRtt).srtt + product.toInt)
      some { srtt := srtt
             rttvar := rttvar
             rto := clampInt32 rto XGL_MIN_RTO_MS XGL_MAX_RTO_MS
             initialized := true }) := by
    rw [← hsrtt, ← hrttvar]
    simp only [xglRttUpdate, hmeasured, hpair]
    rfl
  rw [hupdate]
  have hstarted : (averages.feed measuredRtt).started = true := by
    rw [RttAverages.feed]
    split <;> rfl
  constructor
  · intro hfits
    rw [RttAverages.sum] at hfits
    obtain ⟨product, hproduct, hpeq⟩ :=
      @int32Checked_of_range (4 * (averages.feed measuredRtt).rttvar) (by omega) (by omega)
    obtain ⟨rto, hrto, hreq⟩ :=
      @int32Checked_of_range ((averages.feed measuredRtt).srtt + product.toInt)
        (by omega) (by omega)
    rw [hproduct]
    simp only [Option.bind_eq_bind, Option.bind_some, hrto]
    refine ⟨_, rfl, ⟨hsrtt, hrttvar, hstarted.symm⟩, ?_⟩
    have hclamp : (100 : Int32).toInt ≤ (5000 : Int32).toInt := by decide
    show (clampInt32 rto 100 5000).toInt = _
    rw [toInt_clampInt32 hclamp, hreq, hpeq]
    rfl
  · intro hover
    rw [RttAverages.sum] at hover
    -- the variation times four has a place in 32 bits, or the update overflows
    cases hproduct : int32Checked (4 * (averages.feed measuredRtt).rttvar) with
    | none => rfl
    | some product =>
      have hpeq := int32Checked_eq_some.1 hproduct
      have hnone : int32Checked ((averages.feed measuredRtt).srtt + product.toInt) = none := by
        rw [int32Checked_eq_none]
        omega
      simp only [Option.bind_eq_bind, Option.bind_some, hnone]
      rfl

/-! ### Sequences of measurements -/

/-- After a sequence of measurements no step has overflowed, both averages are
nonnegative, the smoothed one is at most the largest measurement, and the
timeout is the clamped exact sum. -/
def RttSound (measurements : List Int32) : Prop :=
  ∃ est, measurements.foldlM xglRttUpdate {} = some est ∧
    0 ≤ est.srtt.toInt ∧ 0 ≤ est.rttvar.toInt ∧ est.srtt.toInt ≤ largestRtt measurements ∧
    (measurements ≠ [] → est.rto.toInt
      = min XGL_MAX_RTO_MS.toInt (max XGL_MIN_RTO_MS.toInt
          (est.srtt.toInt + XGL_RTO_K_FACTOR * est.rttvar.toInt)))

/-- Every front part of the sequence has averages whose sum fits into 31 bits. -/
def RttSumsFit (measurements : List Int32) : Prop :=
  ∀ front, front <+: measurements → (rttAverages front).sum < 2 ^ 31

/-- The averages with one more measurement. -/
theorem rttAverages_concat (measurements : List Int32) (measured : Int32) :
    rttAverages (measurements ++ [measured]) = (rttAverages measurements).feed measured := by
  simp [rttAverages, List.foldl_append]

/-- The largest measurement with one more. -/
theorem largestRtt_concat (measurements : List Int32) (measured : Int32) :
    largestRtt (measurements ++ [measured])
      = max (largestRtt measurements) (max measured.toInt 0) := by
  simp [largestRtt, List.foldl_append]

/-- The averages of a sequence lie between zero and its largest measurement. -/
theorem rttAverages_within (measurements : List Int32) :
    (rttAverages measurements).Within (largestRtt measurements) ∧
      largestRtt measurements ≤ 2 ^ 31 - 1 := by
  induction measurements using List.reverseRecOn with
  | nil => exact ⟨⟨le_refl _, le_refl _, le_refl _, le_refl _⟩, by decide⟩
  | append_singleton measurements measured ih =>
    obtain ⟨⟨hs, hsle, hv, hvle⟩, hlargest⟩ := ih
    have hbound := measured.toInt_lt
    rw [rttAverages_concat, largestRtt_concat]
    have hold : (rttAverages measurements).Within
        (max (largestRtt measurements) (max measured.toInt 0)) :=
      ⟨hs, by omega, hv, by omega⟩
    exact ⟨hold.feed (by omega), by omega⟩

/-- While the sums fit, the estimator holds the averages. -/
theorem rttRun_spec (measurements : List Int32) (hfit : RttSumsFit measurements) :
    ∃ est, measurements.foldlM xglRttUpdate {} = some est ∧
      TracksExact est (rttAverages measurements) ∧
      (measurements ≠ [] →
        est.rto.toInt = min 5000 (max 100 (rttAverages measurements).sum)) := by
  induction measurements using List.reverseRecOn with
  | nil => exact ⟨{}, rfl, ⟨rfl, rfl, rfl⟩, fun hne => absurd rfl hne⟩
  | append_singleton measurements measured ih =>
    have hfront : RttSumsFit measurements := by
      intro front hpart
      exact hfit front (hpart.trans (List.prefix_append _ _))
    obtain ⟨est, hrun, htracks, -⟩ := ih hfront
    obtain ⟨⟨hs, hsle, hv, hvle⟩, hlargest⟩ := rttAverages_within measurements
    have hwithin : (rttAverages measurements).Within (2 ^ 31 - 1) :=
      ⟨hs, by omega, hv, by omega⟩
    have hlast := hfit _ (List.prefix_refl _)
    rw [rttAverages_concat] at hlast ⊢
    obtain ⟨after, hupdate, htracks', hrto⟩ :=
      (xglRttUpdate_spec htracks hwithin measured).1 hlast
    refine ⟨after, ?_, htracks', fun _ => hrto⟩
    rw [List.foldlM_append, hrun]
    simp [hupdate]

/-- A run without overflow has only sums that fit. -/
theorem rttSumsFit_of_run (measurements : List Int32) {est : RttEstimator}
    (hrun : measurements.foldlM xglRttUpdate {} = some est) : RttSumsFit measurements := by
  induction measurements using List.reverseRecOn generalizing est with
  | nil =>
    intro front hfront
    rw [List.prefix_nil.1 hfront]
    decide
  | append_singleton measurements measured ih =>
    rw [List.foldlM_append] at hrun
    cases hbefore : measurements.foldlM xglRttUpdate {} with
    | none =>
      rw [hbefore] at hrun
      cases hrun
    | some before =>
      have hfit := ih hbefore
      obtain ⟨est', hrun', htracks, -⟩ := rttRun_spec measurements hfit
      rw [hbefore] at hrun hrun'
      have hsame := Option.some.inj hrun'
      obtain ⟨⟨hs, hsle, hv, hvle⟩, hlargest⟩ := rttAverages_within measurements
      have hwithin : (rttAverages measurements).Within (2 ^ 31 - 1) :=
        ⟨hs, by omega, hv, by omega⟩
      intro front hfront
      rcases List.prefix_concat_iff.1 hfront with rfl | hshort
      · rw [rttAverages_concat]
        by_contra hover
        have hnone := (xglRttUpdate_spec (hsame ▸ htracks) hwithin measured).2 hover
        simp [hnone] at hrun
      · exact hfit front hshort

/-- The estimator is sound on exactly the sequences whose averages have sums below
2 to the 31 all along. -/
theorem rtt_sound_iff (measurements : List Int32) :
    RttSound measurements ↔ RttSumsFit measurements := by
  constructor
  · rintro ⟨est, hrun, -⟩
    exact rttSumsFit_of_run measurements hrun
  · intro hfit
    obtain ⟨est, hrun, htracks, hrto⟩ := rttRun_spec measurements hfit
    obtain ⟨⟨hs, hsle, hv, hvle⟩, -⟩ := rttAverages_within measurements
    refine ⟨est, hrun, ?_, ?_, ?_, ?_⟩
    · rw [htracks.srtt]
      exact hs
    · rw [htracks.rttvar]
      exact hv
    · rw [htracks.srtt]
      exact hsle
    · intro hne
      rw [hrto hne, htracks.srtt, htracks.rttvar]
      rfl

/-- One measurement of the largest size overflows. -/
theorem rtt_unsound_largest : ¬ RttSound [2147483647] := by
  rintro ⟨est, hrun, -⟩
  have hnone : [2147483647].foldlM xglRttUpdate {} = none := by decide
  rw [hnone] at hrun
  cases hrun

/-- Measurements of at most a fifth of the range never overflow. -/
theorem rttSumsFit_of_le (measurements : List Int32)
    (h : ∀ measured ∈ measurements, measured.toInt ≤ 429496729) : RttSumsFit measurements := by
  intro front hpart
  have hlargest : largestRtt front ≤ 429496729 := by
    have hfront : ∀ measured ∈ front, measured.toInt ≤ 429496729 :=
      fun measured hin => h measured (hpart.subset hin)
    clear hpart
    induction front using List.reverseRecOn with
    | nil => decide
    | append_singleton front measured ih =>
      rw [largestRtt_concat]
      have hrest := ih fun x hx => hfront x (List.mem_append_left _ hx)
      have hlast := hfront measured (List.mem_append_right _ List.mem_cons_self)
      omega
  obtain ⟨⟨hs, hsle, hv, hvle⟩, -⟩ := rttAverages_within front
  rw [RttAverages.sum]
  omega

/-! ### Backoff -/

/-- From a timeout below 2 to the 30 no doubling overflows: the first value above
the cap ends the loop. -/
theorem backoffLoopChecked_spec (fuel : Nat) {initial : Int32} (hlow : 0 ≤ initial.toInt)
    (hhigh : initial.toInt < 2 ^ 30) :
    ∃ result, backoffLoopChecked fuel initial = some result ∧
      result.toInt = if fuel = 0 then initial.toInt
        else min 30000 (initial.toInt * 2 ^ fuel) := by
  induction fuel generalizing initial with
  | zero => exact ⟨initial, rfl, rfl⟩
  | succ fuel ih =>
    obtain ⟨doubled, hdouble, hexact⟩ :=
      @int32Checked_of_range (initial.toInt * 2) (by omega) (by omega)
    have hpow : initial.toInt * 2 ^ (fuel + 1) = initial.toInt * 2 * 2 ^ fuel := by
      rw [pow_succ]
      ring
    have hone : (1 : Int) ≤ 2 ^ fuel := Int.pow_pos (by decide)
    have hcap : doubled > 30000 ↔ 30000 < initial.toInt * 2 := by
      have hlt : doubled > 30000 ↔ (30000 : Int32).toInt < doubled.toInt :=
        Int32.lt_iff_toInt_lt
      rw [hlt, hexact]
      rfl
    rw [backoffLoopChecked, hdouble, if_neg (Nat.succ_ne_zero fuel), hpow]
    simp only [Option.bind_eq_bind, Option.bind_some]
    split <;> rename_i hover
    · -- above the cap: the exact value is above it too
      have hmore := hcap.1 hover
      refine ⟨30000, rfl, ?_⟩
      show (30000 : Int) = _
      have : initial.toInt * 2 ≤ initial.toInt * 2 * 2 ^ fuel := by nlinarith
      omega
    · have hless : initial.toInt * 2 ≤ 30000 := by
        have := mt hcap.2 hover
        omega
      obtain ⟨result, hrun, hvalue⟩ := @ih doubled (by omega) (by omega)
      refine ⟨result, hrun, ?_⟩
      rw [hvalue, hexact]
      split <;> rename_i hend
      · rw [hend, pow_zero, mul_one]
        omega
      · rfl

/-- The backoff of an initial timeout is sound: for every retry count no doubling
overflows, after a retry the result is the capped exact power, it is nonnegative
and at most the cap, and from an initial timeout below the cap it grows with the
retries. -/
def BackoffSound (initialTimeoutMs : Int32) : Prop :=
  (∀ retryCount : UInt8,
    xglReliableCalcBackoffChecked initialTimeoutMs retryCount
      = some (xglReliableCalcBackoff initialTimeoutMs retryCount) ∧
    (1 ≤ retryCount → (xglReliableCalcBackoff initialTimeoutMs retryCount).toInt
      = min 30000 (initialTimeoutMs.toInt * 2 ^ min retryCount.toNat 10)) ∧
    0 ≤ (xglReliableCalcBackoff initialTimeoutMs retryCount).toInt ∧
    (1 ≤ retryCount → (xglReliableCalcBackoff initialTimeoutMs retryCount).toInt ≤ 30000)) ∧
  (initialTimeoutMs ≤ 30000 → ∀ retryCount later : UInt8, retryCount ≤ later →
    xglReliableCalcBackoff initialTimeoutMs retryCount
      ≤ xglReliableCalcBackoff initialTimeoutMs later)

/-- The backoff without overflow, and its exact value. -/
theorem xglReliableCalcBackoff_spec {initial : Int32} (hlow : 0 ≤ initial.toInt)
    (hhigh : initial.toInt < 2 ^ 30) (retryCount : UInt8) :
    xglReliableCalcBackoffChecked initial retryCount
      = some (xglReliableCalcBackoff initial retryCount) ∧
    (xglReliableCalcBackoff initial retryCount).toInt
      = if min retryCount.toNat 10 = 0 then initial.toInt
        else min 30000 (initial.toInt * 2 ^ min retryCount.toNat 10) := by
  obtain ⟨result, hrun, hvalue⟩ :=
    backoffLoopChecked_spec (min retryCount.toNat 10) hlow hhigh
  have hwrap : xglReliableCalcBackoff initial retryCount = result := backoffLoop_of_checked hrun
  rw [hwrap]
  exact ⟨hrun, hvalue⟩

/-- The backoff is sound for exactly the initial timeouts from 0 to 2 to the 30. -/
theorem backoffSound_iff (initial : Int32) :
    BackoffSound initial ↔ 0 ≤ initial.toInt ∧ initial.toInt < 2 ^ 30 := by
  constructor
  · rintro ⟨hall, -⟩
    obtain ⟨hnone, -, hlow, -⟩ := hall 0
    obtain ⟨hsome, -⟩ := hall 1
    refine ⟨hlow, ?_⟩
    -- one retry doubles once, so the double has a place in 32 bits
    by_contra hlarge
    have hover : int32Checked (initial.toInt * 2) = none := by
      rw [int32Checked_eq_none]
      omega
    have hloop : xglReliableCalcBackoffChecked initial 1 = none := by
      show backoffLoopChecked 1 initial = none
      rw [backoffLoopChecked, hover]
      rfl
    rw [hloop] at hsome
    cases hsome
  · rintro ⟨hlow, hhigh⟩
    have hcount : ∀ retryCount : UInt8, 1 ≤ retryCount → min retryCount.toNat 10 ≠ 0 := by
      intro retryCount hone
      have : 1 ≤ retryCount.toNat := UInt8.le_iff_toNat_le.1 hone
      omega
    refine ⟨?_, ?_⟩
    · intro retryCount
      obtain ⟨hrun, hvalue⟩ := xglReliableCalcBackoff_spec hlow hhigh retryCount
      have hpow : (0 : Int) < 2 ^ min retryCount.toNat 10 := Int.pow_pos (by decide)
      have hproduct : 0 ≤ initial.toInt * 2 ^ min retryCount.toNat 10 :=
        Int.mul_nonneg hlow (Int.le_of_lt hpow)
      refine ⟨hrun, ?_, ?_, ?_⟩
      · intro hone
        rw [hvalue, if_neg (hcount retryCount hone)]
      · rw [hvalue]
        split <;> omega
      · intro hone
        rw [hvalue, if_neg (hcount retryCount hone)]
        omega
    · intro hcap retryCount later hle
      have hcap' : initial.toInt ≤ 30000 := Int32.le_iff_toInt_le.1 hcap
      have hle' : retryCount.toNat ≤ later.toNat := UInt8.le_iff_toNat_le.1 hle
      rw [Int32.le_iff_toInt_le, (xglReliableCalcBackoff_spec hlow hhigh retryCount).2,
        (xglReliableCalcBackoff_spec hlow hhigh later).2]
      -- a larger exponent gives a larger product
      have hpow : (2 : Int) ^ min retryCount.toNat 10 ≤ 2 ^ min later.toNat 10 :=
        pow_le_pow_right₀ (by decide) (by omega)
      have hone : (1 : Int) ≤ 2 ^ min later.toNat 10 := Int.pow_pos (by decide)
      have hproduct : initial.toInt * 2 ^ min retryCount.toNat 10
          ≤ initial.toInt * 2 ^ min later.toNat 10 := Int.mul_le_mul_of_nonneg_left hpow hlow
      have hself : initial.toInt ≤ initial.toInt * 2 ^ min later.toNat 10 := by nlinarith
      split <;> split <;> omega

/-- The timeout an estimator hands out is the default or a clamped one. -/
theorem xglRttGetRto_of_run {measurements : List Int32} {est : RttEstimator}
    (hrun : measurements.foldlM xglRttUpdate {} = some est) :
    100 ≤ (xglRttGetRto est).toInt ∧ (xglRttGetRto est).toInt ≤ 5000 := by
  obtain ⟨est', hrun', -, hrto⟩ :=
    rttRun_spec measurements (rttSumsFit_of_run measurements hrun)
  rw [hrun] at hrun'
  have hsame := Option.some.inj hrun'
  by_cases hne : measurements = []
  · subst hne
    have hinit : est = {} := (Option.some.inj hrun).symm
    rw [hinit]
    decide
  · have hvalue := hrto hne
    rw [← hsame] at hvalue
    rw [xglRttGetRto, hvalue]
    omega

/-- A reliable send whose estimator was fed any measurements has a sound backoff
exactly when the requested timeout is below 2 to the 30. -/
theorem backoff_sound_iff (config : TransportConfig) (peer : PeerState) (txData : TxData)
    (measurements : List Int32)
    (hest : measurements.foldlM xglRttUpdate {} = some peer.rttEst) :
    BackoffSound (transportSendTimeoutMs config peer txData)
      ↔ txData.timeoutMs.toNat < 2 ^ 30 := by
  rw [backoffSound_iff]
  have hrto := xglRttGetRto_of_run hest
  have hzero : txData.timeoutMs > 0 ↔ 0 < txData.timeoutMs.toNat := UInt32.lt_iff_toNat_lt
  rw [transportSendTimeoutMs]
  split <;> rename_i hrequest
  · -- the cast of the request
    have hcast : txData.timeoutMs.toInt32.toInt = (txData.timeoutMs.toNat : Int).bmod (2 ^ 32) :=
      BitVec.toInt_eq_toNat_bmod _
    have hbound := txData.timeoutMs.toNat_lt
    rw [hcast, Int.bmod]
    omega
  · have hnone : txData.timeoutMs.toNat = 0 := by
      have := mt hzero.2 hrequest
      omega
    have hne : (xglRttGetRto peer.rttEst == 0) = false := by
      rw [beq_eq_false_iff_ne]
      intro h
      rw [h] at hrto
      exact absurd hrto.1 (by decide)
    simp only [hne, hnone, Bool.false_eq_true, if_false]
    constructor
    · intro
      decide
    · intro
      exact ⟨by omega, by omega⟩

/-- A peer before its first packet. -/
def untouchedPeer : PeerState where
  peerId := 2
  hasConnectionScope := false
  connectionId := 0
  sessionEpoch := 0
  sessionId := 1
  txWindow := freshWindow 8
  reliableQueue := { maxRetryCount := 3 }

/-- A request of half a second on a fresh peer. -/
theorem backoff_sound_iff_half_second :
    BackoffSound (transportSendTimeoutMs { localId := 1 } untouchedPeer { timeoutMs := 500 })
      ↔ (500 : UInt32).toNat < 2 ^ 30 :=
  backoff_sound_iff { localId := 1 } untouchedPeer { timeoutMs := 500 } [] rfl

/-- The first doubling of a request of 2 to the 30 overflows. -/
theorem backoff_unsound_large : ¬ BackoffSound
    (transportSendTimeoutMs { localId := 1 } untouchedPeer { timeoutMs := 0x40000000 }) := by
  rintro ⟨hall, -⟩
  have hsome := (hall 1).1
  have hnone : xglReliableCalcBackoffChecked
      (transportSendTimeoutMs { localId := 1 } untouchedPeer { timeoutMs := 0x40000000 }) 1
        = none := by decide
  rw [hnone] at hsome
  cases hsome

end XgenLink
