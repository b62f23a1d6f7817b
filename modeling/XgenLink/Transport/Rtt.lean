import XgenLink.Transport.Window
import XgenLink.Transport.Reliable
import XgenLink.Lib.CheckedInt

/-!
# `XgenLink.Transport.Rtt`: the RTT estimator and the retry timeouts, step by step

`src/transport/xgl_rtt.c` and the backoff of `xgl_reliable_timeout.c`, with every signed operation
checked: a computation that overflows has no result. `XgenLink.Transport.Window` and
`XgenLink.Transport.Reliable` have what the rest of the transport reads of them, with arithmetic
that wraps; `backoffLoop_of_checked` says that the two agree where nothing overflows.
-/

set_option autoImplicit false

namespace XgenLink

/-! ### RTT estimator -/

/-- `XGL_MIN_RTO_MS`. -/
def XGL_MIN_RTO_MS : Int32 := 100

/-- `XGL_MAX_RTO_MS`. -/
def XGL_MAX_RTO_MS : Int32 := 5000

/-- `XGL_RTT_ALPHA_SHIFT`. -/
def XGL_RTT_ALPHA_SHIFT : Nat := 3

/-- `XGL_RTT_BETA_SHIFT`. -/
def XGL_RTT_BETA_SHIFT : Nat := 2

/-- `XGL_RTO_K_FACTOR`. -/
def XGL_RTO_K_FACTOR : Int := 4

/-- `abs_int32`. -/
def absInt32 (value : Int32) : Option Int32 :=
  if value < 0 then int32Checked (-value.toInt) else some value

/-- `clamp_int32`. -/
def clampInt32 (value low high : Int32) : Int32 :=
  if value < low then low else if value > high then high else value

/-- The moving averages of a later measurement. -/
def rttSmooth (est : RttEstimator) (measuredRtt : Int32) : Option (Int32 × Int32) := do
  let error ← int32Checked (measuredRtt.toInt - est.srtt.toInt)
  let srtt ← int32Checked (est.srtt.toInt + (int32ShiftRight error XGL_RTT_ALPHA_SHIFT).toInt)
  let absError ← absInt32 error
  let rttvarDelta ← int32Checked (absError.toInt - est.rttvar.toInt)
  let rttvar ← int32Checked
    (est.rttvar.toInt + (int32ShiftRight rttvarDelta XGL_RTT_BETA_SHIFT).toInt)
  some (srtt, rttvar)

/-- The averages of a measurement, the first or a later one. -/
def rttAverage (est : RttEstimator) (measuredRtt : Int32) : Option (Int32 × Int32) :=
  if !est.initialized then some (measuredRtt, int32ShiftRight measuredRtt 1)
  else rttSmooth est measuredRtt

/-- `xgl_rtt_update`: `none` when a signed operation overflows. -/
def xglRttUpdate (est : RttEstimator) (measuredRtt : Int32) : Option RttEstimator := do
  let measured := if measuredRtt < 0 then 0 else measuredRtt
  let (srtt, rttvar) ← rttAverage est measured
  let product ← int32Checked (XGL_RTO_K_FACTOR * rttvar.toInt)
  let rto ← int32Checked (srtt.toInt + product.toInt)
  some { srtt := srtt
         rttvar := rttvar
         rto := clampInt32 rto XGL_MIN_RTO_MS XGL_MAX_RTO_MS
         initialized := true }

/-! ### Backoff -/

/-- The doubling loop of `xgl_reliable_calc_backoff`, `none` when a doubling overflows. -/
def backoffLoopChecked : Nat → Int32 → Option Int32
  | 0, backoff => some backoff
  | fuel + 1, backoff => do
    let doubled ← int32Checked (backoff.toInt * 2)
    if doubled > 30000 then some 30000 else backoffLoopChecked fuel doubled

/-- `xgl_reliable_calc_backoff`, `none` when a doubling overflows. -/
def xglReliableCalcBackoffChecked (initialTimeoutMs : Int32) (retryCount : UInt8) :
    Option Int32 :=
  backoffLoopChecked (min retryCount.toNat 10) initialTimeoutMs

/-- Without overflow the loop is the one that wraps. -/
theorem backoffLoop_of_checked {fuel : Nat} {initial result : Int32}
    (h : backoffLoopChecked fuel initial = some result) : backoffLoop fuel initial = result := by
  induction fuel generalizing initial with
  | zero => exact Option.some.inj h
  | succ fuel ih =>
    rw [backoffLoopChecked] at h
    cases hdouble : int32Checked (initial.toInt * 2) with
    | none =>
      rw [hdouble] at h
      cases h
    | some doubled =>
      rw [hdouble] at h
      have hexact := int32Checked_eq_some.1 hdouble
      -- the wrapping product is the exact one
      have hwrap : initial * 2 = doubled := by
        rw [← Int32.toInt_inj, Int32.toInt_mul, hexact]
        have hlow := doubled.le_toInt
        have hhigh := doubled.toInt_lt
        rw [hexact] at hlow hhigh
        exact Int.bmod_eq_of_le (by simpa using hlow) (by simpa using hhigh)
      have hrest : (if doubled > 30000 then some 30000 else backoffLoopChecked fuel doubled)
          = some result := h
      rw [backoffLoop, hwrap]
      split at hrest <;> rename_i hcap
      · rw [if_pos hcap]
        exact Option.some.inj hrest
      · rw [if_neg hcap]
        exact ih hrest

end XgenLink
