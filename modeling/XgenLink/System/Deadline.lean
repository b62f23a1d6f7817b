import XgenLink.System.Poll
import XgenLink.Transport.Runtime

/-!
# `XgenLink.System.Deadline`: when the instance has to run next

`xgl_next_deadline_ms` goes over the routes, the peers and the reassembly buffers, and takes the
shortest time that any of them can wait. An application sleeps that long before it calls `xgl_run`
again. When nothing is waiting the answer is `XGL_NO_DEADLINE_MS`.

Times are 32-bit numbers of milliseconds that wrap around. A route and a buffer are compared by the
time that has passed since they were last served. A peer has its earliest deadline cached, and that
is an absolute time.
-/

set_option autoImplicit false

namespace XgenLink

/-- `XGL_NO_DEADLINE_MS`. -/
def XGL_NO_DEADLINE_MS : UInt32 := 0xFFFFFFFF

/-- The fields of an instance that the deadline depends on; `routeLastReadMs` is `none` when
the pointer is NULL. -/
structure RuntimeHandle where
  initialized : Bool := true
  routeTable : List PollRoute := []
  routeLastReadMs : Option (List UInt32) := none
  transportCtx : TransportCtx

/-- `deadline_delta_ms`. -/
def deadlineDeltaMs (nowMs startMs timeoutMs : UInt32) : UInt32 :=
  if nowMs - startMs ≥ timeoutMs then 0 else timeoutMs - (nowMs - startMs)

/-- `deadline_take_min`. -/
def deadlineTakeMin (deadlineMs candidateMs : UInt32) : UInt32 :=
  if candidateMs < deadlineMs then candidateMs else deadlineMs

/-- One route of `collect_route_deadlines`. -/
def routeDeadline (handle : RuntimeHandle) (nowMs deadlineMs : UInt32) (entry : PollRoute × Nat) :
    UInt32 :=
  match entry.1.rxPhy with
  -- a route without a receive function does not wait
  | none => deadlineMs
  | some _ =>
    match handle.routeLastReadMs with
    | none => deadlineTakeMin deadlineMs 0
    | some times =>
      -- a route that was never read, or is read every time, is due at once
      if entry.1.readFreqHz == 0 || entry.2 ≥ times.length || times.getD entry.2 0 == 0 then
        deadlineTakeMin deadlineMs 0
      else
        deadlineTakeMin deadlineMs
          (deadlineDeltaMs nowMs (times.getD entry.2 0) (routeIntervalMs entry.1.readFreqHz))

/-- `collect_route_deadlines`. -/
def collectRouteDeadlines (handle : RuntimeHandle) (nowMs deadlineMs : UInt32) : UInt32 :=
  handle.routeTable.zipIdx.foldl (routeDeadline handle nowMs) deadlineMs

/-- One peer of `collect_reliable_deadlines`. The cached deadline 0 stands for none. -/
def peerDeadline (nowMs deadlineMs : UInt32) (peer : PeerState) : UInt32 :=
  if peer.earliestDeadlineMs == 0 then deadlineMs
  else
    -- the difference as a signed number, so that a deadline that has passed is negative
    let remaining := (peer.earliestDeadlineMs - nowMs).toInt32
    if remaining ≤ 0 then deadlineTakeMin deadlineMs 0
    else deadlineTakeMin deadlineMs remaining.toUInt32

/-- `collect_reliable_deadlines`. -/
def collectReliableDeadlines (peers : List PeerState) (nowMs deadlineMs : UInt32) : UInt32 :=
  peers.foldl (peerDeadline nowMs) deadlineMs

/-- One buffer of `collect_reassembly_deadlines`. -/
def bufferDeadline (nowMs deadlineMs : UInt32) (buffer : ReassemblyBuffer) : UInt32 :=
  if buffer.firstFragmentTime == 0 || buffer.timeoutMs == 0 then deadlineMs
  else
    deadlineTakeMin deadlineMs
      (deadlineDeltaMs nowMs buffer.firstFragmentTime buffer.timeoutMs)

/-- `collect_reassembly_deadlines`. -/
def collectReassemblyDeadlines (manager : Option FragmentManager) (nowMs deadlineMs : UInt32) :
    UInt32 :=
  match manager with
  | none => deadlineMs
  | some manager => manager.reassemblyList.foldl (bufferDeadline nowMs) deadlineMs

/-- `xgl_next_deadline_ms` while `xgl_time_ms` returns `nowMs`. -/
def xglNextDeadlineMs (handle : RuntimeHandle) (nowMs : UInt32) : UInt32 :=
  if !handle.initialized then XGL_NO_DEADLINE_MS
  else
    let routes := collectRouteDeadlines handle nowMs XGL_NO_DEADLINE_MS
    let reliable := collectReliableDeadlines handle.transportCtx.peers nowMs routes
    collectReassemblyDeadlines handle.transportCtx.fragmentMgr nowMs reliable

/-! ### What each collection takes -/

/-- Taking the minimum is taking it of the numbers. -/
@[simp] theorem deadlineTakeMin_toNat (deadlineMs candidateMs : UInt32) :
    (deadlineTakeMin deadlineMs candidateMs).toNat = min deadlineMs.toNat candidateMs.toNat := by
  simp only [deadlineTakeMin, UInt32.lt_iff_toNat_lt]
  split <;> omega

/-- A deadline is never put off. -/
theorem deadlineTakeMin_le (deadlineMs candidateMs : UInt32) :
    deadlineTakeMin deadlineMs candidateMs ≤ deadlineMs := by
  rw [UInt32.le_iff_toNat_le, deadlineTakeMin_toNat]
  exact Nat.min_le_left _ _

/-- A peer can only shorten the wait. -/
theorem peerDeadline_le (nowMs deadlineMs : UInt32) (peer : PeerState) :
    peerDeadline nowMs deadlineMs peer ≤ deadlineMs := by
  simp only [peerDeadline]
  split
  · exact UInt32.le_refl _
  · split <;> exact deadlineTakeMin_le _ _

/-- A buffer can only shorten the wait. -/
theorem bufferDeadline_le (nowMs deadlineMs : UInt32) (buffer : ReassemblyBuffer) :
    bufferDeadline nowMs deadlineMs buffer ≤ deadlineMs := by
  simp only [bufferDeadline]
  split
  · exact UInt32.le_refl _
  · exact deadlineTakeMin_le _ _

/-- A collection is at most its start. -/
theorem foldl_deadline_le {α : Type} (take : UInt32 → α → UInt32)
    (hshorter : ∀ deadlineMs a, take deadlineMs a ≤ deadlineMs) (items : List α)
    (deadlineMs : UInt32) : items.foldl take deadlineMs ≤ deadlineMs := by
  induction items generalizing deadlineMs with
  | nil => exact UInt32.le_refl _
  | cons first rest ih => exact UInt32.le_trans (ih _) (hshorter deadlineMs first)

/-- A collection is at most what one of its items allows. -/
theorem foldl_deadline_le_of_mem {α : Type} (take : UInt32 → α → UInt32)
    (hshorter : ∀ deadlineMs a, take deadlineMs a ≤ deadlineMs) {items : List α} {a : α}
    (hmem : a ∈ items) {bound : UInt32} (hbound : ∀ deadlineMs, take deadlineMs a ≤ bound)
    (deadlineMs : UInt32) : items.foldl take deadlineMs ≤ bound := by
  induction items generalizing deadlineMs with
  | nil => cases hmem
  | cons first rest ih =>
    rcases List.mem_cons.mp hmem with rfl | hrest
    · exact UInt32.le_trans (foldl_deadline_le take hshorter rest _) (hbound deadlineMs)
    · exact ih hrest _

end XgenLink
