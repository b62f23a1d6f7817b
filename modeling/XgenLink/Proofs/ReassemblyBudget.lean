import XgenLink.Lib.Run
import XgenLink.Proofs.FragmentSteps

/-!
# `XgenLink.Proofs.ReassemblyBudget`: the memory a fragment manager reserves

A peer decides how long its messages are, and a reassembly buffer is as long as its message. So a
manager has limits: how many buffers, how long a message, and how many bytes altogether. It counts
the bytes of its buffers, and the last limit is checked against this counter.

A buffer enters the list when a fragment of an unknown message arrives and the limits leave room
for it. It leaves the list when its message is complete, when its time is up, and when its scope
or the whole manager is cleared. `FragmentBudget` ties the counter to the list, and every
operation keeps it. The limits can be changed while buffers are in use, so what is kept is the
counter and not that it lies below the limit; a new buffer is always within the limits of its
time.

* `FragmentBudget`: the counter, the bound of the list, and one buffer for a message.
* `FragmentOpened.budget`: a new buffer is charged.
* `fragmentFreeWhere_budget`: freed buffers are given back.
* `reassembly_budget`: every state of a manager keeps its budget, and only a buffer within
  the limits is created.
-/

set_option autoImplicit false

namespace XgenLink

/-- The bytes reserved for the buffers of a list. -/
def reservedTotal : List ReassemblyBuffer → Nat
  | [] => 0
  | buffer :: rest => buffer.reservedSize + reservedTotal rest

/-- The counter is the size of the listed buffers, the list is within its bound, and every
message has one buffer. -/
structure FragmentBudget (manager : FragmentManager) : Prop where
  bytes : manager.currentReassemblyBytes = reservedTotal manager.reassemblyList
  count : manager.reassemblyList.length ≤ manager.maxReassemblyBuffers
  keys : (manager.reassemblyList.map ReassemblyBuffer.key).Nodup

/-! ### Lists of buffers -/

/-- The bytes of two lists of buffers. -/
theorem reservedTotal_append (a b : List ReassemblyBuffer) :
    reservedTotal (a ++ b) = reservedTotal a + reservedTotal b := by
  induction a with
  | nil => exact (Nat.zero_add _).symm
  | cons first rest ih =>
    show first.reservedSize + reservedTotal (rest ++ b)
      = first.reservedSize + reservedTotal rest + reservedTotal b
    rw [ih, Nat.add_assoc]

/-- A test splits the reserved bytes. -/
theorem reservedTotal_filter (test : ReassemblyBuffer → Bool) (buffers : List ReassemblyBuffer) :
    reservedTotal buffers = reservedTotal (buffers.filter test)
      + reservedTotal (buffers.filter fun buffer => !test buffer) := by
  induction buffers with
  | nil => rfl
  | cons first rest ih =>
    cases htest : test first <;>
      simp only [List.filter_cons, htest, Bool.not_true, Bool.not_false, if_true,
        if_false, Bool.false_eq_true, reservedTotal, ih] <;>
      omega

/-- Writing through a lookup changes neither keys nor reserved bytes. -/
theorem putBuffer_keeps {buffers : List ReassemblyBuffer} {old new : ReassemblyBuffer}
    (hfind : buffers.find? (fun buffer => buffer.key == new.key) = some old)
    (hkey : new.key = old.key) (hreserved : new.reservedSize = old.reservedSize) :
    (putBuffer new buffers).map ReassemblyBuffer.key = buffers.map ReassemblyBuffer.key ∧
      reservedTotal (putBuffer new buffers) = reservedTotal buffers := by
  obtain ⟨before, after, rfl, _, hput⟩ := findBuffer_split hfind
  rw [hput new rfl]
  simp only [List.map_append, List.map_cons, hkey, reservedTotal_append, reservedTotal, hreserved,
    true_and]

/-- Taking the buffer of a lookup off the list. -/
theorem unlinkBuffer_reserved {buffers : List ReassemblyBuffer} {key : MessageKey}
    {buffer : ReassemblyBuffer}
    (hfind : buffers.find? (fun other => other.key == key) = some buffer) :
    reservedTotal buffers = buffer.reservedSize + reservedTotal (unlinkBuffer key buffers) := by
  obtain ⟨before, after, rfl, hunlink, _⟩ := findBuffer_split hfind
  rw [hunlink]
  simp only [reservedTotal_append, reservedTotal]
  omega

/-- What a buffer reserved is given back. -/
theorem fragmentRelease_reserved (buffer : ReassemblyBuffer) (rest : Nat) :
    fragmentRelease buffer (buffer.reservedSize + rest) = rest := by
  rw [fragmentRelease, if_pos (Nat.le_add_right _ _), Nat.add_sub_cancel_left]

/-- What the buffers of a list reserved is given back. -/
theorem foldl_fragmentRelease (buffers : List ReassemblyBuffer) (rest : Nat) :
    buffers.foldl (fun bytes buffer => fragmentRelease buffer bytes) (reservedTotal buffers + rest)
      = rest := by
  induction buffers with
  | nil => exact Nat.zero_add rest
  | cons first others ih =>
    rw [List.foldl_cons, reservedTotal, Nat.add_assoc, fragmentRelease_reserved, ih]

/-! ### Single operations -/

section Operations

variable {manager base : FragmentManager} {call : FragmentCall} {buffer : ReassemblyBuffer}

/-- The buffer of a fragment is the one its message has. -/
theorem FragmentOpened.find (h : FragmentOpened manager call base buffer) :
    base.reassemblyList.find? (fun other => other.key == buffer.key) = some buffer ∧
      buffer.key = call.key := by
  cases h with
  | found _ hfind =>
    have hkey : buffer.key = call.key := by simpa using List.find?_some hfind
    rw [hkey]
    exact ⟨hfind, rfl⟩
  | created hnone =>
    refine ⟨?_, rfl⟩
    show (manager.reassemblyList ++ [_]).find? _ = _
    have hnone' : manager.reassemblyList.find? (fun other => other.key ==
        (freshBuffer manager call.key call.dataType call.messageLen).key) = none := hnone
    rw [List.find?_append, hnone', Option.none_or, List.find?_cons, beq_self_eq_true]

/-- A new buffer is charged and within the bound of the list. -/
theorem FragmentOpened.budget (h : FragmentOpened manager call base buffer)
    (hbudget : FragmentBudget manager) : FragmentBudget base := by
  cases h with
  | found => exact hbudget
  | created hnone hroom =>
    refine ⟨?_, ?_, ?_⟩
    · show manager.currentReassemblyBytes + call.messageLen.toNat = reservedTotal (_ ++ [_])
      rw [reservedTotal_append, ← hbudget.bytes]
      rfl
    · show (manager.reassemblyList ++ [_]).length ≤ _
      rw [List.length_append]
      exact hroom.count
    · show (List.map _ (manager.reassemblyList ++ [_])).Nodup
      rw [List.map_append, List.nodup_append]
      refine ⟨hbudget.keys, List.pairwise_singleton _ _, fun key hkey other hother heq => ?_⟩
      -- the message had no buffer before
      obtain ⟨listed, hlisted, rfl⟩ := List.mem_map.mp hkey
      rw [List.map_singleton, List.mem_singleton] at hother
      exact List.find?_eq_none.mp hnone listed hlisted (beq_iff_eq.mpr (heq.trans hother))

/-- Processing a fragment keeps the budget. -/
theorem FragmentProcessed.budget {env : TransportEnv} {result : FragmentResult}
    {after : FragmentManager} (h : FragmentProcessed env manager call result after)
    (hbudget : FragmentBudget manager) : FragmentBudget after := by
  cases h with
  | invalid => exact hbudget
  | noBuffer => exact hbudget
  | mismatch => exact hbudget
  | notInserted => exact hbudget
  | waiting base buffer ranges time hopened =>
    obtain ⟨hbytes, hcount, hkeys⟩ := hopened.budget hbudget
    obtain ⟨hkept, htotal⟩ := @putBuffer_keeps _ _ (filledBuffer buffer call ranges time)
      hopened.find.1 rfl rfl
    refine ⟨hbytes.trans htotal.symm, ?_, hkept ▸ hkeys⟩
    have hlength := congrArg List.length hkept
    rw [List.length_map, List.length_map] at hlength
    exact hlength.trans_le hcount
  | completed base buffer ranges time hopened =>
    obtain ⟨hbytes, hcount, hkeys⟩ := hopened.budget hbudget
    have hsub : (unlinkBuffer buffer.key base.reassemblyList).Sublist base.reassemblyList :=
      List.eraseP_sublist
    refine ⟨?_, hsub.length_le.trans hcount, hkeys.sublist (hsub.map _)⟩
    show fragmentRelease buffer base.currentReassemblyBytes = reservedTotal _
    rw [hbytes, unlinkBuffer_reserved hopened.find.1, fragmentRelease_reserved]

/-- Freeing buffers keeps the budget, whatever selects them. -/
theorem fragmentFreeWhere_budget (test : ReassemblyBuffer → Bool)
    (hbudget : FragmentBudget manager) : FragmentBudget (fragmentFreeWhere test manager) := by
  have hsub : (manager.reassemblyList.filter fun buffer => !test buffer).Sublist
      manager.reassemblyList := List.filter_sublist
  refine ⟨?_, hsub.length_le.trans hbudget.count, hbudget.keys.sublist (hsub.map _)⟩
  simp only [fragmentFreeWhere]
  rw [hbudget.bytes, reservedTotal_filter test, foldl_fragmentRelease]

end Operations

/-! ### Runs -/

/-- The operations that change the buffers of a manager or their limits. -/
inductive FragmentOp where
  | process (call : FragmentCall)
  | processTimeouts (currentTimeMs : UInt32)
  | clearReassembly
  | clearReassemblyScope (sourceId : UInt16) (connectionId sessionEpoch : UInt32)
  | setLimits (maxMessageSize maxReassemblyBytes : Nat)

/-- One operation on a manager; the allocator is asked through `env`. -/
def fragmentOpStep (env : TransportEnv) (state : FragmentManager × TransportIo) :
    FragmentOp → FragmentManager × TransportIo
  | .process call => (call.process env state.2 state.1).2
  | .processTimeouts currentTimeMs =>
    ((xglFragmentProcessTimeouts state.1 currentTimeMs).2, state.2)
  | .clearReassembly => (xglFragmentClearReassembly state.1, state.2)
  | .clearReassemblyScope sourceId connectionId sessionEpoch =>
    (xglFragmentClearReassemblyScope state.1 sourceId connectionId sessionEpoch, state.2)
  | .setLimits maxMessageSize maxReassemblyBytes =>
    ((xglFragmentSetLimits state.1 maxMessageSize maxReassemblyBytes).2, state.2)

/-- Every operation keeps the budget. -/
theorem fragmentOpStep_budget (env : TransportEnv) (state : FragmentManager × TransportIo)
    (op : FragmentOp) (hbudget : FragmentBudget state.1) :
    FragmentBudget (fragmentOpStep env state op).1 := by
  cases op with
  | process call => exact (xglFragmentProcessExt_cases env state.2 state.1 call).budget hbudget
  | processTimeouts => exact fragmentFreeWhere_budget _ hbudget
  | clearReassembly => exact fragmentFreeWhere_budget _ hbudget
  | clearReassemblyScope => exact fragmentFreeWhere_budget _ hbudget
  | setLimits =>
    simp only [fragmentOpStep, xglFragmentSetLimits]
    split
    · exact hbudget
    · exact ⟨hbudget.bytes, hbudget.count, hbudget.keys⟩

/-- The buffer was made within the limits of the manager: it counts towards the bytes in use,
which stay within `max_reassembly_bytes`, and it is at most `max_message_size` long. A limit
of 0 is none. -/
structure CreatedWithin (manager after : FragmentManager) (buffer : ReassemblyBuffer) : Prop where
  listed : after.reassemblyList = manager.reassemblyList ++ [buffer]
  bytes : manager.maxReassemblyBytes = 0 ∨
    after.currentReassemblyBytes ≤ manager.maxReassemblyBytes
  message : manager.maxMessageSize = 0 ∨ buffer.reservedSize ≤ manager.maxMessageSize

/-- For every run of the operations on a new manager, whatever the allocator answers: the
counter is the size of the listed buffers, the list is within its bound and the keys are
unique; and a buffer that is created next is within the limits. -/
theorem reassembly_budget (env : TransportEnv) (io : TransportIo) (maxReassemblyBuffers : Nat)
    (reassemblyTimeoutMs : UInt32) (ops : List FragmentOp) :
    let state := ops.foldl (fragmentOpStep env)
      (xglFragmentInit maxReassemblyBuffers reassemblyTimeoutMs, io)
    FragmentBudget state.1 ∧
      ∀ key dataType messageLen buffer after io',
        fragmentCreateReassemblyBuffer env state.2 state.1 key dataType messageLen
            = (.ok buffer, after, io') →
          CreatedWithin state.1 after buffer := by
  intro state
  refine ⟨?_, fun key dataType messageLen buffer after io' hcreate => ?_⟩
  · refine @foldl_invariant _ _ (fragmentOpStep env) (fun state => FragmentBudget state.1)
      (fragmentOpStep_budget env) ops _ ?_
    exact ⟨rfl, Nat.zero_le _, List.nodup_nil⟩
  · rcases fragmentCreateReassemblyBuffer_cases env state.2 state.1 key dataType messageLen with
      ⟨err, _, _, _, hrefused⟩ | ⟨_, hroom, hmade⟩
    · rw [hrefused] at hcreate
      cases hcreate
    · rw [hmade] at hcreate
      cases hcreate
      exact ⟨rfl, hroom.bytes, hroom.message⟩

end XgenLink
