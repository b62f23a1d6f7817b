import Mathlib.Data.List.Nodup
import XgenLink.Proofs.ReassemblyBudget

/-!
# `XgenLink.Proofs.HostileFragments`: what arbitrary fragments can do to a manager

A peer may send fragments with any offset, length, type and payload, and nothing but the checks of
`xgl_fragment_process_ext` stands between them and the memory of the receiver. A history is any
sequence of operations of a manager, with fragments of any peers, timeouts, and an allocator that
may fail.

A history runs the manager and remembers, for every message that is being collected, the fragments
that went into its buffer. `BufferSound` says what the buffer then is: its ranges are in order and
do not touch, each of its bytes was written by the one fragment that has it, and no other byte is
set. A complete message has no other bytes, since its ranges fill the buffer.

* `RangesSound`, `BufferSound`: a buffer and the fragments that went into it.
* `BufferSound.fresh`, `BufferSound.store`: a new buffer, and a fragment that a buffer takes.
* `FragmentHistory`, `FragmentSound.step`: every operation keeps all buffers sound.
* `BufferSound.assembled`: a full buffer has one writer for every byte.
* `hostile_fragments`: the ranges, the copies and the completed messages of every history.
-/

set_option autoImplicit false

namespace XgenLink

/-! ### Buffers and their fragments -/

/-- The fragment has the byte at a position of the message. -/
def FragmentCall.Has (call : FragmentCall) (i : Nat) : Prop :=
  call.start ≤ i ∧ i < call.stop

/-- The received ranges of a buffer: none is empty, they are in order, apart and not adjacent,
they lie in the buffer and fill at most sixteen slots, and the counter is their length. -/
structure RangesSound (buffer : ReassemblyBuffer) : Prop where
  tile : RangesTile buffer.bufferSize buffer.receivedRanges
  apart : RangesApart buffer.receivedRanges
  count : buffer.receivedRanges.length ≤ XGL_FRAGMENT_MAX_RECEIVED_RANGES
  bytes : buffer.receivedBytes = rangesTotal buffer.receivedRanges
  length : buffer.data.length = buffer.bufferSize

/-- The buffer holds these fragments of one message and nothing else. A byte is set when one of
them has it, and then it is the byte of that fragment. -/
structure BufferSound (parts : List FragmentCall) (buffer : ReassemblyBuffer) : Prop where
  ranges : RangesSound buffer
  same : ∀ part ∈ parts, part.key = buffer.key ∧ part.messageLen.toNat = buffer.bufferSize ∧
    part.dataType = buffer.dataType
  apart : parts.Pairwise fun a b => ∀ i, a.Has i → ¬ b.Has i
  cover : ∀ i, RangesCover buffer.receivedRanges i ↔ ∃ part ∈ parts, part.Has i
  written : ∀ part ∈ parts, ∀ i, part.Has i →
    buffer.data[i]? = part.payload[i - part.start]?.map some
  unset : ∀ i, i < buffer.bufferSize → ¬ RangesCover buffer.receivedRanges i →
    buffer.data[i]? = some none

section Buffers

variable {manager base : FragmentManager} {call : FragmentCall} {buffer : ReassemblyBuffer}
  {parts : List FragmentCall} {ranges : List ReceivedRange}

/-- A new buffer holds nothing. -/
theorem BufferSound.fresh (manager : FragmentManager) (key : MessageKey) (dataType : UInt8)
    (messageLen : UInt32) : BufferSound [] (freshBuffer manager key dataType messageLen) where
  ranges :=
    { tile := Nat.zero_le _
      apart := List.Pairwise.nil
      count := Nat.zero_le _
      bytes := rfl
      length := List.length_replicate }
  same := fun _ hpart => absurd hpart List.not_mem_nil
  apart := List.Pairwise.nil
  cover := fun i => by simp [Spanned, freshBuffer]
  written := fun _ hpart => absurd hpart List.not_mem_nil
  unset := fun i hi _ => by
    simp only [freshBuffer] at hi ⊢
    rw [List.getElem?_replicate, if_pos hi]

/-- The ranges of a buffer that took a fragment. -/
theorem RangesSound.store (h : RangesSound buffer) (hfits : FragmentFits buffer call ranges)
    (time : UInt32) : RangesSound (filledBuffer buffer call ranges time) := by
  have hsize : call.stop ≤ buffer.bufferSize := hfits.size ▸ hfits.valid.fits
  obtain ⟨htile, htotal, _⟩ := fragmentInsertReceivedRange_ok hfits.insert h.tile hsize
  obtain ⟨hapart, hcount⟩ :=
    fragmentInsertReceivedRange_apart hfits.insert hfits.valid.filled h.tile h.apart
  refine ⟨htile, hapart, hcount h.count, ?_, ?_⟩
  · show buffer.receivedBytes + call.payload.length = rangesTotal ranges
    rw [htotal, h.bytes, FragmentCall.stop, FragmentCall.start, Nat.add_sub_cancel_left]
  · show (writeFragment buffer.data call.start call.payload).length = buffer.bufferSize
    rw [length_writeFragment (h.length ▸ hsize), h.length]

/-- A buffer that took a fragment. -/
theorem BufferSound.store (h : BufferSound parts buffer) (hfits : FragmentFits buffer call ranges)
    (hkey : buffer.key = call.key) (time : UInt32) :
    BufferSound (parts ++ [call]) (filledBuffer buffer call ranges time) := by
  have hsize : call.stop ≤ buffer.bufferSize := hfits.size ▸ hfits.valid.fits
  have hwrite := @writeFragment_getElem? buffer.data call.start call.payload
    (h.ranges.length ▸ hsize)
  obtain ⟨_, _, hcover, hnew⟩ := fragmentInsertReceivedRange_ok hfits.insert h.ranges.tile hsize
  -- a byte of the new fragment was in no fragment before
  have hfree : ∀ part ∈ parts, ∀ i, part.Has i → ¬ call.Has i := fun part hpart i hi =>
    hnew i ((h.cover i).mpr ⟨part, hpart, hi⟩)
  refine ⟨h.ranges.store hfits time, ?_, ?_, ?_, ?_, ?_⟩
  · intro part hpart
    rcases List.mem_append.mp hpart with hpart | hpart
    · exact h.same part hpart
    · rw [List.mem_singleton.mp hpart]
      exact ⟨hkey.symm, hfits.size.symm, hfits.dataType.symm⟩
  · rw [List.pairwise_append]
    refine ⟨h.apart, List.pairwise_singleton _ _, fun part hpart last hlast i hi => ?_⟩
    rw [List.mem_singleton.mp hlast]
    exact hfree part hpart i hi
  · intro i
    show RangesCover ranges i ↔ _
    rw [hcover i, h.cover i]
    simp only [List.mem_append, List.mem_singleton, or_and_right, exists_or, exists_eq_left]
    exact Iff.rfl
  · intro part hpart i hi
    show (writeFragment buffer.data call.start call.payload)[i]? = _
    rw [hwrite]
    rcases List.mem_append.mp hpart with hpart | hpart
    · exact (if_neg (hfree part hpart i hi)).trans (h.written part hpart i hi)
    · rw [List.mem_singleton.mp hpart] at hi ⊢
      exact if_pos hi
  · intro i hi hun
    show (writeFragment buffer.data call.start call.payload)[i]? = some none
    have hnot : ¬ call.Has i := fun hhas => hun ((hcover i).mpr (.inr hhas))
    rw [hwrite]
    exact (if_neg hnot).trans (h.unset i hi fun hold => hun ((hcover i).mpr (.inl hold)))

end Buffers

/-! ### Histories -/

/-- A manager and, for every key, the fragments that were copied into its buffer since the
buffer was created. -/
structure FragmentHistory where
  manager : FragmentManager
  io : TransportIo
  parts : MessageKey → List FragmentCall := fun _ => []

/-- The fragments in the buffer of a key; a key without a buffer has none. -/
def FragmentHistory.collected (history : FragmentHistory) (key : MessageKey) :
    List FragmentCall :=
  if (fragmentFindReassemblyBuffer history.manager key).isSome then history.parts key else []

/-- One operation. A fragment whose payload was copied is remembered. -/
def FragmentHistory.step (env : TransportEnv) (history : FragmentHistory) (op : FragmentOp) :
    FragmentHistory :=
  let after := fragmentOpStep env (history.manager, history.io) op
  { manager := after.1
    io := after.2
    parts :=
      match op with
      | .process call =>
        if (call.process env history.io history.manager).1.stored then fun key =>
          if key = call.key then history.collected call.key ++ [call] else history.parts key
        else history.parts
      | _ => history.parts }

/-- Every buffer is sound, with the fragments of its key. -/
structure FragmentSound (history : FragmentHistory) : Prop where
  budget : FragmentBudget history.manager
  buffers : ∀ buffer ∈ history.manager.reassemblyList,
    BufferSound (history.parts buffer.key) buffer

section Histories

variable {env : TransportEnv} {history : FragmentHistory} {call : FragmentCall}
  {base : FragmentManager} {buffer : ReassemblyBuffer} {ranges : List ReceivedRange}

/-- The buffer a fragment goes into. -/
theorem FragmentSound.opened (h : FragmentSound history)
    (hopened : FragmentOpened history.manager call base buffer) :
    BufferSound (history.collected call.key) buffer ∧
      ∀ other ∈ base.reassemblyList, other.key ≠ call.key →
        other ∈ history.manager.reassemblyList := by
  cases hopened with
  | found _ hfind =>
    have hkey : buffer.key = call.key := by simpa using List.find?_some hfind
    rw [FragmentHistory.collected, hfind, Option.isSome_some, if_pos rfl, ← hkey]
    exact ⟨h.buffers buffer (List.mem_of_find?_eq_some hfind), fun _ hother _ => hother⟩
  | created hnone =>
    rw [FragmentHistory.collected, hnone, Option.isSome_none, if_neg Bool.false_ne_true]
    refine ⟨.fresh _ _ _ _, fun other hother hne => ?_⟩
    rcases List.mem_append.mp hother with hother | hother
    · exact hother
    · exact absurd (congrArg ReassemblyBuffer.key (List.mem_singleton.mp hother)) hne

/-- The buffers of other messages stand in the manager a fragment leaves. -/
theorem FragmentOpened.others (hopened : FragmentOpened history.manager call base buffer)
    (hkeys : (base.reassemblyList.map ReassemblyBuffer.key).Nodup) {other : ReassemblyBuffer} :
    (other ∈ unlinkBuffer buffer.key base.reassemblyList →
      other ∈ base.reassemblyList ∧ other.key ≠ call.key) ∧
    ∀ new : ReassemblyBuffer, new.key = buffer.key → other ∈ putBuffer new base.reassemblyList →
      other = new ∨ other ∈ base.reassemblyList ∧ other.key ≠ call.key := by
  obtain ⟨hfind, hkey⟩ := hopened.find
  obtain ⟨before, after, hsplit, hunlink, hput⟩ := findBuffer_split hfind
  -- a buffer beside the one of the message has another key
  have hbeside : other ∈ before ++ after →
      other ∈ base.reassemblyList ∧ other.key ≠ call.key := by
    intro hmem
    rw [hsplit] at hkeys ⊢
    refine ⟨List.mem_append.mpr ((List.mem_append.mp hmem).imp_right
      (List.mem_cons_of_mem _)), fun heq => ?_⟩
    rw [List.map_append, List.map_cons, List.nodup_middle, List.nodup_cons] at hkeys
    refine hkeys.1 ?_
    rw [← List.map_append, List.mem_map]
    exact ⟨other, hmem, heq.trans hkey.symm⟩
  refine ⟨fun hmem => hbeside (hunlink ▸ hmem), fun new hnew hmem => ?_⟩
  rw [hput new hnew, List.mem_append, List.mem_cons] at hmem
  rcases hmem with hmem | rfl | hmem
  · exact .inr (hbeside (List.mem_append_left _ hmem))
  · exact .inl rfl
  · exact .inr (hbeside (List.mem_append_right _ hmem))

/-- A fragment keeps the buffers sound. -/
theorem FragmentSound.process (h : FragmentSound history) (call : FragmentCall) :
    FragmentSound (history.step env (.process call)) := by
  refine ⟨fragmentOpStep_budget env _ (.process call) h.budget, ?_⟩
  simp only [FragmentHistory.step, fragmentOpStep]
  have hcases := xglFragmentProcessExt_cases env history.io history.manager call
  revert hcases
  generalize (call.process env history.io history.manager).2.1 = after
  generalize (call.process env history.io history.manager).1 = result
  intro hcases
  cases hcases with
  | invalid => exact h.buffers
  | noBuffer => exact h.buffers
  | mismatch => exact h.buffers
  | notInserted => exact h.buffers
  | waiting base buffer ranges time hopened hfits =>
    obtain ⟨hsound, hlisted⟩ := h.opened hopened
    intro other hother
    rw [if_pos rfl]
    rcases (hopened.others (hopened.budget h.budget).keys).2
      (filledBuffer buffer call ranges time) rfl hother with rfl | ⟨hother, hne⟩
    · rw [if_pos (show (filledBuffer buffer call ranges time).key = _ from hopened.find.2)]
      exact hsound.store hfits hopened.find.2 time
    · rw [if_neg hne]
      exact h.buffers other (hlisted other hother hne)
  | completed base buffer ranges time hopened =>
    intro other hother
    rw [if_pos rfl]
    obtain ⟨hother, hne⟩ := (hopened.others (hopened.budget h.budget).keys).1 hother
    rw [if_neg hne]
    exact h.buffers other ((h.opened hopened).2 other hother hne)

/-- Every operation keeps the buffers sound. -/
theorem FragmentSound.step (h : FragmentSound history) (op : FragmentOp) :
    FragmentSound (history.step env op) := by
  have hfreed : ∀ test, ∀ buffer ∈ (fragmentFreeWhere test history.manager).reassemblyList,
      BufferSound (history.parts buffer.key) buffer := fun test buffer hmem =>
    h.buffers buffer (List.mem_of_mem_filter hmem)
  have hbudget := fragmentOpStep_budget env (history.manager, history.io) op h.budget
  cases op with
  | process call => exact h.process call
  | processTimeouts currentTimeMs => exact ⟨hbudget, hfreed _⟩
  | clearReassembly => exact ⟨hbudget, hfreed _⟩
  | clearReassemblyScope => exact ⟨hbudget, hfreed _⟩
  | setLimits maxMessageSize maxReassemblyBytes =>
    refine ⟨hbudget, ?_⟩
    simp only [FragmentHistory.step, fragmentOpStep, xglFragmentSetLimits]
    split
    · exact h.buffers
    · exact h.buffers

end Histories

/-! ### Every history -/

/-- Byte `i` of a message was written by exactly one of the fragments. -/
def WrittenOnce (parts : List FragmentCall) (i : Nat) (byte : UInt8) : Prop :=
  ∃ (k : Nat) (part : FragmentCall), parts[k]? = some part ∧ part.Has i ∧
    part.payload[i - part.start]? = some byte ∧
    ∀ (k' : Nat) (part' : FragmentCall), parts[k']? = some part' → part'.Has i → k' = k

/-- The message is put together from fragments of its key, length and type, each byte from
exactly one of them. -/
structure AssembledFrom (parts : List FragmentCall) (call : FragmentCall) (data : Bytes) :
    Prop where
  length : data.length = call.messageLen.toNat
  same : ∀ part ∈ parts, part.key = call.key ∧ part.messageLen = call.messageLen ∧
    part.dataType = call.dataType
  written : ∀ i byte, data[i]? = some byte → WrittenOnce parts i byte

/-- A buffer whose fragments fill it has one writer for every byte. -/
theorem BufferSound.assembled {parts : List FragmentCall} {buffer : ReassemblyBuffer}
    {call : FragmentCall} (h : BufferSound parts buffer)
    (hfull : buffer.receivedBytes = buffer.bufferSize) (hkey : buffer.key = call.key)
    (hsize : buffer.bufferSize = call.messageLen.toNat) (htype : buffer.dataType = call.dataType) :
    AssembledFrom parts call (buffer.data.map fun byte => byte.getD 0) := by
  refine ⟨?_, fun part hpart => ?_, fun i byte hbyte => ?_⟩
  · rw [List.length_map, h.ranges.length, hsize]
  · obtain ⟨hpartKey, hpartSize, hpartType⟩ := h.same part hpart
    exact ⟨hpartKey.trans hkey, UInt32.toNat_inj.mp (hpartSize.trans hsize),
      hpartType.trans htype⟩
  · have hi : i < buffer.bufferSize := by
      rw [← h.ranges.length, ← @List.length_map _ _ buffer.data fun byte => byte.getD 0]
      exact (List.getElem?_eq_some_iff.mp hbyte).1
    -- the ranges fill the buffer, so some fragment has the byte
    have hcover : RangesCover buffer.receivedRanges i := by
      refine h.ranges.tile.spanned_of_total ?_ (Nat.zero_le i) hi
      exact h.ranges.bytes.symm.trans hfull
    obtain ⟨part, hpart, hhas⟩ := (h.cover i).mp hcover
    obtain ⟨k, hk, hget⟩ := List.getElem_of_mem hpart
    refine ⟨k, part, by rw [List.getElem?_eq_getElem hk, hget], hhas, ?_, ?_⟩
    · rw [List.getElem?_map, h.written part hpart i hhas] at hbyte
      cases hpayload : part.payload[i - part.start]? with
      | none => simp [hpayload] at hbyte
      | some value => simpa [hpayload] using hbyte
    · -- two fragments with the byte would not be apart
      intro k' part' hk' hhas'
      obtain ⟨hlt', rfl⟩ := List.getElem?_eq_some_iff.mp hk'
      subst hget
      rcases Nat.lt_trichotomy k k' with hlt | heq | hgt
      · exact absurd hhas' (List.pairwise_iff_getElem.mp h.apart k k' hk hlt' hlt i hhas)
      · exact heq.symm
      · exact absurd hhas (List.pairwise_iff_getElem.mp h.apart k' k hlt' hk hgt i hhas')

/-- What a fragment does to the manager of a history, whatever it says it is: it is copied
inside the buffer of its message, a completed message has one writer for every byte, and a
fragment that is refused or overlaps a received range changes nothing. -/
structure FragmentHandled (env : TransportEnv) (history : FragmentHistory) (call : FragmentCall) :
    Prop where
  copied : (call.process env history.io history.manager).1.stored = true →
    ∃ base buffer, FragmentOpened history.manager call base buffer ∧
      buffer.data.length = buffer.bufferSize ∧
      call.start + call.payload.length ≤ buffer.data.length
  completed : (call.process env history.io history.manager).1.error = .ok →
    ∃ data, (call.process env history.io history.manager).1.complete = some data ∧
      AssembledFrom (history.collected call.key ++ [call]) call data
  refused : (call.process env history.io history.manager).1.stored = false →
    (call.process env history.io history.manager).2.1 = history.manager
  overlap : ∀ buffer, fragmentFindReassemblyBuffer history.manager call.key = some buffer →
    (∃ i, call.Has i ∧ RangesCover buffer.receivedRanges i) →
    (call.process env history.io history.manager).1.stored = false

/-- A fragment given to a manager with sound buffers. -/
theorem FragmentSound.handled {env : TransportEnv} {history : FragmentHistory}
    (h : FragmentSound history) (call : FragmentCall) : FragmentHandled env history call := by
  have hcopy : ∀ base buffer ranges, FragmentOpened history.manager call base buffer →
      FragmentFits buffer call ranges → buffer.data.length = buffer.bufferSize ∧
        call.start + call.payload.length ≤ buffer.data.length := by
    intro base buffer ranges hopened hfits
    have hlength := (h.opened hopened).1.ranges.length
    exact ⟨hlength, by rw [hlength, hfits.size]; exact hfits.valid.fits⟩
  have hover : ∀ base buffer ranges, FragmentOpened history.manager call base buffer →
      FragmentFits buffer call ranges → ∀ found,
      fragmentFindReassemblyBuffer history.manager call.key = some found →
      ¬ ∃ i, call.Has i ∧ RangesCover found.receivedRanges i := by
    rintro base buffer ranges hopened hfits found hfound ⟨i, hhas, hcovered⟩
    have hranges := (h.opened hopened).1.ranges
    -- the buffer was there, or it is new
    cases hopened with
    | found _ hfind =>
      cases hfind.symm.trans hfound
      exact (fragmentInsertReceivedRange_ok hfits.insert hranges.tile
        (hfits.size ▸ hfits.valid.fits)).2.2.2 i hcovered hhas
    | created hnone =>
      rw [hfound] at hnone
      cases hnone
  have hcases := xglFragmentProcessExt_cases env history.io history.manager call
  refine ⟨?_, ?_, ?_, ?_⟩ <;> revert hcases <;>
    generalize (call.process env history.io history.manager).2.1 = after <;>
    generalize (call.process env history.io history.manager).1 = result <;> intro hcases
  · intro hstored
    -- what can become of the fragment
    cases hcases with
    | invalid => cases hstored
    | noBuffer => cases hstored
    | mismatch => cases hstored
    | notInserted => cases hstored
    | waiting base buffer ranges time hopened hfits =>
      exact ⟨base, buffer, hopened, hcopy base buffer ranges hopened hfits⟩
    | completed base buffer ranges time hopened hfits =>
      exact ⟨base, buffer, hopened, hcopy base buffer ranges hopened hfits⟩
  · intro hok
    cases hcases with
    | invalid err herr => exact absurd hok herr
    | noBuffer err herr => exact absurd hok herr
    | mismatch => cases hok
    | notInserted buffer err hfind herr =>
      exact absurd hok (fragmentInsertReceivedRange_error herr)
    | waiting => cases hok
    | completed base buffer ranges time hopened hfits hfull =>
      have hsound := (h.opened hopened).1.store hfits hopened.find.2 time
      exact ⟨_, rfl, hsound.assembled hfull hopened.find.2 hfits.size hfits.dataType⟩
  · intro hstored
    cases hcases with
    | invalid => rfl
    | noBuffer => rfl
    | mismatch => rfl
    | notInserted => rfl
    | waiting => cases hstored
    | completed => cases hstored
  · intro found hfound hcovered
    cases hcases with
    | invalid => rfl
    | noBuffer => rfl
    | mismatch => rfl
    | notInserted => rfl
    | waiting base buffer ranges time hopened hfits =>
      exact absurd hcovered (hover base buffer ranges hopened hfits found hfound)
    | completed base buffer ranges time hopened hfits =>
      exact absurd hcovered (hover base buffer ranges hopened hfits found hfound)

/-- For every history of a new manager the received ranges of every buffer are sound, and
whatever fragment comes next is copied inside its buffer, completes a message only when each
byte of it has exactly one accepted fragment of the same key, length and type, and changes
nothing when it is refused or overlaps what was received. -/
theorem hostile_fragments (env : TransportEnv) (io : TransportIo) (maxReassemblyBuffers : Nat)
    (reassemblyTimeoutMs : UInt32) (ops : List FragmentOp) :
    let history := ops.foldl (FragmentHistory.step env)
      { manager := xglFragmentInit maxReassemblyBuffers reassemblyTimeoutMs, io := io }
    (∀ buffer ∈ history.manager.reassemblyList, RangesSound buffer) ∧
      ∀ call, FragmentHandled env history call := by
  intro history
  have hsound : FragmentSound history := by
    refine @foldl_invariant _ _ (FragmentHistory.step env) FragmentSound
      (fun _ op h => h.step op) ops _ ⟨?_, fun _ hmem => absurd hmem List.not_mem_nil⟩
    exact ⟨rfl, Nat.zero_le _, List.nodup_nil⟩
  exact ⟨fun buffer hmem => (hsound.buffers buffer hmem).ranges, hsound.handled⟩

end XgenLink
