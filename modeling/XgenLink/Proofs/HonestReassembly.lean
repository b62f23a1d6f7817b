import Mathlib.Data.List.Induction
import Mathlib.Data.List.Infix
import Mathlib.Data.List.Nodup
import XgenLink.Proofs.HostileFragments
import XgenLink.Proofs.InOrderDelivery

/-!
# `XgenLink.Proofs.HonestReassembly`: an honest message is put together again

A sender cuts a message into fragments. They reach the manager in any order, more than once,
and between fragments of other messages. As long as the received bytes form at most sixteen
ranges, the manager answers `XGL_ERR_BUSY` until every fragment has arrived and then hands
the message out. The bound is real: a buffer has sixteen slots for ranges, and a fragment that
touches none of them is refused when all are in use.

`Holds` says that a buffer has just what has arrived. A fragment that is there already overlaps
the received ranges and is refused, and a new one is copied to its place, so the buffer has every
fragment once. The buffer is full when the last fragment comes, and then it is taken off the list:
from there on the message would be collected anew, which is why the statement is about the answers
up to the last fragment.

* `HonestMessage`, `IsPiece`: a message, its fragments, and the calls that bring them.
* `length_le_maximalRanges`: the ranges of a buffer are few when those of the arrived bytes are.
* `Holds.full_iff`: the buffer is full when every fragment has arrived.
* `Collecting.other`, `Collecting.own`: what a fragment of another message, and one of this
  message, does.
* `HonestMessage.collecting_run`: the manager along the arrivals.
* `honest_reassembly`: the answers along every order of arrival.
-/

set_option autoImplicit false

namespace XgenLink

/-! ### The frame of one fragment -/

/-- Processing a fragment leaves the buffers of other messages as they are. -/
theorem FragmentProcessed.frame {env : TransportEnv} {manager after : FragmentManager}
    {call : FragmentCall} {result : FragmentResult}
    (h : FragmentProcessed env manager call result after) :
    (after.reassemblyList.filter fun other => other.key != call.key)
      = manager.reassemblyList.filter fun other => other.key != call.key := by
  -- the buffer of the fragment is filtered out, with or without its bytes
  have hsame : ∀ base buffer, FragmentOpened manager call base buffer →
      ((unlinkBuffer buffer.key base.reassemblyList).filter fun other => other.key != call.key)
          = manager.reassemblyList.filter (fun other => other.key != call.key) ∧
        ∀ new : ReassemblyBuffer, new.key = buffer.key →
          ((putBuffer new base.reassemblyList).filter fun other => other.key != call.key)
            = manager.reassemblyList.filter fun other => other.key != call.key := by
    intro base buffer hopened
    have hbase : (base.reassemblyList.filter fun other => other.key != call.key)
        = manager.reassemblyList.filter fun other => other.key != call.key := by
      cases hopened with
      | found => rfl
      | created =>
        rw [List.filter_append, List.filter_cons, if_neg (by simp [freshBuffer,
          ReassemblyBuffer.key]), List.filter_nil, List.append_nil]
    obtain ⟨hfind, hbuffer⟩ := hopened.find
    obtain ⟨front, back, hsplit, hunlink, hput⟩ := findBuffer_split hfind
    rw [hsplit, List.filter_append, List.filter_cons, if_neg (by simp [hbuffer])] at hbase
    refine ⟨by rw [hunlink, List.filter_append, hbase], fun new hnew => ?_⟩
    rw [hput new hnew, List.filter_append, List.filter_cons, if_neg (by simp [hnew, hbuffer]),
      hbase]
  cases h with
  | invalid => rfl
  | noBuffer => rfl
  | mismatch => rfl
  | notInserted => rfl
  | waiting base buffer ranges time hopened => exact (hsame base buffer hopened).2 _ rfl
  | completed base buffer ranges time hopened => exact (hsame base buffer hopened).1

/-! ### Messages and their fragments -/

/-- A message cut into fragments, none of them empty. -/
structure HonestMessage where
  key : MessageKey
  dataType : UInt8
  chunks : List Bytes
  filled : ∀ chunk ∈ chunks, chunk ≠ []
  fits : chunks.flatten.length < 2 ^ 32

namespace HonestMessage

/-- The message. -/
def bytes (m : HonestMessage) : Bytes := m.chunks.flatten

/-- Where fragment `k` starts. -/
def offset (m : HonestMessage) (k : Nat) : Nat := (m.chunks.take k).flatten.length

/-- Fragment `k`, as it is given to the manager at some time. -/
def piece (m : HonestMessage) (k : Nat) (currentTimeMs : UInt32) : FragmentCall where
  key := m.key
  dataType := m.dataType
  fragmentOffset := UInt32.ofNat (m.offset k)
  messageLen := UInt32.ofNat m.bytes.length
  payload := (m.chunks[k]?).getD []
  currentTimeMs := currentTimeMs

/-- The call brings fragment `k`. -/
def IsPiece (m : HonestMessage) (k : Nat) (call : FragmentCall) : Prop :=
  k < m.chunks.length ∧ call = m.piece k call.currentTimeMs

/-- Whatever arrives under the key of the message is one of its fragments. -/
def Honest (m : HonestMessage) (calls : List FragmentCall) : Prop :=
  ∀ call ∈ calls, call.key = m.key → ∃ k, m.IsPiece k call

/-- Every fragment has arrived. -/
def Whole (m : HonestMessage) (calls : List FragmentCall) : Prop :=
  ∀ k, k < m.chunks.length → ∃ call ∈ calls, m.IsPiece k call

/-- Byte `i` of the message has arrived. -/
def received (m : HonestMessage) (calls : List FragmentCall) (i : Nat) : Bool :=
  calls.any fun call => call.key == m.key && decide (call.start ≤ i) && decide (i < call.stop)

/-- The number of maximal ranges of received bytes: each has one byte whose predecessor has
not arrived. -/
def maximalRanges (m : HonestMessage) (calls : List FragmentCall) : Nat :=
  ((List.range m.bytes.length).filter fun i =>
    m.received calls i && (i == 0 || !m.received calls (i - 1))).length

/-- The buffers of the message in a manager. -/
def own (m : HonestMessage) (manager : FragmentManager) : List ReassemblyBuffer :=
  manager.reassemblyList.filter fun buffer => buffer.key == m.key

section Pieces

variable {m : HonestMessage} {k j : Nat} {call other : FragmentCall} {calls : List FragmentCall}

/-- The next fragment starts where this one ends. -/
theorem offset_succ (hk : k < m.chunks.length) :
    m.offset (k + 1) = m.offset k + (m.chunks[k]).length := by
  rw [offset, offset, ← List.take_append_getElem hk, List.flatten_append, List.length_append,
    List.flatten_singleton]

/-- A fragment starts inside the message or at its end. -/
theorem offset_le_length (m : HonestMessage) (k : Nat) : m.offset k ≤ m.bytes.length := by
  have hsplit := congrArg (fun chunks => (List.flatten chunks).length)
    (List.take_append_drop k m.chunks)
  simp only [List.flatten_append, List.length_append] at hsplit
  rw [offset, bytes]
  omega

/-- Fragments start in their order. -/
theorem offset_mono (hkj : k ≤ j) : m.offset k ≤ m.offset j := by
  induction j, hkj using Nat.le_induction with
  | base => exact Nat.le_refl _
  | succ j hkj ih =>
    by_cases hj : j < m.chunks.length
    · rw [offset_succ hj]
      omega
    · rw [offset, offset, List.take_of_length_le (by omega : m.chunks.length ≤ j + 1)]
      rw [offset, offset, List.take_of_length_le (by omega : m.chunks.length ≤ j)] at ih
      exact ih

/-- Every byte of the message is in a fragment. -/
theorem exists_offset {i : Nat} (hi : i < m.offset j) :
    ∃ k, k < m.chunks.length ∧ m.offset k ≤ i ∧ i < m.offset (k + 1) := by
  induction j with
  | zero => simp [offset] at hi
  | succ j ih =>
    by_cases hlow : i < m.offset j
    · exact ih hlow
    · by_cases hj : j < m.chunks.length
      · exact ⟨j, hj, by omega, hi⟩
      · -- behind the last fragment nothing is added
        rw [offset, List.take_of_length_le (by omega)] at hi
        rw [offset, List.take_of_length_le (by omega)] at hlow
        exact absurd hi hlow

/-- The range of a fragment and its bytes. -/
theorem IsPiece.range (h : m.IsPiece k call) :
    call.start = m.offset k ∧ call.stop = m.offset (k + 1) ∧ call.start < call.stop ∧
      m.chunks[k]? = some call.payload := by
  obtain ⟨hk, hcall⟩ := h
  have hle := m.offset_le_length k
  have hfits : m.bytes.length < 4294967296 := m.fits
  have hchunk : call.payload = m.chunks[k] := by
    rw [hcall, piece, List.getElem?_eq_getElem hk, Option.getD_some]
  have hstart : call.start = m.offset k := by
    rw [FragmentCall.start, hcall, piece]
    exact UInt32.toNat_ofNat_of_lt' (Nat.lt_of_le_of_lt hle hfits)
  have hstop : call.stop = call.start + call.payload.length := rfl
  have hpos : 0 < call.payload.length := by
    rw [hchunk]
    exact List.length_pos_iff.mpr (m.filled _ (List.getElem_mem hk))
  refine ⟨hstart, ?_, by omega, ?_⟩
  · rw [hstop, hstart, hchunk, offset_succ hk]
  · rw [hchunk, List.getElem?_eq_getElem hk]

/-- Key, type and length of a fragment are those of the message. -/
theorem IsPiece.same (h : m.IsPiece k call) :
    call.key = m.key ∧ call.dataType = m.dataType ∧ call.messageLen.toNat = m.bytes.length := by
  obtain ⟨_, hcall⟩ := h
  rw [hcall]
  exact ⟨rfl, rfl, UInt32.toNat_ofNat_of_lt' m.fits⟩

/-- A fragment lies in the message. -/
theorem IsPiece.valid (h : m.IsPiece k call) : call.Valid := by
  obtain ⟨_, hstop, hlt, _⟩ := h.range
  refine ⟨hlt, ?_⟩
  rw [h.same.2.2, hstop]
  exact m.offset_le_length (k + 1)

/-- The bytes of a fragment are those of the message at its place. -/
theorem IsPiece.payload (h : m.IsPiece k call) {i : Nat} (hi : call.Has i) :
    m.bytes[i]? = call.payload[i - call.start]? := by
  obtain ⟨hstart, _, _, hchunk⟩ := h.range
  obtain ⟨hk, hget⟩ := List.getElem?_eq_some_iff.mp hchunk
  have hlow : (m.chunks.take k).flatten.length ≤ i := by
    have := hi.1
    rw [hstart] at this
    exact this
  have hhigh : i - (m.chunks.take k).flatten.length < call.payload.length := by
    have hup : i < call.start + call.payload.length := hi.2
    have hlen : call.start = (m.chunks.take k).flatten.length := hstart
    omega
  have hsplit : m.bytes = (m.chunks.take k).flatten ++ (call.payload ++
      (m.chunks.drop (k + 1)).flatten) := by
    rw [bytes, ← hget]
    conv_lhs => rw [← List.take_append_drop k m.chunks, List.drop_eq_getElem_cons hk]
    rw [List.flatten_append, List.flatten_cons]
  rw [hsplit, List.getElem?_append_right hlow, List.getElem?_append_left hhigh, hstart]
  rfl

/-- Fragments that have a byte in common are the same fragment. -/
theorem IsPiece.unique (h : m.IsPiece k call) (hother : m.IsPiece j other) {i : Nat}
    (hi : call.Has i) (hi' : other.Has i) : k = j := by
  obtain ⟨hstart, hstop, _⟩ := h.range
  obtain ⟨hstart', hstop', _⟩ := hother.range
  obtain ⟨hlow, hhigh⟩ := hi
  obtain ⟨hlow', hhigh'⟩ := hi'
  rcases Nat.lt_trichotomy k j with hlt | heq | hgt
  · have := @offset_mono m (k + 1) j hlt
    omega
  · exact heq
  · have := @offset_mono m (j + 1) k hgt
    omega

/-- Two calls that bring the same fragment. -/
theorem IsPiece.has_iff (h : m.IsPiece k call) (hother : m.IsPiece k other) (i : Nat) :
    call.Has i ↔ other.Has i := by
  obtain ⟨hstart, hstop, _⟩ := h.range
  obtain ⟨hstart', hstop', _⟩ := hother.range
  rw [FragmentCall.Has, FragmentCall.Has, hstart, hstop, hstart', hstop']

/-- A byte has arrived with one of the calls. -/
theorem received_iff {i : Nat} :
    m.received calls i = true ↔ ∃ call ∈ calls, call.key = m.key ∧ call.Has i := by
  simp only [received, List.any_eq_true, Bool.and_eq_true, beq_iff_eq, decide_eq_true_eq,
    FragmentCall.Has, and_assoc]

/-- Ranges that do not touch are at most as many as the maximal ranges of their bytes. -/
theorem length_le_maximalRanges {ranges : List ReceivedRange}
    (htile : RangesTile m.bytes.length ranges) (hapart : RangesApart ranges)
    (hcover : ∀ i, RangesCover ranges i ↔ m.received calls i = true) :
    ranges.length ≤ m.maximalRanges calls := by
  have hnodup : (ranges.map ReceivedRange.start).Nodup := by
    rw [List.Nodup, List.pairwise_map]
    refine List.Pairwise.imp_of_mem (fun {a b} ha _ hab => ?_) hapart
    have := (htile.mem ha).2.1
    omega
  have heither : ∀ a ∈ ranges, ∀ b ∈ ranges, a ≠ b → a.stop < b.start ∨ b.stop < a.start := by
    intro a ha b hb hne
    obtain ⟨x, hx, rfl⟩ := List.getElem_of_mem ha
    obtain ⟨y, hy, rfl⟩ := List.getElem_of_mem hb
    rcases Nat.lt_trichotomy x y with hlt | rfl | hgt
    · exact .inl (List.pairwise_iff_getElem.mp hapart x y hx hy hlt)
    · exact absurd rfl hne
    · exact .inr (List.pairwise_iff_getElem.mp hapart y x hy hx hgt)
  rw [maximalRanges, ← @List.length_map _ _ ranges ReceivedRange.start]
  refine hnodup.length_le_of_subset fun i hi => ?_
  obtain ⟨r, hr, rfl⟩ := List.mem_map.mp hi
  obtain ⟨_, hlt, hsize⟩ := htile.mem hr
  rw [List.mem_filter, List.mem_range]
  refine ⟨by omega, ?_⟩
  -- a range starts behind a byte that no range has
  have hfirst : r.start = 0 ∨ m.received calls (r.start - 1) = false := by
    by_contra hno
    simp only [not_or, Bool.not_eq_false] at hno
    obtain ⟨b, hb, hlow, hhigh⟩ := (hcover _).mpr hno.2
    rcases heither r hr b hb (by rintro rfl; omega) with hleft | hright <;> omega
  simp only [Bool.and_eq_true, Bool.or_eq_true, beq_iff_eq, Bool.not_eq_eq_eq_not, Bool.not_true]
  exact ⟨(hcover _).mp ⟨r, hr, Nat.le_refl _, hlt⟩, hfirst⟩

end Pieces

/-! ### What a buffer of the message holds -/

/-- The buffer has the fragments that have arrived, each of them once. -/
structure Holds (m : HonestMessage) (calls parts : List FragmentCall) (buffer : ReassemblyBuffer) :
    Prop where
  sound : BufferSound parts buffer
  key : buffer.key = m.key
  dataType : buffer.dataType = m.dataType
  size : buffer.bufferSize = m.bytes.length
  arrived : ∀ part ∈ parts, part ∈ calls
  stored : ∀ call ∈ calls, call.key = m.key → ∃ part ∈ parts, ∀ i, part.Has i ↔ call.Has i

section Holding

variable {m : HonestMessage} {k : Nat} {call : FragmentCall} {calls parts : List FragmentCall}
  {buffer : ReassemblyBuffer} {ranges : List ReceivedRange}

/-- The received ranges are the bytes that have arrived. -/
theorem Holds.cover (h : m.Holds calls parts buffer) (i : Nat) :
    RangesCover buffer.receivedRanges i ↔ m.received calls i = true := by
  rw [h.sound.cover i, received_iff]
  constructor
  · rintro ⟨part, hpart, hi⟩
    exact ⟨part, h.arrived part hpart, (h.sound.same part hpart).1.trans h.key, hi⟩
  · rintro ⟨call, hcall, hkey, hi⟩
    obtain ⟨part, hpart, hsame⟩ := h.stored call hcall hkey
    exact ⟨part, hpart, (hsame i).mpr hi⟩

/-- The buffer is full when every fragment has arrived. -/
theorem Holds.full_iff (h : m.Holds calls parts buffer) (hhonest : m.Honest calls) :
    buffer.receivedBytes = buffer.bufferSize ↔ m.Whole calls := by
  rw [h.sound.ranges.bytes]
  constructor
  · intro hfull k hk
    -- the first byte of the fragment has arrived, and only with the fragment
    have hpiece : m.IsPiece k (m.piece k 0) := ⟨hk, rfl⟩
    have hin : (m.piece k 0).start < buffer.bufferSize := by
      have hfits := hpiece.valid.fits
      have hfilled := hpiece.valid.filled
      rw [hpiece.same.2.2] at hfits
      rw [h.size]
      omega
    have hcovered := h.sound.ranges.tile.spanned_of_total hfull (Nat.zero_le _) hin
    obtain ⟨call, hcall, hkey, hi⟩ := received_iff.mp ((h.cover _).mp hcovered)
    obtain ⟨j, hj⟩ := hhonest call hcall hkey
    have heq : k = j := hpiece.unique hj ⟨Nat.le_refl _, hpiece.valid.filled⟩ hi
    exact ⟨call, hcall, heq ▸ hj⟩
  · intro hwhole
    refine h.sound.ranges.tile.total_of_spanned fun i _ hi => (h.cover i).mpr ?_
    have hend : m.offset m.chunks.length = m.bytes.length := by
      rw [offset, List.take_length, bytes]
    rw [h.size, ← hend] at hi
    obtain ⟨k, hk, hlow, hhigh⟩ := exists_offset hi
    obtain ⟨call, hcall, hpiece⟩ := hwhole k hk
    obtain ⟨hstart, hstop, _⟩ := hpiece.range
    exact received_iff.mpr ⟨call, hcall, hpiece.same.1, by rw [FragmentCall.Has]; omega⟩

/-- A full buffer is the message. -/
theorem Holds.bytes (h : m.Holds calls parts buffer) (hhonest : m.Honest calls)
    (hfull : buffer.receivedBytes = buffer.bufferSize) :
    (buffer.data.map fun byte => byte.getD 0) = m.bytes := by
  have hsize := h.size
  have hlength := h.sound.ranges.length
  refine List.ext_getElem? fun i => ?_
  by_cases hi : i < m.bytes.length
  · have hcovered := h.sound.ranges.tile.spanned_of_total
      (h.sound.ranges.bytes.symm.trans hfull) (Nat.zero_le i) (hsize ▸ hi)
    obtain ⟨part, hpart, hhas⟩ := (h.sound.cover i).mp hcovered
    obtain ⟨k, hk⟩ := hhonest part (h.arrived part hpart)
      ((h.sound.same part hpart).1.trans h.key)
    rw [List.getElem?_map, h.sound.written part hpart i hhas, ← hk.payload hhas,
      List.getElem?_eq_getElem hi]
    rfl
  · rw [List.getElem?_eq_none (by rw [List.length_map]; omega), List.getElem?_eq_none (by omega)]

/-- A new buffer, when no fragment has arrived. -/
theorem Holds.fresh (manager : FragmentManager) (hpiece : m.IsPiece k call)
    (hnone : ∀ call ∈ calls, call.key ≠ m.key) :
    m.Holds calls [] (freshBuffer manager call.key call.dataType call.messageLen) where
  sound := .fresh _ _ _ _
  key := hpiece.same.1
  dataType := hpiece.same.2.1
  size := hpiece.same.2.2
  arrived := fun _ hpart => absurd hpart List.not_mem_nil
  stored := fun call hcall hkey => absurd hkey (hnone call hcall)

/-- The next call, when the buffer has what it brings. -/
theorem Holds.append (h : m.Holds calls parts buffer)
    (hcall : call.key = m.key → ∃ part ∈ parts, ∀ i, part.Has i ↔ call.Has i) :
    m.Holds (calls ++ [call]) parts buffer where
  sound := h.sound
  key := h.key
  dataType := h.dataType
  size := h.size
  arrived := fun part hpart => List.mem_append_left _ (h.arrived part hpart)
  stored := fun other hother hkey => by
    rcases List.mem_append.mp hother with hother | hother
    · exact h.stored other hother hkey
    · rw [List.mem_singleton.mp hother] at hkey ⊢
      exact hcall hkey

/-- The next call, when the buffer takes it. -/
theorem Holds.store (h : m.Holds calls parts buffer) (hfits : FragmentFits buffer call ranges)
    (hkey : buffer.key = call.key) (time : UInt32) :
    m.Holds (calls ++ [call]) (parts ++ [call]) (filledBuffer buffer call ranges time) where
  sound := h.sound.store hfits hkey time
  key := h.key
  dataType := h.dataType
  size := h.size
  arrived := fun part hpart => by
    rcases List.mem_append.mp hpart with hpart | hpart
    · exact List.mem_append_left _ (h.arrived part hpart)
    · exact List.mem_append_right _ hpart
  stored := fun other hother hother' => by
    rcases List.mem_append.mp hother with hother | hother
    · obtain ⟨part, hpart, hsame⟩ := h.stored other hother hother'
      exact ⟨part, List.mem_append_left _ hpart, hsame⟩
    · exact ⟨other, List.mem_append_right _ hother, fun _ => Iff.rfl⟩

/-- A fragment is refused only when it has arrived before, as long as the received bytes form
at most sixteen ranges. -/
theorem Holds.refused (h : m.Holds calls parts buffer) (hhonest : m.Honest calls)
    (hpiece : m.IsPiece k call) {err : XglError}
    (herr : fragmentInsertReceivedRange buffer.receivedRanges call.start call.stop = .error err)
    (hranges : m.maximalRanges (calls ++ [call]) ≤ XGL_FRAGMENT_MAX_RECEIVED_RANGES) :
    err = .busy ∧ ∃ part ∈ parts, ∀ i, part.Has i ↔ call.Has i := by
  have hsize : call.stop ≤ buffer.bufferSize := by
    rw [h.size, ← hpiece.same.2.2]
    exact hpiece.valid.fits
  rcases fragmentInsertReceivedRange_refused herr hpiece.valid.filled hsize h.sound.ranges.tile
    h.sound.ranges.apart with ⟨hbusy, i, hcovered, hin⟩ | ⟨_, out, hlong, htile, hapart, hcover⟩
  · obtain ⟨part, hpart, hhas⟩ := (h.sound.cover i).mp hcovered
    obtain ⟨j, hj⟩ := hhonest part (h.arrived part hpart)
      ((h.sound.same part hpart).1.trans h.key)
    have heq : j = k := hj.unique hpiece hhas hin
    exact ⟨hbusy, part, hpart, (heq ▸ hj).has_iff hpiece⟩
  · -- one more range would be a seventeenth
    have hreceived : ∀ i, RangesCover out i ↔ m.received (calls ++ [call]) i = true := by
      intro i
      rw [hcover i, h.cover i, received_iff, received_iff]
      simp only [List.mem_append, List.mem_singleton, or_and_right, exists_or, exists_eq_left,
        hpiece.same.1, true_and, FragmentCall.Has]
    have hcount := length_le_maximalRanges (h.size ▸ htile) hapart hreceived
    omega

end Holding

/-! ### Arrivals -/

/-- While fragments are missing, the manager has no buffer of the message, or one that holds
what has arrived. -/
inductive Collecting (m : HonestMessage) (calls : List FragmentCall) (manager : FragmentManager) :
    Prop where
  | idle (hnone : ∀ call ∈ calls, call.key ≠ m.key) (hown : m.own manager = [])
  | started (buffer : ReassemblyBuffer) (parts : List FragmentCall)
      (hown : m.own manager = [buffer]) (hholds : m.Holds calls parts buffer)
      (hpart : buffer.receivedBytes ≠ buffer.bufferSize)

section Arrivals

variable {m : HonestMessage} {k : Nat} {call : FragmentCall} {calls parts : List FragmentCall}
  {env : TransportEnv} {manager base after : FragmentManager} {result : FragmentResult}
  {buffer : ReassemblyBuffer} {ranges : List ReceivedRange}

/-- A lookup finds the buffer of the message. -/
theorem find_of_own (hkey : call.key = m.key) :
    fragmentFindReassemblyBuffer manager call.key = (m.own manager).head? := by
  rw [fragmentFindReassemblyBuffer, hkey, own, List.head?_filter]

/-- The buffer a fragment of the message goes into is the only one of the message. -/
theorem own_opened (hopened : FragmentOpened manager call base buffer) (hkey : call.key = m.key)
    (hown : m.own manager = [] ∨ m.own manager = [buffer]) : m.own base = [buffer] := by
  cases hopened with
  | found _ hfind =>
    rw [find_of_own hkey] at hfind
    rcases hown with hown | hown
    · rw [hown] at hfind
      cases hfind
    · exact hown
  | created hnone =>
    rw [find_of_own hkey, List.head?_eq_none_iff] at hnone
    rw [own] at hnone ⊢
    have hfresh : ((freshBuffer manager call.key call.dataType call.messageLen).key == m.key)
        = true := beq_iff_eq.mpr hkey
    rw [List.filter_append, hnone, List.nil_append, List.filter_cons, if_pos hfresh,
      List.filter_nil]

/-- The buffer of the message is written, or taken off the list. -/
theorem own_split (hopened : FragmentOpened manager call base buffer) (hkey : call.key = m.key)
    (hown : m.own base = [buffer]) :
    (unlinkBuffer buffer.key base.reassemblyList).filter (fun other => other.key == m.key) = [] ∧
      ∀ new : ReassemblyBuffer, new.key = buffer.key →
        (putBuffer new base.reassemblyList).filter (fun other => other.key == m.key) = [new] := by
  obtain ⟨hfind, hbuffer⟩ := hopened.find
  obtain ⟨front, back, hsplit, hunlink, hput⟩ := findBuffer_split hfind
  have hbufferKey : (buffer.key == m.key) = true := by simpa using hbuffer.trans hkey
  rw [own, hsplit, List.filter_append, List.filter_cons, if_pos hbufferKey,
    List.append_eq_singleton_iff] at hown
  obtain ⟨hfront, hback⟩ | ⟨_, hback⟩ := hown
  · have hback : back.filter (fun other => other.key == m.key) = [] := (List.cons.inj hback).2
    refine ⟨by rw [hunlink, List.filter_append, hfront, hback]; rfl, fun new hnew => ?_⟩
    rw [hput new hnew, List.filter_append, List.filter_cons, if_pos (by rw [hnew, hbufferKey]),
      hfront, hback]
    rfl
  · cases hback

/-- A fragment of another message. -/
theorem Collecting.other (h : m.Collecting calls manager)
    (hprocessed : FragmentProcessed env manager call result after) (hkey : call.key ≠ m.key) :
    m.Collecting (calls ++ [call]) after := by
  have hown : m.own after = m.own manager := by
    -- the buffers of the message are among those with another key than the fragment
    have hframe := congrArg (List.filter fun other => other.key == m.key) hprocessed.frame
    have hamong : ∀ other : ReassemblyBuffer, (other.key == m.key && other.key != call.key)
        = (other.key == m.key) := by
      intro other
      by_cases hother : other.key = m.key
      · simp [hother, Ne.symm hkey]
      · simp [hother]
    simpa only [List.filter_filter, hamong, HonestMessage.own] using hframe
  cases h with
  | idle hnone hnoOwn =>
    refine .idle (fun other hother => ?_) (hown.trans hnoOwn)
    rcases List.mem_append.mp hother with hother | hother
    · exact hnone other hother
    · rw [List.mem_singleton.mp hother]
      exact hkey
  | started buffer parts hone hholds hpart =>
    exact .started buffer parts (hown.trans hone) (hholds.append fun heq => absurd heq hkey) hpart

/-- A fragment of the message: the manager waits for more, or the message is complete. -/
theorem Collecting.own (h : m.Collecting calls manager) (hhonest : m.Honest (calls ++ [call]))
    (hpiece : m.IsPiece k call) (hprocessed : FragmentProcessed env manager call result after)
    (halloc : ∀ n, env.allocOk n = true)
    (hroom : fragmentFindReassemblyBuffer manager m.key = none → RoomFor manager call.messageLen)
    (hranges : m.maximalRanges (calls ++ [call]) ≤ XGL_FRAGMENT_MAX_RECEIVED_RANGES) :
    (¬ m.Whole (calls ++ [call]) ∧ result.error = .busy ∧ result.complete = none ∧
        m.Collecting (calls ++ [call]) after) ∨
      (m.Whole (calls ++ [call]) ∧ result.error = .ok ∧ result.complete = some m.bytes ∧
        m.own after = []) := by
  have hkey := hpiece.same.1
  have hbefore : m.Honest calls := fun other hother =>
    hhonest other (List.mem_append_left _ hother)
  -- the buffer of the fragment, old or new, holds what has arrived
  have hopens : ∀ base buffer, FragmentOpened manager call base buffer →
      m.own base = [buffer] ∧ ∃ parts, m.Holds calls parts buffer := by
    intro base buffer hopened
    -- the buffer has what arrived before: it is the one of the message, or it is new
    cases h with
    | idle hnone hown =>
      refine ⟨own_opened hopened hkey (.inl hown), [], ?_⟩
      cases hopened with
      | found _ hfind =>
        rw [find_of_own hkey, hown] at hfind
        cases hfind
      | created => exact .fresh manager hpiece hnone
    | started first parts hown hholds =>
      cases hopened with
      | found _ hfind =>
        rw [find_of_own hkey, hown] at hfind
        cases hfind
        exact ⟨hown, parts, hholds⟩
      | created hnone =>
        rw [find_of_own hkey, hown] at hnone
        cases hnone
  -- the call was refused, or it is stored, or it completes the message
  cases hprocessed with
  | invalid err herr hinvalid => exact absurd hpiece.valid hinvalid
  | noBuffer err herr hnone hwhy =>
    rcases hwhy (hroom (hkey ▸ hnone)) with hzero | ⟨n, hfails⟩
    · have hfits := hpiece.valid.fits
      have hfilled := hpiece.valid.filled
      rw [hzero, UInt32.toNat_zero] at hfits
      omega
    · rw [halloc n] at hfails
      cases hfails
  | mismatch buffer hfind hdiffers =>
    obtain ⟨_, parts, hholds⟩ := hopens _ _ (.found buffer hfind)
    obtain ⟨_, htype, hlength⟩ := hpiece.same
    rcases hdiffers with hdiffers | hdiffers
    · exact absurd (hholds.dataType.trans htype.symm) hdiffers
    · exact absurd (hholds.size.trans hlength.symm) hdiffers
  | notInserted buffer err hfind herr =>
    -- the fragment was here before
    cases h with
    | idle _ hown =>
      rw [find_of_own hkey, hown] at hfind
      cases hfind
    | started first parts hown hholds hpart =>
      rw [find_of_own hkey, hown] at hfind
      cases hfind
      obtain ⟨rfl, hsame⟩ := hholds.refused hbefore hpiece herr hranges
      have hagain := hholds.append fun _ => hsame
      exact .inl ⟨fun hwhole => hpart ((hagain.full_iff hhonest).mpr hwhole), rfl, rfl,
        .started buffer parts hown hagain hpart⟩
  | waiting base buffer ranges time hopened hfits hpart =>
    obtain ⟨hown, parts, hholds⟩ := hopens base buffer hopened
    have hmore := hholds.store hfits hopened.find.2 time
    exact .inl ⟨fun hwhole => hpart ((hmore.full_iff hhonest).mpr hwhole), rfl, rfl,
      .started _ _ ((own_split hopened hkey hown).2 _ rfl) hmore hpart⟩
  | completed base buffer ranges time hopened hfits hfull =>
    obtain ⟨hown, parts, hholds⟩ := hopens base buffer hopened
    have hmore := hholds.store hfits hopened.find.2 time
    exact .inr ⟨(hmore.full_iff hhonest).mp hfull, rfl,
      congrArg some (hmore.bytes hhonest hfull), (own_split hopened hkey hown).1⟩

end Arrivals

end HonestMessage

/-- One fragment after the other. -/
def fragmentCallStep (env : TransportEnv) (state : FragmentManager × TransportIo)
    (call : FragmentCall) : FragmentManager × TransportIo :=
  (call.process env state.2 state.1).2

/-- The first fragment of the message finds room for it. -/
def RoomAtFirst (m : HonestMessage) (state : FragmentManager × TransportIo) (call : FragmentCall) :
    Prop :=
  call.key = m.key → fragmentFindReassemblyBuffer state.1 m.key = none →
    RoomFor state.1 call.messageLen

section Runs

variable {m : HonestMessage} {env : TransportEnv} {start : FragmentManager × TransportIo}

/-- The manager along the arrivals, while fragments are missing. -/
theorem HonestMessage.collecting_run (halloc : ∀ n, env.allocOk n = true)
    (hnone : fragmentFindReassemblyBuffer start.1 m.key = none) (calls : List FragmentCall)
    (hhonest : m.Honest calls)
    (hranges : ∀ before, before <+: calls →
      m.maximalRanges before ≤ XGL_FRAGMENT_MAX_RECEIVED_RANGES)
    (hroom : Along (fragmentCallStep env) (RoomAtFirst m) calls start) (hpart : ¬ m.Whole calls) :
    m.Collecting calls (calls.foldl (fragmentCallStep env) start).1 := by
  induction calls using List.reverseRecOn with
  | nil =>
    refine .idle (fun _ hcall => absurd hcall List.not_mem_nil) ?_
    rwa [fragmentFindReassemblyBuffer, ← List.head?_filter, List.head?_eq_none_iff] at hnone
  | append_singleton calls call ih =>
    obtain ⟨hroomBefore, hroomHere, _⟩ := along_append.mp hroom
    have hcollecting := ih (fun other hother => hhonest other (List.mem_append_left _ hother))
      (fun before hbefore => hranges before (hbefore.trans (List.prefix_append _ _)))
      hroomBefore fun hwhole => hpart fun k hk => by
        obtain ⟨other, hother, hpiece⟩ := hwhole k hk
        exact ⟨other, List.mem_append_left _ hother, hpiece⟩
    rw [List.foldl_append]
    have hprocessed := xglFragmentProcessExt_cases env
      (calls.foldl (fragmentCallStep env) start).2 (calls.foldl (fragmentCallStep env) start).1 call
    by_cases hkey : call.key = m.key
    · obtain ⟨k, hpiece⟩ := hhonest call (List.mem_append_right _ List.mem_cons_self) hkey
      rcases hcollecting.own hhonest hpiece hprocessed halloc (hroomHere hkey)
        (hranges _ (List.prefix_refl _)) with ⟨_, _, _, hnext⟩ | ⟨hwhole, _⟩
      · exact hnext
      · exact absurd hwhole hpart
    · exact hcollecting.other hprocessed hkey

end Runs

/-- For every message and every way to cut it, whatever the order and repetition in which its
fragments arrive and whatever arrives for other messages in between: while a fragment is
missing every fragment of the message is answered with `XGL_ERR_BUSY`, the last one with
`XGL_OK` and the message, whose buffer is then gone; and the buffers of other messages stay
as they are. -/
theorem honest_reassembly (m : HonestMessage) (env : TransportEnv)
    (start : FragmentManager × TransportIo) (calls : List FragmentCall) (call : FragmentCall)
    (halloc : ∀ n, env.allocOk n = true)
    (hnone : fragmentFindReassemblyBuffer start.1 m.key = none) (hkey : call.key = m.key)
    (hhonest : m.Honest (calls ++ [call])) (hpart : ¬ m.Whole calls)
    (hranges : ∀ before, before <+: calls ++ [call] →
      m.maximalRanges before ≤ XGL_FRAGMENT_MAX_RECEIVED_RANGES)
    (hroom : Along (fragmentCallStep env) (RoomAtFirst m) (calls ++ [call]) start) :
    let state := calls.foldl (fragmentCallStep env) start
    let out := call.process env state.2 state.1
    (¬ m.Whole (calls ++ [call]) → out.1.error = .busy ∧ out.1.complete = none) ∧
      (m.Whole (calls ++ [call]) → out.1.error = .ok ∧ out.1.complete = some m.bytes ∧
        fragmentFindReassemblyBuffer out.2.1 m.key = none) ∧
      (out.2.1.reassemblyList.filter fun buffer => buffer.key != m.key)
        = state.1.reassemblyList.filter fun buffer => buffer.key != m.key := by
  intro state out
  obtain ⟨hroomBefore, hroomHere, _⟩ := along_append.mp hroom
  have hcollecting := HonestMessage.collecting_run halloc hnone calls
    (fun other hother => hhonest other (List.mem_append_left _ hother))
    (fun before hbefore => hranges before (hbefore.trans (List.prefix_append _ _)))
    hroomBefore hpart
  have hprocessed := xglFragmentProcessExt_cases env state.2 state.1 call
  obtain ⟨k, hpiece⟩ := hhonest call (List.mem_append_right _ List.mem_cons_self) hkey
  have hframe := hprocessed.frame
  rw [hkey] at hframe
  rcases hcollecting.own hhonest hpiece hprocessed halloc (hroomHere hkey)
    (hranges _ (List.prefix_refl _)) with
    ⟨hmissing, hbusy, hnothing, _⟩ | ⟨hwhole, hok, hdata, hgone⟩
  · exact ⟨fun _ => ⟨hbusy, hnothing⟩, fun hwhole => absurd hwhole hmissing, hframe⟩
  · refine ⟨fun hmissing => absurd hwhole hmissing, fun _ => ⟨hok, hdata, ?_⟩, hframe⟩
    rw [fragmentFindReassemblyBuffer, ← List.head?_filter]
    exact congrArg List.head? hgone

/-- Three bytes in two fragments. -/
def shortMessage : HonestMessage where
  key := { sourceId := 7, connectionId := 1, sessionEpoch := 1, messageId := 9 }
  dataType := 3
  chunks := [[10, 11], [12]]
  filled := by decide
  fits := by decide

/-- The last fragment arrives first and twice, with a fragment of another message between. -/
def shortArrivals : List FragmentCall :=
  [shortMessage.piece 1 100,
    { key := { sourceId := 8, connectionId := 1, sessionEpoch := 1, messageId := 9 }
      dataType := 3
      fragmentOffset := 0
      messageLen := 5
      payload := [1] },
    shortMessage.piece 1 120]

/-- The two answers before the last fragment are `XGL_ERR_BUSY`, and the last call completes the
message. -/
theorem honest_reassembly_short :
    let state := shortArrivals.foldl (fragmentCallStep calmEnv) (xglFragmentInit 2 5000, {})
    ((shortMessage.piece 0 130).process calmEnv state.2 state.1).1.complete
      = some [10, 11, 12] := by
  have hpieces : ∀ call ∈ shortArrivals ++ [shortMessage.piece 0 130],
      call.key = shortMessage.key → ∃ k, shortMessage.IsPiece k call := by
    intro call hcall hkey
    simp only [shortArrivals, List.cons_append, List.nil_append, List.mem_cons, List.not_mem_nil,
      or_false] at hcall
    rcases hcall with rfl | rfl | rfl | rfl
    · exact ⟨1, by decide, rfl⟩
    · exact absurd hkey (by decide)
    · exact ⟨1, by decide, rfl⟩
    · exact ⟨0, by decide, rfl⟩
  have hranges : ∀ before ∈ (shortArrivals ++ [shortMessage.piece 0 130]).inits,
      shortMessage.maximalRanges before ≤ XGL_FRAGMENT_MAX_RECEIVED_RANGES := by decide
  have hwhole : shortMessage.Whole (shortArrivals ++ [shortMessage.piece 0 130]) := by
    intro k hk
    have hk : k < 2 := hk
    rcases (by omega : k = 0 ∨ k = 1) with rfl | rfl
    · exact ⟨_, List.mem_append_right _ List.mem_cons_self, by decide, rfl⟩
    · exact ⟨_, List.mem_append_left _ List.mem_cons_self, by decide, rfl⟩
  refine ((honest_reassembly shortMessage calmEnv (xglFragmentInit 2 5000, {}) shortArrivals
    (shortMessage.piece 0 130) (fun _ => rfl) rfl rfl hpieces ?_
    (fun before hbefore => hranges before ((List.mem_inits _ _).mpr hbefore)) ?_).2.1 hwhole).2.1
  · intro hbefore
    obtain ⟨call, hcall, hpiece⟩ := hbefore 0 (by decide)
    have hpayload : call.payload = [10, 11] := congrArg FragmentCall.payload hpiece.2
    revert hpayload
    exact (by decide : ∀ call ∈ shortArrivals, call.payload ≠ [10, 11]) call hcall
  · -- only the first fragment of the message finds no buffer
    refine ⟨fun _ _ => ⟨by decide, .inl rfl, .inl rfl⟩, fun hkey => absurd hkey (by decide),
      fun _ hnone => absurd hnone (by decide), fun _ hnone => absurd hnone (by decide), trivial⟩

end XgenLink
