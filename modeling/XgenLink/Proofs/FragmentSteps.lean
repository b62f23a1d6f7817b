import Mathlib.Data.List.TakeWhile
import XgenLink.Lib.Spans
import XgenLink.Transport.Fragment

/-!
# `XgenLink.Proofs.FragmentSteps`: what processing a fragment can do

A reassembly buffer holds the bytes of one message and a table of the ranges that have arrived.
The ranges are kept in order and apart from each other, and a new range that touches one of them
is merged with it. `fragment_insert_received_range` first looks for an overlap, then for the place
of the new range among the others; the table has sixteen slots, and only a range that touches
nothing needs a free one.

`xgl_fragment_process_ext` finds the buffer of the message or creates one, checks the fragment
against it, inserts its range, copies its bytes, and hands the message over when all its bytes are
there. A fragment is refused and nothing changes, or it goes into the buffer of its message, which
may be new and may now be complete. `FragmentProcessed` lists these outcomes once, with all that
holds in each of them, and the results about reassembly are case analyses of it.

* `fragmentPlaceRange_joins`, `fragmentPlaceRange_apart`: the new range among the others.
* `fragmentInsertReceivedRange_cases`: an overlap, or the place of the new range.
* `fragmentInsertReceivedRange_ok`: the ranges stay apart, and a new one is added.
* `fragmentInsertReceivedRange_refused`: when an insertion fails, and why.
* `fragmentCreateReassemblyBuffer_cases`: a buffer within the limits, or a refusal.
* `xglFragmentProcessExt_cases`: everything `xgl_fragment_process_ext` can do.
-/

set_option autoImplicit false

namespace XgenLink

/-! ### Ranges -/

/-- The ranges lie apart and in order below a bound. -/
abbrev RangesTile (size : Nat) (ranges : List ReceivedRange) : Prop :=
  Tiles ReceivedRange.start ReceivedRange.stop 0 size ranges

/-- The number of bytes in the ranges. -/
abbrev rangesTotal (ranges : List ReceivedRange) : Nat :=
  spanTotal ReceivedRange.start ReceivedRange.stop ranges

/-- The byte has been received. -/
abbrev RangesCover (ranges : List ReceivedRange) (i : Nat) : Prop :=
  Spanned ReceivedRange.start ReceivedRange.stop ranges i

/-- Two ranges that touch become one. -/
theorem joins_ranges {before after out : List ReceivedRange} {x y : ReceivedRange}
    (htouch : x.stop = y.start)
    (h : Joins ReceivedRange.start ReceivedRange.stop
      (before ++ { start := x.start, stop := y.stop } :: after) out) :
    Joins ReceivedRange.start ReceivedRange.stop (before ++ x :: y :: after) out := by
  refine .join before after htouch ?_ ?_ h
  · rfl
  · rfl

/-- Placing a range adds it and joins it with the ranges it touches. -/
theorem fragmentPlaceRange_joins {before after out : List ReceivedRange} {start stop : Nat}
    (h : fragmentPlaceRange before after start stop = .ok out) :
    Joins ReceivedRange.start ReceivedRange.stop
      (before ++ { start := start, stop := stop } :: after) out := by
  simp only [fragmentPlaceRange] at h
  -- the last range before the new one, and the first behind it
  cases hlast : before.getLast? with
  | none =>
    rw [List.getLast?_eq_none_iff] at hlast
    subst hlast
    cases after with
    | nil =>
      cases h
      exact .refl _
    | cons next rest =>
      simp only [List.getLast?_nil, beq_iff_eq] at h
      split at h
      · rename_i hnext
        cases h
        exact @joins_ranges [] _ _ _ _ hnext.symm (.refl _)
      split at h
      · cases h
      · cases h
        exact .refl _
  | some last =>
    -- the new range may touch the last one before it
    obtain ⟨front, rfl⟩ := List.getLast?_eq_some_iff.mp hlast
    simp only [hlast, List.dropLast_concat] at h
    cases after with
    | nil =>
      simp only [beq_iff_eq] at h
      split at h
      · rename_i htouch
        cases h
        rw [List.append_assoc, List.singleton_append]
        exact joins_ranges htouch (.refl _)
      split at h
      · cases h
      · cases h
        exact .refl _
    | cons next rest =>
      simp only [beq_iff_eq] at h
      split at h
      · rename_i htouch
        rw [List.append_assoc, List.singleton_append]
        split at h
        · rename_i hnext
          cases h
          exact joins_ranges htouch (joins_ranges hnext.symm (.refl _))
        · cases h
          exact joins_ranges htouch (.refl _)
      split at h
      · rename_i hnext
        cases h
        exact joins_ranges hnext.symm (.refl _)
      split at h
      · cases h
      · cases h
        exact .refl _

/-- The ranges are in order and do not touch. -/
abbrev RangesApart (ranges : List ReceivedRange) : Prop :=
  ranges.Pairwise fun a b => a.stop < b.start

/-- A range overlaps one that was received, and the insertion says so, or it has its place
between those before and those behind it. -/
theorem fragmentInsertReceivedRange_cases {ranges : List ReceivedRange} {start stop size : Nat}
    (hlt : start < stop) (htiles : RangesTile size ranges) :
    (∃ i, RangesCover ranges i ∧ start ≤ i ∧ i < stop) ∧
        fragmentInsertReceivedRange ranges start stop = .error .busy ∨
      ∃ before after, ranges = before ++ after ∧ (∀ r ∈ before, r.stop ≤ start) ∧
        (∀ r ∈ after, stop ≤ r.start) ∧
        fragmentInsertReceivedRange ranges start stop
          = fragmentPlaceRange before after start stop := by
  rw [fragmentInsertReceivedRange, if_neg (by omega)]
  split
  · rename_i hoverlap
    obtain ⟨r, hr, hover⟩ := List.any_eq_true.mp hoverlap
    simp only [fragmentRangeOverlaps, Bool.and_eq_true, decide_eq_true_eq] at hover
    have hfilled := (htiles.mem hr).2.1
    exact .inl ⟨⟨max start r.start, ⟨r, hr, by omega, by omega⟩, by omega, by omega⟩, rfl⟩
  rename_i hoverlap
  have hapart : ∀ r ∈ ranges, r.stop ≤ start ∨ stop ≤ r.start := by
    intro r hr
    by_contra hno
    refine hoverlap (List.any_eq_true.mpr ⟨r, hr, ?_⟩)
    simp only [fragmentRangeOverlaps, Bool.and_eq_true, decide_eq_true_eq]
    omega
  refine .inr ⟨_, _, List.takeWhile_append_dropWhile.symm, fun r hr => ?_, fun r hr => ?_, rfl⟩
  · -- the ranges that start before the new one also stop before it
    have hstarts : r.start < start := by simpa using List.mem_takeWhile_imp hr
    rcases hapart r (List.takeWhile_subset _ hr) with hstops | hbehind <;> omega
  · have hstarts := htiles.le_of_mem_dropWhile hr
    have hfilled := (htiles.mem (List.dropWhile_subset _ hr)).2.1
    rcases hapart r (List.dropWhile_subset _ hr) with hstops | hbehind <;> omega

/-- Inserting a range below the bound adds its bytes to those received. -/
theorem fragmentInsertReceivedRange_ok {ranges out : List ReceivedRange} {start stop size : Nat}
    (h : fragmentInsertReceivedRange ranges start stop = .ok out) (htiles : RangesTile size ranges)
    (hsize : stop ≤ size) :
    RangesTile size out ∧ rangesTotal out = rangesTotal ranges + (stop - start) ∧
      (∀ i, RangesCover out i ↔ RangesCover ranges i ∨ (start ≤ i ∧ i < stop)) ∧
      ∀ i, RangesCover ranges i → ¬ (start ≤ i ∧ i < stop) := by
  have hlt : start < stop := by
    by_contra hno
    rw [fragmentInsertReceivedRange, if_pos (by omega)] at h
    cases h
  rcases fragmentInsertReceivedRange_cases hlt htiles with
    ⟨_, hbusy⟩ | ⟨before, after, rfl, hbefore, hafter, hplace⟩
  · rw [hbusy] at h
    cases h
  rw [hplace] at h
  have hjoins := fragmentPlaceRange_joins h
  have hadded : RangesTile size (before ++ { start := start, stop := stop } :: after) :=
    htiles.insert hlt (Nat.zero_le _) hsize hbefore hafter
  obtain ⟨htiled, htotal, hcover⟩ := hjoins.keeps hadded
  refine ⟨htiled, ?_, fun i => (hcover i).trans ?_, fun i hi hnew => ?_⟩
  · rw [rangesTotal, htotal, rangesTotal]
    simp only [spanTotal_append, spanTotal_cons]
    omega
  · simp only [RangesCover, spanned_append, spanned_cons]
    rw [or_assoc, or_comm (b := Spanned _ _ after i)]
  · obtain ⟨r, hr, hri⟩ := hi
    rcases List.mem_append.mp hr with hr | hr
    · have := hbefore r hr
      omega
    · have := hafter r hr
      omega

/-- What placing a range does to ranges that do not touch: the result does not touch either
and is at most one range longer, and only a new range without a free slot is refused. -/
theorem fragmentPlaceRange_apart {before after : List ReceivedRange} {start stop size : Nat}
    (htiles : RangesTile size (before ++ after))
    (hapart : RangesApart (before ++ after)) (hbefore : ∀ r ∈ before, r.stop ≤ start)
    (hafter : ∀ r ∈ after, stop ≤ r.start) :
    (∃ out, fragmentPlaceRange before after start stop = .ok out ∧ RangesApart out ∧
        ((before ++ after).length ≤ XGL_FRAGMENT_MAX_RECEIVED_RANGES →
          out.length ≤ XGL_FRAGMENT_MAX_RECEIVED_RANGES)) ∨
      (fragmentPlaceRange before after start stop = .error .noMemory ∧
        XGL_FRAGMENT_MAX_RECEIVED_RANGES ≤ (before ++ after).length ∧
        RangesApart (before ++ { start := start, stop := stop } :: after)) := by
  have hfilled : ∀ r ∈ before ++ after, r.start < r.stop := fun r hr => (htiles.mem hr).2.1
  rw [RangesApart, List.pairwise_append] at hapart
  obtain ⟨hfront, hback, hacross⟩ := hapart
  -- a new range between the others, when it touches neither neighbour
  have hnew : (∀ r ∈ before, r.stop ≠ start) → (∀ r ∈ after, r.start ≠ stop) →
      RangesApart (before ++ { start := start, stop := stop } :: after) := by
    intro hleft hright
    rw [RangesApart, List.pairwise_append, List.pairwise_cons]
    refine ⟨hfront, ⟨fun r hr => ?_, hback⟩, fun a ha b hb => ?_⟩
    · have := hafter r hr
      have := hright r hr
      dsimp only
      omega
    · rcases List.mem_cons.mp hb with rfl | hb
      · have := hbefore a ha
        have := hleft a ha
        dsimp only
        omega
      · exact hacross a ha b hb
  -- only the neighbours can touch the new range
  have hfarLeft : ∀ front last, before = front ++ [last] → last.stop ≠ start →
      ∀ r ∈ before, r.stop ≠ start := by
    rintro front last rfl hne r hr
    rcases List.mem_append.mp hr with hr | hr
    · have hlast := (List.pairwise_append.mp hfront).2.2 r hr last (by simp)
      have := hfilled last (by simp)
      have := hbefore last (by simp)
      omega
    · rw [List.mem_singleton.mp hr]
      exact hne
  have hfarRight : ∀ next rest, after = next :: rest → next.start ≠ stop →
      ∀ r ∈ after, r.start ≠ stop := by
    rintro next rest rfl hne r hr
    rcases List.mem_cons.mp hr with rfl | hr
    · exact hne
    · have hnext := (List.pairwise_cons.mp hback).1 r hr
      have := hfilled next (by simp)
      have := hafter next (by simp)
      omega
  -- a free slot is needed only here
  have hslot : (∀ r ∈ before, r.stop ≠ start) → (∀ r ∈ after, r.start ≠ stop) →
      fragmentPlaceRange before after start stop
        = (if (before ++ after).length ≥ XGL_FRAGMENT_MAX_RECEIVED_RANGES ∧
            before ++ after ≠ [] then
            .error .noMemory
          else .ok (before ++ { start := start, stop := stop } :: after)) →
      (∃ out, fragmentPlaceRange before after start stop = .ok out ∧ RangesApart out ∧
        ((before ++ after).length ≤ XGL_FRAGMENT_MAX_RECEIVED_RANGES →
          out.length ≤ XGL_FRAGMENT_MAX_RECEIVED_RANGES)) ∨
      (fragmentPlaceRange before after start stop = .error .noMemory ∧
        XGL_FRAGMENT_MAX_RECEIVED_RANGES ≤ (before ++ after).length ∧
        RangesApart (before ++ { start := start, stop := stop } :: after)) := by
    intro hleft hright heq
    by_cases hfull : (before ++ after).length ≥ XGL_FRAGMENT_MAX_RECEIVED_RANGES ∧
        before ++ after ≠ []
    · exact .inr ⟨by rw [heq, if_pos hfull], hfull.1, hnew hleft hright⟩
    · refine .inl ⟨_, by rw [heq, if_neg hfull], hnew hleft hright, fun hle => ?_⟩
      have hroom : (before ++ after).length < XGL_FRAGMENT_MAX_RECEIVED_RANGES := by
        by_contra hno
        refine hfull ⟨by omega, fun hnil => ?_⟩
        rw [hnil] at hno
        exact hno (by decide)
      rw [List.length_append] at hroom ⊢
      rw [List.length_cons]
      omega
  rcases List.eq_nil_or_concat' before with rfl | ⟨front, last, rfl⟩
  · cases after with
    | nil =>
      exact .inl ⟨_, rfl, List.pairwise_singleton _ _, fun _ => Nat.le_of_ble_eq_true rfl⟩
    | cons next rest =>
      by_cases hjoin : next.start = stop
      · refine .inl ⟨{ next with start := start } :: rest, ?_, ?_, fun hle => hle⟩
        · simp [fragmentPlaceRange, hjoin]
        · exact List.pairwise_cons.mpr (List.pairwise_cons.mp hback)
      · refine hslot (fun r hr => absurd hr List.not_mem_nil) (hfarRight next rest rfl hjoin) ?_
        simp [fragmentPlaceRange, hjoin]
  · obtain ⟨hfrontApart, _, hfrontLast⟩ := List.pairwise_append.mp hfront
    have hlast : ∀ r ∈ front, r.stop < last.start := fun r hr => hfrontLast r hr last (by simp)
    cases after with
    | nil =>
      by_cases hjoin : last.stop = start
      · refine .inl ⟨front ++ [{ last with stop := stop }], ?_, ?_, fun hle => by simpa using hle⟩
        · simp [fragmentPlaceRange, hjoin]
        · refine List.pairwise_append.mpr ⟨hfrontApart, List.pairwise_singleton _ _, ?_⟩
          intro a ha b hb
          rw [List.mem_singleton.mp hb]
          exact hlast a ha
      · refine hslot (hfarLeft front last rfl hjoin) (fun r hr => absurd hr List.not_mem_nil) ?_
        simp [fragmentPlaceRange, hjoin]
    | cons next rest =>
      obtain ⟨hnextRest, hrest⟩ := List.pairwise_cons.mp hback
      have hfrontRest : ∀ a ∈ front, ∀ b ∈ next :: rest, a.stop < b.start :=
        fun a ha b hb => hacross a (by simp [ha]) b hb
      have hlastRest : ∀ b ∈ next :: rest, last.stop < b.start :=
        fun b hb => hacross last (by simp) b hb
      by_cases hleft : last.stop = start
      · by_cases hright : next.start = stop
        · -- the new range closes the gap between its neighbours
          refine .inl ⟨front ++ { last with stop := next.stop } :: rest, ?_, ?_, fun hle => ?_⟩
          · simp [fragmentPlaceRange, hleft, hright]
          · refine List.pairwise_append.mpr ⟨hfrontApart, List.pairwise_cons.mpr
              ⟨hnextRest, hrest⟩, fun a ha b hb => ?_⟩
            rcases List.mem_cons.mp hb with rfl | hb
            · exact hlast a ha
            · exact hfrontRest a ha b (List.mem_cons_of_mem _ hb)
          · simp only [List.length_append, List.length_cons, List.length_nil] at hle ⊢
            omega
        · refine .inl ⟨front ++ { last with stop := stop } :: next :: rest, ?_, ?_, fun hle => ?_⟩
          · simp [fragmentPlaceRange, hleft, hright]
          · refine List.pairwise_append.mpr ⟨hfrontApart, List.pairwise_cons.mpr
              ⟨fun b hb => ?_, hback⟩, fun a ha b hb => ?_⟩
            · have := hafter b hb
              have := hfarRight next rest rfl hright b hb
              dsimp only
              omega
            · rcases List.mem_cons.mp hb with rfl | hb
              · exact hlast a ha
              · exact hfrontRest a ha b hb
          · simp only [List.length_append, List.length_cons, List.length_nil] at hle ⊢
            omega
      · by_cases hright : next.start = stop
        · refine .inl ⟨front ++ [last] ++ { next with start := start } :: rest, ?_, ?_,
            fun hle => ?_⟩
          · simp [fragmentPlaceRange, hleft, hright]
          · refine List.pairwise_append.mpr ⟨hfront, List.pairwise_cons.mpr
              ⟨hnextRest, hrest⟩, fun a ha b hb => ?_⟩
            rcases List.mem_cons.mp hb with rfl | hb
            · have := hbefore a ha
              have := hfarLeft front last rfl hleft a ha
              dsimp only
              omega
            · exact hacross a ha b (List.mem_cons_of_mem _ hb)
          · simp only [List.length_append, List.length_cons, List.length_nil] at hle ⊢
            omega
        · refine hslot (hfarLeft front last rfl hleft) (hfarRight next rest rfl hright) ?_
          simp [fragmentPlaceRange, hleft, hright, Nat.add_comm, Nat.add_left_comm]

/-- Inserting keeps the ranges apart and at most sixteen. -/
theorem fragmentInsertReceivedRange_apart {ranges out : List ReceivedRange}
    {start stop size : Nat} (h : fragmentInsertReceivedRange ranges start stop = .ok out)
    (hlt : start < stop) (htiles : RangesTile size ranges) (hapart : RangesApart ranges) :
    RangesApart out ∧ (ranges.length ≤ XGL_FRAGMENT_MAX_RECEIVED_RANGES →
      out.length ≤ XGL_FRAGMENT_MAX_RECEIVED_RANGES) := by
  rcases fragmentInsertReceivedRange_cases hlt htiles with
    ⟨_, hbusy⟩ | ⟨before, after, rfl, hbefore, hafter, hplace⟩
  · rw [hbusy] at h
    cases h
  rw [hplace] at h
  rcases fragmentPlaceRange_apart htiles hapart hbefore hafter with
    ⟨placed, hok, hkept⟩ | ⟨hfull, _⟩
  · rw [hok] at h
    cases h
    exact hkept
  · rw [hfull] at h
    cases h

/-- Why an insertion fails: an overlap with what was received, or a range that touches no
other one when the slots are used up. -/
theorem fragmentInsertReceivedRange_refused {ranges : List ReceivedRange} {start stop size : Nat}
    {err : XglError} (h : fragmentInsertReceivedRange ranges start stop = .error err)
    (hlt : start < stop) (hsize : stop ≤ size) (htiles : RangesTile size ranges)
    (hapart : RangesApart ranges) :
    err = .busy ∧ (∃ i, RangesCover ranges i ∧ start ≤ i ∧ i < stop) ∨
      err = .noMemory ∧ ∃ out, XGL_FRAGMENT_MAX_RECEIVED_RANGES < out.length ∧
        RangesTile size out ∧ RangesApart out ∧
        ∀ i, RangesCover out i ↔ RangesCover ranges i ∨ (start ≤ i ∧ i < stop) := by
  rcases fragmentInsertReceivedRange_cases hlt htiles with
    ⟨hover, hbusy⟩ | ⟨before, after, rfl, hbefore, hafter, hplace⟩
  · rw [hbusy] at h
    cases h
    exact .inl ⟨rfl, hover⟩
  rw [hplace] at h
  rcases fragmentPlaceRange_apart htiles hapart hbefore hafter with
    ⟨placed, hok, _⟩ | ⟨hfull, hcount, hnew⟩
  · rw [hok] at h
    cases h
  · rw [hfull] at h
    cases h
    refine .inr ⟨rfl, _, ?_, htiles.insert hlt (Nat.zero_le _) hsize hbefore hafter, hnew,
      fun i => ?_⟩
    · rw [List.length_append] at hcount
      rw [List.length_append, List.length_cons]
      omega
    · simp only [RangesCover, spanned_append, spanned_cons]
      rw [or_assoc, or_comm (b := Spanned _ _ after i)]

/-- Placing a range fails only for want of room. -/
theorem fragmentPlaceRange_error {before after : List ReceivedRange} {start stop : Nat}
    {err : XglError} (h : fragmentPlaceRange before after start stop = .error err) :
    err = .noMemory := by
  cases hlast : before.getLast? with
  | none =>
    cases after with
    | nil => simp [fragmentPlaceRange, hlast] at h
    | cons next rest =>
      simp only [fragmentPlaceRange, hlast] at h
      split at h
      · cases h
      split at h <;> cases h
      rfl
  | some last =>
    cases after with
    | nil =>
      simp only [fragmentPlaceRange, hlast] at h
      split at h
      · cases h
      split at h <;> cases h
      rfl
    | cons next rest =>
      simp only [fragmentPlaceRange, hlast] at h
      split at h
      · split at h <;> cases h
      split at h
      · cases h
      split at h <;> cases h
      rfl

/-- An insertion fails with one of three codes. -/
theorem fragmentInsertReceivedRange_error {ranges : List ReceivedRange} {start stop : Nat}
    {err : XglError} (h : fragmentInsertReceivedRange ranges start stop = .error err) :
    err ≠ .ok := by
  simp only [fragmentInsertReceivedRange] at h
  split at h
  · cases h
    decide
  split at h
  · cases h
    decide
  · rw [fragmentPlaceRange_error h]
    decide

/-! ### Buffers -/

/-- Copying a payload into a buffer. -/
theorem writeFragment_getElem? {data : List (Option UInt8)} {start : Nat} {payload : Bytes}
    (hfits : start + payload.length ≤ data.length) (i : Nat) :
    (writeFragment data start payload)[i]?
      = if start ≤ i ∧ i < start + payload.length then payload[i - start]?.map some
        else data[i]? := by
  have htake : (data.take start).length = start := by
    rw [List.length_take]
    omega
  rw [writeFragment, List.append_assoc, List.getElem?_append, htake]
  split
  · rename_i hlt
    rw [if_neg (by omega), List.getElem?_take, if_pos hlt]
  · rename_i hge
    rw [List.getElem?_append, List.length_map]
    split
    · rw [if_pos (by omega), List.getElem?_map]
    · rw [if_neg (by omega), List.getElem?_drop]
      congr 1
      omega

/-- The length of a buffer does not change when a payload is copied into it. -/
theorem length_writeFragment {data : List (Option UInt8)} {start : Nat} {payload : Bytes}
    (hfits : start + payload.length ≤ data.length) :
    (writeFragment data start payload).length = data.length := by
  simp only [writeFragment, List.length_append, List.length_take, List.length_map,
    List.length_drop]
  omega

/-- A written buffer takes the place of the one with its key. -/
theorem mem_putBuffer {buffer other : ReassemblyBuffer} {buffers : List ReassemblyBuffer}
    (h : other ∈ putBuffer buffer buffers) : other = buffer ∨ other ∈ buffers := by
  induction buffers with
  | nil => cases h
  | cons first rest ih =>
    simp only [putBuffer] at h
    split at h
    · rcases List.mem_cons.mp h with rfl | hmem
      · exact .inl rfl
      · exact .inr (List.mem_cons_of_mem _ hmem)
    · rcases List.mem_cons.mp h with rfl | hmem
      · exact .inr List.mem_cons_self
      · exact (ih hmem).imp_right fun hrest => List.mem_cons_of_mem _ hrest

/-- Where the buffer of a lookup stands, what is left without it, and what writing through
the lookup does. -/
theorem findBuffer_split {buffers : List ReassemblyBuffer} {key : MessageKey}
    {buffer : ReassemblyBuffer}
    (hfind : buffers.find? (fun other => other.key == key) = some buffer) :
    ∃ before after, buffers = before ++ buffer :: after ∧
      unlinkBuffer key buffers = before ++ after ∧
      ∀ new : ReassemblyBuffer, new.key = key → putBuffer new buffers = before ++ new :: after := by
  induction buffers with
  | nil => cases hfind
  | cons first rest ih =>
    rw [List.find?_cons] at hfind
    split at hfind
    · -- the first buffer is the one that was looked up
      rename_i hfirst
      cases hfind
      refine ⟨[], rest, rfl, ?_, fun new hnew => ?_⟩
      · rw [unlinkBuffer, List.eraseP_cons, hfirst, cond_true, List.nil_append]
      · rw [putBuffer, if_pos (by rw [hnew, hfirst]), List.nil_append]
    · rename_i hfirst
      obtain ⟨before, after, rfl, hunlink, hput⟩ := ih hfind
      refine ⟨first :: before, after, rfl, ?_, fun new hnew => ?_⟩
      · rw [unlinkBuffer, List.eraseP_cons, hfirst, cond_false]
        exact congrArg (first :: ·) hunlink
      · rw [putBuffer, if_neg (by simp [hnew, hfirst]), hput new hnew]
        rfl

/-- The limits of the manager leave room for a message of this length: one more buffer, its
size, and the bytes in use. A limit of 0 on a size is none. -/
structure RoomFor (manager : FragmentManager) (messageLen : UInt32) : Prop where
  count : manager.reassemblyList.length < manager.maxReassemblyBuffers
  message : manager.maxMessageSize = 0 ∨ messageLen.toNat ≤ manager.maxMessageSize
  bytes : manager.maxReassemblyBytes = 0 ∨
    manager.currentReassemblyBytes + messageLen.toNat ≤ manager.maxReassemblyBytes

/-- A buffer is refused, for want of room or of memory, or there is room and a fresh one is
added behind the others. -/
theorem fragmentCreateReassemblyBuffer_cases (env : TransportEnv) (io : TransportIo)
    (manager : FragmentManager) (key : MessageKey) (dataType : UInt8) (messageLen : UInt32) :
    (∃ err io', err ≠ .ok ∧
      (RoomFor manager messageLen → messageLen = 0 ∨ ∃ n, env.allocOk n = false) ∧
      fragmentCreateReassemblyBuffer env io manager key dataType messageLen
        = (.error err, manager, io')) ∨
    ∃ io', RoomFor manager messageLen ∧
      fragmentCreateReassemblyBuffer env io manager key dataType messageLen
        = (.ok (freshBuffer manager key dataType messageLen),
            { manager with
              currentReassemblyBytes := manager.currentReassemblyBytes + messageLen.toNat
              reassemblyList :=
                manager.reassemblyList ++ [freshBuffer manager key dataType messageLen] },
            io') := by
  -- an allocation of a size other than zero fails when the allocator says so
  have hmalloc : ∀ io size, (!(transportMalloc env io size).1) = true →
      size = 0 ∨ ∃ n, env.allocOk n = false := by
    intro io size hfails
    simp only [transportMalloc] at hfails
    split at hfails
    · rename_i hzero
      exact .inl (beq_iff_eq.mp hzero)
    · exact .inr ⟨_, by simpa using hfails⟩
  simp only [fragmentCreateReassemblyBuffer]
  split
  · rename_i hfull
    exact .inl ⟨_, _, by decide, fun hroom => absurd hroom.count (Nat.not_lt.mpr hfull), rfl⟩
  rename_i hcount
  split
  · rename_i hlong
    refine .inl ⟨_, _, by decide, fun hroom => ?_, rfl⟩
    have := hroom.message
    simp only [Bool.and_eq_true, bne_iff_ne, decide_eq_true_eq] at hlong
    omega
  rename_i hmessage
  split
  · rename_i hover
    refine .inl ⟨_, _, by decide, fun hroom => ?_, rfl⟩
    have := hroom.bytes
    simp only [Bool.and_eq_true, Bool.or_eq_true, bne_iff_ne, decide_eq_true_eq] at hover
    omega
  rename_i hbytes
  split
  · rename_i hfails
    refine .inl ⟨_, _, by decide, fun _ => ?_, rfl⟩
    exact .inr ((hmalloc _ _ hfails).resolve_left (by decide))
  split
  · rename_i hfails
    refine .inl ⟨_, _, by decide, fun _ => ?_, rfl⟩
    exact (hmalloc _ _ hfails).imp_left fun hzero => UInt32.toNat_inj.mp hzero
  · simp only [Bool.and_eq_true, Bool.or_eq_true, bne_iff_ne, decide_eq_true_eq, not_and, not_or]
      at hmessage hbytes
    refine .inr ⟨_, ⟨by omega, ?_, ?_⟩, rfl⟩
    · by_cases hzero : manager.maxMessageSize = 0
      · exact .inl hzero
      · exact .inr (by have := hmessage hzero; omega)
    · by_cases hzero : manager.maxReassemblyBytes = 0
      · exact .inl hzero
      · exact .inr (by have := hbytes hzero; omega)

/-! ### One fragment -/

/-- The arguments of `xgl_fragment_process_ext`. -/
structure FragmentCall where
  key : MessageKey
  dataType : UInt8
  fragmentOffset : UInt32
  messageLen : UInt32
  payload : Bytes
  currentTimeMs : UInt32 := 0

/-- The range of a fragment. -/
def FragmentCall.start (call : FragmentCall) : Nat := call.fragmentOffset.toNat

/-- Where the range of a fragment ends. -/
def FragmentCall.stop (call : FragmentCall) : Nat :=
  call.fragmentOffset.toNat + call.payload.length

/-- The fragment has bytes and lies in its message. -/
structure FragmentCall.Valid (call : FragmentCall) : Prop where
  filled : call.start < call.stop
  fits : call.stop ≤ call.messageLen.toNat

/-- The call on a manager. -/
def FragmentCall.process (call : FragmentCall) (env : TransportEnv) (io : TransportIo)
    (manager : FragmentManager) : FragmentResult × FragmentManager × TransportIo :=
  xglFragmentProcessExt env io manager call.key call.dataType call.fragmentOffset call.messageLen
    call.payload call.currentTimeMs

/-- The buffer a fragment goes into: the one of its message, or a new one within the limits. -/
inductive FragmentOpened (manager : FragmentManager) (call : FragmentCall) :
    FragmentManager → ReassemblyBuffer → Prop where
  | found (buffer : ReassemblyBuffer)
      (hfind : fragmentFindReassemblyBuffer manager call.key = some buffer) :
      FragmentOpened manager call manager buffer
  | created (hnone : fragmentFindReassemblyBuffer manager call.key = none)
      (hroom : RoomFor manager call.messageLen) :
      FragmentOpened manager call
        { manager with
          currentReassemblyBytes := manager.currentReassemblyBytes + call.messageLen.toNat
          reassemblyList := manager.reassemblyList ++
            [freshBuffer manager call.key call.dataType call.messageLen] }
        (freshBuffer manager call.key call.dataType call.messageLen)

/-- The buffer with the bytes of a fragment. -/
def filledBuffer (buffer : ReassemblyBuffer) (call : FragmentCall) (ranges : List ReceivedRange)
    (time : UInt32) : ReassemblyBuffer :=
  { buffer with
    receivedRanges := ranges
    data := writeFragment buffer.data call.start call.payload
    receivedBytes := buffer.receivedBytes + call.payload.length
    firstFragmentTime := time }

/-- The buffer takes the fragment: type and size are those of its message and its range is
new. -/
structure FragmentFits (buffer : ReassemblyBuffer) (call : FragmentCall)
    (ranges : List ReceivedRange) : Prop where
  valid : call.Valid
  dataType : buffer.dataType = call.dataType
  size : buffer.bufferSize = call.messageLen.toNat
  insert : fragmentInsertReceivedRange buffer.receivedRanges call.start call.stop = .ok ranges

/-- The time in a buffer behind a fragment: the first fragment sets it, from the clock when the
caller gives no time. -/
structure FragmentStamped (env : TransportEnv) (buffer : ReassemblyBuffer) (call : FragmentCall)
    (time : UInt32) : Prop where
  first : buffer.receivedBytes = 0 → (∃ read, env.clock read = time) ∨
    call.currentTimeMs ≠ 0 ∧ time = call.currentTimeMs
  later : buffer.receivedBytes ≠ 0 → time = buffer.firstFragmentTime

/-- Everything `xgl_fragment_process_ext` can do. -/
inductive FragmentProcessed (env : TransportEnv) (manager : FragmentManager) (call : FragmentCall) :
    FragmentResult → FragmentManager → Prop where
  | invalid (err : XglError) (herr : err ≠ .ok) (hinvalid : ¬ call.Valid) :
      FragmentProcessed env manager call { error := err } manager
  | noBuffer (err : XglError) (herr : err ≠ .ok)
      (hnone : fragmentFindReassemblyBuffer manager call.key = none)
      (hwhy : RoomFor manager call.messageLen → call.messageLen = 0 ∨
        ∃ n, env.allocOk n = false) :
      FragmentProcessed env manager call { error := err } manager
  | mismatch (buffer : ReassemblyBuffer)
      (hfind : fragmentFindReassemblyBuffer manager call.key = some buffer)
      (hdiffers : buffer.dataType ≠ call.dataType ∨ buffer.bufferSize ≠ call.messageLen.toNat) :
      FragmentProcessed env manager call { error := .invalidFrame } manager
  | notInserted (buffer : ReassemblyBuffer) (err : XglError)
      (hfind : fragmentFindReassemblyBuffer manager call.key = some buffer)
      (herr : fragmentInsertReceivedRange buffer.receivedRanges call.start call.stop
        = .error err) :
      FragmentProcessed env manager call { error := err } manager
  | waiting (base : FragmentManager) (buffer : ReassemblyBuffer) (ranges : List ReceivedRange)
      (time : UInt32) (hopened : FragmentOpened manager call base buffer)
      (hfits : FragmentFits buffer call ranges)
      (hpart : buffer.receivedBytes + call.payload.length ≠ buffer.bufferSize)
      (htime : FragmentStamped env buffer call time) :
      FragmentProcessed env manager call { error := .busy, stored := true }
        { base with
          reassemblyList := putBuffer (filledBuffer buffer call ranges time) base.reassemblyList }
  | completed (base : FragmentManager) (buffer : ReassemblyBuffer) (ranges : List ReceivedRange)
      (time : UInt32) (hopened : FragmentOpened manager call base buffer)
      (hfits : FragmentFits buffer call ranges)
      (hfull : buffer.receivedBytes + call.payload.length = buffer.bufferSize) :
      FragmentProcessed env manager call
        { error := .ok
          complete := some ((filledBuffer buffer call ranges time).data.map fun byte =>
            byte.getD 0)
          stored := true }
        { base with
          reassemblyList := unlinkBuffer buffer.key base.reassemblyList
          currentReassemblyBytes := fragmentRelease buffer base.currentReassemblyBytes }

/-- The part that has the buffer. -/
theorem fragmentStore_cases (env : TransportEnv) (io : TransportIo) {manager base : FragmentManager}
    {call : FragmentCall} {buffer : ReassemblyBuffer} (hvalid : call.Valid)
    (hopened : FragmentOpened manager call base buffer) :
    let out := fragmentStore env io base buffer call.dataType call.fragmentOffset call.messageLen
      call.payload call.currentTimeMs
    FragmentProcessed env manager call out.1 out.2.1 := by
  have hfilled := hvalid.filled
  simp only [fragmentStore]
  split
  · rename_i hdiffers
    cases hopened with
    | found _ hfind =>
      refine .mismatch buffer hfind ?_
      simpa [Bool.or_eq_true] using hdiffers
    | created => simp [freshBuffer] at hdiffers
  rename_i hsame
  simp only [Bool.or_eq_true, bne_iff_ne, not_or, not_not] at hsame
  split
  · rename_i err hinsert
    cases hopened with
    | found _ hfind => exact .notInserted buffer err hfind hinsert
    | created =>
      -- the first range of a buffer always has a place
      have hok : fragmentInsertReceivedRange [] call.start call.stop
          = .ok [{ start := call.start, stop := call.stop }] := by
        rw [fragmentInsertReceivedRange, if_neg (by omega)]
        rfl
      exact absurd (hinsert.symm.trans hok) (by simp)
  rename_i ranges hinsert
  generalize hstamp : (if (buffer.receivedBytes == 0 && call.currentTimeMs == 0) = true then
    xglTimeMs env io else (if (buffer.receivedBytes == 0) = true then call.currentTimeMs
      else buffer.firstFragmentTime, io)) = stamp
  have htime : FragmentStamped env buffer call stamp.1 := by
    rw [← hstamp]
    by_cases hfirst : buffer.receivedBytes = 0
    · refine ⟨fun _ => ?_, fun h => absurd hfirst h⟩
      by_cases hzero : call.currentTimeMs = 0
      · rw [if_pos (by simp [hfirst, hzero])]
        exact .inl ⟨io.clockCount, rfl⟩
      · rw [if_neg (by simp [hzero]), if_pos (by simp [hfirst])]
        exact .inr ⟨hzero, rfl⟩
    · refine ⟨fun h => absurd h hfirst, fun _ => ?_⟩
      rw [if_neg (by simp [hfirst]), if_neg (by simp [hfirst])]
  split
  · rename_i hfull
    exact .completed base buffer ranges stamp.1 hopened ⟨hvalid, hsame.1, hsame.2, hinsert⟩
      (by simpa using hfull)
  · rename_i hpart
    exact .waiting base buffer ranges stamp.1 hopened ⟨hvalid, hsame.1, hsame.2, hinsert⟩
      (by simpa using hpart) htime

/-- Processing a fragment. -/
theorem xglFragmentProcessExt_cases (env : TransportEnv) (io : TransportIo)
    (manager : FragmentManager) (call : FragmentCall) :
    FragmentProcessed env manager call (call.process env io manager).1
      (call.process env io manager).2.1 := by
  simp only [FragmentCall.process, xglFragmentProcessExt]
  split
  · rename_i hempty
    refine .invalid _ (by decide) fun hvalid => ?_
    have hfilled := hvalid.filled
    simp only [FragmentCall.start, FragmentCall.stop, beq_iff_eq] at hfilled hempty
    omega
  rename_i hsome
  split
  · rename_i hbad
    refine .invalid _ (by decide) fun hvalid => ?_
    have hfilled := hvalid.filled
    have hfits := hvalid.fits
    simp only [FragmentCall.start, FragmentCall.stop] at hfilled hfits
    simp only [Bool.or_eq_true, beq_iff_eq, decide_eq_true_eq, gt_iff_lt,
      UInt32.lt_iff_toNat_lt] at hbad
    rcases hbad with (hzero | hbehind) | hlong
    · rw [hzero, UInt32.toNat_zero] at hfits
      omega
    · omega
    · omega
  rename_i hgood
  have hvalid : call.Valid := by
    simp only [Bool.or_eq_true, beq_iff_eq, decide_eq_true_eq, gt_iff_lt, not_or,
      UInt32.lt_iff_toNat_lt, Nat.not_lt] at hgood hsome
    refine ⟨?_, ?_⟩ <;> simp only [FragmentCall.start, FragmentCall.stop] <;> omega
  split
  · rename_i buffer hfind
    exact fragmentStore_cases env io hvalid (.found buffer hfind)
  · rename_i hnone
    rcases fragmentCreateReassemblyBuffer_cases env io manager call.key call.dataType
      call.messageLen with ⟨err, io', herr, hwhy, hcreate⟩ | ⟨io', hroom, hcreate⟩
    · rw [hcreate]
      exact .noBuffer err herr hnone hwhy
    · rw [hcreate]
      exact fragmentStore_cases env io' hvalid (.created hnone hroom)

end XgenLink
