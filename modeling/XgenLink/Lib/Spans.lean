import Mathlib.Data.List.Basic
import Mathlib.Data.List.Nodup
import Mathlib.Data.List.Range
import Mathlib.Tactic.Common

/-!
# `XgenLink.Lib.Spans`: lists of disjoint spans

A span is anything with a start and a stop, from the one up to and excluding the other. A
list of spans tiles an interval when they lie in it in order and apart from each other;
spans that touch may be joined.

* `Tiles.total_le`: the lengths of the spans fit into the interval.
* `Tiles.spanned_of_total`, `Tiles.total_of_spanned`: they fill it when every position lies in
  a span.
* `Tiles.insert`: a new span between two parts of a tiling.
* `Joins`: what joining touching spans keeps.
* `total_le_of_apart`: spans that are apart in any order fit below a bound together.
-/

set_option autoImplicit false

namespace XgenLink

section Spans

variable {ρ : Type} (start stop : ρ → Nat)

/-- The spans lie in order between the bounds; none is empty and none overlaps another. -/
def Tiles : Nat → Nat → List ρ → Prop
  | lo, hi, [] => lo ≤ hi
  | lo, hi, r :: rest => lo ≤ start r ∧ start r < stop r ∧ Tiles (stop r) hi rest

/-- The length of all spans. -/
def spanTotal : List ρ → Nat
  | [] => 0
  | r :: rest => (stop r - start r) + spanTotal rest

/-- The position lies in a span. -/
def Spanned (spans : List ρ) (i : Nat) : Prop :=
  ∃ r ∈ spans, start r ≤ i ∧ i < stop r

/-- One list of spans after some that touch were joined. -/
inductive Joins : List ρ → List ρ → Prop where
  | refl (spans : List ρ) : Joins spans spans
  | join {x y z : ρ} {out : List ρ} (before after : List ρ) (htouch : stop x = start y)
      (hstart : start z = start x) (hstop : stop z = stop y)
      (h : Joins (before ++ z :: after) out) :
      Joins (before ++ x :: y :: after) out

variable {start stop} {lo mid hi : Nat} {spans before after out : List ρ}

/-- The length with one more span in front. -/
@[simp] theorem spanTotal_cons (r : ρ) (rest : List ρ) :
    spanTotal start stop (r :: rest) = (stop r - start r) + spanTotal start stop rest :=
  rfl

/-- The length of two lists of spans. -/
@[simp] theorem spanTotal_append (a b : List ρ) :
    spanTotal start stop (a ++ b) = spanTotal start stop a + spanTotal start stop b := by
  induction a with
  | nil => exact (Nat.zero_add _).symm
  | cons r rest ih =>
    rw [List.cons_append, spanTotal_cons, spanTotal_cons, ih, Nat.add_assoc]

/-- A position of two lists lies in one of them. -/
theorem spanned_append {a b : List ρ} {i : Nat} :
    Spanned start stop (a ++ b) i ↔ Spanned start stop a i ∨ Spanned start stop b i := by
  simp [Spanned, or_and_right, exists_or]

/-- A position lies in the first span or in one of the others. -/
theorem spanned_cons {r : ρ} {rest : List ρ} {i : Nat} :
    Spanned start stop (r :: rest) i ↔ (start r ≤ i ∧ i < stop r) ∨ Spanned start stop rest i := by
  simp [Spanned, or_and_right, exists_or]

/-- The bounds of a tiling are in order. -/
theorem Tiles.le (h : Tiles start stop lo hi spans) : lo ≤ hi := by
  induction spans generalizing lo with
  | nil => exact h
  | cons r rest ih =>
    obtain ⟨hlo, hlt, hrest⟩ := h
    have := ih hrest
    omega

/-- The lower bound may be anything up to the first span. -/
theorem Tiles.lower {lo' : Nat} (h : Tiles start stop lo hi spans) (hle : lo' ≤ lo) :
    Tiles start stop lo' hi spans := by
  cases spans with
  | nil => exact Nat.le_trans hle h
  | cons r rest => exact ⟨Nat.le_trans hle h.1, h.2⟩

/-- Two lists that tile one interval behind the other. -/
theorem tiles_append :
    Tiles start stop lo hi (before ++ after) ↔
      ∃ mid, Tiles start stop lo mid before ∧ Tiles start stop mid hi after := by
  induction before generalizing lo with
  | nil =>
    constructor
    · exact fun h => ⟨lo, Nat.le_refl lo, h⟩
    · rintro ⟨mid, hle, h⟩
      exact h.lower hle
  | cons r rest ih =>
    constructor
    · rintro ⟨hlo, hlt, h⟩
      obtain ⟨mid, hrest, hafter⟩ := ih.mp h
      exact ⟨mid, ⟨hlo, hlt, hrest⟩, hafter⟩
    · rintro ⟨mid, ⟨hlo, hlt, hrest⟩, hafter⟩
      exact ⟨hlo, hlt, ih.mpr ⟨mid, hrest, hafter⟩⟩

/-- The upper bound may be anything behind the last span. -/
theorem Tiles.upper {hi' : Nat} (h : Tiles start stop lo hi spans) (hle : lo ≤ hi')
    (hstops : ∀ r ∈ spans, stop r ≤ hi') : Tiles start stop lo hi' spans := by
  induction spans generalizing lo with
  | nil => exact hle
  | cons r rest ih =>
    exact ⟨h.1, h.2.1, ih h.2.2 (hstops r List.mem_cons_self) fun r' hr' =>
      hstops r' (List.mem_cons_of_mem _ hr')⟩

/-- The spans of a tiling are not empty and lie between its bounds. -/
theorem Tiles.mem (h : Tiles start stop lo hi spans) {r : ρ} (hr : r ∈ spans) :
    lo ≤ start r ∧ start r < stop r ∧ stop r ≤ hi := by
  induction spans generalizing lo with
  | nil => cases hr
  | cons first rest ih =>
    obtain ⟨hlo, hlt, hrest⟩ := h
    rcases List.mem_cons.mp hr with rfl | hr
    · exact ⟨hlo, hlt, hrest.le⟩
    · obtain ⟨hfrom, hne, hto⟩ := ih hrest hr
      exact ⟨by omega, hne, hto⟩

/-- The spans from the first one that starts at a position or behind it. -/
theorem Tiles.le_of_mem_dropWhile (h : Tiles start stop lo hi spans) {i : Nat} {r : ρ}
    (hr : r ∈ spans.dropWhile fun x => start x < i) : i ≤ start r := by
  induction spans generalizing lo with
  | nil => cases hr
  | cons first rest ih =>
    rw [List.dropWhile_cons] at hr
    split at hr
    · exact ih h.2.2 hr
    · rename_i hfirst
      rw [decide_eq_true_eq, Nat.not_lt] at hfirst
      rcases List.mem_cons.mp hr with rfl | hr
      · exact hfirst
      · have := h.2.1
        have := h.2.2.mem hr
        omega

/-- The spans are no longer together than the interval. -/
theorem Tiles.total_le (h : Tiles start stop lo hi spans) :
    spanTotal start stop spans ≤ hi - lo := by
  induction spans generalizing lo with
  | nil => exact Nat.zero_le _
  | cons r rest ih =>
    obtain ⟨hlo, hlt, hrest⟩ := h
    have := ih hrest
    have := hrest.le
    rw [spanTotal_cons]
    omega

/-- Spans that fill the interval leave no gap. -/
theorem Tiles.spanned_of_total (h : Tiles start stop lo hi spans)
    (htotal : spanTotal start stop spans = hi - lo) {i : Nat} (hlo : lo ≤ i) (hhi : i < hi) :
    Spanned start stop spans i := by
  induction spans generalizing lo with
  | nil =>
    rw [spanTotal] at htotal
    omega
  | cons r rest ih =>
    obtain ⟨hfirst, hlt, hrest⟩ := h
    have hle := hrest.total_le
    have hstop := hrest.le
    rw [spanTotal_cons] at htotal
    -- so the first span starts at the bound and the others fill the rest
    by_cases hi' : i < stop r
    · exact spanned_cons.mpr (.inl ⟨by omega, hi'⟩)
    · exact spanned_cons.mpr (.inr (ih hrest (by omega) (by omega)))

/-- Spans that leave no gap fill the interval. -/
theorem Tiles.total_of_spanned (h : Tiles start stop lo hi spans)
    (hall : ∀ i, lo ≤ i → i < hi → Spanned start stop spans i) :
    spanTotal start stop spans = hi - lo := by
  induction spans generalizing lo with
  | nil =>
    by_contra hne
    obtain ⟨r, hr, _⟩ := hall lo (Nat.le_refl lo) (by rw [spanTotal] at hne; omega)
    cases hr
  | cons r rest ih =>
    obtain ⟨hfirst, hlt, hrest⟩ := h
    have hstop := hrest.le
    -- only the first span can have the lower bound
    have hstart : start r = lo := by
      rcases spanned_cons.mp (hall lo (Nat.le_refl lo) (by omega)) with hin | ⟨x, hx, hin⟩
      · omega
      · have := (hrest.mem hx).1
        omega
    have htotal := ih hrest fun i hi hhi => by
      rcases spanned_cons.mp (hall i (by omega) hhi) with hin | hin
      · omega
      · exact hin
    rw [spanTotal_cons, htotal]
    omega

/-- A new span between the spans that stop before it and those that start behind it. -/
theorem Tiles.insert {r : ρ} (h : Tiles start stop lo hi (before ++ after))
    (hne : start r < stop r) (hlo : lo ≤ start r) (hhi : stop r ≤ hi)
    (hbefore : ∀ x ∈ before, stop x ≤ start r) (hafter : ∀ x ∈ after, stop r ≤ start x) :
    Tiles start stop lo hi (before ++ r :: after) := by
  obtain ⟨mid, hfirst, hsecond⟩ := tiles_append.mp h
  refine tiles_append.mpr ⟨start r, hfirst.upper hlo hbefore, Nat.le_refl _, hne, ?_⟩
  cases after with
  | nil => exact hhi
  | cons x rest => exact ⟨hafter x List.mem_cons_self, hsecond.2⟩

/-- Joining spans of a tiling keeps it a tiling, with the same length and positions. -/
theorem Joins.keeps (h : Joins start stop spans out) (htiles : Tiles start stop lo hi spans) :
    Tiles start stop lo hi out ∧ spanTotal start stop out = spanTotal start stop spans ∧
      ∀ i, Spanned start stop out i ↔ Spanned start stop spans i := by
  induction h with
  | refl spans => exact ⟨htiles, rfl, fun _ => Iff.rfl⟩
  | @join x y z out before after htouch hstart hstop h ih =>
    obtain ⟨mid, hbefore, hmid, hx, _, hy, hafter⟩ := tiles_append.mp htiles
    have hjoined : Tiles start stop lo hi (before ++ z :: after) := by
      refine tiles_append.mpr ⟨mid, hbefore, ?_, ?_, ?_⟩
      · rw [hstart]
        exact hmid
      · omega
      · rw [hstop]
        exact hafter
    obtain ⟨htiled, htotal, hspanned⟩ := ih hjoined
    refine ⟨htiled, htotal.trans ?_, fun i => (hspanned i).trans ?_⟩
    · simp only [spanTotal_append, spanTotal_cons]
      omega
    · simp only [spanned_append, spanned_cons]
      have hsplit : (start z ≤ i ∧ i < stop z) ↔
          (start x ≤ i ∧ i < stop x) ∨ (start y ≤ i ∧ i < stop y) := by omega
      rw [hsplit, or_assoc]

/-- Two spans have no position in common. -/
def Apart (start stop : ρ → Nat) (x y : ρ) : Prop :=
  stop x ≤ start y ∨ stop y ≤ start x

/-- Spans that are pairwise apart, in whatever order they are listed, have together no more
positions than there are below their bound. -/
theorem total_le_of_apart {n : Nat} (hapart : spans.Pairwise (Apart start stop))
    (hbound : ∀ r ∈ spans, stop r ≤ n) : spanTotal start stop spans ≤ n := by
  let positions := fun r => List.range' (start r) (stop r - start r)
  have hlength : (spans.flatMap positions).length = spanTotal start stop spans := by
    clear hapart hbound
    induction spans with
    | nil => rfl
    | cons r rest ih =>
      rw [List.flatMap_cons, List.length_append, ih, spanTotal_cons, List.length_range']
  -- no position is listed twice, since spans that are apart share none
  have hnodup : (spans.flatMap positions).Nodup := by
    rw [List.nodup_flatMap]
    refine ⟨fun r _ => List.nodup_range', hapart.imp ?_⟩
    intro x y hxy i hx hy
    have hx := List.mem_range'_1.mp hx
    have hy := List.mem_range'_1.mp hy
    rcases hxy with h | h <;> omega
  have hbelow : spans.flatMap positions ⊆ List.range n := by
    intro i hi
    obtain ⟨r, hr, hi⟩ := List.mem_flatMap.mp hi
    have := List.mem_range'_1.mp hi
    have := hbound r hr
    exact List.mem_range.mpr (by omega)
  have hle := hnodup.length_le_of_subset fun i hi => hbelow hi
  rw [hlength, List.length_range] at hle
  exact hle

end Spans

end XgenLink
