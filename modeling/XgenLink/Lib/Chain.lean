import Mathlib.Data.List.Basic
import Mathlib.Data.List.Nodup
import Mathlib.Logic.Function.Basic
import Mathlib.Tactic.Common

/-!
# `XgenLink.Lib.Chain`: lists threaded through memory

A list in memory is a head and a link from each of its cells to the next; the last link is
null. What the links are stored in does not matter here: they are a function from cells to
cells.

* `Chained`: the cells from a head to null, in order. They are determined by the links
  (`Chained.unique`), no cell occurs twice (`Chained.nodup`), and links of other cells do not
  matter (`Chained.congr`).
* `Chained.push`, `Chained.pop`: the operations at the head.
* `Chained.unlink`, `Chained.snoc`: taking a cell out of the middle and adding one at the end,
  through the link of the cell before it.
-/

set_option autoImplicit false

namespace XgenLink

section Chains

variable {α : Type} (null : α) (next : α → α)

/-- The cells from a head along the links up to null. -/
def Chained : α → List α → Prop
  | head, [] => head = null
  | head, a :: rest => head = a ∧ a ≠ null ∧ Chained (next a) rest

variable {null next} {next' : α → α} {head a : α} {cells others : List α}

/-- Null is no cell. -/
theorem Chained.ne_null (h : Chained null next head cells) (ha : a ∈ cells) : a ≠ null := by
  induction cells generalizing head with
  | nil => cases ha
  | cons b rest ih =>
    rcases List.mem_cons.mp ha with rfl | ha
    · exact h.2.1
    · exact ih h.2.2 ha

/-- The links determine the cells. -/
theorem Chained.unique (h : Chained null next head cells) (h' : Chained null next head others) :
    cells = others := by
  induction cells generalizing head others with
  | nil =>
    cases others with
    | nil => rfl
    | cons b rest => exact absurd (h'.1.symm.trans h) h'.2.1
  | cons a rest ih =>
    cases others with
    | nil => exact absurd (h.1.symm.trans h') h.2.1
    | cons b rest' =>
      have hab : a = b := h.1.symm.trans h'.1
      subst hab
      rw [ih h.2.2 h'.2.2]

/-- From every cell the rest of the list is threaded. -/
theorem Chained.drop {before after : List α} (h : Chained null next head (before ++ a :: after)) :
    Chained null next a (a :: after) := by
  induction before generalizing head with
  | nil => exact ⟨rfl, h.2⟩
  | cons b rest ih => exact ih h.2.2

/-- No cell occurs twice: the rest behind it would have two lengths. -/
theorem Chained.nodup (h : Chained null next head cells) : cells.Nodup := by
  induction cells generalizing head with
  | nil => exact List.nodup_nil
  | cons a rest ih =>
    refine List.nodup_cons.mpr ⟨?_, ih h.2.2⟩
    intro hmem
    obtain ⟨before, after, rfl⟩ := List.append_of_mem hmem
    have hagain : Chained null next a (a :: after) := h.2.2.drop
    have hfirst : Chained null next a (a :: (before ++ a :: after)) := ⟨rfl, h.2⟩
    have hlength := congrArg List.length (hfirst.unique hagain)
    simp only [List.length_cons, List.length_append] at hlength
    omega

/-- Links of other cells do not matter. -/
theorem Chained.congr (h : Chained null next head cells)
    (hsame : ∀ a ∈ cells, next' a = next a) : Chained null next' head cells := by
  induction cells generalizing head with
  | nil => exact h
  | cons a rest ih =>
    refine ⟨h.1, h.2.1, ?_⟩
    rw [hsame a List.mem_cons_self]
    exact ih h.2.2 fun b hb => hsame b (List.mem_cons_of_mem _ hb)

/-- A new cell in front. -/
theorem Chained.push (h : Chained null next head cells) (hne : a ≠ null) (hlink : next' a = head)
    (hsame : ∀ b ∈ cells, next' b = next b) : Chained null next' a (a :: cells) := by
  refine ⟨rfl, hne, ?_⟩
  rw [hlink]
  exact h.congr hsame

/-- A list that is not empty starts at its head, and the rest at the head's link. -/
theorem Chained.pop (h : Chained null next head cells) (hne : head ≠ null) :
    ∃ rest, cells = head :: rest ∧ Chained null next (next head) rest := by
  cases cells with
  | nil => exact absurd h hne
  | cons a rest =>
    obtain ⟨rfl, _, hrest⟩ := h
    exact ⟨rest, rfl, hrest⟩

/-- The head is the first cell, or null. -/
theorem Chained.head_eq (h : Chained null next head cells) : head = cells.headD null := by
  cases cells with
  | nil => exact h
  | cons a rest => exact h.1

/-- The link of a cell is the cell behind it, or null. -/
theorem Chained.next_eq {before after : List α}
    (h : Chained null next head (before ++ a :: after)) : next a = after.headD null :=
  h.drop.2.2.head_eq

variable [DecidableEq α] {before after : List α} {p : α}

/-- The link of a cell that is not in the list may change. -/
theorem Chained.update (h : Chained null next head cells) (ha : a ∉ cells) (b : α) :
    Chained null (Function.update next a b) head cells := by
  refine h.congr fun c hc => Function.update_of_ne ?_ b next
  rintro rfl
  exact ha hc

omit [DecidableEq α] in
/-- The last of some cells in front of a place is one of them, or what stood before them. -/
theorem getLastD_mem (b : α) (before : List α) : before.getLastD b ∈ b :: before := by
  induction before generalizing b with
  | nil => exact List.mem_cons_self
  | cons c rest ih =>
    rw [List.getLastD_cons]
    exact List.mem_cons_of_mem _ (ih c)

/-- A cell is taken out by linking the cell before it, or the head, to the cell behind it. -/
theorem Chained.unlink (h : Chained null next head (before ++ a :: after))
    (hp : p = before.getLastD null) :
    Chained null (if p ≠ null then Function.update next p (next a) else next)
      (if p ≠ null then head else next a) (before ++ after) := by
  induction before generalizing head with
  | nil =>
    have hnull : p = null := hp
    rw [if_neg (not_not.mpr hnull), if_neg (not_not.mpr hnull)]
    exact h.2.2
  | cons b rest ih =>
    rw [List.getLastD_cons] at hp
    have hnodup := h.nodup
    have hpmem : p ∈ b :: (rest ++ a :: after) := by
      rw [hp]
      exact List.cons_subset_cons b (List.subset_append_left rest _) (getLastD_mem b rest)
    have hne : p ≠ null := h.ne_null hpmem
    rw [if_pos hne, if_pos hne]
    obtain ⟨hhead, hb, hrest⟩ := h
    refine ⟨hhead, hb, ?_⟩
    have hbRest := (List.nodup_cons.mp hnodup).1
    cases rest with
    | nil =>
      -- the cell before it is the first one
      have hpb : p = b := hp
      subst hpb
      rw [Function.update_self]
      exact hrest.2.2.update (fun hin => hbRest (List.mem_cons_of_mem _ hin)) _
    | cons c rest =>
      rw [List.getLastD_cons] at hp
      have hpc : p = (c :: rest).getLastD null := by rw [List.getLastD_cons, hp]
      have hstep := ih hrest hpc
      rw [if_pos hne, if_pos hne] at hstep
      have hbp : b ≠ p := by
        rintro rfl
        refine hbRest (List.mem_append_left _ ?_)
        rw [hp]
        exact getLastD_mem c rest
      rw [Function.update_of_ne hbp]
      exact hstep

/-- A cell is added at the end by linking the last cell, or the head, to it. -/
theorem Chained.snoc (h : Chained null next head cells) (ha : a ∉ cells) (hne : a ≠ null)
    (hend : next a = null) (hp : p = cells.getLastD null) :
    Chained null (if p ≠ null then Function.update next p a else next)
      (if p ≠ null then head else a) (cells ++ [a]) := by
  induction cells generalizing head with
  | nil =>
    have hnull : p = null := hp
    rw [if_neg (not_not.mpr hnull), if_neg (not_not.mpr hnull)]
    exact ⟨rfl, hne, hend⟩
  | cons b rest ih =>
    rw [List.getLastD_cons] at hp
    have hnodup := h.nodup
    have hpmem : p ∈ b :: rest := hp ▸ getLastD_mem b rest
    have hpne : p ≠ null := h.ne_null hpmem
    have hap : a ≠ p := fun heq => ha (heq ▸ hpmem)
    rw [if_pos hpne, if_pos hpne]
    obtain ⟨hhead, hb, hrest⟩ := h
    refine ⟨hhead, hb, ?_⟩
    cases rest with
    | nil =>
      have hpb : p = b := hp
      subst hpb
      rw [Function.update_self]
      exact ⟨rfl, hne, (Function.update_of_ne hap _ _).trans hend⟩
    | cons c rest =>
      rw [List.getLastD_cons] at hp
      have hstep := ih hrest (fun hin => ha (List.mem_cons_of_mem _ hin))
        (by rw [List.getLastD_cons, hp])
      rw [if_pos hpne, if_pos hpne] at hstep
      have hbp : b ≠ p := by
        rintro rfl
        refine (List.nodup_cons.mp hnodup).1 ?_
        rw [hp]
        exact getLastD_mem c rest
      rw [Function.update_of_ne hbp]
      exact hstep

end Chains

end XgenLink
