import Mathlib.Data.List.Basic

/-!
# `XgenLink.Lib.Log`: a log that grows by entries of a kind

A machine that writes a log only appends to it. What matters about a step is then which
kind of entry it adds, and steps compose: the log of two steps grows by the entries of both.
The kind may say as much as the step is known to do, and a wider kind is a weaker statement.

* `Appends`: the log grew, and every new entry is of a kind.
* `Appends.refl`, `Appends.trans`, `Appends.mono`: growing is a preorder for every kind.
* `Appends.forall_mem`: what holds of the old entries and of the kind holds of all entries.
* `sublist_of_rising`: entries picked from a log in the order of their ranks are a part of it.
-/

set_option autoImplicit false

namespace XgenLink

/-- The log grew, and every new entry is of the kind. -/
def Appends {α : Type} (kind : α → Prop) (before after : List α) : Prop :=
  ∃ new, after = before ++ new ∧ ∀ entry ∈ new, kind entry

section Growing

variable {α : Type} {kind wider : α → Prop} {before mid after : List α}

/-- Nothing is added. -/
theorem Appends.refl (before : List α) : Appends kind before before :=
  ⟨[], (List.append_nil _).symm, fun _ h => nomatch h⟩

/-- The log is the same. -/
theorem Appends.of_eq (h : after = before) : Appends kind before after := by
  rw [h]
  exact .refl before

/-- One new entry. -/
theorem Appends.one {entry : α} (h : kind entry) : Appends kind before (before ++ [entry]) := by
  refine ⟨[entry], rfl, fun other hother => ?_⟩
  rw [List.mem_singleton.mp hother]
  exact h

/-- What two steps add, one behind the other. -/
theorem Appends.trans (h : Appends kind before mid) (h' : Appends kind mid after) :
    Appends kind before after := by
  obtain ⟨first, rfl, hfirst⟩ := h
  obtain ⟨second, rfl, hsecond⟩ := h'
  refine ⟨first ++ second, List.append_assoc _ _ _, fun entry hentry => ?_⟩
  rcases List.mem_append.mp hentry with hentry | hentry
  · exact hfirst entry hentry
  · exact hsecond entry hentry

/-- Entries of a kind are entries of a wider kind. -/
theorem Appends.mono (h : Appends kind before after) (hwider : ∀ entry, kind entry → wider entry) :
    Appends wider before after := by
  obtain ⟨new, rfl, hnew⟩ := h
  exact ⟨new, rfl, fun entry hentry => hwider entry (hnew entry hentry)⟩

/-- The log before is a front part of the log behind. -/
theorem Appends.isPrefix (h : Appends kind before after) : before <+: after := by
  obtain ⟨new, rfl, -⟩ := h
  exact List.prefix_append _ _

/-- What held of the log and holds of the kind holds of the log now. -/
theorem Appends.forall_mem {P : α → Prop} (h : Appends kind before after)
    (hbefore : ∀ entry ∈ before, P entry) (hkind : ∀ entry, kind entry → P entry) :
    ∀ entry ∈ after, P entry := by
  obtain ⟨new, rfl, hnew⟩ := h
  intro entry hentry
  rcases List.mem_append.mp hentry with hold | hadded
  · exact hbefore entry hold
  · exact hkind entry (hnew entry hadded)

end Growing

/-- A log whose ranks never fall holds entries of rising ranks in their order. The induction is
on the log. -/
theorem sublist_of_rising {α : Type} (rank : α → Nat) {log picked : List α}
    (hlog : log.Pairwise fun a b => rank a ≤ rank b)
    (hpicked : picked.Pairwise fun a b => rank a < rank b) (hmem : ∀ a ∈ picked, a ∈ log) :
    picked.Sublist log := by
  induction log generalizing picked with
  | nil =>
    cases picked with
    | nil => exact List.Sublist.refl _
    | cons x rest => exact absurd (hmem x List.mem_cons_self) List.not_mem_nil
  | cons a log ih =>
    cases picked with
    | nil => exact List.nil_sublist _
    | cons x rest =>
      rw [List.pairwise_cons] at hlog hpicked
      -- what is picked behind `x` has a higher rank, so it lies behind `a`
      have hrest : ∀ y ∈ rest, y ∈ log := by
        intro y hy
        rcases List.mem_cons.mp (hmem y (List.mem_cons_of_mem _ hy)) with rfl | hin
        · have hlt := hpicked.1 y hy
          rcases List.mem_cons.mp (hmem x List.mem_cons_self) with rfl | hx
          · exact absurd hlt (Nat.lt_irrefl _)
          · exact absurd hlt (Nat.not_lt.mpr (hlog.1 x hx))
        · exact hin
      rcases List.mem_cons.mp (hmem x List.mem_cons_self) with rfl | hx
      · exact (ih hlog.2 hpicked.2 hrest).cons_cons x
      · refine (ih hlog.2 (List.pairwise_cons.mpr hpicked) fun y hy => ?_).cons a
        rcases List.mem_cons.mp hy with rfl | hin
        · exact hx
        · exact hrest y hin

end XgenLink
