import Mathlib.Data.List.Perm.Basic

/-!
# `XgenLink.Lib.PermFold`: folds that may fail, over entries in another order

A fold over entries of distinct keys does not depend on their order when any two steps of
different keys can be swapped. The steps may fail, and two failures count as the same up to a
relation.

* `Outcomes`: the same state, or failures that are related.
* `foldlM_perm`: the fold over a permutation.
-/

set_option autoImplicit false

namespace XgenLink

variable {ε σ α κ : Type}

/-- The same state, or failures that are related. -/
inductive Outcomes (E : ε → ε → Prop) : Except ε σ → Except ε σ → Prop where
  | ok (s : σ) : Outcomes E (.ok s) (.ok s)
  | error {e e' : ε} (h : E e e') : Outcomes E (.error e) (.error e')

namespace Outcomes

variable {E : ε → ε → Prop}

/-- Outcomes are related to themselves. -/
theorem refl (hrefl : ∀ e, E e e) (r : Except ε σ) : Outcomes E r r := by
  cases r with
  | ok s => exact .ok s
  | error e => exact .error (hrefl e)

/-- They are related from either side. -/
theorem symm (hsymm : ∀ {a b}, E a b → E b a) {r s : Except ε σ} (h : Outcomes E r s) :
    Outcomes E s r := by
  cases h with
  | ok s => exact .ok s
  | error h => exact .error (hsymm h)

/-- Three outcomes in a row. -/
theorem trans (htrans : ∀ a b c, E a b → E b c → E a c) {r s t : Except ε σ}
    (hrs : Outcomes E r s) (hst : Outcomes E s t) : Outcomes E r t := by
  cases hrs with
  | ok s => exact hst
  | error h =>
    cases hst with
    | error h' => exact .error (htrans _ _ _ h h')

/-- What follows a state follows related outcomes. -/
theorem bind (hrefl : ∀ e, E e e) {r s : Except ε σ} (h : Outcomes E r s) (f : σ → Except ε σ) :
    Outcomes E (r >>= f) (s >>= f) := by
  cases h with
  | ok s => exact refl hrefl _
  | error h => exact .error h

end Outcomes

/-- The fold over a permutation of entries with distinct keys. The induction is on the
permutation. -/
theorem foldlM_perm {E : ε → ε → Prop} (hrefl : ∀ e, E e e)
    (htrans : ∀ a b c, E a b → E b c → E a c) {step : σ → α → Except ε σ} {key : α → κ}
    (hswap : ∀ s a b, key a ≠ key b →
      Outcomes E (step s a >>= fun s => step s b) (step s b >>= fun s => step s a))
    {entries entries' : List α} (hperm : entries.Perm entries')
    (hdistinct : (entries.map key).Nodup) (s : σ) :
    Outcomes E (entries.foldlM step s) (entries'.foldlM step s) := by
  induction hperm generalizing s with
  | nil => exact .refl hrefl _
  | cons a _ ih =>
    rw [List.foldlM_cons, List.foldlM_cons]
    cases step s a with
    | error e => exact .refl hrefl _
    | ok next => exact ih (List.nodup_cons.mp hdistinct).2 next
  | swap a b rest =>
    have hne : key a ≠ key b := by
      intro heq
      refine (List.nodup_cons.mp hdistinct).1 ?_
      rw [← heq]
      exact List.mem_cons_self
    simp only [List.foldlM_cons, ← bind_assoc]
    exact (hswap s b a (Ne.symm hne)).bind hrefl _
  | trans hab _ ihab ihbc =>
    exact (ihab hdistinct s).trans htrans
      (ihbc ((hab.map key).nodup_iff.mp hdistinct) s)

end XgenLink
