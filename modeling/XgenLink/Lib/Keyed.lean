import Mathlib.Data.List.Basic
import Mathlib.Data.List.Nodup
import Mathlib.Logic.Function.Basic

/-!
# `XgenLink.Lib.Keyed`: lists whose elements have distinct keys

A list of records with a key each is a finite map when no key occurs twice. The
lemmas say, by membership, what replacing, appending and taking out one record
does to such a list, and what writing one chain does to a list of chains.

* `Keyed.mem_set`, `Keyed.mem_append`, `Keyed.mem_eraseIdx`: the records after a change.
* `findIdx?_key_some`, `findIdx?_key_none`: the search for the record of a key.
* `Shows`, `Shows.update`, `Shows.erase`: a list and the partial function it is the graph of.
* `length_flatten_set`: one chain of a list of chains replaced.
-/

set_option autoImplicit false

namespace XgenLink

section Keys

variable {α κ : Type} {key : α → κ} {xs : List α}

/-- No two elements have one key. -/
def Keyed (key : α → κ) (xs : List α) : Prop := (xs.map key).Nodup

/-- Two places with one key are one. -/
theorem Keyed.index_eq (h : Keyed key xs) {i j : Nat} {x y : α} (hx : xs[i]? = some x)
    (hy : xs[j]? = some y) (hkey : key x = key y) : i = j := by
  obtain ⟨hi, rfl⟩ := List.getElem?_eq_some_iff.1 hx
  obtain ⟨hj, rfl⟩ := List.getElem?_eq_some_iff.1 hy
  have hi' : i < (xs.map key).length := by simpa using hi
  have hj' : j < (xs.map key).length := by simpa using hj
  have hkeys : (xs.map key)[i] = (xs.map key)[j] := by simpa using hkey
  exact (List.Nodup.getElem_inj_iff h).1 hkeys

/-! ### One record replaced, appended or taken out -/

/-- A record replaced by one of its key leaves the keys as they are. -/
theorem map_key_set {i : Nat} {old new : α} (hold : xs[i]? = some old)
    (hkey : key new = key old) : (xs.set i new).map key = xs.map key := by
  obtain ⟨hi, rfl⟩ := List.getElem?_eq_some_iff.1 hold
  rw [List.map_set, hkey]
  have hi' : i < (xs.map key).length := by simpa using hi
  simpa using List.set_getElem_self hi'

/-- A record replaced by one of its key: the new one, and the old ones of other keys. -/
theorem Keyed.mem_set (h : Keyed key xs) {i : Nat} {old new : α} (hold : xs[i]? = some old)
    (hkey : key new = key old) {x : α} :
    x ∈ xs.set i new ↔ x = new ∨ x ∈ xs ∧ key x ≠ key new := by
  have hi : i < xs.length := (List.getElem?_eq_some_iff.1 hold).1
  constructor
  · intro hx
    obtain ⟨j, hj⟩ := List.mem_iff_getElem?.1 hx
    by_cases hij : i = j
    · subst hij
      rw [List.getElem?_set_self hi] at hj
      exact Or.inl (Option.some.inj hj).symm
    · rw [List.getElem?_set_ne hij] at hj
      refine Or.inr ⟨List.mem_of_getElem? hj, ?_⟩
      intro hsame
      exact hij (h.index_eq hold hj (hkey.symm.trans hsame.symm))
  · rintro (rfl | ⟨hx, hne⟩)
    · exact List.mem_set hi _
    · obtain ⟨j, hj⟩ := List.mem_iff_getElem?.1 hx
      have hij : i ≠ j := by
        rintro rfl
        rw [hold] at hj
        exact hne (Option.some.inj hj ▸ hkey.symm)
      exact List.mem_iff_getElem?.2 ⟨j, by rw [List.getElem?_set_ne hij, hj]⟩

/-- A record of a new key keeps the keys distinct. -/
theorem Keyed.append (h : Keyed key xs) {new : α} (hnew : key new ∉ xs.map key) :
    Keyed key (xs ++ [new]) := by
  show ((xs ++ [new]).map key).Nodup
  rw [List.map_append, List.map_singleton]
  exact List.Nodup.append h (List.nodup_singleton _) (by simpa using hnew)

/-- A record appended under a new key. -/
theorem mem_append_new {new : α} (hnew : key new ∉ xs.map key) {x : α} :
    x ∈ xs ++ [new] ↔ x = new ∨ x ∈ xs ∧ key x ≠ key new := by
  rw [List.mem_append, List.mem_singleton]
  constructor
  · rintro (hx | hx)
    · exact Or.inr ⟨hx, fun hsame => hnew (hsame ▸ List.mem_map_of_mem hx)⟩
    · exact Or.inl hx
  · rintro (hx | ⟨hx, -⟩)
    · exact Or.inr hx
    · exact Or.inl hx

/-- Taking a record out keeps the keys distinct. -/
theorem Keyed.eraseIdx (h : Keyed key xs) (i : Nat) : Keyed key (xs.eraseIdx i) :=
  List.Nodup.sublist ((List.eraseIdx_sublist xs i).map key) h

/-- A record taken out: the others are those of other keys. -/
theorem Keyed.mem_eraseIdx (h : Keyed key xs) {i : Nat} {old : α} (hold : xs[i]? = some old)
    {x : α} : x ∈ xs.eraseIdx i ↔ x ∈ xs ∧ key x ≠ key old := by
  rw [List.mem_eraseIdx_iff_getElem?]
  constructor
  · rintro ⟨j, hij, hj⟩
    exact ⟨List.mem_of_getElem? hj, fun hsame => hij (h.index_eq hj hold hsame)⟩
  · rintro ⟨hx, hne⟩
    obtain ⟨j, hj⟩ := List.mem_iff_getElem?.1 hx
    refine ⟨j, ?_, hj⟩
    rintro rfl
    rw [hold] at hj
    exact hne (Option.some.inj hj ▸ rfl)

end Keys

section Search

variable {α κ : Type} [DecidableEq κ] {key : α → κ} {xs : List α} {k : κ}

/-- A search that ends at an index found a record of the key there. -/
theorem findIdx?_key_some {i : Nat} (h : xs.findIdx? (fun x => key x == k) = some i) :
    ∃ x, xs[i]? = some x ∧ key x = k := by
  obtain ⟨hi, hkey, -⟩ := List.findIdx?_eq_some_iff_getElem.1 h
  exact ⟨xs[i], List.getElem?_eq_getElem hi, by simpa using hkey⟩

/-- A search that finds nothing says that the key does not occur. -/
theorem findIdx?_key_none (h : xs.findIdx? (fun x => key x == k) = none) : k ∉ xs.map key := by
  intro hk
  obtain ⟨x, hx, hkey⟩ := List.mem_map.1 hk
  have := List.findIdx?_eq_none_iff.1 h x hx
  simp [hkey] at this

/-! ### The partial function a list shows -/

/-- The list is the graph of the partial function. -/
def Shows (key : α → κ) (xs : List α) (map : κ → Option α) : Prop :=
  ∀ k x, map k = some x ↔ x ∈ xs ∧ key x = k

/-- Setting one key. -/
theorem Shows.update {map : κ → Option α} (h : Shows key xs map) {ys : List α} {new : α}
    (hys : ∀ x, x ∈ ys ↔ x = new ∨ x ∈ xs ∧ key x ≠ key new) :
    Shows key ys (Function.update map (key new) (some new)) := by
  intro k x
  rw [hys]
  by_cases hk : k = key new
  · subst hk
    rw [Function.update_self]
    constructor
    · intro hx
      exact ⟨Or.inl (Option.some.inj hx).symm, Option.some.inj hx ▸ rfl⟩
    · rintro ⟨rfl | ⟨-, hne⟩, hkey⟩
      · rfl
      · exact absurd hkey hne
  · rw [Function.update_of_ne hk, h]
    constructor
    · rintro ⟨hx, rfl⟩
      exact ⟨Or.inr ⟨hx, hk⟩, rfl⟩
    · rintro ⟨rfl | ⟨hx, -⟩, rfl⟩
      · exact absurd rfl hk
      · exact ⟨hx, rfl⟩

/-- Taking one key out. -/
theorem Shows.erase {map : κ → Option α} (h : Shows key xs map) {ys : List α} {gone : κ}
    (hys : ∀ x, x ∈ ys ↔ x ∈ xs ∧ key x ≠ gone) :
    Shows key ys (Function.update map gone none) := by
  intro k x
  rw [hys]
  by_cases hk : k = gone
  · subst hk
    rw [Function.update_self]
    constructor
    · intro hx
      cases hx
    · rintro ⟨⟨-, hne⟩, hkey⟩
      exact absurd hkey hne
  · rw [Function.update_of_ne hk, h]
    constructor
    · rintro ⟨hx, rfl⟩
      exact ⟨⟨hx, hk⟩, rfl⟩
    · rintro ⟨⟨hx, -⟩, rfl⟩
      exact ⟨hx, rfl⟩

omit [DecidableEq κ] in
/-- The empty list shows the function that is nowhere defined. -/
theorem Shows.nil : Shows key [] (fun _ => none) := by
  intro k x
  simp

omit [DecidableEq κ] in
/-- A list shows one function only. -/
theorem Shows.unique {map other : κ → Option α} (h : Shows key xs map)
    (hother : Shows key xs other) : map = other := by
  funext k
  exact Option.ext fun x => (h k x).trans (hother k x).symm

end Search

/-! ### Chains -/

section Chains

variable {α : Type}

/-- The total length after one chain is replaced. -/
theorem length_flatten_set {chains : List (List α)} {i : Nat} {old : List α} (new : List α)
    (hold : chains[i]? = some old) :
    (chains.set i new).flatten.length + old.length = chains.flatten.length + new.length := by
  induction chains generalizing i with
  | nil => simp at hold
  | cons chain rest ih =>
    cases i with
    | zero =>
      have hchain : chain = old := by simpa using hold
      subst hchain
      simp only [List.set_cons_zero, List.flatten_cons, List.length_append]
      omega
    | succ i =>
      have hrest := ih (by simpa using hold)
      simp only [List.set_cons_succ, List.flatten_cons, List.length_append]
      omega

end Chains

end XgenLink
