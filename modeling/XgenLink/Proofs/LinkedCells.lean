import XgenLink.Core.LinkedList
import XgenLink.Lib.Chain

/-!
# `XgenLink.Proofs.LinkedCells`: the cells of an intrusive list

`xgl_list.c` links the nodes of other structures into doubly linked lists. A list is a head, a
tail and a count, and every node has a link to the next and one to the previous node. So a list is
two chains over the same cells, one along `next` from the head and one along `prev` from the tail,
and the chain lemmas of `Lib.Chain` apply to both. Each operation of `xgl_list.c` is an operation
on both chains.

* `Listed`: the cells of a list, in order.
* `Listed.congr`: a list does not see the links of other nodes.
* `Listed.insertTail`, `Listed.remove`, `Listed.removeHead_nil`: what the operations do.
-/

set_option autoImplicit false

namespace XgenLink

/-- The list has these cells, forwards and backwards, and counts them. -/
structure Listed (list : XglList) (nodes : ListNodes) (cells : List Nat) : Prop where
  next : Chained 0 nodes.next list.head cells
  prev : Chained 0 nodes.prev list.tail cells.reverse
  count : list.count = cells.length

variable {list : XglList} {nodes nodes' : ListNodes} {cells before after : List Nat} {a : Nat}

/-- The first of the cells read backwards is the last. -/
theorem headD_reverse (cells : List Nat) : cells.reverse.headD 0 = cells.getLastD 0 := by
  rw [List.headD_eq_head?_getD, List.head?_reverse, List.getLastD_eq_getLast?]

/-- The last of them is the first of the cells. -/
theorem getLastD_reverse (cells : List Nat) : cells.reverse.getLastD 0 = cells.headD 0 := by
  rw [← headD_reverse, List.reverse_reverse]

/-- A list just set up has no cells. -/
theorem listed_init : Listed {} nodes [] where
  next := rfl
  prev := rfl
  count := rfl

/-- Links of other nodes do not matter. -/
theorem Listed.congr (h : Listed list nodes cells)
    (hsame : ∀ b ∈ cells, nodes'.next b = nodes.next b ∧ nodes'.prev b = nodes.prev b) :
    Listed list nodes' cells where
  next := h.next.congr fun b hb => (hsame b hb).1
  prev := h.prev.congr fun b hb => (hsame b (List.mem_reverse.mp hb)).2
  count := h.count

/-- A node that is in no list is added at the end. -/
theorem Listed.insertTail (h : Listed list nodes cells) (ha : a ∉ cells) (hne : a ≠ 0) :
    Listed (xglListInsertTail list nodes a).1 (xglListInsertTail list nodes a).2
      (cells ++ [a]) where
  next := by
    have htail : list.tail = cells.getLastD 0 := h.prev.head_eq.trans (headD_reverse cells)
    exact (h.next.update ha 0).snoc ha hne (Function.update_self _ _ _) htail
  prev := by
    rw [List.reverse_append, List.reverse_singleton, List.singleton_append]
    refine h.prev.push hne (Function.update_self _ _ _) fun b hb => Function.update_of_ne ?_ _ _
    rintro rfl
    exact ha (List.mem_reverse.mp hb)
  count := by
    rw [List.length_append, List.length_singleton, ← h.count]
    rfl

/-- What a removal writes, once it is known what stands before and behind the node. -/
theorem Listed.remove (h : Listed list nodes (before ++ a :: after)) :
    Listed (xglListRemove list nodes a).1 (xglListRemove list nodes a).2 (before ++ after) := by
  have hnodup := h.next.nodup
  have ha : a ∉ before ++ after := (List.nodup_middle.mp hnodup).notMem
  have hprev := h.prev
  rw [List.reverse_append, List.reverse_cons, List.append_assoc, List.singleton_append] at hprev
  have hbefore : nodes.prev a = before.getLastD 0 := hprev.next_eq.trans (headD_reverse before)
  have hafter : nodes.next a = after.headD 0 := h.next.next_eq
  have hbackward : nodes.next a = after.reverse.getLastD 0 :=
    hafter.trans (getLastD_reverse after).symm
  -- the first write does not touch the link of the node itself
  have hread : (if nodes.prev a ≠ 0 then
      Function.update nodes.next (nodes.prev a) (nodes.next a) else nodes.next) a
        = nodes.next a := by
    split
    · by_cases heq : a = nodes.prev a
      · rw [← heq, Function.update_self]
      · exact Function.update_of_ne heq _ _
    · rfl
  constructor
  · exact (h.next.unlink hbefore).update ha 0
  · have hchain := hprev.unlink hbackward
    have hnot : a ∉ after.reverse ++ before.reverse := by
      rw [← List.reverse_append, List.mem_reverse]
      exact ha
    simp only [xglListRemove, hread]
    rw [List.reverse_append]
    exact hchain.update hnot 0
  · have hcount := h.count
    rw [List.length_append, List.length_cons] at hcount
    rw [List.length_append]
    show list.count - 1 = _
    omega

/-- Nothing is taken off an empty list. -/
theorem Listed.removeHead_nil (h : Listed list nodes []) :
    xglListRemoveHead list nodes = (0, list, nodes) :=
  if_pos h.next

end XgenLink
