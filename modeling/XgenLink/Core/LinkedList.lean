import Mathlib.Logic.Function.Basic

/-!
# `XgenLink.Core.LinkedList`: the intrusive list

`xgl_list.c`, as far as the wait-ACK queue uses it: initialising a node, adding one at the tail,
taking one out of the middle, and taking the first one off.

The list is intrusive, its nodes are fields of the structures it links. Nodes are addresses and 0
is `NULL`; the links of the nodes are in memory, beside the list that has the first and the last of
them. A node that was taken out has its links set back to `NULL`.
-/

set_option autoImplicit false

namespace XgenLink

/-- The links of all nodes in memory, `xgl_list_node_t` at each address. -/
structure ListNodes where
  next : Nat → Nat
  prev : Nat → Nat

/-- `xgl_list_t`. -/
structure XglList where
  head : Nat := 0
  tail : Nat := 0
  count : Nat := 0
  deriving DecidableEq, Repr

/-- `xgl_list_node_init`. -/
def xglListNodeInit (nodes : ListNodes) (node : Nat) : ListNodes :=
  { next := Function.update nodes.next node 0
    prev := Function.update nodes.prev node 0 }

/-- `xgl_list_insert_tail`. -/
def xglListInsertTail (list : XglList) (nodes : ListNodes) (node : Nat) : XglList × ListNodes :=
  let next := Function.update nodes.next node 0
  let prev := Function.update nodes.prev node list.tail
  ({ head := if list.tail ≠ 0 then list.head else node
     tail := node
     count := list.count + 1 },
    { next := if list.tail ≠ 0 then Function.update next list.tail node else next
      prev := prev })

/-- `xgl_list_remove`. -/
def xglListRemove (list : XglList) (nodes : ListNodes) (node : Nat) : XglList × ListNodes :=
  let before := nodes.prev node
  -- the links of the node itself are read again after each write
  let head := if before ≠ 0 then list.head else nodes.next node
  let next := if before ≠ 0 then Function.update nodes.next before (nodes.next node)
    else nodes.next
  let after := next node
  let tail := if after ≠ 0 then list.tail else nodes.prev node
  let prev := if after ≠ 0 then Function.update nodes.prev after (nodes.prev node)
    else nodes.prev
  ({ head := head, tail := tail, count := list.count - 1 },
    { next := Function.update next node 0, prev := Function.update prev node 0 })

/-- `xgl_list_remove_head`: the node, 0 for `NULL`, and the list. -/
def xglListRemoveHead (list : XglList) (nodes : ListNodes) : Nat × XglList × ListNodes :=
  if list.head = 0 then (0, list, nodes)
  else
    let node := list.head
    (node, xglListRemove list nodes node)

end XgenLink
