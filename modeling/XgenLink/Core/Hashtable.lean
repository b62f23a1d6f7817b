import XgenLink.Core.Types

/-!
# `XgenLink.Core.Hashtable`: the chained table from target ids to routes

`src/core/xgl_hashtable.c`. The buckets are an array of chains, and a chain is the list of the
entries its `next` pointers visit, head first. An insertion puts a new entry at the head of its
chain, and gives an entry that is there already its new value in place.

A value is the address of a slot in some allocated array of routes: the block the allocator
answered with and an index into it. The table does not look at these addresses, and they go stale
when the array moves; `XgenLink.Network.RouteTable` is the structure that keeps them right.

The allocator may answer every request with NULL or with an address, in any pattern.
-/

set_option autoImplicit false

namespace XgenLink

/-! ### The allocator -/

/-- `xgl_allocator_t`: what each request for memory is answered with (`none` is
NULL), and the number of requests made so far. -/
structure Allocator where
  answer : Nat → Option Nat
  requests : Nat := 0

/-- `xgl_alloc`. -/
def xglAlloc (allocator : Allocator) : Option Nat × Allocator :=
  (allocator.answer allocator.requests, { allocator with requests := allocator.requests + 1 })

/-! ### Entries and chains -/

/-- The address of a slot: `block` is the address of the array it is in. -/
structure RoutePtr where
  block : Nat
  index : Nat
  deriving DecidableEq, Repr

/-- `xgl_hashtable_entry_t`, without the `next` pointer. -/
structure HashtableEntry where
  key : UInt16
  value : RoutePtr
  deriving DecidableEq, Repr

/-- The chain whose entry with `key` has the new value: the update loop of
`xgl_hashtable_insert`. `none` when the chain ends first. -/
def chainUpdate (key : UInt16) (value : RoutePtr) :
    List HashtableEntry → Option (List HashtableEntry)
  | [] => none
  | entry :: next =>
    if entry.key = key then some ({ entry with value := value } :: next)
    else (chainUpdate key value next).map (entry :: ·)

/-- The value in the chain under `key`: the loop of `xgl_hashtable_lookup`. -/
def chainLookup (key : UInt16) : List HashtableEntry → Option RoutePtr
  | [] => none
  | entry :: next => if entry.key = key then some entry.value else chainLookup key next

/-- The chain with the entry of `key` taken out of it: the loop of
`xgl_hashtable_remove`. `none` when the chain ends first. -/
def chainRemove (key : UInt16) : List HashtableEntry → Option (List HashtableEntry)
  | [] => none
  | entry :: next =>
    if entry.key = key then some next else (chainRemove key next).map (entry :: ·)

/-! ### The table -/

/-- `xgl_hashtable_t`. `buckets` is NULL before an `xgl_hashtable_init` that
succeeded and after an `xgl_hashtable_destroy`. -/
structure Hashtable where
  buckets : Option (List (List HashtableEntry)) := none
  size : Nat := 0
  count : Nat := 0
  deriving DecidableEq, Repr

/-- The chain at a bucket index. -/
def Hashtable.chain (table : Hashtable) (index : Nat) : List HashtableEntry :=
  ((table.buckets.getD [])[index]?).getD []

/-- The table with one bucket made to start another chain. -/
def Hashtable.setChain (table : Hashtable) (index : Nat) (chain : List HashtableEntry) :
    Hashtable :=
  { table with buckets := table.buckets.map (·.set index chain) }

/-- `xgl_hash`. -/
def xglHash (key : UInt16) (size : Nat) : Nat := key.toNat &&& (size - 1)

/-- `xgl_is_power_of_2`. -/
def xglIsPowerOf2 (n : Nat) : Bool := n > 0 && n &&& (n - 1) == 0

/-- `xgl_hashtable_init`. -/
def xglHashtableInit (table : Hashtable) (size : Nat) (allocator : Allocator) :
    XglError × Hashtable × Allocator :=
  if !xglIsPowerOf2 size then (.invalidParam, table, allocator)
  else
    match xglAlloc allocator with
    | (none, allocator) => (.noMemory, { buckets := none, size := size, count := 0 }, allocator)
    | (some _, allocator) =>
      (.ok, { buckets := some (List.replicate size []), size := size, count := 0 }, allocator)

/-- `xgl_hashtable_destroy`. -/
def xglHashtableDestroy (table : Hashtable) : Hashtable :=
  match table.buckets with
  | none => table
  | some _ => { buckets := none, size := 0, count := 0 }

/-- `xgl_hashtable_insert`: an entry of the key is given the new value, and a key
without one gets a new entry at the head of its chain. -/
def xglHashtableInsert (table : Hashtable) (key : UInt16) (value : Option RoutePtr)
    (allocator : Allocator) : XglError × Hashtable × Allocator :=
  match table.buckets, value with
  | none, _ => (.nullPointer, table, allocator)
  | some _, none => (.invalidParam, table, allocator)
  | some _, some value =>
    let index := xglHash key table.size
    match chainUpdate key value (table.chain index) with
    | some chain => (.ok, table.setChain index chain, allocator)
    | none =>
      match xglAlloc allocator with
      | (none, allocator) => (.noMemory, table, allocator)
      | (some _, allocator) =>
        let grown := table.setChain index ({ key := key, value := value } :: table.chain index)
        (.ok, { grown with count := table.count + 1 }, allocator)

/-- `xgl_hashtable_lookup`. -/
def xglHashtableLookup (table : Hashtable) (key : UInt16) : Option RoutePtr :=
  match table.buckets with
  | none => none
  | some _ => chainLookup key (table.chain (xglHash key table.size))

/-- `xgl_hashtable_remove`. -/
def xglHashtableRemove (table : Hashtable) (key : UInt16) : XglError × Hashtable :=
  match table.buckets with
  | none => (.nullPointer, table)
  | some _ =>
    let index := xglHash key table.size
    match chainRemove key (table.chain index) with
    | some chain => (.ok, { table.setChain index chain with count := table.count - 1 })
    | none => (.routeNotFound, table)

/-- `xgl_hashtable_clear`. -/
def xglHashtableClear (table : Hashtable) : Hashtable :=
  match table.buckets with
  | none => table
  | some _ => { table with buckets := some (List.replicate table.size []), count := 0 }

end XgenLink
