import XgenLink.Core.Hashtable

/-!
# `XgenLink.Network.RouteTable`: the route table in memory

`src/network/xgl_route.c`, `xgl_route_lookup.c`, `xgl_route_mutation.c` and
`xgl_route_load.c`. The routes stand in an array that is allocated anew when it
is full and shifted when a route is taken out; a hashtable from target ids to
addresses of slots in that array finds them. The other layers are modelled over
the list of the routes (`RouteTable`); this module is the structure behind it.
-/

set_option autoImplicit false

namespace XgenLink

/-- The default number of slots and of buckets. -/
def XGL_ROUTE_TABLE_DEFAULT_SIZE : Nat := 16

/-- `xgl_route_item_t` with all its fields. The zeroed slot is the default. -/
structure RouteSlot where
  targetId : UInt16 := 0
  phy : Option Phy := none
  maxFrameSize : UInt16 := 0
  readFreqHz : UInt32 := 0
  metric : UInt8 := 0

/-- An allocated array of slots and its address. -/
structure RouteArray where
  block : Nat
  slots : List RouteSlot

/-- `xgl_route_table_t`. -/
structure RouteStore where
  hashtable : Hashtable := {}
  routes : Option RouteArray := none
  routeCount : Nat := 0
  routeCapacity : Nat := 0
  allocator : Allocator

/-- `memmove` within an array: `count` slots from `source` on are copied to
`target` and behind. -/
def memmove {α : Type} (slots : List α) (target source count : Nat) : List α :=
  slots.take target ++ (slots.drop source).take count ++ slots.drop (target + count)

namespace RouteStore

/-- The slots of the array, none when it is NULL. -/
def slots (table : RouteStore) : List RouteSlot := (table.routes.map (·.slots)).getD []

/-- `&table->routes[index]`. -/
def address (table : RouteStore) (index : Nat) : Option RoutePtr :=
  table.routes.map fun routes => { block := routes.block, index := index }

/-- The slot a pointer leads to: one inside the array that is allocated now. A
pointer into any other block leads nowhere. -/
def deref (table : RouteStore) (pointer : RoutePtr) : Option RouteSlot :=
  table.routes.bind fun routes =>
    if pointer.block = routes.block then routes.slots[pointer.index]? else none

/-- The table after a write to `table->routes[index]`. -/
def write (table : RouteStore) (index : Nat) (slot : RouteSlot) : RouteStore :=
  { table with routes := table.routes.map fun routes =>
      { routes with slots := routes.slots.set index slot } }

/-- The table whose routes were copied to the front of a zeroed array of
`newCapacity` slots at `block`. -/
def moveTo (table : RouteStore) (block newCapacity : Nat) : RouteStore :=
  let kept := table.slots.take table.routeCount
  let slots := kept ++ List.replicate (newCapacity - kept.length) ({} : RouteSlot)
  { table with routes := some { block := block, slots := slots }, routeCapacity := newCapacity }

/-- The table after the routes behind `index` were moved one slot to the front. -/
def shiftDown (table : RouteStore) (index : Nat) : RouteStore :=
  { table with routes := table.routes.map fun routes =>
      { routes with
        slots := memmove routes.slots index (index + 1) (table.routeCount - index - 1) } }

/-- The table after an insertion into its hashtable, and the answer of that. -/
def insert (table : RouteStore) (key : UInt16) (value : Option RoutePtr) :
    XglError × RouteStore :=
  let inserted := xglHashtableInsert table.hashtable key value table.allocator
  (inserted.1, { table with hashtable := inserted.2.1, allocator := inserted.2.2 })

/-- The loop that inserts the address of each of the slots `first`, … anew, and
does not look at the answers. -/
def reindex (table : RouteStore) (first last : Nat) : RouteStore :=
  ((List.range last).drop first).foldl
    (fun table index =>
      (table.insert ((table.slots[index]?).getD {}).targetId (table.address index)).2) table

end RouteStore

/-! ### Initialisation -/

/-- `xgl_route_table_init`. -/
def xglRouteTableInit (initialCapacity : Nat) (allocator : Allocator) : XglError × RouteStore :=
  match xglHashtableInit {} XGL_ROUTE_TABLE_DEFAULT_SIZE allocator with
  | (.ok, hashtable, allocator) =>
    if initialCapacity > 0 then
      match xglAlloc allocator with
      | (none, allocator) =>
        -- the chains are given back
        (.noMemory, { hashtable := xglHashtableDestroy hashtable, allocator := allocator })
      | (some block, allocator) =>
        (.ok, { hashtable := hashtable
                routes := some { block := block, slots := List.replicate initialCapacity {} }
                routeCapacity := initialCapacity
                allocator := allocator })
    else (.ok, { hashtable := hashtable, allocator := allocator })
  | (err, hashtable, allocator) => (err, { hashtable := hashtable, allocator := allocator })

/-! ### Lookup -/

/-- `xgl_route_table_lookup`. -/
def RouteStore.xglRouteTableLookup (table : RouteStore) (targetId : UInt16) : Option RoutePtr :=
  xglHashtableLookup table.hashtable targetId

/-- `xgl_route_table_update_metric`: the metric is written through the pointer. -/
def xglRouteTableUpdateMetric (table : RouteStore) (targetId : UInt16) (metric : UInt8) :
    XglError × RouteStore :=
  match table.xglRouteTableLookup targetId with
  | none => (.routeNotFound, table)
  | some pointer =>
    match table.deref pointer with
    -- a pointer into an array that is not there any more
    | none => (.ok, table)
    | some slot => (.ok, table.write pointer.index { slot with metric := metric })

/-! ### Mutation -/

/-- `xgl_route_find_index`. -/
def xglRouteFindIndex (table : RouteStore) (targetId : UInt16) : Option Nat :=
  (table.slots.take table.routeCount).findIdx? fun slot => slot.targetId == targetId

/-- `xgl_route_grow_capacity`: the routes are copied to the front of a zeroed
array of twice the size, and every entry is made to point into it. -/
def xglRouteGrowCapacity (table : RouteStore) : XglError × RouteStore :=
  let doubled := table.routeCapacity * 2
  -- an array without slots has nothing to double
  let newCapacity := if doubled = 0 then XGL_ROUTE_TABLE_DEFAULT_SIZE else doubled
  match xglAlloc table.allocator with
  | (none, allocator) => (.noMemory, { table with allocator := allocator })
  | (some block, allocator) =>
    let moved := { table with allocator := allocator }.moveTo block newCapacity
    (.ok, moved.reindex 0 table.routeCount)

/-- `xgl_route_table_add`. -/
def RouteStore.xglRouteTableAdd (table : RouteStore) (route : RouteSlot) :
    XglError × RouteStore :=
  if route.phy.isNone then (.invalidParam, table)
  else
    match xglRouteFindIndex table route.targetId with
    -- the route of a known target is replaced, and its entry made to point to the slot again
    | some index => (table.write index route).insert route.targetId (table.address index)
    | none =>
      let grown :=
        if table.routeCount ≥ table.routeCapacity then xglRouteGrowCapacity table
        else (.ok, table)
      match grown with
      | (.ok, table) =>
        -- the slot behind the last route is written before the index is asked
        let written := table.write table.routeCount route
        match written.insert route.targetId (written.address table.routeCount) with
        -- only now does the route count
        | (.ok, table) => (.ok, { table with routeCount := table.routeCount + 1 })
        | (err, table) => (err, table)
      | (err, table) => (err, table)

/-- `xgl_route_table_remove`. -/
def xglRouteTableRemove (table : RouteStore) (targetId : UInt16) : XglError × RouteStore :=
  match xglRouteFindIndex table targetId with
  | none => (.routeNotFound, table)
  | some index =>
    match xglHashtableRemove table.hashtable targetId with
    | (.ok, hashtable) =>
      let removed : RouteStore := { table with hashtable := hashtable }
      let shifted : RouteStore :=
        -- every route behind the one removed has moved, so its entry is written anew
        if index < table.routeCount - 1 then
          (removed.shiftDown index).reindex index (table.routeCount - 1)
        else removed
      (.ok, { shifted with routeCount := shifted.routeCount - 1 })
    | (err, hashtable) => (err, { table with hashtable := hashtable })

/-- `xgl_route_table_clear`. -/
def xglRouteTableClear (table : RouteStore) : RouteStore :=
  { table with hashtable := xglHashtableClear table.hashtable, routeCount := 0 }

/-! ### Loading -/

/-- The loop of `xgl_route_table_load`, from the routes that are left: the answer
of the first addition that fails, the number of those that did not, and the table. -/
def loadRoutes (table : RouteStore) : List RouteSlot → XglError × Nat × RouteStore
  | [] => (.ok, 0, table)
  | route :: rest =>
    match table.xglRouteTableAdd route with
    | (.ok, table) =>
      let (err, loaded, table) := loadRoutes table rest
      (err, loaded + 1, table)
    | (err, table) => (err, 0, table)

/-- `xgl_route_table_load`. With the answer comes the number of routes that were
loaded, `none` when the arguments are refused before the table is touched. -/
def RouteStore.xglRouteTableLoad (table : RouteStore) (routes : Option (List RouteSlot))
    (count : Nat) : XglError × Option Nat × RouteStore :=
  if routes.isNone && count > 0 then (.invalidParam, none, table)
  else
    let (err, loaded, table) := loadRoutes (xglRouteTableClear table) ((routes.getD []).take count)
    (err, some loaded, table)

end XgenLink
