import XgenLink.Network.RouteTable
import XgenLink.Proofs.HashtableSteps
import XgenLink.Lib.Run

/-!
# `XgenLink.Proofs.RouteMap`: the route table is a finite map

A route table keeps its routes in an array and finds them by a hashtable from target ids to
addresses of slots. The array moves when it grows, and is shifted when a route is taken out, and
both times the addresses in the hashtable have to be written anew. In between the hashtable leads
to slots of the old array, or to the slots of other routes.

The invariant ties the two together: the entries are exactly the pairs of a route's target id and
the address of the slot the route is in now. Every operation keeps it, whatever the allocator
answers, and the routes the lookups lead to are those of a finite map on which each operation that
succeeds has its plain meaning and each operation that fails has none. The exception is a load,
which sets the routes in front of the one that fails.

* `RouteStore.Consistent`: the invariant.
* `reindex_entries`, `reindex_points`: what inserting the addresses anew does to the entries.
* `RouteStore.Consistent.shows`: what the application sees is the routes of the array.
* `xglRouteGrowCapacity_spec`, `appendRoute_spec`, `shiftDown_spec`, `removeRoute_spec`: growth,
  and the writes of an addition and a removal.
* `xglRouteTableAdd_spec`, `xglRouteTableRemove_spec`, `xglRouteTableUpdateMetric_spec`,
  `loadRoutes_spec`: one theorem for each operation.
* `route_table_is_map`: the table after any run of operations.
-/

set_option autoImplicit false

namespace XgenLink

/-! ### The invariant -/

namespace RouteStore

/-- The slots that hold routes. -/
def live (table : RouteStore) : List RouteSlot := table.slots.take table.routeCount

/-- The routes in the array and the entries of the hashtable belong together. -/
structure Consistent (table : RouteStore) : Prop where
  wellFormed : table.hashtable.WellFormed
  capacity : table.slots.length = table.routeCapacity
  room : table.routeCount ≤ table.routeCapacity
  distinct : Keyed RouteSlot.targetId table.live
  /-- The entries are the ids of the routes with the addresses of their slots. -/
  points : ∀ entry, entry ∈ table.hashtable.entries ↔
    ∃ i slot, table.live[i]? = some slot ∧ slot.targetId = entry.key ∧
      table.address i = some entry.value
  counted : table.hashtable.count = table.routeCount

/-- The id in a slot of the array, as the loops read it. -/
def idAt (table : RouteStore) (index : Nat) : UInt16 := ((table.slots[index]?).getD {}).targetId

end RouteStore

/-! ### The loop that inserts the addresses anew -/

/-- One insertion of a held key: only the entry of the key changes. -/
theorem insert_held {table : RouteStore} (hwell : table.hashtable.WellFormed) {key : UInt16}
    (hheld : table.hashtable.Holds key) (pointer : RoutePtr) :
    ∃ after, table.insert key (some pointer) = (.ok, { table with hashtable := after }) ∧
      EntrySet table.hashtable key pointer after ∧ after.count = table.hashtable.count := by
  obtain ⟨after, hout, hset, hcount⟩ :=
    xglHashtableInsert_held hwell hheld pointer table.allocator
  exact ⟨after, by simp [RouteStore.insert, hout], hset, hcount⟩

/-- After the addresses of some slots with distinct ids were inserted anew, the
entries of their ids are these addresses, and the others are as before. -/
theorem reindex_entries (indices : List Nat) {table : RouteStore} {routes : RouteArray}
    (hroutes : table.routes = some routes) (hwell : table.hashtable.WellFormed)
    (hdistinct : Keyed table.idAt indices)
    (hheld : ∀ i ∈ indices, table.hashtable.Holds (table.idAt i)) :
    ∃ after, indices.foldl (fun table index =>
        (table.insert ((table.slots[index]?).getD {}).targetId (table.address index)).2) table
          = { table with hashtable := after } ∧ after.WellFormed ∧
      after.count = table.hashtable.count ∧
      ∀ entry, entry ∈ after.entries ↔
        (∃ i ∈ indices, table.idAt i = entry.key ∧ table.address i = some entry.value) ∨
          entry ∈ table.hashtable.entries ∧ ∀ i ∈ indices, table.idAt i ≠ entry.key := by
  induction indices generalizing table with
  | nil => exact ⟨table.hashtable, rfl, hwell, rfl, by simp⟩
  | cons index rest ih =>
    have haddress : ∀ i, table.address i = some { block := routes.block, index := i } := by
      intro i
      simp [RouteStore.address, hroutes]
    obtain ⟨hnew, hrest⟩ : table.idAt index ∉ rest.map table.idAt ∧ Keyed table.idAt rest := by
      simpa [Keyed] using hdistinct
    obtain ⟨first, hfirst, hset, hcount⟩ := insert_held hwell (hheld index List.mem_cons_self)
      { block := routes.block, index := index }
    -- the other ids are still held after the first insertion
    have hstill : ∀ i ∈ rest, first.Holds (table.idAt i) := by
      intro i hi
      obtain ⟨entry, hentry, hkey⟩ := hheld i (List.mem_cons_of_mem _ hi)
      refine ⟨entry, (hset.mem_iff entry).2 (Or.inr ⟨hentry, ?_⟩), hkey⟩
      intro hsame
      exact hnew (List.mem_map.2 ⟨i, hi, hkey.symm.trans hsame⟩)
    obtain ⟨after, hafter, hwell', hcount', hmem⟩ :=
      @ih { table with hashtable := first } hroutes hset.wellFormed hrest hstill
    refine ⟨after, ?_, hwell', hcount'.trans hcount, ?_⟩
    · rw [List.foldl_cons, haddress]
      have hstep : (table.insert ((table.slots[index]?).getD {}).targetId
          (some { block := routes.block, index := index })).2
            = { table with hashtable := first } := congrArg Prod.snd hfirst
      rw [hstep, hafter]
    · intro entry
      rw [hmem]
      show (∃ i ∈ rest, table.idAt i = entry.key ∧ table.address i = some entry.value) ∨
        entry ∈ first.entries ∧ (∀ i ∈ rest, table.idAt i ≠ entry.key) ↔ _
      rw [hset.mem_iff]
      simp only [List.mem_cons, exists_eq_or_imp, forall_eq_or_imp]
      constructor
      · rintro (hin | ⟨rfl | ⟨hold, hne⟩, hother⟩)
        · exact Or.inl (Or.inr hin)
        · exact Or.inl (Or.inl ⟨rfl, haddress index⟩)
        · exact Or.inr ⟨hold, Ne.symm hne, hother⟩
      · rintro ((⟨hkey, hvalue⟩ | hin) | ⟨hold, hne, hother⟩)
        · refine Or.inr ⟨Or.inl ?_, ?_⟩
          · rw [haddress] at hvalue
            cases entry
            simp_all
          · intro i hi hsame
            exact hnew (List.mem_map.2 ⟨i, hi, hsame.trans hkey.symm⟩)
        · exact Or.inl hin
        · exact Or.inr ⟨Or.inr ⟨hold, Ne.symm hne⟩, hother⟩

/-- A table whose entries lead to the right slots below `first`, and are only
known to exist from there on, leads to the right slots everywhere once the slots
from `first` on were inserted anew. -/
theorem reindex_points {table : RouteStore} {routes : RouteArray} {first last : Nat}
    (hroutes : table.routes = some routes) (hwell : table.hashtable.WellFormed)
    (hlast : last ≤ table.slots.length)
    (hkeyed : Keyed RouteSlot.targetId (table.slots.take last))
    (hfront : ∀ i slot value, i < first → (table.slots.take last)[i]? = some slot →
      table.address i = some value →
        { key := slot.targetId, value := value } ∈ table.hashtable.entries)
    (hback : ∀ i slot, first ≤ i → (table.slots.take last)[i]? = some slot →
      table.hashtable.Holds slot.targetId)
    (hkeys : ∀ entry ∈ table.hashtable.entries, ∃ i slot,
      (table.slots.take last)[i]? = some slot ∧ slot.targetId = entry.key ∧
        (i < first → table.address i = some entry.value)) :
    ∃ after, table.reindex first last = { table with hashtable := after } ∧ after.WellFormed ∧
      after.count = table.hashtable.count ∧
      ∀ entry, entry ∈ after.entries ↔ ∃ i slot, (table.slots.take last)[i]? = some slot ∧
        slot.targetId = entry.key ∧ table.address i = some entry.value := by
  have hindex : ∀ i, i ∈ (List.range last).drop first ↔ first ≤ i ∧ i < last := by
    intro i
    rw [List.mem_iff_getElem?]
    constructor
    · rintro ⟨j, hj⟩
      rw [List.getElem?_drop] at hj
      obtain ⟨hlt, heq⟩ := List.getElem?_eq_some_iff.1 hj
      rw [List.length_range] at hlt
      rw [List.getElem_range] at heq
      omega
    · rintro ⟨hfirst, hlt⟩
      refine ⟨i - first, ?_⟩
      rw [List.getElem?_drop, List.getElem?_range (by omega)]
      congr 1
      omega
  have hslot : ∀ i slot, (table.slots.take last)[i]? = some slot →
      i < last ∧ table.idAt i = slot.targetId := by
    intro i slot hi
    have hlt : i < last := by
      have := (List.getElem?_eq_some_iff.1 hi).1
      rw [List.length_take] at this
      omega
    rw [List.getElem?_take_of_lt hlt] at hi
    exact ⟨hlt, by simp [RouteStore.idAt, hi]⟩
  have hreads : ∀ i, i < last → ∃ slot, (table.slots.take last)[i]? = some slot := by
    intro i hi
    rw [List.getElem?_take_of_lt hi]
    exact ⟨_, List.getElem?_eq_getElem (by omega)⟩
  have hdistinct : Keyed table.idAt ((List.range last).drop first) := by
    refine List.Nodup.map_on ?_ (List.nodup_range.sublist (List.drop_sublist _ _))
    intro i hi j hj hsame
    obtain ⟨a, ha⟩ := hreads i ((hindex i).1 hi).2
    obtain ⟨b, hb⟩ := hreads j ((hindex j).1 hj).2
    rw [(hslot i a ha).2, (hslot j b hb).2] at hsame
    exact hkeyed.index_eq ha hb hsame
  have hheld : ∀ i ∈ (List.range last).drop first, table.hashtable.Holds (table.idAt i) := by
    intro i hi
    obtain ⟨slot, hread⟩ := hreads i ((hindex i).1 hi).2
    rw [(hslot i slot hread).2]
    exact hback i slot ((hindex i).1 hi).1 hread
  obtain ⟨after, hafter, hwell', hcount, hmem⟩ :=
    reindex_entries _ hroutes hwell hdistinct hheld
  refine ⟨after, hafter, hwell', hcount, ?_⟩
  intro entry
  rw [hmem]
  constructor
  · rintro (⟨i, hi, hkey, hvalue⟩ | ⟨hold, hother⟩)
    · obtain ⟨slot, hread⟩ := hreads i ((hindex i).1 hi).2
      exact ⟨i, slot, hread, (hslot i slot hread).2 ▸ hkey, hvalue⟩
    · -- an old entry whose key was not inserted anew is one below `first`
      obtain ⟨i, slot, hread, hkey, hvalue⟩ := hkeys entry hold
      by_cases hi : i < first
      · exact ⟨i, slot, hread, hkey, hvalue hi⟩
      · have hin := (hindex i).2 ⟨by omega, (hslot i slot hread).1⟩
        exact absurd ((hslot i slot hread).2.trans hkey) (hother i hin)
  · rintro ⟨i, slot, hread, hkey, hvalue⟩
    by_cases hi : i < first
    · have hold := hfront i slot entry.value hi hread hvalue
      rw [hkey] at hold
      refine Or.inr ⟨hold, ?_⟩
      intro j hj hsame
      obtain ⟨other, hother⟩ := hreads j ((hindex j).1 hj).2
      rw [(hslot j other hother).2] at hsame
      have heq := hkeyed.index_eq hread hother (hkey.trans hsame.symm)
      have := ((hindex j).1 hj).1
      omega
    · exact Or.inl ⟨i, (hindex i).2 ⟨by omega, (hslot i slot hread).1⟩,
        (hslot i slot hread).2.trans hkey, hvalue⟩

/-! ### Writes to the array -/

section Writes

variable {table : RouteStore}

/-- A write replaces one slot. -/
theorem slots_write (table : RouteStore) (index : Nat) (slot : RouteSlot) :
    (table.write index slot).slots = table.slots.set index slot := by
  cases hroutes : table.routes <;> simp [RouteStore.slots, RouteStore.write, hroutes]

/-- It moves no slot. -/
theorem address_write (table : RouteStore) (index : Nat) (slot : RouteSlot) (i : Nat) :
    (table.write index slot).address i = table.address i := by
  cases hroutes : table.routes <;> simp [RouteStore.address, RouteStore.write, hroutes]

/-- It replaces one route, when the slot had one. -/
theorem live_write (table : RouteStore) (index : Nat) (slot : RouteSlot) :
    (table.write index slot).live = table.live.set index slot := by
  show ((table.write index slot).slots).take table.routeCount = _
  rw [slots_write, List.take_set]
  rfl

/-- A table with the same routes and the same set of entries belongs together too. -/
theorem RouteStore.Consistent.congr (hcons : table.Consistent) {after : RouteStore}
    (hwell : after.hashtable.WellFormed)
    (hentries : ∀ entry, entry ∈ after.hashtable.entries ↔ entry ∈ table.hashtable.entries)
    (hhcount : after.hashtable.count = table.hashtable.count)
    (hlength : after.slots.length = table.slots.length)
    (hcapacity : after.routeCapacity = table.routeCapacity)
    (hcount : after.routeCount = table.routeCount)
    (haddress : ∀ i, after.address i = table.address i)
    (hids : after.live.map RouteSlot.targetId = table.live.map RouteSlot.targetId) :
    after.Consistent := by
  have hslot : ∀ (i : Nat) (id : UInt16),
      (∃ slot, after.live[i]? = some slot ∧ slot.targetId = id)
        ↔ ∃ slot, table.live[i]? = some slot ∧ slot.targetId = id := by
    intro i id
    have hread := congrArg (fun ids => ids[i]? = some id) hids
    simpa [List.getElem?_map, Option.map_eq_some_iff] using hread
  refine ⟨hwell, ?_, ?_, ?_, ?_, ?_⟩
  · rw [hlength, hcapacity]
    exact hcons.capacity
  · rw [hcount, hcapacity]
    exact hcons.room
  · show List.Nodup _
    rw [hids]
    exact hcons.distinct
  · intro entry
    rw [hentries, hcons.points]
    constructor
    · rintro ⟨i, slot, hread, hkey, hvalue⟩
      obtain ⟨slot', hread', hkey'⟩ := (hslot i entry.key).2 ⟨slot, hread, hkey⟩
      exact ⟨i, slot', hread', hkey', (haddress i).trans hvalue⟩
    · rintro ⟨i, slot, hread, hkey, hvalue⟩
      obtain ⟨slot', hread', hkey'⟩ := (hslot i entry.key).1 ⟨slot, hread, hkey⟩
      exact ⟨i, slot', hread', hkey', (haddress i).symm.trans hvalue⟩
  · rw [hhcount, hcount]
    exact hcons.counted

/-- A route is replaced by one of its id. -/
theorem RouteStore.Consistent.write (hcons : table.Consistent) {index : Nat}
    {old route : RouteSlot} (hold : table.live[index]? = some old)
    (hkey : route.targetId = old.targetId) : (table.write index route).Consistent := by
  refine hcons.congr hcons.wellFormed (fun entry => Iff.rfl) rfl ?_ rfl rfl
    (address_write table index route) ?_
  · rw [slots_write, List.length_set]
  · rw [live_write]
    exact map_key_set hold hkey

/-- A slot behind the routes is written. -/
theorem RouteStore.Consistent.write_free (hcons : table.Consistent) (route : RouteSlot) :
    (table.write table.routeCount route).Consistent ∧
      (table.write table.routeCount route).live = table.live := by
  have hlive : (table.write table.routeCount route).live = table.live := by
    rw [live_write]
    refine List.set_eq_of_length_le ?_
    show (table.slots.take table.routeCount).length ≤ table.routeCount
    rw [List.length_take]
    omega
  refine ⟨hcons.congr hcons.wellFormed (fun entry => Iff.rfl) rfl ?_ rfl rfl
    (address_write table _ route) ?_, hlive⟩
  · rw [slots_write, List.length_set]
  · rw [hlive]

end Writes

/-! ### Lookups -/

/-- What the application sees under an id: the slot the pointer it is handed leads to. -/
def RouteStore.observe (table : RouteStore) (targetId : UInt16) : Option RouteSlot :=
  (table.xglRouteTableLookup targetId).bind table.deref

section Lookups

variable {table : RouteStore}

/-- The address of a slot leads to it. -/
theorem deref_address {i : Nat} {slot : RouteSlot} {pointer : RoutePtr}
    (hread : table.live[i]? = some slot) (haddress : table.address i = some pointer) :
    table.deref pointer = some slot := by
  cases hroutes : table.routes with
  | none => simp [RouteStore.address, hroutes] at haddress
  | some routes =>
    have hpointer : { block := routes.block, index := i } = pointer := by
      simpa [RouteStore.address, hroutes] using haddress
    have hslot : routes.slots[i]? = some slot := by
      have hin : (routes.slots.take table.routeCount)[i]? = some slot := by
        simpa [RouteStore.live, RouteStore.slots, hroutes] using hread
      obtain ⟨hlt, heq⟩ := List.getElem?_eq_some_iff.1 hin
      rw [List.length_take] at hlt
      rw [List.getElem?_take_of_lt (by omega)] at hin
      exact hin
    simp [RouteStore.deref, hroutes, ← hpointer, hslot]

/-- There are as many routes as the table counts. -/
theorem RouteStore.Consistent.length_live (hcons : table.Consistent) :
    table.live.length = table.routeCount := by
  have hroom := hcons.room
  rw [RouteStore.live, List.length_take, hcons.capacity]
  omega

/-- A slot with a route has an address. -/
theorem address_of_live {i : Nat} {slot : RouteSlot} (hread : table.live[i]? = some slot) :
    ∃ pointer, table.address i = some pointer := by
  cases hroutes : table.routes with
  | none => simp [RouteStore.live, RouteStore.slots, hroutes] at hread
  | some routes => exact ⟨_, by simp [RouteStore.address, hroutes]; rfl⟩

/-- A lookup answers with the address of the slot of the id. -/
theorem RouteStore.Consistent.lookup_iff (hcons : table.Consistent) {targetId : UInt16}
    {pointer : RoutePtr} : table.xglRouteTableLookup targetId = some pointer ↔
      ∃ i slot, table.live[i]? = some slot ∧ slot.targetId = targetId ∧
        table.address i = some pointer :=
  (xglHashtableLookup_iff hcons.wellFormed targetId pointer).trans (hcons.points _)

/-- What the application sees is the routes of the array. -/
theorem RouteStore.Consistent.shows (hcons : table.Consistent) :
    Shows RouteSlot.targetId table.live table.observe := by
  intro targetId slot
  constructor
  · intro hseen
    obtain ⟨pointer, hlook, hderef⟩ := Option.bind_eq_some_iff.1 hseen
    obtain ⟨i, found, hread, hkey, haddress⟩ := hcons.lookup_iff.1 hlook
    have hsame : found = slot := by
      rw [deref_address hread haddress] at hderef
      exact Option.some.inj hderef
    exact hsame ▸ ⟨List.mem_of_getElem? hread, hkey⟩
  · rintro ⟨hin, hkey⟩
    obtain ⟨i, hread⟩ := List.mem_iff_getElem?.1 hin
    obtain ⟨pointer, haddress⟩ := address_of_live hread
    exact Option.bind_eq_some_iff.2
      ⟨pointer, hcons.lookup_iff.2 ⟨i, slot, hread, hkey, haddress⟩, deref_address hread haddress⟩

/-- A key is held exactly when a route has it. -/
theorem RouteStore.Consistent.holds_iff (hcons : table.Consistent) {targetId : UInt16} :
    table.hashtable.Holds targetId ↔ targetId ∈ table.live.map RouteSlot.targetId := by
  rw [List.mem_map]
  constructor
  · rintro ⟨entry, hentry, rfl⟩
    obtain ⟨i, slot, hread, hkey, -⟩ := (hcons.points entry).1 hentry
    exact ⟨slot, List.mem_of_getElem? hread, hkey⟩
  · rintro ⟨slot, hin, hkey⟩
    obtain ⟨i, hread⟩ := List.mem_iff_getElem?.1 hin
    obtain ⟨pointer, haddress⟩ := address_of_live hread
    exact ⟨{ key := targetId, value := pointer },
      (hcons.points _).2 ⟨i, slot, hread, hkey, haddress⟩, rfl⟩

end Lookups

/-! ### Each operation -/

/-- The routes behind a removed one move to the front by one slot. -/
theorem take_memmove {slots : List RouteSlot} {index count : Nat} (hindex : index < count)
    (hcount : count ≤ slots.length) :
    (memmove slots index (index + 1) (count - index - 1)).take (count - 1)
      = (slots.take count).eraseIdx index := by
  have hlength : (slots.take index ++ (slots.drop (index + 1)).take (count - index - 1)).length
      = count - 1 := by
    simp only [List.length_append, List.length_take, List.length_drop]
    omega
  rw [memmove, List.take_append_of_le_length (le_of_eq hlength.symm),
    List.take_of_length_le (le_of_eq hlength), List.eraseIdx_eq_take_drop_succ, List.take_take,
    List.drop_take, Nat.min_eq_left (le_of_lt hindex)]
  rfl

section Operations

variable {table : RouteStore} (hcons : table.Consistent)
include hcons

/-- The table with its allocator moved on. -/
theorem RouteStore.Consistent.withAllocator (allocator : Allocator) :
    RouteStore.Consistent { table with allocator := allocator } :=
  hcons.congr hcons.wellFormed (fun _ => Iff.rfl) rfl rfl rfl rfl (fun _ => rfl) rfl

/-- The table shows its routes after a change of one of them. -/
theorem RouteStore.Consistent.observe_update {after : RouteStore} (hafter : after.Consistent)
    {route : RouteSlot} (hlive : ∀ slot, slot ∈ after.live ↔
      slot = route ∨ slot ∈ table.live ∧ slot.targetId ≠ route.targetId) :
    after.observe = Function.update table.observe route.targetId (some route) :=
  hafter.shows.unique (hcons.shows.update hlive)

/-- Growth copies the routes and moves every entry along. -/
theorem xglRouteGrowCapacity_spec (hfull : table.routeCount ≥ table.routeCapacity) :
    (xglRouteGrowCapacity table).2.Consistent ∧
      (xglRouteGrowCapacity table).2.live = table.live ∧
      (xglRouteGrowCapacity table).2.routeCount = table.routeCount ∧
      ((xglRouteGrowCapacity table).1 = .ok →
        table.routeCount < (xglRouteGrowCapacity table).2.routeCapacity) := by
  -- without memory for the new array nothing changes
  cases hanswer : table.allocator.answer table.allocator.requests with
  | none =>
    have hout : xglRouteGrowCapacity table
        = (.noMemory, { table with allocator := (xglAlloc table.allocator).2 }) := by
      simp [xglRouteGrowCapacity, xglAlloc, hanswer]
    rw [hout]
    exact ⟨hcons.withAllocator _, rfl, rfl, fun h => by cases h⟩
  | some block =>
    -- the array after the copy, before the entries are moved
    have hroom := hcons.room
    have hkept : table.live.length = table.routeCount := hcons.length_live
    generalize hcapacity : (if table.routeCapacity * 2 = 0 then XGL_ROUTE_TABLE_DEFAULT_SIZE
      else table.routeCapacity * 2) = capacity
    have hmore : table.routeCount < capacity := by
      have hdefault : 0 < XGL_ROUTE_TABLE_DEFAULT_SIZE := by decide
      rw [← hcapacity]
      split <;> omega
    generalize hmoved :
      RouteStore.moveTo { table with allocator := (xglAlloc table.allocator).2 } block capacity
        = moved
    have hout : xglRouteGrowCapacity table = (.ok, moved.reindex 0 table.routeCount) := by
      rw [← hmoved, ← hcapacity]
      simp only [xglRouteGrowCapacity, xglAlloc, hanswer]
    have hslots : moved.slots
        = table.live ++ List.replicate (capacity - table.live.length) ({} : RouteSlot) := by
      rw [← hmoved]
      rfl
    have htake : moved.slots.take table.routeCount = table.live := by
      rw [hslots, List.take_append_of_le_length (le_of_eq hkept.symm)]
      exact List.take_of_length_le (le_of_eq hkept)
    have hlength : moved.slots.length = capacity := by
      rw [hslots, List.length_append, List.length_replicate]
      omega
    obtain ⟨routes, hroutes⟩ : ∃ routes, moved.routes = some routes := by
      rw [← hmoved]
      exact ⟨_, rfl⟩
    have hhash : moved.hashtable = table.hashtable := by
      rw [← hmoved]
      rfl
    obtain ⟨after, hafter, hwell, hcount, hmem⟩ := @reindex_points moved routes
      0 table.routeCount hroutes (by rw [hhash]; exact hcons.wellFormed)
      (by omega) (by rw [htake]; exact hcons.distinct)
      (fun i slot value hi => absurd hi (Nat.not_lt_zero i))
      (by
        intro i slot _ hread
        rw [htake] at hread
        rw [hhash, hcons.holds_iff]
        exact List.mem_map_of_mem (List.mem_of_getElem? hread))
      (by
        intro entry hentry
        rw [hhash] at hentry
        obtain ⟨i, slot, hread, hkey, -⟩ := (hcons.points entry).1 hentry
        exact ⟨i, slot, by rw [htake]; exact hread, hkey, fun hi => absurd hi (Nat.not_lt_zero i)⟩)
    have hmoved' : moved.routeCount = table.routeCount ∧ moved.routeCapacity = capacity := by
      rw [← hmoved]
      exact ⟨rfl, rfl⟩
    have hlive : RouteStore.live { moved with hashtable := after } = table.live := by
      show moved.slots.take moved.routeCount = _
      rw [hmoved'.1, htake]
    rw [hout, hafter]
    refine ⟨⟨hwell, ?_, ?_, ?_, ?_, ?_⟩, hlive, hmoved'.1, fun _ => ?_⟩
    · show moved.slots.length = moved.routeCapacity
      rw [hlength, hmoved'.2]
    · show moved.routeCount ≤ moved.routeCapacity
      omega
    · rw [hlive]
      exact hcons.distinct
    · intro entry
      rw [hlive]
      rw [htake] at hmem
      exact hmem entry
    · show after.count = moved.routeCount
      rw [hcount, hhash, hmoved'.1]
      exact hcons.counted
    · show table.routeCount < moved.routeCapacity
      omega

/-- Two tables with the same routes show the same. -/
theorem RouteStore.Consistent.observe_congr {after : RouteStore} (hafter : after.Consistent)
    (hlive : after.live = table.live) : after.observe = table.observe :=
  hafter.shows.unique (hlive ▸ hcons.shows)

/-- The address of a route inserted anew is the entry that was there already. -/
theorem insert_same {index : Nat} {slot : RouteSlot} (hread : table.live[index]? = some slot) :
    ∃ after, table.insert slot.targetId (table.address index)
        = (.ok, { table with hashtable := after }) ∧
      RouteStore.Consistent { table with hashtable := after } := by
  obtain ⟨pointer, haddress⟩ := address_of_live hread
  have hin : { key := slot.targetId, value := pointer } ∈ table.hashtable.entries :=
    (hcons.points _).2 ⟨index, slot, hread, rfl, haddress⟩
  obtain ⟨after, hout, hset, hcount⟩ := insert_held hcons.wellFormed ⟨_, hin, rfl⟩ pointer
  refine ⟨after, by rw [haddress, hout], ?_⟩
  refine hcons.congr hset.wellFormed ?_ hcount rfl rfl rfl (fun _ => rfl) rfl
  intro entry
  rw [hset.mem_iff]
  constructor
  · rintro (rfl | ⟨hold, -⟩)
    · exact hin
    · exact hold
  · intro hold
    by_cases hkey : entry.key = slot.targetId
    · -- the entry of this id is the one with the address of its slot
      obtain ⟨i, other, hother, hid, hvalue⟩ := (hcons.points entry).1 hold
      have hsame := hcons.distinct.index_eq hother hread (hid.trans hkey)
      rw [hsame, haddress] at hvalue
      refine Or.inl ?_
      rw [Option.some.inj hvalue, ← hkey]
    · exact Or.inr ⟨hold, hkey⟩

/-- A route of a new id is written behind the others and entered in the hashtable. -/
theorem appendRoute_spec {route : RouteSlot} (hroom : table.routeCount < table.routeCapacity)
    (hnew : route.targetId ∉ table.live.map RouteSlot.targetId) :
    (∃ after rest, (table.write table.routeCount route).insert route.targetId
          ((table.write table.routeCount route).address table.routeCount)
        = (.ok, { table.write table.routeCount route with
            hashtable := after, allocator := rest }) ∧
      RouteStore.Consistent { table.write table.routeCount route with
        hashtable := after, allocator := rest, routeCount := table.routeCount + 1 } ∧
      RouteStore.live { table.write table.routeCount route with
        hashtable := after, allocator := rest, routeCount := table.routeCount + 1 }
          = table.live ++ [route]) ∨
    (∃ err rest, (table.write table.routeCount route).insert route.targetId
          ((table.write table.routeCount route).address table.routeCount)
        = (err, { table.write table.routeCount route with allocator := rest }) ∧ err ≠ .ok) := by
  obtain ⟨hwritten, hlive⟩ := hcons.write_free route
  have hfree : ¬ (table.write table.routeCount route).hashtable.Holds route.targetId := by
    rw [hwritten.holds_iff, hlive]
    exact hnew
  generalize hwrite : table.write table.routeCount route = written at *
  have hcount : written.routeCount = table.routeCount := by
    rw [← hwrite]
    rfl
  have hcapacity : written.routeCapacity = table.routeCapacity := by
    rw [← hwrite]
    rfl
  have hslots : written.slots = table.slots.set table.routeCount route := by
    rw [← hwrite, slots_write]
  -- the hashtable takes the entry, or it has no memory for it
  rcases xglHashtableInsert_free hwritten.wellFormed hfree (written.address table.routeCount)
    written.allocator with ⟨pointer, after, rest, haddress, hout, hset, hmore⟩
    | ⟨err, rest, hout, herr⟩
  · have hlive' : RouteStore.live
        { written with hashtable := after, allocator := rest, routeCount := table.routeCount + 1 }
          = table.live ++ [route] := by
      have hlt : table.routeCount < written.slots.length := by
        rw [hwritten.capacity, hcapacity]
        exact hroom
      show written.slots.take (table.routeCount + 1) = _
      rw [List.take_add_one, List.getElem?_eq_getElem hlt]
      have hfront : written.slots.take table.routeCount = table.live := by
        rw [← hlive]
        show _ = written.slots.take written.routeCount
        rw [hcount]
      rw [hfront]
      simp [hslots]
    refine Or.inl ⟨after, rest, by simp [RouteStore.insert, hout], ?_, hlive'⟩
    refine ⟨hset.wellFormed, hwritten.capacity, ?_, ?_, ?_, ?_⟩
    · show table.routeCount + 1 ≤ written.routeCapacity
      omega
    · rw [hlive']
      exact hcons.distinct.append hnew
    · intro entry
      have hlength := hcons.length_live
      rw [hlive', hset.mem_iff, hwritten.points, hlive]
      show _ ↔ ∃ i slot, _ ∧ _ ∧ written.address i = some entry.value
      constructor
      · rintro (rfl | ⟨⟨i, slot, hread, hkey, hvalue⟩, -⟩)
        · refine ⟨table.routeCount, route, ?_, rfl, haddress⟩
          rw [List.getElem?_append_right (le_of_eq hlength), hlength]
          simp
        · refine ⟨i, slot, ?_, hkey, hvalue⟩
          rw [List.getElem?_append_left (List.getElem?_eq_some_iff.1 hread).1]
          exact hread
      · rintro ⟨i, slot, hread, hkey, hvalue⟩
        -- a route that was there, or the new one behind them
        by_cases hi : i < table.live.length
        · rw [List.getElem?_append_left hi] at hread
          refine Or.inr ⟨⟨i, slot, hread, hkey, hvalue⟩, ?_⟩
          intro hsame
          exact hnew (List.mem_map.2 ⟨slot, List.mem_of_getElem? hread, hkey.trans hsame⟩)
        · -- behind the old routes there is only the new one
          have hend : i = table.routeCount := by
            have := (List.getElem?_eq_some_iff.1 hread).1
            simp only [List.length_append, List.length_singleton] at this
            omega
          rw [List.getElem?_append_right (by omega), hend, hlength] at hread
          have hroute : slot = route := by simpa using hread.symm
          rw [hend, haddress] at hvalue
          refine Or.inl ?_
          rw [Option.some.inj hvalue, ← hroute, hkey]
    · show after.count = table.routeCount + 1
      rw [hmore, hwritten.counted, hcount]
  · exact Or.inr ⟨err, rest, by simp [RouteStore.insert, hout], herr⟩

/-- An addition that succeeds sets the route of its id, and one that fails sets none. -/
theorem xglRouteTableAdd_spec (route : RouteSlot) :
    (table.xglRouteTableAdd route).2.Consistent ∧
      (table.xglRouteTableAdd route).2.observe
        = if (table.xglRouteTableAdd route).1 = .ok then
            Function.update table.observe route.targetId (some route)
          else table.observe := by
  rw [RouteStore.xglRouteTableAdd]
  by_cases hphy : route.phy.isNone
  · rw [if_pos hphy]
    exact ⟨hcons, rfl⟩
  rw [if_neg hphy]
  cases hfind : xglRouteFindIndex table route.targetId with
  | some index =>
    -- a known id: the slot is overwritten, and its entry is there already
    obtain ⟨old, hold, hkey⟩ :
        ∃ old, table.live[index]? = some old ∧ old.targetId = route.targetId :=
      findIdx?_key_some hfind
    have hwritten := hcons.write hold hkey.symm
    have hlive := live_write table index route
    have hread : (table.write index route).live[index]? = some route := by
      rw [hlive, List.getElem?_set_self (List.getElem?_eq_some_iff.1 hold).1]
    obtain ⟨after, hout, hafter⟩ := insert_same hwritten hread
    rw [address_write] at hout
    simp only [hout]
    refine ⟨hafter, ?_⟩
    rw [if_pos trivial]
    refine hcons.observe_update hafter ?_
    intro slot
    show slot ∈ (table.write index route).live ↔ _
    rw [hlive]
    exact hcons.distinct.mem_set hold hkey.symm
  | none =>
    have hnew : route.targetId ∉ table.live.map RouteSlot.targetId := findIdx?_key_none hfind
    generalize hgrown : (if table.routeCount ≥ table.routeCapacity then xglRouteGrowCapacity table
      else (.ok, table)) = grown
    -- with or without growth: the same routes, and room for one more on success
    have hready : grown.2.Consistent ∧ grown.2.live = table.live ∧
        (grown.1 = .ok → grown.2.routeCount < grown.2.routeCapacity) := by
      rw [← hgrown]
      split <;> rename_i hfull
      · obtain ⟨hafter, hlive, hcount, hmore⟩ := xglRouteGrowCapacity_spec hcons hfull
        exact ⟨hafter, hlive, fun hok => hcount ▸ hmore hok⟩
      · exact ⟨hcons, rfl, fun _ => Nat.lt_of_not_le hfull⟩
    obtain ⟨hafter, hlive, hroom⟩ := hready
    obtain ⟨err, next⟩ := grown
    have hsame : next.observe = table.observe := hcons.observe_congr hafter hlive
    by_cases herr : err = .ok
    · subst herr
      rcases appendRoute_spec hafter (hroom rfl) (hlive.symm ▸ hnew) with
        ⟨after, rest, hout, hlast, happend⟩ | ⟨err, rest, hout, herr⟩
      · simp only [hout]
        refine ⟨hlast, ?_⟩
        rw [if_pos trivial]
        refine hcons.observe_update hlast ?_
        intro slot
        rw [happend, hlive]
        exact mem_append_new hnew
      · obtain ⟨hwritten, hkept⟩ := hafter.write_free route
        have hlast := hwritten.withAllocator rest
        have hseen := hcons.observe_congr hlast (hkept.trans hlive)
        cases err with
        | ok => exact absurd rfl herr
        | _ =>
          simp only [hout]
          exact ⟨hlast, hseen⟩
    · cases err with
      | ok => exact absurd rfl herr
      | _ => exact ⟨hafter, hsame⟩

/-- The array with the routes behind a removed one moved to the front. -/
theorem shiftDown_spec {index : Nat} (hindex : index < table.routeCount) (after : Hashtable) :
    (RouteStore.shiftDown { table with hashtable := after } index).slots.take (table.routeCount - 1)
        = table.live.eraseIdx index ∧
      (RouteStore.shiftDown { table with hashtable := after } index).slots.length
        = table.slots.length ∧
      ∀ i, (RouteStore.shiftDown { table with hashtable := after } index).address i
        = table.address i := by
  have hroom := hcons.room
  have hcapacity := hcons.capacity
  have hslots : (RouteStore.shiftDown { table with hashtable := after } index).slots
      = memmove table.slots index (index + 1) (table.routeCount - index - 1) := by
    cases hroutes : table.routes with
    | none => simp [RouteStore.shiftDown, RouteStore.slots, hroutes, memmove]
    | some routes => simp [RouteStore.shiftDown, RouteStore.slots, hroutes]
  refine ⟨?_, ?_, ?_⟩
  · rw [hslots]
    exact take_memmove hindex (by omega)
  · rw [hslots, memmove]
    simp only [List.length_append, List.length_take, List.length_drop]
    omega
  · intro i
    cases hroutes : table.routes <;> simp [RouteStore.shiftDown, RouteStore.address, hroutes]

/-- The loop after a removal leads every entry to the slot its route moved to. -/
theorem removeRoute_spec {index : Nat} {old : RouteSlot} (hold : table.live[index]? = some old)
    {hashtable : Hashtable} (htaken : EntryTaken table.hashtable old.targetId hashtable)
    {moved : RouteStore} (hhash : moved.hashtable = hashtable)
    (htake : moved.slots.take (table.routeCount - 1) = table.live.eraseIdx index)
    (hlength : moved.slots.length = table.slots.length)
    (hcapacity : moved.routeCapacity = table.routeCapacity)
    (hcount : moved.routeCount = table.routeCount)
    (haddress : ∀ i, moved.address i = table.address i) :
    let final := moved.reindex index (table.routeCount - 1)
    RouteStore.Consistent { final with routeCount := final.routeCount - 1 } ∧
      RouteStore.live { final with routeCount := final.routeCount - 1 }
        = table.live.eraseIdx index := by
  have hroom := hcons.room
  have hsize := hcons.capacity
  have hindex : index < table.routeCount :=
    hcons.length_live ▸ (List.getElem?_eq_some_iff.1 hold).1
  obtain ⟨routes, hroutes⟩ : ∃ routes, moved.routes = some routes := by
    obtain ⟨pointer, hpointer⟩ := address_of_live hold
    rw [← haddress] at hpointer
    cases hroutes : moved.routes with
    | none => simp [RouteStore.address, hroutes] at hpointer
    | some routes => exact ⟨routes, rfl⟩
  -- a route in another slot has another id, so its entry is still there
  have hkept : ∀ (j : Nat) (slot : RouteSlot) (value : RoutePtr), j ≠ index →
      table.live[j]? = some slot → table.address j = some value →
        { key := slot.targetId, value := value } ∈ hashtable.entries := by
    intro j slot value hj hread hvalue
    refine (htaken.mem_iff _).2 ⟨(hcons.points _).2 ⟨j, slot, hread, rfl, hvalue⟩, ?_⟩
    intro hsame
    exact hj (hcons.distinct.index_eq hread hold hsame)
  obtain ⟨after, hafter, hwell, hcount', hmem⟩ := @reindex_points moved routes index
    (table.routeCount - 1) hroutes (by rw [hhash]; exact htaken.wellFormed)
    (by omega) (by rw [htake]; exact hcons.distinct.eraseIdx index)
    (by
      intro i slot value hi hread hvalue
      rw [htake, List.getElem?_eraseIdx_of_lt hi] at hread
      rw [haddress] at hvalue
      rw [hhash]
      exact hkept i slot value (Nat.ne_of_lt hi) hread hvalue)
    (by
      intro i slot hi hread
      rw [htake, List.getElem?_eraseIdx_of_ge hi] at hread
      obtain ⟨pointer, hpointer⟩ := address_of_live hread
      rw [hhash]
      exact ⟨_, hkept (i + 1) slot pointer (by omega) hread hpointer, rfl⟩)
    (by
      intro entry hentry
      rw [hhash] at hentry
      obtain ⟨hin, hne⟩ := (htaken.mem_iff entry).1 hentry
      obtain ⟨j, slot, hread, hkey, hvalue⟩ := (hcons.points entry).1 hin
      rw [htake]
      -- a slot in front of the removed one, that slot itself, or one behind it
      rcases Nat.lt_trichotomy j index with hj | hj | hj
      · refine ⟨j, slot, ?_, hkey, fun _ => (haddress j).trans hvalue⟩
        rw [List.getElem?_eraseIdx_of_lt hj]
        exact hread
      · rw [hj, hold] at hread
        exact absurd (Option.some.inj hread ▸ hkey.symm) hne
      · refine ⟨j - 1, slot, ?_, hkey, fun hlt => absurd hlt (by omega)⟩
        rw [List.getElem?_eraseIdx_of_ge (by omega), Nat.sub_add_cancel (by omega)]
        exact hread)
  have hlive : RouteStore.live
      { { moved with hashtable := after } with routeCount := moved.routeCount - 1 }
        = table.live.eraseIdx index := by
    show moved.slots.take (moved.routeCount - 1) = _
    rw [hcount, htake]
  intro final
  have hfinal : final = { moved with hashtable := after } := hafter
  rw [hfinal]
  refine ⟨⟨hwell, ?_, ?_, ?_, ?_, ?_⟩, hlive⟩
  · show moved.slots.length = moved.routeCapacity
    rw [hlength, hsize, hcapacity]
  · show moved.routeCount - 1 ≤ moved.routeCapacity
    omega
  · rw [hlive]
    exact hcons.distinct.eraseIdx index
  · intro entry
    rw [hlive, ← htake]
    exact hmem entry
  · show after.count = moved.routeCount - 1
    have hcounted := htaken.counted
    rw [hcons.counted] at hcounted
    rw [hcount', hhash]
    omega

/-- A removal that succeeds takes the route of its id out, and one that fails takes none. -/
theorem xglRouteTableRemove_spec (targetId : UInt16) :
    (xglRouteTableRemove table targetId).2.Consistent ∧
      (xglRouteTableRemove table targetId).2.observe
        = if (xglRouteTableRemove table targetId).1 = .ok then
            Function.update table.observe targetId none
          else table.observe := by
  rw [xglRouteTableRemove]
  cases hfind : xglRouteFindIndex table targetId with
  | none => exact ⟨hcons, rfl⟩
  | some index =>
    obtain ⟨old, hold, rfl⟩ :
        ∃ old, table.live[index]? = some old ∧ old.targetId = targetId :=
      findIdx?_key_some hfind
    have hindex : index < table.routeCount :=
      hcons.length_live ▸ (List.getElem?_eq_some_iff.1 hold).1
    have hheld := hcons.holds_iff.2 (List.mem_map_of_mem (List.mem_of_getElem? hold))
    obtain ⟨hashtable, hout, htaken⟩ := xglHashtableRemove_held hcons.wellFormed hheld
    obtain ⟨htake, hlength, haddress⟩ := shiftDown_spec hcons hindex hashtable
    obtain ⟨hafter, hlive⟩ := removeRoute_spec hcons hold htaken rfl htake hlength rfl rfl haddress
    -- the last route needs no shift: neither the move nor the loop does anything
    have hshift : (if index < table.routeCount - 1 then
          (RouteStore.shiftDown { table with hashtable := hashtable } index).reindex index
            (table.routeCount - 1)
        else { table with hashtable := hashtable })
          = (RouteStore.shiftDown { table with hashtable := hashtable } index).reindex index
            (table.routeCount - 1) := by
      split <;> rename_i hlast
      · rfl
      · have hend : index = table.routeCount - 1 := by omega
        have hnone : (List.range (table.routeCount - 1)).drop index = [] := by
          rw [hend]
          simp
        have hmove : table.routeCount - index - 1 = 0 := by omega
        rw [RouteStore.reindex, hnone, List.foldl_nil, RouteStore.shiftDown]
        cases hroutes : table.routes with
        | none => simp
        | some routes => simp [memmove, hmove]
    simp only [hout, hshift]
    refine ⟨hafter, ?_⟩
    rw [if_pos trivial]
    refine hafter.shows.unique (hcons.shows.erase ?_)
    intro slot
    rw [hlive]
    exact hcons.distinct.mem_eraseIdx hold

/-- Clearing leaves no route. -/
theorem xglRouteTableClear_spec :
    (xglRouteTableClear table).Consistent ∧
      (xglRouteTableClear table).observe = fun _ => none := by
  obtain ⟨hwell, hentries, hcount⟩ := xglHashtableClear_spec hcons.wellFormed
  have hlive : (xglRouteTableClear table).live = [] := List.take_zero
  have hafter : (xglRouteTableClear table).Consistent := by
    refine ⟨hwell, hcons.capacity, Nat.zero_le _, ?_, ?_, hcount⟩
    · rw [hlive]
      exact List.nodup_nil
    · intro entry
      show entry ∈ (xglHashtableClear table.hashtable).entries ↔ _
      rw [hentries, hlive]
      simp
  exact ⟨hafter, hafter.shows.unique (hlive ▸ Shows.nil)⟩

/-- An update of the metric changes it in the route of the id, and fails exactly
when there is none. -/
theorem xglRouteTableUpdateMetric_spec (targetId : UInt16) (metric : UInt8) :
    (xglRouteTableUpdateMetric table targetId metric).2.Consistent ∧
      (((xglRouteTableUpdateMetric table targetId metric).1 ≠ .ok ∧
          table.observe targetId = none ∧
          (xglRouteTableUpdateMetric table targetId metric).2.observe = table.observe) ∨
        ∃ slot, (xglRouteTableUpdateMetric table targetId metric).1 = .ok ∧
          table.observe targetId = some slot ∧
          (xglRouteTableUpdateMetric table targetId metric).2.observe
            = Function.update table.observe targetId (some { slot with metric := metric })) := by
  rw [xglRouteTableUpdateMetric]
  cases hlook : table.xglRouteTableLookup targetId with
  | none =>
    have herr : XglError.routeNotFound ≠ .ok := by decide
    refine ⟨hcons, Or.inl ⟨herr, ?_, rfl⟩⟩
    rw [RouteStore.observe, hlook]
    rfl
  | some pointer =>
    obtain ⟨i, slot, hread, hkey, haddress⟩ := hcons.lookup_iff.1 hlook
    have hderef := deref_address hread haddress
    have hat : pointer.index = i := by
      cases hroutes : table.routes with
      | none => simp [RouteStore.address, hroutes] at haddress
      | some routes =>
        have hpointer : { block := routes.block, index := i } = pointer := by
          simpa [RouteStore.address, hroutes] using haddress
        rw [← hpointer]
    simp only [hderef, hat]
    have hafter := @RouteStore.Consistent.write table hcons i slot
      { slot with metric := metric } hread rfl
    refine ⟨hafter, Or.inr ⟨slot, trivial, ?_, ?_⟩⟩
    · rw [RouteStore.observe, hlook]
      exact hderef
    · rw [← hkey]
      refine @RouteStore.Consistent.observe_update table hcons _ hafter
        { slot with metric := metric } ?_
      intro other
      have hsame : RouteSlot.targetId { slot with metric := metric } = slot.targetId := rfl
      rw [live_write]
      exact hcons.distinct.mem_set hread hsame

end Operations

/-! ### Loading -/

/-- The finite map the table stands for. -/
abbrev RouteMap := UInt16 → Option RouteSlot

/-- The map with one route set under its id. -/
def RouteMap.set (map : RouteMap) (route : RouteSlot) : RouteMap :=
  Function.update map route.targetId (some route)

/-- The loop sets the routes it loads, and stops at the first one that fails. -/
theorem loadRoutes_spec (routes : List RouteSlot) {table : RouteStore}
    (hcons : table.Consistent) :
    (loadRoutes table routes).2.2.Consistent ∧
      (loadRoutes table routes).2.2.observe
        = (routes.take (loadRoutes table routes).2.1).foldl RouteMap.set table.observe ∧
      ((loadRoutes table routes).1 = .ok → (loadRoutes table routes).2.1 = routes.length) ∧
      ((loadRoutes table routes).1 ≠ .ok → ∃ before route,
        routes[(loadRoutes table routes).2.1]? = some route ∧
        loadRoutes table (routes.take (loadRoutes table routes).2.1)
          = (.ok, (loadRoutes table routes).2.1, before) ∧
        (before.xglRouteTableAdd route).1 = (loadRoutes table routes).1 ∧
        (loadRoutes table routes).2.2.observe = before.observe) := by
  induction routes generalizing table with
  | nil => exact ⟨hcons, rfl, fun _ => rfl, fun hne => absurd rfl hne⟩
  | cons route rest ih =>
    obtain ⟨hafter, hseen⟩ := xglRouteTableAdd_spec hcons route
    cases hadd : table.xglRouteTableAdd route with
    | mk err next =>
      rw [hadd] at hafter hseen
      -- the first route that fails ends the load
      by_cases herr : err = .ok
      · subst herr
        obtain ⟨hlast, hmap, hall, hstop⟩ := ih hafter
        have hloop : loadRoutes table (route :: rest)
            = ((loadRoutes next rest).1, (loadRoutes next rest).2.1 + 1,
                (loadRoutes next rest).2.2) := by
          simp only [loadRoutes, hadd]
        rw [hloop]
        refine ⟨hlast, ?_, ?_, ?_⟩
        · show (loadRoutes next rest).2.2.observe = _
          rw [hmap, hseen, if_pos rfl, List.take_succ_cons, List.foldl_cons]
          rfl
        · intro hok
          rw [List.length_cons]
          exact congrArg (· + 1) (hall hok)
        · intro hne
          obtain ⟨before, failing, hread, hbefore, hanswer, hkept⟩ := hstop hne
          refine ⟨before, failing, hread, ?_, hanswer, hkept⟩
          rw [List.take_succ_cons]
          simp only [loadRoutes, hadd, hbefore]
      · have hloop : loadRoutes table (route :: rest) = (err, 0, next) := by
          cases err with
          | ok => exact absurd rfl herr
          | _ => simp only [loadRoutes, hadd]
        rw [hloop]
        rw [if_neg herr] at hseen
        exact ⟨hafter, hseen, fun hok => absurd hok herr,
          fun _ => ⟨table, route, rfl, rfl, congrArg Prod.fst hadd, hseen⟩⟩

/-! ### Runs of operations -/

/-- The operations of the route table. -/
inductive RouteOp where
  | add (route : RouteSlot)
  | remove (targetId : UInt16)
  | clear
  | load (routes : Option (List RouteSlot)) (count : Nat)
  | updateMetric (targetId : UInt16) (metric : UInt8)
  | lookup (targetId : UInt16)

/-- One operation on the table: its answer, the number of routes a load set, and
the table after it. -/
def routeStep (table : RouteStore) : RouteOp → XglError × Option Nat × RouteStore
  | .add route => ((table.xglRouteTableAdd route).1, none, (table.xglRouteTableAdd route).2)
  | .remove targetId =>
    ((xglRouteTableRemove table targetId).1, none, (xglRouteTableRemove table targetId).2)
  | .clear => (.ok, none, xglRouteTableClear table)
  | .load routes count => table.xglRouteTableLoad routes count
  | .updateMetric targetId metric =>
    ((xglRouteTableUpdateMetric table targetId metric).1, none,
      (xglRouteTableUpdateMetric table targetId metric).2)
  | .lookup _ => (.ok, none, table)

/-- What an operation that succeeds means on the map. -/
def RouteOp.meaning (map : RouteMap) : RouteOp → RouteMap
  | .add route => map.set route
  | .remove targetId => Function.update map targetId none
  | .clear => fun _ => none
  | .updateMetric targetId metric =>
    Function.update map targetId ((map targetId).map fun slot => { slot with metric := metric })
  | .load _ _ | .lookup _ => map

/-- The map after an operation with its answer. A load that was not refused sets
the routes it loaded on an empty map; any other operation has its meaning when
it succeeds and none when it fails. -/
def mapStep (map : RouteMap) (op : RouteOp) (err : XglError) (loaded : Option Nat) : RouteMap :=
  match op, loaded with
  | .load routes count, some loaded =>
    (((routes.getD []).take count).take loaded).foldl RouteMap.set (fun _ => none)
  | op, _ => if err = .ok then op.meaning map else map

/-- A table and the map its operations were played on. -/
structure RouteRun where
  table : RouteStore
  map : RouteMap

/-- One operation, on the table and on the map. -/
def runRouteOp (run : RouteRun) (op : RouteOp) : RouteRun :=
  let out := routeStep run.table op
  { table := out.2.2, map := mapStep run.map op out.1 out.2.1 }

/-- A table as `xgl_route_table_init` leaves it, and the empty map. -/
def freshRoutes (answer : Nat → Option Nat) (initialCapacity : Nat) : RouteRun where
  table := (xglRouteTableInit initialCapacity { answer := answer }).2
  map := fun _ => none

/-- The table stands for the map: distinct ids in the array, every entry leading
to the slot of its id in the array of now, one entry for each route, and under
every id the pointer to the slot with the parameters the map has there. -/
structure TableIsMap (table : RouteStore) (map : RouteMap) : Prop where
  keysUnique : Keyed RouteSlot.targetId table.live
  entriesPoint : ∀ entry ∈ table.hashtable.entries, ∃ i < table.routeCount, ∃ slot,
    table.slots[i]? = some slot ∧ slot.targetId = entry.key ∧
      table.address i = some entry.value
  countsAgree : table.hashtable.count = table.routeCount ∧
    table.hashtable.entries.length = table.routeCount
  lookups : ∀ targetId,
    (table.xglRouteTableLookup targetId).map table.deref = (map targetId).map some

/-- An operation that fails shows the routes from before it; a load that stops at
a route shows those that were there after the routes before that one. -/
def FailureKeeps (table : RouteStore) : RouteOp → Prop
  | .load routes count =>
    (table.xglRouteTableLoad routes count).1 ≠ .ok →
      (routes = none ∧ 0 < count ∧
        (table.xglRouteTableLoad routes count).2.2.observe = table.observe) ∨
      ∃ loaded before route, ((routes.getD []).take count)[loaded]? = some route ∧
        loadRoutes (xglRouteTableClear table) (((routes.getD []).take count).take loaded)
          = (.ok, loaded, before) ∧
        (before.xglRouteTableAdd route).1 = (table.xglRouteTableLoad routes count).1 ∧
        (table.xglRouteTableLoad routes count).2.2.observe = before.observe
  | op => (routeStep table op).1 ≠ .ok → (routeStep table op).2.2.observe = table.observe

/-- A load that is not refused is a clear and the loop. -/
theorem xglRouteTableLoad_eq (table : RouteStore) (routes : Option (List RouteSlot)) (count : Nat)
    (hargs : (routes.isNone && decide (count > 0)) = false) :
    table.xglRouteTableLoad routes count
      = ((loadRoutes (xglRouteTableClear table) ((routes.getD []).take count)).1,
          some (loadRoutes (xglRouteTableClear table) ((routes.getD []).take count)).2.1,
          (loadRoutes (xglRouteTableClear table) ((routes.getD []).take count)).2.2) := by
  rw [RouteStore.xglRouteTableLoad, hargs]
  rfl

/-- One operation keeps the invariant and does on the routes what it means on the map. -/
theorem routeStep_spec {table : RouteStore} (hcons : table.Consistent) (op : RouteOp) :
    (routeStep table op).2.2.Consistent ∧
      (routeStep table op).2.2.observe
        = mapStep table.observe op (routeStep table op).1 (routeStep table op).2.1 := by
  cases op with
  | add route => exact xglRouteTableAdd_spec hcons route
  | remove targetId => exact xglRouteTableRemove_spec hcons targetId
  | clear => exact xglRouteTableClear_spec hcons
  | lookup targetId => exact ⟨hcons, rfl⟩
  | updateMetric targetId metric =>
    obtain ⟨hafter, ⟨herr, -, hseen⟩ | ⟨slot, hok, hat, hseen⟩⟩ :=
      xglRouteTableUpdateMetric_spec hcons targetId metric
    · refine ⟨hafter, hseen.trans ?_⟩
      exact (if_neg herr).symm
    · refine ⟨hafter, hseen.trans ?_⟩
      show _ = if (xglRouteTableUpdateMetric table targetId metric).1 = .ok then _ else _
      rw [if_pos hok, RouteOp.meaning, hat]
      rfl
  | load routes count =>
    cases hargs : routes.isNone && decide (count > 0) with
    | true =>
      have hout : table.xglRouteTableLoad routes count = (.invalidParam, none, table) := by
        rw [RouteStore.xglRouteTableLoad, hargs]
        rfl
      show (table.xglRouteTableLoad routes count).2.2.Consistent ∧ _
      rw [routeStep, hout]
      exact ⟨hcons, rfl⟩
    | false =>
      obtain ⟨hclear, hempty⟩ := xglRouteTableClear_spec hcons
      obtain ⟨hafter, hseen, -, -⟩ := loadRoutes_spec ((routes.getD []).take count) hclear
      rw [routeStep, xglRouteTableLoad_eq table routes count hargs]
      rw [hempty] at hseen
      exact ⟨hafter, hseen⟩

/-- A failed operation keeps what the lookups show. -/
theorem failureKeeps {table : RouteStore} (hcons : table.Consistent) (op : RouteOp) :
    FailureKeeps table op := by
  cases op with
  | load routes count =>
    intro hne
    cases hargs : routes.isNone && decide (count > 0) with
    | true =>
      have hout : table.xglRouteTableLoad routes count = (.invalidParam, none, table) := by
        rw [RouteStore.xglRouteTableLoad, hargs]
        rfl
      have hboth : routes = none ∧ 0 < count := by simpa using hargs
      exact Or.inl ⟨hboth.1, hboth.2, by rw [hout]⟩
    | false =>
      obtain ⟨hclear, -⟩ := xglRouteTableClear_spec hcons
      obtain ⟨-, -, -, hstop⟩ := loadRoutes_spec ((routes.getD []).take count) hclear
      rw [xglRouteTableLoad_eq table routes count hargs] at hne ⊢
      obtain ⟨before, route, hread, hbefore, hanswer, hkept⟩ := hstop hne
      exact Or.inr ⟨_, before, route, hread, hbefore, hanswer, hkept⟩
  | add route =>
    intro hne
    exact (routeStep_spec hcons (.add route)).2.trans (if_neg hne)
  | remove targetId =>
    intro hne
    exact (routeStep_spec hcons (.remove targetId)).2.trans (if_neg hne)
  | updateMetric targetId metric =>
    intro hne
    exact (routeStep_spec hcons (.updateMetric targetId metric)).2.trans (if_neg hne)
  | clear => exact fun hne => absurd rfl hne
  | lookup targetId => exact fun hne => absurd rfl hne

/-- A table as it is initialised, or as a failed initialisation leaves it. -/
theorem xglRouteTableInit_spec (initialCapacity : Nat) (allocator : Allocator) :
    (xglRouteTableInit initialCapacity allocator).2.Consistent ∧
      (xglRouteTableInit initialCapacity allocator).2.live = [] := by
  have hempty : ∀ (table : RouteStore), table.hashtable.WellFormed →
      table.hashtable.entries = [] → table.routeCount = 0 →
      table.slots.length = table.routeCapacity → table.Consistent ∧ table.live = [] := by
    intro table hwell hentries hcount hcapacity
    have hlive : table.live = [] := by rw [RouteStore.live, hcount, List.take_zero]
    refine ⟨⟨hwell, hcapacity, by omega, ?_, ?_, ?_⟩, hlive⟩
    · rw [hlive]
      exact List.nodup_nil
    · intro entry
      rw [hentries, hlive]
      simp
    · rw [hwell.counted, hentries, hcount]
      rfl
  have hsize : 0 < XGL_ROUTE_TABLE_DEFAULT_SIZE := by decide
  have hpower : xglIsPowerOf2 XGL_ROUTE_TABLE_DEFAULT_SIZE = true := by decide
  obtain ⟨hbuckets, hnone⟩ := emptyTable_wellFormed hsize
  cases hfirst : allocator.answer allocator.requests with
  | none =>
    have hinit : xglHashtableInit {} XGL_ROUTE_TABLE_DEFAULT_SIZE allocator
        = (.noMemory, { buckets := none, size := XGL_ROUTE_TABLE_DEFAULT_SIZE, count := 0 },
            (xglAlloc allocator).2) := by
      simp [xglHashtableInit, hpower, xglAlloc, hfirst]
    simp only [xglRouteTableInit, hinit]
    exact hempty _ (noBuckets_wellFormed _) rfl rfl rfl
  | some memory =>
    have hinit : xglHashtableInit {} XGL_ROUTE_TABLE_DEFAULT_SIZE allocator
        = (.ok, { buckets := some (List.replicate XGL_ROUTE_TABLE_DEFAULT_SIZE [])
                  size := XGL_ROUTE_TABLE_DEFAULT_SIZE
                  count := 0 }, (xglAlloc allocator).2) := by
      simp [xglHashtableInit, hpower, xglAlloc, hfirst]
    -- the table may start without an array
    by_cases hcapacity : initialCapacity > 0
    · cases hsecond : allocator.answer (allocator.requests + 1) with
      | none =>
        simp only [xglRouteTableInit, hinit, if_pos hcapacity, xglAlloc, hsecond]
        exact hempty _ (noBuckets_wellFormed _) rfl rfl rfl
      | some block =>
        simp only [xglRouteTableInit, hinit, if_pos hcapacity, xglAlloc, hsecond]
        exact hempty _ hbuckets hnone rfl List.length_replicate
    · simp only [xglRouteTableInit, hinit, if_neg hcapacity]
      exact hempty _ hbuckets hnone rfl rfl

/-- The invariant and the equality of the two maps are what `TableIsMap` says. -/
theorem RouteStore.Consistent.isMap {table : RouteStore} (hcons : table.Consistent) :
    TableIsMap table table.observe := by
  refine ⟨hcons.distinct, ?_, ⟨hcons.counted, ?_⟩, ?_⟩
  · intro entry hentry
    obtain ⟨i, slot, hread, hkey, hvalue⟩ := (hcons.points entry).1 hentry
    have hi : i < table.routeCount := hcons.length_live ▸ (List.getElem?_eq_some_iff.1 hread).1
    refine ⟨i, hi, slot, ?_, hkey, hvalue⟩
    rw [RouteStore.live, List.getElem?_take_of_lt hi] at hread
    exact hread
  · rw [← hcons.wellFormed.counted, hcons.counted]
  · intro targetId
    cases hlook : table.xglRouteTableLookup targetId with
    | none => simp [RouteStore.observe, hlook]
    | some pointer =>
      obtain ⟨i, slot, hread, hkey, haddress⟩ := hcons.lookup_iff.1 hlook
      have hderef := deref_address hread haddress
      simp [RouteStore.observe, hlook, hderef]

/-- Whatever the allocator answers and whatever operations are made on the table,
it stands for the map that the operations that succeeded describe, and the next
operation that fails leaves what the lookups show as it was. -/
theorem route_table_is_map (answer : Nat → Option Nat) (initialCapacity : Nat)
    (ops : List RouteOp) :
    let reached := ops.foldl runRouteOp (freshRoutes answer initialCapacity)
    TableIsMap reached.table reached.map ∧ ∀ op, FailureKeeps reached.table op := by
  intro reached
  have hinv : reached.table.Consistent ∧ reached.table.observe = reached.map := by
    refine @foldl_invariant _ _ runRouteOp
      (fun run => run.table.Consistent ∧ run.table.observe = run.map) ?_ ops _ ?_
    · intro run op hrun
      obtain ⟨hafter, hseen⟩ := routeStep_spec hrun.1 op
      rw [hrun.2] at hseen
      exact ⟨hafter, hseen⟩
    · obtain ⟨hcons, hlive⟩ := xglRouteTableInit_spec initialCapacity { answer := answer }
      exact ⟨hcons, hcons.shows.unique (hlive ▸ Shows.nil)⟩
  exact ⟨hinv.2 ▸ hinv.1.isMap, failureKeeps hinv.1⟩

end XgenLink
