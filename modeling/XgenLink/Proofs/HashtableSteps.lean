import XgenLink.Core.Hashtable
import XgenLink.Lib.Keyed

/-!
# `XgenLink.Proofs.HashtableSteps`: what each operation does to the entries

The route table is a hash table with chains. Every entry stands in the chain its key hashes to,
and no chain holds one key twice. Under this the table is its set of entries.

An insertion that succeeds makes the entry of the key the given one and touches no other. For a
key that is held it rewrites the entry in place and does not ask for memory. For one that is not
held it allocates an entry and puts it in front of the chain; when the allocation fails, no entry
is touched. A removal takes exactly the entry of the key out, and a clear takes all of them.

* `chainUpdate_eq`, `chainRemove_eq`, `chainLookup_iff`: the loops over one chain.
* `Hashtable.WellFormed`: the shape every operation keeps.
* `EntrySet`, `EntryTaken`: what an insertion and a removal do to the set of entries.
* `Hashtable.WellFormed.setChain`: one chain replaced.
* `xglHashtableInsert_held`, `xglHashtableInsert_free`, `xglHashtableRemove_held`: the operations.
-/

set_option autoImplicit false

namespace XgenLink

/-! ### Chains -/

/-- The update loop is a search for the key and a write where it was found. -/
theorem chainUpdate_eq (key : UInt16) (value : RoutePtr) (chain : List HashtableEntry) :
    chainUpdate key value chain
      = (chain.findIdx? (fun entry => entry.key == key)).map
          (fun i => chain.set i { key := key, value := value }) := by
  induction chain with
  | nil => rfl
  | cons entry next ih =>
    rw [chainUpdate, List.findIdx?_cons]
    by_cases hkey : entry.key = key
    · subst hkey
      simp
    · simp [hkey, ih, Function.comp_def]

/-- The removal loop is a search for the key and an erasure where it was found. -/
theorem chainRemove_eq (key : UInt16) (chain : List HashtableEntry) :
    chainRemove key chain
      = (chain.findIdx? (fun entry => entry.key == key)).map (fun i => chain.eraseIdx i) := by
  induction chain with
  | nil => rfl
  | cons entry next ih =>
    rw [chainRemove, List.findIdx?_cons]
    by_cases hkey : entry.key = key
    · simp [hkey]
    · simp [hkey, ih, Function.comp_def]

/-- The lookup loop finds the entry of the key. -/
theorem chainLookup_iff {chain : List HashtableEntry} (hkeyed : Keyed HashtableEntry.key chain)
    (key : UInt16) (value : RoutePtr) :
    chainLookup key chain = some value ↔ { key := key, value := value } ∈ chain := by
  induction chain with
  | nil => simp [chainLookup]
  | cons entry next ih =>
    have hparts : entry.key ∉ next.map HashtableEntry.key ∧ Keyed HashtableEntry.key next := by
      simpa [Keyed] using hkeyed
    rw [chainLookup, List.mem_cons]
    by_cases hkey : entry.key = key
    · subst hkey
      rw [if_pos rfl]
      constructor
      · intro h
        exact Or.inl (by rw [← Option.some.inj h])
      · rintro (h | h)
        · rw [← h]
        · exact absurd (List.mem_map_of_mem h) hparts.1
    · rw [if_neg hkey, ih hparts.2]
      constructor
      · exact Or.inr
      · rintro (h | h)
        · exact absurd (congrArg HashtableEntry.key h).symm hkey
        · exact h

/-! ### The table as its set of entries -/

/-- The entries of all chains. -/
def Hashtable.entries (table : Hashtable) : List HashtableEntry :=
  (table.buckets.getD []).flatten

/-- Some entry has the key. -/
def Hashtable.Holds (table : Hashtable) (key : UInt16) : Prop :=
  ∃ entry ∈ table.entries, entry.key = key

/-- The shape every operation keeps. -/
structure Hashtable.WellFormed (table : Hashtable) : Prop where
  /-- There is a bucket for each hash. -/
  buckets : ∀ buckets, table.buckets = some buckets →
    buckets.length = table.size ∧ 0 < table.size
  /-- Every entry is in the chain its key hashes to. -/
  placed : ∀ index, ∀ entry ∈ table.chain index, xglHash entry.key table.size = index
  /-- No chain has a key twice. -/
  keyed : ∀ index, Keyed HashtableEntry.key (table.chain index)
  /-- The counter counts the entries. -/
  counted : table.count = table.entries.length

/-- A hash is the index of a chain. -/
theorem xglHash_lt (key : UInt16) {size : Nat} (hsize : 0 < size) : xglHash key size < size := by
  have hle : key.toNat &&& (size - 1) ≤ size - 1 := Nat.and_le_right
  show key.toNat &&& (size - 1) < size
  omega

/-- An entry is in some chain. -/
theorem Hashtable.mem_entries {table : Hashtable} {entry : HashtableEntry} :
    entry ∈ table.entries ↔ ∃ index, entry ∈ table.chain index := by
  simp only [Hashtable.entries, Hashtable.chain, List.mem_flatten]
  constructor
  · rintro ⟨chain, hchain, hentry⟩
    obtain ⟨index, hindex⟩ := List.mem_iff_getElem?.1 hchain
    exact ⟨index, by simpa [hindex] using hentry⟩
  · rintro ⟨index, hentry⟩
    cases hindex : (table.buckets.getD [])[index]? with
    | none => simp [hindex] at hentry
    | some chain =>
      exact ⟨chain, List.mem_of_getElem? hindex, by simpa [hindex] using hentry⟩

/-! ### Insertion and removal, as changes of the set of entries -/

/-- The entry of one key was made the given one, and no other was touched. -/
structure EntrySet (table : Hashtable) (key : UInt16) (value : RoutePtr) (after : Hashtable) :
    Prop where
  wellFormed : after.WellFormed
  mem_iff : ∀ entry, entry ∈ after.entries ↔
    entry = { key := key, value := value } ∨ entry ∈ table.entries ∧ entry.key ≠ key

/-- The entry of one key was taken out, and no other was touched. -/
structure EntryTaken (table : Hashtable) (key : UInt16) (after : Hashtable) : Prop where
  wellFormed : after.WellFormed
  mem_iff : ∀ entry, entry ∈ after.entries ↔ entry ∈ table.entries ∧ entry.key ≠ key
  counted : after.count + 1 = table.count

/-- A table of empty chains. -/
theorem emptyTable_wellFormed {size : Nat} (hsize : 0 < size) :
    Hashtable.WellFormed { buckets := some (List.replicate size []), size := size, count := 0 } ∧
      Hashtable.entries { buckets := some (List.replicate size []), size := size, count := 0 }
        = [] := by
  have hchain : ∀ index, Hashtable.chain
      { buckets := some (List.replicate size []), size := size, count := 0 } index = [] := by
    intro index
    by_cases hlt : index < size <;> simp [Hashtable.chain, hlt]
  refine ⟨⟨?_, ?_, ?_, ?_⟩, by simp [Hashtable.entries]⟩
  · rintro buckets ⟨⟩
    exact ⟨List.length_replicate, hsize⟩
  · intro index entry hentry
    rw [hchain] at hentry
    exact absurd hentry List.not_mem_nil
  · intro index
    rw [hchain]
    exact List.nodup_nil
  · simp [Hashtable.entries]

/-- A table without buckets. -/
theorem noBuckets_wellFormed (size : Nat) :
    Hashtable.WellFormed { buckets := none, size := size, count := 0 } := by
  refine ⟨?_, ?_, ?_, rfl⟩
  · rintro buckets ⟨⟩
  · intro index entry hentry
    exact absurd hentry List.not_mem_nil
  · intro index
    exact List.nodup_nil

section Tables

variable {table : Hashtable} (hwell : table.WellFormed)
include hwell

/-- An entry is in the chain of its key. -/
theorem Hashtable.WellFormed.mem_entries_iff {entry : HashtableEntry} :
    entry ∈ table.entries ↔ entry ∈ table.chain (xglHash entry.key table.size) := by
  rw [Hashtable.mem_entries]
  constructor
  · rintro ⟨index, hentry⟩
    exact (hwell.placed index entry hentry).symm ▸ hentry
  · intro hentry
    exact ⟨_, hentry⟩

/-- A key without a chain entry is not held. -/
theorem Hashtable.WellFormed.holds_iff {key : UInt16} :
    table.Holds key ↔ key ∈ (table.chain (xglHash key table.size)).map HashtableEntry.key := by
  rw [List.mem_map]
  constructor
  · rintro ⟨entry, hentry, rfl⟩
    exact ⟨entry, hwell.mem_entries_iff.1 hentry, rfl⟩
  · rintro ⟨entry, hentry, hkey⟩
    exact ⟨entry, Hashtable.mem_entries.2 ⟨_, hentry⟩, hkey⟩

/-- A table that holds a key has its buckets. -/
theorem Hashtable.WellFormed.chain_get {buckets : List (List HashtableEntry)}
    (hbuckets : table.buckets = some buckets) (key : UInt16) :
    buckets[xglHash key table.size]? = some (table.chain (xglHash key table.size)) := by
  obtain ⟨hlength, hsize⟩ := hwell.buckets buckets hbuckets
  have hlt : xglHash key table.size < buckets.length := by
    rw [hlength]
    exact xglHash_lt key hsize
  simp [Hashtable.chain, hbuckets, List.getElem?_eq_getElem hlt]

/-- What a lookup answers: the value of the entry of the key. -/
theorem xglHashtableLookup_iff (key : UInt16) (value : RoutePtr) :
    xglHashtableLookup table key = some value
      ↔ { key := key, value := value } ∈ table.entries := by
  rw [hwell.mem_entries_iff, xglHashtableLookup]
  cases hbuckets : table.buckets with
  | none => simp [Hashtable.chain, hbuckets]
  | some buckets => exact chainLookup_iff (hwell.keyed _) key value

/-! ### One chain replaced -/

/-- A chain replaced by one of its own hash keeps the shape, when the counter is
moved by the difference of the lengths. -/
theorem Hashtable.WellFormed.setChain (key : UInt16) {chain : List HashtableEntry} (count : Nat)
    {buckets : List (List HashtableEntry)} (hbuckets : table.buckets = some buckets)
    (hplaced : ∀ entry ∈ chain, xglHash entry.key table.size = xglHash key table.size)
    (hkeyed : Keyed HashtableEntry.key chain)
    (hcount : count + (table.chain (xglHash key table.size)).length
      = table.count + chain.length) :
    Hashtable.WellFormed { table.setChain (xglHash key table.size) chain with count := count } ∧
      ∀ entry, entry ∈ (table.setChain (xglHash key table.size) chain).entries ↔
        if xglHash entry.key table.size = xglHash key table.size then entry ∈ chain
        else entry ∈ table.entries := by
  obtain ⟨hlength, hsize⟩ := hwell.buckets buckets hbuckets
  have hget := hwell.chain_get hbuckets key
  have hlt : xglHash key table.size < buckets.length := hlength.symm ▸ xglHash_lt key hsize
  -- the chains after the write, index by index
  have hchain : ∀ (index : Nat),
      (table.setChain (xglHash key table.size) chain).chain index
        = if xglHash key table.size = index then chain else table.chain index := by
    intro index
    simp only [Hashtable.setChain, Hashtable.chain, hbuckets, Option.map_some, Option.getD_some,
      List.getElem?_set]
    split <;> rename_i heq
    · simp
    · rfl
  have hwritten : Hashtable.WellFormed
      { table.setChain (xglHash key table.size) chain with count := count } := by
    constructor
    · intro written hwritten
      have hset : written = buckets.set (xglHash key table.size) chain := by
        simpa [Hashtable.setChain, hbuckets] using hwritten.symm
      exact ⟨by rw [hset, List.length_set]; exact hlength, hsize⟩
    · intro index entry hentry
      have hin : entry ∈ (table.setChain (xglHash key table.size) chain).chain index := hentry
      rw [hchain] at hin
      split at hin <;> rename_i heq
      · exact heq ▸ hplaced entry hin
      · exact hwell.placed index entry hin
    · intro index
      have heq := hchain index
      show Keyed HashtableEntry.key ((table.setChain (xglHash key table.size) chain).chain index)
      rw [heq]
      split
      · exact hkeyed
      · exact hwell.keyed index
    · have hsum := length_flatten_set chain hget
      have hold : table.count = buckets.flatten.length := by
        simpa [Hashtable.entries, hbuckets] using hwell.counted
      have hnew : (table.setChain (xglHash key table.size) chain).entries
          = (buckets.set (xglHash key table.size) chain).flatten := by
        simp [Hashtable.entries, Hashtable.setChain, hbuckets]
      show count = (table.setChain (xglHash key table.size) chain).entries.length
      rw [hnew]
      omega
  refine ⟨hwritten, ?_⟩
  intro entry
  have hsame : entry ∈ (table.setChain (xglHash key table.size) chain).entries
      ↔ entry ∈ (table.setChain (xglHash key table.size) chain).chain
          (xglHash entry.key table.size) := hwritten.mem_entries_iff
  rw [hsame, hchain]
  -- the entry is in the chain of the new one, or in one that was not written
  by_cases heq : xglHash key table.size = xglHash entry.key table.size
  · rw [if_pos heq, if_pos heq.symm]
  · rw [if_neg heq, if_neg (Ne.symm heq), hwell.mem_entries_iff]

/-! ### The operations -/

/-- A written chain that has the new entry and the old ones of other keys gives
such a table. -/
theorem Hashtable.WellFormed.entrySet {key : UInt16} (value : RoutePtr)
    {chain : List HashtableEntry} (count : Nat) {buckets : List (List HashtableEntry)}
    (hbuckets : table.buckets = some buckets)
    (hchain : ∀ entry, entry ∈ chain ↔ entry = { key := key, value := value } ∨
      entry ∈ table.chain (xglHash key table.size) ∧ entry.key ≠ key)
    (hkeyed : Keyed HashtableEntry.key chain)
    (hcount : count + (table.chain (xglHash key table.size)).length
      = table.count + chain.length) :
    EntrySet table key value
      { table.setChain (xglHash key table.size) chain with count := count } := by
  have hplaced : ∀ entry ∈ chain, xglHash entry.key table.size = xglHash key table.size := by
    intro entry hentry
    rcases (hchain entry).1 hentry with rfl | ⟨hold, -⟩
    · rfl
    · exact hwell.placed _ entry hold
  obtain ⟨hwritten, hmem⟩ := hwell.setChain key count hbuckets hplaced hkeyed hcount
  refine ⟨hwritten, ?_⟩
  intro entry
  show entry ∈ (table.setChain (xglHash key table.size) chain).entries ↔ _
  rw [hmem]
  split <;> rename_i hhash
  · rw [hchain, hwell.mem_entries_iff, hhash]
  · -- an entry of another hash has another key
    have hne : entry.key ≠ key := fun hkey => hhash (hkey ▸ rfl)
    constructor
    · intro hold
      exact Or.inr ⟨hold, hne⟩
    · rintro (rfl | ⟨hold, -⟩)
      · exact absurd rfl hne
      · exact hold

/-- An insertion of a key that is held does not ask for memory and cannot fail. -/
theorem xglHashtableInsert_held {key : UInt16} (hheld : table.Holds key) (value : RoutePtr)
    (allocator : Allocator) :
    ∃ after, xglHashtableInsert table key (some value) allocator = (.ok, after, allocator) ∧
      EntrySet table key value after ∧ after.count = table.count := by
  have hin := hwell.holds_iff.1 hheld
  cases hbuckets : table.buckets with
  | none => simp [Hashtable.chain, hbuckets] at hin
  | some buckets =>
    cases hfind : (table.chain (xglHash key table.size)).findIdx? (fun e => e.key == key) with
    | none => exact absurd hin (findIdx?_key_none hfind)
    | some i =>
      obtain ⟨old, hold, hkey⟩ := findIdx?_key_some hfind
      have hkeyed := hwell.keyed (xglHash key table.size)
      have hsame : HashtableEntry.key { key := key, value := value } = old.key := hkey.symm
      have hset := hwell.entrySet value table.count hbuckets
        (fun entry => hkeyed.mem_set hold hsame)
        (show List.Nodup _ by rw [map_key_set hold hsame]; exact hkeyed) (by simp)
      refine ⟨_, ?_, hset, rfl⟩
      simp only [xglHashtableInsert, hbuckets, chainUpdate_eq, hfind, Option.map_some]
      rfl

/-- An insertion of a key that is not held adds its entry, or fails and changes nothing. -/
theorem xglHashtableInsert_free {key : UInt16} (hfree : ¬ table.Holds key)
    (value : Option RoutePtr) (allocator : Allocator) :
    (∃ pointer after rest, value = some pointer ∧
      xglHashtableInsert table key value allocator = (.ok, after, rest) ∧
      EntrySet table key pointer after ∧ after.count = table.count + 1) ∨
    (∃ err rest, xglHashtableInsert table key value allocator = (err, table, rest) ∧
      err ≠ .ok) := by
  have hout : key ∉ (table.chain (xglHash key table.size)).map HashtableEntry.key :=
    fun hin => hfree (hwell.holds_iff.2 hin)
  cases hbuckets : table.buckets with
  | none =>
    exact Or.inr ⟨.nullPointer, allocator, by simp [xglHashtableInsert, hbuckets], by decide⟩
  | some buckets =>
    cases value with
    | none =>
      exact Or.inr ⟨.invalidParam, allocator, by simp [xglHashtableInsert, hbuckets], by decide⟩
    | some pointer =>
      have hfind : (table.chain (xglHash key table.size)).findIdx? (fun e => e.key == key)
          = none := by
        cases hfind : (table.chain (xglHash key table.size)).findIdx? (fun e => e.key == key) with
        | none => rfl
        | some i =>
          obtain ⟨old, hold, hkey⟩ := findIdx?_key_some hfind
          exact absurd (List.mem_map.2 ⟨old, List.mem_of_getElem? hold, hkey⟩) hout
      cases hanswer : allocator.answer allocator.requests with
      | none =>
        refine Or.inr ⟨.noMemory, (xglAlloc allocator).2, ?_, by decide⟩
        simp [xglHashtableInsert, hbuckets, chainUpdate_eq, hfind, xglAlloc, hanswer]
      | some memory =>
        have hchain : ∀ entry,
            entry ∈ { key := key, value := pointer } :: table.chain (xglHash key table.size) ↔
              entry = { key := key, value := pointer } ∨
                entry ∈ table.chain (xglHash key table.size) ∧ entry.key ≠ key := by
          intro entry
          rw [List.mem_cons]
          constructor
          · rintro (hnew | hold)
            · exact Or.inl hnew
            · exact Or.inr ⟨hold, fun hkey => hout (List.mem_map.2 ⟨entry, hold, hkey⟩)⟩
          · rintro (hnew | ⟨hold, -⟩)
            · exact Or.inl hnew
            · exact Or.inr hold
        have hset := hwell.entrySet pointer (table.count + 1) hbuckets hchain
          (List.nodup_cons.2 ⟨hout, hwell.keyed _⟩) (by rw [List.length_cons]; omega)
        refine Or.inl ⟨pointer, _, (xglAlloc allocator).2, rfl, ?_, hset, rfl⟩
        simp [xglHashtableInsert, hbuckets, chainUpdate_eq, hfind, xglAlloc, hanswer]

/-- A removal of a key that is held takes its entry out. -/
theorem xglHashtableRemove_held {key : UInt16} (hheld : table.Holds key) :
    ∃ after, xglHashtableRemove table key = (.ok, after) ∧ EntryTaken table key after := by
  have hin := hwell.holds_iff.1 hheld
  cases hbuckets : table.buckets with
  | none => simp [Hashtable.chain, hbuckets] at hin
  | some buckets =>
    cases hfind : (table.chain (xglHash key table.size)).findIdx? (fun e => e.key == key) with
    | none => exact absurd hin (findIdx?_key_none hfind)
    | some i =>
      obtain ⟨old, hold, rfl⟩ := findIdx?_key_some hfind
      have hkeyed := hwell.keyed (xglHash old.key table.size)
      have hlt : i < (table.chain (xglHash old.key table.size)).length :=
        (List.getElem?_eq_some_iff.1 hold).1
      have hlength : ((table.chain (xglHash old.key table.size)).eraseIdx i).length + 1
          = (table.chain (xglHash old.key table.size)).length := by
        rw [List.length_eraseIdx_of_lt hlt]
        omega
      -- the counter is not zero: the chain the entry is in is part of the entries
      have hcount : 0 < table.count := by
        rw [hwell.counted]
        exact List.length_pos_of_mem (Hashtable.mem_entries.2 ⟨_, List.mem_of_getElem? hold⟩)
      obtain ⟨hwritten, hmem⟩ := hwell.setChain old.key (table.count - 1) hbuckets
        (fun entry hentry => hwell.placed _ entry (List.mem_of_mem_eraseIdx hentry))
        (hkeyed.eraseIdx i) (by omega)
      refine ⟨_, by simp [xglHashtableRemove, hbuckets, chainRemove_eq, hfind], hwritten, ?_, ?_⟩
      · intro entry
        show entry ∈ (table.setChain _ _).entries ↔ _
        rw [hmem]
        split <;> rename_i hhash
        · rw [hkeyed.mem_eraseIdx hold, hwell.mem_entries_iff, hhash]
        · exact ⟨fun hin => ⟨hin, fun hkey => hhash (hkey ▸ rfl)⟩, And.left⟩
      · show table.count - 1 + 1 = table.count
        omega

/-- A cleared table has no entries. -/
theorem xglHashtableClear_spec :
    (xglHashtableClear table).WellFormed ∧ (xglHashtableClear table).entries = [] ∧
      (xglHashtableClear table).count = 0 := by
  cases hbuckets : table.buckets with
  | none =>
    have hempty : table.entries = [] := by simp [Hashtable.entries, hbuckets]
    have hsame : xglHashtableClear table = table := by simp [xglHashtableClear, hbuckets]
    rw [hsame]
    exact ⟨hwell, hempty, by rw [hwell.counted, hempty]; rfl⟩
  | some buckets =>
    obtain ⟨hempty, hnone⟩ := emptyTable_wellFormed (hwell.buckets buckets hbuckets).2
    have hclear : xglHashtableClear table
        = { buckets := some (List.replicate table.size []), size := table.size, count := 0 } := by
      simp [xglHashtableClear, hbuckets]
    rw [hclear]
    exact ⟨hempty, hnone, rfl⟩

end Tables

end XgenLink
