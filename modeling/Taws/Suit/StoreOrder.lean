import Taws.Suit.StoreApplied
import Taws.TcManager.FinaliseFrame

/-!
# Store callbacks in either order

A manifest and its payload are written to different fields of one record, and stores for different digests
to different records.  So two store calls may be exchanged; with room for one record only, neither order
accepts two new digests.

* `prepared` — the record that a store call writes to, begun if the digest is new.
* `storeFields_comm` — the two kinds of fields do not meet.
* `stores_reorder` — two store calls in either order, from any table with the invariant.
-/

namespace Taws.Suit

open TcManager
open SlotTable
open scoped List

variable {csuit : Libcsuit} {table target : RecordTable} {args first second : SuitStoreArgs}
  {alloc : StoreAlloc} {record stored : ManifestRecord} {digest other : Buffer} {index : Nat}

/-- Both allocations of a store call succeed. -/
def succeeding : StoreAlloc := ⟨true, true⟩

/-- Two store calls, one after the other: the table and the two return values. -/
def storePair (csuit : Libcsuit) (first second : SuitStoreArgs) (table : RecordTable) :
    RecordTable × List Int :=
  (tcMachine csuit).run table [.store (some first) succeeding, .store (some second) succeeding]

/-! ## One store call -/

/-- Where the store call for the digest writes its fields: the slot, and the table in which it is in use. -/
def prepared (table : RecordTable) (digest : Buffer) : Option (Nat × RecordTable) :=
  match manifestRecordFindByDigest table digest with
  | some index => some (index, table)
  | none =>
    if digest.isNullOrEmpty = false ∧ table.len < tcManagerRecordMaxCount then
      some (table.len, table.alloc.setSlot table.len (freshRecord digest))
    else none

theorem prepared_find (ready : prepared table digest = some (index, target)) :
    manifestRecordFindByDigest target digest = some index := by
  simp only [prepared] at ready
  cases found : manifestRecordFindByDigest table digest with
  | some position =>
    rw [found] at ready
    cases ready
    exact found
  | none =>
    rw [found] at ready
    by_cases begins : digest.isNullOrEmpty = false ∧ table.len < tcManagerRecordMaxCount
    · simp only [if_pos begins, Option.some.injEq, Prod.mk.injEq] at ready
      obtain ⟨rfl, rfl⟩ := ready
      exact find_alloc begins.1 begins.2 found rfl
    · simp [if_neg begins] at ready

theorem store_prepared (csuit : Libcsuit) (clean : table.Clean) (isStore : args.operation = .store) :
    tcManagerStoreRecordFromStoreArgs csuit (some args) succeeding table =
      match prepared table args.manifestDigest with
      | some (index, target) => storeAt csuit args succeeding target index
      | none => (-1, table) := by
  simp only [prepared]
  cases found : manifestRecordFindByDigest table args.manifestDigest with
  | some index => exact store_found isStore found
  | none =>
    by_cases room : args.manifestDigest.isNullOrEmpty = false ∧ table.len < tcManagerRecordMaxCount
    · have begins : BeginsRecord table args succeeding :=
        ⟨isStore, room.1, (findByDigest_none clean room.1).mp found, room.2, rfl⟩
      have written : (table.alloc.setSlot table.len (freshRecord args.manifestDigest)).slot table.len =
          freshRecord args.manifestDigest := by
        rw [setSlot_slot, if_pos ⟨rfl, room.2⟩]
      simp only [if_pos room]
      rw [store_begins csuit clean begins, storeNew_eq clean begins, storeAt, written]
    · simp only [if_neg room]
      rcases store_cases csuit clean args succeeding with ⟨rejected, _⟩ | ⟨index, _, present, _⟩ | ⟨begins, _⟩
      · exact rejected
      · rw [found] at present
        cases present
      · exact absurd ⟨begins.full, begins.room⟩ room

/-- A store call whose allocations succeed is accepted: the digest is that of an active record, or a record
can be begun for it. -/
def Accepted (table : RecordTable) (args : SuitStoreArgs) : Prop :=
  args.operation = .store ∧
    (tcManagerFindRecordByDigest table args.manifestDigest = none →
      args.manifestDigest.isNullOrEmpty = false ∧ table.len < tcManagerRecordMaxCount)

theorem storeFields_succeeds (csuit : Libcsuit) (args : SuitStoreArgs) (record : ManifestRecord) :
    (storeFields csuit args succeeding record).1 = 0 := by
  rw [storeFields_returns, if_neg (by simp [succeeding])]

theorem prepared_eq_none :
    prepared table digest = none ↔ tcManagerFindRecordByDigest table digest = none ∧
      ¬ (digest.isNullOrEmpty = false ∧ table.len < tcManagerRecordMaxCount) := by
  simp only [prepared, tcManagerFindRecordByDigest]
  cases manifestRecordFindByDigest table digest with
  | some index => simp
  | none =>
    simp only [Option.map_none, true_and]
    split <;> simp_all

theorem store_returns (csuit : Libcsuit) (clean : table.Clean) :
    (tcManagerStoreRecordFromStoreArgs csuit (some args) succeeding table).1 = 0 ↔ Accepted table args := by
  by_cases isStore : args.operation = .store
  swap
  · simp [tcManagerStoreRecordFromStoreArgs, Accepted, isStore]
  rw [store_prepared csuit clean isStore]
  cases ready : prepared table args.manifestDigest with
  | none =>
    obtain ⟨notFound, noRoom⟩ := prepared_eq_none.mp ready
    constructor
    · intro success
      simp at success
    · intro accepted
      exact absurd (accepted.2 notFound) noRoom
  | some position =>
    obtain ⟨index, target⟩ := position
    have returned : (storeAt csuit args succeeding target index).1 = 0 := storeFields_succeeds csuit args _
    refine ⟨fun _ => ⟨isStore, ?_⟩, fun _ => returned⟩
    intro notFound
    by_contra noRoom
    rw [prepared_eq_none.mpr ⟨notFound, noRoom⟩] at ready
    cases ready

/-! ## The two calls for one digest -/

/-- A manifest store and a payload store write different fields of a record. -/
theorem storeFields_comm (csuit : Libcsuit) (isManifest : first.isManifestItself = true)
    (isPayload : second.isManifestItself = false) (record : ManifestRecord) :
    (storeFields csuit second succeeding (storeFields csuit first succeeding record).2).2 =
      (storeFields csuit first succeeding (storeFields csuit second succeeding record).2).2 := by
  simp only [storeFields, isManifest, isPayload, if_true, Bool.false_eq_true, if_false]
  rfl

/-- Two store calls for the digest of the record at `index`: both write that record. -/
theorem store_twice (csuit : Libcsuit) (clean : table.Clean) (firstStore : first.operation = .store)
    (secondStore : second.operation = .store) (sameDigest : first.manifestDigest = second.manifestDigest)
    (ready : prepared table first.manifestDigest = some (index, target)) :
    storePair csuit first second table =
      (target.setSlot index (storeFields csuit second succeeding
        (storeFields csuit first succeeding (target.slot index)).2).2, [0, 0]) := by
  have found := prepared_find ready
  have key : (storeFields csuit first succeeding (target.slot index)).2.manifestDigest =
      (target.slot index).manifestDigest := storeFields_manifestDigest ..
  have afterFirst : tcManagerStoreRecordFromStoreArgs csuit (some first) succeeding table =
      (0, target.setSlot index (storeFields csuit first succeeding (target.slot index)).2) := by
    rw [store_prepared csuit clean firstStore, ready]
    simp only [storeAt, storeFields_succeeds]
  have foundAgain : manifestRecordFindByDigest
      (target.setSlot index (storeFields csuit first succeeding (target.slot index)).2)
      second.manifestDigest = some index := by
    rw [find_setSlot key, ← sameDigest, found]
  have written : (target.setSlot index (storeFields csuit first succeeding (target.slot index)).2).slot index =
      (storeFields csuit first succeeding (target.slot index)).2 := by
    rw [setSlot_slot, if_pos ⟨rfl, find_lt_max found⟩]
  have afterSecond : tcManagerStoreRecordFromStoreArgs csuit (some second) succeeding _ = _ :=
    store_found secondStore foundAgain
  simp only [storeAt, written, storeFields_succeeds, setSlot_setSlot] at afterSecond
  simp [storePair, tcMachine, tcStep, afterFirst, afterSecond]

theorem stores_sameDigest (clean : table.Clean) (isManifest : first.isManifestItself = true)
    (isPayload : second.isManifestItself = false) (sameDigest : first.manifestDigest = second.manifestDigest) :
    (storePair csuit second first table).1 = (storePair csuit first second table).1 ∧
      (storePair csuit second first table).2 = (storePair csuit first second table).2.reverse := by
  have notStore : ∀ (args : SuitStoreArgs) (table : RecordTable), args.operation ≠ .store →
      tcManagerStoreRecordFromStoreArgs csuit (some args) succeeding table = (-1, table) := by
    intro args table other
    simp [tcManagerStoreRecordFromStoreArgs, other]
  by_cases firstStore : first.operation = .store
  swap
  · simp [storePair, tcMachine, tcStep, notStore first _ firstStore]
  by_cases secondStore : second.operation = .store
  swap
  · simp [storePair, tcMachine, tcStep, notStore second _ secondStore]
  cases ready : prepared table first.manifestDigest with
  | none =>
    have firstRefused := store_prepared csuit clean firstStore
    have secondRefused := store_prepared csuit clean secondStore
    rw [ready] at firstRefused
    rw [← sameDigest, ready] at secondRefused
    simp [storePair, tcMachine, tcStep, firstRefused, secondRefused]
  | some position =>
    obtain ⟨index, target⟩ := position
    have manifestFirst := store_twice csuit clean firstStore secondStore sameDigest ready
    rw [sameDigest] at ready
    have payloadFirst := store_twice csuit clean secondStore firstStore sameDigest.symm ready
    rw [manifestFirst, payloadFirst, storeFields_comm csuit isManifest isPayload]
    exact ⟨rfl, rfl⟩

/-! ## Two calls for different digests -/

def withoutDigest (digest : Buffer) (records : List ManifestRecord) : List ManifestRecord :=
  records.filter fun record => record.manifestDigest ≠ digest

/-- The record that a store call for the digest writes its fields into. -/
def writtenInto (table : RecordTable) (digest : Buffer) : ManifestRecord :=
  (tcManagerFindRecordByDigest table digest).getD (freshRecord digest)

theorem findRecord_eq_some (kept : WellKept table) :
    tcManagerFindRecordByDigest table digest = some record ↔
      record ∈ table.active ∧ record.manifestDigest = digest := by
  constructor
  · intro found
    obtain ⟨key, others, split⟩ := findRecord_split kept.toClean found
    exact ⟨split.mem_iff.mpr List.mem_cons_self, key⟩
  · intro active
    obtain ⟨member, rfl⟩ := active
    exact kept.findRecord (List.perm_cons_erase member)

theorem findRecord_eq_none (kept : WellKept table) :
    tcManagerFindRecordByDigest table digest = none ↔
      ∀ record ∈ table.active, record.manifestDigest ≠ digest := by
  rw [Option.eq_none_iff_forall_not_mem]
  simp only [Option.mem_def, findRecord_eq_some kept, not_and, ne_eq]

theorem writtenInto_manifestDigest (kept : WellKept table) (digest : Buffer) :
    (writtenInto table digest).manifestDigest = digest := by
  rw [writtenInto]
  cases found : tcManagerFindRecordByDigest table digest with
  | none => rfl
  | some record => exact ((findRecord_eq_some kept).mp found).2

/-- An accepted store call for a digest that is not there begins a record. -/
theorem Accepted.begins (kept : WellKept table) (accepted : Accepted table args)
    (notFound : tcManagerFindRecordByDigest table args.manifestDigest = none) :
    BeginsRecord table args succeeding := by
  obtain ⟨full, free⟩ := accepted.2 notFound
  exact ⟨accepted.1, full, (findRecord_eq_none kept).mp notFound, free, rfl⟩

theorem withoutDigest_of_absent {records : List ManifestRecord}
    (absent : ∀ record ∈ records, record.manifestDigest ≠ digest) : withoutDigest digest records = records := by
  simpa [withoutDigest] using absent

/-- An accepted store call writes one record and leaves those of the other digests. -/
theorem store_active (csuit : Libcsuit) (kept : WellKept table) (accepted : Accepted table args) :
    (tcManagerStoreRecordFromStoreArgs csuit (some args) succeeding table).2.active ~
      (storeFields csuit args succeeding (writtenInto table args.manifestDigest)).2 ::
        withoutDigest args.manifestDigest table.active := by
  cases found : tcManagerFindRecordByDigest table args.manifestDigest with
  | some record =>
    obtain ⟨key, others, split⟩ := findRecord_split kept.toClean found
    have othersOnly : withoutDigest args.manifestDigest table.active ~ others := by
      have filtered : withoutDigest args.manifestDigest table.active ~
          withoutDigest args.manifestDigest (record :: others) := split.filter _
      have absent : ∀ other ∈ others, other.manifestDigest ≠ args.manifestDigest := by
        intro other member
        rw [← key]
        exact kept.digest_ne split member
      rwa [withoutDigest, withoutDigest, List.filter_cons_of_neg (by simp [key]), ← withoutDigest,
        ← withoutDigest, withoutDigest_of_absent absent] at filtered
    have stored := (store_existing csuit kept split key accepted.1 succeeding).2
    rw [writtenInto, found, Option.getD_some]
    exact stored.trans (othersOnly.symm.cons _)
  | none =>
    have absent := (findRecord_eq_none kept).mp found
    have stored := (store_new csuit kept.toClean (accepted.begins kept found)).2
    rw [stored, writtenInto, found, Option.getD_none, withoutDigest_of_absent absent]
    exact List.perm_append_singleton _ _

/-- What is found under another digest is not what the store call has written. -/
theorem store_findRecord_ne (csuit : Libcsuit) (kept : WellKept table) (accepted : Accepted table args)
    (different : other ≠ args.manifestDigest) :
    tcManagerFindRecordByDigest (tcManagerStoreRecordFromStoreArgs csuit (some args) succeeding table).2 other =
      tcManagerFindRecordByDigest table other := by
  have keptAfter := store_wellKept csuit kept (some args) succeeding
  have active := store_active csuit kept accepted
  ext record
  rw [findRecord_eq_some keptAfter, findRecord_eq_some kept, active.mem_iff, List.mem_cons]
  constructor
  · intro found
    obtain ⟨isWritten | isOther, key⟩ := found
    · rw [isWritten, storeFields_manifestDigest, writtenInto_manifestDigest kept] at key
      exact absurd key.symm different
    · exact ⟨List.mem_of_mem_filter isOther, key⟩
  · intro found
    obtain ⟨member, rfl⟩ := found
    exact ⟨.inr (List.mem_filter.mpr ⟨member, by simpa using different⟩), rfl⟩

theorem store_len (csuit : Libcsuit) (kept : WellKept table) (accepted : Accepted table args) :
    (tcManagerStoreRecordFromStoreArgs csuit (some args) succeeding table).2.len =
      if tcManagerFindRecordByDigest table args.manifestDigest = none then table.len + 1 else table.len := by
  cases found : tcManagerFindRecordByDigest table args.manifestDigest with
  | some record =>
    obtain ⟨index, position, _⟩ := Option.map_eq_some_iff.mp found
    rw [store_found accepted.1 position, if_neg (by simp)]
    rfl
  | none =>
    have begins := accepted.begins kept found
    rw [store_begins csuit kept.toClean begins, storeNew_eq kept.toClean begins, if_pos rfl]
    rfl

/-- If the second call is accepted after the first, it is accepted without it, and the first after it. -/
theorem accepted_swap (csuit : Libcsuit) (kept : WellKept table)
    (different : first.manifestDigest ≠ second.manifestDigest) (firstAccepted : Accepted table first)
    (secondAccepted :
      Accepted (tcManagerStoreRecordFromStoreArgs csuit (some first) succeeding table).2 second) :
    Accepted table second ∧
      Accepted (tcManagerStoreRecordFromStoreArgs csuit (some second) succeeding table).2 first := by
  obtain ⟨firstStore, firstRoom⟩ := firstAccepted
  obtain ⟨secondStore, secondRoom⟩ := secondAccepted
  have firstLen := store_len csuit kept ⟨firstStore, firstRoom⟩
  rw [store_findRecord_ne csuit kept ⟨firstStore, firstRoom⟩ different.symm, firstLen] at secondRoom
  have secondFirst : Accepted table second := by
    refine ⟨secondStore, fun notFound => ?_⟩
    obtain ⟨full, room⟩ := secondRoom notFound
    refine ⟨full, ?_⟩
    split at room
    · omega
    · exact room
  refine ⟨secondFirst, firstStore, fun notFound => ?_⟩
  rw [store_findRecord_ne csuit kept secondFirst different] at notFound
  refine ⟨(firstRoom notFound).1, ?_⟩
  rw [store_len csuit kept secondFirst]
  split
  · next secondNew =>
    -- both begin a record, so there was room for two
    have room := (secondRoom secondNew).2
    rwa [if_pos notFound] at room
  · exact (firstRoom notFound).2

/-- The records after two accepted calls for different digests. -/
theorem store_pair_active (csuit : Libcsuit) (kept : WellKept table)
    (different : first.manifestDigest ≠ second.manifestDigest) (firstAccepted : Accepted table first)
    (secondAccepted :
      Accepted (tcManagerStoreRecordFromStoreArgs csuit (some first) succeeding table).2 second) :
    (storePair csuit first second table).1.active ~
      (storeFields csuit second succeeding (writtenInto table second.manifestDigest)).2 ::
        (storeFields csuit first succeeding (writtenInto table first.manifestDigest)).2 ::
          withoutDigest second.manifestDigest (withoutDigest first.manifestDigest table.active) := by
  have keptAfter := store_wellKept csuit kept (some first) succeeding
  have sameTarget : writtenInto (tcManagerStoreRecordFromStoreArgs csuit (some first) succeeding table).2
      second.manifestDigest = writtenInto table second.manifestDigest := by
    rw [writtenInto, store_findRecord_ne csuit kept firstAccepted different.symm, ← writtenInto]
  have firstKey : (storeFields csuit first succeeding (writtenInto table first.manifestDigest)).2.manifestDigest =
      first.manifestDigest := by
    rw [storeFields_manifestDigest, writtenInto_manifestDigest kept]
  have remaining : withoutDigest second.manifestDigest
      (tcManagerStoreRecordFromStoreArgs csuit (some first) succeeding table).2.active ~
      withoutDigest second.manifestDigest
        ((storeFields csuit first succeeding (writtenInto table first.manifestDigest)).2 ::
          withoutDigest first.manifestDigest table.active) :=
    (store_active csuit kept firstAccepted).filter _
  have stored := store_active csuit keptAfter secondAccepted
  rw [sameTarget] at stored
  rw [withoutDigest, withoutDigest, List.filter_cons_of_pos (by rw [firstKey]; simpa using different)] at remaining
  exact stored.trans (remaining.cons _)

theorem stores_differentDigests (kept : WellKept table)
    (different : first.manifestDigest ≠ second.manifestDigest)
    (success : (storePair csuit first second table).2 = [0, 0]) :
    (storePair csuit second first table).2 = [0, 0] ∧
      (storePair csuit second first table).1.active ~ (storePair csuit first second table).1.active := by
  have keptFirst := store_wellKept csuit kept (some first) succeeding
  have keptSecond := store_wellKept csuit kept (some second) succeeding
  obtain ⟨firstZero, secondZero⟩ :
      (tcManagerStoreRecordFromStoreArgs csuit (some first) succeeding table).1 = 0 ∧
      (tcManagerStoreRecordFromStoreArgs csuit (some second) succeeding
        (tcManagerStoreRecordFromStoreArgs csuit (some first) succeeding table).2).1 = 0 := by
    simpa [storePair, tcMachine, tcStep] using success
  have firstAccepted := (store_returns csuit kept.toClean).mp firstZero
  have secondAccepted := (store_returns csuit keptFirst.toClean).mp secondZero
  obtain ⟨secondFirst, firstSecond⟩ := accepted_swap csuit kept different firstAccepted secondAccepted
  have secondReturned := (store_returns csuit kept.toClean).mpr secondFirst
  have firstReturned := (store_returns csuit keptSecond.toClean).mpr firstSecond
  refine ⟨by simp [storePair, tcMachine, tcStep, secondReturned, firstReturned], ?_⟩
  have inOrder := store_pair_active csuit kept different firstAccepted secondAccepted
  have exchanged := store_pair_active csuit kept different.symm secondFirst firstSecond
  have sameRest : withoutDigest first.manifestDigest (withoutDigest second.manifestDigest table.active) =
      withoutDigest second.manifestDigest (withoutDigest first.manifestDigest table.active) :=
    List.filter_comm ..
  rw [sameRest] at exchanged
  exact exchanged.trans ((List.Perm.swap _ _ _).trans inOrder.symm)

/-! ## The other records -/

theorem store_slot (csuit : Libcsuit) (clean : table.Clean) (args : SuitStoreArgs) (alloc : StoreAlloc)
    (bound : index < table.len) (different : (table.slot index).manifestDigest ≠ args.manifestDigest) :
    index < (tcManagerStoreRecordFromStoreArgs csuit (some args) alloc table).2.len ∧
      (tcManagerStoreRecordFromStoreArgs csuit (some args) alloc table).2.slot index = table.slot index := by
  rcases store_cases csuit clean args alloc with ⟨same, _⟩ | ⟨position, _, found, same⟩ | ⟨begins, same⟩
  · rw [same]
    exact ⟨bound, rfl⟩
  · obtain ⟨_, _, key⟩ := findByDigest_some found
    have elsewhere : position ≠ index := by
      rintro rfl
      exact different key
    rw [same]
    exact ⟨bound, by rw [storeAt, setSlot_slot, if_neg (fun written => elsewhere written.1)]⟩
  · rw [same, storeNew_eq clean begins]
    refine ⟨Nat.lt_succ_of_lt bound, ?_⟩
    rw [setSlot_slot, if_neg (by omega), setSlot_slot, if_neg (by omega)]
    rfl

/-- Two store calls whose allocations succeed, in either order; and what one store call leaves alone. -/
theorem stores_reorder (invariant : TableInvariant csuit table) (first second : SuitStoreArgs) :
    (first.isManifestItself = true → second.isManifestItself = false →
      first.manifestDigest = second.manifestDigest →
      (storePair csuit second first table).1 = (storePair csuit first second table).1 ∧
        (storePair csuit second first table).2 = (storePair csuit first second table).2.reverse) ∧
    (first.manifestDigest ≠ second.manifestDigest → (storePair csuit first second table).2 = [0, 0] →
      (storePair csuit second first table).2 = [0, 0] ∧
        (storePair csuit second first table).1.active ~ (storePair csuit first second table).1.active) ∧
    ∀ args alloc, ∀ index < table.len, (table.slot index).manifestDigest ≠ args.manifestDigest →
      index < (tcManagerStoreRecordFromStoreArgs csuit (some args) alloc table).2.len ∧
        (tcManagerStoreRecordFromStoreArgs csuit (some args) alloc table).2.slot index = table.slot index := by
  refine ⟨?_, ?_, ?_⟩
  · intro isManifest isPayload sameDigest
    exact stores_sameDigest invariant.clean isManifest isPayload sameDigest
  · intro different success
    exact stores_differentDigests invariant.wellKept different success
  · intro args alloc index bound different
    exact store_slot csuit invariant.clean args alloc bound different

/-- The payload of version 2 may come before its manifest, and either may come before another digest's. -/
theorem stores_reorder_installedApp :
    ((storePair smallCsuit (payloadStore [2] 2 [97] wasmVersion2) (manifestStore [2] 2 [109] [160])
        installedApp).1 =
      (storePair smallCsuit (manifestStore [2] 2 [109] [160]) (payloadStore [2] 2 [97] wasmVersion2)
        installedApp).1) ∧
    (storePair smallCsuit (manifestStore [3] 2 [109] [160]) (manifestStore [2] 2 [109] [160])
      installedApp).2 = [0, 0] ∧
    (tcManagerStoreRecordFromStoreArgs smallCsuit (some (manifestStore [2] 2 [109] [160])) ⟨true, true⟩
      installedApp).2.slot 0 = installedApp.slot 0 := by
  obtain ⟨sameDigest, _, others⟩ := stores_reorder installedApp_invariant (manifestStore [2] 2 [109] [160])
    (payloadStore [2] 2 [97] wasmVersion2)
  obtain ⟨_, different, _⟩ := stores_reorder installedApp_invariant (manifestStore [2] 2 [109] [160])
    (manifestStore [3] 2 [109] [160])
  exact ⟨(sameDigest rfl rfl rfl).1, (different (by decide) (by decide +kernel)).1,
    (others _ _ 0 (by decide +kernel) (by decide +kernel)).2⟩

end Taws.Suit
