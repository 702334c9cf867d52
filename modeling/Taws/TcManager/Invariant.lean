import Mathlib.Data.List.Nodup
import Taws.TcManager.Operations
import Taws.TcManager.Reference

/-!
# The invariant of the record table

* `WellKept` — the table is clean, every active record has a digest and no two have the same one.
* `HashBound` — a stored app binary stands beside its SHA-256 hash.
* `tcStep_wellKept`, `tcStep_records` — every call keeps them, on every exit.
-/

namespace Taws.TcManager

open scoped List
open SlotTable

variable {csuit : Libcsuit} {table : RecordTable}

/-- Every record has a digest and no two have the same digest bytes. -/
structure Keyed (records : List ManifestRecord) : Prop where
  full : ∀ record ∈ records, record.manifestDigest.isNullOrEmpty = false
  distinct : (records.map fun record => record.manifestDigest.data).Nodup

def hashMatches (csuit : Libcsuit) (record : ManifestRecord) : Prop :=
  record.wappBin.isNullOrEmpty = false → record.wappHash = csuit.sha256 record.wappBin.data

structure WellKept (table : RecordTable) : Prop extends SlotTable.Clean table where
  keyed : Keyed table.active

def HashBound (csuit : Libcsuit) (table : RecordTable) : Prop :=
  ∀ record ∈ table.active, hashMatches csuit record

namespace Keyed

variable {records others : List ManifestRecord} {record stored : ManifestRecord}

theorem perm (keyed : Keyed records) (same : others ~ records) : Keyed others where
  full := fun record member => keyed.full record (same.mem_iff.mp member)
  distinct := (same.map _).nodup_iff.mpr keyed.distinct

theorem tail (keyed : Keyed (record :: records)) : Keyed records where
  full := fun other member => keyed.full other (List.mem_cons_of_mem _ member)
  distinct := (List.nodup_cons.mp keyed.distinct).2

/-- The first record may be rewritten as long as its digest stays. -/
theorem rewrite (keyed : Keyed (record :: records)) (same : stored.manifestDigest = record.manifestDigest) :
    Keyed (stored :: records) where
  full := by
    rw [List.forall_mem_cons, same]
    exact List.forall_mem_cons.mp keyed.full
  distinct := by simpa [same] using keyed.distinct

/-- Records of a keyed list with the same digest are the same record. -/
theorem eq_of_digest (keyed : Keyed records) (member : record ∈ records) (otherMember : stored ∈ records)
    (same : record.manifestDigest = stored.manifestDigest) : record = stored :=
  List.inj_on_of_nodup_map keyed.distinct member otherMember (by rw [same])

theorem head_digest_ne (keyed : Keyed (record :: records)) {other : ManifestRecord}
    (member : other ∈ records) : other.manifestDigest ≠ record.manifestDigest := by
  intro same
  have absent := (List.nodup_cons.mp keyed.distinct).1
  exact absent (List.mem_map.mpr ⟨other, member, by rw [same]⟩)

theorem nodup (keyed : Keyed records) : records.Nodup := List.Nodup.of_map _ keyed.distinct

theorem append (keyed : Keyed records) (full : stored.manifestDigest.isNullOrEmpty = false)
    (absent : ∀ record ∈ records, record.manifestDigest ≠ stored.manifestDigest) :
    Keyed (records ++ [stored]) := by
  have front : Keyed (stored :: records) := by
    refine ⟨List.forall_mem_cons.mpr ⟨full, keyed.full⟩, ?_⟩
    · refine List.nodup_cons.mpr ⟨?_, keyed.distinct⟩
      intro member
      obtain ⟨other, otherMember, same⟩ := List.mem_map.mp member
      exact absent other otherMember (Buffer.eq_of_data (keyed.full other otherMember) same)
  exact front.perm (List.perm_append_singleton stored records)

end Keyed

/-! ## The calls keep the records keyed -/

theorem empty_wellKept : WellKept (SlotTable.empty : RecordTable) where
  toClean := empty_clean
  keyed := ⟨by simp, by simp⟩

theorem WellKept.keyed_split (kept : WellKept table) {index : Nat} (bound : index < table.len) :
    Keyed (table.slot index :: table.others index) :=
  kept.keyed.perm (active_perm_cons_others kept.toClean bound).symm

/-- The records other than the one at `index` have other digests. -/
theorem WellKept.others_digest_ne (kept : WellKept table) {index : Nat} (bound : index < table.len)
    {other : ManifestRecord} (member : other ∈ table.others index) :
    other.manifestDigest ≠ (table.slot index).manifestDigest :=
  (kept.keyed_split bound).head_digest_ne member

theorem store_wellKept (csuit : Libcsuit) (kept : WellKept table) (storeArgs : Option SuitStoreArgs)
    (alloc : StoreAlloc) :
    WellKept (tcManagerStoreRecordFromStoreArgs csuit storeArgs alloc table).2 := by
  refine ⟨store_clean csuit kept.toClean storeArgs alloc, ?_⟩
  cases storeArgs with
  | none => exact kept.keyed
  | some args =>
    rcases store_cases csuit kept.toClean args alloc with
      ⟨same, _⟩ | ⟨index, _, found, same⟩ | ⟨begins, same⟩
    · rw [same]
      exact kept.keyed
    · obtain ⟨_, bound, _⟩ := findByDigest_some found
      rw [same]
      -- the record keeps its digest
      exact ((kept.keyed_split bound).rewrite (storeFields_manifestDigest ..)).perm
        (setSlot_perm kept.toClean bound)
    · rw [same, storeNew_active kept.toClean begins]
      refine kept.keyed.append ?_ ?_
      · rw [storeFields_manifestDigest]
        exact begins.full
      · rw [storeFields_manifestDigest]
        exact begins.absent

theorem Finalised.keyed {compared : Option ManifestRecord} {record : ManifestRecord}
    {others : List ManifestRecord} {after : RecordTable}
    (finalised : Finalised table compared record others after) (active : table.active ~ record :: others)
    (keyed : Keyed table.active) : Keyed after.active := by
  have split : Keyed (record :: others) := keyed.perm active.symm
  cases finalised with
  | only _ => exact keyed
  | replaced member _ _ _ kept =>
    -- the older record is brought to the front and dropped
    have exposed : Keyed (_ :: record :: others.erase _) :=
      split.perm (((List.perm_cons_erase member).cons record).trans (List.Perm.swap _ _ _)).symm
    exact exposed.tail.perm kept
  | discarded _ _ _ _ kept => exact split.tail.perm kept

theorem checkAndUpdate_wellKept (kept : WellKept table) (digest : Buffer) :
    WellKept (tcManagerCheckAndUpdateRecord digest table).2 := by
  refine ⟨checkAndUpdate_clean kept.toClean digest, ?_⟩
  rcases checkAndUpdate_cases kept.toClean digest with
    ⟨_, same⟩ | ⟨index, found, ⟨_, _, active⟩ | ⟨_, _, finalised⟩⟩
  · rw [same]
    exact kept.keyed
  · exact (kept.keyed_split (findByDigest_some found).2.1).tail.perm active
  · obtain ⟨_, bound, _⟩ := findByDigest_some found
    exact finalised.keyed (active_perm_cons_others kept.toClean bound) kept.keyed

theorem tcStep_wellKept (kept : WellKept table) (call : TcCall) : WellKept (tcStep csuit table call).2 := by
  cases call with
  | store storeArgs alloc => exact store_wellKept csuit kept storeArgs alloc
  | checkAndUpdate digest => exact checkAndUpdate_wellKept kept digest
  | removeAll =>
    refine ⟨removeAll_clean kept.toClean, ?_⟩
    change Keyed (tcManagerRemoveAll table).active
    rw [removeAll_active kept.toClean]
    exact ⟨by simp, by simp⟩

theorem tcRun_wellKept (csuit : Libcsuit) (kept : WellKept table) (calls : List TcCall) :
    WellKept (tcRun csuit table calls) :=
  tcRun_preserves csuit WellKept (fun _ call kept => tcStep_wellKept kept call) kept calls

/-! ## The calls keep the hashes bound -/

theorem replaceBin_full {old source : Buffer} {malloc : Bool}
    (full : (replaceBin old source malloc).2.isNullOrEmpty = false) :
    (replaceBin old source malloc).1 = true ∧ source.isNullOrEmpty = false ∧
      (replaceBin old source malloc).2 = .bytes source.data := by
  have released : (if old.isNull then old else Buffer.null 0).isNullOrEmpty = true := by
    cases old <;> rfl
  unfold replaceBin at full ⊢
  cases empty : source.isNullOrEmpty <;> cases malloc <;> simp_all

theorem storeFields_hashMatches (sha256 : csuit.Sha256Succeeds) (args : SuitStoreArgs)
    (alloc : StoreAlloc) {record : ManifestRecord} (matching : hashMatches csuit record) :
    hashMatches csuit (storeFields csuit args alloc record).2 := by
  unfold storeFields
  split
  · exact matching
  · intro full
    obtain ⟨copied, source, stored⟩ := replaceBin_full (show (replaceBin record.wappBin args.srcBuf
      alloc.bin).2.isNullOrEmpty = false from full)
    simp [storePayload, copied, source, stored, sha256 args.srcBuf.data record.wappHash]

theorem freshRecord_hashMatches (digest : Buffer) : hashMatches csuit (freshRecord digest) := by
  intro full
  simp [freshRecord] at full

theorem Finalised.mem {compared : Option ManifestRecord} {record other : ManifestRecord}
    {others : List ManifestRecord} {after : RecordTable}
    (finalised : Finalised table compared record others after)
    (split : table.active ~ record :: others) (member : other ∈ after.active) : other ∈ table.active := by
  cases finalised with
  | only _ => exact member
  | replaced _ _ _ _ active =>
    rcases List.mem_cons.mp (active.mem_iff.mp member) with rfl | member
    · exact split.mem_iff.mpr List.mem_cons_self
    · exact split.mem_iff.mpr (List.mem_cons_of_mem _ (List.mem_of_mem_erase member))
  | discarded _ _ _ _ active =>
    exact split.mem_iff.mpr (List.mem_cons_of_mem _ (active.mem_iff.mp member))

/-- Nothing but a store callback rewrites a record: what finalising leaves active was active. -/
theorem checkAndUpdate_mem (clean : table.Clean) (digest : Buffer) {record : ManifestRecord}
    (member : record ∈ (tcManagerCheckAndUpdateRecord digest table).2.active) : record ∈ table.active := by
  rcases checkAndUpdate_cases clean digest with
    ⟨_, same⟩ | ⟨index, found, ⟨_, _, active⟩ | ⟨_, _, finalised⟩⟩
  · rwa [same] at member
  · obtain ⟨_, bound, _⟩ := findByDigest_some found
    exact (active_perm_cons_others clean bound).mem_iff.mpr
      (List.mem_cons_of_mem _ (active.mem_iff.mp member))
  · obtain ⟨_, bound, _⟩ := findByDigest_some found
    exact finalised.mem (active_perm_cons_others clean bound) member

/-- What a store call leaves active was active or is the record it has written. -/
theorem store_mem (clean : table.Clean) (args : SuitStoreArgs) (alloc : StoreAlloc)
    {record : ManifestRecord}
    (member : record ∈ (tcManagerStoreRecordFromStoreArgs csuit (some args) alloc table).2.active) :
    record ∈ table.active ∨
      ∃ written, record = (storeFields csuit args alloc written).2 ∧
        (written ∈ table.active ∨ written = freshRecord args.manifestDigest) ∧
        record.manifestDigest = args.manifestDigest := by
  rcases store_cases csuit clean args alloc with ⟨same, _⟩ | ⟨index, _, found, same⟩ | ⟨begins, same⟩
  · rw [same] at member
    exact .inl member
  · obtain ⟨_, bound, key⟩ := findByDigest_some found
    rw [same] at member
    rcases List.mem_cons.mp ((setSlot_perm clean bound).mem_iff.mp member) with rfl | member
    · exact .inr ⟨_, rfl, .inl (slot_mem_active clean bound), by simp [key]⟩
    · exact .inl ((active_perm_cons_others clean bound).mem_iff.mpr (List.mem_cons_of_mem _ member))
  · rw [same, storeNew_active clean begins, List.mem_append, List.mem_singleton] at member
    rcases member with member | rfl
    · exact .inl member
    · exact .inr ⟨_, rfl, .inr rfl, by simp [freshRecord]⟩

/-- What a new record satisfies and no store callback breaks is kept by every call: nothing else writes
a record. -/
theorem tcStep_records {property : ManifestRecord → Prop} (clean : table.Clean)
    (fresh : ∀ digest, property (freshRecord digest))
    (written : ∀ args alloc record, property record → property (storeFields csuit args alloc record).2)
    (holds : ∀ record ∈ table.active, property record) (call : TcCall) :
    ∀ record ∈ (tcStep csuit table call).2.active, property record := by
  intro record member
  cases call with
  | store storeArgs alloc =>
    cases storeArgs with
    | none => exact holds record member
    | some args =>
      cases store_mem clean args alloc member with
      | inl before => exact holds record before
      | inr stored =>
        obtain ⟨old, rfl, source, _⟩ := stored
        apply written
        cases source with
        | inl active => exact holds old active
        | inr isNew =>
          rw [isNew]
          exact fresh _
  | checkAndUpdate digest => exact holds record (checkAndUpdate_mem clean digest member)
  | removeAll =>
    have cleared : record ∈ (tcManagerRemoveAll table).active := member
    simp [removeAll_active clean] at cleared

/-- Every record of a reachable table satisfies it. -/
theorem tcRun_records {property : ManifestRecord → Prop}
    (fresh : ∀ digest, property (freshRecord digest))
    (written : ∀ args alloc record, property record → property (storeFields csuit args alloc record).2)
    (calls : List TcCall) :
    ∀ record ∈ (tcRun csuit SlotTable.empty calls).active, property record := by
  have preserved := tcRun_preserves csuit
    (fun table => table.Clean ∧ ∀ record ∈ table.active, property record)
    (fun _ call reached => ⟨tcStep_clean reached.1 call, tcStep_records reached.1 fresh written reached.2 call⟩)
    ⟨empty_clean, by simp⟩ calls
  exact preserved.2

/-! ## Every reachable table -/

/-- The invariant of the record table, slot by slot. -/
structure TableInvariant (csuit : Libcsuit) (table : RecordTable) : Prop where
  len_le : table.len ≤ tcManagerRecordMaxCount
  clear : ∀ index, table.len ≤ index → table.slot index = default
  digest_full : ∀ index < table.len, (table.slot index).manifestDigest.isNullOrEmpty = false
  digest_distinct : ∀ first < table.len, ∀ second < table.len,
    (table.slot first).manifestDigest.data = (table.slot second).manifestDigest.data → first = second
  hash_bound : ∀ index < table.len, (table.slot index).wappBin.isNullOrEmpty = false →
    (table.slot index).wappHash = csuit.sha256 (table.slot index).wappBin.data

theorem WellKept.slot_injective (kept : WellKept table) {first second : Nat} (firstBound : first < table.len)
    (secondBound : second < table.len)
    (same : (table.slot first).manifestDigest.data = (table.slot second).manifestDigest.data) :
    first = second := by
  by_contra different
  have member : table.slot second ∈ table.others first :=
    (mem_others kept.toClean).mpr ⟨second, secondBound, Ne.symm different, rfl⟩
  have full := kept.keyed.full _ (slot_mem_active kept.toClean secondBound)
  exact kept.others_digest_ne firstBound member (Buffer.eq_of_data full same.symm)

theorem WellKept.tableInvariant (kept : WellKept table) (bound : HashBound csuit table) :
    TableInvariant csuit table where
  len_le := kept.len_le
  clear := kept.clear
  digest_full := fun _ inUse => kept.keyed.full _ (slot_mem_active kept.toClean inUse)
  digest_distinct := fun _ firstBound _ secondBound same => kept.slot_injective firstBound secondBound same
  hash_bound := fun _ inUse => bound _ (slot_mem_active kept.toClean inUse)

theorem tcRun_hashBound (sha256 : csuit.Sha256Succeeds) (calls : List TcCall) :
    HashBound csuit (tcRun csuit SlotTable.empty calls) :=
  tcRun_records freshRecord_hashMatches
    (fun args alloc _ matching => storeFields_hashMatches sha256 args alloc matching) calls

/-- The record table invariant holds in every state that calls into the manager can reach, whatever
their arguments and whichever allocations fail. -/
theorem tableInvariant_reachable (csuit : Libcsuit) (sha256 : csuit.Sha256Succeeds)
    (calls : List TcCall) : TableInvariant csuit (tcRun csuit SlotTable.empty calls) := by
  have kept : WellKept (tcRun csuit SlotTable.empty calls) := tcRun_wellKept csuit empty_wellKept calls
  exact kept.tableInvariant (tcRun_hashBound sha256 calls)

/-- Both store callbacks of one manifest, with every allocation succeeding. -/
def storeBoth (digest : Bytes) (sequenceNumber : UInt64) (name bin : Bytes) : List TcCall :=
  [.store (some (manifestStore digest sequenceNumber [109] [160])) ⟨true, true⟩,
    .store (some (payloadStore digest sequenceNumber name bin)) ⟨true, true⟩]

theorem tableInvariant_twoVersions : TableInvariant smallCsuit
    (tcRun smallCsuit SlotTable.empty
      (storeBoth [1] 1 [97] wasmVersion1 ++ storeBoth [2] 2 [97] wasmVersion2 ++
        [.checkAndUpdate (.bytes [2])])) :=
  tableInvariant_reachable smallCsuit (reference_sha256Succeeds smallSha256) _

end Taws.TcManager
