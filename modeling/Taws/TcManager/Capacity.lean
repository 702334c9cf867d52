import Taws.TcManager.Replay

/-!
# Updating an app in a table without room

A new version is stored beside the installed one, which is dropped when the new version is finalised.  So
an update takes a slot of its own for a while: one free slot is enough, and without one it is refused.

* `process_replaces` — with a free slot the record of the app is replaced.
* `process_refused` — without one, every call of the update fails and changes nothing.
-/

namespace Taws.TcManager

open scoped List
open SlotTable

variable {csuit : Libcsuit} {table : RecordTable} {manifest : Manifest} {old : ManifestRecord}

theorem process_replaces (sha256 : csuit.Sha256Succeeds) (kept : WellKept table) (whole : Whole csuit manifest)
    (room : table.len < tcManagerRecordMaxCount)
    (distinct : (table.active.map ManifestRecord.wappName).Nodup)
    (new : ∀ record ∈ table.active, record.manifestDigest ≠ .bytes manifest.digest)
    (installed : old ∈ table.active) (sameName : old.wappName = wappName csuit manifest)
    (notNewer : old.manifestSequenceNumber ≤ manifest.sequenceNumber) :
    ∃ after, (tcMachine csuit).run table manifest.process = (after, [0, 0, 0]) ∧ after.len = table.len ∧
      after.active ~ recordOf csuit manifest :: table.active.erase old := by
  have only : ∀ record ∈ table.active, record.wappName = wappName csuit manifest → record = old := by
    intro record member named
    exact List.inj_on_of_nodup_map distinct member installed (named.trans sameName.symm)
  obtain ⟨stored, storing, storedKept, active⟩ := storeBoth_active sha256 kept whole (.inr ⟨new, room, rfl⟩)
  obtain ⟨success, finalised⟩ := checkAndUpdate_complete storedKept active (recordOf_complete whole)
  have process := run_process storing success
  have afterClean := checkAndUpdate_clean storedKept.toClean (.bytes manifest.digest)
  change Finalised stored _ (recordOf csuit manifest) table.active
    (tcManagerCheckAndUpdateRecord (.bytes manifest.digest) stored).2 at finalised
  generalize (tcManagerCheckAndUpdateRecord (.bytes manifest.digest) stored).2 = after at *
  cases finalised with
  | only unique => exact absurd sameName (unique old installed)
  | replaced member _ olderName _ replaced =>
    obtain rfl := only _ member olderName
    have length : after.active.length = table.active.length := by
      rw [replaced.length_eq, List.length_cons, List.length_erase_of_mem member]
      have positive := List.length_pos_of_mem member
      omega
    rw [active_length afterClean, active_length kept.toClean] at length
    exact ⟨after, process, length, replaced⟩
  | discarded member _ newerName isNewer _ =>
    obtain rfl := only _ member newerName
    exact absurd notNewer isNewer

theorem store_refused (clean : table.Clean) {args : SuitStoreArgs} {alloc : StoreAlloc}
    (isFull : table.len = tcManagerRecordMaxCount)
    (new : ∀ record ∈ table.active, record.manifestDigest ≠ args.manifestDigest) :
    tcManagerStoreRecordFromStoreArgs csuit (some args) alloc table = (-1, table) := by
  have notFound := (findByDigest_eq_none_iff clean).mpr (.inr new)
  simp [tcManagerStoreRecordFromStoreArgs, notFound, manifestRecordsAlloc, isFull]

theorem process_refused (csuit : Libcsuit) (clean : table.Clean) (isFull : table.len = tcManagerRecordMaxCount)
    (new : ∀ record ∈ table.active, record.manifestDigest ≠ .bytes manifest.digest) :
    (tcMachine csuit).run table manifest.process = (table, [-1, -1, -1]) := by
  have manifestRefused : tcManagerStoreRecordFromStoreArgs csuit (some manifest.manifestArgs) ⟨true, true⟩ table =
      (-1, table) := store_refused clean isFull new
  have payloadRefused : tcManagerStoreRecordFromStoreArgs csuit (some manifest.payloadArgs) ⟨true, true⟩ table =
      (-1, table) := store_refused clean isFull new
  have notFound := checkAndUpdate_absent clean (.inr new)
  simp [Manifest.process, tcMachine, tcStep, manifestRefused, payloadRefused, notFound]

/-- A new version of an installed app takes the place of the installed one if a slot is free, and is
refused if none is. -/
theorem update_takesPlace (csuit : Libcsuit) (sha256 : csuit.Sha256Succeeds) (calls : List TcCall)
    (manifest : Manifest) (whole : Whole csuit manifest) (old : ManifestRecord)
    (distinct : ((tcRun csuit SlotTable.empty calls).active.map ManifestRecord.wappName).Nodup)
    (new : ∀ record ∈ (tcRun csuit SlotTable.empty calls).active,
      record.manifestDigest ≠ .bytes manifest.digest)
    (installed : old ∈ (tcRun csuit SlotTable.empty calls).active)
    (sameName : old.wappName = wappName csuit manifest)
    (notNewer : old.manifestSequenceNumber ≤ manifest.sequenceNumber) :
    ((tcRun csuit SlotTable.empty calls).len < tcManagerRecordMaxCount →
      ∃ after, (tcMachine csuit).run (tcRun csuit SlotTable.empty calls) manifest.process =
          (after, [0, 0, 0]) ∧
        after.len = (tcRun csuit SlotTable.empty calls).len ∧
        after.active ~ recordOf csuit manifest :: (tcRun csuit SlotTable.empty calls).active.erase old) ∧
    ((tcRun csuit SlotTable.empty calls).len = tcManagerRecordMaxCount →
      (tcMachine csuit).run (tcRun csuit SlotTable.empty calls) manifest.process =
        (tcRun csuit SlotTable.empty calls, [-1, -1, -1])) := by
  have kept : WellKept (tcRun csuit SlotTable.empty calls) := tcRun_wellKept csuit empty_wellKept calls
  constructor
  · intro room
    exact process_replaces sha256 kept whole room distinct new installed sameName notNewer
  · intro isFull
    exact process_refused csuit kept.toClean isFull new

theorem update_installedApp :
    ∃ after, (tcMachine smallCsuit).run
        (tcRun smallCsuit SlotTable.empty (appVersion [1] 1 wasmVersion1).process)
        (appVersion [2] 2 wasmVersion2).process = (after, [0, 0, 0]) ∧
      after.len = (tcRun smallCsuit SlotTable.empty (appVersion [1] 1 wasmVersion1).process).len ∧
      after.active ~ recordOf smallCsuit (appVersion [2] 2 wasmVersion2) ::
        (tcRun smallCsuit SlotTable.empty (appVersion [1] 1 wasmVersion1).process).active.erase
          (recordOf smallCsuit (appVersion [1] 1 wasmVersion1)) :=
  (update_takesPlace smallCsuit (reference_sha256Succeeds smallSha256)
    (appVersion [1] 1 wasmVersion1).process (appVersion [2] 2 wasmVersion2) (by constructor <;> decide +kernel)
    (recordOf smallCsuit (appVersion [1] 1 wasmVersion1)) (by decide +kernel) (by decide +kernel)
    (by decide +kernel) (by decide +kernel) (by decide +kernel)).1 (by decide +kernel)

/-- As many apps as there are slots, each with a name and a digest of its own. -/
def fullCalls : List TcCall :=
  (List.range tcManagerRecordMaxCount).flatMap fun index =>
    storeBoth [index.toUInt8 + 1] 1 [97 + index.toUInt8] wasmVersion1 ++
      [.checkAndUpdate (.bytes [index.toUInt8 + 1])]

/-- The second version of the first app finds no slot. -/
theorem update_refusedWhenFull :
    (tcRun smallCsuit SlotTable.empty fullCalls).len = tcManagerRecordMaxCount ∧
    (∀ record ∈ (tcRun smallCsuit SlotTable.empty fullCalls).active, manifestRecordIsComplete record = true) ∧
    ((tcRun smallCsuit SlotTable.empty fullCalls).active.map ManifestRecord.wappName).Nodup ∧
    (∀ record ∈ (tcRun smallCsuit SlotTable.empty fullCalls).active, record.manifestDigest ≠ .bytes [100]) ∧
    (∃ record ∈ (tcRun smallCsuit SlotTable.empty fullCalls).active,
      record.wappName = wappName smallCsuit (appVersion [100] 2 wasmVersion2) ∧
        record.manifestSequenceNumber ≤ 2) ∧
    ((tcMachine smallCsuit).run (tcRun smallCsuit SlotTable.empty fullCalls)
      (appVersion [100] 2 wasmVersion2).process).2 = [-1, -1, -1] := by
  decide +kernel

end Taws.TcManager
