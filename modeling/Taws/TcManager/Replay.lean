import Taws.Latest
import Taws.TcManager.Finalisation

/-!
# Installing manifests in any order, any number of times

Processing a manifest stores it, stores its payload and finalises it.  When every manifest is whole
and ranked within its app, the table after any number of processings holds the record of the newest
manifest of each app: it refines the store of `Taws.Latest` that keeps the latest entry of each key.

* `Installed` — the active records are those of the held manifests.
* `process_installed` — one processing succeeds and does what the abstract store does.
* `installation_order_independent` — hence order and repetition do not matter.
-/

namespace Taws.TcManager

open scoped List
open SlotTable

/-- What the store callbacks present of one manifest and its payload. -/
structure Manifest where
  digest : Bytes
  sequenceNumber : UInt64
  nameId : Buffer
  wappId : Buffer
  bin : Bytes
  payload : Bytes
  deriving DecidableEq

namespace Manifest

def manifestArgs (manifest : Manifest) : SuitStoreArgs where
  operation := .store
  manifestDigest := .bytes manifest.digest
  manifestSequenceNumber := manifest.sequenceNumber
  isManifestItself := true
  dst := manifest.nameId
  srcBuf := .bytes manifest.bin

def payloadArgs (manifest : Manifest) : SuitStoreArgs where
  operation := .store
  manifestDigest := .bytes manifest.digest
  manifestSequenceNumber := manifest.sequenceNumber
  isManifestItself := false
  dst := manifest.wappId
  srcBuf := .bytes manifest.payload

/-- Storing the manifest, storing its payload and finalising it, with every allocation succeeding. -/
def process (manifest : Manifest) : List TcCall :=
  [.store (some manifest.manifestArgs) ⟨true, true⟩, .store (some manifest.payloadArgs) ⟨true, true⟩,
    .checkAndUpdate (.bytes manifest.digest)]

end Manifest

variable (csuit : Libcsuit)

def wappName (manifest : Manifest) : CString := (decodedName csuit manifest.wappId).2

/-- The record a whole manifest leaves. -/
def recordOf (manifest : Manifest) : ManifestRecord where
  manifestDigest := .bytes manifest.digest
  manifestName := (decodedName csuit manifest.nameId).2
  manifestSequenceNumber := manifest.sequenceNumber
  manifestBin := .bytes manifest.bin
  wappName := wappName csuit manifest
  wappHash := csuit.sha256 manifest.payload
  wappBin := .bytes manifest.payload

structure Whole (manifest : Manifest) : Prop where
  digest : manifest.digest ≠ []
  bin : manifest.bin ≠ []
  payload : manifest.payload ≠ []
  nameDecodes : (decodedName csuit manifest.nameId).1 = true
  named : (decodedName csuit manifest.nameId).2 ≠ []
  wappDecodes : (decodedName csuit manifest.wappId).1 = true
  wappNamed : wappName csuit manifest ≠ []

/-- The manifests may be installed together: the digest identifies the manifest, the sequence number
ranks the manifests of one app, and one record slot is left over. -/
structure Installable (manifests : List Manifest) : Prop where
  whole : ∀ manifest ∈ manifests, Whole csuit manifest
  sameDigest : ∀ first ∈ manifests, ∀ second ∈ manifests, first.digest = second.digest → first = second
  sequenced : ∀ first ∈ manifests, ∀ second ∈ manifests, wappName csuit first = wappName csuit second →
    first.digest ≠ second.digest → first.sequenceNumber ≠ second.sequenceNumber
  room : (manifests.map (wappName csuit)).dedup.length < tcManagerRecordMaxCount

def rank (manifest : Manifest) : Nat := manifest.sequenceNumber.toNat

/-- The active records are those of the held manifests. -/
structure Installed (table : RecordTable) (held : List Manifest) : Prop extends WellKept table where
  active : table.active ~ held.map (recordOf csuit)

variable {csuit} {table : RecordTable} {held history manifests : List Manifest} {manifest : Manifest}

/-! ## Storing a whole manifest -/

theorem replaceBin_copy {old : Buffer} {data : Bytes} (full : data ≠ []) :
    replaceBin old (.bytes data) true = (true, .bytes data) := by
  cases data with
  | nil => exact absurd rfl full
  | cons byte rest => simp [replaceBin]

theorem storeFields_manifestArgs (whole : Whole csuit manifest) (record : ManifestRecord) :
    storeFields csuit manifest.manifestArgs ⟨true, true⟩ record =
      (0, { record with
        manifestSequenceNumber := manifest.sequenceNumber
        manifestName := (decodedName csuit manifest.nameId).2
        manifestBin := .bytes manifest.bin }) := by
  simp [storeFields, storeManifest, Manifest.manifestArgs, setIds_of_decodes whole.nameDecodes,
    replaceBin_copy whole.bin]

theorem storeFields_payloadArgs (sha256 : csuit.Sha256Succeeds) (whole : Whole csuit manifest)
    (record : ManifestRecord) :
    storeFields csuit manifest.payloadArgs ⟨true, true⟩ record =
      (0, { record with
        wappName := wappName csuit manifest
        wappHash := csuit.sha256 manifest.payload
        wappBin := .bytes manifest.payload }) := by
  have notEmpty : (Buffer.bytes manifest.payload).isNullOrEmpty = false := by simp [whole.payload]
  simp [storeFields, storePayload, Manifest.payloadArgs, setIds_of_decodes whole.wappDecodes, wappName,
    replaceBin_copy whole.payload, sha256 manifest.payload, notEmpty]

/-- The record between the two store calls; `previous` is what was active under the digest. -/
def withManifest (csuit : Libcsuit) (manifest : Manifest) (previous : ManifestRecord) : ManifestRecord :=
  { previous with
    manifestSequenceNumber := manifest.sequenceNumber
    manifestName := (decodedName csuit manifest.nameId).2
    manifestBin := .bytes manifest.bin }

/-- Before the two store calls the record is active already, or there is none and there is room. -/
def Storable (csuit : Libcsuit) (table : RecordTable) (manifest : Manifest) (others : List ManifestRecord) :
    Prop :=
  table.active ~ recordOf csuit manifest :: others ∨
    (∀ record ∈ table.active, record.manifestDigest ≠ .bytes manifest.digest) ∧
      table.len < tcManagerRecordMaxCount ∧ table.active = others

theorem storeManifestArgs_active (kept : WellKept table) (whole : Whole csuit manifest)
    {others : List ManifestRecord} (storable : Storable csuit table manifest others) :
    ∃ previous, previous.manifestDigest = .bytes manifest.digest ∧
      (tcManagerStoreRecordFromStoreArgs csuit (some manifest.manifestArgs) ⟨true, true⟩ table).1 = 0 ∧
      (tcManagerStoreRecordFromStoreArgs csuit (some manifest.manifestArgs) ⟨true, true⟩ table).2.active ~
        withManifest csuit manifest previous :: others := by
  rcases storable with split | ⟨absent, room, rfl⟩
  -- the manifest is stored over itself
  · obtain ⟨returned, active⟩ := store_existing csuit kept split rfl
      (show manifest.manifestArgs.operation = .store from rfl) ⟨true, true⟩
    rw [storeFields_manifestArgs whole] at returned active
    exact ⟨_, rfl, returned, active⟩
  -- it is stored into a new record
  · have begins : BeginsRecord table manifest.manifestArgs ⟨true, true⟩ :=
      { isStore := rfl
        full := by simp [Manifest.manifestArgs, whole.digest]
        absent := absent
        room := room
        allocated := rfl }
    obtain ⟨returned, active⟩ := store_new csuit kept.toClean begins
    rw [storeFields_manifestArgs whole] at returned active
    refine ⟨freshRecord (.bytes manifest.digest), rfl, returned, ?_⟩
    rw [active]
    exact List.perm_append_singleton _ _

/-- The two store calls succeed and leave the manifest's record beside the other ones. -/
theorem storeBoth_active (sha256 : csuit.Sha256Succeeds) (kept : WellKept table)
    (whole : Whole csuit manifest) {others : List ManifestRecord}
    (storable : Storable csuit table manifest others) :
    ∃ stored, (tcMachine csuit).run table
        [.store (some manifest.manifestArgs) ⟨true, true⟩, .store (some manifest.payloadArgs) ⟨true, true⟩] =
        (stored, [0, 0]) ∧
      WellKept stored ∧ stored.active ~ recordOf csuit manifest :: others := by
  obtain ⟨previous, key, firstReturned, firstActive⟩ := storeManifestArgs_active kept whole storable
  have firstKept := store_wellKept csuit kept (some manifest.manifestArgs) ⟨true, true⟩
  have sameKey : (withManifest csuit manifest previous).manifestDigest = manifest.payloadArgs.manifestDigest := key
  obtain ⟨secondReturned, secondActive⟩ := store_existing csuit firstKept firstActive sameKey
    (show manifest.payloadArgs.operation = .store from rfl) ⟨true, true⟩
  have secondKept := store_wellKept csuit firstKept (some manifest.payloadArgs) ⟨true, true⟩
  rw [storeFields_payloadArgs sha256 whole] at secondReturned secondActive
  have complete : ({ withManifest csuit manifest previous with
      wappName := wappName csuit manifest
      wappHash := csuit.sha256 manifest.payload
      wappBin := .bytes manifest.payload } : ManifestRecord) = recordOf csuit manifest := by
    simp [withManifest, recordOf, key]
  rw [complete] at secondActive
  refine ⟨_, ?_, secondKept, secondActive⟩
  simp [tcMachine, tcStep, firstReturned, secondReturned]

theorem recordOf_complete (whole : Whole csuit manifest) :
    manifestRecordIsComplete (recordOf csuit manifest) = true :=
  isComplete_iff.mpr ⟨whole.named, whole.wappNamed, by simp [recordOf, whole.bin],
    by simp [recordOf, whole.payload]⟩

/-! ## One processing -/

namespace Installable

variable (installable : Installable csuit manifests) (seen : ∀ manifest ∈ history, manifest ∈ manifests)
  (known : manifest ∈ manifests)

include installable seen in
theorem ranked : Ranked (wappName csuit) rank history := by
  intro first firstMember second secondMember sameName sameRank
  by_contra different
  have digests : first.digest ≠ second.digest := by
    intro same
    exact different (installable.sameDigest _ (seen _ firstMember) _ (seen _ secondMember) same)
  have sequenceNumbers := installable.sequenced _ (seen _ firstMember) _ (seen _ secondMember) sameName digests
  exact sequenceNumbers (UInt64.toNat_inj.mp sameRank)

include installable seen in
/-- There is a slot left over while a further manifest is processed. -/
theorem held_length_lt (keeps : KeepsLatest (wappName csuit) rank held history) :
    held.length < tcManagerRecordMaxCount := by
  have subset : (history.map (wappName csuit)).dedup ⊆ (manifests.map (wappName csuit)).dedup := by
    intro name member
    obtain ⟨other, otherMember, rfl⟩ := List.mem_map.mp (List.mem_dedup.mp member)
    exact List.mem_dedup.mpr (List.mem_map_of_mem (seen other otherMember))
  calc held.length
    _ ≤ (history.map (wappName csuit)).dedup.length := keeps.length_le (installable.ranked seen)
    _ ≤ (manifests.map (wappName csuit)).dedup.length :=
      (List.subperm_of_subset (List.nodup_dedup _) subset).length_le
    _ < tcManagerRecordMaxCount := installable.room

include installable seen known in
/-- A manifest that is not held has no active record. -/
theorem absent (installed : Installed csuit table held)
    (keeps : KeepsLatest (wappName csuit) rank held history) (new : manifest ∉ held) :
    ∀ record ∈ table.active, record.manifestDigest ≠ .bytes manifest.digest := by
  intro record member same
  obtain ⟨other, otherMember, rfl⟩ := List.mem_map.mp (installed.active.mem_iff.mp member)
  have sameDigest : other.digest = manifest.digest := Buffer.bytes.inj same
  have otherKnown := seen other (keeps.mem_history otherMember)
  rw [installable.sameDigest other otherKnown manifest known sameDigest] at otherMember
  exact new otherMember

end Installable

theorem run_process {stored : RecordTable}
    (storing : (tcMachine csuit).run table
      [.store (some manifest.manifestArgs) ⟨true, true⟩, .store (some manifest.payloadArgs) ⟨true, true⟩] =
        (stored, [0, 0]))
    (finalising : (tcManagerCheckAndUpdateRecord (.bytes manifest.digest) stored).1 = 0) :
    (tcMachine csuit).run table manifest.process =
      ((tcManagerCheckAndUpdateRecord (.bytes manifest.digest) stored).2, [0, 0, 0]) := by
  have split : manifest.process =
      [.store (some manifest.manifestArgs) ⟨true, true⟩, .store (some manifest.payloadArgs) ⟨true, true⟩] ++
        [.checkAndUpdate (.bytes manifest.digest)] := rfl
  rw [split, Machine.run_append, storing]
  simp [tcMachine, tcStep, finalising]

/-- A manifest whose record is active: it is stored over itself and stays. -/
theorem process_replayed (sha256 : csuit.Sha256Succeeds) (installable : Installable csuit manifests)
    (seen : ∀ manifest ∈ history, manifest ∈ manifests) (known : manifest ∈ manifests)
    (installed : Installed csuit table held) (keeps : KeepsLatest (wappName csuit) rank held history)
    (replayed : manifest ∈ held) :
    ∃ after, (tcMachine csuit).run table manifest.process = (after, [0, 0, 0]) ∧
      Installed csuit after held := by
  have whole := installable.whole manifest known
  have heldSplit : held.map (recordOf csuit) ~ recordOf csuit manifest :: (held.erase manifest).map (recordOf csuit) :=
    (List.perm_cons_erase replayed).map _
  obtain ⟨stored, storing, kept, active⟩ := storeBoth_active sha256 installed.toWellKept whole
    (.inl (installed.active.trans heldSplit))
  obtain ⟨success, finalised⟩ := checkAndUpdate_complete kept active (recordOf_complete whole)
  have finalKept := checkAndUpdate_wellKept kept (.bytes manifest.digest)
  -- no other held manifest is of the same app
  have unique : ∀ other ∈ (held.erase manifest).map (recordOf csuit),
      other.wappName ≠ (recordOf csuit manifest).wappName := by
    intro record member sameName
    obtain ⟨other, otherMember, rfl⟩ := List.mem_map.mp member
    obtain ⟨different, otherHeld⟩ := keeps.nodup.mem_erase_iff.mp otherMember
    exact different ((installable.ranked seen).latest_unique ((keeps.mem_iff other).mp otherHeld)
      ((keeps.mem_iff manifest).mp replayed) sameName)
  refine ⟨_, run_process storing success, finalKept, ?_⟩
  change Finalised stored _ (recordOf csuit manifest) _
    (tcManagerCheckAndUpdateRecord (.bytes manifest.digest) stored).2 at finalised
  generalize (tcManagerCheckAndUpdateRecord (.bytes manifest.digest) stored).2 = after at finalised ⊢
  cases finalised with
  | only _ => exact active.trans heldSplit.symm
  | replaced member _ sameName _ _ => exact absurd sameName (unique _ member)
  | discarded member _ sameName _ _ => exact absurd sameName (unique _ member)

/-- A manifest whose record is not active: finalising compares it with the held one of its app. -/
theorem process_new (sha256 : csuit.Sha256Succeeds) (installable : Installable csuit manifests)
    (seen : ∀ manifest ∈ history, manifest ∈ manifests) (known : manifest ∈ manifests)
    (installed : Installed csuit table held) (keeps : KeepsLatest (wappName csuit) rank held history)
    (new : manifest ∉ held) :
    ∃ after held', (tcMachine csuit).run table manifest.process = (after, [0, 0, 0]) ∧
      Installed csuit after held' ∧ KeepsLatest (wappName csuit) rank held' (manifest :: history) := by
  have whole := installable.whole manifest known
  have ranked := installable.ranked seen
  have room : table.len < tcManagerRecordMaxCount := by
    rw [← active_length installed.toClean, installed.active.length_eq, List.length_map]
    exact installable.held_length_lt seen keeps
  obtain ⟨stored, storing, kept, active⟩ := storeBoth_active sha256 installed.toWellKept whole
    (.inr ⟨installable.absent seen known installed keeps new, room, rfl⟩)
  obtain ⟨success, finalised⟩ := checkAndUpdate_complete kept active (recordOf_complete whole)
  have finalKept := checkAndUpdate_wellKept kept (.bytes manifest.digest)
  have process := run_process storing success
  have fromHeld : ∀ record ∈ table.active, ∃ other ∈ held, recordOf csuit other = record := by
    intro record member
    exact List.mem_map.mp (installed.active.mem_iff.mp member)
  -- the sequence numbers of one app differ, so what is held is older or newer
  have sequenced : ∀ other ∈ held, wappName csuit other = wappName csuit manifest → rank other ≠ rank manifest := by
    intro other member sameName sameRank
    have both : ∀ each ∈ manifest :: history, each ∈ manifests := List.forall_mem_cons.mpr ⟨known, seen⟩
    have same := installable.ranked both other (List.mem_cons_of_mem _ (keeps.mem_history member)) manifest
      List.mem_cons_self sameName sameRank
    exact new (same ▸ member)
  change Finalised stored _ (recordOf csuit manifest) table.active
    (tcManagerCheckAndUpdateRecord (.bytes manifest.digest) stored).2 at finalised
  generalize (tcManagerCheckAndUpdateRecord (.bytes manifest.digest) stored).2 = after at *
  cases finalised with
  | only unique =>
    -- the first manifest of its app
    refine ⟨_, manifest :: held, process, ⟨finalKept, active.trans (installed.active.cons _)⟩, ?_⟩
    apply keeps.insert
    intro other member
    exact unique _ (installed.active.mem_iff.mpr (List.mem_map_of_mem member))
  | replaced member _ sameName notNewer remaining =>
    obtain ⟨older, olderMember, rfl⟩ := fromHeld _ member
    have outranked : rank older < rank manifest :=
      lt_of_le_of_ne (UInt64.le_iff_toNat_le.mp notNewer) (sequenced older olderMember sameName)
    have erased : table.active.erase (recordOf csuit older) ~ (held.erase older).map (recordOf csuit) := by
      have removed := (List.perm_cons_erase member).symm.trans installed.active
      exact (removed.trans ((List.perm_cons_erase olderMember).map _)).cons_inv
    exact ⟨_, manifest :: held.erase older, process, ⟨finalKept, remaining.trans (erased.cons _)⟩,
      keeps.replace ranked olderMember sameName outranked⟩
  | discarded member _ sameName isNewer remaining =>
    obtain ⟨newer, newerMember, rfl⟩ := fromHeld _ member
    have outranks : rank manifest < rank newer := not_le.mp (mt UInt64.le_iff_toNat_le.mpr isNewer)
    exact ⟨_, held, process, ⟨finalKept, remaining.trans installed.active⟩,
      keeps.outdated newerMember sameName outranks⟩

/-- One processing succeeds, and the table does what the store that keeps the latest entries does. -/
theorem process_installed (sha256 : csuit.Sha256Succeeds) (installable : Installable csuit manifests)
    (seen : ∀ manifest ∈ history, manifest ∈ manifests) (known : manifest ∈ manifests)
    (installed : Installed csuit table held) (keeps : KeepsLatest (wappName csuit) rank held history) :
    ∃ after held', (tcMachine csuit).run table manifest.process = (after, [0, 0, 0]) ∧
      Installed csuit after held' ∧ KeepsLatest (wappName csuit) rank held' (manifest :: history) := by
  by_cases replayed : manifest ∈ held
  · obtain ⟨after, process, still⟩ :=
      process_replayed sha256 installable seen known installed keeps replayed
    exact ⟨after, held, process, still, keeps.replay replayed⟩
  · exact process_new sha256 installable seen known installed keeps replayed

/-! ## Any number of processings -/

theorem processAll_installed (sha256 : csuit.Sha256Succeeds) (installable : Installable csuit manifests)
    (attempts : List Manifest) (known : ∀ manifest ∈ attempts, manifest ∈ manifests)
    (seen : ∀ manifest ∈ history, manifest ∈ manifests) (installed : Installed csuit table held)
    (keeps : KeepsLatest (wappName csuit) rank held history) :
    ∃ after held', Installed csuit after held' ∧
      KeepsLatest (wappName csuit) rank held' (attempts.reverse ++ history) ∧
      ((tcMachine csuit).run table (attempts.flatMap Manifest.process)).1 = after ∧
      ∀ code ∈ ((tcMachine csuit).run table (attempts.flatMap Manifest.process)).2, code = 0 := by
  induction attempts generalizing table held history with
  | nil => exact ⟨table, held, installed, keeps, rfl, by simp⟩
  | cons manifest attempts inductionHypothesis =>
    have manifestKnown := known manifest List.mem_cons_self
    obtain ⟨middle, middleHeld, process, middleInstalled, middleKeeps⟩ :=
      process_installed sha256 installable seen manifestKnown installed keeps
    have middleSeen : ∀ each ∈ manifest :: history, each ∈ manifests :=
      List.forall_mem_cons.mpr ⟨manifestKnown, seen⟩
    obtain ⟨after, held', afterInstalled, afterKeeps, reached, codes⟩ := inductionHypothesis
      (fun each member => known each (List.mem_cons_of_mem _ member)) middleSeen middleInstalled middleKeeps
    rw [List.flatMap_cons, Machine.run_append, process]
    refine ⟨after, held', afterInstalled, by simpa using afterKeeps, reached, ?_⟩
    intro code member
    cases List.mem_append.mp member with
    | inl inFirst => simpa using inFirst
    | inr inRest => exact codes code inRest

theorem empty_installed : Installed csuit SlotTable.empty [] where
  toWellKept := empty_wellKept
  active := by simp

/-- Whichever order the manifests come in and however often each of them comes, every call succeeds
and the active records are those of the newest manifest of each app. -/
theorem installation_order_independent (csuit : Libcsuit) (sha256 : csuit.Sha256Succeeds)
    (manifests attempts : List Manifest) (installable : Installable csuit manifests)
    (sameMembers : ∀ manifest, manifest ∈ attempts ↔ manifest ∈ manifests) :
    (∀ code ∈ ((tcMachine csuit).run SlotTable.empty (attempts.flatMap Manifest.process)).2, code = 0) ∧
    ((tcRun csuit SlotTable.empty (attempts.flatMap Manifest.process)).active.map
      ManifestRecord.wappName).Nodup ∧
    ∀ record, record ∈ (tcRun csuit SlotTable.empty (attempts.flatMap Manifest.process)).active ↔
      ∃ manifest, IsLatest (wappName csuit) rank manifests manifest ∧ record = recordOf csuit manifest := by
  have known : ∀ manifest ∈ attempts, manifest ∈ manifests := fun manifest => (sameMembers manifest).mp
  obtain ⟨after, held, installed, keeps, reached, codes⟩ :=
    processAll_installed sha256 installable attempts known (by simp) empty_installed KeepsLatest.nil
  have members : ∀ manifest, manifest ∈ attempts.reverse ++ [] ↔ manifest ∈ manifests := by
    simpa using sameMembers
  have ranked := installable.ranked fun manifest => (members manifest).mp
  refine ⟨codes, ?_, ?_⟩
  · rw [tcRun, reached, (installed.active.map _).nodup_iff, List.map_map]
    exact keeps.keys_nodup ranked
  · intro record
    rw [tcRun, reached, installed.active.mem_iff, List.mem_map]
    constructor
    · rintro ⟨manifest, member, rfl⟩
      exact ⟨manifest, (IsLatest.congr members).mp ((keeps.mem_iff manifest).mp member), rfl⟩
    · rintro ⟨manifest, latest, rfl⟩
      exact ⟨manifest, (keeps.mem_iff manifest).mpr ((IsLatest.congr members).mpr latest), rfl⟩

/-- Two versions of one app. -/
def appVersion (digest : Bytes) (sequenceNumber : UInt64) (payload : Bytes) : Manifest :=
  ⟨digest, sequenceNumber, componentNamed [109], componentNamed [97], [160], payload⟩

theorem appVersions_installable :
    Installable smallCsuit [appVersion [1] 1 wasmVersion1, appVersion [2] 2 wasmVersion2] where
  whole := by
    intro manifest member
    simp only [List.mem_cons, List.not_mem_nil, or_false] at member
    rcases member with rfl | rfl <;> constructor <;> decide +kernel
  sameDigest := by decide +kernel
  sequenced := by decide +kernel
  room := by decide +kernel

theorem installation_newest_first :
    ((tcRun smallCsuit SlotTable.empty
      ([appVersion [2] 2 wasmVersion2, appVersion [1] 1 wasmVersion1, appVersion [2] 2 wasmVersion2].flatMap
        Manifest.process)).active.map ManifestRecord.wappName).Nodup :=
  (installation_order_independent smallCsuit (reference_sha256Succeeds smallSha256) _ _
    appVersions_installable (by intro manifest; simp; tauto)).2.1

end Taws.TcManager
