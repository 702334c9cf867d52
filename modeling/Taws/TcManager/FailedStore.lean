import Taws.TcManager.Records

/-!
# Store calls that fail

A store call that cannot begin a record gives back the slot it has taken.  A call that fails later, when
the binary cannot be copied, gives nothing back: the record it has begun stays active, and of a record
that was active already the name is overwritten and the old binary released.

* `storeFields_fails`, `storeFields_unchanged` — when writing the fields fails, and what is left then.
* `failedStore_intact_iff` — exactly when a store call that fails leaves the records as they were.
-/

namespace Taws.TcManager

open SlotTable

variable {csuit : Libcsuit} {table : RecordTable} {args : SuitStoreArgs} {alloc : StoreAlloc}
  {record : ManifestRecord}

/-! ## Writing the fields -/

theorem replaceBin_fails {old source : Buffer} {malloc : Bool} :
    (replaceBin old source malloc).1 = false ↔ source.isNullOrEmpty = false ∧ malloc = false := by
  unfold replaceBin
  cases source.isNullOrEmpty <;> cases malloc <;> simp

/-- What is left of the old binary when the new one cannot be copied. -/
theorem replaceBin_released {old source : Buffer} {malloc : Bool}
    (fails : (replaceBin old source malloc).1 = false) :
    (replaceBin old source malloc).2 = old ↔ old.isNull = true := by
  obtain ⟨full, failed⟩ := replaceBin_fails.mp fails
  simp only [replaceBin, full, failed, Bool.false_eq_true, if_false]
  cases old <;> simp

theorem storeFields_returns (csuit : Libcsuit) (args : SuitStoreArgs) (alloc : StoreAlloc)
    (record : ManifestRecord) :
    (storeFields csuit args alloc record).1 =
      if args.srcBuf.isNullOrEmpty = false ∧ alloc.bin = false then -1 else 0 := by
  have failsIff : ∀ old, (replaceBin old args.srcBuf alloc.bin).1 = false ↔
      args.srcBuf.isNullOrEmpty = false ∧ alloc.bin = false := fun _ => replaceBin_fails
  unfold storeFields storeManifest storePayload
  by_cases fails : args.srcBuf.isNullOrEmpty = false ∧ alloc.bin = false
  · have copied : ∀ old, (replaceBin old args.srcBuf alloc.bin).1 = false := fun old => (failsIff old).mpr fails
    rw [if_pos fails]
    cases args.isManifestItself <;> simp [copied]
  · have copied : ∀ old, (replaceBin old args.srcBuf alloc.bin).1 = true := by
      intro old
      cases returned : (replaceBin old args.srcBuf alloc.bin).1 with
      | true => rfl
      | false => exact absurd ((failsIff old).mp returned) fails
    rw [if_neg fails]
    cases args.isManifestItself <;> simp [copied]

theorem storeFields_fails :
    (storeFields csuit args alloc record).1 = -1 ↔ args.srcBuf.isNullOrEmpty = false ∧ alloc.bin = false := by
  rw [storeFields_returns]
  split <;> simp_all

/-- The name that a store call leaves in the record: of the manifest, or of the app. -/
def nameWritten (csuit : Libcsuit) (args : SuitStoreArgs) (record : ManifestRecord) : CString :=
  (manifestRecordSetIdsFromComponentId csuit args.dst
    (if args.isManifestItself then record.manifestName else record.wappName) csuit.suitMaxNameLength).2

/-- The record has no binary that the store call would release, and it has the sequence number and the
name that the call writes before it copies the new one. -/
def NothingToLose (csuit : Libcsuit) (args : SuitStoreArgs) (record : ManifestRecord) : Prop :=
  if args.isManifestItself then
    record.manifestBin.isNull = true ∧ record.manifestSequenceNumber = args.manifestSequenceNumber ∧
      record.manifestName = nameWritten csuit args record
  else record.wappBin.isNull = true ∧ record.wappName = nameWritten csuit args record

instance (csuit : Libcsuit) (args : SuitStoreArgs) (record : ManifestRecord) :
    Decidable (NothingToLose csuit args record) := by
  unfold NothingToLose
  infer_instance

theorem storeFields_unchanged (fails : args.srcBuf.isNullOrEmpty = false ∧ alloc.bin = false) :
    (storeFields csuit args alloc record).2 = record ↔ NothingToLose csuit args record := by
  have copyFails : ∀ old, (replaceBin old args.srcBuf alloc.bin).1 = false := fun _ => replaceBin_fails.mpr fails
  have released : ∀ old, (replaceBin old args.srcBuf alloc.bin).2 = old ↔ old.isNull = true :=
    fun old => replaceBin_released (copyFails old)
  cases kind : args.isManifestItself with
  | true =>
    rw [NothingToLose, if_pos kind, ← released]
    simp only [storeFields, storeManifest, nameWritten, kind, if_true]
    constructor
    · intro same
      have bin := congrArg ManifestRecord.manifestBin same
      have sequenceNumber := congrArg ManifestRecord.manifestSequenceNumber same
      have name := congrArg ManifestRecord.manifestName same
      exact ⟨bin, sequenceNumber.symm, name.symm⟩
    · intro kept
      obtain ⟨bin, sequenceNumber, name⟩ := kept
      rw [bin, ← sequenceNumber, ← name]
  | false =>
    rw [NothingToLose, if_neg (by simp [kind]), ← released]
    simp only [storeFields, storePayload, nameWritten, kind, Bool.false_eq_true, if_false, copyFails,
      Bool.false_and]
    constructor
    · intro same
      have bin := congrArg ManifestRecord.wappBin same
      have name := congrArg ManifestRecord.wappName same
      exact ⟨bin, name.symm⟩
    · intro kept
      obtain ⟨bin, name⟩ := kept
      rw [bin, ← name]

/-! ## The whole call -/

theorem TableInvariant.clean (invariant : TableInvariant csuit table) : table.Clean :=
  ⟨invariant.len_le, invariant.clear⟩

/-- Where the binary cannot be copied, no record is begun, and the record of the digest, if there is one,
has nothing to lose. -/
def LosesNothing (csuit : Libcsuit) (table : RecordTable) (args : SuitStoreArgs) (alloc : StoreAlloc) : Prop :=
  args.operation = .store → args.srcBuf.isNullOrEmpty = false → alloc.bin = false →
    ¬ BeginsRecord table args alloc ∧
      ∀ record ∈ tcManagerFindRecordByDigest table args.manifestDigest, NothingToLose csuit args record

theorem storeAt_intact_iff (clean : table.Clean) {index : Nat} (bound : index < table.len) :
    (storeAt csuit args alloc table index).2.active = table.active ↔
      (storeFields csuit args alloc (table.slot index)).2 = table.slot index := by
  have inActive : index < table.active.length := by rwa [active_length clean]
  rw [storeAt_active]
  constructor
  · intro same
    have written : (table.active.set index (storeFields csuit args alloc (table.slot index)).2)[index]? =
        table.active[index]? := by rw [same]
    rw [List.getElem?_set_self inActive, active_getElem? clean bound] at written
    exact Option.some.inj written
  · intro same
    rw [same, ← active_getElem clean inActive]
    exact List.set_getElem_self inActive

/-- A store call that fails leaves the number of active records and each of them as they were, if and
only if it loses nothing. -/
theorem failedStore_intact_iff (invariant : TableInvariant csuit table) (storeArgs : Option SuitStoreArgs)
    (alloc : StoreAlloc) :
    ((tcManagerStoreRecordFromStoreArgs csuit storeArgs alloc table).1 = -1 →
      (tcManagerStoreRecordFromStoreArgs csuit storeArgs alloc table).2.active = table.active) ↔
    ∀ args ∈ storeArgs, LosesNothing csuit table args alloc := by
  have clean := invariant.clean
  cases storeArgs with
  | none => simp [tcManagerStoreRecordFromStoreArgs]
  | some args =>
    simp only [Option.mem_some_iff, forall_eq']
    by_cases isStore : args.operation = .store
    swap
    · simp [tcManagerStoreRecordFromStoreArgs, LosesNothing, isStore]
    cases found : manifestRecordFindByDigest table args.manifestDigest with
    | some index =>
      obtain ⟨_, bound, key⟩ := findByDigest_some found
      have notBegins : ¬ BeginsRecord table args alloc := by
        intro begins
        exact begins.absent _ (slot_mem_active clean bound) key
      rw [store_found isStore found, storeAt_intact_iff clean bound]
      simp only [LosesNothing, isStore, notBegins, tcManagerFindRecordByDigest, found, true_implies,
        not_false_eq_true, true_and, Option.map_some, Option.mem_some_iff, forall_eq']
      change ((storeFields csuit args alloc (table.slot index)).1 = -1 → _) ↔ _
      rw [storeFields_fails, ← and_imp]
      exact forall_congr' fun fails => storeFields_unchanged fails
    | none =>
      simp only [LosesNothing, isStore, tcManagerFindRecordByDigest, found, true_implies, Option.map_none,
        Option.not_mem_none, false_implies, implies_true, and_true]
      by_cases begins : BeginsRecord table args alloc
      -- the record that the failed call has begun stays
      · obtain ⟨returned, active⟩ := store_new csuit clean begins
        rw [returned, active, storeFields_fails, ← and_imp]
        simp [begins]
      · have rejected : tcManagerStoreRecordFromStoreArgs csuit (some args) alloc table = (-1, table) := by
          cases store_cases csuit clean args alloc with
          | inl outcome => exact outcome.1
          | inr accepted =>
            cases accepted with
            | inl existing =>
              obtain ⟨_, _, other, _⟩ := existing
              rw [found] at other
              cases other
            | inr new => exact absurd new.1 begins
        simp [rejected, begins]

/-- An app in version 1, installed. -/
def installedApp : RecordTable :=
  tcRun smallCsuit SlotTable.empty (storeBoth [1] 1 [97] wasmVersion1 ++ [.checkAndUpdate (.bytes [1])])

theorem installedApp_invariant : TableInvariant smallCsuit installedApp :=
  (tcRun_wellKept smallCsuit empty_wellKept _).tableInvariant
    (tcRun_hashBound (reference_sha256Succeeds smallSha256) _)

/-- Sending the payload again without memory for it fails, and takes the installed one away. -/
theorem failedStore_losesPayload :
    TableInvariant smallCsuit installedApp ∧
      (tcManagerStoreRecordFromStoreArgs smallCsuit (some (payloadStore [1] 1 [97] wasmVersion1))
        ⟨true, false⟩ installedApp).1 = -1 ∧
      (tcManagerStoreRecordFromStoreArgs smallCsuit (some (payloadStore [1] 1 [97] wasmVersion1))
        ⟨true, false⟩ installedApp).2.active ≠ installedApp.active :=
  ⟨installedApp_invariant, by decide +kernel, by decide +kernel⟩

/-- A manifest for whose digest there is no memory is refused, and changes nothing. -/
theorem failedStore_noDigest :
    (tcManagerStoreRecordFromStoreArgs smallCsuit (some (manifestStore [2] 2 [109] [160]))
      ⟨false, false⟩ installedApp).2.active = installedApp.active := by
  apply (failedStore_intact_iff installedApp_invariant _ _).mpr
  · intro args member _ _ _
    obtain rfl := Option.some.inj member
    refine ⟨fun begins => absurd begins.allocated (by decide), ?_⟩
    decide +kernel
  · decide +kernel

end Taws.TcManager
