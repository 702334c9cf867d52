import Taws.Suit.Callbacks
import Taws.TcManager.Records

/-!
# Store callbacks that succeed

What a store callback has written when it reports success, in any table at all: the record that is found
under the manifest digest afterwards has the bytes of the arguments, and the name that was decoded, if one
was decoded.

* `find_setSlot`, `find_alloc` — what is found under a digest after a slot is written.
* `Applied` — the fields of the arguments are those of the record.
* `storeCallback_applied` — a success is a store that was applied, or an operation that is not a store.
-/

namespace Taws.Suit

open TcManager
open SlotTable

variable {csuit : Libcsuit} {table : RecordTable} {args : SuitStoreArgs} {alloc : StoreAlloc}
  {record stored : ManifestRecord} {digest : Buffer} {index : Nat}

/-! ## Finding what was written -/

/-- Writing a record does not move it, as long as it keeps its digest. -/
theorem find_setSlot (same : stored.manifestDigest = (table.slot index).manifestDigest) :
    manifestRecordFindByDigest (table.setSlot index stored) digest =
      manifestRecordFindByDigest table digest := by
  have sameTest : ∀ other, digestMatches digest ((table.setSlot index stored).slot other) =
      digestMatches digest (table.slot other) := by
    intro other
    rw [setSlot_slot]
    split
    · next written =>
      rw [← written.1]
      simp only [digestMatches, same]
    · rfl
  simp only [manifestRecordFindByDigest, sameTest, setSlot_len]

/-- A slot in which something is found is a slot of the array. -/
theorem find_lt_max (found : manifestRecordFindByDigest table digest = some index) :
    index < tcManagerRecordMaxCount := by
  obtain ⟨full, _, key⟩ := findByDigest_some found
  by_contra outside
  rw [slot_of_capacity_le (Nat.not_lt.mp outside), ManifestRecord.default_manifestDigest] at key
  rw [← key] at full
  cases full

theorem findRecord_setSlot (found : manifestRecordFindByDigest table digest = some index)
    (same : stored.manifestDigest = (table.slot index).manifestDigest) :
    tcManagerFindRecordByDigest (table.setSlot index stored) digest = some stored := by
  have inArray : index = index ∧ index < tcManagerRecordMaxCount := ⟨rfl, find_lt_max found⟩
  simp only [tcManagerFindRecordByDigest, find_setSlot same, found, Option.map_some]
  rw [setSlot_slot, if_pos inArray]

/-- A record begun for a digest that was not found is the one that is found. -/
theorem find_alloc (full : digest.isNullOrEmpty = false) (room : table.len < tcManagerRecordMaxCount)
    (absent : manifestRecordFindByDigest table digest = none) (key : stored.manifestDigest = digest) :
    manifestRecordFindByDigest (table.alloc.setSlot table.len stored) digest = some table.len := by
  have before : ∀ other < table.len, (table.alloc.setSlot table.len stored).slot other = table.slot other := by
    intro other bound
    rw [setSlot_slot, if_neg (by omega)]
    rfl
  have written : (table.alloc.setSlot table.len stored).slot table.len = stored := by
    rw [setSlot_slot, if_pos ⟨rfl, room⟩]
  simp only [manifestRecordFindByDigest, full, Bool.false_eq_true, if_false, List.find?_eq_none,
    List.mem_range] at absent
  have notBefore : (List.range table.len).find? (fun other =>
      digestMatches digest ((table.alloc.setSlot table.len stored).slot other)) = none := by
    rw [List.find?_eq_none]
    intro other member
    rw [before other (List.mem_range.mp member)]
    exact absent other (List.mem_range.mp member)
  have matching : digestMatches digest stored = true := (digestMatches_iff full).mpr key
  have length : (table.alloc.setSlot table.len stored).len = table.len + 1 := rfl
  simp only [manifestRecordFindByDigest, full, Bool.false_eq_true, if_false, length]
  rw [List.range_succ, List.find?_append, notBefore, Option.none_or, List.find?_singleton, written, matching,
    if_pos rfl]

/-! ## What is written -/

/-- Where `suit_generate_sha256` succeeds, it has computed SHA-256. -/
def Sha256Correct (csuit : Libcsuit) : Prop :=
  ∀ data hash, (csuit.suitGenerateSha256 data hash).1 = .success →
    (csuit.suitGenerateSha256 data hash).2 = csuit.sha256 data

/-- The record has what the arguments say it is to have.  A name is promised where one is decoded, and a
hash where there are bytes and hashing them succeeds. -/
def Applied (csuit : Libcsuit) (args : SuitStoreArgs) (record : ManifestRecord) : Prop :=
  if args.isManifestItself then
    record.manifestSequenceNumber = args.manifestSequenceNumber ∧
      record.manifestBin.data = args.srcBuf.data ∧
      ((decodedName csuit args.dst).1 = true → record.manifestName = (decodedName csuit args.dst).2)
  else
    record.wappBin.data = args.srcBuf.data ∧
      ((decodedName csuit args.dst).1 = true → record.wappName = (decodedName csuit args.dst).2) ∧
      (args.srcBuf.isNullOrEmpty = false →
        (∀ hash, (csuit.suitGenerateSha256 args.srcBuf.data hash).1 = .success) →
        record.wappHash = csuit.sha256 args.srcBuf.data)

theorem replaceBin_data {old source : Buffer} {malloc : Bool} (copied : (replaceBin old source malloc).1 = true) :
    (replaceBin old source malloc).2.data = source.data := by
  revert copied
  cases source with
  | null length => cases old <;> simp [replaceBin]
  | bytes data =>
    cases data with
    | nil => cases old <;> simp [replaceBin]
    | cons byte rest => cases malloc <;> simp [replaceBin]

theorem storeFields_applied (correct : Sha256Correct csuit) (record : ManifestRecord)
    (success : (storeFields csuit args alloc record).1 = 0) :
    Applied csuit args (storeFields csuit args alloc record).2 := by
  cases kind : args.isManifestItself with
  | true =>
    simp only [storeFields, storeManifest, kind, if_true] at success ⊢
    rw [Applied, if_pos kind]
    have copied : (replaceBin record.manifestBin args.srcBuf alloc.bin).1 = true := by
      by_contra fails
      simp [fails] at success
    refine ⟨rfl, replaceBin_data copied, ?_⟩
    intro decodes
    simp only [setIds_of_decodes decodes]
  | false =>
    simp only [storeFields, storePayload, kind, Bool.false_eq_true, if_false] at success ⊢
    rw [Applied, if_neg (by simp [kind])]
    have copied : (replaceBin record.wappBin args.srcBuf alloc.bin).1 = true := by
      by_contra fails
      simp [fails] at success
    refine ⟨replaceBin_data copied, ?_, ?_⟩
    · intro decodes
      simp only [setIds_of_decodes decodes]
    · intro full hashes
      simp only [copied, full, Bool.not_false, Bool.and_true, if_true]
      exact correct _ _ (hashes record.wappHash)

theorem storeAt_applied (correct : Sha256Correct csuit)
    (found : manifestRecordFindByDigest table args.manifestDigest = some index)
    (success : (storeAt csuit args alloc table index).1 = 0) :
    ∃ record, tcManagerFindRecordByDigest (storeAt csuit args alloc table index).2 args.manifestDigest =
      some record ∧ record.manifestDigest = args.manifestDigest ∧ Applied csuit args record := by
  have key := (findByDigest_some found).2.2
  have kept : (storeFields csuit args alloc (table.slot index)).2.manifestDigest =
      (table.slot index).manifestDigest := storeFields_manifestDigest args alloc _
  exact ⟨_, findRecord_setSlot found kept, kept.trans key, storeFields_applied correct _ success⟩

theorem storeNew_applied (correct : Sha256Correct csuit) (room : table.len < tcManagerRecordMaxCount)
    (absent : manifestRecordFindByDigest table args.manifestDigest = none)
    (success : (storeNew csuit args alloc table.alloc table.len).1 = 0) :
    ∃ record, tcManagerFindRecordByDigest (storeNew csuit args alloc table.alloc table.len).2
        args.manifestDigest = some record ∧
      record.manifestDigest = args.manifestDigest ∧ Applied csuit args record := by
  simp only [storeNew] at success ⊢
  cases full : args.manifestDigest.isNullOrEmpty with
  | true => simp [full] at success
  | false =>
    cases digestCopied : alloc.digest with
    | false => simp [full, digestCopied] at success
    | true =>
      simp only [full, digestCopied, Bool.false_eq_true, Bool.not_true, if_false] at success ⊢
      obtain ⟨shape, _⟩ := Buffer.isNullOrEmpty_eq_false.mp full
      -- the record has the digest before its fields are written
      generalize begun : { table.alloc.slot table.len with
        manifestDigest := Buffer.bytes args.manifestDigest.data } = fresh at success ⊢
      have key : fresh.manifestDigest = args.manifestDigest := by rw [← begun, shape, Buffer.data_bytes]
      exact storeAt_applied correct (find_alloc full room absent key) success

/-- A store call that returns 0 has applied its arguments to the record of the digest. -/
theorem store_applied (correct : Sha256Correct csuit)
    (success : (tcManagerStoreRecordFromStoreArgs csuit (some args) alloc table).1 = 0) :
    ∃ record, tcManagerFindRecordByDigest
        (tcManagerStoreRecordFromStoreArgs csuit (some args) alloc table).2 args.manifestDigest = some record ∧
      record.manifestDigest = args.manifestDigest ∧ Applied csuit args record := by
  simp only [tcManagerStoreRecordFromStoreArgs] at success ⊢
  split at success
  · cases success
  next isStore =>
  rw [if_neg isStore]
  cases found : manifestRecordFindByDigest table args.manifestDigest with
  | some index =>
    simp only [found] at success
    exact storeAt_applied correct found success
  | none =>
    simp only [found, manifestRecordsAlloc] at success ⊢
    split at success
    · cases success
    next index allocated taken =>
    split at taken
    · cases taken
    next notFull =>
    obtain ⟨rfl, rfl⟩ := Prod.mk.inj (Option.some.inj taken)
    exact storeNew_applied correct (Nat.not_le.mp notFull) found success

/-- A store callback that reports success was given another operation than a store and did nothing, or it
has applied its arguments to the record of the manifest digest. -/
theorem storeCallback_applied (csuit : Libcsuit) (correct : Sha256Correct csuit) (args : SuitStoreArgs)
    (alloc : StoreAlloc) (table : RecordTable)
    (success : (wrapSuitStoreCallback csuit args alloc table).1 = .success) :
    (args.operation ≠ .store ∧ (wrapSuitStoreCallback csuit args alloc table).2 = table) ∨
    ∃ record, tcManagerFindRecordByDigest (wrapSuitStoreCallback csuit args alloc table).2
        args.manifestDigest = some record ∧
      record.manifestDigest = args.manifestDigest ∧ Applied csuit args record := by
  simp only [wrapSuitStoreCallback] at success ⊢
  by_cases isStore : args.operation = .store
  · rw [if_pos isStore] at success ⊢
    have returned : (tcManagerStoreRecordFromStoreArgs csuit (some args) alloc table).1 = 0 := by
      by_contra fails
      simp [fails] at success
    exact .inr (store_applied correct returned)
  · rw [if_neg isStore]
    exact .inl ⟨isStore, rfl⟩

/-- The reference computes the SHA-256 it is given. -/
theorem reference_sha256Correct (sha256 : Bytes → Sha256Hash) : Sha256Correct (reference sha256) :=
  fun _ _ _ => rfl

/-- A copy operation is reported as successful, and there is no record. -/
theorem storeCallback_passesCopy :
    (wrapSuitStoreCallback smallCsuit { payloadStore [1] 1 [97] wasmVersion1 with operation := .other 1 }
      ⟨true, true⟩ SlotTable.empty).1 = .success ∧
    tcManagerFindRecordByDigest
      (wrapSuitStoreCallback smallCsuit { payloadStore [1] 1 [97] wasmVersion1 with operation := .other 1 }
        ⟨true, true⟩ SlotTable.empty).2 (.bytes [1]) = none := by
  decide +kernel

theorem storeCallback_appliesPayload :
    ∃ record, tcManagerFindRecordByDigest
        (wrapSuitStoreCallback smallCsuit (payloadStore [1] 1 [97] wasmVersion1) ⟨true, true⟩
          SlotTable.empty).2 (.bytes [1]) = some record ∧
      record.manifestDigest = .bytes [1] ∧ Applied smallCsuit (payloadStore [1] 1 [97] wasmVersion1) record := by
  cases storeCallback_applied smallCsuit (reference_sha256Correct smallSha256)
      (payloadStore [1] 1 [97] wasmVersion1) ⟨true, true⟩ SlotTable.empty (by decide +kernel) with
  | inl otherOperation => exact absurd rfl otherOperation.1
  | inr applied => exact applied

end Taws.Suit
