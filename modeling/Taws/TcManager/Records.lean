import Taws.TcManager.Invariant

/-!
# The operations on the records as a collection

In a well-kept table the digest identifies a record, so what the operations do can be said without
slot indices: the active records up to order are the record with the digest and the others.

* `store_existing`, `store_new` — the two ways a store call takes effect.
* `checkAndUpdate_complete`, `checkAndUpdate_incomplete`, `checkAndUpdate_absent` — finalising.
-/

namespace Taws.TcManager

open scoped List
open SlotTable

variable {csuit : Libcsuit} {table after : RecordTable} {digest : Buffer} {record : ManifestRecord}
  {others : List ManifestRecord} {args : SuitStoreArgs} {alloc : StoreAlloc}

theorem WellKept.full (kept : WellKept table) (split : table.active ~ record :: others) :
    record.manifestDigest.isNullOrEmpty = false :=
  kept.keyed.full record (split.mem_iff.mpr List.mem_cons_self)

theorem WellKept.digest_ne (kept : WellKept table) (split : table.active ~ record :: others)
    {other : ManifestRecord} (member : other ∈ others) : other.manifestDigest ≠ record.manifestDigest :=
  (kept.keyed.perm split.symm).head_digest_ne member

/-- An active record is the one found under its digest. -/
theorem WellKept.find (kept : WellKept table) (split : table.active ~ record :: others) :
    ∃ index < table.len, manifestRecordFindByDigest table record.manifestDigest = some index ∧
      table.slot index = record ∧ table.others index ~ others := by
  have member : record ∈ table.active := split.mem_iff.mpr List.mem_cons_self
  cases found : manifestRecordFindByDigest table record.manifestDigest with
  | none =>
    have absent := (findByDigest_none kept.toClean (kept.full split)).mp found
    exact absurd rfl (absent record member)
  | some index =>
    obtain ⟨_, bound, key⟩ := findByDigest_some found
    have same : table.slot index = record :=
      kept.keyed.eq_of_digest (slot_mem_active kept.toClean bound) member key
    have byIndex := active_perm_cons_others kept.toClean bound
    rw [same] at byIndex
    exact ⟨index, bound, rfl, same, (byIndex.symm.trans split).cons_inv⟩

theorem WellKept.findRecord (kept : WellKept table) (split : table.active ~ record :: others) :
    tcManagerFindRecordByDigest table record.manifestDigest = some record := by
  obtain ⟨index, _, found, same, _⟩ := kept.find split
  simp [tcManagerFindRecordByDigest, found, same]

/-! ## Names -/

/-- What a component identifier is decoded to, and whether it is decoded. -/
def decodedName (csuit : Libcsuit) (componentId : Buffer) : Bool × CString :=
  manifestRecordSetIdsFromComponentId csuit componentId [] csuit.suitMaxNameLength

/-- A component identifier that is decoded gives its name whatever the buffer held before. -/
theorem setIds_of_decodes {componentId : Buffer} (decodes : (decodedName csuit componentId).1 = true)
    (filename : CString) :
    manifestRecordSetIdsFromComponentId csuit componentId filename csuit.suitMaxNameLength =
      decodedName csuit componentId := by
  revert decodes
  simp only [decodedName, manifestRecordSetIdsFromComponentId]
  split
  · simp
  · split
    · simp
    · split <;> simp

/-- Otherwise the buffer holds what it held before, or what the failed call has left there. -/
theorem setIds_name (csuit : Libcsuit) (componentId : Buffer) (filename : CString) :
    (manifestRecordSetIdsFromComponentId csuit componentId filename csuit.suitMaxNameLength).2 = filename ∨
      (manifestRecordSetIdsFromComponentId csuit componentId filename csuit.suitMaxNameLength).2 =
        (decodedName csuit componentId).2 := by
  simp only [decodedName, manifestRecordSetIdsFromComponentId]
  split
  · exact .inl rfl
  · split
    · exact .inl rfl
    · split
      · next leftover _ =>
        cases leftover with
        | none => exact .inl rfl
        | some _ => exact .inr rfl
      · exact .inr rfl

/-! ## Storing -/

theorem store_found (isStore : args.operation = .store) {index : Nat}
    (found : manifestRecordFindByDigest table args.manifestDigest = some index) :
    tcManagerStoreRecordFromStoreArgs csuit (some args) alloc table = storeAt csuit args alloc table index := by
  simp [tcManagerStoreRecordFromStoreArgs, isStore, found]

theorem store_begins (csuit : Libcsuit) (clean : table.Clean) (begins : BeginsRecord table args alloc) :
    tcManagerStoreRecordFromStoreArgs csuit (some args) alloc table =
      storeNew csuit args alloc table.alloc table.len := by
  rcases store_cases csuit clean args alloc with ⟨_, notBegins⟩ | ⟨index, _, found, _⟩ | ⟨_, same⟩
  · exact absurd begins notBegins
  · have absent := (findByDigest_none clean begins.full).mpr begins.absent
    rw [absent] at found
    cases found
  · exact same

/-- A store call for the digest of an active record writes into that record and touches no other. -/
theorem store_existing (csuit : Libcsuit) (kept : WellKept table) (split : table.active ~ record :: others)
    (key : record.manifestDigest = args.manifestDigest) (isStore : args.operation = .store)
    (alloc : StoreAlloc) :
    (tcManagerStoreRecordFromStoreArgs csuit (some args) alloc table).1 =
        (storeFields csuit args alloc record).1 ∧
      (tcManagerStoreRecordFromStoreArgs csuit (some args) alloc table).2.active ~
        (storeFields csuit args alloc record).2 :: others := by
  obtain ⟨index, bound, found, same, rest⟩ := kept.find split
  rw [key] at found
  rw [store_found isStore found]
  refine ⟨by simp [storeAt, same], ?_⟩
  have written : (table.setSlot index (storeFields csuit args alloc (table.slot index)).2).active ~
      (storeFields csuit args alloc (table.slot index)).2 :: table.others index :=
    setSlot_perm kept.toClean bound
  rw [same] at written
  simpa [storeAt, same] using written.trans (rest.cons _)

/-- A store call that begins a record appends it. -/
theorem store_new (csuit : Libcsuit) (clean : table.Clean) (begins : BeginsRecord table args alloc) :
    (tcManagerStoreRecordFromStoreArgs csuit (some args) alloc table).1 =
        (storeFields csuit args alloc (freshRecord args.manifestDigest)).1 ∧
      (tcManagerStoreRecordFromStoreArgs csuit (some args) alloc table).2.active =
        table.active ++ [(storeFields csuit args alloc (freshRecord args.manifestDigest)).2] := by
  rw [store_begins csuit clean begins]
  exact ⟨by rw [storeNew_eq clean begins], storeNew_active clean begins⟩

/-! ## Finalising -/

/-- The record that finalising the digest compares with the record of the digest. -/
def comparedTo (table : RecordTable) (digest : Buffer) : Option ManifestRecord :=
  (manifestRecordFindByDigest table digest).bind (comparedWith table)

theorem Finalised.congr {compared : Option ManifestRecord} {reordered : List ManifestRecord}
    (finalised : Finalised table compared record others after) (same : others ~ reordered) :
    Finalised table compared record reordered after := by
  cases finalised with
  | only unique => exact .only fun other member => unique other (same.mem_iff.mpr member)
  | replaced member first sameName notNewer active =>
    exact .replaced (same.mem_iff.mp member) first sameName notNewer (active.trans ((same.erase _).cons record))
  | discarded member first sameName isNewer active =>
    exact .discarded (same.mem_iff.mp member) first sameName isNewer (active.trans same)

theorem checkAndUpdate_complete (kept : WellKept table) (split : table.active ~ record :: others)
    (complete : manifestRecordIsComplete record = true) :
    (tcManagerCheckAndUpdateRecord record.manifestDigest table).1 = 0 ∧
      Finalised table (comparedTo table record.manifestDigest) record others
        (tcManagerCheckAndUpdateRecord record.manifestDigest table).2 := by
  obtain ⟨index, _, found, same, rest⟩ := kept.find split
  rcases checkAndUpdate_cases kept.toClean record.manifestDigest with
    ⟨absent, _⟩ | ⟨other, foundOther, ⟨incomplete, _, _⟩ | ⟨_, success, finalised⟩⟩
  · rw [found] at absent
    cases absent
  · rw [found] at foundOther
    cases foundOther
    rw [same, complete] at incomplete
    cases incomplete
  · rw [found] at foundOther
    cases foundOther
    have compared : comparedTo table record.manifestDigest = comparedWith table index := by
      rw [comparedTo, found, Option.bind_some]
    rw [same, ← compared] at finalised
    exact ⟨success, finalised.congr rest⟩

theorem checkAndUpdate_incomplete (kept : WellKept table) (split : table.active ~ record :: others)
    (incomplete : manifestRecordIsComplete record = false) :
    (tcManagerCheckAndUpdateRecord record.manifestDigest table).1 = -1 ∧
      (tcManagerCheckAndUpdateRecord record.manifestDigest table).2.active ~ others := by
  obtain ⟨index, _, found, same, rest⟩ := kept.find split
  rcases checkAndUpdate_cases kept.toClean record.manifestDigest with
    ⟨absent, _⟩ | ⟨other, foundOther, ⟨_, failure, active⟩ | ⟨complete, _, _⟩⟩
  · rw [found] at absent
    cases absent
  · rw [found] at foundOther
    cases foundOther
    exact ⟨failure, active.trans rest⟩
  · rw [found] at foundOther
    cases foundOther
    rw [same, incomplete] at complete
    cases complete

/-- The record of the digest is complete, and the record of its name that it is compared with is not newer. -/
def SurvivesCheck (table : RecordTable) (digest : Buffer) : Prop :=
  ∃ record ∈ table.active, record.manifestDigest = digest ∧ manifestRecordIsComplete record = true ∧
    ∀ other ∈ table.active, other.manifestDigest ≠ digest → other.wappName = record.wappName →
      comparedTo table digest = some other → other.manifestSequenceNumber ≤ record.manifestSequenceNumber

theorem checkAndUpdate_survives (kept : WellKept table) (before : record ∈ table.active)
    (member : record ∈ (tcManagerCheckAndUpdateRecord record.manifestDigest table).2.active) :
    SurvivesCheck table record.manifestDigest := by
  have split := List.perm_cons_erase before
  cases complete : manifestRecordIsComplete record with
  | false =>
    have removed := (checkAndUpdate_incomplete kept split complete).2.mem_iff.mp member
    exact absurd rfl (kept.digest_ne split removed)
  | true =>
    have finalised := (checkAndUpdate_complete kept split complete).2
    refine ⟨record, before, rfl, complete, ?_⟩
    intro other active otherDigest sameName compared
    have inOthers : other ∈ table.active.erase record :=
      (List.mem_erase_of_ne fun same => otherDigest (by rw [same])).mpr active
    generalize (tcManagerCheckAndUpdateRecord record.manifestDigest table).2 = after at finalised member
    cases finalised with
    | only unique => exact absurd sameName (unique other inOthers)
    | replaced _ first _ notNewer _ =>
      rw [first, Option.some.injEq] at compared
      rwa [← compared]
    | discarded _ _ _ _ remaining => exact absurd rfl (kept.digest_ne split (remaining.mem_iff.mp member))

theorem checkAndUpdate_absent (clean : table.Clean)
    (absent : digest.isNullOrEmpty = true ∨ ∀ record ∈ table.active, record.manifestDigest ≠ digest) :
    tcManagerCheckAndUpdateRecord digest table = (-1, table) := by
  have notFound := (findByDigest_eq_none_iff clean).mpr absent
  simp [tcManagerCheckAndUpdateRecord, notFound]

/-- The record found under a digest heads the active records. -/
theorem findRecord_split (clean : table.Clean)
    (found : tcManagerFindRecordByDigest table digest = some record) :
    record.manifestDigest = digest ∧ ∃ others, table.active ~ record :: others := by
  obtain ⟨index, position, rfl⟩ := Option.map_eq_some_iff.mp found
  obtain ⟨_, bound, key⟩ := findByDigest_some position
  exact ⟨key, _, active_perm_cons_others clean bound⟩

/-- Whether or not a record with the digest is active. -/
theorem active_or_absent (table : RecordTable) (digest : Buffer) :
    (∀ record ∈ table.active, record.manifestDigest ≠ digest) ∨
      ∃ record others, record.manifestDigest = digest ∧ table.active ~ record :: others := by
  by_cases absent : ∀ record ∈ table.active, record.manifestDigest ≠ digest
  · exact .inl absent
  · push Not at absent
    obtain ⟨record, member, key⟩ := absent
    exact .inr ⟨record, _, key, List.perm_cons_erase member⟩

/-- Storing, by whether a record has the digest: it is written, or one is begun or not. -/
theorem store_outcome (csuit : Libcsuit) (kept : WellKept table) (isStore : args.operation = .store)
    (alloc : StoreAlloc) :
    (∃ old others, old.manifestDigest = args.manifestDigest ∧ table.active ~ old :: others ∧
      (tcManagerStoreRecordFromStoreArgs csuit (some args) alloc table).2.active ~
        (storeFields csuit args alloc old).2 :: others) ∨
    ((∀ record ∈ table.active, record.manifestDigest ≠ args.manifestDigest) ∧
      ((tcManagerStoreRecordFromStoreArgs csuit (some args) alloc table).2 = table ∨
        BeginsRecord table args alloc ∧
          (tcManagerStoreRecordFromStoreArgs csuit (some args) alloc table).2.active =
            table.active ++ [(storeFields csuit args alloc (freshRecord args.manifestDigest)).2])) := by
  cases active_or_absent table args.manifestDigest with
  | inl absent =>
    refine .inr ⟨absent, ?_⟩
    rcases store_cases csuit kept.toClean args alloc with ⟨same, _⟩ | ⟨index, _, found, _⟩ | ⟨begins, _⟩
    · exact .inl (by rw [same])
    · obtain ⟨_, bound, key⟩ := findByDigest_some found
      exact absurd key (absent _ (slot_mem_active kept.toClean bound))
    · exact .inr ⟨begins, (store_new csuit kept.toClean begins).2⟩
  | inr present =>
    obtain ⟨old, others, key, split⟩ := present
    exact .inl ⟨old, others, key, split, (store_existing csuit kept split key isStore alloc).2⟩

end Taws.TcManager
