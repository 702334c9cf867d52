import Taws.TcManager.Records

/-!
# Downgrades

A record is promised once it has been finalised: from then on, looking its app name up should give a
record with at least its sequence number.  Lookup returns the first record of the name, finalising
compares with one other record of the name only, and records of unfinished updates stay in the table.

* `Processing` — the store callbacks of one manifest, finalised or not.
* `SafeProcessing` — no record older than a promise gets in front of its name or is left with it.
* `Kept`, `Bounded` — how promises are kept within and between processings.
* `safeRun_noDowngrade` — runs of safe processings keep every promise, at every point.
-/

namespace Taws.TcManager

open scoped List
open SlotTable

/-- The store callbacks of one manifest, and whether its record is finalised afterwards. -/
structure Processing where
  digest : Buffer
  stores : List (SuitStoreArgs × StoreAlloc)
  finalises : Bool

namespace Processing

def storeCalls (processing : Processing) : List TcCall :=
  processing.stores.map fun store => .store (some store.1) store.2

def calls (processing : Processing) : List TcCall :=
  processing.storeCalls ++ if processing.finalises then [.checkAndUpdate processing.digest] else []

/-- libcsuit hands every callback the digest of the manifest that is processed. -/
def OwnDigest (processing : Processing) : Prop :=
  ∀ store ∈ processing.stores, store.1.manifestDigest = processing.digest

end Processing

def storesOf (run : List Processing) : List SuitStoreArgs :=
  run.flatMap fun processing => processing.stores.map Prod.fst

/-- Store callbacks with one digest carry one sequence number and one component identifier for the
manifest and one for the payload. -/
def Consistent (stores : List SuitStoreArgs) : Prop :=
  ∀ first ∈ stores, ∀ second ∈ stores, first.manifestDigest = second.manifestDigest →
    first.manifestSequenceNumber = second.manifestSequenceNumber ∧
      (first.isManifestItself = second.isManifestItself → first.dst = second.dst)

/-- Once a record has been finalised, looking up its app name gives, at that point and at every later
one, a record with at least its sequence number. -/
def NoDowngrade (csuit : Libcsuit) (calls : List TcCall) : Prop :=
  ∀ before digest later rest record, calls = before ++ .checkAndUpdate digest :: later ++ rest →
    tcManagerFindRecordByDigest (tcRun csuit SlotTable.empty before) digest = some record →
    (tcManagerCheckAndUpdateRecord digest (tcRun csuit SlotTable.empty before)).1 = 0 →
    ∃ found, tcManagerFindRecordByWappname
        (tcRun csuit SlotTable.empty (before ++ .checkAndUpdate digest :: later)) (some record.wappName) =
          some found ∧
      record.manifestSequenceNumber ≤ found.manifestSequenceNumber

/-! ## Promises -/

variable (csuit : Libcsuit)

abbrev Promise := CString × UInt64

/-- What a call promises: the app name and the sequence number of the record it has finalised. -/
def promise (table : RecordTable) : TcCall → List Promise
  | .checkAndUpdate digest =>
    match tcManagerFindRecordByDigest table digest with
    | none => []
    | some record =>
      if (tcManagerCheckAndUpdateRecord digest table).1 = 0 then
        [(record.wappName, record.manifestSequenceNumber)]
      else []
  | _ => []

def promiseMachine : Machine RecordTable TcCall Promise where
  step table call := ((tcStep csuit table call).2, promise table call)

def promises (table : RecordTable) (calls : List TcCall) : List Promise :=
  ((promiseMachine csuit).run table calls).2

def Honours (table : RecordTable) (promised : List Promise) : Prop :=
  ∀ promise ∈ promised, ∃ found, tcManagerFindRecordByWappname table (some promise.1) = some found ∧
    promise.2 ≤ found.manifestSequenceNumber

variable {csuit} {table : RecordTable} {promised : List Promise} {stores : List SuitStoreArgs}
  {digest : Buffer} {records others front back : List ManifestRecord}
  {record written : ManifestRecord} {args : SuitStoreArgs} {alloc : StoreAlloc}

theorem promiseMachine_run (table : RecordTable) (calls : List TcCall) :
    ((promiseMachine csuit).run table calls).1 = tcRun csuit table calls := by
  have simulates : ∀ table call, id ((promiseMachine csuit).step table call).1 =
      ((tcMachine csuit).step (id table) call).1 := fun _ _ => rfl
  exact Machine.run_simulates simulates table calls

theorem tcRun_append (table : RecordTable) (first second : List TcCall) :
    tcRun csuit table (first ++ second) = tcRun csuit (tcRun csuit table first) second := by
  simp [tcRun, Machine.run_append]

theorem promises_append (table : RecordTable) (first second : List TcCall) :
    promises csuit table (first ++ second) =
      promises csuit table first ++ promises csuit (tcRun csuit table first) second := by
  simp [promises, Machine.run_append, promiseMachine_run]

theorem promises_single (table : RecordTable) (call : TcCall) :
    promises csuit table [call] = promise table call := List.append_nil _

/-- Honouring every promise at every point is all that is asked for. -/
theorem noDowngrade_of_honours {calls : List TcCall}
    (honours : ∀ front, front <+: calls →
      Honours (tcRun csuit SlotTable.empty front) (promises csuit SlotTable.empty front)) :
    NoDowngrade csuit calls := by
  intro before digest later rest record split found success
  have promised : (record.wappName, record.manifestSequenceNumber) ∈
      promises csuit SlotTable.empty (before ++ .checkAndUpdate digest :: later) := by
    rw [promises_append, List.mem_append]
    refine .inr ?_
    change _ ∈ promise (tcRun csuit SlotTable.empty before) (.checkAndUpdate digest) ++ _
    simp [promise, found, success]
  exact honours _ ⟨rest, split.symm⟩ _ promised

/-! ## Safe processings -/

section Safe

variable (csuit : Libcsuit)

def storedName (args : SuitStoreArgs) : CString := (decodedName csuit args.dst).2

/-- The call gives its app name to a record that had none, is older than a promise of the name, and has
no record of the name in front of it. -/
def NamesOlder (promised : List Promise) (table : RecordTable) (args : SuitStoreArgs) : Prop :=
  args.operation = .store ∧ args.isManifestItself = false ∧
    ∃ promise ∈ promised, promise.1 = storedName csuit args ∧
      ∃ index ∈ manifestRecordFindByDigest table args.manifestDigest,
        (table.slot index).wappName = [] ∧ (table.slot index).manifestSequenceNumber < promise.2 ∧
          ∀ earlier < index, (table.slot earlier).wappName ≠ promise.1

def NamesNoOlder (promised : List Promise) (table : RecordTable) : TcCall → Prop
  | .store (some args) _ => ¬ NamesOlder csuit promised table args
  | _ => True

/-- The record of the digest is not older than a promise of its name. -/
def LeavesNoOlder (promised : List Promise) (digest : Buffer) (table : RecordTable) : Prop :=
  ∀ record ∈ tcManagerFindRecordByDigest table digest, ∀ promise ∈ promised,
    promise.1 = record.wappName → promise.2 ≤ record.manifestSequenceNumber

/-- Only the record that a complete record of the digest is compared with may be an older one of its
name. -/
def ComparedWithOlder (digest : Buffer) (table : RecordTable) : Prop :=
  ∀ record ∈ tcManagerFindRecordByDigest table digest, manifestRecordIsComplete record = true →
    ∀ other ∈ table.active, other.manifestDigest ≠ digest → other.wappName = record.wappName →
      other.manifestSequenceNumber < record.manifestSequenceNumber → comparedTo table digest = some other

/-- An incomplete record of the digest is not the only one of a name that something was promised for. -/
def NotOnlyOfName (promised : List Promise) (digest : Buffer) (table : RecordTable) : Prop :=
  ∀ record ∈ tcManagerFindRecordByDigest table digest, manifestRecordIsComplete record = false →
    ∀ promise ∈ promised, promise.1 = record.wappName →
      ∃ other ∈ table.active, other.manifestDigest ≠ digest ∧ other.wappName = record.wappName

/-- The state is the table and what has been promised so far. -/
structure SafeProcessing (state : RecordTable × List Promise) (processing : Processing) : Prop where
  names : (tcMachine csuit).Meets (NamesNoOlder csuit state.2) state.1 processing.storeCalls
  leaves : processing.finalises = false →
    LeavesNoOlder state.2 processing.digest (tcRun csuit state.1 processing.storeCalls)
  older : processing.finalises = true →
    ComparedWithOlder processing.digest (tcRun csuit state.1 processing.storeCalls)
  removed : processing.finalises = true →
    NotOnlyOfName state.2 processing.digest (tcRun csuit state.1 processing.storeCalls)

/-- The table and the promises as a machine whose actions are the processings. -/
def processingMachine : Machine (RecordTable × List Promise) Processing Int where
  step state processing :=
    ((((tcMachine csuit).run state.1 processing.calls).1, state.2 ++ promises csuit state.1 processing.calls),
      ((tcMachine csuit).run state.1 processing.calls).2)

end Safe

/-! ## What a store callback does to a record -/

/-- Name and sequence number are unset or those of a store callback of the run. -/
structure Stable (csuit : Libcsuit) (stores : List SuitStoreArgs) (record : ManifestRecord) : Prop where
  name : record.wappName = [] ∨ ∃ args ∈ stores, args.manifestDigest = record.manifestDigest ∧
    args.isManifestItself = false ∧ record.wappName = storedName csuit args
  sequenceNumber : record.manifestSequenceNumber = 0 ∨ ∃ args ∈ stores,
    args.manifestDigest = record.manifestDigest ∧ record.manifestSequenceNumber = args.manifestSequenceNumber

theorem storeFields_wappName (consistent : Consistent stores) (member : args ∈ stores)
    (stable : Stable csuit stores record) (key : record.manifestDigest = args.manifestDigest)
    (alloc : StoreAlloc) :
    (storeFields csuit args alloc record).2.wappName = record.wappName ∨
      record.wappName = [] ∧ args.isManifestItself = false ∧
        (storeFields csuit args alloc record).2.wappName = storedName csuit args := by
  cases kind : args.isManifestItself with
  | true => exact .inl (by simp [storeFields, kind, storeManifest])
  | false =>
    have written : (storeFields csuit args alloc record).2.wappName =
        (manifestRecordSetIdsFromComponentId csuit args.dst record.wappName csuit.suitMaxNameLength).2 := by
      simp [storeFields, kind, storePayload]
    rw [written]
    cases setIds_name csuit args.dst record.wappName with
    | inl same => exact .inl same
    | inr decoded =>
      cases stable.name with
      | inl unnamed => exact .inr ⟨unnamed, rfl, decoded⟩
      | inr stored =>
        -- the name came from the same component identifier, so it is decoded to the same name
        obtain ⟨earlier, earlierMember, earlierKey, earlierKind, named⟩ := stored
        have sameDst := (consistent earlier earlierMember args member (earlierKey.trans key)).2
          (earlierKind.trans kind.symm)
        left
        rw [decoded, named, storedName, sameDst]

theorem storeFields_sequenceNumber (csuit : Libcsuit) (args : SuitStoreArgs) (alloc : StoreAlloc)
    (record : ManifestRecord) :
    (storeFields csuit args alloc record).2.manifestSequenceNumber = record.manifestSequenceNumber ∨
      (storeFields csuit args alloc record).2.manifestSequenceNumber = args.manifestSequenceNumber := by
  cases kind : args.isManifestItself with
  | true => exact .inr (by simp [storeFields, kind, storeManifest])
  | false => exact .inl (by simp [storeFields, kind, storePayload])

theorem sequenceNumber_le_storeFields (consistent : Consistent stores) (member : args ∈ stores)
    (stable : Stable csuit stores record) (key : record.manifestDigest = args.manifestDigest)
    (alloc : StoreAlloc) :
    record.manifestSequenceNumber ≤ (storeFields csuit args alloc record).2.manifestSequenceNumber := by
  cases storeFields_sequenceNumber csuit args alloc record with
  | inl same =>
    rw [same]
    exact UInt64.le_refl _
  | inr written =>
    rw [written]
    cases stable.sequenceNumber with
    | inl unset =>
      rw [unset]
      exact UInt64.le_iff_toNat_le.mpr (Nat.zero_le _)
    | inr stored =>
      obtain ⟨earlier, earlierMember, earlierKey, same⟩ := stored
      rw [same, (consistent earlier earlierMember args member (earlierKey.trans key)).1]
      exact UInt64.le_refl _

theorem storeFields_stable (consistent : Consistent stores) (member : args ∈ stores)
    (stable : Stable csuit stores record) (key : record.manifestDigest = args.manifestDigest)
    (alloc : StoreAlloc) : Stable csuit stores (storeFields csuit args alloc record).2 where
  name := by
    rw [storeFields_manifestDigest]
    cases storeFields_wappName consistent member stable key alloc with
    | inl same =>
      rw [same]
      exact stable.name
    | inr renamed => exact .inr ⟨args, member, key.symm, renamed.2.1, renamed.2.2⟩
  sequenceNumber := by
    rw [storeFields_manifestDigest]
    cases storeFields_sequenceNumber csuit args alloc record with
    | inl same =>
      rw [same]
      exact stable.sequenceNumber
    | inr written => exact .inr ⟨args, member, key.symm, written⟩

theorem freshRecord_stable (digest : Buffer) : Stable csuit stores (freshRecord digest) :=
  ⟨.inl rfl, .inl rfl⟩

/-! ## Keeping promises -/

/-- While the manifest of the digest is processed: every promise is kept by the first record of its name,
and by each record of the name but the one of the digest. -/
def Kept (promised : List Promise) (digest : Buffer) (records : List ManifestRecord) : Prop :=
  ∀ promise ∈ promised, promise.1 ≠ [] ∧
    (∃ first, records.find? (fun record => record.wappName == promise.1) = some first ∧
      promise.2 ≤ first.manifestSequenceNumber) ∧
    ∀ record ∈ records, record.wappName = promise.1 → record.manifestDigest ≠ digest →
      promise.2 ≤ record.manifestSequenceNumber

/-- Every promise is kept by each record of its name, and there is one. -/
def Bounded (promised : List Promise) (records : List ManifestRecord) : Prop :=
  ∀ promise ∈ promised, promise.1 ≠ [] ∧ (∃ record ∈ records, record.wappName = promise.1) ∧
    ∀ record ∈ records, record.wappName = promise.1 → promise.2 ≤ record.manifestSequenceNumber

theorem Kept.honours (kept : Kept promised digest table.active) (clean : table.Clean) :
    Honours table promised := by
  intro promise member
  obtain ⟨named, first, _⟩ := kept promise member
  rw [findRecordByWappname_eq clean named]
  exact first

theorem Kept.exists (kept : Kept promised digest records) {promise : Promise} (member : promise ∈ promised) :
    ∃ record ∈ records, record.wappName = promise.1 := by
  obtain ⟨_, ⟨first, found, _⟩, _⟩ := kept promise member
  exact ⟨first, List.mem_of_find?_eq_some found, by simpa using List.find?_some found⟩

theorem Bounded.perm (bounded : Bounded promised records) (same : records ~ others) : Bounded promised others := by
  intro promise member
  obtain ⟨named, ⟨record, recordMember, sameName⟩, bound⟩ := bounded promise member
  exact ⟨named, ⟨record, same.mem_iff.mp recordMember, sameName⟩,
    fun each eachMember => bound each (same.mem_iff.mpr eachMember)⟩

theorem Bounded.kept (bounded : Bounded promised records) (digest : Buffer) : Kept promised digest records := by
  intro promise member
  obtain ⟨named, ⟨record, recordMember, sameName⟩, bound⟩ := bounded promise member
  refine ⟨named, ?_, fun each eachMember eachName _ => bound each eachMember eachName⟩
  cases found : records.find? fun record => record.wappName == promise.1 with
  | none =>
    have noMatch := List.find?_eq_none.mp found record recordMember
    exact absurd (by simp [sameName]) noMatch
  | some first =>
    have firstName : first.wappName = promise.1 := by simpa using List.find?_some found
    exact ⟨first, rfl, bound first (List.mem_of_find?_eq_some found) firstName⟩

/-- Writing to the record of the digest keeps the promises unless the record takes a name that it is too
old for and becomes the first record of it. -/
theorem Kept.write (kept : Kept promised digest (front ++ record :: back)) (own : record.manifestDigest = digest)
    (key : written.manifestDigest = record.manifestDigest)
    (newer : record.manifestSequenceNumber ≤ written.manifestSequenceNumber)
    (named : written.wappName = record.wappName ∨ record.wappName = [] ∧
      ∀ promise ∈ promised, promise.1 = written.wappName → promise.2 ≤ written.manifestSequenceNumber ∨
        ∃ other ∈ front, other.wappName = promise.1) :
    Kept promised digest (front ++ written :: back) := by
  intro promise member
  obtain ⟨promiseNamed, ⟨first, found, bound⟩, others⟩ := kept promise member
  refine ⟨promiseNamed, ?_, ?_⟩
  · rw [List.find?_append] at found ⊢
    cases inFront : front.find? fun record => record.wappName == promise.1 with
    | some ahead =>
      rw [inFront] at found
      exact ⟨first, found, bound⟩
    | none =>
      -- the written record or one behind it is found
      rw [inFront] at found
      by_cases writtenName : written.wappName = promise.1
      · refine ⟨written, by simp [writtenName], ?_⟩
        cases named with
        | inl same =>
          -- it was found before it was written
          obtain rfl : record = first := by simpa [← same, writtenName] using found
          exact UInt64.le_trans bound newer
        | inr renamed =>
          cases renamed.2 promise member writtenName.symm with
          | inl noOlder => exact noOlder
          | inr ahead =>
            obtain ⟨other, otherMember, otherName⟩ := ahead
            exact absurd (by simp [otherName]) (List.find?_eq_none.mp inFront other otherMember)
      · have recordName : record.wappName ≠ promise.1 := by
          cases named with
          | inl same => rwa [← same]
          | inr renamed =>
            rw [renamed.1]
            exact promiseNamed.symm
        exact ⟨first, by simpa [writtenName, recordName] using found, bound⟩
  · intro each eachMember eachName different
    refine others each ?_ eachName different
    -- a record of another digest has not been written
    have notWritten : each ≠ written := by
      rintro rfl
      exact different (key.trans own)
    simp only [List.mem_append, List.mem_cons, notWritten, false_or] at eachMember ⊢
    exact eachMember.imp_right .inr

/-- A new record stands behind the others. -/
theorem Kept.append (kept : Kept promised digest records) (own : record.manifestDigest = digest) :
    Kept promised digest (records ++ [record]) := by
  intro promise member
  obtain ⟨named, ⟨first, found, bound⟩, others⟩ := kept promise member
  refine ⟨named, ⟨first, by simp [List.find?_append, found], bound⟩, ?_⟩
  intro each eachMember eachName different
  cases List.mem_append.mp eachMember with
  | inl before => exact others each before eachName different
  | inr new =>
    rw [List.mem_singleton.mp new] at different
    exact absurd own different

/-! ## Store callbacks -/

/-- The invariant while the manifest of the digest is processed. -/
structure Held (csuit : Libcsuit) (stores : List SuitStoreArgs) (promised : List Promise) (digest : Buffer)
    (table : RecordTable) : Prop extends WellKept table where
  stable : ∀ record ∈ table.active, Stable csuit stores record
  kept : Kept promised digest table.active

theorem Held.store (held : Held csuit stores promised digest table) (consistent : Consistent stores)
    (member : args ∈ stores) (own : args.manifestDigest = digest)
    (safe : NamesNoOlder csuit promised table (.store (some args) alloc)) :
    Held csuit stores promised digest (tcManagerStoreRecordFromStoreArgs csuit (some args) alloc table).2 := by
  refine ⟨store_wellKept csuit held.toWellKept (some args) alloc, ?_, ?_⟩
  · intro record recordMember
    cases store_mem held.toClean args alloc recordMember with
    | inl before => exact held.stable record before
    | inr stored =>
      obtain ⟨old, rfl, source, key⟩ := stored
      rw [storeFields_manifestDigest] at key
      cases source with
      | inl before => exact storeFields_stable consistent member (held.stable old before) key alloc
      | inr new =>
        subst new
        exact storeFields_stable consistent member (freshRecord_stable _) key alloc
  · rcases store_cases csuit held.toClean args alloc with
      ⟨same, _⟩ | ⟨index, isStore, found, same⟩ | ⟨begins, same⟩
    · rw [same]
      exact held.kept
    · obtain ⟨_, bound, key⟩ := findByDigest_some found
      have stable := held.stable _ (slot_mem_active held.toClean bound)
      have split := active_split held.toClean bound
      have kept := held.kept
      rw [split] at kept
      rw [same, storeAt_active, set_active held.toClean bound]
      refine kept.write (key.trans own) (storeFields_manifestDigest args alloc _)
        (sequenceNumber_le_storeFields consistent member stable key alloc) ?_
      cases storeFields_wappName consistent member stable key alloc with
      | inl sameName => exact .inl sameName
      | inr renamed =>
        obtain ⟨unnamed, payload, named⟩ := renamed
        refine .inr ⟨unnamed, ?_⟩
        intro promise promiseMember promiseName
        -- otherwise the callback puts an older record in front
        by_contra neither
        rw [not_or] at neither
        obtain ⟨tooOld, noneAhead⟩ := neither
        have older := UInt64.lt_of_le_of_lt (sequenceNumber_le_storeFields consistent member stable key alloc)
          (UInt64.not_le.mp tooOld)
        refine safe ⟨isStore, payload, promise, promiseMember, promiseName.trans named, index, found, unnamed,
          older, ?_⟩
        intro earlier isAhead sameName
        exact noneAhead ⟨_, slot_mem_take held.toClean isAhead bound, sameName⟩
    · rw [same, storeNew_active held.toClean begins]
      exact held.kept.append ((storeFields_manifestDigest args alloc _).trans own)

/-- The store callbacks of one manifest. -/
theorem Held.storeAll (consistent : Consistent stores) (callbacks : List (SuitStoreArgs × StoreAlloc))
    (known : ∀ store ∈ callbacks, store.1 ∈ stores) (own : ∀ store ∈ callbacks, store.1.manifestDigest = digest)
    (held : Held csuit stores promised digest table)
    (safe : (tcMachine csuit).Meets (NamesNoOlder csuit promised) table
      (callbacks.map fun store => .store (some store.1) store.2)) :
    Held csuit stores promised digest
      (tcRun csuit table (callbacks.map fun store => .store (some store.1) store.2)) := by
  induction callbacks generalizing table with
  | nil => exact held
  | cons store callbacks inductionHypothesis =>
    have first := held.store consistent (known store List.mem_cons_self) (own store List.mem_cons_self) safe.1
    exact inductionHypothesis (fun each member => known each (List.mem_cons_of_mem _ member))
      (fun each member => own each (List.mem_cons_of_mem _ member)) first safe.2

/-! ## The end of a processing -/

/-- The invariant between processings. -/
structure Between (csuit : Libcsuit) (stores : List SuitStoreArgs) (promised : List Promise)
    (table : RecordTable) : Prop extends WellKept table where
  stable : ∀ record ∈ table.active, Stable csuit stores record
  bounded : Bounded promised table.active

theorem Between.held (between : Between csuit stores promised table) (digest : Buffer) :
    Held csuit stores promised digest table :=
  ⟨between.toWellKept, between.stable, between.bounded.kept digest⟩

/-- A processing that is not finalised. -/
theorem Held.leave (held : Held csuit stores promised digest table)
    (leaves : LeavesNoOlder promised digest table) : Between csuit stores promised table := by
  refine ⟨held.toWellKept, held.stable, ?_⟩
  intro promise member
  obtain ⟨named, _, others⟩ := held.kept promise member
  refine ⟨named, held.kept.exists member, ?_⟩
  intro record recordMember sameName
  by_cases own : record.manifestDigest = digest
  · have found := held.findRecord (List.perm_cons_erase recordMember)
    rw [own] at found
    exact leaves record found promise member sameName.symm
  · exact others record recordMember sameName own

theorem Bounded.append {first second : List Promise} (left : Bounded first records)
    (right : Bounded second records) : Bounded (first ++ second) records := by
  intro promise member
  cases List.mem_append.mp member with
  | inl inFirst => exact left promise inFirst
  | inr inSecond => exact right promise inSecond

/-- The promises are kept without the record of the digest where it is not the only one of its name. -/
theorem Kept.drop (kept : Kept promised digest records) (split : records ~ record :: others)
    (apart : ∀ other ∈ others, other.manifestDigest ≠ digest)
    (another : ∀ promise ∈ promised, promise.1 = record.wappName →
      ∃ other ∈ others, other.wappName = record.wappName) :
    Bounded promised others := by
  intro promise member
  obtain ⟨named, _, bound⟩ := kept promise member
  obtain ⟨holder, holderMember, holderName⟩ := kept.exists member
  refine ⟨named, ?_, ?_⟩
  · cases List.mem_cons.mp (split.mem_iff.mp holderMember) with
    | inl same =>
      rw [same] at holderName
      obtain ⟨other, otherMember, otherName⟩ := another promise member holderName.symm
      exact ⟨other, otherMember, otherName.trans holderName⟩
    | inr inOthers => exact ⟨holder, inOthers, holderName⟩
  · intro other otherMember otherName
    exact bound other (split.mem_iff.mpr (List.mem_cons_of_mem _ otherMember)) otherName (apart other otherMember)

/-- Finalising a complete record keeps the promises made before. -/
theorem Finalised.bounded {compared : Option ManifestRecord} {after : RecordTable}
    (finalised : Finalised table compared record others after) (split : table.active ~ record :: others)
    (kept : Kept promised record.manifestDigest table.active)
    (apart : ∀ other ∈ others, other.manifestDigest ≠ record.manifestDigest) : Bounded promised after.active := by
  have bound : ∀ promise ∈ promised, ∀ other ∈ others, other.wappName = promise.1 →
      promise.2 ≤ other.manifestSequenceNumber := by
    intro promise member other otherMember otherName
    exact (kept promise member).2.2 other (split.mem_iff.mpr (List.mem_cons_of_mem _ otherMember)) otherName
      (apart other otherMember)
  cases finalised with
  | only unique =>
    intro promise member
    obtain ⟨named, ⟨first, found, firstBound⟩, _⟩ := kept promise member
    refine ⟨named, kept.exists member, ?_⟩
    intro each eachMember eachName
    cases List.mem_cons.mp (split.mem_iff.mp eachMember) with
    | inl isRecord =>
      -- the record is the only one of its name, so it is the one that is found
      have firstName : first.wappName = promise.1 := by simpa using List.find?_some found
      have firstMember := List.mem_of_find?_eq_some found
      cases List.mem_cons.mp (split.mem_iff.mp firstMember) with
      | inl same => rwa [isRecord, ← same]
      | inr inOthers =>
        rw [isRecord] at eachName
        exact absurd (firstName.trans eachName.symm) (unique first inOthers)
    | inr inOthers => exact bound promise member each inOthers eachName
  | @replaced _ older olderMember _ sameName notNewer active =>
    intro promise member
    obtain ⟨named, _, _⟩ := kept promise member
    obtain ⟨holder, holderMember, holderName⟩ := kept.exists member
    refine ⟨named, ?_, ?_⟩
    -- whoever held the name still does, unless it is the name of the two records
    · by_cases same : record.wappName = promise.1
      · exact ⟨record, active.mem_iff.mpr List.mem_cons_self, same⟩
      · have notRecord : holder ≠ record := by
          rintro rfl
          exact same holderName
        have notOlder : holder ≠ older := by
          rintro rfl
          exact same (sameName.symm.trans holderName)
        have inOthers := (List.mem_cons.mp (split.mem_iff.mp holderMember)).resolve_left notRecord
        have remains := (List.mem_erase_of_ne notOlder).mpr inOthers
        exact ⟨holder, active.mem_iff.mpr (List.mem_cons_of_mem _ remains), holderName⟩
    · intro each eachMember eachName
      cases List.mem_cons.mp (active.mem_iff.mp eachMember) with
      | inl isRecord =>
        rw [isRecord] at eachName ⊢
        exact UInt64.le_trans (bound promise member older olderMember (sameName.trans eachName)) notNewer
      | inr inRest => exact bound promise member each (List.mem_of_mem_erase inRest) eachName
  | @discarded _ newer newerMember _ sameName isNewer active =>
    have dropped : Bounded promised others :=
      kept.drop split apart fun promise member promiseName => ⟨newer, newerMember, sameName⟩
    exact dropped.perm active.symm

/-- It keeps its own promise if no older record of the name is left. -/
theorem Finalised.bounded_new {compared : Option ManifestRecord} {after : RecordTable}
    (finalised : Finalised table compared record others after) (split : table.active ~ record :: others)
    (named : record.wappName ≠ []) (nodup : others.Nodup)
    (older : ∀ other ∈ others, other.wappName = record.wappName →
      other.manifestSequenceNumber < record.manifestSequenceNumber → compared = some other) :
    Bounded [(record.wappName, record.manifestSequenceNumber)] after.active := by
  intro promise member
  obtain rfl := List.mem_singleton.mp member
  refine ⟨named, ?_⟩
  cases finalised with
  | only unique =>
    refine ⟨⟨record, split.mem_iff.mpr List.mem_cons_self, rfl⟩, ?_⟩
    intro each eachMember eachName
    cases List.mem_cons.mp (split.mem_iff.mp eachMember) with
    | inl isRecord =>
      rw [isRecord]
      exact UInt64.le_refl _
    | inr inOthers => exact absurd eachName (unique each inOthers)
  | @replaced _ replacedRecord replacedMember first sameName notNewer active =>
    refine ⟨⟨record, active.mem_iff.mpr List.mem_cons_self, rfl⟩, ?_⟩
    intro each eachMember eachName
    cases List.mem_cons.mp (active.mem_iff.mp eachMember) with
    | inl isRecord =>
      rw [isRecord]
      exact UInt64.le_refl _
    | inr inRest =>
      -- an older record that is left would have been the one that is compared
      obtain ⟨different, inOthers⟩ := nodup.mem_erase_iff.mp inRest
      by_contra isOlder
      have compares := older each inOthers eachName (UInt64.not_le.mp isOlder)
      rw [first] at compares
      exact different (Option.some.inj compares).symm
  | @discarded _ newer newerMember first sameName isNewer active =>
    refine ⟨⟨newer, active.mem_iff.mpr newerMember, sameName⟩, ?_⟩
    intro each eachMember eachName
    -- an older record would be the one that is compared, and that one is newer
    by_contra isOlder
    have compares := older each (active.mem_iff.mp eachMember) eachName (UInt64.not_le.mp isOlder)
    rw [first] at compares
    obtain rfl : newer = each := Option.some.inj compares
    exact isNewer (UInt64.le_of_lt (UInt64.not_le.mp isOlder))

theorem Held.check (held : Held csuit stores promised digest table) (older : ComparedWithOlder digest table)
    (removed : NotOnlyOfName promised digest table) :
    Between csuit stores (promised ++ promise table (.checkAndUpdate digest))
      (tcManagerCheckAndUpdateRecord digest table).2 := by
  refine ⟨checkAndUpdate_wellKept held.toWellKept digest, ?_, ?_⟩
  · intro record member
    exact held.stable record (checkAndUpdate_mem held.toClean digest member)
  · cases active_or_absent table digest with
    | inl absent =>
      have unchanged := checkAndUpdate_absent held.toClean (.inr absent)
      have notFound : tcManagerFindRecordByDigest table digest = none := by
        rw [tcManagerFindRecordByDigest, (findByDigest_eq_none_iff held.toClean).mpr (.inr absent)]
        rfl
      simp only [promise, notFound, List.append_nil, unchanged]
      intro promise member
      obtain ⟨named, _, bound⟩ := held.kept promise member
      exact ⟨named, held.kept.exists member, fun record recordMember sameName =>
        bound record recordMember sameName (absent record recordMember)⟩
    | inr present =>
      obtain ⟨record, others, rfl, split⟩ := present
      have found := held.findRecord split
      have apart : ∀ other ∈ others, other.manifestDigest ≠ record.manifestDigest :=
        fun other member => held.digest_ne split member
      cases isComplete : manifestRecordIsComplete record with
      | false =>
        -- nothing is promised, and the record is removed
        obtain ⟨failure, active⟩ := checkAndUpdate_incomplete held.toWellKept split isComplete
        have noPromise : promise table (.checkAndUpdate record.manifestDigest) = [] := by
          simp [promise, found, failure]
        rw [noPromise, List.append_nil]
        have dropped : Bounded promised others := by
          apply held.kept.drop split apart
          intro promise member promiseName
          obtain ⟨other, otherMember, different, otherName⟩ :=
            removed record found isComplete promise member promiseName
          have notRecord : other ≠ record := by
            rintro rfl
            exact different rfl
          exact ⟨other, (List.mem_cons.mp (split.mem_iff.mp otherMember)).resolve_left notRecord, otherName⟩
        exact dropped.perm active.symm
      | true =>
        obtain ⟨success, finalised⟩ := checkAndUpdate_complete held.toWellKept split isComplete
        have newPromise : promise table (.checkAndUpdate record.manifestDigest) =
            [(record.wappName, record.manifestSequenceNumber)] := by
          simp [promise, found, success]
        rw [newPromise]
        refine (finalised.bounded split held.kept apart).append (finalised.bounded_new split
          (isComplete_iff.mp isComplete).2.1 (held.keyed.perm split.symm).tail.nodup ?_)
        intro other member sameName isOlder
        exact older record found isComplete other (split.mem_iff.mpr (List.mem_cons_of_mem _ member))
          (apart other member) sameName isOlder

/-! ## Runs -/

theorem promises_stores (table : RecordTable) (callbacks : List (SuitStoreArgs × StoreAlloc)) :
    promises csuit table (callbacks.map fun store => .store (some store.1) store.2) = [] := by
  induction callbacks generalizing table with
  | nil => rfl
  | cons store callbacks inductionHypothesis => exact inductionHypothesis _

theorem prefix_append_cases {α : Type} {front first second : List α} (isPrefix : front <+: first ++ second) :
    front <+: first ∨ ∃ later, front = first ++ later ∧ later <+: second := by
  obtain ⟨rest, split⟩ := isPrefix
  rcases List.append_eq_append_iff.mp split with ⟨between, rfl, _⟩ | ⟨later, rfl, inSecond⟩
  · exact .inl ⟨between, rfl⟩
  · exact .inr ⟨later, rfl, rest, inSecond.symm⟩

/-- During a safe processing every promise is kept, and the invariant holds again after it. -/
theorem Between.process {processing : Processing} (between : Between csuit stores promised table)
    (consistent : Consistent stores)
    (known : ∀ store ∈ processing.stores, store.1 ∈ stores) (own : processing.OwnDigest)
    (safe : SafeProcessing csuit (table, promised) processing) :
    Between csuit stores (promised ++ promises csuit table processing.calls)
        (tcRun csuit table processing.calls) ∧
      ∀ front, front <+: processing.calls →
        Honours (tcRun csuit table front) (promised ++ promises csuit table front) := by
  -- the store callbacks, up to any point
  have stored : ∀ taken rest, processing.stores = taken ++ rest →
      Held csuit stores promised processing.digest
        (tcRun csuit table (taken.map fun store => .store (some store.1) store.2)) := by
    intro taken rest split
    apply (between.held processing.digest).storeAll consistent taken
    · intro store member
      exact known store (by rw [split]; exact List.mem_append_left _ member)
    · intro store member
      exact own store (by rw [split]; exact List.mem_append_left _ member)
    · have names := safe.names
      rw [Processing.storeCalls, split, List.map_append, Machine.meets_append] at names
      exact names.1
  have storedAll := stored processing.stores [] (by simp)
  have storedPrefix : ∀ front, front <+: processing.storeCalls →
      Honours (tcRun csuit table front) (promised ++ promises csuit table front) := by
    intro front isPrefix
    obtain ⟨taken, ⟨rest, split⟩, rfl⟩ := List.prefix_map_iff.mp isPrefix
    have held := stored taken rest split.symm
    rw [promises_stores, List.append_nil]
    exact held.kept.honours held.toClean
  have noPromise : promises csuit table processing.storeCalls = [] := promises_stores table _
  cases finalises : processing.finalises with
  | false =>
    have calls : processing.calls = processing.storeCalls := by simp [Processing.calls, finalises]
    rw [calls]
    refine ⟨?_, storedPrefix⟩
    rw [noPromise, List.append_nil]
    exact storedAll.leave (safe.leaves finalises)
  | true =>
    have calls : processing.calls = processing.storeCalls ++ [.checkAndUpdate processing.digest] := by
      simp [Processing.calls, finalises]
    have after : Between csuit stores (promised ++ promises csuit table processing.calls)
        (tcRun csuit table processing.calls) := by
      have checked := storedAll.check (safe.older finalises) (safe.removed finalises)
      rw [calls, promises_append, tcRun_append, noPromise, List.nil_append, promises_single]
      exact checked
    refine ⟨after, ?_⟩
    intro front isPrefix
    rw [calls] at isPrefix
    cases prefix_append_cases isPrefix with
    | inl inStores => exact storedPrefix front inStores
    | inr inCheck =>
      -- before the check, or after it
      obtain ⟨later, rfl, rest, split⟩ := inCheck
      rcases List.append_eq_singleton_iff.mp split with ⟨rfl, _⟩ | ⟨rfl, _⟩
      · rw [List.append_nil]
        exact storedPrefix _ (List.prefix_refl _)
      · rw [← calls]
        exact (after.bounded.kept processing.digest).honours after.toClean

theorem Between.run (between : Between csuit stores promised table) (consistent : Consistent stores)
    (run : List Processing) (known : ∀ args ∈ storesOf run, args ∈ stores)
    (own : ∀ processing ∈ run, processing.OwnDigest)
    (safe : (processingMachine csuit).Meets (SafeProcessing csuit) (table, promised) run) :
    ∀ front, front <+: run.flatMap Processing.calls →
      Honours (tcRun csuit table front) (promised ++ promises csuit table front) := by
  induction run generalizing table promised with
  | nil =>
    intro front isPrefix
    obtain rfl : front = [] := List.prefix_nil.mp isPrefix
    change Honours table (promised ++ [])
    rw [List.append_nil]
    exact (between.bounded.kept (.null 0)).honours between.toClean
  | cons processing run inductionHypothesis =>
    have knownFirst : ∀ store ∈ processing.stores, store.1 ∈ stores := by
      intro store member
      exact known store.1 (List.mem_append_left _ (List.mem_map_of_mem member))
    obtain ⟨after, during⟩ :=
      between.process consistent knownFirst (own processing List.mem_cons_self) safe.1
    intro front isPrefix
    rw [List.flatMap_cons] at isPrefix
    -- the calls end within the first processing, or go on with those of the rest
    cases prefix_append_cases isPrefix with
    | inl inFirst => exact during front inFirst
    | inr afterFirst =>
      obtain ⟨later, rfl, inRest⟩ := afterFirst
      have rest := inductionHypothesis after
        (fun args member => known args (List.mem_append_right _ member))
        (fun each member => own each (List.mem_cons_of_mem _ member)) safe.2 later inRest
      rw [tcRun_append, promises_append, ← List.append_assoc]
      exact rest

theorem empty_between : Between csuit stores [] SlotTable.empty where
  toWellKept := empty_wellKept
  stable := by simp
  bounded := by simp [Bounded]

/-- In a run of safe processings no app is downgraded, at any point of the run. -/
theorem safeRun_noDowngrade (csuit : Libcsuit) (run : List Processing)
    (own : ∀ processing ∈ run, processing.OwnDigest) (consistent : Consistent (storesOf run))
    (safe : (processingMachine csuit).Meets (SafeProcessing csuit) (SlotTable.empty, []) run) :
    NoDowngrade csuit (run.flatMap Processing.calls) := by
  apply noDowngrade_of_honours
  intro front isPrefix
  have honours := empty_between.run consistent run (fun _ member => member) own safe front isPrefix
  simpa using honours

instance (processing : Processing) : Decidable processing.OwnDigest :=
  inferInstanceAs (Decidable (∀ store ∈ processing.stores, _))

instance (stores : List SuitStoreArgs) : Decidable (Consistent stores) :=
  inferInstanceAs (Decidable (∀ first ∈ stores, ∀ second ∈ stores, _))

instance (csuit : Libcsuit) (promised : List Promise) (table : RecordTable) :
    DecidablePred (NamesNoOlder csuit promised table)
  | .store (some _) _ => inferInstanceAs (Decidable (¬ (_ ∧ _ ∧ _)))
  | .store none _ => .isTrue trivial
  | .checkAndUpdate _ => .isTrue trivial
  | .removeAll => .isTrue trivial

instance (promised : List Promise) (digest : Buffer) (table : RecordTable) :
    Decidable (LeavesNoOlder promised digest table) :=
  inferInstanceAs (Decidable (∀ record ∈ tcManagerFindRecordByDigest table digest, _))

instance (digest : Buffer) (table : RecordTable) : Decidable (ComparedWithOlder digest table) :=
  inferInstanceAs (Decidable (∀ record ∈ tcManagerFindRecordByDigest table digest, _))

instance (promised : List Promise) (digest : Buffer) (table : RecordTable) :
    Decidable (NotOnlyOfName promised digest table) :=
  inferInstanceAs (Decidable (∀ record ∈ tcManagerFindRecordByDigest table digest, _))

instance (csuit : Libcsuit) (state : RecordTable × List Promise) (processing : Processing) :
    Decidable (SafeProcessing csuit state processing) :=
  decidable_of_iff (_ ∧ _ ∧ _ ∧ _)
    ⟨fun all => ⟨all.1, all.2.1, all.2.2.1, all.2.2.2⟩,
      fun safe => ⟨safe.names, safe.leaves, safe.older, safe.removed⟩⟩

/-- A manifest with its payload, installed. -/
def installation (digest : Bytes) (sequenceNumber : UInt64) (payload : Bytes) : Processing where
  digest := .bytes digest
  stores :=
    [(manifestStore digest sequenceNumber [109] [160], ⟨true, true⟩),
      (payloadStore digest sequenceNumber [97] payload, ⟨true, true⟩)]
  finalises := true

/-- Version 2 fails after its payload was stored and is installed by a second update, before version 1
comes once more. -/
def retriedUpgrade : List Processing :=
  [installation [1] 1 wasmVersion1, { installation [2] 2 wasmVersion2 with finalises := false },
    installation [2] 2 wasmVersion2, installation [1] 1 wasmVersion1]

theorem retriedUpgrade_noDowngrade : NoDowngrade smallCsuit (retriedUpgrade.flatMap Processing.calls) :=
  safeRun_noDowngrade smallCsuit retriedUpgrade (by decide +kernel) (by decide +kernel) (by decide +kernel)

/-- The first update of version 1 fails after its manifest was stored, version 2 is installed, and the
second update of version 1 fails after its payload was stored. -/
def retriedVersion : List Processing :=
  [⟨.bytes [1], [(manifestStore [1] 1 [109] [160], ⟨true, true⟩)], false⟩,
    installation [2] 2 wasmVersion2,
    ⟨.bytes [1], [(payloadStore [1] 1 [97] wasmVersion1, ⟨true, true⟩)], false⟩]

theorem retriedVersion_downgrades :
    (∀ processing ∈ retriedVersion, processing.OwnDigest) ∧ Consistent (storesOf retriedVersion) ∧
      ¬ NoDowngrade smallCsuit (retriedVersion.flatMap Processing.calls) := by
  refine ⟨by decide +kernel, by decide +kernel, ?_⟩
  intro noDowngrade
  let before := (retriedVersion.take 1).flatMap Processing.calls ++ (installation [2] 2 wasmVersion2).storeCalls
  let later := (retriedVersion.drop 2).flatMap Processing.calls
  let record := (tcRun smallCsuit SlotTable.empty before).slot 1
  have version : record.manifestSequenceNumber = 2 := by decide +kernel
  have lookup : (tcManagerFindRecordByWappname
      (tcRun smallCsuit SlotTable.empty (before ++ .checkAndUpdate (.bytes [2]) :: later))
      (some record.wappName)).map ManifestRecord.manifestSequenceNumber = some 1 := by decide +kernel
  obtain ⟨found, isFound, bound⟩ := noDowngrade before (.bytes [2]) later [] record (by rfl)
    (by decide +kernel) (by decide +kernel)
  rw [isFound, Option.map_some, Option.some.injEq] at lookup
  rw [version, lookup] at bound
  exact absurd bound (by decide)

end Taws.TcManager
