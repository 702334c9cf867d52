import Taws.Suit.Callbacks
import Taws.TcManager.Records

/-!
# What callbacks write

The store callbacks of one manifest carry its digest, so together they write to one record: to the one
that has the digest, or to one that they begin.  Which of them are written is decided by the table before
the first, and what the record holds afterwards by the callbacks alone.

* `writeCallbacks` — the callbacks as changes of one record.
* `runCallbacks_outcome` — the table after the callbacks.
* `PayloadLeft`, `runCallbacks_loadable_iff` — when they leave a payload that can be looked up.
-/

namespace Taws.Suit

open TcManager
open SlotTable
open scoped List

variable {csuit : Libcsuit} {state : SuitState} {table : RecordTable} {digest : Buffer} {record : ManifestRecord}
  {others : List ManifestRecord} {callback : SuitCallback} {callbacks : List SuitCallback}

/-! ## The changes of one record -/

def IsPayloadStore (args : SuitStoreArgs) : Prop := args.operation = .store ∧ args.isManifestItself = false

instance : DecidablePred IsPayloadStore := fun _ => inferInstanceAs (Decidable (_ ∧ _))

/-- What a callback makes of the record of its digest. -/
def writeCallback (csuit : Libcsuit) (record : ManifestRecord) : SuitCallback → ManifestRecord
  | .store args alloc => if args.operation = .store then (storeFields csuit args alloc record).2 else record
  | _ => record

def writeCallbacks (csuit : Libcsuit) (record : ManifestRecord) (callbacks : List SuitCallback) : ManifestRecord :=
  callbacks.foldl (writeCallback csuit) record

def payloadOf : SuitCallback → Option (SuitStoreArgs × StoreAlloc)
  | .store args alloc => if IsPayloadStore args then some (args, alloc) else none
  | _ => none

/-- The payloads that the callbacks store, oldest first. -/
def payloads (callbacks : List SuitCallback) : List (SuitStoreArgs × StoreAlloc) := callbacks.filterMap payloadOf

/-- The last payload is not empty and can be copied. -/
def CopiesPayload (callbacks : List SuitCallback) : Prop :=
  ∃ payload ∈ (payloads callbacks).getLast?, payload.1.srcBuf.isNullOrEmpty = false ∧ payload.2.bin = true

/-- The app name after the callbacks, of a record that had the given one. -/
def nameAfter (csuit : Libcsuit) (name : CString) (callbacks : List SuitCallback) : CString :=
  (payloads callbacks).foldl (fun name payload =>
    (manifestRecordSetIdsFromComponentId csuit payload.1.dst name csuit.suitMaxNameLength).2) name

/-- Looking the app name of the record up finds a payload to load. -/
def Loadable (record : ManifestRecord) : Prop :=
  record.wappName ≠ [] ∧ record.wappBin.isNullOrEmpty = false

@[simp] theorem writeCallbacks_cons (csuit : Libcsuit) (record : ManifestRecord) (callback : SuitCallback)
    (callbacks : List SuitCallback) :
    writeCallbacks csuit record (callback :: callbacks) =
      writeCallbacks csuit (writeCallback csuit record callback) callbacks := rfl

theorem writeCallback_manifestDigest (csuit : Libcsuit) (record : ManifestRecord) (callback : SuitCallback) :
    (writeCallback csuit record callback).manifestDigest = record.manifestDigest := by
  cases callback with
  | store args alloc =>
    simp only [writeCallback]
    split
    · exact storeFields_manifestDigest args alloc record
    · rfl
  | condition args ret => rfl
  | report suitReport malloc => rfl
  | invoke => rfl

theorem writeCallbacks_manifestDigest (csuit : Libcsuit) (record : ManifestRecord) (callbacks : List SuitCallback) :
    (writeCallbacks csuit record callbacks).manifestDigest = record.manifestDigest := by
  induction callbacks generalizing record with
  | nil => rfl
  | cons callback callbacks inductionHypothesis =>
    exact (inductionHypothesis _).trans (writeCallback_manifestDigest csuit record callback)

theorem writeCallback_payload {payload : SuitStoreArgs × StoreAlloc} (isPayload : payloadOf callback = some payload)
    (record : ManifestRecord) :
    (writeCallback csuit record callback).wappName =
        (manifestRecordSetIdsFromComponentId csuit payload.1.dst record.wappName csuit.suitMaxNameLength).2 ∧
      (writeCallback csuit record callback).wappBin =
        (replaceBin record.wappBin payload.1.srcBuf payload.2.bin).2 := by
  cases callback with
  | store args alloc =>
    simp only [payloadOf] at isPayload
    split at isPayload
    · next stores =>
      obtain rfl := Option.some.inj isPayload
      simp [writeCallback, stores.1, storeFields, stores.2, storePayload]
    · cases isPayload
  | condition args ret => cases isPayload
  | report suitReport malloc => cases isPayload
  | invoke => cases isPayload

/-- Only payloads change the name and the binary of an app. -/
theorem writeCallback_other (noPayload : payloadOf callback = none) (record : ManifestRecord) :
    (writeCallback csuit record callback).wappName = record.wappName ∧
      (writeCallback csuit record callback).wappBin = record.wappBin := by
  cases callback with
  | store args alloc =>
    by_cases isStore : args.operation = .store
    · cases kind : args.isManifestItself with
      | true => simp [writeCallback, isStore, storeFields, kind, storeManifest]
      | false => simp [payloadOf, IsPayloadStore, isStore, kind] at noPayload
    · simp [writeCallback, isStore]
  | condition args ret => exact ⟨rfl, rfl⟩
  | report suitReport malloc => exact ⟨rfl, rfl⟩
  | invoke => exact ⟨rfl, rfl⟩

theorem writeCallbacks_wappName (csuit : Libcsuit) (record : ManifestRecord) (callbacks : List SuitCallback) :
    (writeCallbacks csuit record callbacks).wappName = nameAfter csuit record.wappName callbacks := by
  induction callbacks generalizing record with
  | nil => rfl
  | cons callback callbacks inductionHypothesis =>
    have rest := inductionHypothesis (writeCallback csuit record callback)
    cases stores : payloadOf callback with
    | none =>
      rw [(writeCallback_other stores record).1] at rest
      simpa [nameAfter, payloads, stores] using rest
    | some payload =>
      rw [(writeCallback_payload stores record).1] at rest
      simpa [nameAfter, payloads, stores] using rest

theorem replaceBin_full_iff {old source : Buffer} {malloc : Bool} :
    (replaceBin old source malloc).2.isNullOrEmpty = false ↔ source.isNullOrEmpty = false ∧ malloc = true := by
  constructor
  · intro full
    obtain ⟨copied, filled, _⟩ := replaceBin_full full
    refine ⟨filled, ?_⟩
    cases malloc with
    | true => rfl
    | false => simp [replaceBin, filled] at copied
  · rintro ⟨filled, rfl⟩
    have data := (Buffer.isNullOrEmpty_eq_false.mp filled).2
    simp [replaceBin, filled, data]

/-- The binary after the callbacks is that of the last payload, or what was there if there is none. -/
theorem writeCallbacks_full (csuit : Libcsuit) (record : ManifestRecord) (callbacks : List SuitCallback) :
    (writeCallbacks csuit record callbacks).wappBin.isNullOrEmpty = false ↔
      (payloads callbacks = [] ∧ record.wappBin.isNullOrEmpty = false) ∨ CopiesPayload callbacks := by
  induction callbacks generalizing record with
  | nil => simp [writeCallbacks, payloads, CopiesPayload]
  | cons callback callbacks inductionHypothesis =>
    have rest := inductionHypothesis (writeCallback csuit record callback)
    cases stores : payloadOf callback with
    | none =>
      have same : payloads (callback :: callbacks) = payloads callbacks := by simp [payloads, stores]
      rw [(writeCallback_other stores record).2] at rest
      rw [CopiesPayload, same]
      exact rest
    | some payload =>
      have more : payloads (callback :: callbacks) = payload :: payloads callbacks := by simp [payloads, stores]
      rw [(writeCallback_payload stores record).2, replaceBin_full_iff] at rest
      refine rest.trans ?_
      rw [CopiesPayload, CopiesPayload, more, List.getLast?_cons]
      cases last : payloads callbacks with
      | nil => simp
      | cons first others =>
        obtain ⟨final, isFinal⟩ : ∃ final, (first :: others).getLast? = some final := ⟨_, List.getLast?_cons⟩
        simp [isFinal]

/-! ## The table after the callbacks -/

/-- Every store callback carries the digest. -/
def CallbacksOwn (digest : Buffer) (callbacks : List SuitCallback) : Prop :=
  ∀ args alloc, .store args alloc ∈ callbacks → args.manifestDigest = digest

/-- No record has the digest, and there is room for one. -/
structure CanBegin (table : RecordTable) (digest : Buffer) : Prop where
  full : digest.isNullOrEmpty = false
  absent : ∀ record ∈ table.active, record.manifestDigest ≠ digest
  room : table.len < tcManagerRecordMaxCount

/-- The callback begins a record if there is room for one. -/
def begins : SuitCallback → Bool
  | .store args alloc => args.operation = .store && alloc.digest
  | _ => false

/-- The callbacks from the first one on that begins a record. -/
def begun (callbacks : List SuitCallback) : List SuitCallback := callbacks.dropWhile fun callback => !begins callback

theorem CallbacksOwn.head (own : CallbacksOwn digest (callback :: callbacks)) : CallbacksOwn digest [callback] := by
  intro args alloc member
  apply own args alloc
  rw [List.mem_singleton.mp member]
  exact List.mem_cons_self

theorem CallbacksOwn.tail (own : CallbacksOwn digest (callback :: callbacks)) : CallbacksOwn digest callbacks :=
  fun args alloc member => own args alloc (List.mem_cons_of_mem _ member)

theorem runCallback_wellKept (csuit : Libcsuit) (kept : WellKept state.table) (callback : SuitCallback) :
    WellKept (runCallback csuit callback state).2.table := by
  cases callback with
  | store args alloc =>
    simp only [runCallback, wrapSuitStoreCallback]
    split
    · exact store_wellKept csuit kept (some args) alloc
    · exact kept
  | condition args ret => exact kept
  | report suitReport malloc => exact kept
  | invoke => exact kept

theorem runCallback_existing (csuit : Libcsuit) (kept : WellKept state.table)
    (own : CallbacksOwn record.manifestDigest [callback]) (split : state.table.active ~ record :: others) :
    (runCallback csuit callback state).2.table.active ~ writeCallback csuit record callback :: others := by
  cases callback with
  | store args alloc =>
    have key := own args alloc (List.mem_singleton.mpr rfl)
    by_cases isStore : args.operation = .store
    · simp only [runCallback, wrapSuitStoreCallback, writeCallback, if_pos isStore]
      exact (store_existing csuit kept split key.symm isStore alloc).2
    · simp only [runCallback, wrapSuitStoreCallback, writeCallback, if_neg isStore]
      exact split
  | condition args ret => exact split
  | report suitReport malloc => exact split
  | invoke => exact split

theorem runCallbacks_existing (csuit : Libcsuit) (kept : WellKept state.table)
    (own : CallbacksOwn record.manifestDigest callbacks) (split : state.table.active ~ record :: others) :
    (runCallbacks csuit callbacks state).2.table.active ~ writeCallbacks csuit record callbacks :: others := by
  induction callbacks generalizing state record with
  | nil => exact split
  | cons callback callbacks inductionHypothesis =>
    have first := runCallback_existing csuit kept own.head split
    have ownRest := own.tail
    rw [← writeCallback_manifestDigest csuit record callback] at ownRest
    exact inductionHypothesis (runCallback_wellKept csuit kept callback) ownRest first

/-- A callback for a digest without a record begins one or changes nothing. -/
theorem runCallback_absent (csuit : Libcsuit) (kept : WellKept state.table) (own : CallbacksOwn digest [callback])
    (absent : ∀ record ∈ state.table.active, record.manifestDigest ≠ digest) :
    (CanBegin state.table digest ∧ begins callback = true ∧ (runCallback csuit callback state).2.table.active =
      state.table.active ++ [writeCallback csuit (freshRecord digest) callback]) ∨
    (¬ (CanBegin state.table digest ∧ begins callback = true) ∧
      (runCallback csuit callback state).2.table = state.table) := by
  cases callback with
  | store args alloc =>
    have key : args.manifestDigest = digest := own args alloc (List.mem_singleton.mpr rfl)
    by_cases isStore : args.operation = .store
    · simp only [runCallback, wrapSuitStoreCallback, writeCallback, if_pos isStore]
      rcases store_cases csuit kept.toClean args alloc with ⟨same, refused⟩ | ⟨index, _, found, _⟩ | ⟨new, _⟩
      · refine .inr ⟨?_, by rw [same]⟩
        rintro ⟨canBegin, allocated⟩
        rw [← key] at canBegin
        simp only [begins, Bool.and_eq_true] at allocated
        exact refused ⟨isStore, canBegin.full, canBegin.absent, canBegin.room, allocated.2⟩
      · obtain ⟨_, bound, sameDigest⟩ := findByDigest_some found
        exact absurd (sameDigest.trans key) (absent _ (slot_mem_active kept.toClean bound))
      · have appended := (store_new csuit kept.toClean new).2
        rw [key] at appended
        refine .inl ⟨⟨key ▸ new.full, absent, new.room⟩, ?_, appended⟩
        simp [begins, isStore, new.allocated]
    · simp only [runCallback, wrapSuitStoreCallback, if_neg isStore]
      exact .inr ⟨by simp [begins, isStore], trivial⟩
  | condition args ret => exact .inr ⟨by simp [begins], rfl⟩
  | report suitReport malloc => exact .inr ⟨by simp [begins], rfl⟩
  | invoke => exact .inr ⟨by simp [begins], rfl⟩

theorem runCallbacks_absent (csuit : Libcsuit) (kept : WellKept state.table) (own : CallbacksOwn digest callbacks)
    (absent : ∀ record ∈ state.table.active, record.manifestDigest ≠ digest) :
    (CanBegin state.table digest ∧ (runCallbacks csuit callbacks state).2.table.active ~
      writeCallbacks csuit (freshRecord digest) (begun callbacks) :: state.table.active) ∨
    ((CanBegin state.table digest → begun callbacks = []) ∧
      (runCallbacks csuit callbacks state).2.table = state.table) := by
  induction callbacks generalizing state with
  | nil => exact .inr ⟨fun _ => rfl, rfl⟩
  | cons callback callbacks inductionHypothesis =>
    cases runCallback_absent csuit kept own.head absent with
    | inl new =>
      -- the record exists from here on, and the other callbacks write into it
      obtain ⟨canBegin, first, appended⟩ := new
      have split : (runCallback csuit callback state).2.table.active ~
          writeCallback csuit (freshRecord digest) callback :: state.table.active := by
        rw [appended]
        exact List.perm_append_singleton _ _
      have fresh : (writeCallback csuit (freshRecord digest) callback).manifestDigest = digest :=
        writeCallback_manifestDigest csuit _ callback
      have ownRest := own.tail
      rw [← fresh] at ownRest
      have isBegun : begun (callback :: callbacks) = callback :: callbacks := by simp [begun, first]
      have written := runCallbacks_existing csuit (runCallback_wellKept csuit kept callback) ownRest split
      rw [isBegun]
      exact .inl ⟨canBegin, written⟩
    | inr unchanged =>
      obtain ⟨notBoth, same⟩ := unchanged
      have rest := inductionHypothesis (runCallback_wellKept csuit kept callback) own.tail (by rwa [same])
      rw [same] at rest
      simp only [runCallbacks]
      by_cases canBegin : CanBegin state.table digest
      · have skipped : begun (callback :: callbacks) = begun callbacks := by
          have notFirst : begins callback = false := by simpa using fun first => notBoth ⟨canBegin, first⟩
          simp [begun, notFirst]
        rw [skipped]
        exact rest
      · exact .inr ⟨fun isPossible => absurd isPossible canBegin, (rest.resolve_left fun new => canBegin new.1).2⟩

/-- After the callbacks the record of the digest is the one they have written, and the others are as
they were. -/
theorem runCallbacks_outcome (csuit : Libcsuit) (kept : WellKept state.table) (own : CallbacksOwn digest callbacks) :
    (∃ old others, old.manifestDigest = digest ∧ state.table.active ~ old :: others ∧
      (runCallbacks csuit callbacks state).2.table.active ~ writeCallbacks csuit old callbacks :: others) ∨
    (CanBegin state.table digest ∧ (runCallbacks csuit callbacks state).2.table.active ~
      writeCallbacks csuit (freshRecord digest) (begun callbacks) :: state.table.active) ∨
    ((∀ record ∈ state.table.active, record.manifestDigest ≠ digest) ∧
      (CanBegin state.table digest → begun callbacks = []) ∧
      (runCallbacks csuit callbacks state).2.table = state.table) := by
  cases active_or_absent state.table digest with
  | inl absent =>
    cases runCallbacks_absent csuit kept own absent with
    | inl new => exact .inr (.inl new)
    | inr unchanged => exact .inr (.inr ⟨absent, unchanged⟩)
  | inr present =>
    obtain ⟨old, others, rfl, split⟩ := present
    exact .inl ⟨old, others, rfl, split, runCallbacks_existing csuit kept own split⟩

/-! ## Payloads that are left -/

/-- The last payload ends in a record with an app name: in that of the digest, or in one that the
callbacks begin. -/
def PayloadLeft (csuit : Libcsuit) (table : RecordTable) (digest : Buffer) (callbacks : List SuitCallback) : Prop :=
  (∃ record ∈ table.active, record.manifestDigest = digest ∧ CopiesPayload callbacks ∧
    nameAfter csuit record.wappName callbacks ≠ []) ∨
  (CanBegin table digest ∧ CopiesPayload (begun callbacks) ∧ nameAfter csuit [] (begun callbacks) ≠ [])

theorem runCallbacks_others (csuit : Libcsuit) (kept : WellKept state.table) (own : CallbacksOwn digest callbacks)
    (member : record ∈ (runCallbacks csuit callbacks state).2.table.active)
    (other : record.manifestDigest ≠ digest) : record ∈ state.table.active := by
  have notWritten : ∀ {old : ManifestRecord} {callbacks}, old.manifestDigest = digest →
      record ≠ writeCallbacks csuit old callbacks := by
    rintro old callbacks key rfl
    exact other ((writeCallbacks_manifestDigest csuit old callbacks).trans key)
  rcases runCallbacks_outcome csuit kept own with ⟨old, others, key, split, written⟩ | ⟨_, written⟩ | ⟨_, _, same⟩
  · have inOthers := (List.mem_cons.mp (written.mem_iff.mp member)).resolve_left (notWritten key)
    exact split.mem_iff.mpr (List.mem_cons_of_mem _ inOthers)
  · exact (List.mem_cons.mp (written.mem_iff.mp member)).resolve_left (notWritten rfl)
  · rwa [same] at member

theorem writeCallbacks_loadable (csuit : Libcsuit) (record : ManifestRecord) (callbacks : List SuitCallback) :
    Loadable (writeCallbacks csuit record callbacks) ↔
      (payloads callbacks = [] ∧ Loadable record) ∨
        (CopiesPayload callbacks ∧ nameAfter csuit record.wappName callbacks ≠ []) := by
  have unnamed : payloads callbacks = [] → nameAfter csuit record.wappName callbacks = record.wappName := by
    intro none
    simp [nameAfter, none]
  rw [Loadable, writeCallbacks_wappName, writeCallbacks_full]
  constructor
  · rintro ⟨named, ⟨none, full⟩ | copied⟩
    · rw [unnamed none] at named
      exact .inl ⟨none, named, full⟩
    · exact .inr ⟨copied, named⟩
  · rintro (⟨none, named, full⟩ | ⟨copied, named⟩)
    · rw [unnamed none]
      exact ⟨named, .inl ⟨none, full⟩⟩
    · exact ⟨named, .inr copied⟩

/-- What holds of some record with the digest holds of the one that heads the others. -/
theorem exists_own_iff {records : List ManifestRecord} (property : ManifestRecord → Prop)
    (split : records ~ record :: others) (apart : ∀ other ∈ others, other.manifestDigest ≠ record.manifestDigest) :
    (∃ each ∈ records, each.manifestDigest = record.manifestDigest ∧ property each) ↔ property record := by
  constructor
  · rintro ⟨each, member, key, holds⟩
    cases List.mem_cons.mp (split.mem_iff.mp member) with
    | inl same => rwa [← same]
    | inr inOthers => exact absurd key (apart each inOthers)
  · intro holds
    exact ⟨record, split.mem_iff.mpr List.mem_cons_self, rfl, holds⟩

/-- The record of the digest can be loaded after the callbacks exactly when it could be before and no
payload was stored, or a payload is left. -/
theorem runCallbacks_loadable_iff (csuit : Libcsuit) (kept : WellKept state.table)
    (own : CallbacksOwn digest callbacks) :
    (∃ record ∈ (runCallbacks csuit callbacks state).2.table.active,
      record.manifestDigest = digest ∧ Loadable record) ↔
    (payloads callbacks = [] ∧ ∃ record ∈ state.table.active, record.manifestDigest = digest ∧ Loadable record) ∨
      PayloadLeft csuit state.table digest callbacks := by
  have without : (∀ record ∈ state.table.active, record.manifestDigest ≠ digest) →
      ∀ property : ManifestRecord → Prop,
      ¬ ∃ record ∈ state.table.active, record.manifestDigest = digest ∧ property record := by
    rintro absent property ⟨record, member, key, _⟩
    exact absent record member key
  rcases runCallbacks_outcome csuit kept own with
    ⟨old, others, rfl, split, written⟩ | ⟨canBegin, written⟩ | ⟨absent, none, same⟩
  · have apart : ∀ other ∈ others, other.manifestDigest ≠ old.manifestDigest :=
      fun other member => kept.digest_ne split member
    have notAbsent : ¬ CanBegin state.table old.manifestDigest := fun canBegin =>
      canBegin.absent old (split.mem_iff.mpr List.mem_cons_self) rfl
    have key := writeCallbacks_manifestDigest csuit old callbacks
    have own := exists_own_iff Loadable written (by rwa [key])
    rw [key] at own
    rw [own, exists_own_iff _ split apart, PayloadLeft, exists_own_iff _ split apart, writeCallbacks_loadable]
    simp [notAbsent]
  · have key : (writeCallbacks csuit (freshRecord digest) (begun callbacks)).manifestDigest = digest :=
      writeCallbacks_manifestDigest csuit _ _
    have own := exists_own_iff Loadable written (by rw [key]; exact canBegin.absent)
    rw [key] at own
    rw [own, PayloadLeft, writeCallbacks_loadable]
    simp [without canBegin.absent, canBegin, Loadable, freshRecord]
  · rw [same, PayloadLeft]
    simp only [without absent, and_false, false_or, false_iff]
    rintro ⟨canBegin, copies, _⟩
    rw [none canBegin] at copies
    simp [CopiesPayload, payloads] at copies

end Taws.Suit
