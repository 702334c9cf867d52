import Taws.Enclave.Emitted
import Taws.Suit.Written
import Taws.Teep.UpdateTable

/-!
# Where payloads come from

A payload in the record table is the one that was stored last for the digest of its record, whatever has
become of the manifest since.  Whether that manifest was processed to its end is another matter: a
manifest that fails leaves in the table what its callbacks have stored, and one that succeeds may have got
past an image that did not match.

* `Completed` — the bytes were stored for a digest, and after that the processing was completed.
* `Unmatched` — an image match has failed since a payload was stored last.
* `Sourced`, `Vouched` — the invariants of the table against the events so far.
* `LeavesPayload` — a manifest fails and leaves a payload that can be looked up.
* `KeepsUnmatched` — a manifest ends with an image that does not match and can be looked up.
* `processEnvelope_vouched` — every other manifest keeps the invariant.
-/

namespace Taws.Enclave

open TcManager
open Suit
open Teep
open SlotTable
open scoped List

/-! ## Stored and completed -/

def NoPayloadStore (digest : Buffer) (events : List Event) : Prop :=
  ∀ args alloc returned, .callback (.store args alloc) returned ∈ events → IsPayloadStore args →
    args.manifestDigest ≠ digest

/-- The bytes were stored for the digest, and no payload since. -/
def Stored (trace : List Event) (digest : Buffer) (bytes : Bytes) : Prop :=
  ∃ earlier args alloc returned later, trace = earlier ++ .callback (.store args alloc) returned :: later ∧
    IsPayloadStore args ∧ args.manifestDigest = digest ∧ args.srcBuf.data = bytes ∧ NoPayloadStore digest later

/-- The processing of the digest was completed, and no payload has been stored for it since. -/
def Settled (trace : List Event) (digest : Buffer) : Prop :=
  ∃ earlier context later, trace = earlier ++ .envelopeProcessed context digest .success ::
    .recordChecked context digest 0 :: later ∧ NoPayloadStore digest later

/-- The bytes were the last payload stored for the digest; after that `suit_process_envelope` succeeded
and the check of the record returned 0. -/
def Completed (trace : List Event) (digest : Buffer) (bytes : Bytes) : Prop :=
  ∃ earlier args alloc returned between context later,
    trace = earlier ++ .callback (.store args alloc) returned :: between ++
      .envelopeProcessed context digest .success :: .recordChecked context digest 0 :: later ∧
    IsPayloadStore args ∧ args.manifestDigest = digest ∧ args.srcBuf.data = bytes ∧
    NoPayloadStore digest (between ++ later)

/-- An image match of the digest has failed. -/
def ImageUnmatched (digest : Buffer) : Event → Prop
  | .callback (.condition args _) returned =>
    args.condition = .imageMatch ∧ args.manifestDigest = digest ∧ returned ≠ .success
  | _ => False

def NoMismatch (digest : Buffer) (events : List Event) : Prop := ∀ event ∈ events, ¬ ImageUnmatched digest event

/-- An image match of the digest has failed, and no payload has been stored for it since. -/
def Unmatched (trace : List Event) (digest : Buffer) : Prop :=
  ∃ earlier event later, trace = earlier ++ event :: later ∧ ImageUnmatched digest event ∧
    NoPayloadStore digest later

/-- The events say nothing about the payload of the digest. -/
structure Quiet (digest : Buffer) (events : List Event) : Prop where
  noPayloadStore : NoPayloadStore digest events
  noMismatch : NoMismatch digest events

variable {trace events : List Event} {digest : Buffer} {bytes : Bytes} {kinds : List EventKind}

theorem NoPayloadStore.append {first second : List Event} (left : NoPayloadStore digest first)
    (right : NoPayloadStore digest second) : NoPayloadStore digest (first ++ second) := by
  intro args alloc returned member
  cases List.mem_append.mp member with
  | inl inFirst => exact left args alloc returned inFirst
  | inr inSecond => exact right args alloc returned inSecond

theorem NoPayloadStore.of_append {first second : List Event} (none : NoPayloadStore digest (first ++ second)) :
    NoPayloadStore digest first ∧ NoPayloadStore digest second :=
  ⟨fun args alloc returned member => none args alloc returned (List.mem_append_left _ member),
    fun args alloc returned member => none args alloc returned (List.mem_append_right _ member)⟩

theorem NoMismatch.append {first second : List Event} (left : NoMismatch digest first)
    (right : NoMismatch digest second) : NoMismatch digest (first ++ second) := by
  intro event member
  cases List.mem_append.mp member with
  | inl inFirst => exact left event inFirst
  | inr inSecond => exact right event inSecond

/-- A mismatch stands if it is in the events, or stood before them and no payload is stored in them. -/
theorem unmatched_append (trace events : List Event) (digest : Buffer) : Unmatched (trace ++ events) digest ↔
    Unmatched events digest ∨ (Unmatched trace digest ∧ NoPayloadStore digest events) := by
  constructor
  · rintro ⟨earlier, event, later, split, mismatch, noLater⟩
    rcases List.append_eq_append_iff.mp split with ⟨between, same, rest⟩ | ⟨between, same, rest⟩
    · exact .inl ⟨between, event, later, rest, mismatch, noLater⟩
    · cases between with
      | nil => exact .inl ⟨[], event, later, rest.symm, mismatch, noLater⟩
      | cons first between =>
        obtain ⟨rfl, rfl⟩ : event = first ∧ later = between ++ events := by simpa using rest
        exact .inr ⟨⟨earlier, event, between, same, mismatch, noLater.of_append.1⟩, noLater.of_append.2⟩
  · rintro (⟨earlier, event, later, rfl, mismatch, noLater⟩ | ⟨⟨earlier, event, later, rfl, mismatch, noLater⟩, none⟩)
    · exact ⟨trace ++ earlier, event, later, by simp, mismatch, noLater⟩
    · exact ⟨earlier, event, later ++ events, by simp, mismatch, noLater.append none⟩

theorem NoMismatch.not_unmatched (none : NoMismatch digest events) : ¬ Unmatched events digest := by
  rintro ⟨earlier, event, later, rfl, mismatch, _⟩
  exact none event (by simp) mismatch

theorem not_unmatched_append (matched : ¬ Unmatched trace digest) (none : NoMismatch digest events) :
    ¬ Unmatched (trace ++ events) digest := by
  rw [unmatched_append]
  rintro (inEvents | ⟨before, _⟩)
  · exact none.not_unmatched inEvents
  · exact matched before

theorem Within.quiet (within : Within kinds events) (other : .suit ∉ kinds) (digest : Buffer) :
    Quiet digest events where
  noPayloadStore := fun args alloc returned member => absurd member (within.not_mem other)
  noMismatch := by
    intro event member mismatch
    cases event with
    | callback callback returned => exact absurd member (within.not_mem other)
    | _ => exact mismatch

theorem Stored.append (stored : Stored trace digest bytes) (none : NoPayloadStore digest events) :
    Stored (trace ++ events) digest bytes := by
  obtain ⟨earlier, args, alloc, returned, later, split, payload, key, data, noLater⟩ := stored
  exact ⟨earlier, args, alloc, returned, later ++ events, by rw [split]; simp, payload, key, data,
    noLater.append none⟩

theorem Settled.append (settled : Settled trace digest) (none : NoPayloadStore digest events) :
    Settled (trace ++ events) digest := by
  obtain ⟨earlier, context, later, split, noLater⟩ := settled
  exact ⟨earlier, context, later ++ events, by rw [split]; simp, noLater.append none⟩

theorem Completed.append (completed : Completed trace digest bytes) (none : NoPayloadStore digest events) :
    Completed (trace ++ events) digest bytes := by
  obtain ⟨earlier, args, alloc, returned, between, context, later, split, payload, key, data, noLater⟩ :=
    completed
  refine ⟨earlier, args, alloc, returned, between, context, later ++ events, by rw [split]; simp, payload, key,
    data, ?_⟩
  rw [← List.append_assoc]
  exact noLater.append none

/-- The completion cannot lie before the store, since no payload is stored after it. -/
theorem completed_of_settled (stored : Stored trace digest bytes) (settled : Settled trace digest) :
    Completed trace digest bytes := by
  obtain ⟨earlier, args, alloc, returned, later, split, payload, key, data, noLater⟩ := stored
  obtain ⟨before, context, after, completion, noAfter⟩ := settled
  rw [split] at completion
  rcases List.append_eq_append_iff.mp completion with ⟨between, same, rest⟩ | ⟨between, same, rest⟩
  · cases between with
    | nil => simp at rest
    | cons event between =>
      obtain ⟨rfl, rfl⟩ : .callback (.store args alloc) returned = event ∧
          later = between ++ .envelopeProcessed context digest .success ::
            .recordChecked context digest 0 :: after := by
        simpa using rest
      refine ⟨earlier, args, alloc, returned, between, context, after, by rw [split]; simp, payload, key, data, ?_⟩
      intro other otherAlloc otherReturned member
      apply noLater other otherAlloc otherReturned
      cases List.mem_append.mp member with
      | inl inBetween => exact List.mem_append_left _ inBetween
      | inr inAfter => simp [inAfter]
  · have inAfter : .callback (.store args alloc) returned ∈ after := by
      match between, rest with
      | [], rest => simp at rest
      | [event], rest => simp at rest
      | first :: second :: between, rest =>
        have tail : after = between ++ .callback (.store args alloc) returned :: later := by
          simp only [List.cons_append, List.cons.injEq] at rest
          exact rest.2.2
        rw [tail]
        simp
    exact absurd key (noAfter args alloc returned inAfter payload)

/-! ## Every payload was stored -/

/-- Every payload of the table is the last one stored for its digest. -/
structure Sourced (trace : List Event) (table : RecordTable) : Prop extends WellKept table where
  stored : ∀ record ∈ table.active, record.wappBin.isNullOrEmpty = false →
    Stored trace record.manifestDigest record.wappBin.data

variable {csuit : Libcsuit} {args : SuitStoreArgs} {alloc : StoreAlloc} {record : ManifestRecord}
  {table : RecordTable} {state : SuitState} {callbacks : List SuitCallback}

theorem storeFields_manifest (csuit : Libcsuit) (manifest : args.isManifestItself = true) (alloc : StoreAlloc)
    (record : ManifestRecord) :
    (storeFields csuit args alloc record).2.wappBin = record.wappBin ∧
      (storeFields csuit args alloc record).2.wappName = record.wappName := by
  simp [storeFields, manifest, storeManifest]

theorem storeFields_payload (payload : args.isManifestItself = false)
    (full : (storeFields csuit args alloc record).2.wappBin.isNullOrEmpty = false) :
    args.srcBuf.isNullOrEmpty = false ∧ alloc.bin = true ∧
      (storeFields csuit args alloc record).2.wappBin.data = args.srcBuf.data := by
  have replaced : (storeFields csuit args alloc record).2.wappBin =
      (replaceBin record.wappBin args.srcBuf alloc.bin).2 := by
    simp [storeFields, payload, storePayload]
  rw [replaced] at full ⊢
  obtain ⟨copied, source, stored⟩ := replaceBin_full full
  refine ⟨source, ?_, by rw [stored]; rfl⟩
  cases allocated : alloc.bin with
  | true => rfl
  | false => simp [replaceBin, source, allocated] at copied

theorem noPayloadStore_single {returned : SuitErr} (other : IsPayloadStore args → args.manifestDigest ≠ digest) :
    NoPayloadStore digest [.callback (.store args alloc) returned] := by
  intro _ _ _ member payload
  simp only [List.mem_singleton, Event.callback.injEq, SuitCallback.store.injEq] at member
  obtain ⟨⟨rfl, rfl⟩, rfl⟩ := member
  exact other payload

/-- The record that a store callback writes. -/
theorem storeFields_stored {returned : SuitErr} (isStore : args.operation = .store)
    (key : record.manifestDigest = args.manifestDigest)
    (stored : record.wappBin.isNullOrEmpty = false → Stored trace record.manifestDigest record.wappBin.data)
    (full : (storeFields csuit args alloc record).2.wappBin.isNullOrEmpty = false) :
    Stored (trace ++ [.callback (.store args alloc) returned])
      (storeFields csuit args alloc record).2.manifestDigest
      (storeFields csuit args alloc record).2.wappBin.data := by
  rw [storeFields_manifestDigest]
  cases kind : args.isManifestItself with
  | true =>
    rw [(storeFields_manifest csuit kind alloc record).1] at full ⊢
    refine (stored full).append (noPayloadStore_single fun payload => ?_)
    rw [payload.2] at kind
    cases kind
  | false =>
    obtain ⟨_, _, data⟩ := storeFields_payload kind full
    exact ⟨trace, args, alloc, returned, [], rfl, ⟨isStore, kind⟩, key.symm, data.symm, by simp [NoPayloadStore]⟩

theorem store_sourced (sourced : Sourced trace table) (isStore : args.operation = .store) (returned : SuitErr) :
    Sourced (trace ++ [.callback (.store args alloc) returned])
      (tcManagerStoreRecordFromStoreArgs csuit (some args) alloc table).2 := by
  have others : ∀ record ∈ table.active, record.manifestDigest ≠ args.manifestDigest →
      record.wappBin.isNullOrEmpty = false →
      Stored (trace ++ [.callback (.store args alloc) returned]) record.manifestDigest record.wappBin.data :=
    fun record member other full =>
      (sourced.stored record member full).append (noPayloadStore_single fun _ => Ne.symm other)
  refine ⟨store_wellKept csuit sourced.toWellKept (some args) alloc, ?_⟩
  intro record member full
  -- the record of the digest is written, or there is none and the store fails, or begins one
  rcases store_outcome csuit sourced.toWellKept isStore alloc with
    ⟨old, rest, key, split, written⟩ | ⟨absent, same | ⟨begins, written⟩⟩
  · have oldActive : old ∈ table.active := split.mem_iff.mpr List.mem_cons_self
    cases written.mem_iff.mp member with
    | head => exact storeFields_stored isStore key (sourced.stored old oldActive) full
    | tail _ inRest =>
      have other := sourced.toWellKept.digest_ne split inRest
      rw [key] at other
      exact others record (split.mem_iff.mpr (List.mem_cons_of_mem _ inRest)) other full
  · rw [same] at member
    exact others record member (absent record member) full
  · rw [written] at member
    cases List.mem_append.mp member with
    | inl before => exact others record before (absent record before) full
    | inr new =>
      obtain rfl := List.mem_singleton.mp new
      exact storeFields_stored isStore rfl nofun full

theorem runCallback_sourced (csuit : Libcsuit) (sourced : Sourced trace state.table) (callback : SuitCallback)
    (returned : SuitErr) :
    Sourced (trace ++ [.callback callback returned]) (runCallback csuit callback state).2.table := by
  have untouched : ∀ event, (∀ digest, NoPayloadStore digest [event]) → Sourced (trace ++ [event]) state.table :=
    fun event none => ⟨sourced.toWellKept, fun record member full =>
      (sourced.stored record member full).append (none _)⟩
  cases callback with
  | store args alloc =>
    by_cases isStore : args.operation = .store
    · simp only [runCallback, wrapSuitStoreCallback, if_pos isStore]
      exact store_sourced sourced isStore returned
    · simp only [runCallback, wrapSuitStoreCallback, if_neg isStore]
      exact untouched _ fun _ => noPayloadStore_single fun payload => absurd payload.1 isStore
  | condition args ret => exact untouched _ fun _ => by simp [NoPayloadStore]
  | report suitReport malloc => exact untouched _ fun _ => by simp [NoPayloadStore]
  | invoke => exact untouched _ fun _ => by simp [NoPayloadStore]

theorem runCallbacks_sourced (csuit : Libcsuit) (sourced : Sourced trace state.table)
    (callbacks : List SuitCallback) :
    Sourced (trace ++ callbackEvents (runCallbacks csuit callbacks state).1)
      (runCallbacks csuit callbacks state).2.table := by
  induction callbacks generalizing trace state with
  | nil => simpa [runCallbacks, callbackEvents] using sourced
  | cons callback callbacks inductionHypothesis =>
    have first := runCallback_sourced csuit sourced callback (runCallback csuit callback state).1
    simpa [runCallbacks, callbackEvents] using inductionHypothesis first

/-! ## One manifest -/

/-- The envelope fails, and its last payload stays in the table under an app name. -/
structure LeavesPayload (csuit : Libcsuit) (table : RecordTable) (run : EnvelopeRun) : Prop where
  failed : run.result ≠ .success
  left : PayloadLeft csuit table run.manifestDigest run.callbacks

def matchFails (csuit : Libcsuit) (state : SuitState) : SuitCallback → Bool
  | .condition args ret => args.condition = .imageMatch &&
      (wrapSuitConditionCallback csuit args ret state.table).1 ≠ .success
  | _ => false

/-- An image match fails, and no payload is stored after it. -/
def endsUnmatched (csuit : Libcsuit) : List SuitCallback → SuitState → Bool
  | [], _ => false
  | callback :: callbacks, state =>
    (matchFails csuit state callback && (payloads callbacks).isEmpty) ||
      endsUnmatched csuit callbacks (runCallback csuit callback state).2

/-- The envelope ends with an image that does not match, and with its payload in the table under an app name:
with the one from before, or with one that it stores; and if it succeeds, the check keeps the record. -/
structure KeepsUnmatched (csuit : Libcsuit) (state : SuitState) (run : EnvelopeRun) : Prop where
  unmatched : endsUnmatched csuit run.callbacks state = true
  loadable : (payloads run.callbacks = [] ∧
      ∃ record ∈ state.table.active, record.manifestDigest = run.manifestDigest ∧ Loadable record) ∨
    PayloadLeft csuit state.table run.manifestDigest run.callbacks
  stays : run.result = .success →
    SurvivesCheck (runCallbacks csuit run.callbacks state).2.table run.manifestDigest

/-- Every payload was stored, and those that can be loaded were completed and have not failed a match. -/
structure Vouched (trace : List Event) (table : RecordTable) : Prop extends Sourced trace table where
  settled : ∀ record ∈ table.active, Loadable record → Settled trace record.manifestDigest
  matched : ∀ record ∈ table.active, Loadable record → ¬ Unmatched trace record.manifestDigest

theorem Vouched.append (vouched : Vouched trace table) (quiet : ∀ digest, Quiet digest events) :
    Vouched (trace ++ events) table where
  toWellKept := vouched.toWellKept
  stored := fun record member full => (vouched.stored record member full).append (quiet _).noPayloadStore
  settled := fun record member loadable =>
    (vouched.settled record member loadable).append (quiet _).noPayloadStore
  matched := fun record member loadable =>
    not_unmatched_append (vouched.matched record member loadable) (quiet _).noMismatch

theorem callbackEvents_noPayloadStore {returned : List (SuitCallback × SuitErr)}
    (same : returned.map Prod.fst = callbacks)
    (none : ∀ args alloc, .store args alloc ∈ callbacks → IsPayloadStore args → args.manifestDigest ≠ digest) :
    NoPayloadStore digest (callbackEvents returned) := by
  intro args alloc result member payload
  obtain ⟨called, inCalled, isEvent⟩ := List.mem_map.mp member
  have isCallback : called.1 ∈ callbacks := by
    rw [← same]
    exact List.mem_map_of_mem inCalled
  simp only [Event.callback.injEq] at isEvent
  rw [isEvent.1] at isCallback
  exact none args alloc isCallback payload

theorem callbackEvents_noMismatch {returned : List (SuitCallback × SuitErr)}
    (same : returned.map Prod.fst = callbacks)
    (none : ∀ args ret, .condition args ret ∈ callbacks → args.manifestDigest ≠ digest) :
    NoMismatch digest (callbackEvents returned) := by
  intro event member mismatch
  obtain ⟨⟨callback, code⟩, inCalled, rfl⟩ := List.mem_map.mp member
  have isCallback : callback ∈ callbacks := by
    rw [← same]
    exact List.mem_map.mpr ⟨_, inCalled, rfl⟩
  cases callback with
  | condition args ret => exact none args ret isCallback mismatch.2.1
  | store args alloc => exact mismatch
  | report suitReport malloc => exact mismatch
  | invoke => exact mismatch

theorem runCallbacks_fst (csuit : Libcsuit) (callbacks : List SuitCallback) (state : SuitState) :
    (runCallbacks csuit callbacks state).1.map Prod.fst = callbacks := by
  induction callbacks generalizing state with
  | nil => rfl
  | cons callback callbacks inductionHypothesis => simp [runCallbacks, inductionHypothesis]

/-- The record that the check of a digest leaves active under it has been found complete. -/
theorem checkAndUpdate_own (kept : WellKept table)
    (member : record ∈ (tcManagerCheckAndUpdateRecord record.manifestDigest table).2.active) :
    (tcManagerCheckAndUpdateRecord record.manifestDigest table).1 = 0 := by
  have split := List.perm_cons_erase (checkAndUpdate_mem kept.toClean _ member)
  cases complete : manifestRecordIsComplete record with
  | true => exact (checkAndUpdate_complete kept split complete).1
  | false =>
    have removed := (checkAndUpdate_incomplete kept split complete).2.mem_iff.mp member
    exact absurd rfl (kept.digest_ne split removed)

/-- Every condition callback of a manifest is for the digest of that manifest. -/
def ConditionsOwn (digest : Buffer) (callbacks : List SuitCallback) : Prop :=
  ∀ args ret, .condition args ret ∈ callbacks → args.manifestDigest = digest

/-- The callbacks of a manifest leave what holds of the records of other manifests alone. -/
theorem callbackEvents_quiet (csuit : Libcsuit) (own : CallbacksOwn digest callbacks)
    (conditions : ConditionsOwn digest callbacks) (state : SuitState) {other : Buffer} (different : other ≠ digest) :
    Quiet other (callbackEvents (runCallbacks csuit callbacks state).1) where
  noPayloadStore := callbackEvents_noPayloadStore (runCallbacks_fst csuit callbacks state)
    fun args alloc isStore _ => by rw [own args alloc isStore]; exact different.symm
  noMismatch := callbackEvents_noMismatch (runCallbacks_fst csuit callbacks state)
    fun args ret isCondition => by rw [conditions args ret isCondition]; exact different.symm

theorem Vouched.others (csuit : Libcsuit) (vouched : Vouched trace state.table)
    (own : CallbacksOwn digest callbacks) (conditions : ConditionsOwn digest callbacks)
    (member : record ∈ (runCallbacks csuit callbacks state).2.table.active)
    (other : record.manifestDigest ≠ digest) (loadable : Loadable record) :
    Settled (trace ++ callbackEvents (runCallbacks csuit callbacks state).1) record.manifestDigest ∧
      ¬ Unmatched (trace ++ callbackEvents (runCallbacks csuit callbacks state).1) record.manifestDigest := by
  have before := runCallbacks_others csuit vouched.toWellKept own member other
  have quiet := callbackEvents_quiet csuit own conditions state other
  exact ⟨(vouched.settled record before loadable).append quiet.noPayloadStore,
    not_unmatched_append (vouched.matched record before loadable) quiet.noMismatch⟩

theorem payloads_eq_nil {returned : List (SuitCallback × SuitErr)} (same : returned.map Prod.fst = callbacks)
    (own : CallbacksOwn digest callbacks) (none : NoPayloadStore digest (callbackEvents returned)) :
    payloads callbacks = [] := by
  apply List.filterMap_eq_nil_iff.mpr
  intro callback member
  cases callback with
  | store args alloc =>
    have notPayload : ¬ IsPayloadStore args := by
      intro payload
      rw [← same] at member
      obtain ⟨called, inCalled, isStore⟩ := List.mem_map.mp member
      have inEvents : .callback (.store args alloc) called.2 ∈ callbackEvents returned :=
        List.mem_map.mpr ⟨called, inCalled, by rw [isStore]⟩
      rw [same] at member
      exact none args alloc called.2 inEvents payload (own args alloc member)
    exact if_neg notPayload
  | condition args ret => rfl
  | report suitReport malloc => rfl
  | invoke => rfl

theorem not_payloadLeft (noPayload : payloads callbacks = []) : ¬ PayloadLeft csuit table digest callbacks := by
  have noneCopied : ∀ part, part ⊆ callbacks → ¬ CopiesPayload part := by
    intro part contained copies
    have empty : payloads part = [] :=
      List.filterMap_eq_nil_iff.mpr fun callback member =>
        List.filterMap_eq_nil_iff.mp noPayload callback (contained member)
    simp [CopiesPayload, empty] at copies
  rintro (⟨_, _, _, copies, _⟩ | ⟨_, copies, _⟩)
  · exact noneCopied _ (List.Subset.refl _) copies
  · exact noneCopied _ (List.dropWhile_subset _) copies

/-- A mismatch that stands after the callbacks, and is one of them, is one after which they store no payload. -/
theorem endsUnmatched_of_unmatched (csuit : Libcsuit) (own : CallbacksOwn digest callbacks) (state : SuitState)
    (unmatched : Unmatched (callbackEvents (runCallbacks csuit callbacks state).1) digest) :
    endsUnmatched csuit callbacks state = true := by
  induction callbacks generalizing state with
  | nil =>
    obtain ⟨earlier, event, later, split, _⟩ := unmatched
    simp [callbackEvents, runCallbacks] at split
  | cons callback callbacks inductionHypothesis =>
    have split : callbackEvents (runCallbacks csuit (callback :: callbacks) state).1 =
        [.callback callback (runCallback csuit callback state).1] ++
          callbackEvents (runCallbacks csuit callbacks (runCallback csuit callback state).2).1 := rfl
    rw [split, unmatched_append] at unmatched
    rcases unmatched with later | ⟨⟨_, event, _, single, mismatch, _⟩, noStore⟩
    · simp [endsUnmatched, inductionHypothesis own.tail _ later]
    · -- it is the first callback, and the others store no payload
      obtain rfl : .callback callback (runCallback csuit callback state).1 = event := by
        have member : event ∈ [.callback callback (runCallback csuit callback state).1] := by
          rw [single]
          simp
        exact (List.mem_singleton.mp member).symm
      have noPayload := payloads_eq_nil (runCallbacks_fst csuit callbacks _) own.tail noStore
      cases callback with
      | condition args ret =>
        obtain ⟨isMatch, _, failed⟩ := mismatch
        have fails : matchFails csuit state (.condition args ret) = true := by
          simpa [matchFails, isMatch, runCallback] using failed
        simp [endsUnmatched, fails, noPayload]
      | store args alloc => exact mismatch.elim
      | report suitReport malloc => exact mismatch.elim
      | invoke => exact mismatch.elim

/-- What can be loaded under the digest after the callbacks has not failed a match that still stands, unless they
end with one. -/
theorem Vouched.own_matched (csuit : Libcsuit) (vouched : Vouched trace state.table)
    (own : CallbacksOwn digest callbacks)
    (loadable : (payloads callbacks = [] ∧
        ∃ record ∈ state.table.active, record.manifestDigest = digest ∧ Loadable record) ∨
      PayloadLeft csuit state.table digest callbacks)
    (notEnded : endsUnmatched csuit callbacks state = false) :
    ¬ Unmatched (trace ++ callbackEvents (runCallbacks csuit callbacks state).1) digest := by
  rw [unmatched_append]
  rintro (inCallbacks | ⟨before, noStore⟩)
  · rw [endsUnmatched_of_unmatched csuit own state inCallbacks] at notEnded
    cases notEnded
  · -- a mismatch from before stands only if no payload has been stored over it
    have noPayload := payloads_eq_nil (runCallbacks_fst csuit callbacks state) own noStore
    rcases loadable with ⟨_, old, member, rfl, oldLoadable⟩ | left
    · exact vouched.matched old member oldLoadable before
    · exact not_payloadLeft noPayload left

/-- Callbacks that leave no payload have stored none, or it cannot be loaded. -/
theorem runCallbacks_vouched (csuit : Libcsuit) (vouched : Vouched trace state.table)
    (own : CallbacksOwn digest callbacks) (conditions : ConditionsOwn digest callbacks)
    (safe : ¬ PayloadLeft csuit state.table digest callbacks)
    (matched : (∃ record ∈ state.table.active, record.manifestDigest = digest ∧ Loadable record) →
      payloads callbacks = [] → endsUnmatched csuit callbacks state = false) :
    Vouched (trace ++ callbackEvents (runCallbacks csuit callbacks state).1)
      (runCallbacks csuit callbacks state).2.table := by
  have ownBefore : ∀ record ∈ (runCallbacks csuit callbacks state).2.table.active,
      record.manifestDigest = digest → Loadable record →
      payloads callbacks = [] ∧ ∃ old ∈ state.table.active, old.manifestDigest = digest ∧ Loadable old :=
    fun record member key loadable =>
      ((runCallbacks_loadable_iff csuit vouched.toWellKept own).mp ⟨record, member, key, loadable⟩).resolve_right safe
  refine ⟨runCallbacks_sourced csuit vouched.toSourced callbacks, ?_, ?_⟩
  · intro record member loadable
    by_cases isOwn : record.manifestDigest = digest
    · -- it could be loaded before, and no payload has been stored since
      obtain ⟨noPayload, old, oldMember, oldKey, oldLoadable⟩ := ownBefore record member isOwn loadable
      have settled := vouched.settled old oldMember oldLoadable
      rw [oldKey, ← isOwn] at settled
      apply settled.append
      apply callbackEvents_noPayloadStore (runCallbacks_fst csuit callbacks state)
      intro args alloc isStore payload
      have noneStored := List.filterMap_eq_nil_iff.mp noPayload _ isStore
      simp [payloadOf, payload] at noneStored
    · exact (vouched.others csuit own conditions member isOwn loadable).1
  · intro record member loadable
    by_cases isOwn : record.manifestDigest = digest
    · have before := ownBefore record member isOwn loadable
      rw [isOwn]
      exact vouched.own_matched csuit own (.inl before) (matched before.2 before.1)
    · exact (vouched.others csuit own conditions member isOwn loadable).2

/-- The check of a digest completes the record it leaves under that digest. -/
theorem checkAndUpdate_vouched (sourced : Sourced trace table) (context : Block)
    (others : ∀ record ∈ table.active, record.manifestDigest ≠ digest → Loadable record →
      Settled trace record.manifestDigest ∧ ¬ Unmatched trace record.manifestDigest)
    (own : ∀ record ∈ table.active, record.manifestDigest = digest → Loadable record →
      SurvivesCheck table digest → ¬ Unmatched trace digest) :
    Vouched
      (trace ++ [.envelopeProcessed context digest .success,
        .recordChecked context digest (tcManagerCheckAndUpdateRecord digest table).1])
      (tcManagerCheckAndUpdateRecord digest table).2 := by
  have quiet : ∀ other returned, Quiet other
      [.envelopeProcessed context digest .success, .recordChecked context digest returned] :=
    fun other returned => ⟨by simp [NoPayloadStore], by simp [NoMismatch, ImageUnmatched]⟩
  refine ⟨⟨checkAndUpdate_wellKept sourced.toWellKept digest, ?_⟩, ?_, ?_⟩
  · intro record member full
    have before := checkAndUpdate_mem sourced.toClean digest member
    exact (sourced.stored record before full).append (quiet _ _).noPayloadStore
  · intro record member loadable
    by_cases isOwn : record.manifestDigest = digest
    · -- a record that is still there after its own check has passed it
      subst isOwn
      rw [checkAndUpdate_own sourced.toWellKept member]
      exact ⟨trace, context, [], rfl, by simp [NoPayloadStore]⟩
    · have before := checkAndUpdate_mem sourced.toClean digest member
      exact (others record before isOwn loadable).1.append (quiet _ _).noPayloadStore
  · intro record member loadable
    have before := checkAndUpdate_mem sourced.toClean digest member
    apply not_unmatched_append _ (quiet _ _).noMismatch
    by_cases isOwn : record.manifestDigest = digest
    · subst isOwn
      exact own record before rfl loadable (checkAndUpdate_survives sourced.toWellKept before member)
    · exact (others record before isOwn loadable).2

/-- A manifest that neither leaves a payload behind nor ends with an image that does not match keeps what can be
loaded completed. -/
theorem processEnvelope_vouched (csuit : Libcsuit) (context : Block) {run : EnvelopeRun}
    (vouched : Vouched trace state.table) (own : CallbacksOwn run.manifestDigest run.callbacks)
    (conditions : ConditionsOwn run.manifestDigest run.callbacks)
    (safe : ¬ LeavesPayload csuit state.table run) (matched : ¬ KeepsUnmatched csuit state run) :
    Vouched (trace ++ (processEnvelope csuit context run state).2.1)
      (processEnvelope csuit context run state).1.table := by
  simp only [processEnvelope]
  split
  · next failed =>
    -- `process_update` stops, and what the callbacks have stored stays as it is
    have notLeft : ¬ PayloadLeft csuit state.table run.manifestDigest run.callbacks :=
      fun left => safe ⟨failed, left⟩
    have quiet : ∀ digest, Quiet digest [.envelopeProcessed context run.manifestDigest run.result] :=
      fun _ => ⟨by simp [NoPayloadStore], by simp [NoMismatch, ImageUnmatched]⟩
    have ended := (runCallbacks_vouched csuit vouched own conditions notLeft
      fun before noPayload => Bool.eq_false_iff.mpr fun ends =>
        matched ⟨ends, .inl ⟨noPayload, before⟩, fun success => absurd success failed⟩).append quiet
    rwa [List.append_assoc] at ended
  · next succeeded =>
    -- the check completes what the callbacks have stored, whatever they have left before it
    have success : run.result = .success := not_not.mp succeeded
    have sourced := runCallbacks_sourced csuit vouched.toSourced run.callbacks
    have checked := checkAndUpdate_vouched sourced context
      (fun record member other loadable => vouched.others csuit own conditions member other loadable)
      (fun record member key loadable survives =>
        have isLoadable := (runCallbacks_loadable_iff csuit vouched.toWellKept own).mp ⟨record, member, key, loadable⟩
        vouched.own_matched csuit own isLoadable
          (Bool.eq_false_iff.mpr fun ends => matched ⟨ends, isLoadable, fun _ => survives⟩))
    rw [success]
    simp only [callbackEvents, List.append_assoc] at checked
    split <;> simpa using checked

end Taws.Enclave
