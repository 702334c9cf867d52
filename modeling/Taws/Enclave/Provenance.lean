import Taws.Enclave.Exits
import Taws.Enclave.Payloads

/-!
# Which code is executed

The WASM loader takes whatever payload the first record of the app name holds, and does not ask how the
processing of its manifest ended.  So what is loaded was completed as long as no failing manifest leaves a
payload under an app name, and not otherwise; and its image has matched as long as no manifest, failing or
not, ends with an image that does not match.

* `LoadedCompleted` — what should hold of every loaded binary.
* `NoPayloadLeft` — no manifest of an ECALL does the one or the other.
* `loaded_completed` — every run whose ECALLs meet that loads completed binaries only, and none of which an
  image match has failed.
* `unmatched_loaded` — a payload whose image does not match is loaded.
-/

namespace Taws.Enclave

open TcManager
open Suit
open Teep
open Wasm
open SlotTable

/-! ## The property and the condition -/

/-- A loaded binary is the payload of a digest whose processing was completed after it was stored, and no image
match of the digest has failed since it was stored. -/
def LoadedCompleted (before : List Event) (event : Event) : Prop :=
  ∀ name bytes size, event = .wasmLoaded name bytes size →
    ∃ digest, Completed before digest bytes ∧ ¬ Unmatched before digest

/-- The set-up succeeds and the envelope is accepted by `suit_processor_add_manifest`. -/
def reachesEnvelope (env : ManifestEnv) (item : Buffer) : Bool :=
  match (setUpProcessor env).ready with
  | none => false
  | some (_, envelopeBufLen) =>
    !(item.isNull || item.len == 0 || item.len > envelopeBufLen) && env.addManifest item.data

/-- No manifest that the loop reaches leaves its payload or keeps one that does not match, each in the state that
the ones before it have led to. -/
def LeavesNone (csuit : Libcsuit) (manifests : Nat → ManifestEnv) : Nat → List Buffer → SuitState → Prop
  | _, [], _ => True
  | index, item :: items, state =>
    (reachesEnvelope (manifests index) item = true →
      ¬ LeavesPayload csuit state.table ((manifests index).processEnvelope item.data) ∧
        ¬ KeepsUnmatched csuit state ((manifests index).processEnvelope item.data)) ∧
    ((processManifest csuit (manifests index) item state).2.2 = none →
      LeavesNone csuit manifests (index + 1) items (processManifest csuit (manifests index) item state).1)

/-- The Update is refused, or none of its manifests leaves its payload or keeps one that does not match. -/
def UpdateLeavesNone (lib : Libraries) (manifests : Nat → ManifestEnv) (update : TeepUpdate)
    (state : SuitState) : Prop :=
  tokenAccepted update = true → manifestListAccepted lib.teep update = true →
    LeavesNone lib.csuit manifests 0 update.manifestList state

def NoPayloadLeft (lib : Libraries) (state : EnclaveState) : EnclaveAction → Prop
  | .processMessage env args => ∀ update, Received env args state (.update update) →
    state.agentStatus ≠ .waitingQueryRequest → UpdateLeavesNone lib env.manifests update state.suit
  | .invokeWasm _ _ => True

/-- Every store and every condition callback of a manifest is for the digest of that manifest. -/
structure CallsOwn (run : EnvelopeRun) : Prop where
  stores : CallbacksOwn run.manifestDigest run.callbacks
  conditions : ConditionsOwn run.manifestDigest run.callbacks

def ManifestsOwn (manifests : Nat → ManifestEnv) : Prop :=
  ∀ index envelope, CallsOwn ((manifests index).processEnvelope envelope)

def OwnCallbacks : EnclaveAction → Prop
  | .processMessage env _ => ManifestsOwn env.manifests
  | .invokeWasm _ _ => True

variable {csuit : Libcsuit} {lib : Libraries} {trace events : List Event} {kinds : List EventKind}
  {table : RecordTable} {suit : SuitState} {manifests : Nat → ManifestEnv}

/-! ## Updates -/

theorem Vouched.quiet (vouched : Vouched trace table) (within : Within kinds events) (other : .suit ∉ kinds) :
    Vouched (trace ++ events) table := vouched.append (within.quiet other)

/-- Only the callbacks of a manifest say anything about a payload. -/
theorem Vouched.other (vouched : Vouched trace table) {event : Event}
    (notCallback : ∀ callback returned, event ≠ .callback callback returned) : Vouched (trace ++ [event]) table := by
  apply vouched.append
  intro digest
  constructor
  · intro args alloc returned member
    exact absurd (List.mem_singleton.mp member).symm (notCallback _ _)
  · intro each member mismatch
    obtain rfl := List.mem_singleton.mp member
    cases each with
    | callback callback returned => exact notCallback callback returned rfl
    | _ => exact mismatch

theorem Vouched.manifestAdded (vouched : Vouched trace table) (context : Block) :
    Vouched (trace ++ [.manifestAdded context]) table := vouched.other (by simp)

theorem processManifest_vouched {env : ManifestEnv} {item : Buffer} (vouched : Vouched trace suit.table)
    (own : CallsOwn (env.processEnvelope item.data))
    (safe : reachesEnvelope env item = true →
      ¬ LeavesPayload csuit suit.table (env.processEnvelope item.data) ∧
        ¬ KeepsUnmatched csuit suit (env.processEnvelope item.data)) :
    Vouched (trace ++ (processManifest csuit env item suit).2.1) (processManifest csuit env item suit).1.table := by
  have setUp : Vouched (trace ++ (setUpProcessor env).events) suit.table :=
    vouched.quiet (setUpProcessor_within env) (by simp)
  have released : ∀ {trace : List Event} {table : RecordTable}, Vouched trace table →
      Vouched (trace ++ release (setUpProcessor env).held) table :=
    fun earlier => earlier.quiet (release_within _) (by simp)
  simp only [processManifest]
  split
  · simpa using released setUp
  · next context envelopeBufLen ready =>
    split
    · simpa using released setUp
    · next admissible =>
      split
      · simpa using released (setUp.manifestAdded context)
      · next accepted =>
        have reaches : reachesEnvelope env item = true := by
          simp only [Bool.not_eq_true, Bool.not_eq_false'] at admissible accepted
          simp [reachesEnvelope, ready, admissible, accepted]
        have processed := processEnvelope_vouched csuit context (setUp.manifestAdded context) own.stores
          own.conditions (safe reaches).1 (safe reaches).2
        simpa using released processed

theorem processManifests_vouched (index : Nat) (items : List Buffer) (vouched : Vouched trace suit.table)
    (own : ManifestsOwn manifests) (safe : LeavesNone csuit manifests index items suit) :
    Vouched (trace ++ (processManifests csuit manifests index items suit).2.1)
      (processManifests csuit manifests index items suit).1.table := by
  induction items generalizing index trace suit with
  | nil => simpa [processManifests] using vouched
  | cons item items inductionHypothesis =>
    obtain ⟨safeFirst, safeRest⟩ := safe
    have first := processManifest_vouched vouched (own index item.data) safeFirst
    simp only [processManifests]
    generalize processManifest csuit (manifests index) item suit = processed at first safeRest
    obtain ⟨after, events, failure⟩ := processed
    cases failure with
    | some failure => exact first
    | none =>
      have rest := inductionHypothesis (index + 1) first (safeRest rfl)
      simpa using rest

theorem processUpdate_vouched {update : TeepUpdate} (vouched : Vouched trace suit.table)
    (own : ManifestsOwn manifests) (safe : UpdateLeavesNone lib manifests update suit) :
    Vouched (trace ++ (processUpdate lib manifests update suit).events)
      (processUpdate lib manifests update suit).state.table := by
  simp only [processUpdate]
  split
  · simpa using vouched
  · next token =>
    split
    · simpa using vouched
    · next list =>
      have processed := processManifests_vouched 0 update.manifestList vouched own
        (safe (by simpa using token) (by simpa using list))
      split <;>
      · next made =>
        rw [made] at processed
        exact processed

/-! ## ECALLs -/

theorem sendMessage_vouched {env : MessageEnv} {args : MessageArgs} {state : EnclaveState} (events : List Event)
    (message : TeepMessage) (vouched : Vouched (trace ++ events) state.table) :
    Vouched (trace ++ ((sendMessage env args message state).after events).events)
      ((sendMessage env args message state).after events).state.table := by
  have sent := vouched.quiet (encodeAndSign_within env args message) (by simp)
  rw [List.append_assoc] at sent
  exact sent

theorem ecallProcessMessage_vouched {env : MessageEnv} {args : MessageArgs} {state : EnclaveState}
    (vouched : Vouched trace state.table) (own : ManifestsOwn env.manifests)
    (safe : NoPayloadLeft lib state (.processMessage env args)) :
    Vouched (trace ++ (ecallProcessMessage lib env args state).events)
      (ecallProcessMessage lib env args state).state.table := by
  have exits := ecallProcessMessage_exit lib env args state
  have built : ∀ {trace table} message, Vouched trace table → Vouched (trace ++ [.built message]) table :=
    fun message earlier => earlier.other (by simp)
  generalize ecallProcessMessage lib env args state = outcome at exits
  cases exits with
  | refused nothing => simpa using vouched
  | early received waiting => exact sendMessage_vouched [] env.leftover (by simpa using vouched)
  | @query request received =>
    have within := queried_within lib env args request state
    have answered := built (queried lib env args request state).1 (vouched.quiet within (by simp))
    exact sendMessage_vouched _ _ (by simpa using answered)
  | @update update received expected =>
    have entered : Vouched (trace ++ [.updateEntered]) state.suit.table := vouched.other (by simp)
    have processed := processUpdate_vouched entered own (safe update received expected)
    have answered := built (updated lib env update state).message processed
    exact sendMessage_vouched _ _ (by simpa [updated, EnclaveState.table] using answered)

/-! ## Loading -/

theorem loadWamrModule_loaded {env : EnsureEnv} {wappName name : CString} {record : ManifestRecord}
    {state : WamrState} {bytes : Bytes} {size : Nat}
    (loaded : .wasmLoaded name bytes size ∈ (loadWamrModule env wappName record state).2.2) :
    bytes = record.wappBin.data := by
  have reset : ∀ loadedModule, .wasmLoaded name bytes size ∉ (resetWamrLoadedModule loadedModule).2 := by
    simp [resetWamrLoadedModule]
  simp only [loadWamrModule] at loaded
  split at loaded
  · cases loaded
  · have isFirst : ∀ {later : List Event}, .wasmLoaded name bytes size ∉ later →
        .wasmLoaded name bytes size ∈ Event.wasmLoaded wappName record.wappBin.data
          (record.wappBin.len % 2 ^ 32) :: later → bytes = record.wappBin.data := by
      intro later none member
      cases List.mem_cons.mp member with
      | inl same => exact (Event.wasmLoaded.inj same).2.1
      | inr inLater => exact absurd inLater none
    split at loaded
    · exact isFirst (reset _) loaded
    · split at loaded
      · exact isFirst (by simp [reset]) loaded
      · exact isFirst (by simp) loaded

theorem startWamr_loaded {env : EnsureEnv} {wappName name : CString} {record : ManifestRecord}
    {state : WamrState} {bytes : Bytes} {size : Nat}
    (loaded : .wasmLoaded name bytes size ∈ (startWamr csuit env wappName record state).2.2) :
    bytes = record.wappBin.data := by
  simp only [startWamr] at loaded
  split at loaded
  · split at loaded
    · cases loaded
    · exact loadWamrModule_loaded loaded
  · exact loadWamrModule_loaded loaded

/-- What is loaded is the payload of the record that looking the app name up finds. -/
theorem ensureWamrRunning_loaded {env : EnsureEnv} {wappName : Option CString} {state : WamrState}
    {name : CString} {bytes : Bytes} {size : Nat}
    (loaded : .wasmLoaded name bytes size ∈ (ensureWamrRunning csuit env wappName table state).2.2) :
    ∃ requested record, requested ≠ [] ∧
      tcManagerFindRecordByWappname table (some requested) = some record ∧
      record.wappBin.isNullOrEmpty = false ∧ bytes = record.wappBin.data := by
  cases wappName with
  | none => cases loaded
  | some requested =>
    simp only [ensureWamrRunning] at loaded
    split at loaded
    · cases loaded
    · next named =>
      split at loaded
      · cases loaded
      · next record found =>
        split at loaded
        · cases loaded
        · next full =>
          refine ⟨requested, record, named, found, by simpa using full, ?_⟩
          split at loaded
          · exact startWamr_loaded loaded
          · split at loaded
            · cases loaded
            · cases List.mem_append.mp loaded with
              | inl reset => simp [resetWamrLoadedModule] at reset
              | inr started => exact startWamr_loaded started

/-- Calling a function loads nothing. -/
theorem runFunction_loaded (env : InvokeEnv) (args : InvokeArgs) (funcName name : CString) (bytes : Bytes)
    (size : Nat) : .wasmLoaded name bytes size ∉ (runFunction env args funcName).2.2 := by
  intro loaded
  have untouched := runFunction_untouched env args funcName _ loaded
  cases untouched

theorem ecallInvokeWasm_loaded {env : InvokeEnv} {args : InvokeArgs} {state : WamrState} {name : CString}
    {bytes : Bytes} {size : Nat}
    (loaded : .wasmLoaded name bytes size ∈ (ecallInvokeWasm csuit env args table state).2.2.2) :
    .wasmLoaded name bytes size ∈ (ensureWamrRunning csuit env.ensure args.wappName table state).2.2 := by
  simp only [ecallInvokeWasm] at loaded
  split at loaded
  · cases loaded
  · split at loaded
    · cases loaded
    · split at loaded
      · cases loaded
      · split at loaded
        · next running events made =>
          rw [made]
          exact (List.mem_append.mp loaded).resolve_right (runFunction_loaded _ _ _ _ _ _)
        · next made =>
          rw [made]
          exact loaded

theorem loaded_vouched {env : InvokeEnv} {args : InvokeArgs} {state : WamrState} {name : CString} {bytes : Bytes}
    {size : Nat} (vouched : Vouched trace table)
    (loaded : .wasmLoaded name bytes size ∈ (ecallInvokeWasm csuit env args table state).2.2.2) :
    ∃ digest, Completed trace digest bytes ∧ ¬ Unmatched trace digest := by
  obtain ⟨requested, record, named, found, full, same⟩ := ensureWamrRunning_loaded (ecallInvokeWasm_loaded loaded)
  rw [findRecordByWappname_eq vouched.toClean named] at found
  have member : record ∈ table.active := List.mem_of_find?_eq_some found
  have wappName : record.wappName = requested := by simpa using List.find?_some found
  have loadable : Loadable record := ⟨by rw [wappName]; exact named, full⟩
  refine ⟨record.manifestDigest, ?_, vouched.matched record member loadable⟩
  rw [same]
  exact completed_of_settled (vouched.stored record member full) (vouched.settled record member loadable)

/-! ## Runs -/

theorem enclaveStep_vouched {state : EnclaveState} {action : EnclaveAction} (vouched : Vouched trace state.table)
    (own : OwnCallbacks action) (safe : NoPayloadLeft lib state action) :
    Vouched (trace ++ (enclaveStep lib state action).2) (enclaveStep lib state action).1.table := by
  cases action with
  | processMessage env args => exact ecallProcessMessage_vouched vouched own safe
  | invokeWasm env args => exact vouched.quiet (ecallInvokeWasm_within _ _ _ _ _) (by simp)

theorem enclaveStep_loaded {state : EnclaveState} {action : EnclaveAction} (vouched : Vouched trace state.table) :
    EveryEvent LoadedCompleted trace (enclaveStep lib state action).2 := by
  cases action with
  | processMessage env args =>
    -- a message loads nothing
    have within : Within [.heap, .processor, .suit, .message]
        (enclaveStep lib state (.processMessage env args)).2 := ecallProcessMessage_within lib env args state
    apply everyEvent_of_forall
    intro before event member name bytes size isLoad
    rw [isLoad] at member
    exact absurd member (within.not_mem (by simp [kindOf]))
  | invokeWasm env args =>
    intro before event after split name bytes size isLoad
    have member : .wasmLoaded name bytes size ∈
        (ecallInvokeWasm lib.csuit env args state.table state.wamr).2.2.2 := by
      change (ecallInvokeWasm lib.csuit env args state.table state.wamr).2.2.2 = _ at split
      rw [split, isLoad]
      simp
    -- nothing is stored between the start of the call and the load
    obtain ⟨digest, completed, matched⟩ := loaded_vouched vouched member
    have within : Within [.wasm] (enclaveStep lib state (.invokeWasm env args)).2 :=
      ecallInvokeWasm_within _ _ _ _ _
    rw [split, within_append] at within
    have quiet := within.1.quiet (by simp) digest
    exact ⟨digest, completed.append quiet.noPayloadStore, not_unmatched_append matched quiet.noMismatch⟩

/-- Whatever the callbacks of the manifests are, each for the digest of its own manifest: in a run from the
start in which no manifest fails and leaves its payload, or keeps one that does not match, every binary that is
loaded was completed, and no image match of it has failed. -/
theorem loaded_completed (lib : Libraries) (keyState : TeepKeyState) (agentKey : TeepKey)
    (run : List EnclaveAction) (own : ∀ action ∈ run, OwnCallbacks action)
    (safe : (enclaveMachine lib).Meets (NoPayloadLeft lib) (initialState keyState agentKey) run) :
    EveryEvent LoadedCompleted [] ((enclaveMachine lib).run (initialState keyState agentKey) run).2 := by
  have ownMeets := ((enclaveMachine lib).meets_const OwnCallbacks (initialState keyState agentKey) run).mpr own
  have start : Vouched [] (initialState keyState agentKey).table :=
    ⟨⟨empty_wellKept, by simp [initialState, EnclaveState.table]⟩, by simp [initialState, EnclaveState.table],
      by simp [initialState, EnclaveState.table]⟩
  have stepped : ∀ emitted (state : EnclaveState) action, Vouched emitted state.table →
      OwnCallbacks action ∧ NoPayloadLeft lib state action →
      Vouched (emitted ++ ((enclaveMachine lib).step state action).2)
        ((enclaveMachine lib).step state action).1.table :=
    fun emitted state action vouched meets => enclaveStep_vouched vouched meets.1 meets.2
  exact Machine.run_events stepped (fun emitted state action vouched _ => enclaveStep_loaded vouched) start
    (ownMeets.and safe)

/-! ## A payload that is completed, and one that is not -/

/-- The manifest and its payload are stored, and the image matches. -/
def matchedRun : EnvelopeRun where
  manifestDigest := .bytes [1]
  callbacks :=
    [.store (manifestStore [1] 1 [109] [160]) ⟨true, true⟩,
      .store (payloadStore [1] 1 [97] wasmVersion1) ⟨true, true⟩,
      .condition ⟨.bytes [1], .imageMatch, 8, .bytes (Cbor.encode
        (.array [.negative 15, .bytes (smallSha256 wasmVersion1).toList]))⟩ (some {})]
  result := .success

/-- Every call into the runtime succeeds, and the function returns one byte. -/
def workingInvoke : InvokeEnv where
  ensure := ⟨true, true, fun _ _ => some 1, fun _ => some 2⟩
  wasmRuntimeLookupFunction := fun _ => some 3
  wasmRuntimeCreateExecEnv := some 4
  inputMalloc := ⟨8, true⟩
  outputMalloc := ⟨16, true⟩
  firstCall := fun _ => some 1
  secondCall := fun _ => some (1, [42])

/-- A QueryRequest, an Update with one manifest, and a call of the app that it brings. -/
def updateAndInvoke (envelope : EnvelopeRun) : List EnclaveAction :=
  [.processMessage firstRequest ⟨[], some [97], 4096⟩,
    .processMessage (workingMessage (.update oneManifest) .other fun _ => envelope) ⟨[], some [97], 4096⟩,
    .invokeWasm workingInvoke ⟨some [97], some [102], .null 0, true, 16, true⟩]

theorem callsOwn_of_each {run : EnvelopeRun} (each : ∀ callback ∈ run.callbacks, (match callback with
      | .store args _ => args.manifestDigest
      | .condition args _ => args.manifestDigest
      | _ => run.manifestDigest) = run.manifestDigest) : CallsOwn run where
  stores := fun _ _ member => each _ member
  conditions := fun _ _ member => each _ member

theorem mismatchedRun_own : CallsOwn mismatchedRun :=
  callsOwn_of_each (by simp [mismatchedRun, manifestStore, payloadStore])

theorem updateAndInvoke_own {envelope : EnvelopeRun} (own : CallsOwn envelope) :
    ∀ action ∈ updateAndInvoke envelope, OwnCallbacks action := by
  intro action member
  simp only [updateAndInvoke, List.mem_cons, List.not_mem_nil, or_false] at member
  rcases member with rfl | rfl | rfl
  · exact fun _ _ => mismatchedRun_own
  · exact fun _ _ => own
  · trivial

theorem matched_completed :
    let events := ((enclaveMachine smallLibraries).run freshState (updateAndInvoke matchedRun)).2
    .wasmLoaded [97] wasmVersion1 8 ∈ events ∧ EveryEvent LoadedCompleted [] events := by
  intro events
  have own : CallsOwn matchedRun := callsOwn_of_each (by simp [matchedRun, manifestStore, payloadStore])
  refine ⟨by decide +kernel, loaded_completed smallLibraries .ready ⟨.null 0⟩ _ (updateAndInvoke_own own) ?_⟩
  refine ⟨?_, ?_, trivial, trivial⟩
  · intro update received
    cases received.2
  · intro update received _ _ _
    obtain rfl : update = oneManifest := by
      have same := received.2
      simp only [workingMessage, receive, Option.some.injEq, RecvMessage.update.injEq] at same
      exact same.symm
    -- the one image match succeeds
    have matched : endsUnmatched smallCsuit matchedRun.callbacks ⟨SlotTable.empty, .null 0⟩ = false := by
      decide +kernel
    refine ⟨fun _ => ⟨fun leaves => leaves.failed rfl, fun keeps => ?_⟩, fun _ => trivial⟩
    have unmatched := keeps.unmatched
    change endsUnmatched smallCsuit matchedRun.callbacks ⟨SlotTable.empty, .null 0⟩ = true at unmatched
    rw [matched] at unmatched
    cases unmatched

def unmatchedEvents : List Event :=
  ((enclaveMachine smallLibraries).run freshState (updateAndInvoke mismatchedRun)).2

/-- The condition callback has found that the image does not match, no record was ever checked, and the
payload is loaded all the same. -/
theorem unmatched_loaded :
    (∃ condition ∈ mismatchedRun.callbacks, .callback condition .conditionMismatch ∈ unmatchedEvents) ∧
      (∀ context digest returned, .recordChecked context digest returned ∉ unmatchedEvents) ∧
      .wasmLoaded [97] wasmVersion2 8 ∈ unmatchedEvents := by
  have unchecked : ∀ event ∈ unmatchedEvents, (match event with
      | .recordChecked _ _ _ => true
      | _ => false) = false := by
    decide +kernel
  refine ⟨by decide +kernel, ?_, by decide +kernel⟩
  intro context digest returned member
  cases unchecked _ member

theorem unmatched_uncompleted : ¬ ∀ (lib : Libraries) (keyState : TeepKeyState) (agentKey : TeepKey)
    (run : List EnclaveAction), (∀ action ∈ run, OwnCallbacks action) →
      EveryEvent LoadedCompleted [] ((enclaveMachine lib).run (initialState keyState agentKey) run).2 := by
  intro always
  obtain ⟨_, unchecked, loaded⟩ := unmatched_loaded
  obtain ⟨before, after, split⟩ := List.append_of_mem loaded
  obtain ⟨digest, completed, _⟩ :=
    always smallLibraries .ready ⟨.null 0⟩ _ (updateAndInvoke_own mismatchedRun_own) before _ after split _ _ _ rfl
  obtain ⟨earlier, _, _, _, between, context, later, completion, _⟩ := completed
  apply unchecked context digest 0
  rw [split]
  rw [List.nil_append] at completion
  simp [completion]

end Taws.Enclave
