import Taws.Enclave.Agent

/-!
# What the parts of the enclave emit

The events fall into kinds, and each part of the enclave emits events of a few kinds only: a call of
`ecall_process_message` itself emits those of a message, the functions it calls and the WASM side emit
none of these, and only libcsuit makes callbacks.

* `EventKind`, `Within` — the kinds, and events of given kinds.
* `processQueryRequest_within`, `processUpdate_within`, `encodeAndSign_within`, `ecallInvokeWasm_within`
-/

namespace Taws.Enclave

open TcManager
open Suit
open Teep
open Wasm

inductive EventKind where
  | heap
  -- the life of a SUIT processor
  | processor
  -- what a SUIT processor does with a manifest
  | suit
  | message
  | wasm
  deriving DecidableEq

def kindOf : Event → EventKind
  | .allocated _ => .heap
  | .freed _ => .heap
  | .processorInitialized _ => .processor
  | .processorFreed _ => .processor
  | .manifestAdded _ => .suit
  | .callback _ _ => .suit
  | .envelopeProcessed _ _ _ => .suit
  | .recordChecked _ _ _ => .suit
  | .updateEntered => .message
  | .built _ => .message
  | .encoded _ => .message
  | .signed _ => .message
  | _ => .wasm

/-- Every event is of one of the kinds. -/
def Within (kinds : List EventKind) (events : List Event) : Prop := ∀ event ∈ events, kindOf event ∈ kinds

variable {kinds : List EventKind}

@[simp] theorem within_nil : Within kinds [] := by simp [Within]

@[simp] theorem within_cons (event : Event) (events : List Event) :
    Within kinds (event :: events) ↔ kindOf event ∈ kinds ∧ Within kinds events := by
  simp [Within]

@[simp] theorem within_append (first second : List Event) :
    Within kinds (first ++ second) ↔ Within kinds first ∧ Within kinds second := by
  simp only [Within, List.mem_append]
  constructor
  · intro within
    exact ⟨fun event member => within event (.inl member), fun event member => within event (.inr member)⟩
  · rintro ⟨left, right⟩ event (member | member)
    · exact left event member
    · exact right event member

theorem within_map {α : Type} {list : List α} {event : α → Event}
    (within : ∀ value, kindOf (event value) ∈ kinds) : Within kinds (list.map event) := by
  intro each member
  obtain ⟨value, _, rfl⟩ := List.mem_map.mp member
  exact within value

theorem Within.not_mem {events : List Event} {event : Event} (within : Within kinds events)
    (other : kindOf event ∉ kinds) : event ∉ events := fun member => other (within event member)

theorem Within.mono {others : List EventKind} {events : List Event} (within : Within kinds events)
    (more : kinds ⊆ others) : Within others events := fun event member => more (within event member)

/-! ## QueryRequest -/

theorem attestationStep_within (lib : Libraries) (env : QueryEnv) (queryRequest : TeepQueryRequest)
    (keyPair : TeepKey) (queryResponse : TeepQueryResponse) (tmpLen : Nat) :
    Within [.heap] (attestationStep lib env queryRequest keyPair queryResponse tmpLen).2 := by
  have evidence : Within [.heap]
      (createEvidenceDcapEnvelope lib.qcbor env.evidence queryRequest tmpLen keyPair).2 := by
    unfold createEvidenceDcapEnvelope
    repeat' split
    all_goals simp [kindOf]
  simp only [attestationStep]
  split
  · exact within_nil
  · split
    · next made =>
      rw [made] at evidence
      exact evidence
    · next made =>
      rw [made] at evidence
      split <;> exact evidence

theorem buildTcInfo_within (lib : Libraries) (tcInfoBuf : Option Block) (item : TcListItem) :
    Within [.heap] (buildTcInfoCborFromTcListItem lib tcInfoBuf item).2 := by
  unfold buildTcInfoCborFromTcListItem
  simp only
  repeat' split
  all_goals simp [kindOf]

theorem buildTcInfos_within (lib : Libraries) (tcInfoBuf : Nat → Option Block) (index : Nat)
    (items : List TcListItem) :
    Within [.heap] (buildTcInfos lib tcInfoBuf index items).2 := by
  induction items generalizing index with
  | nil => exact within_nil
  | cons item items inductionHypothesis =>
    have first := buildTcInfo_within lib (tcInfoBuf index) item
    have rest := inductionHypothesis (index + 1)
    simp only [buildTcInfos]
    split
    · next events built =>
      rw [built] at first
      exact first
    · next info events built =>
      rw [built] at first
      split <;>
      · next later others =>
        rw [others] at rest
        exact (within_append _ _).mpr ⟨first, rest⟩

theorem tcListStep_within (lib : Libraries) (env : QueryEnv) (table : RecordTable)
    (queryResponse : TeepQueryResponse) :
    Within [.heap] (tcListStep lib env table queryResponse).2 := by
  simp only [tcListStep]
  split
  · exact within_nil
  · split
    · exact within_nil
    · split
      · exact within_nil
      · next items _ =>
        split
        · simp [kindOf]
        · have infos := buildTcInfos_within lib env.tcInfoBuf 0
            (tcManagerGetTcList lib.csuit table true (tcManagerRecordCount table) true).2
          split <;>
          · next events built =>
            rw [built] at infos
            have freed : Within [.heap] (freeQueryResponseTcListBuffers queryResponse) :=
              within_map fun _ => by simp [kindOf]
            simp [kindOf, infos, freed]

theorem trustedComponentsStep_within (lib : Libraries) (env : QueryEnv) (queryRequest : TeepQueryRequest)
    (appName : Option CString) (table : RecordTable) (queryResponse : TeepQueryResponse) (tmpLen : Nat) :
    Within [.heap] (trustedComponentsStep lib env queryRequest appName table queryResponse tmpLen).2 := by
  simp only [trustedComponentsStep]
  split
  · exact within_nil
  · cases appName with
    | none => exact within_nil
    | some name =>
      simp only
      split
      · exact within_nil
      · split
        · exact within_nil
        · exact tcListStep_within lib env table _

theorem processQueryRequest_within (lib : Libraries) (env : QueryEnv) (queryRequest : TeepQueryRequest)
    (workBuf : Nat) (appName : Option CString) (keyPair : TeepKey) (table : RecordTable) :
    Within [.heap] (processQueryRequest lib env queryRequest workBuf appName keyPair table).2.2 := by
  have built : Within [.heap] (buildQueryResponse lib env queryRequest workBuf appName keyPair table).2 := by
    simp only [buildQueryResponse, requestedItems]
    split
    · exact within_nil
    · split
      · exact within_nil
      · have attested := attestationStep_within lib env queryRequest keyPair (clearedResponse queryRequest)
          workBuf
        split
        · next code events made =>
          rw [made] at attested
          exact attested
        · next queryResponse tmpLen events made =>
          rw [made] at attested
          exact (within_append _ _).mpr ⟨attested, trustedComponentsStep_within _ _ _ _ _ _ _⟩
  simp only [processQueryRequest]
  split <;>
  · next made =>
    rw [made] at built
    exact built

/-! ## Update -/

theorem setUpProcessor_within (env : ManifestEnv) : Within [.heap, .processor] (setUpProcessor env).events := by
  unfold setUpProcessor
  repeat' split
  all_goals simp [kindOf]

theorem release_within (held : Resources) : Within [.heap, .processor] (release held) := by
  obtain ⟨engine, context, initialized⟩ := held
  cases engine <;> cases context <;> cases initialized <;> simp [release, kindOf]

theorem processEnvelope_within (csuit : Libcsuit) (context : Block) (run : EnvelopeRun) (state : SuitState) :
    Within [.heap, .processor, .suit] (processEnvelope csuit context run state).2.1 := by
  have called : Within [.heap, .processor, .suit] ((runCallbacks csuit run.callbacks state).1.map fun called =>
      Event.callback called.1 called.2) := within_map fun _ => by simp [kindOf]
  simp only [processEnvelope]
  split
  · simp [called, kindOf]
  · split <;> simp [called, kindOf]

theorem processManifest_within (csuit : Libcsuit) (env : ManifestEnv) (item : Buffer) (state : SuitState) :
    Within [.heap, .processor, .suit] (processManifest csuit env item state).2.1 := by
  have setUp : Within [.heap, .processor, .suit] (setUpProcessor env).events :=
    (setUpProcessor_within env).mono (by simp)
  have released : Within [.heap, .processor, .suit] (release (setUpProcessor env).held) :=
    (release_within _).mono (by simp)
  simp only [processManifest]
  split
  · simp [setUp, released]
  · split
    · simp [setUp, released]
    · split
      · simp [setUp, released, kindOf]
      · simp [setUp, released, kindOf, processEnvelope_within]

theorem processManifests_within (csuit : Libcsuit) (manifests : Nat → ManifestEnv) (index : Nat)
    (items : List Buffer) (state : SuitState) :
    Within [.heap, .processor, .suit] (processManifests csuit manifests index items state).2.1 := by
  induction items generalizing index state with
  | nil => exact within_nil
  | cons item items inductionHypothesis =>
    have first := processManifest_within csuit (manifests index) item state
    simp only [processManifests]
    split
    · next after events failure processed =>
      rw [processed] at first
      exact first
    · next after events processed =>
      rw [processed] at first
      exact (within_append _ _).mpr ⟨first, inductionHypothesis (index + 1) after⟩

theorem processUpdate_within (lib : Libraries) (manifests : Nat → ManifestEnv) (update : TeepUpdate)
    (state : SuitState) :
    Within [.heap, .processor, .suit] (processUpdate lib manifests update state).events := by
  have processed := processManifests_within lib.csuit manifests 0 update.manifestList state
  simp only [processUpdate]
  split
  · exact within_nil
  · split
    · exact within_nil
    · split <;>
      · next split =>
        rw [split] at processed
        exact processed

/-! ## Sending -/

theorem freeTcList_within (message : TeepMessage) : Within [.heap] (freeTcList message) := by
  cases message with
  | queryResponse response => exact within_map fun _ => by simp [kindOf]
  | error error => exact within_nil
  | success success => exact within_nil
  | other => exact within_nil

theorem encodeAndSign_within (env : MessageEnv) (args : MessageArgs) (message : TeepMessage) :
    Within [.heap, .message] (encodeAndSign env args message).2 := by
  have freed : Within [.heap, .message] (freeTcList message) := (freeTcList_within message).mono (by simp)
  unfold encodeAndSign
  repeat' split
  all_goals simp [freed, kindOf]

/-! ## WASM -/

theorem ensureWamrRunning_within (csuit : Libcsuit) (env : EnsureEnv) (wappName : Option CString)
    (table : RecordTable) (state : WamrState) :
    Within [.wasm] (ensureWamrRunning csuit env wappName table state).2.2 := by
  have reset : ∀ loadedModule, Within [.wasm] (resetWamrLoadedModule loadedModule).2 := by
    intro loadedModule
    exact (within_append _ _).mpr ⟨within_map fun _ => by simp [kindOf], within_map fun _ => by simp [kindOf]⟩
  have load : ∀ name record state, Within [.wasm] (loadWamrModule env name record state).2.2 := by
    intro name record state
    simp only [loadWamrModule]
    repeat' split
    all_goals simp [reset, kindOf]
  have start : ∀ name record state, Within [.wasm] (startWamr csuit env name record state).2.2 := by
    intro name record state
    simp only [startWamr]
    split
    · split
      · exact within_nil
      · exact load _ _ _
    · exact load _ _ _
  simp only [ensureWamrRunning]
  repeat' split
  all_goals simp [reset, start]

theorem ecallInvokeWasm_within (csuit : Libcsuit) (env : InvokeEnv) (args : InvokeArgs) (table : RecordTable)
    (state : WamrState) : Within [.wasm] (ecallInvokeWasm csuit env args table state).2.2.2 := by
  have fetched : ∀ execEnv wasmInPtr retLen, Within [.wasm] (fetchOutput env args execEnv wasmInPtr retLen).2.2 := by
    intro execEnv wasmInPtr retLen
    simp only [fetchOutput, endInvoke]
    repeat' split
    all_goals simp [kindOf]
  have called : ∀ execEnv wasmInPtr, Within [.wasm] (callFunction env args execEnv wasmInPtr).2.2 := by
    intro execEnv wasmInPtr
    simp only [callFunction, endInvoke]
    repeat' split
    all_goals simp [kindOf, fetched]
  have ran : ∀ funcName, Within [.wasm] (runFunction env args funcName).2.2 := by
    intro funcName
    simp only [runFunction]
    repeat' split
    all_goals simp [kindOf, called]
  have ensured := ensureWamrRunning_within csuit env.ensure args.wappName table state
  simp only [ecallInvokeWasm]
  split
  · exact within_nil
  · split
    · exact within_nil
    · split
      · exact within_nil
      · split <;>
        · next made =>
          rw [made] at ensured
          simp [ensured, ran]

end Taws.Enclave
