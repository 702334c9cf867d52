import Taws.Catalogue
import Taws.Enclave.Order
import Taws.Teep.ComponentIdentity
import Taws.Teep.QueryOutcome
import Taws.TcManager.Replay
import Taws.Wasm.ModuleCache
import Taws.Wasm.Contract

/-!
# The enclave as a catalogue of apps

An Update delivers manifests, a QueryRequest lists the installed apps, and calling a function fetches one of them.
Seen from outside, and in whatever order these come, the enclave is the catalogue of `Taws.Catalogue`: what it lists
and what it runs are the newest versions of the apps that have been delivered.

* `Delivers` — one run of `suit_process_envelope` stores a whole manifest, or nothing.
* `observe` — what a catalogue would be seen to do.
* `Represents` — the records and the loaded module against the manifests that have been delivered.
* `enclave_catalogue` — every run is one of the catalogue.
* `fetched_noDowngrade` — no app is run in an older version than it was run in before.
-/

namespace Taws.Enclave

open TcManager
open Suit
open Teep
open Wasm
open SlotTable
open scoped List

/-! ## Delivering manifests -/

/-- The manifest whose two store callbacks were run. -/
def manifestOf (run : EnvelopeRun) : Option Manifest :=
  match run.processing.stores with
  | [(manifest, _), (payload, _)] =>
    some
      { digest := run.manifestDigest.data
        sequenceNumber := manifest.manifestSequenceNumber
        nameId := manifest.dst
        wappId := payload.dst
        bin := manifest.srcBuf.data
        payload := payload.srcBuf.data }
  | _ => none

/-- The envelope is that of a known manifest and is processed to its end, or fails before anything is stored. -/
inductive Delivers (known : List Manifest) (run : EnvelopeRun) : Prop where
  | whole (manifest : Manifest) (isKnown : manifest ∈ known)
      (stores : run.processing.stores = [(manifest.manifestArgs, ⟨true, true⟩), (manifest.payloadArgs, ⟨true, true⟩)])
      (digest : run.manifestDigest = .bytes manifest.digest) (success : run.result = .success)
  | refused (stores : run.processing.stores = []) (failed : run.result ≠ .success)

instance (known : List Manifest) (run : EnvelopeRun) : Decidable (Delivers known run) :=
  decidable_of_iff
    ((∃ manifest ∈ known,
        run.processing.stores = [(manifest.manifestArgs, ⟨true, true⟩), (manifest.payloadArgs, ⟨true, true⟩)] ∧
          run.manifestDigest = .bytes manifest.digest ∧ run.result = .success) ∨
      run.processing.stores = [] ∧ run.result ≠ .success)
    ⟨fun holds => by
      obtain ⟨manifest, isKnown, stores, digest, success⟩ | ⟨stores, failed⟩ := holds
      · exact .whole manifest isKnown stores digest success
      · exact .refused stores failed,
    fun delivers => by
      cases delivers with
      | whole manifest isKnown stores digest success => exact .inl ⟨manifest, isKnown, stores, digest, success⟩
      | refused stores failed => exact .inr ⟨stores, failed⟩⟩

/-- The manifests of the envelopes in the list, from `index` on. -/
def carried (manifests : Nat → ManifestEnv) (index : Nat) (items : List Buffer) : List Manifest :=
  (items.zipIdx index).filterMap fun item => manifestOf ((manifests item.2).processEnvelope item.1.data)

variable {csuit : Libcsuit} {known history held : List Manifest} {state : SuitState} {env : ManifestEnv}
  {manifests : Nat → ManifestEnv} {item : Buffer} {run : EnvelopeRun}

theorem manifestOf_whole {manifest : Manifest}
    (stores : run.processing.stores = [(manifest.manifestArgs, ⟨true, true⟩), (manifest.payloadArgs, ⟨true, true⟩)])
    (digest : run.manifestDigest = .bytes manifest.digest) : manifestOf run = some manifest := by
  simp only [manifestOf, stores, digest]
  rfl

theorem Delivers.isKnown (delivers : Delivers known run) : ∀ manifest ∈ manifestOf run, manifest ∈ known := by
  intro manifest isManifest
  cases delivers with
  | whole delivered isKnown stores digest success =>
    rw [manifestOf_whole stores digest] at isManifest
    obtain rfl : delivered = manifest := Option.some.inj isManifest
    exact isKnown
  | refused stores failed => simp [manifestOf, stores] at isManifest

/-- What stands behind a table: the manifests that are held, the newest of each app among those that have come. -/
def Stands (csuit : Libcsuit) (table : RecordTable) (history : List Manifest) : Prop :=
  ∃ held, Installed csuit table held ∧ KeepsLatest (wappName csuit) rank held history

/-- How far processing gets in a list of manifests. -/
def Takes (csuit : Libcsuit) (history offered : List Manifest)
    (processed : SuitState × List Event × Option UpdateFailure) : Prop :=
  ∃ (done rest : List Manifest), offered = done ++ rest ∧ Stands csuit processed.1.table (done.reverse ++ history) ∧
    (processed.2.2 = none → rest = [])

theorem processManifest_takes (sha256 : csuit.Sha256Succeeds) (installable : Installable csuit known)
    (seen : ∀ manifest ∈ history, manifest ∈ known) (stands : Stands csuit state.table history)
    (delivers : Delivers known (env.processEnvelope item.data)) :
    Takes csuit history (manifestOf (env.processEnvelope item.data)).toList
      (processManifest csuit env item state) := by
  have table := processManifest_table csuit env item state
  -- nothing of it is taken, and that is a failure
  have unchanged : tcCalls (processManifest csuit env item state).2.1 = [] →
      (processManifest csuit env item state).2.2 ≠ none →
      Takes csuit history (manifestOf (env.processEnvelope item.data)).toList
        (processManifest csuit env item state) := by
    intro noCalls fails
    refine ⟨[], _, rfl, ?_, fun finished => absurd finished fails⟩
    rw [table, noCalls]
    exact stands
  cases processManifest_calls csuit env item state with
  | inl refused => exact unchanged refused.1 refused.2
  | inr processed =>
    obtain ⟨calls, finalises⟩ := processed
    cases delivers with
    | refused stores failed =>
      have notFinalised : (env.processEnvelope item.data).processing.finalises = false := by
        simp [EnvelopeRun.processing, failed]
      apply unchanged
      · rw [calls, Processing.calls, Processing.storeCalls, stores, notFinalised]
        rfl
      · intro finished
        rw [(finalises finished).1] at notFinalised
        cases notFinalised
    | whole manifest isKnown stores digest success =>
      obtain ⟨held, installed, keeps⟩ := stands
      obtain ⟨after, held', process, afterInstalled, afterKeeps⟩ :=
        process_installed sha256 installable seen isKnown installed keeps
      have isProcess : tcCalls (processManifest csuit env item state).2.1 = manifest.process := by
        have finalised : (env.processEnvelope item.data).processing.finalises = true := by
          simp [EnvelopeRun.processing, success]
        have isDigest : (env.processEnvelope item.data).processing.digest = .bytes manifest.digest := digest
        rw [calls, Processing.calls, Processing.storeCalls, stores, finalised, isDigest]
        rfl
      refine ⟨[manifest], [], by rw [manifestOf_whole stores digest]; rfl, ⟨held', ?_, afterKeeps⟩, fun _ => rfl⟩
      rw [table, isProcess, tcRun, process]
      exact afterInstalled

theorem processManifests_takes (sha256 : csuit.Sha256Succeeds) (installable : Installable csuit known)
    (index : Nat) (items : List Buffer) (seen : ∀ manifest ∈ history, manifest ∈ known)
    (stands : Stands csuit state.table history)
    (delivers : ∀ item ∈ items.zipIdx index, Delivers known ((manifests item.2).processEnvelope item.1.data)) :
    Takes csuit history (carried manifests index items) (processManifests csuit manifests index items state) := by
  induction items generalizing index state history with
  | nil => exact ⟨[], [], rfl, stands, fun _ => rfl⟩
  | cons item items inductionHypothesis =>
    rw [List.zipIdx_cons, List.forall_mem_cons] at delivers
    have isKnown := delivers.1.isKnown
    have offered : carried manifests index (item :: items) =
        (manifestOf ((manifests index).processEnvelope item.data)).toList ++ carried manifests (index + 1) items := by
      simp only [carried, List.zipIdx_cons, List.filterMap_cons]
      cases manifestOf ((manifests index).processEnvelope item.data) <;> rfl
    have first : Takes csuit history (manifestOf ((manifests index).processEnvelope item.data)).toList
        (processManifest csuit (manifests index) item state) :=
      processManifest_takes sha256 installable seen stands delivers.1
    rw [offered]
    simp only [processManifests]
    split
    · next after events failure processed =>
      rw [processed] at first
      obtain ⟨done, rest, isSplit, stood, _⟩ := first
      exact ⟨done, rest ++ carried manifests (index + 1) items, by rw [isSplit, List.append_assoc], stood, by simp⟩
    · next after events processed =>
      rw [processed] at first
      obtain ⟨done, rest, isSplit, stood, finished⟩ := first
      obtain rfl : rest = [] := finished rfl
      rw [List.append_nil] at isSplit
      have nowSeen : ∀ manifest ∈ done.reverse ++ history, manifest ∈ known := by
        intro manifest member
        cases List.mem_append.mp member with
        | inl inDone =>
          rw [List.mem_reverse, ← isSplit, Option.mem_toList] at inDone
          exact isKnown manifest inDone
        | inr inHistory => exact seen manifest inHistory
      obtain ⟨laterDone, laterRest, laterSplit, laterStood, laterFinished⟩ :=
        inductionHypothesis (index + 1) nowSeen stood delivers.2
      refine ⟨done ++ laterDone, laterRest, ?_, ?_, laterFinished⟩
      · rw [isSplit, laterSplit, List.append_assoc]
      · rw [List.reverse_append, List.append_assoc]
        exact laterStood

/-! ## Listing the apps -/

/-- What the Catalogue shows of an entry: the app name and the hash of the binary. -/
def labelOf (csuit : Libcsuit) (manifest : Manifest) : CString × Bytes :=
  (wappName csuit manifest, (csuit.sha256 manifest.payload).toList)

/-- What a message shows of the installed apps. -/
def shown : TeepMessage → CatalogueEvent Manifest CString (CString × Bytes)
  | .queryResponse response =>
    if .requestedTcList ∈ response.contains then .listed (response.tcList.map fun info => tcInfoEntry info.encoded)
    else .refused
  | _ => .refused

variable {lib : Libraries} {queryEnv : QueryEnv} {queryRequest : TeepQueryRequest} {appName : Option CString}
  {keyPair : TeepKey} {table : RecordTable} {workBuf : Nat} {response : TeepQueryResponse}

theorem buildTcInfos_encoded (preferred : lib.qcbor.PreferredSerialisation) {tcInfoBuf : Nat → Option Block}
    {index : Nat} {items : List TcListItem} {infos : List TcInfo}
    (built : (buildTcInfos lib tcInfoBuf index items).1 = some infos) :
    infos.map TcInfo.encoded = items.map fun item => Cbor.encode (tcInfoMap item) := by
  induction items generalizing index infos with
  | nil =>
    cases built
    rfl
  | cons item items inductionHypothesis =>
    simp only [buildTcInfos] at built
    split at built
    · cases built
    next info events made =>
    split at built
    · cases built
    next others later rest =>
    cases built
    have head : info.encoded = Cbor.encode (tcInfoMap item) :=
      buildTcInfo_encoded preferred (congrArg Prod.fst made)
    have tail := inductionHypothesis (congrArg Prod.fst rest)
    rw [List.map_cons, List.map_cons, head, tail]

/-- A tc-list that is built has an entry for each active record, in the order of the table. -/
theorem tcListStep_listed (preferred : lib.qcbor.PreferredSerialisation) (clean : table.Clean)
    (fits : ∀ record ∈ table.active, NameFits lib.csuit record.wappName) {queryResponse : TeepQueryResponse}
    (empty : queryResponse.tcList = []) (ok : (tcListStep lib queryEnv table queryResponse).1 = .ok response) :
    response.tcList.map TcInfo.encoded = table.active.map fun record => Cbor.encode (tcInfoMap (itemOf record)) := by
  simp only [tcListStep] at ok
  split at ok
  · cases ok
  split at ok
  · next noRecords =>
    cases ok
    rw [empty, active_of_len_zero noRecords]
    rfl
  next inUse =>
  split at ok
  · cases ok
  rw [getTcList_eq clean fits inUse] at ok
  by_cases complete : table.active.all manifestRecordIsComplete = true
  · simp only [complete, if_true, ne_eq, not_true_eq_false, if_false] at ok
    split at ok
    · cases ok
    next infos events made =>
    cases ok
    have encodings := buildTcInfos_encoded preferred (congrArg Prod.fst made)
    rw [List.map_map] at encodings
    exact encodings
  · simp only [complete] at ok
    cases ok

theorem attestationStep_noRequest {queryResponse built : TeepQueryResponse} {tmpLen rest : Nat}
    (noRequest : .requestedTcList ∉ queryResponse.contains)
    (ok : (attestationStep lib queryEnv queryRequest keyPair queryResponse tmpLen).1 = .ok (built, rest)) :
    .requestedTcList ∉ built.contains := by
  simp only [attestationStep] at ok
  split at ok
  · cases ok
    exact noRequest
  split at ok
  · cases ok
  split at ok
  · cases ok
  · cases ok
    simp [noRequest]

theorem trustedComponentsStep_listed (preferred : lib.qcbor.PreferredSerialisation) (clean : table.Clean)
    (fits : ∀ record ∈ table.active, NameFits lib.csuit record.wappName) {queryResponse : TeepQueryResponse}
    {tmpLen : Nat} (empty : queryResponse.tcList = []) (noRequest : .requestedTcList ∉ queryResponse.contains)
    (ok : (trustedComponentsStep lib queryEnv queryRequest appName table queryResponse tmpLen).1 = .ok response)
    (listed : .requestedTcList ∈ response.contains) :
    response.tcList.map TcInfo.encoded = table.active.map fun record => Cbor.encode (tcInfoMap (itemOf record)) := by
  simp only [trustedComponentsStep] at ok
  split at ok
  · cases ok
    exact absurd listed noRequest
  split at ok
  · cases ok
  split at ok
  · cases ok
  split at ok
  · cases ok
  exact tcListStep_listed preferred clean fits (by exact empty) ok

/-- A QueryResponse that lists anything lists the active records. -/
theorem queryResponse_listed (preferred : lib.qcbor.PreferredSerialisation) (clean : table.Clean)
    (fits : ∀ record ∈ table.active, NameFits lib.csuit record.wappName)
    (answered : (processQueryRequest lib queryEnv queryRequest workBuf appName keyPair table).2.1 =
      .queryResponse response)
    (listed : .requestedTcList ∈ response.contains) :
    response.tcList.map TcInfo.encoded = table.active.map fun record => Cbor.encode (tcInfoMap (itemOf record)) := by
  rw [processQueryRequest_built] at answered
  split at answered
  · cases answered
  next queryResponse built =>
  cases answered
  simp only [buildQueryResponse, requestedItems] at built
  split at built
  · cases built
  split at built
  · cases built
  split at built
  · cases built
  next attested tmpLen events made =>
  have isAttested : (attestationStep lib queryEnv queryRequest keyPair (clearedResponse queryRequest) workBuf).1 =
      .ok (attested, tmpLen) := congrArg Prod.fst made
  have empty : attested.tcList = [] := attestationStep_tcList isAttested
  have noRequest : .requestedTcList ∉ attested.contains :=
    attestationStep_noRequest (by simp [clearedResponse_contains]) isAttested
  exact trustedComponentsStep_listed preferred clean fits empty noRequest built listed

theorem wappName_fits (filenames : csuit.FilenamesFit) (manifest : Manifest) :
    NameFits csuit (wappName csuit manifest) :=
  setIds_fits filenames manifest.wappId (.inl rfl)

theorem Installed.nameFits {held : List Manifest} (filenames : csuit.FilenamesFit)
    (installed : Installed csuit table held) : ∀ record ∈ table.active, NameFits csuit record.wappName := by
  intro record member
  obtain ⟨manifest, _, rfl⟩ := List.mem_map.mp (installed.active.mem_iff.mp member)
  exact wappName_fits filenames manifest

theorem tcInfoEntry_fits (nameLength : csuit.suitMaxNameLength < 2 ^ 64) {record : ManifestRecord}
    (fits : NameFits csuit record.wappName) :
    tcInfoEntry (Cbor.encode (tcInfoMap (itemOf record))) = some (record.wappName, record.wappHash.toList) := by
  have sized : record.wappName.length < 2 ^ 64 := by
    cases fits with
    | inl noName => simp [noName]
    | inr short => exact Nat.lt_trans short nameLength
  exact tcInfoEntry_encode sized

/-- What a QueryRequest shows, a catalogue of what has been delivered may show. -/
theorem queryRequest_shown (preferred : lib.qcbor.PreferredSerialisation) (filenames : lib.csuit.FilenamesFit)
    (nameLength : lib.csuit.suitMaxNameLength < 2 ^ 64) (stands : Stands lib.csuit table history) :
    CatalogueStep (wappName lib.csuit) rank (labelOf lib.csuit) history
      (shown (processQueryRequest lib queryEnv queryRequest workBuf appName keyPair table).2.1) history := by
  obtain ⟨held, installed, keeps⟩ := stands
  cases answered : (processQueryRequest lib queryEnv queryRequest workBuf appName keyPair table).2.1 with
  | error error => exact .refused
  | success success => exact .refused
  | other => exact .refused
  | queryResponse response =>
    simp only [shown]
    split
    swap
    · exact .refused
    next listed =>
    have fits := Installed.nameFits filenames installed
    have encodings := queryResponse_listed preferred installed.toClean fits answered listed
    refine .listed keeps.nodup keeps.mem_iff ?_
    calc response.tcList.map (fun info => tcInfoEntry info.encoded)
      _ = (response.tcList.map TcInfo.encoded).map tcInfoEntry := by
        rw [List.map_map]
        rfl
      _ = table.active.map fun record => tcInfoEntry (Cbor.encode (tcInfoMap (itemOf record))) := by
        rw [encodings, List.map_map]
        rfl
      _ = table.active.map fun record => some (record.wappName, record.wappHash.toList) :=
        List.map_congr_left fun record member => tcInfoEntry_fits nameLength (fits record member)
      _ ~ (held.map (recordOf lib.csuit)).map fun record => some (record.wappName, record.wappHash.toList) :=
        installed.active.map _
      _ = held.map fun manifest => some (labelOf lib.csuit manifest) := by
        rw [List.map_map]
        rfl

/-! ## Calling a function -/

/-- The bytes that the live instance was made from. -/
def running (runtime : Runtime) : Option Bytes :=
  match runtime.instances with
  | [(_, module)] => runtime.modules.lookup module
  | _ => none

/-- The enclave, and what the WASM runtime holds; `none` once it has been misused. -/
structure CatalogueState where
  enclave : EnclaveState
  runtime : Option Runtime

/-- What the runtime holds after the call. -/
def runtimeAfter (lib : Libraries) (env : InvokeEnv) (args : InvokeArgs) (state : CatalogueState) : Option Runtime :=
  state.runtime.bind fun runtime =>
    runtime.replay env.ensure (ecallInvokeWasm lib.csuit env args state.enclave.table state.enclave.wamr).2.2.2

/-- A call is seen to fetch what the instance was made from that its WASM calls go to. -/
def observeInvocation (lib : Libraries) (env : InvokeEnv) (args : InvokeArgs) (state : CatalogueState) :
    CatalogueEvent Manifest CString (CString × Bytes) :=
  let invoked := ecallInvokeWasm lib.csuit env args state.enclave.table state.enclave.wamr
  let wanted := args.wappName.getD []
  if invoked.1 = .trustedComponentNotFound then .absent wanted
  else if wasmCalls invoked.2.2.2 = [] then .refused
  else
    .fetched wanted
      (((runtimeAfter lib env args state).bind running).map fun bytes => (wanted, (lib.csuit.sha256 bytes).toList))

variable {loaded : WamrLoadedModule} {runtime : Runtime} {invokeEnv : InvokeEnv} {invokeArgs : InvokeArgs}
  {wamr : WamrState}

theorem Installed.hashBound {held : List Manifest} (installed : Installed csuit table held) :
    HashBound csuit table := by
  intro record member _
  obtain ⟨manifest, _, rfl⟩ := List.mem_map.mp (installed.active.mem_iff.mp member)
  rfl

/-- What is found for a name is the record of the newest manifest of that name. -/
theorem Stands.found (stands : Stands csuit table history) {name : CString} {record : ManifestRecord}
    (named : name ≠ []) (found : tcManagerFindRecordByWappname table (some name) = some record) :
    ∃ manifest, IsLatest (wappName csuit) rank history manifest ∧ record = recordOf csuit manifest ∧
      wappName csuit manifest = name := by
  obtain ⟨held, installed, keeps⟩ := stands
  rw [findRecordByWappname_eq installed.toClean named] at found
  have member := List.mem_of_find?_eq_some found
  have carries := List.find?_some found
  obtain ⟨manifest, isHeld, rfl⟩ := List.mem_map.mp (installed.active.mem_iff.mp member)
  exact ⟨manifest, (keeps.mem_iff manifest).mp isHeld, rfl, beq_iff_eq.mp carries⟩

/-- An app that has been delivered is installed, in this version or a newer one. -/
theorem Stands.installed (stands : Stands csuit table history) {manifest : Manifest} (member : manifest ∈ history) :
    ∃ record ∈ table.active, record.wappName = wappName csuit manifest ∧
      manifest.sequenceNumber ≤ record.manifestSequenceNumber := by
  obtain ⟨held, installed, keeps⟩ := stands
  obtain ⟨latest, isLatest, sameName⟩ : ∃ latest, IsLatest (wappName csuit) rank history latest ∧ _ :=
    exists_isLatest member
  have isHeld := (keeps.mem_iff latest).mpr isLatest
  refine ⟨recordOf csuit latest, installed.active.mem_iff.mpr (List.mem_map_of_mem isHeld), sameName, ?_⟩
  exact UInt64.le_iff_toNat_le.mpr (isLatest.2 manifest member sameName.symm)

/-- The active records are those of the newest manifest of each app. -/
theorem Stands.active_iff (stands : Stands csuit table history) (record : ManifestRecord) :
    record ∈ table.active ↔ ∃ manifest, IsLatest (wappName csuit) rank history manifest ∧
      record = recordOf csuit manifest := by
  obtain ⟨held, installed, keeps⟩ := stands
  rw [installed.active.mem_iff, List.mem_map]
  constructor
  · rintro ⟨manifest, isHeld, rfl⟩
    exact ⟨manifest, (keeps.mem_iff manifest).mp isHeld, rfl⟩
  · rintro ⟨manifest, latest, rfl⟩
    exact ⟨manifest, (keeps.mem_iff manifest).mpr latest, rfl⟩

/-- Nothing is found for a name that has never come. -/
theorem Stands.notFound (stands : Stands csuit table history) {name : CString} (named : name ≠ [])
    (notFound : tcManagerFindRecordByWappname table (some name) = none) :
    ∀ manifest ∈ history, wappName csuit manifest ≠ name := by
  obtain ⟨held, installed, keeps⟩ := stands
  intro manifest member isNamed
  obtain ⟨latest, isLatest, sameName⟩ : ∃ latest, IsLatest (wappName csuit) rank history latest ∧ _ :=
    exists_isLatest member
  have isHeld := (keeps.mem_iff latest).mpr isLatest
  rw [findRecordByWappname_eq installed.toClean named, List.find?_eq_none] at notFound
  refine notFound (recordOf csuit latest) (installed.active.mem_iff.mpr (List.mem_map_of_mem isHeld)) ?_
  exact beq_iff_eq.mpr (sameName.trans isNamed)

theorem Accounted.running_eq (accounted : Accounted csuit loaded runtime) {record : ManifestRecord}
    (runs : RunsRecord csuit (some record) loaded runtime) :
    ∃ bytes, running runtime = some bytes ∧ csuit.sha256 bytes = record.wappHash := by
  obtain ⟨_, isRecord, module, moduleInstance, bytes, _, isInstance, isModule, hash⟩ := runs
  obtain rfl := Option.some.inj isRecord
  cases accounted with
  | idle noModule noInstance => simp [Runtime.idle] at isInstance
  | cached hasModule hasInstance _ =>
    rw [List.mem_singleton] at isInstance isModule
    cases isInstance
    cases isModule
    exact ⟨bytes, by simp [running], hash⟩

theorem startWamr_ne_notFound (csuit : Libcsuit) (env : EnsureEnv) (name : CString) (record : ManifestRecord)
    (wamr : WamrState) : (startWamr csuit env name record wamr).1 ≠ .trustedComponentNotFound := by
  have loads : ∀ wamr, (loadWamrModule env name record wamr).1 ≠ .trustedComponentNotFound := by
    intro wamr
    simp only [loadWamrModule]
    repeat' split
    all_goals simp
  simp only [startWamr]
  split
  · split
    · simp
    · exact loads _
  · exact loads _

/-- An app that is not found has no record, or one without a binary. -/
theorem ensureWamrRunning_notFound {env : EnsureEnv} {name : CString}
    (notFound : (ensureWamrRunning csuit env (some name) table wamr).1 = .trustedComponentNotFound) :
    tcManagerFindRecordByWappname table (some name) = none ∨
      ∃ record, tcManagerFindRecordByWappname table (some name) = some record ∧
        record.wappBin.isNullOrEmpty = true := by
  simp only [ensureWamrRunning] at notFound
  split at notFound
  · cases notFound
  split at notFound
  · next none => exact .inl none
  next record found =>
  split at notFound
  · next empty => exact .inr ⟨record, found, empty⟩
  split at notFound
  · exact absurd notFound (startWamr_ne_notFound _ _ _ _ _)
  split at notFound
  · cases notFound
  · exact absurd notFound (startWamr_ne_notFound _ _ _ _ _)

theorem runFunction_ne_notFound (env : InvokeEnv) (args : InvokeArgs) (funcName : CString) :
    (runFunction env args funcName).1 ≠ .trustedComponentNotFound := by
  have fetches : ∀ execEnv wasmInPtr retLen,
      (fetchOutput env args execEnv wasmInPtr retLen).1 ≠ .trustedComponentNotFound := by
    intro execEnv wasmInPtr retLen
    simp only [fetchOutput]
    repeat' split
    all_goals simp
  have calls : ∀ execEnv wasmInPtr, (callFunction env args execEnv wasmInPtr).1 ≠ .trustedComponentNotFound := by
    intro execEnv wasmInPtr
    simp only [callFunction]
    split
    · simp
    split
    · simp
    split
    · simp
    · exact fetches _ _ _
  simp only [runFunction]
  split
  · simp
  split
  · simp
  split
  · split
    · simp
    · exact calls _ _
  · exact calls _ _

/-- `malloc` gives no block for a binary that is larger than the heap of the enclave. -/
def Limited (env : InvokeEnv) (args : InvokeArgs) (table : RecordTable) : Prop :=
  env.ensure.wappBinMalloc = true →
    ∀ record ∈ tcManagerFindRecordByWappname table args.wappName, record.wappBin.len ≤ enclaveHeapMaxSize

/-- What a call shows, a catalogue of what has been delivered may show. -/
theorem invocation_shown (installable : Installable lib.csuit known)
    (seen : ∀ manifest ∈ history, manifest ∈ known) {catalogue : CatalogueState}
    (stands : Stands lib.csuit catalogue.enclave.table history) (isRuntime : catalogue.runtime = some runtime)
    (accounted : Accounted lib.csuit catalogue.enclave.wamr.loadedModule runtime)
    (limited : Limited invokeEnv invokeArgs catalogue.enclave.table) :
    CatalogueStep (wappName lib.csuit) rank (labelOf lib.csuit) history
        (observeInvocation lib invokeEnv invokeArgs catalogue) history ∧
      ∃ after, runtimeAfter lib invokeEnv invokeArgs catalogue = some after ∧
        Accounted lib.csuit
          (ecallInvokeWasm lib.csuit invokeEnv invokeArgs catalogue.enclave.table catalogue.enclave.wamr).2.2.1.loadedModule
          after := by
  have bound : HashBound lib.csuit catalogue.enclave.table := by
    obtain ⟨held, installed, _⟩ := stands
    exact Installed.hashBound installed
  obtain ⟨after, ensures⟩ := ensureWamrRunning_spec bound accounted invokeArgs.wappName limited
  have quiet := (ensureWamrRunning_modulesOnly lib.csuit invokeEnv.ensure invokeArgs.wappName
    catalogue.enclave.table catalogue.enclave.wamr).quiet.2.1
  simp only [observeInvocation, runtimeAfter, isRuntime, Option.bind_some, ecallInvokeWasm]
  -- a call with invalid arguments, then the two outcomes of making the module ready
  split
  · exact ⟨.refused, runtime, rfl, accounted⟩
  split
  · exact ⟨.refused, runtime, rfl, accounted⟩
  next funcName _ =>
  split
  · exact ⟨.refused, runtime, rfl, accounted⟩
  next valid =>
  obtain ⟨name, isName, named⟩ : ∃ name, invokeArgs.wappName = some name ∧ name ≠ [] := by
    cases wanted : invokeArgs.wappName with
    | none => simp [wanted] at valid
    | some name => exact ⟨name, rfl, fun empty => by simp [wanted, empty] at valid⟩
  rw [isName] at ensures quiet ⊢
  split
  · next after' events made =>
    rw [made] at ensures
    have replayed : runtime.replay invokeEnv.ensure (events ++ (runFunction invokeEnv invokeArgs funcName).2.2) =
        some after := by
      rw [Runtime.replay_append, ensures.replayed]
      exact replay_untouched (runFunction_untouched invokeEnv invokeArgs funcName)
    refine ⟨?_, after, replayed, ensures.accounted⟩
    rw [if_neg (runFunction_ne_notFound invokeEnv invokeArgs funcName)]
    split
    · exact .refused
    obtain ⟨record, found, runs⟩ := ensures.current rfl
    obtain ⟨manifest, latest, rfl, isNamed⟩ := stands.found named found
    obtain ⟨bytes, isRunning, hash⟩ := Accounted.running_eq ensures.accounted ⟨_, rfl, runs⟩
    have fetched : CatalogueStep (wappName lib.csuit) rank (labelOf lib.csuit) history _ history := .fetched latest
    simp only [replayed, Option.bind_some, isRunning, Option.map_some, Option.getD_some, hash]
    rw [labelOf, isNamed] at fetched
    exact fetched
  · next ensureRet after' events notOk made =>
    rw [made] at ensures quiet
    refine ⟨?_, after, ensures.replayed, ensures.accounted⟩
    split
    · next notFound =>
      have isNotFound : (ensureWamrRunning lib.csuit invokeEnv.ensure (some name) catalogue.enclave.table
          catalogue.enclave.wamr).1 = .trustedComponentNotFound := by rw [made]; exact notFound
      cases ensureWamrRunning_notFound isNotFound with
      | inl none => exact .absent (stands.notFound named none)
      | inr noBinary =>
        -- the records of delivered manifests have one
        obtain ⟨record, found, empty⟩ := noBinary
        obtain ⟨manifest, latest, rfl, _⟩ := stands.found named found
        have full := (installable.whole manifest (seen manifest latest.1)).payload
        simp [recordOf, full] at empty
    · exact .refused

/-! ## The enclave -/

/-- An Update delivers what its list carries; all of it has been taken if it is answered with a Success.  One that
is not expected shows what `send_message` held. -/
def observeUpdate (lib : Libraries) (env : MessageEnv) (update : TeepUpdate) (enclave : EnclaveState) :
    CatalogueEvent Manifest CString (CString × Bytes) :=
  if enclave.agentStatus = .waitingQueryRequest then shown env.leftover
  else if (updated lib env update enclave).message.isSuccess then .delivered (carried env.manifests 0 update.manifestList)
  else .interrupted (carried env.manifests 0 update.manifestList)

def observeMessage (lib : Libraries) (env : MessageEnv) (args : MessageArgs) (enclave : EnclaveState) :
    CatalogueEvent Manifest CString (CString × Bytes) :=
  if enclave.keyState ≠ .ready then .refused
  else
    match receive env args.recvBuf with
    | some (.queryRequest request) => shown (queried lib env args request enclave).1
    | some (.update update) => observeUpdate lib env update enclave
    | _ => .refused

def observe (lib : Libraries) (state : CatalogueState) :
    EnclaveAction → CatalogueEvent Manifest CString (CString × Bytes)
  | .processMessage env args => observeMessage lib env args state.enclave
  | .invokeWasm env args => observeInvocation lib env args state

/-- The enclave, with what the WASM runtime holds beside it. -/
def catalogueMachine (lib : Libraries) : Machine CatalogueState EnclaveAction Event where
  step state action :=
    ({ enclave := (enclaveStep lib state.enclave action).1
       runtime :=
        match action with
        | .processMessage _ _ => state.runtime
        | .invokeWasm env args => runtimeAfter lib env args state },
      (enclaveStep lib state.enclave action).2)

/-- The enclave goes its own way, whatever the runtime holds. -/
theorem catalogueRun_enclave (lib : Libraries) (state : CatalogueState) (actions : List EnclaveAction) :
    ((catalogueMachine lib).run state actions).1.enclave = ((enclaveMachine lib).run state.enclave actions).1 := by
  have simulates : ∀ (state : CatalogueState) (action : EnclaveAction),
      ((catalogueMachine lib).step state action).1.enclave =
        ((enclaveMachine lib).step state.enclave action).1 := fun _ _ => rfl
  exact Machine.run_simulates simulates state actions

/-- The enclave as it is created. -/
def catalogueStart (keyState : TeepKeyState) (agentKey : TeepKey) : CatalogueState where
  enclave := initialState keyState agentKey
  runtime := some .idle

/-- The manifests of an expected Update are known, each of them is stored whole or not at all, and
`send_message` does not happen to hold a QueryResponse when an Update comes too early. -/
def Cooperates (known : List Manifest) (state : CatalogueState) : EnclaveAction → Prop
  | .processMessage env args => ∀ update, Received env args state.enclave (.update update) →
    (state.enclave.agentStatus = .waitingQueryRequest → env.leftover.isQueryResponse = false) ∧
    (state.enclave.agentStatus ≠ .waitingQueryRequest → ∀ item ∈ update.manifestList.zipIdx,
      Delivers known ((env.manifests item.2).processEnvelope item.1.data))
  | .invokeWasm env args => Limited env args state.enclave.table

instance (env : InvokeEnv) (args : InvokeArgs) (table : RecordTable) : Decidable (Limited env args table) :=
  inferInstanceAs (Decidable (_ → _))

/-- The Update that comes in a message. -/
def updateIn (env : MessageEnv) (args : MessageArgs) : Option TeepUpdate :=
  match receive env args.recvBuf with
  | some (.update update) => some update
  | _ => none

theorem updateIn_eq_some {env : MessageEnv} {args : MessageArgs} {update : TeepUpdate} :
    updateIn env args = some update ↔ receive env args.recvBuf = some (.update update) := by
  unfold updateIn
  split
  · next other received => rw [received, Option.some.injEq, Option.some.injEq, RecvMessage.update.injEq]
  · next notUpdate => exact ⟨fun absent => absurd absent (by simp), fun received => absurd received (notUpdate update)⟩

instance (known : List Manifest) (state : CatalogueState) (action : EnclaveAction) :
    Decidable (Cooperates known state action) :=
  match action with
  | .processMessage env args =>
    decidable_of_iff (∀ update ∈ updateIn env args, state.enclave.keyState = .ready →
      (state.enclave.agentStatus = .waitingQueryRequest → env.leftover.isQueryResponse = false) ∧
      (state.enclave.agentStatus ≠ .waitingQueryRequest → ∀ item ∈ update.manifestList.zipIdx,
        Delivers known ((env.manifests item.2).processEnvelope item.1.data)))
      ⟨fun given update received => given update (updateIn_eq_some.mpr received.2) received.1,
        fun cooperates update received ready => cooperates update ⟨ready, updateIn_eq_some.mp received⟩⟩
  | .invokeWasm env args => inferInstanceAs (Decidable (Limited env args state.enclave.table))

structure Represents (lib : Libraries) (known : List Manifest) (state : CatalogueState) (history : List Manifest) :
    Prop where
  stands : Stands lib.csuit state.enclave.table history
  seen : ∀ manifest ∈ history, manifest ∈ known
  accounted : ∃ runtime, state.runtime = some runtime ∧
    Accounted lib.csuit state.enclave.wamr.loadedModule runtime

/-- What the enclave is given, as it is known of libcsuit and QCBOR. -/
structure Sound (lib : Libraries) : Prop where
  sha256 : lib.csuit.Sha256Succeeds
  filenames : lib.csuit.FilenamesFit
  nameLength : lib.csuit.suitMaxNameLength < 2 ^ 64
  preferred : lib.qcbor.PreferredSerialisation

variable {messageEnv : MessageEnv} {messageArgs : MessageArgs} {enclave : EnclaveState}
  {state : CatalogueState}

theorem processUpdate_takes (sha256 : lib.csuit.Sha256Succeeds) (installable : Installable lib.csuit known)
    {update : TeepUpdate} {suit : SuitState} (seen : ∀ manifest ∈ history, manifest ∈ known)
    (stands : Stands lib.csuit suit.table history)
    (delivers : ∀ item ∈ update.manifestList.zipIdx,
      Delivers known ((manifests item.2).processEnvelope item.1.data)) :
    ∃ (done rest : List Manifest), carried manifests 0 update.manifestList = done ++ rest ∧
      Stands lib.csuit (processUpdate lib manifests update suit).state.table (done.reverse ++ history) ∧
      ((processUpdate lib manifests update suit).message.isSuccess = true → rest = []) := by
  have refused : ∃ (done rest : List Manifest), carried manifests 0 update.manifestList = done ++ rest ∧
      Stands lib.csuit suit.table (done.reverse ++ history) ∧ (false = true → rest = []) :=
    ⟨[], _, rfl, stands, by simp⟩
  have taken := processManifests_takes sha256 installable 0 update.manifestList seen stands delivers
  simp only [processUpdate]
  split
  · exact refused
  split
  · exact refused
  split
  · next after events failure processed =>
    rw [processed] at taken
    obtain ⟨done, rest, isSplit, stood, _⟩ := taken
    exact ⟨done, rest, isSplit, stood, fun isSuccess => by cases isSuccess⟩
  · next after events processed =>
    rw [processed] at taken
    obtain ⟨done, rest, isSplit, stood, finished⟩ := taken
    exact ⟨done, rest, isSplit, stood, fun _ => finished rfl⟩

theorem carried_known {update : TeepUpdate}
    (delivers : ∀ item ∈ update.manifestList.zipIdx,
      Delivers known ((manifests item.2).processEnvelope item.1.data)) :
    ∀ manifest ∈ carried manifests 0 update.manifestList, manifest ∈ known := by
  intro manifest member
  obtain ⟨item, inList, isManifest⟩ := List.mem_filterMap.mp member
  exact (delivers item inList).isKnown manifest isManifest

theorem ecallProcessMessage_wamr (lib : Libraries) (env : MessageEnv) (args : MessageArgs) (enclave : EnclaveState) :
    (ecallProcessMessage lib env args enclave).state.wamr = enclave.wamr := by
  have exits := ecallProcessMessage_exit lib env args enclave
  generalize ecallProcessMessage lib env args enclave = outcome at exits
  cases exits with
  | refused nothing => rfl
  | early received waiting => rfl
  | query received => rfl
  | update received expected => rfl

theorem shown_refused {message : TeepMessage} (notQuery : message.isQueryResponse = false) :
    shown message = .refused := by
  cases message with
  | queryResponse response => cases notQuery
  | error error => rfl
  | success success => rfl
  | other => rfl

/-- What an expected Update shows, a catalogue may show. -/
theorem update_represented (sound : Sound lib) (installable : Installable lib.csuit known) {update : TeepUpdate}
    (seen : ∀ manifest ∈ history, manifest ∈ known) (stands : Stands lib.csuit enclave.table history)
    (expected : enclave.agentStatus ≠ .waitingQueryRequest)
    (delivers : ∀ item ∈ update.manifestList.zipIdx,
      Delivers known ((messageEnv.manifests item.2).processEnvelope item.1.data)) :
    ∃ next, CatalogueStep (wappName lib.csuit) rank (labelOf lib.csuit) history
        (observeUpdate lib messageEnv update enclave) next ∧
      Stands lib.csuit (updated lib messageEnv update enclave).state.table next ∧
      ∀ manifest ∈ next, manifest ∈ known := by
  have takes : ∃ (done rest : List Manifest), carried messageEnv.manifests 0 update.manifestList = done ++ rest ∧
      Stands lib.csuit (updated lib messageEnv update enclave).state.table (done.reverse ++ history) ∧
      ((updated lib messageEnv update enclave).message.isSuccess = true → rest = []) :=
    processUpdate_takes sound.sha256 installable seen stands delivers
  obtain ⟨done, rest, isSplit, stood, finished⟩ := takes
  have isKnown := carried_known delivers
  have nextKnown : ∀ manifest ∈ done.reverse ++ history, manifest ∈ known := by
    intro manifest member
    cases List.mem_append.mp member with
    | inl inDone =>
      apply isKnown
      rw [isSplit]
      exact List.mem_append_left _ (List.mem_reverse.mp inDone)
    | inr inHistory => exact seen manifest inHistory
  refine ⟨done.reverse ++ history, ?_, stood, nextKnown⟩
  simp only [observeUpdate, if_neg expected]
  split
  · next isSuccess =>
    rw [isSplit, finished isSuccess, List.append_nil]
    exact .delivered
  · rw [isSplit]
    exact .interrupted

/-- What a message shows, a catalogue may show. -/
theorem message_represented (sound : Sound lib) (installable : Installable lib.csuit known)
    (seen : ∀ manifest ∈ history, manifest ∈ known) (stands : Stands lib.csuit enclave.table history)
    (cooperates : ∀ update, Received messageEnv messageArgs enclave (.update update) →
      (enclave.agentStatus = .waitingQueryRequest → messageEnv.leftover.isQueryResponse = false) ∧
      (enclave.agentStatus ≠ .waitingQueryRequest → ∀ item ∈ update.manifestList.zipIdx,
        Delivers known ((messageEnv.manifests item.2).processEnvelope item.1.data))) :
    ∃ next, CatalogueStep (wappName lib.csuit) rank (labelOf lib.csuit) history
        (observeMessage lib messageEnv messageArgs enclave) next ∧
      Stands lib.csuit (ecallProcessMessage lib messageEnv messageArgs enclave).state.table next ∧
      ∀ manifest ∈ next, manifest ∈ known := by
  simp only [observeMessage, ecallProcessMessage]
  split
  · exact ⟨history, .refused, stands, seen⟩
  next ready =>
  have isReady : enclave.keyState = .ready := not_not.mp ready
  cases received : receive messageEnv messageArgs.recvBuf with
  | none => exact ⟨history, .refused, stands, seen⟩
  | some message =>
    cases message with
    | other => exact ⟨history, .refused, stands, seen⟩
    | queryRequest request =>
      simp only [handleMessage, handleQueryRequest_eq]
      exact ⟨history, queryRequest_shown sound.preferred sound.filenames sound.nameLength stands, stands, seen⟩
    | update update =>
      have given := cooperates update ⟨isReady, received⟩
      by_cases waiting : enclave.agentStatus = .waitingQueryRequest
      · simp only [handleMessage, handleUpdate, observeUpdate, if_pos waiting, shown_refused (given.1 waiting)]
        exact ⟨history, .refused, stands, seen⟩
      · simp only [handleMessage, handleUpdate_eq update waiting]
        exact update_represented sound installable seen stands waiting (given.2 waiting)

/-- Each action does what a catalogue may do. -/
theorem step_represented (sound : Sound lib) (installable : Installable lib.csuit known)
    (represents : Represents lib known state history) {action : EnclaveAction}
    (cooperates : Cooperates known state action) :
    ∃ next, CatalogueStep (wappName lib.csuit) rank (labelOf lib.csuit) history (observe lib state action) next ∧
      Represents lib known ((catalogueMachine lib).step state action).1 next := by
  obtain ⟨runtime, isRuntime, accounted⟩ := represents.accounted
  cases action with
  | processMessage env args =>
    obtain ⟨next, step, stands, seen⟩ :=
      message_represented sound installable represents.seen represents.stands cooperates
    have sameWamr : (ecallProcessMessage lib env args state.enclave).state.wamr = state.enclave.wamr :=
      ecallProcessMessage_wamr lib env args state.enclave
    refine ⟨next, step, stands, seen, runtime, isRuntime, ?_⟩
    show Accounted lib.csuit (ecallProcessMessage lib env args state.enclave).state.wamr.loadedModule runtime
    rw [sameWamr]
    exact accounted
  | invokeWasm env args =>
    obtain ⟨step, after, isAfter, afterAccounted⟩ :=
      invocation_shown installable represents.seen represents.stands isRuntime accounted cooperates
    exact ⟨history, step, represents.stands, represents.seen, after, isAfter, afterAccounted⟩

/-- A call that the app answers with an output goes to the newest version. -/
theorem invoked_latest (sound : Sound lib) (installable : Installable lib.csuit known)
    (represents : Represents lib known state history) {env : InvokeEnv} {args : InvokeArgs}
    (cooperates : Cooperates known state (.invokeWasm env args))
    (ok : (ecallInvokeWasm lib.csuit env args state.enclave.table state.enclave.wamr).1 = .ok) :
    ∃ manifest, IsLatest (wappName lib.csuit) rank history manifest ∧
      wappName lib.csuit manifest = args.wappName.getD [] ∧
      observe lib state (.invokeWasm env args) =
        .fetched (args.wappName.getD []) (some (labelOf lib.csuit manifest)) := by
  obtain ⟨next, step, _⟩ := step_represented sound installable represents cooperates
  have fetched : ∃ shown, observe lib state (.invokeWasm env args) = .fetched (args.wappName.getD []) shown := by
    simp only [observe, observeInvocation]
    rw [if_neg (by rw [ok]; decide), if_neg (ecallInvokeWasm_called ok)]
    exact ⟨_, rfl⟩
  obtain ⟨shown, isFetched⟩ := fetched
  rw [isFetched] at step ⊢
  obtain ⟨_, manifest, latest, named, rfl⟩ := step.ofFetched
  exact ⟨manifest, latest, named, rfl⟩

theorem start_represents (lib : Libraries) (known : List Manifest) (keyState : TeepKeyState) (agentKey : TeepKey) :
    Represents lib known (catalogueStart keyState agentKey) [] where
  stands := ⟨[], empty_installed, .nil⟩
  seen := by simp
  accounted := ⟨.idle, rfl, .idle rfl rfl⟩

theorem run_represents (sound : Sound lib) (installable : Installable lib.csuit known)
    (represents : Represents lib known state history) {actions : List EnclaveAction}
    (cooperates : (catalogueMachine lib).Meets (Cooperates known) state actions) :
    ∃ after, SpecRun (CatalogueStep (wappName lib.csuit) rank (labelOf lib.csuit)) history
        ((catalogueMachine lib).observed (observe lib) state actions) after ∧
      Represents lib known ((catalogueMachine lib).run state actions).1 after := by
  have matched : ∀ state history action, Represents lib known state history → Cooperates known state action →
      ∃ next, CatalogueStep (wappName lib.csuit) rank (labelOf lib.csuit) history (observe lib state action) next ∧
        Represents lib known ((catalogueMachine lib).step state action).1 next :=
    fun _ _ _ represents cooperates => step_represented sound installable represents cooperates
  exact Machine.refines matched represents cooperates

/-! ## An app in two versions -/

/-- The envelope of a manifest, processed to its end. -/
def wholeRun (manifest : Manifest) : EnvelopeRun where
  manifestDigest := .bytes manifest.digest
  callbacks := [.store manifest.manifestArgs ⟨true, true⟩, .store manifest.payloadArgs ⟨true, true⟩]
  result := .success

def versions : List Manifest := [appVersion [1] 1 wasmVersion1, appVersion [2] 2 wasmVersion2]

theorem smallLibraries_sound : Sound smallLibraries where
  sha256 := reference_sha256Succeeds smallSha256
  filenames := reference_filenamesFit smallSha256
  nameLength := by decide
  preferred := referenceQcbor_preferredSerialisation

def asked : EnclaveAction := .processMessage firstRequest ⟨[], some [97], 4096⟩

def offered (manifest : Manifest) : EnclaveAction :=
  .processMessage (workingMessage (.update oneManifest) .other fun _ => wholeRun manifest) ⟨[], some [97], 4096⟩

def calledApp : EnclaveAction := .invokeWasm versionsInvoke ⟨some [97], some [102], .null 0, true, 16, true⟩

/-- The app is installed and called, then updated and called again, and then the old version comes once more. -/
def versionsActions : List EnclaveAction :=
  [asked, offered (appVersion [1] 1 wasmVersion1), calledApp, asked, offered (appVersion [2] 2 wasmVersion2),
    calledApp, asked, offered (appVersion [1] 1 wasmVersion1)]

theorem versionsActions_cooperate :
    (catalogueMachine smallLibraries).Meets (Cooperates versions) (catalogueStart .ready ⟨.null 0⟩)
      versionsActions := by
  decide +kernel

/-! ## Runs -/

/-- In every run of the enclave whose Updates deliver known manifests, whole or not at all: what is answered to
QueryRequests and what instances are made from is what a catalogue shows that has been given the same manifests,
and the active records are those of the newest manifest of each app. -/
theorem enclave_catalogue (lib : Libraries) (sound : Sound lib) (known : List Manifest)
    (installable : Installable lib.csuit known) (keyState : TeepKeyState) (agentKey : TeepKey)
    (actions : List EnclaveAction)
    (cooperates : (catalogueMachine lib).Meets (Cooperates known) (catalogueStart keyState agentKey) actions) :
    ∃ history, SpecRun (CatalogueStep (wappName lib.csuit) rank (labelOf lib.csuit)) []
        ((catalogueMachine lib).observed (observe lib) (catalogueStart keyState agentKey) actions) history ∧
      ∀ record, record ∈ ((catalogueMachine lib).run (catalogueStart keyState agentKey) actions).1.enclave.table.active ↔
        ∃ manifest, IsLatest (wappName lib.csuit) rank history manifest ∧ record = recordOf lib.csuit manifest := by
  obtain ⟨history, run, represents⟩ :=
    run_represents sound installable (start_represents lib known keyState agentKey) cooperates
  exact ⟨history, run, represents.stands.active_iff⟩

theorem enclave_catalogue_versions :
    ∃ history, SpecRun (CatalogueStep (wappName smallCsuit) rank (labelOf smallCsuit)) []
      ((catalogueMachine smallLibraries).observed (observe smallLibraries) (catalogueStart .ready ⟨.null 0⟩)
        versionsActions) history := by
  obtain ⟨history, run, _⟩ := enclave_catalogue smallLibraries smallLibraries_sound versions appVersions_installable
    .ready ⟨.null 0⟩ versionsActions versionsActions_cooperate
  exact ⟨history, run⟩

/-- Of two calls of one run that an app answers, the later one goes to an instance of the same version or of a
newer one, whatever Updates and QueryRequests come in between. -/
theorem fetched_noDowngrade (lib : Libraries) (sound : Sound lib) (known : List Manifest)
    (installable : Installable lib.csuit known) (keyState : TeepKeyState) (agentKey : TeepKey)
    (actions : List EnclaveAction)
    (cooperates : (catalogueMachine lib).Meets (Cooperates known) (catalogueStart keyState agentKey) actions)
    (front middle back : List (CatalogueEvent Manifest CString (CString × Bytes))) (name : CString)
    (label later : Option (CString × Bytes))
    (seen : (catalogueMachine lib).observed (observe lib) (catalogueStart keyState agentKey) actions =
      front ++ .fetched name label :: middle ++ .fetched name later :: back) :
    ∃ manifest ∈ known, ∃ newer ∈ known, wappName lib.csuit manifest = name ∧ wappName lib.csuit newer = name ∧
      label = some (labelOf lib.csuit manifest) ∧ later = some (labelOf lib.csuit newer) ∧
      manifest.sequenceNumber ≤ newer.sequenceNumber := by
  obtain ⟨history, run, represents⟩ :=
    run_represents sound installable (start_represents lib known keyState agentKey) cooperates
  rw [seen] at run
  obtain ⟨manifest, member, newer, newerMember, named, newerNamed, isLabel, isLater, notNewer⟩ :=
    CatalogueRun.noDowngrade run
  exact ⟨manifest, represents.seen manifest member, newer, represents.seen newer newerMember, named, newerNamed,
    isLabel, isLater, UInt64.le_iff_toNat_le.mpr notNewer⟩

theorem fetched_noDowngrade_versions : ∃ manifest ∈ versions, ∃ newer ∈ versions,
    labelOf smallCsuit manifest = ([97], (smallSha256 wasmVersion1).toList) ∧
      labelOf smallCsuit newer = ([97], (smallSha256 wasmVersion2).toList) ∧
      manifest.sequenceNumber ≤ newer.sequenceNumber := by
  obtain ⟨manifest, member, newer, newerMember, _, _, isLabel, isLater, notNewer⟩ :=
    fetched_noDowngrade smallLibraries smallLibraries_sound versions appVersions_installable .ready ⟨.null 0⟩
      versionsActions versionsActions_cooperate
      [.listed [], .delivered [appVersion [1] 1 wasmVersion1]]
      [.listed [some ([97], (smallSha256 wasmVersion1).toList)], .delivered [appVersion [2] 2 wasmVersion2]]
      [.listed [some ([97], (smallSha256 wasmVersion2).toList)], .delivered [appVersion [1] 1 wasmVersion1]] [97]
      (some ([97], (smallSha256 wasmVersion1).toList)) (some ([97], (smallSha256 wasmVersion2).toList))
      (by decide +kernel)
  exact ⟨manifest, member, newer, newerMember, (Option.some.inj isLabel).symm, (Option.some.inj isLater).symm,
    notNewer⟩

end Taws.Enclave
