import Taws.Teep.QueryRequest

/-!
# Processing an Update

`process_update` of `Enclave_process_message.cpp`.  What the allocator and libcsuit do with the manifest
at each position of the list is an outcome in `ManifestEnv`; the outcomes that depend on the envelope are
functions of its bytes.

* `setUpProcessor`, `release` — the resources of one manifest.
* `processEnvelope` — the callbacks of `suit_process_envelope` and the check of the record.
* `processManifest`, `processManifests` — one iteration of the loop, and the loop.
* `processUpdate` — the whole function.
-/

namespace Taws.Teep

open TcManager
open Suit

/-- One run of `suit_process_envelope`. -/
structure EnvelopeRun where
  manifestDigest : Buffer
  callbacks : List SuitCallback
  result : SuitErr
  deriving DecidableEq

structure ManifestEnv where
  reportingEngine : Option Block
  processorContext : Option Block
  senderKeySet : Bool
  reportEngineInitialized : Bool
  reportEncodingStarted : Bool
  /-- The size of `envelope_buf`, `none` where `suit_processor_init` fails. -/
  processorInit : Option Nat
  recipientKeySet : Bool
  recipientKeyAdded : Bool
  addManifest : Bytes → Bool
  processEnvelope : Bytes → EnvelopeRun

/-! ## The resources of one manifest -/

/-- `reporting_engine`, `processor_context` and `processor_initialized` -/
structure Resources where
  reportingEngine : Option Block := none
  processorContext : Option Block := none
  processorInitialized : Bool := false

structure SetUp where
  held : Resources
  events : List Event
  /-- The processor context and the size of `envelope_buf`, `none` where the set-up fails. -/
  ready : Option (Block × Nat)

def setUpProcessor (env : ManifestEnv) : SetUp :=
  match env.reportingEngine with
  | none => ⟨{}, [], none⟩
  | some engine =>
    match env.processorContext with
    | none => ⟨{ reportingEngine := some engine }, [.allocated engine], none⟩
    | some context =>
      -- from here on both are released on every exit
      let allocated : Resources := { reportingEngine := some engine, processorContext := some context }
      let events := [.allocated engine, .allocated context]
      if !env.senderKeySet then ⟨allocated, events, none⟩
      else if !env.reportEngineInitialized then ⟨allocated, events, none⟩
      else if !env.reportEncodingStarted then ⟨allocated, events, none⟩
      else
        match env.processorInit with
        | none => ⟨allocated, events, none⟩
        | some envelopeBufLen =>
          let initialized := { allocated with processorInitialized := true }
          let events := events ++ [.processorInitialized context]
          if !env.recipientKeySet then ⟨initialized, events, none⟩
          else if !env.recipientKeyAdded then ⟨initialized, events, none⟩
          else ⟨initialized, events, some (context, envelopeBufLen)⟩

/-- The end of an iteration and the `error` label release the resources in the same order. -/
def release (held : Resources) : List Event :=
  (if held.processorInitialized then held.processorContext.toList.map .processorFreed else []) ++
    held.processorContext.toList.map .freed ++ held.reportingEngine.toList.map .freed

/-! ## One manifest -/

/-- The error code, and the SUIT report that goes with it. -/
structure UpdateFailure where
  errCode : TeepErrCode
  errorSuitReport : Buffer := .null 0
  deriving DecidableEq

/-- The report that a failed envelope leaves, if it fits the scratch buffer. -/
def failReport (suitReport : Buffer) : Buffer :=
  if !suitReport.isNull && suitReport.len > 0 && suitReport.len ≤ workBufLen then
    .bytes suitReport.data
  else .null 0

/-- `suit_process_envelope` and what follows it in the iteration. -/
def processEnvelope (csuit : Libcsuit) (context : Block) (run : EnvelopeRun) (state : SuitState) :
    SuitState × List Event × Option UpdateFailure :=
  let ran := runCallbacks csuit run.callbacks state
  let events := (ran.1.map fun called => Event.callback called.1 called.2) ++
    [.envelopeProcessed context run.manifestDigest run.result]
  if run.result ≠ .success then
    (ran.2, events, some ⟨.manifestProcessingFailed, failReport (suitGetSuitReport ran.2)⟩)
  else
    let checked := tcManagerCheckAndUpdateRecord run.manifestDigest ran.2.table
    let state := { ran.2 with table := checked.2 }
    let events := events ++ [.recordChecked context run.manifestDigest checked.1]
    if checked.1 ≠ 0 then (state, events, some { errCode := .temporaryError })
    else (state, events, none)

/-- One iteration of the loop, up to the release of its resources. -/
def processManifest (csuit : Libcsuit) (env : ManifestEnv) (item : Buffer) (state : SuitState) :
    SuitState × List Event × Option UpdateFailure :=
  let setUp := setUpProcessor env
  match setUp.ready with
  | none => (state, setUp.events ++ release setUp.held, some { errCode := .temporaryError })
  | some (context, envelopeBufLen) =>
    if item.isNull || item.len == 0 || item.len > envelopeBufLen then
      (state, setUp.events ++ release setUp.held, some { errCode := .permanentError })
    else if !env.addManifest item.data then
      (state, setUp.events ++ .manifestAdded context :: release setUp.held,
        some { errCode := .permanentError })
    else
      let processed := processEnvelope csuit context (env.processEnvelope item.data) state
      (processed.1, setUp.events ++ .manifestAdded context :: processed.2.1 ++ release setUp.held,
        processed.2.2)

/-- The loop over the manifests from `index` on; it stops at the first failure. -/
def processManifests (csuit : Libcsuit) (manifests : Nat → ManifestEnv) :
    Nat → List Buffer → SuitState → SuitState × List Event × Option UpdateFailure
  | _, [], state => (state, [], none)
  | index, item :: items, state =>
    match processManifest csuit (manifests index) item state with
    | (state, events, some failure) => (state, events, some failure)
    | (state, events, none) =>
      let rest := processManifests csuit manifests (index + 1) items state
      (rest.1, events ++ rest.2.1, rest.2.2)

/-! ## The message -/

/-- Only the length of the token is looked at. -/
def tokenAccepted (update : TeepUpdate) : Bool :=
  .token ∈ update.contains && 8 ≤ update.token.len && update.token.len ≤ 64

def manifestListAccepted (teep : Libteep) (update : TeepUpdate) : Bool :=
  1 ≤ update.manifestList.length && update.manifestList.length ≤ teep.teepMaxArrayLength

def createSuccess (update : TeepUpdate) (suitReport : Buffer) : TeepMessage :=
  .success
    { token := update.token
      suitReports := if !suitReport.isNull && suitReport.len > 0 then some suitReport else none }

structure UpdateResult where
  result : TeepErr
  message : TeepMessage
  state : SuitState
  events : List Event

def processUpdate (lib : Libraries) (manifests : Nat → ManifestEnv) (update : TeepUpdate)
    (state : SuitState) : UpdateResult :=
  if !tokenAccepted update then
    ⟨.success, createError lib.teep update.token .permanentError (.null 0) (.null 0), state, []⟩
  else if !manifestListAccepted lib.teep update then
    ⟨.success, createError lib.teep update.token .permanentError (.null 0) (.null 0), state, []⟩
  else
    match processManifests lib.csuit manifests 0 update.manifestList state with
    | (state, events, some failure) =>
      ⟨.success, createError lib.teep update.token failure.errCode (.null 0) failure.errorSuitReport,
        state, events⟩
    | (state, events, none) =>
      ⟨.success, createSuccess update (suitGetSuitReport state), state, events⟩

end Taws.Teep
