import Taws.Machine
import Taws.Teep.Update
import Taws.Wasm.Invoke

/-!
# The enclave

`ecall_process_message` of `Enclave_process_message.cpp`, and the enclave as a machine whose actions are
its ECALLs.  The local `send_message` is not initialised; what it holds on entry is part of the call.

* `EnclaveState` — the globals that the ECALLs read and write.
* `handleMessage`, `agentTransition`, `sendMessage` — the parts of `ecall_process_message`.
* `enclaveStep`, `enclaveMachine` — runs of ECALLs.
-/

namespace Taws.Enclave

open TcManager
open Suit
open Teep
open Wasm

inductive TeepKeyState where
  | uninitialized
  | ready
  deriving DecidableEq

inductive TeepAgentStatus where
  | waitingQueryRequest
  | waitingUpdateOrQueryRequest
  deriving DecidableEq

inductive EcallProcessTeepResult where
  | ok
  | responseIsTeepError
  | fatal
  | deviceActivationFlow
  | queryResponse
  | success
  deriving DecidableEq

/-- The globals of the enclave. -/
structure EnclaveState where
  keyState : TeepKeyState
  agentKey : TeepKey
  agentStatus : TeepAgentStatus
  suit : SuitState
  wamr : WamrState

/-- The table of active records. -/
def EnclaveState.table (state : EnclaveState) : RecordTable := state.suit.table

/-- The outcomes of one call of `ecall_process_message`. -/
structure MessageEnv where
  /-- The payload if `teep_verify_cose_sign1` succeeds. -/
  verifySign1 : Bytes → Option Bytes
  verifySign : Bytes → Option Bytes
  setMessageFromBytes : Bytes → Option RecvMessage
  /-- What `send_message` holds on entry. -/
  leftover : TeepMessage
  query : QueryEnv
  manifests : Nat → ManifestEnv
  /-- `teep_encode_message` into the buffer of `MAX_SEND_BUFFER_SIZE` bytes. -/
  encodeMessage : TeepMessage → Option Bytes
  /-- `teep_sign_cose_sign1` into a buffer of the given size. -/
  signSign1 : Bytes → Nat → Option Bytes

structure MessageArgs where
  recvBuf : Bytes
  appName : Option CString
  allocatedLen : Nat

structure MessageOutcome where
  result : EcallProcessTeepResult
  state : EnclaveState
  events : List Event

/-- The message that was received, `none` where verification or decoding fails. -/
def receive (env : MessageEnv) (recvBuf : Bytes) : Option RecvMessage :=
  match env.verifySign1 recvBuf with
  | some payload => env.setMessageFromBytes payload
  | none =>
    -- a message that is not a COSE_Sign1 may still be a COSE_Sign
    match env.verifySign recvBuf with
    | some payload => env.setMessageFromBytes payload
    | none => none

def agentTransition (agentStatus : TeepAgentStatus) (message : TeepMessage) : TeepAgentStatus :=
  if agentStatus = .waitingQueryRequest && message.isQueryResponse then .waitingUpdateOrQueryRequest
  else if agentStatus = .waitingUpdateOrQueryRequest && message.isSuccess then .waitingQueryRequest
  else agentStatus

/-- Frees the tc-info buffers if the message is a QueryResponse. -/
def freeTcList : TeepMessage → List Event
  | .queryResponse response => freeQueryResponseTcListBuffers response
  | _ => []

def resultOf : TeepMessage → EcallProcessTeepResult
  | .error _ => .responseIsTeepError
  | .queryResponse response =>
    if .attestationPayload ∈ response.contains then .deviceActivationFlow else .queryResponse
  | .success _ => .success
  | .other => .ok

/-- Encoding and signing. -/
def encodeAndSign (env : MessageEnv) (args : MessageArgs) (message : TeepMessage) :
    EcallProcessTeepResult × List Event :=
  match env.encodeMessage message with
  | none => (.fatal, freeTcList message)
  | some cbor =>
    match env.signSign1 cbor args.allocatedLen with
    | none => (.fatal, .encoded cbor :: freeTcList message)
    | some cose => (resultOf message, .encoded cbor :: .signed cose :: freeTcList message)

/-- Everything after the `switch` with `send_message` holding `message`. -/
def sendMessage (env : MessageEnv) (args : MessageArgs) (message : TeepMessage) (state : EnclaveState) :
    MessageOutcome :=
  let sent := encodeAndSign env args message
  ⟨sent.1, { state with agentStatus := agentTransition state.agentStatus message }, sent.2⟩

/-- The outcome after further events. -/
def MessageOutcome.after (events : List Event) (outcome : MessageOutcome) : MessageOutcome :=
  { outcome with events := events ++ outcome.events }

/-- The case for a QueryRequest. -/
def handleQueryRequest (lib : Libraries) (env : MessageEnv) (args : MessageArgs)
    (request : TeepQueryRequest) (state : EnclaveState) : MessageOutcome :=
  match processQueryRequest lib env.query request workBufLen args.appName state.agentKey state.table with
  | (.success, message, events) => (sendMessage env args message state).after (events ++ [.built message])
  | (_, _, events) => ⟨.fatal, state, events⟩

/-- The case for an Update.  An Update that is not expected leaves the `switch` with the decoder's
`TEEP_SUCCESS` still in `result`, and `send_message` as it was on entry. -/
def handleUpdate (lib : Libraries) (env : MessageEnv) (args : MessageArgs) (update : TeepUpdate)
    (state : EnclaveState) : MessageOutcome :=
  if state.agentStatus = .waitingQueryRequest then sendMessage env args env.leftover state
  else
    let updated := processUpdate lib env.manifests update state.suit
    let state := { state with suit := updated.state }
    match updated.result with
    | .success =>
      (sendMessage env args updated.message state).after
        (.updateEntered :: updated.events ++ [.built updated.message])
    | _ => ⟨.fatal, state, .updateEntered :: updated.events⟩

def handleMessage (lib : Libraries) (env : MessageEnv) (args : MessageArgs) (message : RecvMessage)
    (state : EnclaveState) : MessageOutcome :=
  match message with
  | .queryRequest request => handleQueryRequest lib env args request state
  | .update update => handleUpdate lib env args update state
  | .other => ⟨.fatal, state, []⟩

def ecallProcessMessage (lib : Libraries) (env : MessageEnv) (args : MessageArgs) (state : EnclaveState) :
    MessageOutcome :=
  if state.keyState ≠ .ready then ⟨.fatal, state, []⟩
  else
    match receive env args.recvBuf with
    | none => ⟨.fatal, state, []⟩
    | some message => handleMessage lib env args message state

/-! ## Runs of ECALLs -/

inductive EnclaveAction where
  | processMessage (env : MessageEnv) (args : MessageArgs)
  | invokeWasm (env : InvokeEnv) (args : InvokeArgs)

def enclaveStep (lib : Libraries) (state : EnclaveState) : EnclaveAction → EnclaveState × List Event
  | .processMessage env args =>
    let outcome := ecallProcessMessage lib env args state
    (outcome.state, outcome.events)
  | .invokeWasm env args =>
    let invoked := ecallInvokeWasm lib.csuit env args state.table state.wamr
    ({ state with wamr := invoked.2.2.1 }, invoked.2.2.2)

def enclaveMachine (lib : Libraries) : Machine EnclaveState EnclaveAction Event where
  step := enclaveStep lib

/-- The enclave as it is created, with the given key state and key. -/
def initialState (keyState : TeepKeyState) (agentKey : TeepKey) : EnclaveState where
  keyState := keyState
  agentKey := agentKey
  agentStatus := .waitingQueryRequest
  suit := ⟨SlotTable.empty, .null 0⟩
  wamr := ⟨false, default⟩

end Taws.Enclave
