import Taws.Enclave.Emitted
import Taws.Teep.TcList

/-!
# The exits of `ecall_process_message`

Everything a call can do: it is refused, it sends what `send_message` held on entry, or it sends the
message that `process_query_request` or `process_update` has built.  The results about the agent are
derived from these cases and never unfold the call.

* `Exit`, `ecallProcessMessage_exit` — the cases.
* `Unsent`, `encodeAndSign_fatal` — when sending fails.
* `fatal_leaves` — what a fatal call leaves behind.
-/

namespace Taws.Enclave

open TcManager
open Suit
open Teep

/-- The key is ready, and the message has been verified and decoded. -/
def Received (env : MessageEnv) (args : MessageArgs) (state : EnclaveState) (message : RecvMessage) : Prop :=
  state.keyState = .ready ∧ receive env args.recvBuf = some message

/-- What `process_query_request` builds for a request, and the events of building it. -/
def queried (lib : Libraries) (env : MessageEnv) (args : MessageArgs) (request : TeepQueryRequest)
    (state : EnclaveState) : TeepMessage × List Event :=
  (processQueryRequest lib env.query request workBufLen args.appName state.agentKey state.table).2

/-- What `process_update` makes of an Update. -/
def updated (lib : Libraries) (env : MessageEnv) (update : TeepUpdate) (state : EnclaveState) : UpdateResult :=
  processUpdate lib env.manifests update state.suit

inductive Exit (lib : Libraries) (env : MessageEnv) (args : MessageArgs) (state : EnclaveState) :
    MessageOutcome → Prop where
  | refused (nothing : ∀ message, Received env args state message → message = .other) :
    Exit lib env args state ⟨.fatal, state, []⟩
  -- the `break` that leaves `result` and `send_message` as they were
  | early {update : TeepUpdate} (received : Received env args state (.update update))
    (waiting : state.agentStatus = .waitingQueryRequest) :
    Exit lib env args state (sendMessage env args env.leftover state)
  | query {request : TeepQueryRequest} (received : Received env args state (.queryRequest request)) :
    Exit lib env args state
      ((sendMessage env args (queried lib env args request state).1 state).after
        ((queried lib env args request state).2 ++ [.built (queried lib env args request state).1]))
  | update {update : TeepUpdate} (received : Received env args state (.update update))
    (expected : state.agentStatus ≠ .waitingQueryRequest) :
    Exit lib env args state
      ((sendMessage env args (updated lib env update state).message
          { state with suit := (updated lib env update state).state }).after
        (.updateEntered :: (updated lib env update state).events ++
          [.built (updated lib env update state).message]))

theorem processQueryRequest_success (lib : Libraries) (env : QueryEnv) (queryRequest : TeepQueryRequest)
    (workBuf : Nat) (appName : Option CString) (keyPair : TeepKey) (table : RecordTable) :
    (processQueryRequest lib env queryRequest workBuf appName keyPair table).1 = .success := by
  simp only [processQueryRequest]
  split <;> rfl

theorem processUpdate_success (lib : Libraries) (manifests : Nat → ManifestEnv) (update : TeepUpdate)
    (state : SuitState) : (processUpdate lib manifests update state).result = .success := by
  simp only [processUpdate]
  repeat' split
  all_goals rfl

theorem queried_within (lib : Libraries) (env : MessageEnv) (args : MessageArgs) (request : TeepQueryRequest)
    (state : EnclaveState) : Within [.heap] (queried lib env args request state).2 :=
  processQueryRequest_within lib env.query request workBufLen args.appName state.agentKey state.table

theorem updated_within (lib : Libraries) (env : MessageEnv) (update : TeepUpdate) (state : EnclaveState) :
    Within [.heap, .processor, .suit] (updated lib env update state).events :=
  processUpdate_within lib env.manifests update state.suit

variable {lib : Libraries} {env : MessageEnv} {args : MessageArgs} {state : EnclaveState}

theorem handleQueryRequest_eq (request : TeepQueryRequest) :
    handleQueryRequest lib env args request state =
      (sendMessage env args (queried lib env args request state).1 state).after
        ((queried lib env args request state).2 ++ [.built (queried lib env args request state).1]) := by
  have success := processQueryRequest_success lib env.query request workBufLen args.appName state.agentKey state.table
  simp only [handleQueryRequest, queried]
  split
  · next message events made => rw [made]
  · next failed made =>
    rw [made] at success
    exact absurd success failed

theorem handleUpdate_eq (update : TeepUpdate) (expected : state.agentStatus ≠ .waitingQueryRequest) :
    handleUpdate lib env args update state =
      (sendMessage env args (updated lib env update state).message
          { state with suit := (updated lib env update state).state }).after
        (.updateEntered :: (updated lib env update state).events ++
          [.built (updated lib env update state).message]) := by
  have success := processUpdate_success lib env.manifests update state.suit
  simp only [handleUpdate, if_neg expected, success]
  rfl

theorem ecallProcessMessage_exit (lib : Libraries) (env : MessageEnv) (args : MessageArgs)
    (state : EnclaveState) : Exit lib env args state (ecallProcessMessage lib env args state) := by
  unfold ecallProcessMessage
  split
  · next notReady => exact .refused fun _ received => absurd received.1 notReady
  · next ready =>
    have isReady : state.keyState = .ready := not_not.mp ready
    split
    · next nothing =>
      exact .refused fun message received => nomatch nothing.symm.trans received.2
    · next message received =>
      cases message with
      | queryRequest request =>
        rw [handleMessage, handleQueryRequest_eq]
        exact .query ⟨isReady, received⟩
      | update update =>
        by_cases waiting : state.agentStatus = .waitingQueryRequest
        · rw [handleMessage, handleUpdate, if_pos waiting]
          exact .early ⟨isReady, received⟩ waiting
        · rw [handleMessage, handleUpdate_eq update waiting]
          exact .update ⟨isReady, received⟩ waiting
      | other => exact .refused fun message also => Option.some.inj (also.2.symm.trans received)

/-! ## Sending -/

/-- Encoding or signing the message fails. -/
def Unsent (env : MessageEnv) (args : MessageArgs) (message : TeepMessage) : Prop :=
  ∀ cbor, env.encodeMessage message = some cbor → env.signSign1 cbor args.allocatedLen = none

theorem resultOf_ne_fatal (message : TeepMessage) : resultOf message ≠ .fatal := by
  cases message with
  | queryResponse response =>
    simp only [resultOf]
    split <;> decide
  | error error => nofun
  | success success => nofun
  | other => nofun

theorem encodeAndSign_fatal (env : MessageEnv) (args : MessageArgs) (message : TeepMessage) :
    (encodeAndSign env args message).1 = .fatal ↔ Unsent env args message := by
  unfold encodeAndSign Unsent
  cases encoding : env.encodeMessage message with
  | none => simp
  | some cbor => cases signing : env.signSign1 cbor args.allocatedLen <;> simp [signing, resultOf_ne_fatal]

/-- A message that cannot be sent is not signed after it either. -/
theorem sendMessage_unsigned {events : List Event} {message : TeepMessage} {cose : Bytes}
    (unsigned : .signed cose ∉ events) (unsent : Unsent env args message) :
    .signed cose ∉ ((sendMessage env args message state).after events).events := by
  have freed : .signed cose ∉ freeTcList message := (freeTcList_within message).not_mem (by simp [kindOf])
  have sent : .signed cose ∉ (encodeAndSign env args message).2 := by
    unfold encodeAndSign
    cases encoding : env.encodeMessage message with
    | none => exact freed
    | some cbor => simp [unsent cbor encoding, freed]
  simp [MessageOutcome.after, sendMessage, unsigned, sent]

theorem sendMessage_within {kinds : List EventKind} (events : List Event) (message : TeepMessage)
    (within : Within kinds events) (more : [.heap, .message] ⊆ kinds) :
    Within kinds ((sendMessage env args message state).after events).events :=
  (within_append _ _).mpr ⟨within, (encodeAndSign_within env args message).mono more⟩

/-- A call does not touch the WASM runtime. -/
theorem ecallProcessMessage_within (lib : Libraries) (env : MessageEnv) (args : MessageArgs) (state : EnclaveState) :
    Within [.heap, .processor, .suit, .message] (ecallProcessMessage lib env args state).events := by
  have exits := ecallProcessMessage_exit lib env args state
  generalize ecallProcessMessage lib env args state = outcome at exits
  cases exits with
  | refused nothing => exact within_nil
  | early received waiting => exact sendMessage_within [] env.leftover within_nil (by simp)
  | @query request received =>
    have within := queried_within lib env args request state
    apply sendMessage_within
    · simp [within.mono, kindOf]
    · simp
  | @update update received expected =>
    have within := updated_within lib env update state
    apply sendMessage_within
    · simp [within.mono, kindOf]
    · simp

/-! ## Fatal calls -/

/-- A fatal call returns no message, and either no message was built and the state is as it was, or the
message was built and could not be sent: the status is then the one that building it leads to, and the
table is as processing has left it.  Updates that are not expected are left out. -/
theorem fatal_leaves (lib : Libraries) (env : MessageEnv) (args : MessageArgs) (state : EnclaveState)
    (expected : ∀ update, Received env args state (.update update) →
      state.agentStatus ≠ .waitingQueryRequest)
    (fatal : (ecallProcessMessage lib env args state).result = .fatal) :
    let outcome := ecallProcessMessage lib env args state
    (∀ cose, .signed cose ∉ outcome.events) ∧
    ((outcome.state = state ∧ (∀ message, .built message ∉ outcome.events) ∧
        ∀ message, Received env args state message → message = .other) ∨
      ∃ message, .built message ∈ outcome.events ∧ Unsent env args message ∧
        outcome.state.agentStatus = agentTransition state.agentStatus message ∧
        ((∃ request, Received env args state (.queryRequest request) ∧
            message = (queried lib env args request state).1 ∧ outcome.state.table = state.table) ∨
          ∃ update, Received env args state (.update update) ∧
            message = (updated lib env update state).message ∧
            outcome.state.table = (updated lib env update state).state.table)) := by
  intro outcome
  have exits : Exit lib env args state outcome := ecallProcessMessage_exit lib env args state
  change outcome.result = .fatal at fatal
  generalize outcome = after at exits fatal ⊢
  cases exits with
  | refused nothing => exact ⟨by simp, .inl ⟨rfl, by simp, nothing⟩⟩
  | early received waiting => exact absurd waiting (expected _ received)
  -- the status has already changed when the message turns out not to be sent
  | @query request received =>
    have unsent := (encodeAndSign_fatal _ _ _).mp fatal
    have within := queried_within lib env args request state
    refine ⟨?_, .inr ⟨_, by simp [MessageOutcome.after], unsent, rfl, .inl ⟨request, received, rfl, rfl⟩⟩⟩
    intro cose
    apply sendMessage_unsigned _ unsent
    simp [within.not_mem, kindOf]
  | @update update received expected =>
    have unsent := (encodeAndSign_fatal _ _ _).mp fatal
    have within := updated_within lib env update state
    refine ⟨?_, .inr ⟨_, by simp [MessageOutcome.after], unsent, rfl, .inr ⟨update, received, rfl, rfl⟩⟩⟩
    intro cose
    apply sendMessage_unsigned _ unsent
    simp [within.not_mem, kindOf]

/-! ## A caller buffer that is too small -/

/-- The array of the type of the message, which stands for the rest of it. -/
def encodeType : TeepMessage → Bytes
  | .queryResponse _ => Cbor.encode (.array [.unsigned 2])
  | .success _ => Cbor.encode (.array [.unsigned 5])
  | .error _ => Cbor.encode (.array [.unsigned 6])
  | .other => Cbor.encode (.array [])

/-- Every received message is the given one, and a signature adds nothing to a message. -/
def workingMessage (received : RecvMessage) (leftover : TeepMessage) (processEnvelope : Bytes → EnvelopeRun) :
    MessageEnv where
  verifySign1 := some
  verifySign := some
  setMessageFromBytes := fun _ => some received
  leftover := leftover
  query := workingQuery
  manifests := fun _ => workingManifest processEnvelope
  encodeMessage := fun message => some (encodeType message)
  signSign1 := fun cbor size => if cbor.length ≤ size then some cbor else none

def freshState : EnclaveState := initialState .ready ⟨.null 0⟩

def firstRequest : MessageEnv :=
  workingMessage (.queryRequest trustedComponentsRequest) .other fun _ => mismatchedRun

/-- The caller of the first request has no room for the response. -/
def noRoom : MessageArgs := ⟨[], some [97], 0⟩

theorem noRoom_leaves :
    (∃ message, .built message ∈ (ecallProcessMessage smallLibraries firstRequest noRoom freshState).events ∧
      Unsent firstRequest noRoom message) := by
  have leaves := (fatal_leaves smallLibraries firstRequest noRoom freshState
    (by rintro update ⟨_, received⟩; cases received) (by decide +kernel)).2
  cases leaves with
  | inl unbuilt =>
    have other := unbuilt.2.2 (.queryRequest trustedComponentsRequest) ⟨rfl, rfl⟩
    cases other
  | inr built =>
    obtain ⟨message, member, unsent, _⟩ := built
    exact ⟨message, member, unsent⟩

/-- The status has moved on although no response was returned. -/
theorem noRoom_changes : ¬ ∀ (lib : Libraries) (env : MessageEnv) (args : MessageArgs) (state : EnclaveState),
    (ecallProcessMessage lib env args state).result = .fatal →
      (ecallProcessMessage lib env args state).state.agentStatus = state.agentStatus ∧
        ∀ record, record ∈ (ecallProcessMessage lib env args state).state.table.active ↔
          record ∈ state.table.active := by
  intro unchanged
  have same := (unchanged smallLibraries firstRequest noRoom freshState (by decide +kernel)).1
  have changed : (ecallProcessMessage smallLibraries firstRequest noRoom freshState).state.agentStatus =
      .waitingUpdateOrQueryRequest := by decide +kernel
  rw [changed] at same
  cases same

end Taws.Enclave
