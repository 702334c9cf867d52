import Taws.Enclave.Exits

/-!
# The order of the protocol

An Update is processed only after a QueryResponse.  The guard against an early Update leaves the `switch`
and not the function, so the call goes on with whatever `send_message` held on entry: whether it is
refused then depends on those contents.

* `ProtocolOrder` — what should hold of a run.
* `early_ignored_iff` — when an early Update is refused.
* `protocolOrder_iff` — a run is in order exactly when every early Update is refused.
-/

namespace Taws.Enclave

open TcManager
open Suit
open Teep

/-! ## The property -/

/-- A QueryResponse has been built, and no Success since. -/
def QueryAnswered (events : List Event) : Prop :=
  ∃ earlier response later, events = earlier ++ .built (.queryResponse response) :: later ∧
    ∀ success, .built (.success success) ∉ later

def EnteredInOrder (before : List Event) (event : Event) : Prop :=
  event = .updateEntered → QueryAnswered before

/-- An Update received while a QueryRequest is waited for. -/
structure EarlyUpdate (env : MessageEnv) (args : MessageArgs) (state : EnclaveState) : Prop where
  received : ∃ update, Received env args state (.update update)
  waiting : state.agentStatus = .waitingQueryRequest

/-- The call fails, sends and frees nothing, and leaves the status and the table alone. -/
structure Ignored (lib : Libraries) (env : MessageEnv) (args : MessageArgs) (state : EnclaveState) : Prop where
  fatal : (ecallProcessMessage lib env args state).result = .fatal
  notEncoded : ∀ message, .encoded message ∉ (ecallProcessMessage lib env args state).events
  notSigned : ∀ message, .signed message ∉ (ecallProcessMessage lib env args state).events
  notFreed : ∀ block, .freed block ∉ (ecallProcessMessage lib env args state).events
  agentStatus : (ecallProcessMessage lib env args state).state.agentStatus = state.agentStatus
  table : (ecallProcessMessage lib env args state).state.table = state.table

def IgnoresEarly (lib : Libraries) (state : EnclaveState) : EnclaveAction → Prop
  | .processMessage env args => EarlyUpdate env args state → Ignored lib env args state
  | .invokeWasm _ _ => True

/-- `process_update` is entered in order, and every early Update is ignored. -/
def ProtocolOrder (lib : Libraries) (state : EnclaveState) (run : List EnclaveAction) : Prop :=
  EveryEvent EnteredInOrder [] ((enclaveMachine lib).run state run).2 ∧
    (enclaveMachine lib).Meets (IgnoresEarly lib) state run

/-- What an early Update finds in `send_message` is not a QueryResponse and cannot be encoded. -/
def RefusesLeftover (state : EnclaveState) : EnclaveAction → Prop
  | .processMessage env args => EarlyUpdate env args state →
    env.leftover.isQueryResponse = false ∧ env.encodeMessage env.leftover = none
  | .invokeWasm _ _ => True

variable {lib : Libraries} {env : MessageEnv} {args : MessageArgs} {state : EnclaveState}

/-! ## Early Updates -/

theorem early_eq (lib : Libraries) (early : EarlyUpdate env args state) :
    ecallProcessMessage lib env args state = sendMessage env args env.leftover state := by
  obtain ⟨⟨update, ready, received⟩, waiting⟩ := early
  simp [ecallProcessMessage, ready, received, handleMessage, handleUpdate, waiting]

theorem agentTransition_waiting (message : TeepMessage) :
    agentTransition .waitingQueryRequest message = .waitingQueryRequest ↔ message.isQueryResponse = false := by
  cases message <;> simp [agentTransition, TeepMessage.isQueryResponse]

theorem freeTcList_eq_nil {message : TeepMessage} (other : message.isQueryResponse = false) :
    freeTcList message = [] := by
  cases message with
  | queryResponse response => cases other
  | error error => rfl
  | success success => rfl
  | other => rfl

theorem early_ignored_iff (early : EarlyUpdate env args state) :
    Ignored lib env args state ↔
      env.leftover.isQueryResponse = false ∧ env.encodeMessage env.leftover = none := by
  have same := early_eq lib early
  constructor
  · intro ignored
    have status := ignored.agentStatus
    have notEncoded := ignored.notEncoded
    rw [same] at status notEncoded
    simp only [sendMessage, early.waiting, agentTransition_waiting] at status
    refine ⟨status, ?_⟩
    cases encoding : env.encodeMessage env.leftover with
    | none => rfl
    | some cbor =>
      -- what can be encoded is encoded, whether or not it can be signed
      refine absurd ?_ (notEncoded cbor)
      cases signing : env.signSign1 cbor args.allocatedLen <;>
        simp [sendMessage, encodeAndSign, encoding, signing]
  · rintro ⟨other, refused⟩
    have sent : sendMessage env args env.leftover state = ⟨.fatal, state, []⟩ := by
      have status : agentTransition state.agentStatus env.leftover = state.agentStatus := by
        rw [early.waiting]
        exact (agentTransition_waiting _).mpr other
      simp [sendMessage, encodeAndSign, refused, freeTcList_eq_nil other, status]
    rw [sent] at same
    constructor <;> simp [same]

theorem ignoresEarly_iff (state : EnclaveState) (action : EnclaveAction) :
    IgnoresEarly lib state action ↔ RefusesLeftover state action := by
  cases action with
  | processMessage env args =>
    constructor
    · intro ignores early
      exact (early_ignored_iff early).mp (ignores early)
    · intro refuses early
      exact (early_ignored_iff early).mpr (refuses early)
  | invokeWasm env args => exact Iff.rfl

/-! ## The invariant -/

/-- While an Update is expected, a QueryResponse has been built since the last Success. -/
def Expecting (emitted : List Event) (state : EnclaveState) : Prop :=
  state.agentStatus = .waitingUpdateOrQueryRequest → QueryAnswered emitted

theorem QueryAnswered.append {emitted events : List Event} (answered : QueryAnswered emitted)
    (noSuccess : ∀ success, .built (.success success) ∉ events) : QueryAnswered (emitted ++ events) := by
  obtain ⟨earlier, response, later, split, none⟩ := answered
  refine ⟨earlier, response, later ++ events, by rw [split]; simp, ?_⟩
  intro success member
  cases List.mem_append.mp member with
  | inl inLater => exact none success inLater
  | inr inEvents => exact noSuccess success inEvents

/-- Sending encodes, signs and frees, and does nothing else. -/
theorem encodeAndSign_not_mem {event : Event} (notEncoded : ∀ cbor, event ≠ .encoded cbor)
    (notSigned : ∀ cose, event ≠ .signed cose) (notHeap : kindOf event ≠ .heap) (message : TeepMessage) :
    event ∉ (encodeAndSign env args message).2 := by
  have freed : event ∉ freeTcList message := (freeTcList_within message).not_mem (by simpa using notHeap)
  unfold encodeAndSign
  repeat' split
  all_goals simp [freed, notEncoded, notSigned]

theorem encodeAndSign_built (env : MessageEnv) (args : MessageArgs) (message built : TeepMessage) :
    .built built ∉ (encodeAndSign env args message).2 :=
  encodeAndSign_not_mem (by simp) (by simp) (by simp [kindOf]) message

theorem encodeAndSign_entered (env : MessageEnv) (args : MessageArgs) (message : TeepMessage) :
    .updateEntered ∉ (encodeAndSign env args message).2 :=
  encodeAndSign_not_mem (by simp) (by simp) (by simp [kindOf]) message

theorem Expecting.send {emitted events : List Event} (expecting : Expecting emitted state)
    (message : TeepMessage) (noSuccess : ∀ success, .built (.success success) ∉ events) :
    Expecting (emitted ++ ((sendMessage env args message state).after (events ++ [.built message])).events)
      ((sendMessage env args message state).after (events ++ [.built message])).state := by
  intro isExpecting
  change agentTransition state.agentStatus message = .waitingUpdateOrQueryRequest at isExpecting
  -- neither a QueryResponse nor a Success moves the status
  have unanswered : message.isQueryResponse = false → message.isSuccess = false →
      QueryAnswered (emitted ++
        ((sendMessage env args message state).after (events ++ [.built message])).events) := by
    intro notQuery notSuccess
    simp only [agentTransition, notQuery, notSuccess, Bool.and_false, Bool.false_eq_true, if_false] at isExpecting
    apply (expecting isExpecting).append
    intro success
    have different : TeepMessage.success success ≠ message := by
      rintro rfl
      cases notSuccess
    simp [MessageOutcome.after, sendMessage, noSuccess success, different, encodeAndSign_built]
  cases message with
  | queryResponse response =>
    refine ⟨emitted ++ events, response, (encodeAndSign env args (.queryResponse response)).2, ?_, ?_⟩
    · simp [MessageOutcome.after, sendMessage]
    · exact fun success => encodeAndSign_built env args _ _
  | error error => exact unanswered rfl rfl
  | success success =>
    -- after a Success no Update is expected, whatever the status was
    cases status : state.agentStatus <;>
      simp [agentTransition, status, TeepMessage.isQueryResponse, TeepMessage.isSuccess] at isExpecting
  | other => exact unanswered rfl rfl

theorem inOrder_of_absent {emitted events : List Event} (absent : .updateEntered ∉ events) :
    EveryEvent EnteredInOrder emitted events := by
  apply everyEvent_of_forall
  intro _ event member isEntered
  rw [isEntered] at member
  exact absurd member absent

/-- What a call emits, given what had been emitted before it: the Update it enters is in order, and
what is expected afterwards is right. -/
theorem ecallProcessMessage_inOrder (lib : Libraries) {emitted : List Event}
    (expecting : Expecting emitted state) (refuses : RefusesLeftover state (.processMessage env args)) :
    Expecting (emitted ++ (ecallProcessMessage lib env args state).events)
        (ecallProcessMessage lib env args state).state ∧
      EveryEvent EnteredInOrder emitted (ecallProcessMessage lib env args state).events := by
  have exits := ecallProcessMessage_exit lib env args state
  generalize ecallProcessMessage lib env args state = outcome at exits
  cases exits with
  | refused nothing => exact ⟨by simpa using expecting, everyEvent_nil _⟩
  | early received waiting =>
    -- the contents that are sent instead do not move the status
    obtain ⟨other, refused⟩ := refuses ⟨⟨_, received⟩, waiting⟩
    have status : (sendMessage env args env.leftover state).state.agentStatus = .waitingQueryRequest := by
      simp [sendMessage, waiting, (agentTransition_waiting env.leftover).mpr other]
    refine ⟨?_, inOrder_of_absent (encodeAndSign_entered env args env.leftover)⟩
    intro isExpecting
    rw [status] at isExpecting
    cases isExpecting
  | @query request received =>
    have within := queried_within lib env args request state
    refine ⟨expecting.send _ fun success => within.not_mem (by simp [kindOf]), inOrder_of_absent ?_⟩
    have absent : .updateEntered ∉ (queried lib env args request state).2 := within.not_mem (by simp [kindOf])
    simp [MessageOutcome.after, sendMessage, absent, encodeAndSign_entered]
  | @update update received expected =>
    have within := updated_within lib env update state
    have status : state.agentStatus = .waitingUpdateOrQueryRequest := by
      cases agentStatus : state.agentStatus with
      | waitingQueryRequest => exact absurd agentStatus expected
      | waitingUpdateOrQueryRequest => rfl
    have suit : Expecting emitted { state with suit := (updated lib env update state).state } := expecting
    refine ⟨suit.send _ ?_, ?_⟩
    · intro success
      have absent : .built (.success success) ∉ (updated lib env update state).events :=
        within.not_mem (by simp [kindOf])
      simp [absent]
    · have absent : .updateEntered ∉ (updated lib env update state).events := within.not_mem (by simp [kindOf])
      change EveryEvent EnteredInOrder emitted (.updateEntered :: _)
      refine everyEvent_cons.mpr ⟨fun _ => expecting status, inOrder_of_absent ?_⟩
      simp [sendMessage, absent, encodeAndSign_entered]

theorem enclaveStep_inOrder {emitted : List Event} {action : EnclaveAction}
    (expecting : Expecting emitted state) (refuses : RefusesLeftover state action) :
    Expecting (emitted ++ (enclaveStep lib state action).2) (enclaveStep lib state action).1 ∧
      EveryEvent EnteredInOrder emitted (enclaveStep lib state action).2 := by
  cases action with
  | processMessage env args => exact ecallProcessMessage_inOrder lib expecting refuses
  | invokeWasm env args =>
    have within : Within [.wasm] (enclaveStep lib state (.invokeWasm env args)).2 :=
      ecallInvokeWasm_within _ _ _ _ _
    refine ⟨?_, inOrder_of_absent (within.not_mem (by simp [kindOf]))⟩
    intro isExpecting
    exact (expecting isExpecting).append fun success => within.not_mem (by simp [kindOf])

/-! ## Runs -/

/-- A run from the start is in order exactly when every early Update finds contents in `send_message`
that are not a QueryResponse and cannot be encoded. -/
theorem protocolOrder_iff (lib : Libraries) (keyState : TeepKeyState) (agentKey : TeepKey)
    (run : List EnclaveAction) :
    ProtocolOrder lib (initialState keyState agentKey) run ↔
      (enclaveMachine lib).Meets RefusesLeftover (initialState keyState agentKey) run := by
  constructor
  · intro order
    exact order.2.mono fun state action => (ignoresEarly_iff state action).mp
  · intro refuses
    have start : Expecting [] (initialState keyState agentKey) := by
      intro isExpecting
      cases isExpecting
    have stepped : ∀ emitted state action, Expecting emitted state → RefusesLeftover state action →
        Expecting (emitted ++ ((enclaveMachine lib).step state action).2)
            ((enclaveMachine lib).step state action).1 ∧
          EveryEvent EnteredInOrder emitted ((enclaveMachine lib).step state action).2 :=
      fun _ _ _ expecting refuses => enclaveStep_inOrder expecting refuses
    refine ⟨?_, refuses.mono fun state action => (ignoresEarly_iff state action).mpr⟩
    exact Machine.run_events
      (fun emitted state action expecting refuses => (stepped emitted state action expecting refuses).1)
      (fun emitted state action expecting refuses => (stepped emitted state action expecting refuses).2)
      start refuses

/-! ## An early Update that is answered -/

/-- `send_message` still holds a Success. -/
def earlyUpdate : MessageEnv :=
  workingMessage (.update oneManifest) (.success ⟨.null 0, none⟩) fun _ => mismatchedRun

theorem earlyUpdate_answered :
    (ecallProcessMessage smallLibraries earlyUpdate ⟨[], some [97], 4096⟩ freshState).result = .success ∧
      ¬ ProtocolOrder smallLibraries freshState [.processMessage earlyUpdate ⟨[], some [97], 4096⟩] := by
  have answered : (ecallProcessMessage smallLibraries earlyUpdate ⟨[], some [97], 4096⟩ freshState).result =
      .success := by decide +kernel
  refine ⟨answered, ?_⟩
  rintro ⟨_, ignores, _⟩
  have fatal := (ignores ⟨⟨oneManifest, rfl, rfl⟩, rfl⟩).fatal
  rw [answered] at fatal
  cases fatal

end Taws.Enclave
