import Taws.Statements
import Taws.Teep.Update

/-!
# The local variables of `process_update`

`process_update` once more, statement by statement: `reporting_engine`, `processor_context` and
`processor_initialized` are declared before the loop, every iteration sets them and clears them at its end, and
each failure jumps to the label `error`, which releases what they still hold.  `Update.lean` has the same
function with the variables worked out; here they are what the code reads.

* `UpdateLocals` — the variables, and a trace of what is allocated, accessed and freed.
* `manifestStatements` — the body of the loop.
* `errorLabel`, `runUpdate` — the label, and the function.
* `runUpdate_eq` — both models return the same message and leave the same table and the same events.
-/

namespace Taws.Teep

open Suit

/-- An event, or an access through a pointer, which is `none` where it is NULL. -/
inductive Traced where
  | event (event : Event)
  | accesses (pointer : Option Block)
  deriving DecidableEq

/-- `envelope_buf` is in the processor context; what is kept of it is its length, and what is copied into it. -/
structure UpdateLocals where
  reportingEngine : Option Block
  processorContext : Option Block
  processorInitialized : Bool
  envelopeBufLen : Nat
  envelope : Bytes
  state : SuitState
  trace : List Traced

namespace UpdateLocals

/-- The declarations at the start of the function. -/
def declared (state : SuitState) : UpdateLocals where
  reportingEngine := none
  processorContext := none
  processorInitialized := false
  envelopeBufLen := 0
  envelope := []
  state := state
  trace := []

def traced (locals : UpdateLocals) (trace : List Traced) : UpdateLocals :=
  { locals with trace := locals.trace ++ trace }

/-- An event of the processor context; there is none without a context. -/
def contextEvent (locals : UpdateLocals) (event : Block → Event) : List Traced :=
  locals.processorContext.toList.map fun context => .event (event context)

/-- `suit_processor_free(processor_context)` -/
def suitProcessorFree (locals : UpdateLocals) : UpdateLocals :=
  locals.traced (.accesses locals.processorContext :: locals.contextEvent .processorFreed)

/-- `free(pointer)`, which does nothing for NULL. -/
def free (locals : UpdateLocals) (pointer : Option Block) : UpdateLocals :=
  locals.traced (pointer.toList.map fun block => .event (.freed block))

end UpdateLocals

/-! ## The statements of the loop -/

abbrev UpdateStatement := Statement UpdateLocals UpdateFailure

def temporaryError : UpdateFailure := { errCode := .temporaryError }
def permanentError : UpdateFailure := { errCode := .permanentError }

/-- `calloc` for `reporting_engine`, and the check for NULL. -/
def allocateReportingEngine (env : ManifestEnv) : UpdateStatement := fun locals =>
  match env.reportingEngine with
  | none => (some temporaryError, { locals with reportingEngine := none })
  | some engine => (none, { locals.traced [.event (.allocated engine)] with reportingEngine := some engine })

/-- `calloc` for `processor_context`, and the check for NULL. -/
def allocateProcessorContext (env : ManifestEnv) : UpdateStatement := fun locals =>
  match env.processorContext with
  | none => (some temporaryError, { locals with processorContext := none })
  | some context => (none, { locals.traced [.event (.allocated context)] with processorContext := some context })

/-- `suit_report_init_engine` and `suit_report_start_encoding`: a call with `reporting_engine`. -/
def callWithEngine (succeeds : Bool) : UpdateStatement := fun locals =>
  let locals := locals.traced [.accesses locals.reportingEngine]
  if succeeds then (none, locals) else (some temporaryError, locals)

def suitProcessorInit (env : ManifestEnv) : UpdateStatement := fun locals =>
  let locals := locals.traced [.accesses locals.processorContext, .accesses locals.reportingEngine]
  match env.processorInit with
  | none => (some temporaryError, locals)
  | some envelopeBufLen =>
    (none, { locals.traced (locals.contextEvent .processorInitialized) with
      envelopeBufLen := envelopeBufLen
      processorInitialized := true })

def suitProcessorAddRecipientKey (env : ManifestEnv) : UpdateStatement := fun locals =>
  let locals := locals.traced [.accesses locals.processorContext]
  if env.recipientKeyAdded then (none, locals) else (some temporaryError, locals)

/-- The checks of the list item, and the copy of it. -/
def readEnvelope (item : Buffer) : UpdateStatement := fun locals =>
  if item.isNull || item.len == 0 || item.len > locals.envelopeBufLen then (some permanentError, locals)
  else
    (none, { locals.traced [.accesses locals.processorContext] with
      envelope := item.data
      envelopeBufLen := item.len })

def suitProcessorAddManifest (env : ManifestEnv) : UpdateStatement := fun locals =>
  let locals := locals.traced (.accesses locals.processorContext :: locals.contextEvent .manifestAdded)
  if env.addManifest locals.envelope then (none, locals) else (some permanentError, locals)

def suitProcessEnvelope (csuit : Libcsuit) (env : ManifestEnv) : UpdateStatement := fun locals =>
  let run := env.processEnvelope locals.envelope
  let ran := runCallbacks csuit run.callbacks locals.state
  let locals := { locals.traced
      (.accesses locals.processorContext ::
        (ran.1.map fun called => .event (.callback called.1 called.2)) ++
          locals.contextEvent (.envelopeProcessed · run.manifestDigest run.result)) with
    state := ran.2 }
  if run.result ≠ .success then
    (some ⟨.manifestProcessingFailed, failReport (suitGetSuitReport ran.2)⟩, locals)
  else (none, locals)

/-- `tc_manager_check_and_update_record` with the digest in the processor context. -/
def checkAndUpdateRecord (env : ManifestEnv) : UpdateStatement := fun locals =>
  let run := env.processEnvelope locals.envelope
  let checked := TcManager.tcManagerCheckAndUpdateRecord run.manifestDigest locals.state.table
  let locals := { locals.traced
      (.accesses locals.processorContext ::
        locals.contextEvent (.recordChecked · run.manifestDigest checked.1)) with
    state := { locals.state with table := checked.2 } }
  if checked.1 ≠ 0 then (some temporaryError, locals) else (none, locals)

/-- The end of an iteration: what it holds is released and the variables are cleared. -/
def endIteration (locals : UpdateLocals) : UpdateLocals :=
  let locals :=
    if locals.processorInitialized then { locals.suitProcessorFree with processorInitialized := false }
    else locals
  let locals := { locals.free locals.processorContext with processorContext := none }
  { locals.free locals.reportingEngine with reportingEngine := none }

/-- There is one recipient key. -/
def setUpStatements (env : ManifestEnv) : List UpdateStatement :=
  [allocateReportingEngine env,
    allocateProcessorContext env,
    .require env.senderKeySet temporaryError,
    callWithEngine env.reportEngineInitialized,
    callWithEngine env.reportEncodingStarted,
    suitProcessorInit env,
    .require env.recipientKeySet temporaryError,
    suitProcessorAddRecipientKey env]

def processStatements (csuit : Libcsuit) (env : ManifestEnv) : List UpdateStatement :=
  [suitProcessEnvelope csuit env,
    checkAndUpdateRecord env,
    .assign endIteration]

/-- The body of the loop. -/
def manifestStatements (csuit : Libcsuit) (env : ManifestEnv) (item : Buffer) : List UpdateStatement :=
  setUpStatements env ++ readEnvelope item :: suitProcessorAddManifest env :: processStatements csuit env

/-! ## The function -/

def updateStatements (lib : Libraries) (manifests : Nat → ManifestEnv) (update : TeepUpdate) :
    List UpdateStatement :=
  [.require (tokenAccepted update) permanentError,
    .require (manifestListAccepted lib.teep update) permanentError,
    .forEach (fun index item => .block (manifestStatements lib.csuit (manifests index) item)) 0
      update.manifestList]

/-- `error:`, which is also where the function comes without an error. -/
def errorLabel (locals : UpdateLocals) : UpdateLocals :=
  let locals := if locals.processorInitialized then locals.suitProcessorFree else locals
  let locals := if locals.processorContext ≠ none then locals.free locals.processorContext else locals
  if locals.reportingEngine ≠ none then locals.free locals.reportingEngine else locals

/-- The message, and the variables when the function returns. -/
def runUpdate (lib : Libraries) (manifests : Nat → ManifestEnv) (update : TeepUpdate) (state : SuitState) :
    TeepMessage × UpdateLocals :=
  let ran := Statement.block (updateStatements lib manifests update) (.declared state)
  match ran.1 with
  | some failure =>
    (createError lib.teep update.token failure.errCode (.null 0) failure.errorSuitReport, errorLabel ran.2)
  | none => (createSuccess update (suitGetSuitReport ran.2.state), errorLabel ran.2)

/-! ## Both models agree -/

/-- The event, unless it is an access. -/
def Traced.toEvent : Traced → Option Event
  | .event emitted => some emitted
  | .accesses _ => none

/-- The events of a trace. -/
def tracedEvents (trace : List Traced) : List Event := trace.filterMap Traced.toEvent

section tracedEvents

variable (trace later : List Traced)

@[simp] theorem tracedEvents_nil : tracedEvents [] = [] := rfl

@[simp] theorem tracedEvents_event (emitted : Event) :
    tracedEvents (.event emitted :: trace) = emitted :: tracedEvents trace := rfl

@[simp] theorem tracedEvents_accesses (pointer : Option Block) :
    tracedEvents (.accesses pointer :: trace) = tracedEvents trace := rfl

@[simp] theorem tracedEvents_append : tracedEvents (trace ++ later) = tracedEvents trace ++ tracedEvents later :=
  List.filterMap_append

@[simp] theorem tracedEvents_map {α : Type} (emitted : α → Event) (items : List α) :
    tracedEvents (items.map fun item => .event (emitted item)) = items.map emitted := by
  induction items with
  | nil => rfl
  | cons item items inductionHypothesis => rw [List.map_cons, tracedEvents_event, inductionHypothesis, List.map_cons]

end tracedEvents

namespace UpdateLocals

/-- What the variables hold. -/
def held (locals : UpdateLocals) : Resources :=
  ⟨locals.reportingEngine, locals.processorContext, locals.processorInitialized⟩

/-- The variables hold nothing. -/
structure Cleared (locals : UpdateLocals) : Prop where
  reportingEngine : locals.reportingEngine = none
  processorContext : locals.processorContext = none
  processorInitialized : locals.processorInitialized = false

variable {locals : UpdateLocals} {trace : List Traced}

@[simp] theorem traced_reportingEngine : (locals.traced trace).reportingEngine = locals.reportingEngine := rfl
@[simp] theorem traced_processorContext : (locals.traced trace).processorContext = locals.processorContext := rfl
@[simp] theorem traced_processorInitialized :
    (locals.traced trace).processorInitialized = locals.processorInitialized := rfl
@[simp] theorem traced_envelopeBufLen : (locals.traced trace).envelopeBufLen = locals.envelopeBufLen := rfl
@[simp] theorem traced_envelope : (locals.traced trace).envelope = locals.envelope := rfl
@[simp] theorem traced_state : (locals.traced trace).state = locals.state := rfl
@[simp] theorem traced_held : (locals.traced trace).held = locals.held := rfl
@[simp] theorem traced_trace : (locals.traced trace).trace = locals.trace ++ trace := rfl

end UpdateLocals

variable {csuit : Libcsuit} {env : ManifestEnv} {item : Buffer} {locals : UpdateLocals}

/-- The set-up leaves in the variables what is held, and jumps with a temporary error or is ready. -/
structure SetUpAgrees (locals : UpdateLocals) (setUp : SetUp) (ran : Option UpdateFailure × UpdateLocals) : Prop where
  held : ran.2.held = setUp.held
  state : ran.2.state = locals.state
  events : tracedEvents ran.2.trace = tracedEvents locals.trace ++ setUp.events
  fails : setUp.ready = none → ran.1 = some temporaryError
  goesOn : ∀ context envelopeBufLen, setUp.ready = some (context, envelopeBufLen) →
    ran.1 = none ∧ ran.2.processorContext = some context ∧ ran.2.envelopeBufLen = envelopeBufLen

theorem setUpStatements_eq (env : ManifestEnv) (cleared : locals.Cleared) :
    SetUpAgrees locals (setUpProcessor env) (Statement.block (setUpStatements env) locals) := by
  obtain ⟨reportingEngine, processorContext, processorInitialized, envelopeBufLen, envelope, state, trace⟩ := locals
  obtain ⟨rfl, rfl, rfl⟩ := cleared
  simp only [setUpProcessor, setUpStatements, Statement.block_cons, Statement.block_nil, Statement.andThen,
    Statement.require, allocateReportingEngine, allocateProcessorContext, callWithEngine, suitProcessorInit,
    suitProcessorAddRecipientKey]
  rcases env.reportingEngine with _ | engine
  · constructor <;> simp [UpdateLocals.held]
  rcases env.processorContext with _ | context
  · constructor <;> simp [UpdateLocals.held]
  rcases env.senderKeySet with _ | _
  · constructor <;> simp [UpdateLocals.held]
  rcases env.reportEngineInitialized with _ | _
  · constructor <;> simp [UpdateLocals.held]
  rcases env.reportEncodingStarted with _ | _
  · constructor <;> simp [UpdateLocals.held]
  rcases env.processorInit with _ | envelopeBufLen
  · constructor <;> simp [UpdateLocals.held]
  -- from here on there is a processor to free
  rcases env.recipientKeySet with _ | _
  · constructor <;> simp [UpdateLocals.held, UpdateLocals.contextEvent]
  rcases env.recipientKeyAdded with _ | _
  · constructor <;> simp [UpdateLocals.held, UpdateLocals.contextEvent]
  · constructor <;> simp [UpdateLocals.held, UpdateLocals.contextEvent]

/-- What the end of an iteration and the label add to the trace. -/
def UpdateLocals.releaseTrace (locals : UpdateLocals) : List Traced :=
  (if locals.processorInitialized then .accesses locals.processorContext :: locals.contextEvent .processorFreed
    else []) ++ locals.contextEvent .freed ++ locals.reportingEngine.toList.map fun engine => .event (.freed engine)

theorem errorLabel_trace (locals : UpdateLocals) :
    (errorLabel locals).trace = locals.trace ++ locals.releaseTrace := by
  obtain ⟨engine, context, initialized, envelopeBufLen, envelope, state, trace⟩ := locals
  cases engine <;> cases context <;> cases initialized <;>
    simp [errorLabel, UpdateLocals.suitProcessorFree, UpdateLocals.free, UpdateLocals.contextEvent,
      UpdateLocals.releaseTrace]

theorem endIteration_trace (locals : UpdateLocals) :
    (endIteration locals).trace = locals.trace ++ locals.releaseTrace := by
  obtain ⟨engine, context, initialized, envelopeBufLen, envelope, state, trace⟩ := locals
  cases initialized <;>
    simp [endIteration, UpdateLocals.suitProcessorFree, UpdateLocals.free, UpdateLocals.contextEvent,
      UpdateLocals.releaseTrace]

theorem tracedEvents_releaseTrace (locals : UpdateLocals) :
    tracedEvents locals.releaseTrace = release locals.held := by
  unfold UpdateLocals.releaseTrace release UpdateLocals.held UpdateLocals.contextEvent
  cases locals.processorInitialized <;> simp

theorem errorLabel_events (locals : UpdateLocals) :
    tracedEvents (errorLabel locals).trace = tracedEvents locals.trace ++ release locals.held := by
  rw [errorLabel_trace, tracedEvents_append, tracedEvents_releaseTrace]

theorem endIteration_events (locals : UpdateLocals) :
    tracedEvents (endIteration locals).trace = tracedEvents locals.trace ++ release locals.held := by
  rw [endIteration_trace, tracedEvents_append, tracedEvents_releaseTrace]

theorem endIteration_cleared (locals : UpdateLocals) : (endIteration locals).Cleared := by
  unfold endIteration
  split
  · constructor <;> rfl
  · next notInitialized => exact ⟨rfl, rfl, Bool.eq_false_of_not_eq_true notInitialized⟩

theorem endIteration_state (locals : UpdateLocals) : (endIteration locals).state = locals.state := by
  unfold endIteration
  split <;> rfl

theorem UpdateLocals.Cleared.release (cleared : locals.Cleared) : release locals.held = [] := by
  simp [Teep.release, UpdateLocals.held, cleared.reportingEngine, cleared.processorContext,
    cleared.processorInitialized]

/-- What is left of an iteration after the set-up. -/
def afterSetUp (csuit : Libcsuit) (env : ManifestEnv) (item : Buffer) (context : Block) (envelopeBufLen : Nat)
    (held : Resources) (state : SuitState) : SuitState × List Event × Option UpdateFailure :=
  if item.isNull || item.len == 0 || item.len > envelopeBufLen then (state, release held, some permanentError)
  else if !env.addManifest item.data then (state, .manifestAdded context :: release held, some permanentError)
  else
    let processed := processEnvelope csuit context (env.processEnvelope item.data) state
    (processed.1, .manifestAdded context :: processed.2.1 ++ release held, processed.2.2)

theorem processManifest_afterSetUp (csuit : Libcsuit) (item : Buffer) (state : SuitState) {context : Block}
    {envelopeBufLen : Nat} (ready : (setUpProcessor env).ready = some (context, envelopeBufLen)) :
    processManifest csuit env item state =
      ((afterSetUp csuit env item context envelopeBufLen (setUpProcessor env).held state).1,
        (setUpProcessor env).events ++
          (afterSetUp csuit env item context envelopeBufLen (setUpProcessor env).held state).2.1,
        (afterSetUp csuit env item context envelopeBufLen (setUpProcessor env).held state).2.2) := by
  simp only [processManifest, ready, afterSetUp]
  split
  · rfl
  split
  · rfl
  · simp

/-- What comes out of an iteration, the label included when it jumps there. -/
structure IterationAgrees (before : List Event) (processed : SuitState × List Event × Option UpdateFailure)
    (ran : Option UpdateFailure × UpdateLocals) : Prop where
  failure : ran.1 = processed.2.2
  state : ran.2.state = processed.1
  events : tracedEvents (errorLabel ran.2).trace = before ++ processed.2.1
  cleared : ran.1 = none → ran.2.Cleared

theorem processStatements_eq (csuit : Libcsuit) (env : ManifestEnv) {context : Block}
    (there : locals.processorContext = some context) :
    let processed := processEnvelope csuit context (env.processEnvelope locals.envelope) locals.state
    IterationAgrees (tracedEvents locals.trace) (processed.1, processed.2.1 ++ release locals.held, processed.2.2)
      (Statement.block (processStatements csuit env) locals) := by
  simp only [processStatements, Statement.block_cons, Statement.block_nil, Statement.andThen, Statement.assign,
    suitProcessEnvelope, checkAndUpdateRecord, processEnvelope]
  generalize isRun : env.processEnvelope locals.envelope = run
  generalize runCallbacks csuit run.callbacks locals.state = ran
  by_cases failed : run.result ≠ .success
  · simp only [if_pos failed]
    refine ⟨rfl, rfl, ?_, by simp⟩
    rw [errorLabel_events]
    simp [UpdateLocals.held, UpdateLocals.contextEvent, there]
  simp only [if_neg failed, UpdateLocals.traced_envelope, isRun]
  by_cases unchecked : (TcManager.tcManagerCheckAndUpdateRecord run.manifestDigest ran.2.table).1 ≠ 0
  · simp only [if_pos unchecked]
    refine ⟨rfl, rfl, ?_, by simp⟩
    rw [errorLabel_events]
    simp [UpdateLocals.held, UpdateLocals.contextEvent, there]
  -- the end of the iteration has left the label nothing to release
  · simp only [if_neg unchecked]
    refine ⟨rfl, endIteration_state _, ?_, fun _ => endIteration_cleared _⟩
    rw [errorLabel_events, (endIteration_cleared _).release, endIteration_events]
    simp [UpdateLocals.held, UpdateLocals.contextEvent, there]

/-- The call keeps what is held and the record table, and emits the events. -/
structure Emits (locals next : UpdateLocals) (events : List Event) : Prop where
  held : next.held = locals.held
  state : next.state = locals.state
  events : tracedEvents next.trace = tracedEvents locals.trace ++ events

theorem Emits.context {next : UpdateLocals} {events : List Event} {context : Option Block}
    (emits : Emits locals next events) (there : locals.processorContext = context) :
    next.processorContext = context :=
  (congrArg Resources.processorContext emits.held).trans there

/-- An accepted item is copied. -/
theorem readEnvelope_accepts
    (accepted : ¬ (item.isNull || item.len == 0 || item.len > locals.envelopeBufLen) = true) :
    ∃ next, readEnvelope item locals = (none, next) ∧ next.envelope = item.data ∧ Emits locals next [] :=
  ⟨_, if_neg accepted, rfl, rfl, rfl, by simp⟩

theorem suitProcessorAddManifest_adds (env : ManifestEnv) {context : Block}
    (there : locals.processorContext = some context) :
    ∃ next, suitProcessorAddManifest env locals =
        (if env.addManifest locals.envelope then none else some permanentError, next) ∧
      next.envelope = locals.envelope ∧ Emits locals next [.manifestAdded context] := by
  refine ⟨locals.traced (.accesses locals.processorContext :: locals.contextEvent .manifestAdded), ?_, rfl, rfl,
    rfl, ?_⟩
  · cases added : env.addManifest locals.envelope <;> simp [suitProcessorAddManifest, added]
  · simp [UpdateLocals.contextEvent, there]

theorem envelopeStatements_eq (csuit : Libcsuit) (env : ManifestEnv) (item : Buffer) {context : Block}
    (there : locals.processorContext = some context) :
    IterationAgrees (tracedEvents locals.trace)
      (afterSetUp csuit env item context locals.envelopeBufLen locals.held locals.state)
      (Statement.block (readEnvelope item :: suitProcessorAddManifest env :: processStatements csuit env) locals) := by
  rw [Statement.block_cons, afterSetUp]
  by_cases refused : (item.isNull || item.len == 0 || item.len > locals.envelopeBufLen) = true
  · rw [Statement.andThen_jumps (show readEnvelope item locals = (some permanentError, locals) from if_pos refused),
      if_pos refused]
    exact ⟨rfl, rfl, errorLabel_events _, by simp⟩
  obtain ⟨read, reads, envelope, readEmits⟩ := readEnvelope_accepts refused
  obtain ⟨given, adds, sameEnvelope, addEmits⟩ := suitProcessorAddManifest_adds env (readEmits.context there)
  have given_events : tracedEvents given.trace = tracedEvents locals.trace ++ [.manifestAdded context] := by
    rw [addEmits.events, readEmits.events, List.append_nil]
  rw [Statement.andThen_goes_on reads, Statement.block_cons, if_neg refused]
  rw [envelope] at adds sameEnvelope
  cases added : env.addManifest item.data with
  | false =>
    rw [added, if_neg Bool.false_ne_true] at adds
    rw [Statement.andThen_jumps adds]
    refine ⟨rfl, addEmits.state.trans readEmits.state, ?_, by simp⟩
    rw [errorLabel_events, addEmits.held, readEmits.held, given_events]
    simp
  | true =>
    rw [added, if_pos rfl] at adds
    rw [Statement.andThen_goes_on adds]
    have agrees := processStatements_eq csuit env (addEmits.context (readEmits.context there))
    rw [sameEnvelope, addEmits.state, readEmits.state, addEmits.held, readEmits.held] at agrees
    refine ⟨agrees.failure, agrees.state, ?_, agrees.cleared⟩
    rw [agrees.events, given_events]
    simp

/-- An iteration that starts with cleared variables. -/
theorem manifestStatements_eq (csuit : Libcsuit) (env : ManifestEnv) (item : Buffer) (cleared : locals.Cleared) :
    IterationAgrees (tracedEvents locals.trace) (processManifest csuit env item locals.state)
      (Statement.block (manifestStatements csuit env item) locals) := by
  have setUp := setUpStatements_eq env cleared
  rw [manifestStatements, Statement.block_append]
  rcases outcome : Statement.block (setUpStatements env) locals with ⟨jump, next⟩
  rw [outcome] at setUp
  cases ready : (setUpProcessor env).ready with
  | none =>
    obtain rfl : jump = some temporaryError := setUp.fails ready
    rw [Statement.andThen_jumps outcome]
    simp only [processManifest, ready]
    refine ⟨rfl, setUp.state, ?_, by simp⟩
    rw [errorLabel_events, setUp.events, setUp.held, List.append_assoc]
  | some prepared =>
    obtain ⟨context, envelopeBufLen⟩ := prepared
    obtain ⟨rfl, there, rfl⟩ := setUp.goesOn context envelopeBufLen ready
    have agrees := envelopeStatements_eq csuit env item there
    rw [setUp.held, setUp.state, setUp.events] at agrees
    rw [Statement.andThen_goes_on outcome, processManifest_afterSetUp csuit item locals.state ready]
    refine ⟨agrees.failure, agrees.state, ?_, agrees.cleared⟩
    rw [agrees.events, List.append_assoc]

/-- The loop, by induction on the list. -/
theorem manifestLoop_eq (csuit : Libcsuit) (manifests : Nat → ManifestEnv) (index : Nat) (items : List Buffer)
    (cleared : locals.Cleared) :
    IterationAgrees (tracedEvents locals.trace) (processManifests csuit manifests index items locals.state)
      (Statement.forEach (fun index item => .block (manifestStatements csuit (manifests index) item)) index items
        locals) := by
  induction items generalizing index locals with
  | nil =>
    refine ⟨rfl, rfl, ?_, fun _ => cleared⟩
    rw [errorLabel_events]
    exact congrArg (tracedEvents locals.trace ++ ·) cleared.release
  | cons item items inductionHypothesis =>
    have agrees := manifestStatements_eq csuit (manifests index) item cleared
    rcases outcome : Statement.block (manifestStatements csuit (manifests index) item) locals with ⟨jump, next⟩
    rcases processed : processManifest csuit (manifests index) item locals.state with ⟨state, events, failure⟩
    rw [outcome, processed] at agrees
    obtain ⟨rfl, rfl, emitted, clears⟩ := agrees
    rw [Statement.forEach]
    cases jump with
    | some failure =>
      rw [Statement.andThen_jumps outcome]
      simp only [processManifests, processed]
      exact ⟨rfl, rfl, emitted, by simp⟩
    | none =>
      rw [Statement.andThen_goes_on outcome]
      -- the next iteration starts with cleared variables again
      have later := inductionHypothesis (index + 1) (clears rfl)
      have sofar : tracedEvents next.trace = tracedEvents locals.trace ++ events := by
        rw [← emitted, errorLabel_events, (clears rfl).release, List.append_nil]
      simp only [processManifests, processed]
      refine ⟨later.failure, later.state, ?_, later.cleared⟩
      rw [later.events, sofar, List.append_assoc]

theorem errorLabel_state (locals : UpdateLocals) : (errorLabel locals).state = locals.state := by
  simp only [errorLabel]
  repeat' split
  all_goals rfl

theorem declared_cleared (state : SuitState) : (UpdateLocals.declared state).Cleared := ⟨rfl, rfl, rfl⟩

/-- Statement by statement, the function does what the other model says. -/
theorem runUpdate_eq (lib : Libraries) (manifests : Nat → ManifestEnv) (update : TeepUpdate) (state : SuitState) :
    (runUpdate lib manifests update state).1 = (processUpdate lib manifests update state).message ∧
      (runUpdate lib manifests update state).2.state = (processUpdate lib manifests update state).state ∧
      tracedEvents (runUpdate lib manifests update state).2.trace =
        (processUpdate lib manifests update state).events := by
  cases token : tokenAccepted update with
  | false =>
    have jumps : Statement.block (updateStatements lib manifests update) (.declared state) =
        (some permanentError, .declared state) := by
      simp [updateStatements, Statement.block_cons, Statement.andThen, Statement.require, token]
    simp only [runUpdate, jumps, processUpdate, token]
    exact ⟨rfl, rfl, rfl⟩
  | true =>
    cases list : manifestListAccepted lib.teep update with
    | false =>
      have jumps : Statement.block (updateStatements lib manifests update) (.declared state) =
          (some permanentError, .declared state) := by
        simp [updateStatements, Statement.block_cons, Statement.andThen, Statement.require, token, list]
      simp only [runUpdate, jumps, processUpdate, token, list]
      exact ⟨rfl, rfl, rfl⟩
    | true =>
      have agrees := manifestLoop_eq lib.csuit manifests 0 update.manifestList (declared_cleared state)
      rcases loop : Statement.forEach (fun index item => Statement.block (manifestStatements lib.csuit (manifests index)
        item)) 0 update.manifestList (UpdateLocals.declared state) with ⟨jump, final⟩
      have ran : Statement.block (updateStatements lib manifests update) (.declared state) = (jump, final) := by
        simp only [updateStatements, Statement.block_cons, Statement.andThen, Statement.require, token, list, if_true,
          loop]
        cases jump <;> rfl
      rcases processed : processManifests lib.csuit manifests 0 update.manifestList state with
        ⟨finalState, events, failure⟩
      rw [loop] at agrees
      simp only [UpdateLocals.declared, processed] at agrees
      obtain ⟨rfl, rfl, emitted, -⟩ := agrees
      simp only [runUpdate, ran, processUpdate, token, list, processed]
      cases jump with
      | none => exact ⟨rfl, errorLabel_state final, emitted⟩
      | some failure => exact ⟨rfl, errorLabel_state final, emitted⟩

end Taws.Teep
