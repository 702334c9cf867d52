import Taws.Ledger
import Taws.Machine
import Taws.Teep.ReportFreshness
import Taws.Teep.UpdateLocals

/-!
# The resources of an Update

Each iteration of `process_update` allocates a reporting engine and a processor context and initialises a
SUIT processor in the context.  They are released at the end of the iteration, or at the label `error` when
some iteration jumps there with part of them.  At every jump the three variables say exactly what is held.

* `ResourcesBalanced` — everything is released once, the processor before its context, and used before that.
* `At` — what the variables say is what is held; the invariant that every statement keeps.
* `manifestStatements_triple` — one iteration, on every way through it.
* `processorResources_balanced` — every Update.
-/

namespace Taws.Teep

/-- A heap block, or a SUIT processor in the context that is initialised. -/
inductive UpdateResource where
  | block (block : Block)
  | processor (context : Block)
  deriving DecidableEq

def Traced.entry : Traced → Option (LedgerEntry UpdateResource)
  | .event (.allocated block) => some (.acquired (.block block))
  | .event (.freed block) => some (.released (.block block))
  | .event (.processorInitialized context) => some (.acquired (.processor context))
  | .event (.processorFreed context) => some (.released (.processor context))
  | _ => none

def resourceEntries (trace : List Traced) : List (LedgerEntry UpdateResource) := trace.filterMap Traced.entry

/-- What is held after the trace, `none` where something is released that is not held. -/
def liveAfter (trace : List Traced) : Option (Finset UpdateResource) := Ledger.replay ∅ (resourceEntries trace)

/-- An access goes to a live block, and no block is freed with a processor in it. -/
def Orderly (before : List Traced) : Traced → Prop
  | .accesses pointer => ∃ block live, pointer = some block ∧ liveAfter before = some live ∧ .block block ∈ live
  | .event (.freed block) => ∃ live, liveAfter before = some live ∧ .processor block ∉ live
  | .event _ => True

/-- Everything that is acquired is released exactly once, and nothing is used after that. -/
structure ResourcesBalanced (trace : List Traced) : Prop where
  released : liveAfter trace = some ∅
  orderly : EveryEvent Orderly [] trace

/-! ## Traces that account for what is held -/

structure Accounts (trace : List Traced) (resources : List UpdateResource) : Prop where
  leaves : Ledger.Leaves (resourceEntries trace) resources
  orderly : EveryEvent Orderly [] trace

variable {trace later : List Traced} {resources : List UpdateResource} {block : Block}

theorem accounts_nil : Accounts [] [] := ⟨Ledger.leaves_nil, everyEvent_nil _⟩

theorem Accounts.balanced (accounts : Accounts trace []) : ResourcesBalanced trace :=
  ⟨accounts.leaves.2, accounts.orderly⟩

theorem everyEvent_snoc {property : List Traced → Traced → Prop} {traced : Traced} :
    EveryEvent property [] (trace ++ [traced]) ↔ EveryEvent property [] trace ∧ property trace traced := by
  simp [everyEvent_append, everyEvent_cons, everyEvent_nil]

theorem resourceEntries_snoc (trace : List Traced) {traced : Traced} {entry : LedgerEntry UpdateResource}
    (isEntry : traced.entry = some entry) :
    resourceEntries (trace ++ [traced]) = resourceEntries trace ++ [entry] := by
  simp [resourceEntries, isEntry]

theorem Accounts.acquire (accounts : Accounts trace resources) {event : Event} {resource : UpdateResource}
    (isEntry : (Traced.event event).entry = some (.acquired resource)) (new : resource ∉ resources) :
    Accounts (trace ++ [.event event]) (resource :: resources) where
  leaves := by
    rw [resourceEntries_snoc trace isEntry]
    exact accounts.leaves.acquire new
  orderly := by
    refine everyEvent_snoc.mpr ⟨accounts.orderly, ?_⟩
    cases event <;> first | trivial | cases isEntry

/-- A processor is freed in a context that is still live. -/
theorem Accounts.releaseProcessor (accounts : Accounts trace (.processor block :: resources)) :
    Accounts (trace ++ [.event (.processorFreed block)]) resources where
  leaves := by
    rw [resourceEntries_snoc trace rfl]
    exact accounts.leaves.release
  orderly := everyEvent_snoc.mpr ⟨accounts.orderly, trivial⟩

theorem Accounts.releaseBlock (accounts : Accounts trace (.block block :: resources))
    (noProcessor : .processor block ∉ resources) : Accounts (trace ++ [.event (.freed block)]) resources where
  leaves := by
    rw [resourceEntries_snoc trace rfl]
    exact accounts.leaves.release
  orderly := by
    refine everyEvent_snoc.mpr ⟨accounts.orderly, _, accounts.leaves.2, ?_⟩
    simpa using noProcessor

theorem Accounts.access (accounts : Accounts trace resources) (held : .block block ∈ resources) :
    Accounts (trace ++ [.accesses (some block)]) resources where
  leaves := by
    have same : resourceEntries (trace ++ [.accesses (some block)]) = resourceEntries trace := by
      simp [resourceEntries, Traced.entry]
    rw [same]
    exact accounts.leaves
  orderly := everyEvent_snoc.mpr ⟨accounts.orderly, block, _, rfl, accounts.leaves.2, List.mem_toFinset.mpr held⟩

/-- An event that neither acquires nor releases. -/
theorem Accounts.event (accounts : Accounts trace resources) {event : Event}
    (noEntry : (Traced.event event).entry = none) : Accounts (trace ++ [.event event]) resources where
  leaves := by
    have same : resourceEntries (trace ++ [.event event]) = resourceEntries trace := by
      simp [resourceEntries, noEntry]
    rw [same]
    exact accounts.leaves
  orderly := by
    refine everyEvent_snoc.mpr ⟨accounts.orderly, ?_⟩
    cases event <;> trivial

/-! ## What the variables say -/

/-- The last acquired first. -/
def heldResources (engine context : Option Block) (initialized : Bool) : List UpdateResource :=
  (if initialized then context.toList.map .processor else []) ++ context.toList.map .block ++
    engine.toList.map .block

/-- The variables have these values, and they are what the trace leaves to release. -/
structure At (engine context : Option Block) (initialized : Bool) (locals : UpdateLocals) : Prop where
  inContext : initialized = true → context ≠ none
  reportingEngine : locals.reportingEngine = engine
  processorContext : locals.processorContext = context
  processorInitialized : locals.processorInitialized = initialized
  accounts : Accounts locals.trace (heldResources engine context initialized)

/-- What holds wherever a statement jumps: nothing is held that the variables do not show. -/
def Accounted (locals : UpdateLocals) : Prop :=
  ∃ engine context initialized, At engine context initialized locals

variable {locals : UpdateLocals} {env : ManifestEnv} {engine context : Block} {initialized : Bool}

theorem At.accounted {engine context : Option Block} (here : At engine context initialized locals) :
    Accounted locals := ⟨_, _, _, here⟩

/-- What is added to the trace without acquiring or releasing: accesses through the two pointers, and events
that do neither. -/
def Harmless (locals : UpdateLocals) (traced : Traced) : Prop :=
  traced = .accesses locals.processorContext ∨ traced = .accesses locals.reportingEngine ∨
    ∃ event, traced = .event event ∧ (Traced.event event).entry = none

theorem At.harmless (here : At (some engine) (some context) initialized locals)
    (harmless : ∀ traced ∈ later, Harmless locals traced) :
    Accounts (locals.trace ++ later) (heldResources (some engine) (some context) initialized) := by
  induction later using List.reverseRecOn with
  | nil =>
    rw [List.append_nil]
    exact here.accounts
  | append_singleton earlier traced inductionHypothesis =>
    have before := inductionHypothesis fun other member => harmless other (List.mem_append_left _ member)
    rw [← List.append_assoc]
    obtain rfl | rfl | ⟨event, rfl, noEntry⟩ := harmless traced (by simp)
    · rw [here.processorContext]
      exact before.access (by simp [heldResources])
    · rw [here.reportingEngine]
      exact before.access (by simp [heldResources])
    · exact before.event noEntry

/-- The statement leaves the three variables alone and adds to the trace what is harmless. -/
def KeepsResources (statement : UpdateStatement) : Prop :=
  ∀ locals, ∃ later, (∀ traced ∈ later, Harmless locals traced) ∧
    (statement locals).2.held = locals.held ∧ (statement locals).2.trace = locals.trace ++ later

theorem KeepsResources.triple {statement : UpdateStatement} (keeps : KeepsResources statement) :
    Triple (At (some engine) (some context) initialized) statement (At (some engine) (some context) initialized)
      Accounted := by
  intro locals here
  have after : At (some engine) (some context) initialized (statement locals).2 := by
    obtain ⟨later, harmless, held, trace⟩ := keeps locals
    exact
      { inContext := here.inContext
        reportingEngine := (congrArg Resources.reportingEngine held).trans here.reportingEngine
        processorContext := (congrArg Resources.processorContext held).trans here.processorContext
        processorInitialized := (congrArg Resources.processorInitialized held).trans here.processorInitialized
        accounts := by
          rw [trace]
          exact here.harmless harmless }
  rcases ran : statement locals with ⟨jump, next⟩
  rw [ran] at after
  cases jump with
  | none => exact .inl ⟨next, rfl, after⟩
  | some failure => exact .inr ⟨failure, next, rfl, after.accounted⟩

/-! ## Statements that keep what is held -/

theorem harmless_context : Harmless locals (.accesses locals.processorContext) := .inl rfl

theorem harmless_contextEvent {event : Block → Event}
    (noEntry : ∀ context, (Traced.event (event context)).entry = none) :
    ∀ traced ∈ locals.contextEvent event, Harmless locals traced := by
  intro traced member
  obtain ⟨context, -, rfl⟩ := List.mem_map.mp member
  exact .inr (.inr ⟨_, rfl, noEntry context⟩)

theorem require_keeps (condition : Bool) (failure : UpdateFailure) :
    KeepsResources (Statement.require condition failure) := by
  intro locals
  cases condition <;> exact ⟨[], by simp, rfl, (List.append_nil _).symm⟩

theorem callWithEngine_keeps (succeeds : Bool) : KeepsResources (callWithEngine succeeds) := by
  intro locals
  cases succeeds <;> exact ⟨[.accesses locals.reportingEngine], by simp [Harmless], rfl, rfl⟩

theorem suitProcessorAddRecipientKey_keeps (env : ManifestEnv) :
    KeepsResources (suitProcessorAddRecipientKey env) := by
  intro locals
  refine ⟨[.accesses locals.processorContext], by simp [Harmless], ?_⟩
  simp only [suitProcessorAddRecipientKey]
  split <;> exact ⟨rfl, rfl⟩

theorem readEnvelope_keeps (item : Buffer) : KeepsResources (readEnvelope item) := by
  intro locals
  simp only [readEnvelope]
  split
  · exact ⟨[], by simp, rfl, (List.append_nil _).symm⟩
  · exact ⟨[.accesses locals.processorContext], by simp [Harmless], rfl, rfl⟩

theorem suitProcessorAddManifest_keeps (env : ManifestEnv) : KeepsResources (suitProcessorAddManifest env) := by
  intro locals
  refine ⟨.accesses locals.processorContext :: locals.contextEvent .manifestAdded, ?_, ?_⟩
  · rw [List.forall_mem_cons]
    exact ⟨harmless_context, harmless_contextEvent fun _ => rfl⟩
  · simp only [suitProcessorAddManifest]
    split <;> exact ⟨rfl, rfl⟩

theorem suitProcessEnvelope_keeps (csuit : Libcsuit) (env : ManifestEnv) :
    KeepsResources (suitProcessEnvelope csuit env) := by
  intro locals
  let run := env.processEnvelope locals.envelope
  let called := (Suit.runCallbacks csuit run.callbacks locals.state).1
  refine ⟨.accesses locals.processorContext :: (called.map fun called => .event (.callback called.1 called.2)) ++
    locals.contextEvent (.envelopeProcessed · run.manifestDigest run.result), ?_, ?_⟩
  · intro traced member
    obtain member | member := List.mem_append.mp member
    · obtain rfl | member := List.mem_cons.mp member
      · exact harmless_context
      · obtain ⟨called, -, rfl⟩ := List.mem_map.mp member
        exact .inr (.inr ⟨_, rfl, rfl⟩)
    · exact harmless_contextEvent (fun _ => rfl) traced member
  · simp only [suitProcessEnvelope]
    split <;> exact ⟨rfl, rfl⟩

theorem checkAndUpdateRecord_keeps (env : ManifestEnv) : KeepsResources (checkAndUpdateRecord env) := by
  intro locals
  let run := env.processEnvelope locals.envelope
  let checked := TcManager.tcManagerCheckAndUpdateRecord run.manifestDigest locals.state.table
  refine ⟨.accesses locals.processorContext :: locals.contextEvent (.recordChecked · run.manifestDigest checked.1),
    ?_, ?_⟩
  · rw [List.forall_mem_cons]
    exact ⟨harmless_context, harmless_contextEvent fun _ => rfl⟩
  · simp only [checkAndUpdateRecord]
    split <;> exact ⟨rfl, rfl⟩

/-! ## Statements that acquire and release -/

theorem allocateReportingEngine_triple (env : ManifestEnv) :
    Triple (At none none false) (allocateReportingEngine env)
      (fun locals => ∃ engine, env.reportingEngine = some engine ∧ At (some engine) none false locals) Accounted := by
  intro locals here
  unfold allocateReportingEngine
  cases env.reportingEngine with
  | none =>
    exact .inr ⟨_, _, rfl,
      At.accounted ⟨by simp, rfl, here.processorContext, here.processorInitialized, here.accounts⟩⟩
  | some engine =>
    refine .inl ⟨_, rfl, engine, rfl, by simp, rfl, here.processorContext, here.processorInitialized, ?_⟩
    exact here.accounts.acquire rfl (by simp [heldResources])

/-- `calloc` does not return the block of the reporting engine again. -/
theorem allocateProcessorContext_triple (fresh : env.processorContext ≠ some engine) :
    Triple (At (some engine) none false) (allocateProcessorContext env)
      (fun locals => ∃ context, At (some engine) (some context) false locals) Accounted := by
  intro locals here
  unfold allocateProcessorContext
  cases allocated : env.processorContext with
  | none =>
    -- the engine is still in its variable, where the label finds it
    exact .inr ⟨_, _, rfl,
      At.accounted ⟨by simp, here.reportingEngine, rfl, here.processorInitialized, here.accounts⟩⟩
  | some context =>
    refine .inl ⟨_, rfl, context, by simp, here.reportingEngine, rfl, here.processorInitialized, ?_⟩
    refine here.accounts.acquire rfl ?_
    rw [allocated, ne_eq, Option.some.injEq] at fresh
    simpa [heldResources] using fresh

theorem suitProcessorInit_triple (env : ManifestEnv) :
    Triple (At (some engine) (some context) false) (suitProcessorInit env) (At (some engine) (some context) true)
      Accounted := by
  intro locals here
  have accessed : Accounts (locals.trace ++ [.accesses locals.processorContext, .accesses locals.reportingEngine])
      (heldResources (some engine) (some context) false) := here.harmless (by simp [Harmless])
  unfold suitProcessorInit
  cases env.processorInit with
  | none =>
    -- the flag is set only after a successful call
    exact .inr ⟨_, _, rfl,
      At.accounted ⟨by simp, here.reportingEngine, here.processorContext, here.processorInitialized, accessed⟩⟩
  | some envelopeBufLen =>
    refine .inl ⟨_, rfl, by simp, here.reportingEngine, here.processorContext, rfl, ?_⟩
    simp only [UpdateLocals.traced_trace, UpdateLocals.contextEvent, UpdateLocals.traced_processorContext,
      here.processorContext] at accessed ⊢
    exact accessed.acquire rfl (by simp [heldResources])

theorem Accounts.releaseEngine {engine : Option Block} (accounts : Accounts trace (engine.toList.map .block)) :
    Accounts (trace ++ engine.toList.map fun engine => .event (.freed engine)) [] := by
  cases engine with
  | none => simpa using accounts
  | some engine => exact accounts.releaseBlock (by simp)

theorem Accounts.releaseContext {engine context : Option Block}
    (accounts : Accounts trace (context.toList.map .block ++ engine.toList.map .block)) :
    Accounts (trace ++ context.toList.map fun context => .event (.freed context)) (engine.toList.map .block) := by
  cases context with
  | none => simpa using accounts
  | some context => exact accounts.releaseBlock (by simp)

/-- The end of an iteration and the label release everything, the processor before its context. -/
theorem At.released {engine context : Option Block} (here : At engine context initialized locals) :
    Accounts (locals.trace ++ locals.releaseTrace) [] := by
  have accounts := here.accounts
  simp only [UpdateLocals.releaseTrace, UpdateLocals.contextEvent, here.reportingEngine, here.processorContext,
    here.processorInitialized, ← List.append_assoc]
  refine Accounts.releaseEngine (Accounts.releaseContext ?_)
  cases initialized with
  | false => simpa [heldResources] using accounts
  | true =>
    obtain ⟨block, rfl⟩ := Option.ne_none_iff_exists'.mp (here.inContext rfl)
    have accessed : Accounts (locals.trace ++ [.accesses (some block)])
        (.processor block :: .block block :: engine.toList.map .block) := accounts.access (by simp [heldResources])
    simpa using accessed.releaseProcessor

theorem endIteration_triple :
    Triple (At (some engine) (some context) true) (.assign endIteration : UpdateStatement) (At none none false)
      Accounted := by
  refine .assign fun locals here => ?_
  have cleared := endIteration_cleared locals
  refine ⟨by simp, cleared.reportingEngine, cleared.processorContext, cleared.processorInitialized, ?_⟩
  rw [endIteration_trace]
  exact here.released

/-! ## The loop and the function -/

/-- `calloc` does not return the reporting engine's block again while that is allocated. -/
def FreshContexts (manifests : Nat → ManifestEnv) : Prop :=
  ∀ index block, (manifests index).reportingEngine = some block → (manifests index).processorContext ≠ some block

theorem processStatements_triple (csuit : Libcsuit) (env : ManifestEnv) (item : Buffer) :
    Triple (At (some engine) (some context) true)
      (.block (.require env.recipientKeySet temporaryError :: suitProcessorAddRecipientKey env ::
        readEnvelope item :: suitProcessorAddManifest env :: processStatements csuit env))
      (At none none false) Accounted :=
  .cons (require_keeps _ _).triple <|
    .cons (suitProcessorAddRecipientKey_keeps env).triple <|
    .cons (readEnvelope_keeps item).triple <|
    .cons (suitProcessorAddManifest_keeps env).triple <|
    .cons (suitProcessEnvelope_keeps csuit env).triple <|
    .cons (checkAndUpdateRecord_keeps env).triple <|
    .cons endIteration_triple .skip

/-- One iteration: what it holds wherever it jumps is in the variables, and at its end it holds nothing. -/
theorem manifestStatements_triple (csuit : Libcsuit) (item : Buffer)
    (fresh : ∀ block, env.reportingEngine = some block → env.processorContext ≠ some block) :
    Triple (At none none false) (.block (manifestStatements csuit env item)) (At none none false) Accounted := by
  refine .cons (allocateReportingEngine_triple env) (.exists_pre fun engine => .fact_pre fun isEngine => ?_)
  refine .cons (allocateProcessorContext_triple (fresh engine isEngine)) (.exists_pre fun context => ?_)
  -- from here on both blocks are held
  exact .cons (require_keeps _ _).triple <|
    .cons (callWithEngine_keeps _).triple <|
    .cons (callWithEngine_keeps _).triple <|
    .cons (suitProcessorInit_triple env) (processStatements_triple csuit env item)

theorem declared_at (state : Suit.SuitState) : At none none false (.declared state) :=
  ⟨by simp, rfl, rfl, rfl, accounts_nil⟩

theorem updateStatements_triple (lib : Libraries) {manifests : Nat → ManifestEnv} (fresh : FreshContexts manifests)
    (update : TeepUpdate) :
    Triple (At none none false) (.block (updateStatements lib manifests update)) (At none none false) Accounted := by
  have nothing : ∀ locals, At none none false locals → Accounted locals := fun _ here => here.accounted
  exact .cons (.require nothing) <|
    .cons (.require nothing) <|
    .cons (.forEach (fun index item => manifestStatements_triple lib.csuit item (fresh index)) 0 _) .skip

theorem errorLabel_balanced (accounted : Accounted locals) : ResourcesBalanced (errorLabel locals).trace := by
  obtain ⟨engine, context, initialized, here⟩ := accounted
  rw [errorLabel_trace]
  exact here.released.balanced

/-- Whatever fails in whatever iteration, when `process_update` returns it has released what it acquired, once,
each processor before its context, and it has used nothing after that. -/
theorem processorResources_balanced (lib : Libraries) (manifests : Nat → ManifestEnv)
    (fresh : FreshContexts manifests) (update : TeepUpdate) (state : Suit.SuitState) :
    ResourcesBalanced (runUpdate lib manifests update state).2.trace := by
  have accounted := (updateStatements_triple lib fresh update).ends (fun _ here => here.accounted) (declared_at state)
  have label : (runUpdate lib manifests update state).2 =
      errorLabel (Statement.block (updateStatements lib manifests update) (.declared state)).2 := by
    simp only [runUpdate]
    split <;> rfl
  rw [label]
  exact errorLabel_balanced accounted

/-- Two manifests; the processor takes the first one, and cannot be given the second one. -/
def secondRefused (index : Nat) : ManifestEnv :=
  { workingManifest (fun _ => installedRun 1 1 []) with addManifest := fun _ => index == 0 }

def twoManifests : TeepUpdate := ⟨{.token}, .bytes (List.replicate 8 0), [.bytes [1], .bytes [2]]⟩

/-- Both iterations use the same two blocks. -/
theorem processorResources_balanced_secondRefused :
    ResourcesBalanced (runUpdate smallLibraries secondRefused twoManifests ⟨SlotTable.empty, .null 0⟩).2.trace ∧
      (runUpdate smallLibraries secondRefused twoManifests ⟨SlotTable.empty, .null 0⟩).2.trace.count
        (.event (.processorFreed 2)) = 2 := by
  have fresh : FreshContexts secondRefused := by
    intro index block isEngine same
    cases isEngine
    cases same
  exact ⟨processorResources_balanced smallLibraries secondRefused fresh twoManifests _, by decide +kernel⟩

end Taws.Teep
