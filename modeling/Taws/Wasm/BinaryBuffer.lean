import Taws.Wasm.ModuleCache
import Mathlib.Data.Finset.Option

/-!
# The buffer behind the module

The WASM runtime goes on reading the buffer that a module was loaded from.  `Enclave_wasm.cpp` keeps it in
`wapp_bin` of the loaded module; here its pointer and the heap are followed beside the module cache.

* `ensureBuffered`, `invokeBuffered` — the functions of `Taws.Wasm.Invoke` with the pointer and the heap.
* `invokeBuffered_erases` — without them they are those functions.
* `Memory` — the live blocks, and the block that each module was loaded from.
* `binaryBuffer_backed` — no run of calls loses a buffer, frees one twice or pulls it from under its module.
-/

namespace Taws.Wasm

open TcManager
open Teep (Block)

/-! ## The functions with their buffer -/

/-- The runtime, and the block that `wapp_bin.ptr` points to. -/
structure BufferedState where
  wamr : WamrState
  wappBinPtr : Option Block
  deriving DecidableEq

structure BufferedEnv where
  ensure : EnsureEnv
  /-- The block that `malloc` returns where it returns one. -/
  wappBin : Block

inductive BufferEvent where
  | allocated (block : Block)
  | freed (block : Block)
  /-- An event of the runtime, with `wapp_bin.ptr` at that time. -/
  | runtime (wappBinPtr : Option Block) (event : Event)
  deriving DecidableEq

abbrev Buffered := EcallWasmResult × BufferedState × List BufferEvent

/-- The buffer goes last. -/
def resetBuffered (state : BufferedState) : BufferedState × List BufferEvent :=
  let reset := resetWamrLoadedModule state.wamr.loadedModule
  (⟨{ state.wamr with loadedModule := reset.1 }, none⟩,
    reset.2.map (.runtime state.wappBinPtr) ++ state.wappBinPtr.toList.map .freed)

def loadBuffered (env : BufferedEnv) (wappName : CString) (record : ManifestRecord) (state : BufferedState) :
    Buffered :=
  if !env.ensure.wappBinMalloc then
    (.resourceExhausted,
      ⟨{ state.wamr with loadedModule.wappBin := .null state.wamr.loadedModule.wappBin.len }, none⟩, [])
  else
    let copied := { state.wamr.loadedModule with wappBin := Buffer.bytes record.wappBin.data }
    let held : BufferedState := ⟨{ state.wamr with loadedModule := copied }, some env.wappBin⟩
    let size := record.wappBin.len % 2 ^ 32
    let loaded := BufferEvent.runtime (some env.wappBin) (.wasmLoaded wappName record.wappBin.data size)
    match env.ensure.wasmRuntimeLoad record.wappBin.data size with
    | none =>
      let reset := resetBuffered held
      (.wasmIncompatible, reset.1, .allocated env.wappBin :: loaded :: reset.2)
    | some module =>
      match env.ensure.wasmRuntimeInstantiate module with
      | none =>
        let reset := resetBuffered held
        (.wasmIncompatible, reset.1,
          .allocated env.wappBin :: loaded :: .runtime (some env.wappBin) (.wasmUnloaded module) :: reset.2)
      | some moduleInstance =>
        (.ok,
          ⟨{ state.wamr with
              loadedModule :=
                { copied with
                  module := some module
                  moduleInstance := some moduleInstance
                  wappHash := record.wappHash } }, some env.wappBin⟩,
          [.allocated env.wappBin, loaded,
            .runtime (some env.wappBin) (.wasmInstantiated module moduleInstance)])

def startBuffered (csuit : Libcsuit) (env : BufferedEnv) (wappName : CString) (record : ManifestRecord)
    (state : BufferedState) : Buffered :=
  let named : BufferedState :=
    { state with wamr.loadedModule.wappName := wappName.take (csuit.suitMaxNameLength - 1) }
  if !named.wamr.runtimeInited then
    if !env.ensure.wasmRuntimeFullInit then (.internalError, named, [])
    else loadBuffered env wappName record { named with wamr.runtimeInited := true }
  else loadBuffered env wappName record named

def ensureBuffered (csuit : Libcsuit) (env : BufferedEnv) (wappName : Option CString) (table : RecordTable)
    (state : BufferedState) : Buffered :=
  match wappName with
  | none => (.invalidArgument, state, [])
  | some name =>
    if name = [] then (.invalidArgument, state, [])
    else
      match tcManagerFindRecordByWappname table (some name) with
      | none => (.trustedComponentNotFound, state, [])
      | some record =>
        if record.wappBin.isNullOrEmpty then (.trustedComponentNotFound, state, [])
        else
          match state.wamr.loadedModule.moduleInstance with
          | none => startBuffered csuit env name record state
          | some _ =>
            if state.wamr.loadedModule.wappHash = record.wappHash then (.ok, state, [])
            else
              let reset := resetBuffered state
              let started := startBuffered csuit env name record reset.1
              (started.1, started.2.1, reset.2 ++ started.2.2)

/-- A call of a function; the function itself leaves the buffer alone. -/
def invokeBuffered (csuit : Libcsuit) (env : InvokeEnv) (wappBin : Block) (args : InvokeArgs) (table : RecordTable)
    (state : BufferedState) : EcallWasmResult × Nat × BufferedState × List BufferEvent :=
  if !args.actualLen then (.invalidArgument, 0, state, [])
  else
    match args.funcName with
    | none => (.invalidArgument, 0, state, [])
    | some funcName =>
      if args.wappName.getD [] = [] || funcName = [] || !args.output then (.invalidArgument, 0, state, [])
      else
        match ensureBuffered csuit ⟨env.ensure, wappBin⟩ args.wappName table state with
        | (.ok, running, events) =>
          let ran := runFunction env args funcName
          (ran.1, ran.2.1, running, events ++ ran.2.2.map (.runtime running.wappBinPtr))
        | (ensureRet, running, events) => (ensureRet, 0, running, events)

/-! ## Without the buffer -/

def runtimeEvent : BufferEvent → Option Event
  | .runtime _ event => some event
  | _ => none

def erase (buffered : Buffered) : EcallWasmResult × WamrState × List Event :=
  (buffered.1, buffered.2.1.wamr, buffered.2.2.filterMap runtimeEvent)

variable {csuit : Libcsuit} {env : BufferedEnv} {name : CString} {record : ManifestRecord} {table : RecordTable}
  {state : BufferedState}

theorem erase_runtime (wappBinPtr : Option Block) (events : List Event) :
    (events.map (BufferEvent.runtime wappBinPtr)).filterMap runtimeEvent = events := by
  induction events with
  | nil => rfl
  | cons event events inductionHypothesis => simp [runtimeEvent, inductionHypothesis]

theorem erase_freed (blocks : List Block) : (blocks.map BufferEvent.freed).filterMap runtimeEvent = [] := by
  induction blocks with
  | nil => rfl
  | cons block blocks inductionHypothesis => exact inductionHypothesis

theorem resetBuffered_erases (state : BufferedState) :
    (resetBuffered state).2.filterMap runtimeEvent = (resetWamrLoadedModule state.wamr.loadedModule).2 := by
  simp only [resetBuffered, List.filterMap_append, erase_runtime, erase_freed, List.append_nil]

theorem loadBuffered_erases :
    erase (loadBuffered env name record state) = loadWamrModule env.ensure name record state.wamr := by
  simp only [loadBuffered, loadWamrModule]
  split
  · rfl
  cases env.ensure.wasmRuntimeLoad record.wappBin.data (record.wappBin.len % 2 ^ 32) with
  | none =>
    simp only [erase, List.filterMap_cons, runtimeEvent, resetBuffered_erases]
    rfl
  | some module =>
    dsimp only
    cases env.ensure.wasmRuntimeInstantiate module with
    | none =>
      simp only [erase, List.filterMap_cons, runtimeEvent, resetBuffered_erases]
      rfl
    | some moduleInstance => rfl

theorem startBuffered_erases :
    erase (startBuffered csuit env name record state) = startWamr csuit env.ensure name record state.wamr := by
  simp only [startBuffered, startWamr]
  split
  · split
    · rfl
    · exact loadBuffered_erases
  · exact loadBuffered_erases

theorem ensureBuffered_erases (wappName : Option CString) :
    erase (ensureBuffered csuit env wappName table state) =
      ensureWamrRunning csuit env.ensure wappName table state.wamr := by
  cases wappName with
  | none => rfl
  | some name =>
    simp only [ensureBuffered, ensureWamrRunning]
    split
    · rfl
    cases tcManagerFindRecordByWappname table (some name) with
    | none => rfl
    | some record =>
      dsimp only
      split
      · rfl
      cases state.wamr.loadedModule.moduleInstance with
      | none => exact startBuffered_erases
      | some moduleInstance =>
        dsimp only
        split
        · rfl
        have started : erase (startBuffered csuit env name record (resetBuffered state).1) =
            startWamr csuit env.ensure name record (resetBuffered state).1.wamr := startBuffered_erases
        rw [Prod.ext_iff, Prod.ext_iff] at started
        obtain ⟨sameResult, sameState, sameEvents⟩ := started
        simp only [erase, List.filterMap_append, resetBuffered_erases]
        simp only [erase] at sameResult sameState sameEvents
        rw [sameResult, sameState, sameEvents]
        rfl

/-- What a call returns, leaves of the runtime and does with it is what `ecallInvokeWasm` says. -/
theorem invokeBuffered_erases (env : InvokeEnv) (wappBin : Block) (args : InvokeArgs) :
    let invoked := invokeBuffered csuit env wappBin args table state
    (invoked.1, invoked.2.1, invoked.2.2.1.wamr, invoked.2.2.2.filterMap runtimeEvent) =
      ecallInvokeWasm csuit env args table state.wamr := by
  have ensured : erase (ensureBuffered csuit ⟨env.ensure, wappBin⟩ args.wappName table state) =
      ensureWamrRunning csuit env.ensure args.wappName table state.wamr := ensureBuffered_erases args.wappName
  simp only [invokeBuffered, ecallInvokeWasm, ← ensured]
  split
  · rfl
  cases args.funcName with
  | none => rfl
  | some funcName =>
    dsimp only
    split
    · rfl
    obtain ⟨result, running, events⟩ := ensureBuffered csuit ⟨env.ensure, wappBin⟩ args.wappName table state
    cases result with
    | ok => simp only [erase, List.filterMap_append, erase_runtime]
    | invalidArgument => rfl
    | trustedComponentNotFound => rfl
    | resourceExhausted => rfl
    | wasmIncompatible => rfl
    | wasmExecutionFailed => rfl
    | internalError => rfl
    | outputBufferTooSmall => rfl

/-! ## Memory -/

structure Memory where
  live : Finset Block
  /-- The loaded modules, with the block that each was loaded from. -/
  modules : List (Handle × Block)
  deriving DecidableEq

namespace Memory

def empty : Memory := ⟨∅, []⟩

/-- `none` for a module that is loaded from a buffer that is not live or is not loaded, for a buffer that is
freed twice, and for one that is freed under its module. -/
def apply (env : EnsureEnv) (memory : Memory) : BufferEvent → Option Memory
  | .allocated block =>
    if block ∈ memory.live then none else some { memory with live := insert block memory.live }
  | .freed block =>
    if block ∈ memory.live ∧ block ∉ memory.modules.map Prod.snd then
      some { memory with live := memory.live.erase block }
    else none
  | .runtime (some block) (.wasmLoaded _ wappBin size) =>
    if block ∈ memory.live then
      match env.wasmRuntimeLoad wappBin size with
      | none => some memory
      | some module => some { memory with modules := (module, block) :: memory.modules }
    else none
  | .runtime none (.wasmLoaded _ _ _) => none
  | .runtime _ (.wasmUnloaded module) =>
    if module ∈ memory.modules.map Prod.fst then
      some { memory with modules := memory.modules.filter fun loaded => loaded.1 != module }
    else none
  | .runtime _ _ => some memory

def replay (env : EnsureEnv) (memory : Memory) (events : List BufferEvent) : Option Memory :=
  events.foldlM (apply env) memory

@[simp] theorem replay_nil (env : EnsureEnv) (memory : Memory) : memory.replay env [] = some memory := rfl

@[simp] theorem replay_cons (env : EnsureEnv) (memory : Memory) (event : BufferEvent) (events : List BufferEvent) :
    memory.replay env (event :: events) = (memory.apply env event).bind fun next => next.replay env events := rfl

theorem replay_append (env : EnsureEnv) (memory : Memory) (first second : List BufferEvent) :
    memory.replay env (first ++ second) =
      (memory.replay env first).bind fun next => next.replay env second := by
  simp only [replay, List.foldlM_append]
  rfl

end Memory

/-- The module that is loaded stands in the one live buffer, and without a module there is none. -/
inductive Backed : BufferedState → Memory → Prop where
  | idle {state : BufferedState} (noModule : state.wamr.loadedModule.module = none)
      (noInstance : state.wamr.loadedModule.moduleInstance = none) (noBuffer : state.wappBinPtr = none) :
      Backed state .empty
  | cached {state : BufferedState} {module moduleInstance : Handle} {block : Block}
      (hasModule : state.wamr.loadedModule.module = some module)
      (hasInstance : state.wamr.loadedModule.moduleInstance = some moduleInstance)
      (hasBuffer : state.wappBinPtr = some block) : Backed state ⟨{block}, [(module, block)]⟩

variable {memory : Memory}

theorem memory_replay_untouched {ensureEnv : EnsureEnv} (wappBinPtr : Option Block) {events : List Event}
    (untouched : ∀ event ∈ events, touchesModules event = false) :
    memory.replay ensureEnv (events.map (.runtime wappBinPtr)) = some memory := by
  induction events with
  | nil => rfl
  | cons event events inductionHypothesis =>
    rw [List.forall_mem_cons] at untouched
    have same : memory.apply ensureEnv (.runtime wappBinPtr event) = some memory := by
      have notModules := untouched.1
      cases wappBinPtr <;> cases event <;> first | rfl | cases notModules
    rw [List.map_cons, Memory.replay_cons, same]
    exact inductionHypothesis untouched.2

theorem Backed.noInstance (backed : Backed state memory) (absent : state.wamr.loadedModule.moduleInstance = none) :
    state.wamr.loadedModule.module = none ∧ state.wappBinPtr = none ∧ memory = .empty := by
  cases backed with
  | idle noModule _ noBuffer => exact ⟨noModule, noBuffer, rfl⟩
  | cached _ hasInstance _ =>
    rw [absent] at hasInstance
    cases hasInstance

theorem resetBuffered_backed {ensureEnv : EnsureEnv} (backed : Backed state memory) :
    memory.replay ensureEnv (resetBuffered state).2 = some .empty ∧ Backed (resetBuffered state).1 .empty := by
  refine ⟨?_, .idle rfl rfl rfl⟩
  cases backed with
  | idle noModule noInstance noBuffer =>
    simp [resetBuffered, resetWamrLoadedModule, noModule, noInstance, noBuffer]
  | cached hasModule hasInstance hasBuffer =>
    -- the instance goes, then the module, and only then the buffer
    simp [resetBuffered, resetWamrLoadedModule, hasModule, hasInstance, hasBuffer, Memory.apply, Memory.empty]

/-- From here on: what the events make of the memory backs the state that is left. -/
def Backs (env : EnsureEnv) (memory : Memory) (left : BufferedState) (events : List BufferEvent) : Prop :=
  ∃ after, memory.replay env events = some after ∧ Backed left after

theorem loadBuffered_backs (noModule : state.wamr.loadedModule.module = none)
    (noInstance : state.wamr.loadedModule.moduleInstance = none) :
    Backs env.ensure .empty (loadBuffered env name record state).2.1 (loadBuffered env name record state).2.2 := by
  simp only [loadBuffered]
  split
  · exact ⟨.empty, rfl, .idle noModule noInstance rfl⟩
  have reset : (resetBuffered ⟨{ state.wamr with
      loadedModule.wappBin := Buffer.bytes record.wappBin.data }, some env.wappBin⟩).2 = [.freed env.wappBin] := by
    simp [resetBuffered, resetWamrLoadedModule, noModule, noInstance]
  generalize record.wappBin.len % 2 ^ 32 = size
  split
  · next notLoaded =>
    rw [reset]
    exact ⟨.empty, by simp [Memory.apply, Memory.empty, notLoaded], .idle rfl rfl rfl⟩
  · next module isLoaded =>
    split
    · rw [reset]
      exact ⟨.empty, by simp [Memory.apply, Memory.empty, isLoaded], .idle rfl rfl rfl⟩
    · next moduleInstance _ =>
      exact ⟨⟨{env.wappBin}, [(module, env.wappBin)]⟩, by simp [Memory.apply, Memory.empty, isLoaded],
        .cached rfl rfl rfl⟩

theorem startBuffered_backs (noModule : state.wamr.loadedModule.module = none)
    (noInstance : state.wamr.loadedModule.moduleInstance = none) (noBuffer : state.wappBinPtr = none) :
    Backs env.ensure .empty (startBuffered csuit env name record state).2.1
      (startBuffered csuit env name record state).2.2 := by
  simp only [startBuffered]
  split
  · split
    · exact ⟨.empty, rfl, .idle noModule noInstance noBuffer⟩
    · exact loadBuffered_backs noModule noInstance
  · exact loadBuffered_backs noModule noInstance

theorem ensureBuffered_backs (backed : Backed state memory) (wappName : Option CString) :
    Backs env.ensure memory (ensureBuffered csuit env wappName table state).2.1
      (ensureBuffered csuit env wappName table state).2.2 := by
  have same : Backs env.ensure memory state [] := ⟨memory, rfl, backed⟩
  cases wappName with
  | none => exact same
  | some name =>
    simp only [ensureBuffered]
    split
    · exact same
    split
    · exact same
    next record _ =>
    split
    · exact same
    cases cached : state.wamr.loadedModule.moduleInstance with
    | none =>
      obtain ⟨noModule, noBuffer, rfl⟩ := backed.noInstance cached
      exact startBuffered_backs noModule cached noBuffer
    | some moduleInstance =>
      dsimp only
      split
      · exact same
      have reset : memory.replay env.ensure (resetBuffered state).2 = some .empty := (resetBuffered_backed backed).1
      have restarts : Backs env.ensure .empty (startBuffered csuit env name record (resetBuffered state).1).2.1
          (startBuffered csuit env name record (resetBuffered state).1).2.2 := startBuffered_backs rfl rfl rfl
      obtain ⟨after, started, afterBacked⟩ := restarts
      refine ⟨after, ?_, afterBacked⟩
      rw [Memory.replay_append, reset]
      exact started

theorem invokeBuffered_backs {invokeEnv : InvokeEnv} {wappBin : Block} {args : InvokeArgs}
    (backed : Backed state memory) :
    Backs invokeEnv.ensure memory (invokeBuffered csuit invokeEnv wappBin args table state).2.2.1
      (invokeBuffered csuit invokeEnv wappBin args table state).2.2.2 := by
  have same : Backs invokeEnv.ensure memory state [] := ⟨memory, rfl, backed⟩
  have ensured : Backs invokeEnv.ensure memory
      (ensureBuffered csuit ⟨invokeEnv.ensure, wappBin⟩ args.wappName table state).2.1
      (ensureBuffered csuit ⟨invokeEnv.ensure, wappBin⟩ args.wappName table state).2.2 :=
    @ensureBuffered_backs csuit ⟨invokeEnv.ensure, wappBin⟩ table state memory backed args.wappName
  simp only [invokeBuffered]
  split
  · exact same
  split
  · exact same
  split
  · exact same
  split
  · next running events made =>
    rw [made] at ensured
    obtain ⟨after, replayed, afterBacked⟩ := ensured
    refine ⟨after, ?_, afterBacked⟩
    rw [Memory.replay_append, replayed]
    exact memory_replay_untouched _ (runFunction_untouched invokeEnv args _)
  · next ensureRet running events _ made =>
    rw [made] at ensured
    exact ensured

/-! ## Runs -/

structure BufferState where
  table : RecordTable
  buffered : BufferedState
  /-- `none` once memory has been misused. -/
  memory : Option Memory

def BufferState.start : BufferState where
  table := SlotTable.empty
  buffered := ⟨⟨false, default⟩, none⟩
  memory := some .empty

/-- The actions of the module cache, with the block that `malloc` returns. -/
inductive BufferAction where
  | tableChanged (table : RecordTable)
  | invoke (env : InvokeEnv) (wappBin : Block) (args : InvokeArgs)

def BufferAction.cacheAction : BufferAction → CacheAction
  | .tableChanged table => .tableChanged table
  | .invoke env _ args => .invoke env args

/-- The module cache with its buffer. -/
def bufferMachine (csuit : Libcsuit) : Machine BufferState BufferAction EcallWasmResult where
  step state
    | .tableChanged table => ({ state with table := table }, [])
    | .invoke env wappBin args =>
      let invoked := invokeBuffered csuit env wappBin args state.table state.buffered
      ({ state with
          buffered := invoked.2.2.1
          memory := state.memory.bind fun memory => memory.replay env.ensure invoked.2.2.2 },
        [invoked.1])

def StaysBacked (state : BufferState) : Prop :=
  ∃ memory, state.memory = some memory ∧ Backed state.buffered memory

theorem step_staysBacked (csuit : Libcsuit) (state : BufferState) (action : BufferAction) (stays : StaysBacked state) :
    StaysBacked ((bufferMachine csuit).step state action).1 := by
  obtain ⟨memory, isMemory, backed⟩ := stays
  cases action with
  | tableChanged table => exact ⟨memory, isMemory, backed⟩
  | invoke env wappBin args =>
    have invoked : Backs env.ensure memory
        (invokeBuffered csuit env wappBin args state.table state.buffered).2.2.1
        (invokeBuffered csuit env wappBin args state.table state.buffered).2.2.2 := invokeBuffered_backs backed
    obtain ⟨after, replayed, afterBacked⟩ := invoked
    exact ⟨after, by simp only [bufferMachine, isMemory, Option.bind_some, replayed], afterBacked⟩

/-- The module cache takes the same steps. -/
theorem run_cached (csuit : Libcsuit) (actions : List BufferAction) (state : BufferState) (cache : CacheState)
    (sameTable : state.table = cache.table) (sameWamr : state.buffered.wamr = cache.wamr) :
    ((bufferMachine csuit).run state actions).2 =
        ((moduleCache csuit).run cache (actions.map BufferAction.cacheAction)).2 ∧
      ((bufferMachine csuit).run state actions).1.buffered.wamr =
        ((moduleCache csuit).run cache (actions.map BufferAction.cacheAction)).1.wamr := by
  induction actions generalizing state cache with
  | nil => exact ⟨rfl, sameWamr⟩
  | cons action actions inductionHypothesis =>
    cases action with
    | tableChanged table =>
      exact inductionHypothesis { state with table := table } { cache with table := table } rfl sameWamr
    | invoke env wappBin args =>
      have erases := @invokeBuffered_erases csuit state.table state.buffered env wappBin args
      dsimp only at erases
      rw [Prod.ext_iff, Prod.ext_iff, Prod.ext_iff] at erases
      obtain ⟨sameResult, _, sameLeft, _⟩ := erases
      simp only [sameTable, sameWamr] at sameResult sameLeft
      obtain ⟨sameResults, sameAfter⟩ := inductionHypothesis
        ((bufferMachine csuit).step state (.invoke env wappBin args)).1
        ((moduleCache csuit).step cache (.invoke env args)).1 sameTable
        (by simp only [bufferMachine, moduleCache, sameTable]; exact sameLeft)
      rw [List.map_cons, Machine.run_cons, Machine.run_cons]
      refine ⟨?_, sameAfter⟩
      simp only [BufferAction.cacheAction, sameResults]
      simp only [bufferMachine, moduleCache, sameTable, sameResult]

/-- No module is without its buffer, and no buffer without its pointer. -/
theorem Backed.accounts (backed : Backed state memory) :
    memory.live = state.wappBinPtr.toFinset ∧
      memory.modules.map Prod.fst = state.wamr.loadedModule.module.toList ∧
      ∀ loaded ∈ memory.modules, state.wappBinPtr = some loaded.2 := by
  cases backed with
  | idle noModule noInstance noBuffer => simp [Memory.empty, noModule, noBuffer]
  | cached hasModule hasInstance hasBuffer => simp [hasModule, hasBuffer]

/-- Whatever the calls, the tables between them and the addresses of `malloc`: no buffer is lost, freed twice or freed
under its module, the module of the cache is the only one and stands in the only live buffer, and what the calls
return is what they return in the module cache. -/
theorem binaryBuffer_backed (csuit : Libcsuit) (actions : List BufferAction) :
    let reached := (bufferMachine csuit).run .start actions
    (∃ memory, reached.1.memory = some memory ∧
      memory.live = reached.1.buffered.wappBinPtr.toFinset ∧
      memory.modules.map Prod.fst = reached.1.buffered.wamr.loadedModule.module.toList ∧
      ∀ loaded ∈ memory.modules, reached.1.buffered.wappBinPtr = some loaded.2) ∧
    reached.2 = ((moduleCache csuit).run .start (actions.map BufferAction.cacheAction)).2 := by
  have stays : StaysBacked ((bufferMachine csuit).run .start actions).1 :=
    Machine.run_preserves (step_staysBacked csuit) ⟨.empty, rfl, .idle rfl rfl rfl⟩ actions
  obtain ⟨memory, isMemory, backed⟩ := stays
  exact ⟨⟨memory, isMemory, backed.accounts⟩, (run_cached csuit actions .start .start rfl rfl).1⟩

end Taws.Wasm
