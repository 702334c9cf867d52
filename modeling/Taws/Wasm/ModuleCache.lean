import Taws.TcManager.Invariant
import Taws.Wasm.Invoke

/-!
# The module cache

One module is kept loaded for all apps.  Every call may find another app, another version or a cache that
an earlier call has left half filled, so what the WASM runtime holds is followed beside it: which modules
are loaded, from which bytes, and which instances they have.

* `Runtime`, `Runtime.replay` — the loaded modules, as the events of a call change them.
* `Accounted` — the runtime holds the module of the cache and no other.
* `ensureWamrRunning_spec` — one call, from an accounted cache.
* `moduleCache_neverStale` — every call of every run.
-/

namespace Taws.Wasm

open TcManager

variable {csuit : Libcsuit} {env : EnsureEnv} {table : RecordTable} {record : ManifestRecord} {state : WamrState}
  {loaded : WamrLoadedModule} {runtime : Runtime} {name : CString}

/-- `HeapMaxSize` of `Enclave.config.xml`: no block that `malloc` returns is larger. -/
def enclaveHeapMaxSize : Nat := 0x40000000

/-! ## What the runtime holds -/

/-- The modules that are loaded, with the bytes each was loaded from, and the live instances, with the
module of each. -/
structure Runtime where
  modules : List (Handle × Bytes)
  instances : List (Handle × Handle)
  deriving DecidableEq

namespace Runtime

def idle : Runtime := ⟨[], []⟩

/-- What an event does; `none` for a module or an instance that is not there, and for a module that is
unloaded before its instance. -/
def apply (env : EnsureEnv) (runtime : Runtime) : Event → Option Runtime
  | .wasmLoaded _ wappBin size =>
    match env.wasmRuntimeLoad wappBin size with
    | none => some runtime
    | some module => some { runtime with modules := (module, wappBin.take size) :: runtime.modules }
  | .wasmInstantiated module moduleInstance =>
    if module ∈ runtime.modules.map Prod.fst then
      some { runtime with instances := (moduleInstance, module) :: runtime.instances }
    else none
  | .wasmDeinstantiated moduleInstance =>
    if moduleInstance ∈ runtime.instances.map Prod.fst then
      some { runtime with instances := runtime.instances.filter fun live => live.1 != moduleInstance }
    else none
  | .wasmUnloaded module =>
    if module ∈ runtime.modules.map Prod.fst ∧ module ∉ runtime.instances.map Prod.snd then
      some { runtime with modules := runtime.modules.filter fun live => live.1 != module }
    else none
  | _ => some runtime

/-- The events of a call that was given `env`, one after the other. -/
def replay (env : EnsureEnv) (runtime : Runtime) (events : List Event) : Option Runtime :=
  events.foldlM (apply env) runtime

@[simp] theorem replay_nil (env : EnsureEnv) (runtime : Runtime) : runtime.replay env [] = some runtime := rfl

@[simp] theorem replay_cons (env : EnsureEnv) (runtime : Runtime) (event : Event) (events : List Event) :
    runtime.replay env (event :: events) = (runtime.apply env event).bind fun next => next.replay env events := rfl

theorem replay_append (env : EnsureEnv) (runtime : Runtime) (first second : List Event) :
    runtime.replay env (first ++ second) =
      (runtime.replay env first).bind fun next => next.replay env second := by
  simp only [replay, List.foldlM_append]
  rfl

end Runtime

theorem replay_untouched {events : List Event} (untouched : ∀ event ∈ events, touchesModules event = false) :
    runtime.replay env events = some runtime := by
  induction events with
  | nil => rfl
  | cons event events inductionHypothesis =>
    rw [List.forall_mem_cons] at untouched
    have same : runtime.apply env event = some runtime := by
      have notModules := untouched.1
      cases event <;> first | rfl | cases notModules
    rw [Runtime.replay_cons, same]
    exact inductionHypothesis untouched.2

/-! ## The cache accounts for what the runtime holds -/

/-- Nothing is loaded and nothing is cached, or the one module that is loaded is the cached one, with the
cached instance, and the cached hash is that of the bytes it was loaded from. -/
inductive Accounted (csuit : Libcsuit) : WamrLoadedModule → Runtime → Prop where
  | idle {loaded : WamrLoadedModule} (noModule : loaded.module = none)
      (noInstance : loaded.moduleInstance = none) : Accounted csuit loaded .idle
  | cached {loaded : WamrLoadedModule} {module moduleInstance : Handle} {bytes : Bytes}
      (hasModule : loaded.module = some module) (hasInstance : loaded.moduleInstance = some moduleInstance)
      (hash : csuit.sha256 bytes = loaded.wappHash) :
      Accounted csuit loaded ⟨[(module, bytes)], [(moduleInstance, module)]⟩

theorem resetWamrLoadedModule_replay (accounted : Accounted csuit loaded runtime) :
    runtime.replay env (resetWamrLoadedModule loaded).2 = some .idle := by
  cases accounted with
  | idle noModule noInstance => simp [resetWamrLoadedModule, noModule, noInstance]
  | cached hasModule hasInstance _ =>
    -- the instance goes first
    simp [resetWamrLoadedModule, hasModule, hasInstance, Runtime.apply, Runtime.idle]

theorem Accounted.noInstance (accounted : Accounted csuit loaded runtime) (absent : loaded.moduleInstance = none) :
    loaded.module = none ∧ runtime = .idle := by
  cases accounted with
  | idle noModule _ => exact ⟨noModule, rfl⟩
  | cached _ hasInstance _ =>
    rw [absent] at hasInstance
    cases hasInstance

/-! ## Loading -/

/-- What a call that loads the binary of `record` leaves, from an idle runtime. -/
def LoadsRecord (csuit : Libcsuit) (env : EnsureEnv) (record : ManifestRecord)
    (ran : EcallWasmResult × WamrState × List Event) : Prop :=
  ∃ after, Runtime.idle.replay env ran.2.2 = some after ∧ Accounted csuit ran.2.1.loadedModule after ∧
    (ran.1 = .ok → ran.2.1.loadedModule.moduleInstance.isSome = true ∧
      ran.2.1.loadedModule.wappHash = record.wappHash) ∧
    (ran.1 ≠ .ok → ran.2.1.loadedModule.moduleInstance = none)

theorem loadsRecord_failed {ran : EcallWasmResult × WamrState × List Event} (notOk : ran.1 ≠ .ok)
    (replayed : Runtime.idle.replay env ran.2.2 = some .idle) (noModule : ran.2.1.loadedModule.module = none)
    (noInstance : ran.2.1.loadedModule.moduleInstance = none) : LoadsRecord csuit env record ran :=
  ⟨.idle, replayed, .idle noModule noInstance, fun ok => absurd ok notOk, fun _ => noInstance⟩

theorem loadWamrModule_spec (name : CString) (noModule : state.loadedModule.module = none)
    (noInstance : state.loadedModule.moduleInstance = none) (full : record.wappBin.isNullOrEmpty = false)
    (matching : hashMatches csuit record)
    (limited : env.wappBinMalloc = true → record.wappBin.len ≤ enclaveHeapMaxSize) :
    LoadsRecord csuit env record (loadWamrModule env name record state) := by
  simp only [loadWamrModule]
  split
  · exact loadsRecord_failed (by simp) rfl noModule noInstance
  next allocated =>
  have reset : (resetWamrLoadedModule { state.loadedModule with
      wappBin := Buffer.bytes record.wappBin.data }).2 = [] := by
    simp [resetWamrLoadedModule, noModule, noInstance]
  -- no binary is so long that the cast of its length cuts it off
  have whole : record.wappBin.data.take (record.wappBin.len % 2 ^ 32) = record.wappBin.data := by
    have fits := limited (by simpa using allocated)
    have length : record.wappBin.len = record.wappBin.data.length := by
      rw [(Buffer.isNullOrEmpty_eq_false.mp full).1]
      rfl
    apply List.take_of_length_le
    rw [Nat.mod_eq_of_lt (by simp only [enclaveHeapMaxSize] at fits; omega)]
    exact length.ge
  generalize record.wappBin.len % 2 ^ 32 = size at whole ⊢
  split
  · next notLoaded =>
    rw [reset]
    exact loadsRecord_failed (by simp) (by simp [Runtime.apply, notLoaded]) rfl rfl
  · next module isLoaded =>
    split
    · rw [reset]
      exact loadsRecord_failed (by simp) (by simp [Runtime.apply, isLoaded, Runtime.idle]) rfl rfl
    · next moduleInstance _ =>
      refine ⟨⟨[(module, record.wappBin.data)], [(moduleInstance, module)]⟩, ?_, ?_, ?_, ?_⟩
      · simp [Runtime.apply, isLoaded, Runtime.idle, whole]
      · exact .cached rfl rfl (matching full).symm
      · intro _
        exact ⟨rfl, rfl⟩
      · intro notOk
        exact absurd rfl notOk

theorem startWamr_spec (name : CString) (noModule : state.loadedModule.module = none)
    (noInstance : state.loadedModule.moduleInstance = none) (full : record.wappBin.isNullOrEmpty = false)
    (matching : hashMatches csuit record)
    (limited : env.wappBinMalloc = true → record.wappBin.len ≤ enclaveHeapMaxSize) :
    LoadsRecord csuit env record (startWamr csuit env name record state) := by
  simp only [startWamr]
  split
  · split
    · exact loadsRecord_failed (by simp) rfl noModule noInstance
    · exact loadWamrModule_spec name noModule noInstance full matching limited
  · exact loadWamrModule_spec name noModule noInstance full matching limited

/-! ## One call -/

/-- A record that is found has the hash of its binary. -/
theorem findRecordByWappname_hashMatches (bound : HashBound csuit table) {wappName : Option CString}
    (found : tcManagerFindRecordByWappname table wappName = some record) : hashMatches csuit record := by
  obtain ⟨index, position, rfl⟩ := Option.map_eq_some_iff.mp found
  have inUse : index < table.len := by
    simp only [manifestRecordFindByWappName] at position
    split at position
    · cases position
    · split at position
      · cases position
      · exact List.mem_range.mp (List.mem_of_find?_eq_some position)
  by_cases inArray : index < tcManagerRecordMaxCount
  · apply bound
    apply List.mem_of_getElem?
    show table.active[index]? = some (table.slot index)
    simp [SlotTable.active, SlotTable.slot, inUse, inArray]
  · rw [SlotTable.slot_of_capacity_le (Nat.not_lt.mp inArray)]
    intro full
    cases full

/-- The live instance that a call leaves was made from bytes with the hash of the record that is found. -/
def RunsRecord (csuit : Libcsuit) (found : Option ManifestRecord) (loaded : WamrLoadedModule)
    (runtime : Runtime) : Prop :=
  ∃ record ∈ found, ∃ module moduleInstance bytes, loaded.moduleInstance = some moduleInstance ∧
    (moduleInstance, module) ∈ runtime.instances ∧ (module, bytes) ∈ runtime.modules ∧
    csuit.sha256 bytes = record.wappHash

theorem Accounted.runsRecord (accounted : Accounted csuit loaded runtime)
    (cached : loaded.moduleInstance.isSome = true) (hash : loaded.wappHash = record.wappHash) :
    RunsRecord csuit (some record) loaded runtime := by
  cases accounted with
  | idle _ noInstance =>
    rw [noInstance] at cached
    cases cached
  | cached _ hasInstance bytesHash =>
    exact ⟨record, rfl, _, _, _, hasInstance, List.mem_singleton_self _, List.mem_singleton_self _,
      bytesHash.trans hash⟩

/-- What one call of `ensure_wamr_running` may do to a runtime that held `before`. -/
structure Ensures (csuit : Libcsuit) (env : EnsureEnv) (found : Option ManifestRecord) (before after : Runtime)
    (ensured : EcallWasmResult × WamrState × List Event) : Prop where
  replayed : before.replay env ensured.2.2 = some after
  accounted : Accounted csuit ensured.2.1.loadedModule after
  current : ensured.1 = .ok → RunsRecord csuit found ensured.2.1.loadedModule after
  unloaded : ensured.1 ≠ .ok → (∃ module, .wasmUnloaded module ∈ ensured.2.2) →
    ensured.2.1.loadedModule.moduleInstance = none

theorem ensureWamrRunning_spec (bound : HashBound csuit table)
    (accounted : Accounted csuit state.loadedModule runtime) (wappName : Option CString)
    (limited : env.wappBinMalloc = true → ∀ record ∈ tcManagerFindRecordByWappname table wappName,
      record.wappBin.len ≤ enclaveHeapMaxSize) :
    ∃ after, Ensures csuit env (tcManagerFindRecordByWappname table wappName) runtime after
      (ensureWamrRunning csuit env wappName table state) := by
  -- a call that is refused changes nothing
  have refused : ∀ result, result ≠ EcallWasmResult.ok →
      Ensures csuit env (tcManagerFindRecordByWappname table wappName) runtime runtime (result, state, []) := by
    intro result notOk
    exact
      { replayed := rfl
        accounted := accounted
        current := fun ok => absurd ok notOk
        unloaded := fun _ some => by simp at some }
  cases wappName with
  | none => exact ⟨runtime, refused _ (by simp)⟩
  | some name =>
    simp only [ensureWamrRunning]
    split
    · exact ⟨runtime, refused _ (by simp)⟩
    · cases found : tcManagerFindRecordByWappname table (some name) with
      | none =>
        rw [found] at refused
        exact ⟨runtime, refused _ (by simp)⟩
      | some record =>
        rw [found] at refused limited
        have matching := findRecordByWappname_hashMatches bound found
        have small : env.wappBinMalloc = true → record.wappBin.len ≤ enclaveHeapMaxSize :=
          fun allocated => limited allocated record rfl
        dsimp only
        split
        · exact ⟨runtime, refused _ (by simp)⟩
        next notEmpty =>
        have full : record.wappBin.isNullOrEmpty = false := by simpa using notEmpty
        cases cached : state.loadedModule.moduleInstance with
        | none =>
          obtain ⟨noModule, rfl⟩ := accounted.noInstance cached
          obtain ⟨after, replayed, afterAccounted, ok, failed⟩ :=
            startWamr_spec name noModule cached full matching small
          exact ⟨after, replayed, afterAccounted,
            fun isOk => afterAccounted.runsRecord (ok isOk).1 (ok isOk).2, fun notOk _ => failed notOk⟩
        | some moduleInstance =>
          dsimp only
          split
          · next sameHash =>
            exact ⟨runtime, rfl, accounted, fun _ => accounted.runsRecord (by simp [cached]) sameHash,
              fun notOk => absurd rfl notOk⟩
          · have started : LoadsRecord csuit env record (startWamr csuit env name record
                { state with loadedModule := (resetWamrLoadedModule state.loadedModule).1 }) :=
              startWamr_spec name rfl rfl full matching small
            obtain ⟨after, replayed, afterAccounted, ok, failed⟩ := started
            refine ⟨after, ?_, afterAccounted,
              fun isOk => afterAccounted.runsRecord (ok isOk).1 (ok isOk).2, fun notOk _ => failed notOk⟩
            rw [Runtime.replay_append, resetWamrLoadedModule_replay accounted]
            exact replayed

/-! ## Runs -/

/-- The record table, the cache, and what the runtime holds; `none` once it has been misused. -/
structure CacheState where
  table : RecordTable
  wamr : WamrState
  runtime : Option Runtime

def CacheState.start : CacheState where
  table := SlotTable.empty
  wamr := ⟨false, default⟩
  runtime := some .idle

/-- The table changes, in whatever way, or a function of an app is called. -/
inductive CacheAction where
  | tableChanged (table : RecordTable)
  | invoke (env : InvokeEnv) (args : InvokeArgs)

/-- The enclave as far as the cache is concerned; it emits the result of each call. -/
def moduleCache (csuit : Libcsuit) : Machine CacheState CacheAction EcallWasmResult where
  step state
    | .tableChanged table => ({ state with table := table }, [])
    | .invoke env args =>
      let invoked := ecallInvokeWasm csuit env args state.table state.wamr
      ({ state with
          wamr := invoked.2.2.1
          runtime := state.runtime.bind fun runtime => runtime.replay env.ensure invoked.2.2.2 },
        [invoked.1])

/-- Every binary of the table stands beside its hash, and `malloc` gives no block that is larger than the
heap of the enclave. -/
def Admissible (csuit : Libcsuit) (state : CacheState) : CacheAction → Prop
  | .tableChanged table => HashBound csuit table
  | .invoke env args => env.ensure.wappBinMalloc = true →
      ∀ record ∈ tcManagerFindRecordByWappname state.table args.wappName, record.wappBin.len ≤ enclaveHeapMaxSize

/-- The module of the cache is the only one that is loaded, and its instance the only live one. -/
def OnlyCached (loaded : WamrLoadedModule) (runtime : Runtime) : Prop :=
  runtime.modules.map Prod.fst = loaded.module.toList ∧
    runtime.instances.map Prod.fst = loaded.moduleInstance.toList

/-- A call of `ensure_wamr_running` misuses nothing and leaves only the cached module loaded.  If it succeeds,
the instance was made from bytes with the hash of the record that is found; if it fails after unloading a
module, there is no instance. -/
def NeverStale (csuit : Libcsuit) (state : CacheState) : CacheAction → Prop
  | .tableChanged _ => True
  | .invoke env args =>
    let ensured := ensureWamrRunning csuit env.ensure args.wappName state.table state.wamr
    ∃ after, (state.runtime.bind fun runtime => runtime.replay env.ensure ensured.2.2) = some after ∧
      OnlyCached ensured.2.1.loadedModule after ∧
      (ensured.1 = .ok → RunsRecord csuit (tcManagerFindRecordByWappname state.table args.wappName)
        ensured.2.1.loadedModule after) ∧
      (ensured.1 ≠ .ok → (∃ module, .wasmUnloaded module ∈ ensured.2.2) →
        ensured.2.1.loadedModule.moduleInstance = none)

theorem Accounted.onlyCached (accounted : Accounted csuit loaded runtime) : OnlyCached loaded runtime := by
  cases accounted with
  | idle noModule noInstance => simp [OnlyCached, Runtime.idle, noModule, noInstance]
  | cached hasModule hasInstance _ => simp [OnlyCached, hasModule, hasInstance]

/-- The cache accounts for the runtime, and every binary of the table stands beside its hash. -/
def CacheInvariant (csuit : Libcsuit) (state : CacheState) : Prop :=
  HashBound csuit state.table ∧
    ∃ runtime, state.runtime = some runtime ∧ Accounted csuit state.wamr.loadedModule runtime

theorem start_cacheInvariant (csuit : Libcsuit) : CacheInvariant csuit .start :=
  ⟨by simp [HashBound, CacheState.start], .idle, rfl, .idle rfl rfl⟩

theorem invoke_neverStale {cache : CacheState} (invariant : CacheInvariant csuit cache) {action : CacheAction}
    (admissible : Admissible csuit cache action) : NeverStale csuit cache action := by
  obtain ⟨bound, runtime, holds, accounted⟩ := invariant
  cases action with
  | tableChanged table => trivial
  | invoke env args =>
    obtain ⟨after, ensures⟩ := ensureWamrRunning_spec bound accounted args.wappName admissible
    simp only [NeverStale, holds, Option.bind_some]
    exact ⟨after, ensures.replayed, ensures.accounted.onlyCached, ensures.current, ensures.unloaded⟩

theorem step_cacheInvariant {cache : CacheState} (invariant : CacheInvariant csuit cache) {action : CacheAction}
    (admissible : Admissible csuit cache action) :
    CacheInvariant csuit ((moduleCache csuit).step cache action).1 := by
  obtain ⟨bound, runtime, holds, accounted⟩ := invariant
  cases action with
  | tableChanged table => exact ⟨admissible, runtime, holds, accounted⟩
  | invoke env args =>
    refine ⟨bound, ?_⟩
    obtain ⟨after, ensures⟩ := ensureWamrRunning_spec bound accounted args.wappName admissible
    simp only [moduleCache, holds, Option.bind_some, ecallInvokeWasm]
    -- a call with invalid arguments, then the two outcomes of making the module ready
    split
    · exact ⟨runtime, rfl, accounted⟩
    · split
      · exact ⟨runtime, rfl, accounted⟩
      · split
        · exact ⟨runtime, rfl, accounted⟩
        · split
          · next running events made =>
            rw [made] at ensures
            refine ⟨after, ?_, ensures.accounted⟩
            rw [Runtime.replay_append, ensures.replayed]
            exact replay_untouched (runFunction_untouched env args _)
          · next ensureRet running events _ made =>
            rw [made] at ensures
            exact ⟨after, ensures.replayed, ensures.accounted⟩

/-- Whatever happens to the table between the calls, and whatever fails in them, no call runs a stale
module, loses one or unloads one twice. -/
theorem moduleCache_neverStale (csuit : Libcsuit) (actions : List CacheAction)
    (admissible : (moduleCache csuit).Meets (Admissible csuit) .start actions) :
    (moduleCache csuit).Meets (NeverStale csuit) .start actions ∧
      ∃ runtime, ((moduleCache csuit).run .start actions).1.runtime = some runtime ∧
        OnlyCached ((moduleCache csuit).run .start actions).1.wamr.loadedModule runtime := by
  have preserved : ∀ cache action, CacheInvariant csuit cache → Admissible csuit cache action →
      CacheInvariant csuit ((moduleCache csuit).step cache action).1 :=
    fun _ _ invariant admissible => step_cacheInvariant invariant admissible
  obtain ⟨neverStale, _, runtime, holds, accounted⟩ := Machine.meets_of_invariant preserved
    (fun _ _ invariant admissible => invoke_neverStale invariant admissible)
    (start_cacheInvariant csuit) admissible
  exact ⟨neverStale, runtime, holds, accounted.onlyCached⟩

/-- A runtime in which everything succeeds, with a module for each version. -/
def versionsInvoke : InvokeEnv where
  ensure :=
    { wasmRuntimeFullInit := true
      wappBinMalloc := true
      wasmRuntimeLoad := fun wapp _ => if wapp = wasmVersion1 then some 1 else some 2
      wasmRuntimeInstantiate := fun module => some (module + 10) }
  wasmRuntimeLookupFunction := fun _ => some 3
  wasmRuntimeCreateExecEnv := some 4
  inputMalloc := ⟨8, true⟩
  outputMalloc := ⟨16, true⟩
  firstCall := fun _ => some 1
  secondCall := fun _ => some (1, [42])

/-- An app is installed and called, then updated and called again. -/
def versionsRun : List CacheAction :=
  [.tableChanged (tcRun smallCsuit SlotTable.empty (storeBoth [1] 1 [97] wasmVersion1)),
    .invoke versionsInvoke ⟨some [97], some [102], .null 0, true, 16, true⟩,
    .tableChanged (tcRun smallCsuit SlotTable.empty (storeBoth [2] 2 [97] wasmVersion2)),
    .invoke versionsInvoke ⟨some [97], some [102], .null 0, true, 16, true⟩]

/-- The second call finds the first version loaded, and runs the second one. -/
theorem moduleCache_twoVersions :
    (moduleCache smallCsuit).Meets (NeverStale smallCsuit) .start versionsRun ∧
      ((moduleCache smallCsuit).run .start versionsRun).2 = [.ok, .ok] ∧
      ((moduleCache smallCsuit).run .start versionsRun).1.runtime = some ⟨[(2, wasmVersion2)], [(12, 2)]⟩ := by
  have sha256 := reference_sha256Succeeds smallSha256
  have admissible : (moduleCache smallCsuit).Meets (Admissible smallCsuit) .start versionsRun := by
    refine ⟨tcRun_hashBound sha256 _, fun _ => ?_, tcRun_hashBound sha256 _, fun _ => ?_, trivial⟩
    · change ∀ record ∈ tcManagerFindRecordByWappname
        (tcRun smallCsuit SlotTable.empty (storeBoth [1] 1 [97] wasmVersion1)) (some [97]), _
      decide +kernel
    · change ∀ record ∈ tcManagerFindRecordByWappname
        (tcRun smallCsuit SlotTable.empty (storeBoth [2] 2 [97] wasmVersion2)) (some [97]), _
      decide +kernel
  exact ⟨(moduleCache_neverStale smallCsuit versionsRun admissible).1, by decide +kernel, by decide +kernel⟩

end Taws.Wasm
