import Taws.Event

/-!
# Running WASM apps

`Enclave_wasm.cpp`.  The runtime keeps one loaded module; it is reused while its hash is that of the
record of the requested app.  What the WASM runtime and the allocator do is an outcome of the call.

* `ensureWamrRunning` — finds the record and loads its binary unless it is loaded already.
* `ecallInvokeWasm` — calls a function of the module twice, for the size and for the output.
* `runFunction_untouched` — calling it neither loads nor unloads a module.
-/

namespace Taws.Wasm

open TcManager

inductive EcallWasmResult where
  | ok
  | invalidArgument
  | trustedComponentNotFound
  | resourceExhausted
  | wasmIncompatible
  | wasmExecutionFailed
  | internalError
  | outputBufferTooSmall
  deriving DecidableEq

/-- `WamrLoadedModule` -/
structure WamrLoadedModule where
  wappName : CString
  wappHash : Sha256Hash
  wappBin : Buffer
  module : Option Handle
  moduleInstance : Option Handle
  deriving DecidableEq

/-- All zero. -/
instance : Inhabited WamrLoadedModule where
  default := ⟨[], Vector.replicate _ 0, .null 0, none, none⟩

/-- `runtime_inited` and `g_loaded_module` -/
structure WamrState where
  runtimeInited : Bool
  loadedModule : WamrLoadedModule
  deriving DecidableEq

structure EnsureEnv where
  wasmRuntimeFullInit : Bool
  wappBinMalloc : Bool
  wasmRuntimeLoad : Bytes → Nat → Option Handle
  wasmRuntimeInstantiate : Handle → Option Handle

def resetWamrLoadedModule (loadedModule : WamrLoadedModule) : WamrLoadedModule × List Event :=
  (default, loadedModule.moduleInstance.toList.map .wasmDeinstantiated ++
    loadedModule.module.toList.map .wasmUnloaded)

/-- Copies, loads and instantiates the binary of the record. -/
def loadWamrModule (env : EnsureEnv) (wappName : CString) (record : ManifestRecord) (state : WamrState) :
    EcallWasmResult × WamrState × List Event :=
  if !env.wappBinMalloc then
    (.resourceExhausted,
      { state with loadedModule.wappBin := .null state.loadedModule.wappBin.len }, [])
  else
    let copied := { state.loadedModule with wappBin := Buffer.bytes record.wappBin.data }
    -- the length is cast to `uint32_t`
    let size := record.wappBin.len % 2 ^ 32
    let loaded := Event.wasmLoaded wappName record.wappBin.data size
    match env.wasmRuntimeLoad record.wappBin.data size with
    | none =>
      let reset := resetWamrLoadedModule copied
      (.wasmIncompatible, { state with loadedModule := reset.1 }, loaded :: reset.2)
    | some module =>
      match env.wasmRuntimeInstantiate module with
      | none =>
        let reset := resetWamrLoadedModule copied
        (.wasmIncompatible, { state with loadedModule := reset.1 },
          loaded :: .wasmUnloaded module :: reset.2)
      | some moduleInstance =>
        (.ok,
          { state with
            loadedModule :=
              { copied with
                module := some module
                moduleInstance := some moduleInstance
                wappHash := record.wappHash } },
          [loaded, .wasmInstantiated module moduleInstance])

/-- Writes the name, initialises the runtime on the first call and loads the module. -/
def startWamr (csuit : Libcsuit) (env : EnsureEnv) (wappName : CString) (record : ManifestRecord)
    (state : WamrState) : EcallWasmResult × WamrState × List Event :=
  let named := { state with loadedModule.wappName := wappName.take (csuit.suitMaxNameLength - 1) }
  if !named.runtimeInited then
    if !env.wasmRuntimeFullInit then (.internalError, named, [])
    else loadWamrModule env wappName record { named with runtimeInited := true }
  else loadWamrModule env wappName record named

def ensureWamrRunning (csuit : Libcsuit) (env : EnsureEnv) (wappName : Option CString)
    (table : RecordTable) (state : WamrState) : EcallWasmResult × WamrState × List Event :=
  match wappName with
  | none => (.invalidArgument, state, [])
  | some name =>
    if name = [] then (.invalidArgument, state, [])
    else
      match tcManagerFindRecordByWappname table (some name) with
      | none => (.trustedComponentNotFound, state, [])
      | some record =>
        if record.wappBin.isNullOrEmpty then (.trustedComponentNotFound, state, [])
        else
          match state.loadedModule.moduleInstance with
          | none => startWamr csuit env name record state
          | some _ =>
            -- the module stays loaded while the record has the same hash
            if state.loadedModule.wappHash = record.wappHash then (.ok, state, [])
            else
              let reset := resetWamrLoadedModule state.loadedModule
              let started := startWamr csuit env name record { state with loadedModule := reset.1 }
              (started.1, started.2.1, reset.2 ++ started.2.2)

/-! ## Calling a function -/

/-- A result of `wasm_runtime_module_malloc`: the offset, and whether the native pointer is not NULL. -/
structure ModuleMalloc where
  offset : UInt64
  native : Bool

structure InvokeEnv where
  ensure : EnsureEnv
  wasmRuntimeLookupFunction : CString → Option Handle
  wasmRuntimeCreateExecEnv : Option Handle
  inputMalloc : ModuleMalloc
  outputMalloc : ModuleMalloc
  /-- `argv[0]` after the first call, `none` for a trap. -/
  firstCall : Vector UInt32 4 → Option UInt32
  /-- `argv[0]` and the output block after the second call. -/
  secondCall : Vector UInt32 4 → Option (UInt32 × Bytes)

structure InvokeArgs where
  wappName : Option CString
  funcName : Option CString
  input : Buffer
  /-- Whether `output` is not NULL. -/
  output : Bool
  outputLen : Nat
  /-- Whether `actual_len` is not NULL. -/
  actualLen : Bool

/-- The input block is freed if there is one, then the execution environment is destroyed. -/
def endInvoke (execEnv : Handle) (wasmInPtr : UInt64) : List Event :=
  (if wasmInPtr ≠ 0 then [.moduleFreed wasmInPtr] else []) ++ [.execEnvDestroyed execEnv]

/-- From the second allocation on; `*actual_len` is what is returned beside the result. -/
def fetchOutput (env : InvokeEnv) (args : InvokeArgs) (execEnv : Handle) (wasmInPtr : UInt64)
    (retLen : UInt32) : EcallWasmResult × Nat × List Event :=
  let finish := endInvoke execEnv wasmInPtr
  if env.outputMalloc.offset = 0 || !env.outputMalloc.native then (.resourceExhausted, 0, finish)
  else
    let wasmOutPtr := env.outputMalloc.offset
    let argv := #v[wasmInPtr.toUInt32, UInt32.ofNat args.input.len, wasmOutPtr.toUInt32, retLen]
    let events := [.moduleAllocated wasmOutPtr retLen, .wasmCalled argv]
    match env.secondCall argv with
    | none => (.wasmExecutionFailed, 0, events ++ .moduleFreed wasmOutPtr :: finish)
    | some (actualLenBuf, nativeOut) =>
      if actualLenBuf = 0 then (.wasmExecutionFailed, 0, events ++ .moduleFreed wasmOutPtr :: finish)
      else
        let actualLen := (if actualLenBuf > retLen then retLen else actualLenBuf).toNat
        (.ok, actualLen,
          events ++ .outputWritten (nativeOut.take actualLen) :: .moduleFreed wasmOutPtr :: finish)

/-- The first call, which asks for the size of the output. -/
def callFunction (env : InvokeEnv) (args : InvokeArgs) (execEnv : Handle) (wasmInPtr : UInt64) :
    EcallWasmResult × Nat × List Event :=
  let finish := endInvoke execEnv wasmInPtr
  let argv := #v[wasmInPtr.toUInt32, UInt32.ofNat args.input.len, 0, 0]
  match env.firstCall argv with
  | none => (.wasmExecutionFailed, 0, .wasmCalled argv :: finish)
  | some retLen =>
    if retLen = 0 then (.wasmExecutionFailed, 0, .wasmCalled argv :: finish)
    else if retLen.toNat > args.outputLen then (.outputBufferTooSmall, 0, .wasmCalled argv :: finish)
    else
      let fetched := fetchOutput env args execEnv wasmInPtr retLen
      (fetched.1, fetched.2.1, .wasmCalled argv :: fetched.2.2)

/-- What follows `ensure_wamr_running`: the function, the execution environment and the input block. -/
def runFunction (env : InvokeEnv) (args : InvokeArgs) (funcName : CString) :
    EcallWasmResult × Nat × List Event :=
  match env.wasmRuntimeLookupFunction funcName with
  | none => (.wasmIncompatible, 0, [])
  | some _ =>
    match env.wasmRuntimeCreateExecEnv with
    | none => (.internalError, 0, [])
    | some execEnv =>
      if args.input.len > 0 then
        if env.inputMalloc.offset = 0 || !env.inputMalloc.native then
          (.resourceExhausted, 0, [.execEnvCreated execEnv, .execEnvDestroyed execEnv])
        else
          let called := callFunction env args execEnv env.inputMalloc.offset
          (called.1, called.2.1,
            .execEnvCreated execEnv ::
              .moduleAllocated env.inputMalloc.offset (UInt32.ofNat args.input.len) ::
              .inputCopied args.input args.input.len :: called.2.2)
      else
        let called := callFunction env args execEnv 0
        (called.1, called.2.1, .execEnvCreated execEnv :: called.2.2)

/-- The result, `*actual_len`, the state of the runtime and the events. -/
def ecallInvokeWasm (csuit : Libcsuit) (env : InvokeEnv) (args : InvokeArgs) (table : RecordTable)
    (state : WamrState) : EcallWasmResult × Nat × WamrState × List Event :=
  if !args.actualLen then (.invalidArgument, 0, state, [])
  else
    match args.funcName with
    | none => (.invalidArgument, 0, state, [])
    | some funcName =>
      if args.wappName.getD [] = [] || funcName = [] || !args.output then (.invalidArgument, 0, state, [])
      else
        match ensureWamrRunning csuit env.ensure args.wappName table state with
        | (.ok, running, events) =>
          let ran := runFunction env args funcName
          (ran.1, ran.2.1, running, events ++ ran.2.2)
        | (ensureRet, running, events) => (ensureRet, 0, running, events)

/-! ## What a call leaves alone -/

/-- Whether the event is about modules and their instances. -/
def touchesModules : Event → Bool
  | .wasmLoaded _ _ _ => true
  | .wasmInstantiated _ _ => true
  | .wasmDeinstantiated _ => true
  | .wasmUnloaded _ => true
  | _ => false

/-- Calling a function of the module leaves the modules alone. -/
theorem runFunction_untouched (env : InvokeEnv) (args : InvokeArgs) (funcName : CString) :
    ∀ event ∈ (runFunction env args funcName).2.2, touchesModules event = false := by
  have ended : ∀ execEnv wasmInPtr, ∀ event ∈ endInvoke execEnv wasmInPtr, touchesModules event = false := by
    intro execEnv wasmInPtr
    unfold endInvoke
    split <;> simp [touchesModules]
  have fetched : ∀ execEnv wasmInPtr retLen,
      ∀ event ∈ (fetchOutput env args execEnv wasmInPtr retLen).2.2, touchesModules event = false := by
    intro execEnv wasmInPtr retLen
    have finish := ended execEnv wasmInPtr
    simp only [fetchOutput]
    repeat' split
    all_goals simpa [touchesModules] using finish
  have called : ∀ execEnv wasmInPtr,
      ∀ event ∈ (callFunction env args execEnv wasmInPtr).2.2, touchesModules event = false := by
    intro execEnv wasmInPtr
    have finish := ended execEnv wasmInPtr
    simp only [callFunction]
    repeat' split
    · simpa [touchesModules] using finish
    · simpa [touchesModules] using finish
    · simpa [touchesModules] using finish
    · simpa [touchesModules] using fetched execEnv wasmInPtr _
  simp only [runFunction]
  repeat' split
  · simp
  · simp
  · simp [touchesModules]
  · simpa [touchesModules] using called _ _
  · simpa [touchesModules] using called _ _

end Taws.Wasm
