import Taws.Ledger
import Taws.Wasm.ModuleCache

/-!
# The contract of an invocation

The module names two lengths, the one it asks for and the one it has written, and either call may trap.
Every exit gives back what has been taken so far, by hand.

* `invokeEntry` — the execution environments and module blocks that a call takes and gives back.
* `callFunction_settled`, `fetchOutput_settled` — every exit gives back what was taken before it.
* `ecallInvokeWasm_ok` — how a call succeeds.
* `invoke_contract` — the result, the length, the output and the resources of every call.
-/

namespace Taws.Wasm

open TcManager

variable {csuit : Libcsuit} {env : InvokeEnv} {args : InvokeArgs} {table : RecordTable} {state : WamrState}
  {execEnv : Handle} {wasmInPtr : UInt64} {retLen : UInt32}

/-! ## What a call takes and writes -/

inductive Resource where
  | execEnv (execEnv : Handle)
  | moduleBlock (offset : UInt64)
  deriving DecidableEq

def invokeEntry : Event → Option (LedgerEntry Resource)
  | .execEnvCreated execEnv => some (.acquired (.execEnv execEnv))
  | .execEnvDestroyed execEnv => some (.released (.execEnv execEnv))
  | .moduleAllocated offset _ => some (.acquired (.moduleBlock offset))
  | .moduleFreed offset => some (.released (.moduleBlock offset))
  | _ => none

/-- What is written to the caller's buffer, one element for each copy. -/
def outputs (events : List Event) : List Bytes :=
  events.filterMap fun
    | .outputWritten output => some output
    | _ => none

/-- The arguments of the calls into the module. -/
def wasmCalls (events : List Event) : List (Vector UInt32 4) :=
  events.filterMap fun
    | .wasmCalled argv => some argv
    | _ => none

/-- The result is zero and NULL, or a block. -/
def ModuleMalloc.ZeroOrBlock (malloc : ModuleMalloc) : Prop := malloc.offset = 0 ↔ malloc.native = false

instance (malloc : ModuleMalloc) : Decidable malloc.ZeroOrBlock := inferInstanceAs (Decidable (_ ↔ _))

/-- `wasm_runtime_module_malloc` gives zero and NULL or a valid block: no block is given out twice, and the
output block has the size that was asked for. -/
structure ValidMalloc (env : InvokeEnv) (args : InvokeArgs) : Prop where
  input : env.inputMalloc.ZeroOrBlock
  output : env.outputMalloc.ZeroOrBlock
  distinct : args.input.len > 0 → env.inputMalloc.offset ≠ 0 → env.outputMalloc.offset ≠ env.inputMalloc.offset
  size : ∀ argv returned block, env.secondCall argv = some (returned, block) → block.length = argv[3].toNat

/-! ## Every exit gives back what was taken -/

/-- What is held once the input has been copied. -/
def held (execEnv : Handle) (wasmInPtr : UInt64) : Finset Resource :=
  if wasmInPtr ≠ 0 then {.moduleBlock wasmInPtr, .execEnv execEnv} else {.execEnv execEnv}

theorem endInvoke_settled (execEnv : Handle) (wasmInPtr : UInt64) :
    Ledger.replay (held execEnv wasmInPtr) ((endInvoke execEnv wasmInPtr).filterMap invokeEntry) = some ∅ := by
  have destroyed : Ledger.replay {Resource.execEnv execEnv} [.released (.execEnv execEnv)] = some ∅ := by
    rw [Ledger.replay_released (Finset.mem_singleton_self _), Finset.erase_singleton, Ledger.replay_nil]
  unfold held endInvoke
  split
  · have input : Resource.moduleBlock wasmInPtr ∉ ({.execEnv execEnv} : Finset Resource) := by simp
    show Ledger.replay (insert (Resource.moduleBlock wasmInPtr) {Resource.execEnv execEnv})
      [.released (Resource.moduleBlock wasmInPtr), .released (Resource.execEnv execEnv)] = some ∅
    rw [Ledger.replay_released (Finset.mem_insert_self _ _), Finset.erase_insert input]
    exact destroyed
  · exact destroyed

/-- The output block is held from its allocation to the end. -/
theorem fetchOutput_settled (args : InvokeArgs) (execEnv : Handle) (retLen : UInt32)
    (distinct : wasmInPtr ≠ 0 → env.outputMalloc.offset ≠ wasmInPtr) :
    Ledger.replay (held execEnv wasmInPtr)
      ((fetchOutput env args execEnv wasmInPtr retLen).2.2.filterMap invokeEntry) = some ∅ := by
  have settled := endInvoke_settled execEnv wasmInPtr
  have new : Resource.moduleBlock env.outputMalloc.offset ∉ held execEnv wasmInPtr := by
    unfold held
    split
    · next taken => simpa using distinct taken
    · simp
  -- on every exit after the allocation: the block, then what was held before
  have released : Ledger.replay (held execEnv wasmInPtr)
      (.acquired (.moduleBlock env.outputMalloc.offset) :: [] ++
        [.released (.moduleBlock env.outputMalloc.offset)] ++
        (endInvoke execEnv wasmInPtr).filterMap invokeEntry) = some ∅ := by
    rw [Ledger.replay_append_of (Ledger.replay_bracket new (Ledger.replay_nil _))]
    exact settled
  simp only [fetchOutput]
  split
  · exact settled
  · split
    · exact released
    · split
      · exact released
      · exact released

theorem callFunction_settled (args : InvokeArgs) (execEnv : Handle)
    (distinct : wasmInPtr ≠ 0 → env.outputMalloc.offset ≠ wasmInPtr) :
    Ledger.replay (held execEnv wasmInPtr)
      ((callFunction env args execEnv wasmInPtr).2.2.filterMap invokeEntry) = some ∅ := by
  have settled := endInvoke_settled execEnv wasmInPtr
  simp only [callFunction]
  split
  · exact settled
  · split
    · exact settled
    · split
      · exact settled
      · exact fetchOutput_settled args execEnv _ distinct

theorem runFunction_settled (valid : ValidMalloc env args) (funcName : CString) :
    Ledger.replay ∅ ((runFunction env args funcName).2.2.filterMap invokeEntry) = some ∅ := by
  simp only [runFunction]
  split
  · rfl
  split
  · rfl
  next execEnv _ =>
  have created : Resource.execEnv execEnv ∉ (∅ : Finset Resource) := by simp
  split
  · next hasInput =>
    split
    · -- nothing was allocated
      exact Ledger.replay_bracket created (Ledger.replay_nil _)
    · next allocated =>
      have isBlock : env.inputMalloc.offset ≠ 0 := by
        intro zero
        simp [zero] at allocated
      have new : Resource.moduleBlock env.inputMalloc.offset ∉
          (insert (Resource.execEnv execEnv) ∅ : Finset Resource) := by simp
      have nowHeld : insert (Resource.moduleBlock env.inputMalloc.offset)
          (insert (Resource.execEnv execEnv) ∅) = held execEnv env.inputMalloc.offset := by
        rw [held, if_pos isBlock]
        rfl
      simp only [List.filterMap_cons, invokeEntry]
      rw [Ledger.replay_acquired created, Ledger.replay_acquired new, nowHeld]
      exact callFunction_settled args execEnv fun taken => valid.distinct hasInput taken
  · simp only [List.filterMap_cons, invokeEntry]
    rw [Ledger.replay_acquired created]
    have noBlock : insert (Resource.execEnv execEnv) ∅ = held execEnv 0 := rfl
    rw [noBlock]
    exact callFunction_settled args execEnv fun taken => absurd rfl taken

/-! ## The length and the output -/

@[simp] theorem outputs_nil : outputs [] = [] := rfl

@[simp] theorem outputs_append (first second : List Event) :
    outputs (first ++ second) = outputs first ++ outputs second := List.filterMap_append

@[simp] theorem wasmCalls_append (first second : List Event) :
    wasmCalls (first ++ second) = wasmCalls first ++ wasmCalls second := List.filterMap_append

theorem endInvoke_quiet (execEnv : Handle) (wasmInPtr : UInt64) :
    outputs (endInvoke execEnv wasmInPtr) = [] ∧ wasmCalls (endInvoke execEnv wasmInPtr) = [] := by
  unfold endInvoke
  split <;> exact ⟨rfl, rfl⟩

/-- A success has written the first bytes of the output block, no more than the module has announced and the
caller has room for; anything else reports length 0 and writes nothing. -/
structure OutputContract (env : InvokeEnv) (args : InvokeArgs) (result : EcallWasmResult) (actualLen : Nat)
    (events : List Event) : Prop where
  ok : result = .ok → ∃ askArgv fetchArgv announced returned block,
    wasmCalls events = [askArgv, fetchArgv] ∧ env.firstCall askArgv = some announced ∧
      env.secondCall fetchArgv = some (returned, block) ∧
      0 < actualLen ∧ actualLen ≤ min args.outputLen announced.toNat ∧
      outputs events = [block.take actualLen] ∧ (block.take actualLen).length = actualLen
  failed : result ≠ .ok → actualLen = 0 ∧ outputs events = []

theorem OutputContract.of_failed {result : EcallWasmResult} {events : List Event} (notOk : result ≠ .ok)
    (quiet : outputs events = []) : OutputContract env args result 0 events where
  ok := fun isOk => absurd isOk notOk
  failed := fun _ => ⟨rfl, quiet⟩

/-- Events before a call that neither write an output nor call the module. -/
theorem OutputContract.after {result : EcallWasmResult} {actualLen : Nat} {events : List Event}
    (contract : OutputContract env args result actualLen events) (before : List Event)
    (noOutput : outputs before = []) (noCall : wasmCalls before = []) :
    OutputContract env args result actualLen (before ++ events) := by
  have sameOutputs : outputs (before ++ events) = outputs events := by rw [outputs_append, noOutput]; rfl
  have sameCalls : wasmCalls (before ++ events) = wasmCalls events := by rw [wasmCalls_append, noCall]; rfl
  obtain ⟨ok, failed⟩ := contract
  constructor
  · rw [sameOutputs, sameCalls]
    exact ok
  · rw [sameOutputs]
    exact failed

/-- The second call, after a first call that has announced `retLen`. -/
theorem fetchOutput_contract (valid : ValidMalloc env args) (execEnv : Handle) (wasmInPtr : UInt64)
    {askArgv : Vector UInt32 4} (asked : env.firstCall askArgv = some retLen) (positive : retLen ≠ 0)
    (fits : retLen.toNat ≤ args.outputLen) :
    let fetched := fetchOutput env args execEnv wasmInPtr retLen
    OutputContract env args fetched.1 fetched.2.1 (.wasmCalled askArgv :: fetched.2.2) := by
  obtain ⟨noOutput, noCall⟩ := endInvoke_quiet execEnv wasmInPtr
  simp only [fetchOutput]
  split
  · exact .of_failed (by simp) noOutput
  split
  · exact .of_failed (by simp) noOutput
  next returned block second =>
  split
  · exact .of_failed (by simp) noOutput
  next notEmpty =>
  -- the length is cut at what the module has announced
  have bounds : 0 < (if returned > retLen then retLen else returned).toNat ∧
      (if returned > retLen then retLen else returned).toNat ≤ retLen.toNat := by
    have announced : retLen.toNat ≠ 0 := fun zero => positive (UInt32.toNat_inj.mp zero)
    have written : returned.toNat ≠ 0 := fun zero => notEmpty (UInt32.toNat_inj.mp zero)
    split
    · omega
    · next notMore =>
      have le := UInt32.not_lt.mp notMore
      have := UInt32.le_iff_toNat_le.mp le
      omega
  have blockSize : block.length = retLen.toNat := valid.size _ _ _ second
  generalize (if returned > retLen then retLen else returned).toNat = actualLen at bounds ⊢
  constructor
  · intro _
    refine ⟨askArgv, _, retLen, returned, block, ?_, asked, second, bounds.1, ?_, ?_, ?_⟩
    · show [askArgv, _] ++ wasmCalls (endInvoke execEnv wasmInPtr) = _
      rw [noCall, List.append_nil]
    · exact Nat.le_min.mpr ⟨Nat.le_trans bounds.2 fits, bounds.2⟩
    · show [block.take actualLen] ++ outputs (endInvoke execEnv wasmInPtr) = _
      rw [noOutput, List.append_nil]
    · show (block.take actualLen).length = actualLen
      rw [List.length_take, blockSize]
      exact Nat.min_eq_left bounds.2
  · intro notOk
    exact absurd rfl notOk

theorem callFunction_contract (valid : ValidMalloc env args) (execEnv : Handle) (wasmInPtr : UInt64) :
    let called := callFunction env args execEnv wasmInPtr
    OutputContract env args called.1 called.2.1 called.2.2 := by
  have noOutput := (endInvoke_quiet execEnv wasmInPtr).1
  simp only [callFunction]
  split
  · exact .of_failed (by simp) noOutput
  split
  · exact .of_failed (by simp) noOutput
  split
  · exact .of_failed (by simp) noOutput
  next retLen asked positive fits =>
  exact fetchOutput_contract valid execEnv wasmInPtr asked positive (Nat.not_lt.mp fits)

theorem runFunction_contract (valid : ValidMalloc env args) (funcName : CString) :
    let ran := runFunction env args funcName
    OutputContract env args ran.1 ran.2.1 ran.2.2 := by
  simp only [runFunction]
  split
  · exact .of_failed (by simp) rfl
  split
  · exact .of_failed (by simp) rfl
  next execEnv _ =>
  split
  · split
    · exact .of_failed (by simp) rfl
    · have called := callFunction_contract valid execEnv env.inputMalloc.offset
      exact called.after [.execEnvCreated execEnv,
        .moduleAllocated env.inputMalloc.offset (UInt32.ofNat args.input.len),
        .inputCopied args.input args.input.len] rfl rfl
  · have called := callFunction_contract valid execEnv 0
    exact called.after [.execEnvCreated execEnv] rfl rfl

/-! ## Calls that succeed -/

/-- How a call succeeds. -/
theorem ecallInvokeWasm_ok {invoked : EcallWasmResult × Nat × WamrState × List Event}
    (made : ecallInvokeWasm csuit env args table state = invoked) (ok : invoked.1 = .ok) :
    ∃ funcName running events, ensureWamrRunning csuit env.ensure args.wappName table state = (.ok, running, events) ∧
      (runFunction env args funcName).1 = .ok ∧
      invoked.2 = ((runFunction env args funcName).2.1, running, events ++ (runFunction env args funcName).2.2) := by
  simp only [ecallInvokeWasm] at made
  split at made
  · subst made
    cases ok
  split at made
  · subst made
    cases ok
  next funcName _ =>
  split at made
  · subst made
    cases ok
  split at made
  · next running events ensured =>
    subst made
    exact ⟨funcName, running, events, ensured, ok, rfl⟩
  · next notOk _ =>
    subst made
    exact absurd ok notOk

theorem callFunction_called (env : InvokeEnv) (args : InvokeArgs) (execEnv : Handle)
    (wasmInPtr : UInt64) : wasmCalls (callFunction env args execEnv wasmInPtr).2.2 ≠ [] := by
  simp only [callFunction]
  split
  · simp [wasmCalls]
  split
  · simp [wasmCalls]
  split <;> simp [wasmCalls]

/-- A function that returns an output has been called. -/
theorem runFunction_called {funcName : CString} (ok : (runFunction env args funcName).1 = .ok) :
    wasmCalls (runFunction env args funcName).2.2 ≠ [] := by
  revert ok
  simp only [runFunction]
  split
  · intro ok
    cases ok
  split
  · intro ok
    cases ok
  split
  · split
    · intro ok
      cases ok
    · exact fun _ => callFunction_called _ _ _ _
  · exact fun _ => callFunction_called _ _ _ _

theorem ecallInvokeWasm_called (ok : (ecallInvokeWasm csuit env args table state).1 = .ok) :
    wasmCalls (ecallInvokeWasm csuit env args table state).2.2.2 ≠ [] := by
  obtain ⟨funcName, running, events, _, ran, same⟩ := ecallInvokeWasm_ok rfl ok
  rw [same, wasmCalls_append]
  exact List.append_ne_nil_of_right_ne_nil _ (runFunction_called ran)

/-! ## The whole call -/

/-- Nothing but modules is touched. -/
def ModulesOnly (events : List Event) : Prop := ∀ event ∈ events, touchesModules event = true

theorem resetWamrLoadedModule_modulesOnly (loaded : WamrLoadedModule) :
    ModulesOnly (resetWamrLoadedModule loaded).2 := by
  intro event member
  simp only [resetWamrLoadedModule, List.mem_append, List.mem_map] at member
  obtain ⟨_, _, rfl⟩ | ⟨_, _, rfl⟩ := member
  · rfl
  · rfl

theorem loadWamrModule_modulesOnly (env : EnsureEnv) (name : CString) (record : ManifestRecord)
    (state : WamrState) : ModulesOnly (loadWamrModule env name record state).2.2 := by
  have reset := resetWamrLoadedModule_modulesOnly
    { state.loadedModule with wappBin := Buffer.bytes record.wappBin.data }
  simp only [loadWamrModule]
  split
  · simp [ModulesOnly]
  split
  · exact List.forall_mem_cons.mpr ⟨rfl, reset⟩
  split
  · exact List.forall_mem_cons.mpr ⟨rfl, List.forall_mem_cons.mpr ⟨rfl, reset⟩⟩
  · simp [ModulesOnly, touchesModules]

theorem startWamr_modulesOnly (csuit : Libcsuit) (env : EnsureEnv) (name : CString) (record : ManifestRecord)
    (state : WamrState) : ModulesOnly (startWamr csuit env name record state).2.2 := by
  simp only [startWamr]
  split
  · split
    · simp [ModulesOnly]
    · exact loadWamrModule_modulesOnly env name record _
  · exact loadWamrModule_modulesOnly env name record _

/-- Making the module ready loads and unloads modules, and nothing else. -/
theorem ensureWamrRunning_modulesOnly (csuit : Libcsuit) (env : EnsureEnv) (wappName : Option CString)
    (table : RecordTable) (state : WamrState) :
    ModulesOnly (ensureWamrRunning csuit env wappName table state).2.2 := by
  have none : ModulesOnly [] := by simp [ModulesOnly]
  cases wappName with
  | none => exact none
  | some name =>
    simp only [ensureWamrRunning]
    split
    · exact none
    split
    · exact none
    split
    · exact none
    split
    · exact startWamr_modulesOnly csuit env name _ state
    split
    · exact none
    · exact List.forall_mem_append.mpr
        ⟨resetWamrLoadedModule_modulesOnly _, startWamr_modulesOnly csuit env _ _ _⟩

theorem ModulesOnly.quiet {events : List Event} (modulesOnly : ModulesOnly events) :
    outputs events = [] ∧ wasmCalls events = [] ∧ events.filterMap invokeEntry = [] := by
  induction events with
  | nil => exact ⟨rfl, rfl, rfl⟩
  | cons event events inductionHypothesis =>
    obtain ⟨module, rest⟩ := List.forall_mem_cons.mp modulesOnly
    obtain ⟨noOutput, noCall, noEntry⟩ := inductionHypothesis rest
    cases event <;> first | exact ⟨noOutput, noCall, noEntry⟩ | cases module

/-- Whatever the runtime and the module do: what is returned and written, and that every execution environment
and every module block that was taken has been given back. -/
theorem invoke_contract (csuit : Libcsuit) (valid : ValidMalloc env args) (table : RecordTable)
    (state : WamrState) :
    let invoked := ecallInvokeWasm csuit env args table state
    OutputContract env args invoked.1 invoked.2.1 invoked.2.2.2 ∧
      Ledger.replay ∅ (invoked.2.2.2.filterMap invokeEntry) = some ∅ := by
  have refused : ∀ result, result ≠ EcallWasmResult.ok →
      OutputContract env args result 0 [] ∧ Ledger.replay (∅ : Finset Resource) [] = some ∅ :=
    fun result notOk => ⟨.of_failed notOk rfl, rfl⟩
  simp only [ecallInvokeWasm]
  split
  · exact refused _ (by simp)
  split
  · exact refused _ (by simp)
  next funcName _ =>
  split
  · exact refused _ (by simp)
  have quiet := (ensureWamrRunning_modulesOnly csuit env.ensure args.wappName table state).quiet
  split
  · next running events made =>
    rw [made] at quiet
    refine ⟨(runFunction_contract valid funcName).after events quiet.1 quiet.2.1, ?_⟩
    rw [List.filterMap_append, quiet.2.2]
    exact runFunction_settled valid funcName
  · next ensureRet running events notOk made =>
    rw [made] at quiet
    refine ⟨.of_failed notOk quiet.1, ?_⟩
    rw [quiet.2.2]
    rfl

/-- A module that announces two bytes and then claims to have written three. -/
def overlongInvoke : InvokeEnv :=
  { versionsInvoke with
    firstCall := fun _ => some 2
    secondCall := fun argv => some (3, List.replicate argv[3].toNat 42) }

def overlongArgs : InvokeArgs := ⟨some [97], some [102], .bytes [1, 2, 3], true, 16, true⟩

theorem overlongInvoke_validMalloc : ValidMalloc overlongInvoke overlongArgs where
  input := by decide
  output := by decide
  distinct := by decide
  size := by
    intro argv returned block second
    obtain ⟨_, rfl⟩ : returned = 3 ∧ block = List.replicate argv[3].toNat 42 := by
      simpa [overlongInvoke, eq_comm] using second
    rw [List.length_replicate]

/-- The announced length is what the caller gets. -/
theorem invoke_contract_overlong :
    let invoked := ecallInvokeWasm smallCsuit overlongInvoke overlongArgs
      (tcRun smallCsuit SlotTable.empty (storeBoth [1] 1 [97] wasmVersion1)) ⟨false, default⟩
    OutputContract overlongInvoke overlongArgs invoked.1 invoked.2.1 invoked.2.2.2 ∧
      Ledger.replay ∅ (invoked.2.2.2.filterMap invokeEntry) = some ∅ ∧
      invoked.1 = .ok ∧ outputs invoked.2.2.2 = [[42, 42]] := by
  obtain ⟨contract, settled⟩ := invoke_contract smallCsuit overlongInvoke_validMalloc
    (tcRun smallCsuit SlotTable.empty (storeBoth [1] 1 [97] wasmVersion1)) ⟨false, default⟩
  exact ⟨contract, settled, by decide +kernel, by decide +kernel⟩

end Taws.Wasm
