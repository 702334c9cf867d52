import Taws.Wasm.Contract

/-!
# Copying the input

The input block is allocated with the length cut to 32 bits, and filled with as many bytes as the caller
says there are; a NULL input with a length is copied like any other.  No caller is stopped from passing
either.

* `InputCopySafe` — what the copy must satisfy.
* `ReachesCopy` — when a call comes to the copy.
* `inputCopy_safe_iff` — the calls whose copy is safe.
-/

namespace Taws.Wasm

open TcManager

variable {csuit : Libcsuit} {env : InvokeEnv} {args : InvokeArgs} {table : RecordTable} {state : WamrState}

/-- What is copied comes from a pointer that is not NULL, fits the block that was just asked for, and has the
length that the module is told in every call. -/
structure InputCopySafe (events : List Event) : Prop where
  source : ∀ input length, .inputCopied input length ∈ events → input.isNull = false
  fits : EveryEvent (fun before event => ∀ input length, event = .inputCopied input length →
    ∃ offset size, before.getLast? = some (.moduleAllocated offset size) ∧ length ≤ size.toNat) [] events
  passed : ∀ input length, .inputCopied input length ∈ events →
    ∀ argv ∈ wasmCalls events, argv[1].toNat = length

/-- The call comes to the copy: its arguments are accepted, the module is ready, the function is found, and
there are an execution environment and a block for an input that is not empty. -/
structure ReachesCopy (csuit : Libcsuit) (env : InvokeEnv) (args : InvokeArgs) (table : RecordTable)
    (state : WamrState) : Prop where
  actualLen : args.actualLen = true
  output : args.output = true
  wappName : args.wappName.getD [] ≠ []
  funcName : args.funcName.getD [] ≠ []
  ready : (ensureWamrRunning csuit env.ensure args.wappName table state).1 = .ok
  found : (env.wasmRuntimeLookupFunction (args.funcName.getD [])).isSome = true
  execEnv : env.wasmRuntimeCreateExecEnv.isSome = true
  hasInput : args.input.len > 0
  offset : env.inputMalloc.offset ≠ 0
  native : env.inputMalloc.native = true

/-! ## The calls into the module -/

def copiesInput : Event → Bool
  | .inputCopied _ _ => true
  | _ => false

/-- The module is called, with the given length each time, and nothing is copied. -/
structure CallsWithLength (length : UInt32) (events : List Event) : Prop where
  noCopy : ∀ event ∈ events, copiesInput event = false
  passed : ∀ argv ∈ wasmCalls events, argv[1] = length

theorem CallsWithLength.append {length : UInt32} {first second : List Event}
    (left : CallsWithLength length first) (right : CallsWithLength length second) :
    CallsWithLength length (first ++ second) where
  noCopy := List.forall_mem_append.mpr ⟨left.noCopy, right.noCopy⟩
  passed := by
    rw [wasmCalls_append]
    exact List.forall_mem_append.mpr ⟨left.passed, right.passed⟩

theorem endInvoke_callsWithLength (length : UInt32) (execEnv : Handle) (wasmInPtr : UInt64) :
    CallsWithLength length (endInvoke execEnv wasmInPtr) := by
  unfold endInvoke
  split
  · exact ⟨by simp [copiesInput], by simp [wasmCalls]⟩
  · exact ⟨by simp [copiesInput], by simp [wasmCalls]⟩

theorem wasmCalled_callsWithLength (argv : Vector UInt32 4) : CallsWithLength argv[1] [.wasmCalled argv] :=
  ⟨by simp [copiesInput], by simp [wasmCalls]⟩

theorem quiet_callsWithLength (length : UInt32) {event : Event} (noCopy : copiesInput event = false)
    (noCall : wasmCalls [event] = []) : CallsWithLength length [event] :=
  ⟨by simpa using noCopy, by simp [noCall]⟩

theorem fetchOutput_callsWithLength (env : InvokeEnv) (args : InvokeArgs) (execEnv : Handle)
    (wasmInPtr : UInt64) (retLen : UInt32) :
    CallsWithLength (UInt32.ofNat args.input.len) (fetchOutput env args execEnv wasmInPtr retLen).2.2 := by
  have finish := endInvoke_callsWithLength (UInt32.ofNat args.input.len) execEnv wasmInPtr
  have freed : CallsWithLength (UInt32.ofNat args.input.len) [.moduleFreed env.outputMalloc.offset] :=
    quiet_callsWithLength _ rfl rfl
  have allocated : CallsWithLength (UInt32.ofNat args.input.len)
      [.moduleAllocated env.outputMalloc.offset retLen] := quiet_callsWithLength _ rfl rfl
  have called := allocated.append (wasmCalled_callsWithLength
    #v[wasmInPtr.toUInt32, UInt32.ofNat args.input.len, env.outputMalloc.offset.toUInt32, retLen])
  simp only [fetchOutput]
  split
  · exact finish
  split
  · exact called.append (freed.append finish)
  split
  · exact called.append (freed.append finish)
  · have written : ∀ output, CallsWithLength (UInt32.ofNat args.input.len) [.outputWritten output] :=
      fun output => quiet_callsWithLength _ rfl rfl
    exact called.append ((written _).append (freed.append finish))

theorem callFunction_callsWithLength (env : InvokeEnv) (args : InvokeArgs) (execEnv : Handle)
    (wasmInPtr : UInt64) :
    CallsWithLength (UInt32.ofNat args.input.len) (callFunction env args execEnv wasmInPtr).2.2 ∧
      wasmCalls (callFunction env args execEnv wasmInPtr).2.2 ≠ [] := by
  have finish := endInvoke_callsWithLength (UInt32.ofNat args.input.len) execEnv wasmInPtr
  have called := wasmCalled_callsWithLength #v[wasmInPtr.toUInt32, UInt32.ofNat args.input.len, 0, 0]
  simp only [callFunction]
  split
  · exact ⟨called.append finish, by simp [wasmCalls]⟩
  split
  · exact ⟨called.append finish, by simp [wasmCalls]⟩
  split
  · exact ⟨called.append finish, by simp [wasmCalls]⟩
  · exact ⟨called.append (fetchOutput_callsWithLength ..), by simp [wasmCalls]⟩

/-! ## The whole call -/

theorem ModulesOnly.noCopy {events : List Event} (modulesOnly : ModulesOnly events) :
    ∀ event ∈ events, copiesInput event = false := by
  intro event member
  have module := modulesOnly event member
  cases event <;> first | rfl | cases module

/-- The events of a call that copies its input. -/
structure Copies (args : InvokeArgs) (events : List Event) : Prop where
  split : ∃ before offset later,
    events = before ++ .moduleAllocated offset (UInt32.ofNat args.input.len) ::
      .inputCopied args.input args.input.len :: later ∧
    (∀ event ∈ before, copiesInput event = false) ∧ wasmCalls before = [] ∧
    CallsWithLength (UInt32.ofNat args.input.len) later ∧ wasmCalls later ≠ []

/-- A call that comes to the copy makes it. -/
theorem ReachesCopy.copies (reaches : ReachesCopy csuit env args table state) :
    Copies args (ecallInvokeWasm csuit env args table state).2.2.2 := by
  have modulesOnly := ensureWamrRunning_modulesOnly csuit env.ensure args.wappName table state
  obtain ⟨funcName, named⟩ : ∃ funcName, args.funcName = some funcName := by
    cases name : args.funcName with
    | none => exact absurd (by rw [name]; rfl) reaches.funcName
    | some funcName => exact ⟨funcName, rfl⟩
  have notEmpty : funcName ≠ [] := by simpa [named] using reaches.funcName
  obtain ⟨function, found⟩ : ∃ function, env.wasmRuntimeLookupFunction funcName = some function :=
    Option.isSome_iff_exists.mp (by simpa [named] using reaches.found)
  obtain ⟨execEnv, created⟩ := Option.isSome_iff_exists.mp reaches.execEnv
  obtain ⟨called, calls⟩ := callFunction_callsWithLength env args execEnv env.inputMalloc.offset
  obtain ⟨running, events, made⟩ : ∃ running events,
      ensureWamrRunning csuit env.ensure args.wappName table state = (.ok, running, events) :=
    ⟨_, _, Prod.ext reaches.ready rfl⟩
  rw [made] at modulesOnly
  refine ⟨events ++ [.execEnvCreated execEnv], env.inputMalloc.offset,
    (callFunction env args execEnv env.inputMalloc.offset).2.2, ?_, ?_, ?_, called, calls⟩
  · simp [ecallInvokeWasm, runFunction, reaches.actualLen, reaches.output, reaches.wappName, named, notEmpty,
      found, created, reaches.hasInput, reaches.offset, reaches.native, made]
  · exact List.forall_mem_append.mpr ⟨modulesOnly.noCopy, by simp [copiesInput]⟩
  · rw [wasmCalls_append, modulesOnly.quiet.2.1]
    rfl

/-- Once the module is ready: there is no function, no execution environment, no input or no block for it. -/
theorem runFunction_noCopy {funcName : CString}
    (notReached : (env.wasmRuntimeLookupFunction funcName).isSome = true →
      env.wasmRuntimeCreateExecEnv.isSome = true → args.input.len > 0 →
      ¬ (env.inputMalloc.offset ≠ 0 ∧ env.inputMalloc.native = true)) :
    ∀ event ∈ (runFunction env args funcName).2.2, copiesInput event = false := by
  simp only [runFunction]
  split
  · simp
  next function found =>
  split
  · simp
  next execEnv created =>
  split
  · next hasInput =>
    split
    · simp [copiesInput]
    next allocated =>
    have isBlock : env.inputMalloc.offset ≠ 0 ∧ env.inputMalloc.native = true := by simpa using allocated
    exact absurd isBlock (notReached (by simp [found]) (by simp [created]) hasInput)
  · have called := (callFunction_callsWithLength env args execEnv 0).1
    exact List.forall_mem_cons.mpr ⟨rfl, called.noCopy⟩

/-- A call that does not come to the copy copies nothing. -/
theorem noCopy_of_not_reached (notReached : ¬ ReachesCopy csuit env args table state) :
    ∀ event ∈ (ecallInvokeWasm csuit env args table state).2.2.2, copiesInput event = false := by
  have modulesOnly := ensureWamrRunning_modulesOnly csuit env.ensure args.wappName table state
  simp only [ecallInvokeWasm]
  split
  · simp
  next hasLen =>
  split
  · simp
  next funcName named =>
  split
  · simp
  next accepted =>
  simp only [Bool.or_eq_true, decide_eq_true_eq, not_or, Bool.not_eq_true, Bool.not_eq_false'] at accepted
  split
  swap
  · next made =>
    rw [made] at modulesOnly
    exact modulesOnly.noCopy
  next running events made =>
  rw [made] at modulesOnly
  refine List.forall_mem_append.mpr ⟨modulesOnly.noCopy, runFunction_noCopy ?_⟩
  intro found execEnv hasInput isBlock
  apply notReached
  exact
    { actualLen := by simpa using hasLen
      output := accepted.2
      wappName := accepted.1.1
      funcName := by simpa [named] using accepted.1.2
      ready := by rw [made]
      found := by simpa [named] using found
      execEnv := execEnv
      hasInput := hasInput
      offset := isBlock.1
      native := isBlock.2 }

theorem inputCopySafe_of_noCopy {events : List Event} (noCopy : ∀ event ∈ events, copiesInput event = false) :
    InputCopySafe events where
  source := fun input length copied => absurd (noCopy _ copied) (by simp [copiesInput])
  fits := by
    intro before event after split input length same
    subst same
    have copied := noCopy (.inputCopied input length) (by simp [split])
    simp [copiesInput] at copied
  passed := fun input length copied => absurd (noCopy _ copied) (by simp [copiesInput])

theorem Copies.safe_iff {events : List Event} (copies : Copies args events) :
    InputCopySafe events ↔ args.input.isNull = false ∧ args.input.len < 2 ^ 32 := by
  obtain ⟨before, offset, later, rfl, noneBefore, noCallBefore, called, calls⟩ := copies.split
  have only : ∀ input length, .inputCopied input length ∈ before ++
      .moduleAllocated offset (UInt32.ofNat args.input.len) :: .inputCopied args.input args.input.len :: later →
      input = args.input ∧ length = args.input.len := by
    intro input length copied
    simp only [List.mem_append, List.mem_cons, reduceCtorEq, Event.inputCopied.injEq, false_or] at copied
    obtain early | same | late := copied
    · exact absurd (noneBefore _ early) (by simp [copiesInput])
    · exact same
    · exact absurd (called.noCopy _ late) (by simp [copiesInput])
  constructor
  · intro safe
    refine ⟨safe.source args.input args.input.len (by simp), ?_⟩
    -- the length that the module is told fits 32 bits
    obtain ⟨argv, member⟩ := List.exists_mem_of_ne_nil _ calls
    have told := safe.passed args.input args.input.len (by simp) argv (by
      rw [wasmCalls_append]
      exact List.mem_append_right _ member)
    rw [← told]
    exact argv[1].toNat_lt
  · intro fits
    obtain ⟨notNull, short⟩ := fits
    have kept : (UInt32.ofNat args.input.len).toNat = args.input.len := by
      rw [UInt32.toNat_ofNat', Nat.mod_eq_of_lt short]
    constructor
    · intro input length copied
      rw [(only input length copied).1]
      exact notNull
    · rw [everyEvent_append, everyEvent_cons, everyEvent_cons, List.nil_append]
      refine ⟨?_, ?_, ?_, ?_⟩
      · exact (inputCopySafe_of_noCopy noneBefore).fits
      · intro input length same
        cases same
      · intro input length same
        cases same
        exact ⟨offset, UInt32.ofNat args.input.len, by simp, kept.ge⟩
      · intro front event back split input length same
        subst same
        have copied := called.noCopy (.inputCopied input length) (by simp [split])
        simp [copiesInput] at copied
    · intro input length copied argv member
      rw [(only input length copied).2]
      have late : argv ∈ wasmCalls later := by
        rw [wasmCalls_append, noCallBefore, List.nil_append] at member
        exact member
      rw [called.passed argv late]
      exact kept

/-- A call copies its input safely exactly when it does not come to the copy, or the input is not NULL and
its length fits 32 bits. -/
theorem inputCopy_safe_iff (csuit : Libcsuit) (env : InvokeEnv) (args : InvokeArgs) (table : RecordTable)
    (state : WamrState) :
    InputCopySafe (ecallInvokeWasm csuit env args table state).2.2.2 ↔
      (ReachesCopy csuit env args table state → args.input.isNull = false ∧ args.input.len < 2 ^ 32) := by
  by_cases reaches : ReachesCopy csuit env args table state
  · rw [reaches.copies.safe_iff]
    simp [reaches]
  · have noCopy := noCopy_of_not_reached reaches
    exact ⟨fun _ comes => absurd comes reaches, fun _ => inputCopySafe_of_noCopy noCopy⟩

/-- NULL with the length 4: the module is given a block for what nobody has. -/
theorem inputCopy_null :
    ¬ InputCopySafe (ecallInvokeWasm smallCsuit overlongInvoke { overlongArgs with input := .null 4 }
      (tcRun smallCsuit SlotTable.empty (storeBoth [1] 1 [97] wasmVersion1)) ⟨false, default⟩).2.2.2 := by
  intro safe
  have copied : .inputCopied (.null 4) 4 ∈ (ecallInvokeWasm smallCsuit overlongInvoke
      { overlongArgs with input := .null 4 }
      (tcRun smallCsuit SlotTable.empty (storeBoth [1] 1 [97] wasmVersion1)) ⟨false, default⟩).2.2.2 := by
    decide +kernel
  have notNull := safe.source _ _ copied
  cases notNull

end Taws.Wasm
