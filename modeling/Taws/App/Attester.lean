import Taws.Buffers
import Taws.Machine

/-!
# The attester of `attester_api.cpp`

The host creates the enclave on first use and has it initialise its key, once.  Two flags record how far
this has come: `initialized` is set as soon as the enclave exists, `keyReady` at the end; a later call
looks at the first one only.

* `sgxInitialized`, `attesterInit`, `attesterInstall`, `attesterInvokeWasm`, `attesterClose`
* `Consistent` — the flags say what is true of the enclave.
* `initialisation_truthful_iff` — when each initialisation that reports success has left a usable enclave.
-/

namespace Taws.App

/-! ## The host -/

inductive SgxStatus where
  | success
  | error (code : Nat)
  deriving DecidableEq

/-- `teep_session_result_t` -/
inductive TeepSessionResult where
  | ok
  | teepErrorResponse
  | fatal
  | httpError
  | okDeviceActivated
  deriving DecidableEq

/-- Where the key pair of an enclave comes from. -/
inductive KeySource where
  | generated
  | builtIn
  deriving DecidableEq

/-- An enclave: the key that one of its key ECALLs has initialised, and the log level it was given. -/
structure EnclaveInstance where
  keySource : Option KeySource
  logLevel : Option Int
  deriving DecidableEq

/-- The globals of `attester_api.cpp`, and the enclave that `global_eid` names. -/
structure AttesterState where
  enclave : Option EnclaveInstance
  initialized : Bool
  keyReady : Bool
  stdioConfigured : Bool
  pendingEnclaveLogLevel : Int
  deriving DecidableEq

def tawsLogLevelError : Int := 0
def tawsLogLevelInfo : Int := 1
def tawsLogLevelDebug : Int := 2

/-- Before the first call. -/
def AttesterState.start : AttesterState where
  enclave := none
  initialized := false
  keyReady := false
  stdioConfigured := false
  pendingEnclaveLogLevel := tawsLogLevelInfo

/-- What the SGX calls of one `sgx_initialized` return; for the key ECALLs also their `result`. -/
structure InitEnv where
  sgxCreateEnclave : SgxStatus
  ecallSetLogLevel : SgxStatus
  ecallTeepGenerateEsp256KeyPair : SgxStatus × Int
  ecallTeepSetEsp256Key : SgxStatus × Int
  deriving DecidableEq

def configureStdio (state : AttesterState) : AttesterState :=
  if state.stdioConfigured then state else { state with stdioConfigured := true }

/-- `"yes"` -/
def keygenYes : CString := [121, 101, 115]

/-- `"no"` -/
def keygenNo : CString := [110, 111]

/-- The end of `sgx_initialized`, after a key ECALL has returned. -/
def keyInitialized (source : KeySource) (returned : SgxStatus × Int) (state : AttesterState) :
    Int × AttesterState :=
  if returned.1 ≠ .success then (-1, state)
  else if returned.2 ≠ 0 then (returned.2, state)
  else
    (0, { state with
      enclave := state.enclave.map fun enclave => { enclave with keySource := some source }
      keyReady := true })

/-- What `ecall_set_log_level` does, with what it returns. -/
def sendLogLevel (level : Int) (returned : SgxStatus) (state : AttesterState) : AttesterState :=
  if returned = .success then
    { state with enclave := state.enclave.map fun enclave => { enclave with logLevel := some level } }
  else state

def initializeKey (env : InitEnv) (keygenMode : Option CString) (state : AttesterState) : Int × AttesterState :=
  let keygenMode := if keygenMode.getD [] = [] then keygenYes else keygenMode.getD []
  if state.keyReady then (0, state)
  else if keygenMode = keygenYes then keyInitialized .generated env.ecallTeepGenerateEsp256KeyPair state
  else if keygenMode = keygenNo then keyInitialized .builtIn env.ecallTeepSetEsp256Key state
  else (-1, state)

/-- `keygenMode` is `none` where the pointer is NULL. -/
def sgxInitialized (env : InitEnv) (keygenMode : Option CString) (state : AttesterState) :
    Int × AttesterState :=
  let state := configureStdio state
  if state.initialized then (0, state)
  else if env.sgxCreateEnclave ≠ .success then (-1, state)
  else
    let created := { state with enclave := some ⟨none, none⟩, initialized := true }
    -- what this call returns is ignored
    let leveled := sendLogLevel state.pendingEnclaveLogLevel env.ecallSetLogLevel created
    initializeKey env keygenMode leveled

def attesterInit (env : InitEnv) (keygenMode : Option CString) (state : AttesterState) : Int × AttesterState :=
  sgxInitialized env keygenMode state

/-- The level is kept for an enclave that does not exist yet; one that does is given it. -/
def attesterSetLogLevel (level : Int) (ecallSetLogLevel : SgxStatus) (state : AttesterState) :
    Int × AttesterState :=
  if level < tawsLogLevelError ∨ level > tawsLogLevelDebug then (-1, state)
  else
    let state := { state with pendingEnclaveLogLevel := level }
    if state.initialized then
      (if ecallSetLogLevel ≠ .success then -1 else 0, sendLogLevel level ecallSetLogLevel state)
    else (0, state)

/-- `session` is what `run_teep_session` returns. -/
def attesterInstall (env : InitEnv) (tamUrl appName : Option CString) (session : TeepSessionResult)
    (state : AttesterState) : TeepSessionResult × AttesterState :=
  let init := sgxInitialized env none state
  if init.1 ≠ 0 then (.fatal, init.2)
  else if tamUrl.isNone || appName.isNone then (.fatal, init.2)
  else (session, init.2)

/-- `output` and `actualLen` say whether the pointers are not NULL; `ecall` is what `ecall_invoke_wasm`
returns, and its result. -/
def attesterInvokeWasm (env : InitEnv) (wappName funcName : Option CString) (output actualLen : Bool)
    (ecall : SgxStatus × Int) (state : AttesterState) : Int × AttesterState :=
  let init := sgxInitialized env none state
  if init.1 ≠ 0 then (init.1, init.2)
  else if wappName.getD [] = [] || funcName.getD [] = [] || !output || !actualLen then (-1, init.2)
  else if ecall.1 ≠ .success then (-1, init.2)
  else (ecall.2, init.2)

def attesterClose (state : AttesterState) : AttesterState :=
  if state.initialized then { state with enclave := none, initialized := false, keyReady := false } else state

/-! ## Runs -/

inductive AttesterCall where
  | init (env : InitEnv) (keygenMode : Option CString)
  | setLogLevel (level : Int) (ecall : SgxStatus)
  | install (env : InitEnv) (tamUrl appName : Option CString) (session : TeepSessionResult)
  | invokeWasm (env : InitEnv) (wappName funcName : Option CString) (output actualLen : Bool)
      (ecall : SgxStatus × Int)
  | close
  deriving DecidableEq

/-- What a call returns. -/
inductive Returned where
  | code (value : Int)
  | session (result : TeepSessionResult)
  | nothing
  deriving DecidableEq

def attesterStep (state : AttesterState) : AttesterCall → AttesterState × Returned
  | .init env keygenMode =>
    let init := attesterInit env keygenMode state
    (init.2, .code init.1)
  | .setLogLevel level ecall =>
    let set := attesterSetLogLevel level ecall state
    (set.2, .code set.1)
  | .install env tamUrl appName session =>
    let installed := attesterInstall env tamUrl appName session state
    (installed.2, .session installed.1)
  | .invokeWasm env wappName funcName output actualLen ecall =>
    let invoked := attesterInvokeWasm env wappName funcName output actualLen ecall state
    (invoked.2, .code invoked.1)
  | .close => (attesterClose state, .nothing)

/-- The attester as a machine; it emits what each call returns. -/
def attester : Machine AttesterState AttesterCall Returned where
  step state call := ((attesterStep state call).1, [(attesterStep state call).2])

/-- The call of `sgx_initialized` that a call makes, if it makes one. -/
def AttesterCall.initialization : AttesterCall → Option (InitEnv × Option CString)
  | .init env keygenMode => some (env, keygenMode)
  | .install env _ _ _ => some (env, none)
  | .invokeWasm env _ _ _ _ _ => some (env, none)
  | .setLogLevel _ _ => none
  | .close => none

/-- The enclave exists and has a key, and the flags say so. -/
structure Usable (state : AttesterState) : Prop where
  initialized : state.initialized = true
  keyReady : state.keyReady = true
  keyed : (state.enclave.bind EnclaveInstance.keySource).isSome = true

/-- If the initialisation that the call makes reports success, it leaves a usable enclave. -/
def Truthful (state : AttesterState) (call : AttesterCall) : Prop :=
  ∀ init ∈ call.initialization, (sgxInitialized init.1 init.2 state).1 = 0 →
    Usable (sgxInitialized init.1 init.2 state).2

/-- The enclave that a call which initialises finds, if there is one, has its key. -/
def FindsKey (state : AttesterState) (call : AttesterCall) : Prop :=
  call.initialization.isSome = true → state.initialized = true → state.keyReady = true

instance (state : AttesterState) (call : AttesterCall) : Decidable (FindsKey state call) :=
  inferInstanceAs (Decidable (_ → _ → _))

/-! ## What the flags say -/

/-- There is an enclave when the first flag is set, and it has a key when the second one is. -/
structure Consistent (state : AttesterState) : Prop where
  exists_iff : state.initialized = true ↔ state.enclave.isSome = true
  keyed_iff : state.keyReady = true ↔ (state.enclave.bind EnclaveInstance.keySource).isSome = true

theorem start_consistent : Consistent .start := by
  constructor <;> simp [AttesterState.start]

theorem configureStdio_eq (state : AttesterState) :
    configureStdio state = { state with stdioConfigured := true } := by
  unfold configureStdio
  split
  · next configured => rw [← configured]
  · rfl

/-- A key that is initialised is the key of the enclave that exists by then. -/
theorem keyInitialized_spec (source : KeySource) (returned : SgxStatus × Int) {state : AttesterState}
    (consistent : Consistent state) (initialized : state.initialized = true) :
    Consistent (keyInitialized source returned state).2 ∧
      ((keyInitialized source returned state).1 = 0 → Usable (keyInitialized source returned state).2) := by
  unfold keyInitialized
  split
  · exact ⟨consistent, fun success => by cases success⟩
  · split
    · next failed => exact ⟨consistent, fun success => absurd success failed⟩
    · have created := consistent.exists_iff.mp initialized
      obtain ⟨enclave, present⟩ := Option.isSome_iff_exists.mp created
      exact ⟨⟨by simp [initialized, present], by simp [present]⟩, fun _ => ⟨initialized, rfl, by simp [present]⟩⟩

/-- A log level changes neither the flags nor the key. -/
theorem sendLogLevel_consistent (level : Int) (returned : SgxStatus) {state : AttesterState}
    (consistent : Consistent state) : Consistent (sendLogLevel level returned state) := by
  have sameKey : ((state.enclave.map fun enclave => { enclave with logLevel := some level }).bind
      EnclaveInstance.keySource) = state.enclave.bind EnclaveInstance.keySource := by
    cases state.enclave <;> rfl
  unfold sendLogLevel
  split
  · constructor
    · simpa using consistent.exists_iff
    · rw [sameKey]
      exact consistent.keyed_iff
  · exact consistent

@[simp] theorem sendLogLevel_initialized (level : Int) (returned : SgxStatus) (state : AttesterState) :
    (sendLogLevel level returned state).initialized = state.initialized := by
  unfold sendLogLevel
  split <;> rfl

@[simp] theorem sendLogLevel_keyReady (level : Int) (returned : SgxStatus) (state : AttesterState) :
    (sendLogLevel level returned state).keyReady = state.keyReady := by
  unfold sendLogLevel
  split <;> rfl

theorem initializeKey_spec (env : InitEnv) (keygenMode : Option CString) {state : AttesterState}
    (consistent : Consistent state) (initialized : state.initialized = true) (keyReady : state.keyReady = false) :
    Consistent (initializeKey env keygenMode state).2 ∧
      ((initializeKey env keygenMode state).1 = 0 → Usable (initializeKey env keygenMode state).2) := by
  simp only [initializeKey, keyReady, Bool.false_eq_true, if_false]
  generalize (if keygenMode.getD [] = [] then keygenYes else keygenMode.getD []) = mode
  split
  · exact keyInitialized_spec .generated _ consistent initialized
  · split
    · exact keyInitialized_spec .builtIn _ consistent initialized
    -- an invalid mode, with the enclave created already
    · exact ⟨consistent, fun success => by cases success⟩

theorem sgxInitialized_again (env : InitEnv) (keygenMode : Option CString) {state : AttesterState}
    (initialized : state.initialized = true) :
    sgxInitialized env keygenMode state = (0, { state with stdioConfigured := true }) := by
  simp [sgxInitialized, configureStdio_eq, initialized]

/-- The first initialisation reports success only when the enclave can be used. -/
theorem sgxInitialized_first (env : InitEnv) (keygenMode : Option CString) {state : AttesterState}
    (consistent : Consistent state) (notInitialized : state.initialized = false) :
    Consistent (sgxInitialized env keygenMode state).2 ∧
      ((sgxInitialized env keygenMode state).1 = 0 → Usable (sgxInitialized env keygenMode state).2) := by
  have noEnclave : state.enclave = none := by
    have absent := consistent.exists_iff
    simpa [notInitialized] using absent
  have keyReady : state.keyReady = false := by
    have keyed := consistent.keyed_iff
    simpa [noEnclave] using keyed
  simp only [sgxInitialized, configureStdio_eq, notInitialized, Bool.false_eq_true, if_false]
  split
  · exact ⟨⟨by simp [noEnclave], by simp [noEnclave, keyReady]⟩, fun success => by cases success⟩
  · apply initializeKey_spec
    · apply sendLogLevel_consistent
      exact ⟨by simp, by simp [keyReady]⟩
    · simp
    · simpa using keyReady

theorem sgxInitialized_consistent (env : InitEnv) (keygenMode : Option CString) {state : AttesterState}
    (consistent : Consistent state) : Consistent (sgxInitialized env keygenMode state).2 := by
  cases initialized : state.initialized with
  | true =>
    rw [sgxInitialized_again env keygenMode initialized]
    exact ⟨consistent.exists_iff, consistent.keyed_iff⟩
  | false => exact (sgxInitialized_first env keygenMode consistent initialized).1

theorem attesterInstall_state (env : InitEnv) (tamUrl appName : Option CString) (session : TeepSessionResult)
    (state : AttesterState) :
    (attesterInstall env tamUrl appName session state).2 = (sgxInitialized env none state).2 := by
  unfold attesterInstall
  grind

theorem attesterInvokeWasm_state (env : InitEnv) (wappName funcName : Option CString) (output actualLen : Bool)
    (ecall : SgxStatus × Int) (state : AttesterState) :
    (attesterInvokeWasm env wappName funcName output actualLen ecall state).2 =
      (sgxInitialized env none state).2 := by
  unfold attesterInvokeWasm
  grind

theorem attesterStep_consistent {state : AttesterState} (consistent : Consistent state) (call : AttesterCall) :
    Consistent (attesterStep state call).1 := by
  cases call with
  | init env keygenMode => exact sgxInitialized_consistent env keygenMode consistent
  | setLogLevel level ecall =>
    simp only [attesterStep, attesterSetLogLevel]
    split
    · exact consistent
    · have kept : Consistent { state with pendingEnclaveLogLevel := level } :=
        ⟨consistent.exists_iff, consistent.keyed_iff⟩
      split
      · exact sendLogLevel_consistent level ecall kept
      · exact kept
  | install env tamUrl appName session =>
    rw [attesterStep, attesterInstall_state]
    exact sgxInitialized_consistent env none consistent
  | invokeWasm env wappName funcName output actualLen ecall =>
    rw [attesterStep, attesterInvokeWasm_state]
    exact sgxInitialized_consistent env none consistent
  | close =>
    simp only [attesterStep, attesterClose]
    split
    · exact ⟨by simp, by simp⟩
    · exact consistent

/-! ## When initialisation is truthful -/

theorem truthful_iff {state : AttesterState} (consistent : Consistent state) (call : AttesterCall) :
    Truthful state call ↔ FindsKey state call := by
  cases initialization : call.initialization with
  | none => simp [Truthful, FindsKey, initialization]
  | some init =>
    simp only [Truthful, FindsKey, initialization, Option.mem_some_iff, forall_eq', Option.isSome_some,
      true_implies]
    cases initialized : state.initialized with
    | true =>
      rw [sgxInitialized_again _ _ initialized]
      simp only [true_implies]
      constructor
      · intro usable
        exact usable.keyReady
      · intro keyReady
        exact ⟨initialized, keyReady, consistent.keyed_iff.mp keyReady⟩
    | false =>
      have first := (sgxInitialized_first init.1 init.2 consistent initialized).2
      exact iff_of_true first fun found => by cases found

/-- In a run of the attester every initialisation that reports success leaves a usable enclave, if and
only if none of them finds an enclave whose key was never initialised. -/
theorem initialisation_truthful_iff (calls : List AttesterCall) :
    attester.Meets Truthful .start calls ↔ attester.Meets FindsKey .start calls := by
  have preserved : ∀ state call, Consistent state → Truthful state call →
      Consistent (attester.step state call).1 :=
    fun _ call consistent _ => attesterStep_consistent consistent call
  exact Machine.meets_congr preserved (fun _ call consistent => truthful_iff consistent call)
    start_consistent calls

/-- SGX calls that all succeed. -/
def workingInit : InitEnv := ⟨.success, .success, (.success, 0), (.success, 0)⟩

/-- `"invalid"` -/
def keygenInvalid : CString := [105, 110, 118, 97, 108, 105, 100]

/-- After an invalid mode the next initialisation reports success, with no key in the enclave. -/
theorem initialisation_withoutKey :
    (attester.run .start [.init workingInit (some keygenInvalid), .init workingInit none]).2 =
      [.code (-1), .code 0] ∧
    (attester.run .start [.init workingInit (some keygenInvalid), .init workingInit none]).1.enclave =
      some ⟨none, some tawsLogLevelInfo⟩ ∧
    ¬ attester.Meets Truthful .start [.init workingInit (some keygenInvalid), .init workingInit none] := by
  refine ⟨by decide, by decide, ?_⟩
  intro truthful
  have usable := truthful.2.1 (workingInit, none) rfl rfl
  exact absurd usable.keyReady (by decide)

end Taws.App
