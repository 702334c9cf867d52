import Taws.Device.Host

/-!
# The life of an enclave

The host makes one key ECALL, when it has created the enclave, and none after it: what initialises the enclave
runs only while `g_initialized` is not set.  So the enclave of a device is always one that has been loaded, has
been given its key at most once, and has processed messages and run apps since; its key never changes, and the
flag of the host says what the state of the enclave says.

* `enclaveRun_view` — what the ECALLs of a session see of the key.
* `keyResult_success` — a key ECALL reports success exactly when it leaves the key ready.
* `Lives`, `device_lives` — the life of every enclave.
-/

namespace Taws.Device

open App (SgxStatus TeepSessionResult AttesterState KeySource keygenYes keygenNo sgxInitialized Consistent)
open Enclave
open Teep
open Wasm (InvokeEnv InvokeArgs)

variable {lib : Libraries} {teepErrCode : TeepErr → Int} {state : DeviceState}

/-! ## The key of the enclave -/

/-- No ECALL but those of the key touches it. -/
theorem enclaveStep_key (lib : Libraries) (state : EnclaveState) (action : EnclaveAction) :
    (enclaveStep lib state action).1.keyState = state.keyState ∧
      (enclaveStep lib state action).1.agentKey = state.agentKey := by
  cases action with
  | invokeWasm env args => exact ⟨rfl, rfl⟩
  | processMessage env args =>
    have exit := ecallProcessMessage_exit lib env args state
    simp only [enclaveStep]
    generalize ecallProcessMessage lib env args state = outcome at exit
    cases exit with
    | refused nothing => exact ⟨rfl, rfl⟩
    | early received waiting => exact ⟨rfl, rfl⟩
    | query received => exact ⟨rfl, rfl⟩
    | update received expected => exact ⟨rfl, rfl⟩

/-- The keyed enclave takes the actions as the enclave does that has the same key. -/
theorem enclaveRun_view (lib : Libraries) (contents : KeyedEnclave) (actions : List EnclaveAction) :
    let ran := (keyedMachine lib).run contents (actions.map .enclave)
    ran.1.keys = contents.keys ∧ ran.1.view = ((enclaveMachine lib).run contents.view actions).1 ∧
      ran.2 = ((enclaveMachine lib).run contents.view actions).2.map .inr := by
  induction actions generalizing contents with
  | nil => exact ⟨rfl, rfl, rfl⟩
  | cons action actions inductionHypothesis =>
    obtain ⟨keyState, agentKey⟩ := enclaveStep_key lib contents.view action
    have next : ((keyedMachine lib).step contents (.enclave action)).1.view =
        ((enclaveMachine lib).step contents.view action).1 := by
      show { (enclaveStep lib contents.view action).1 with
        keyState := contents.keys.keyState, agentKey := contents.keys.agentKey } = _
      rw [show contents.keys.keyState = contents.view.keyState from rfl,
        show contents.keys.agentKey = contents.view.agentKey from rfl, ← keyState, ← agentKey]
      rfl
    obtain ⟨keys, view, events⟩ := inductionHypothesis ((keyedMachine lib).step contents (.enclave action)).1
    rw [next] at view events
    refine ⟨keys, view, ?_⟩
    rw [List.map_cons, Machine.run_cons, Machine.run_cons, List.map_append, events]
    rfl

/-! ## Key ECALLs -/

theorem finishKey_success {qcbor : Qcbor} {env : KeyEnv} {store : KeyStore}
    (success : (finishKey qcbor env store).result = .success) :
    (finishKey qcbor env store).store.keyState = .ready := by
  simp only [finishKey] at success ⊢
  split at success
  · next hashFailed => exact absurd success hashFailed
  next hashed =>
  rw [if_neg hashed]
  split at success
  · next tamFailed => exact absurd success tamFailed
  · next tamSet => rw [if_neg tamSet]

theorem generateErr_not_ready (outcome : KeyOutcome) : (generateErr outcome).store.keyState ≠ .ready := by
  rw [generateErr_keyState]
  decide

theorem generate_success (qcbor : Qcbor) (openssl : OpensslEnv) (env : KeyEnv) (store : KeyStore) :
    (ecallTeepGenerateEsp256KeyPair qcbor openssl env store).result = .success ↔
      (ecallTeepGenerateEsp256KeyPair qcbor openssl env store).store.keyState = .ready := by
  simp only [ecallTeepGenerateEsp256KeyPair]
  split
  · exact iff_of_false (by simp [generateErr]) (generateErr_not_ready _)
  split
  · next refused => exact iff_of_false refused (generateErr_not_ready _)
  split
  · next failed => exact iff_of_false failed (generateErr_not_ready _)
  · next finished =>
    have success := not_not.mp finished
    exact iff_of_true success (finishKey_success success)

theorem set_success (qcbor : Qcbor) (env : KeyEnv) (store : KeyStore) :
    (ecallTeepSetEsp256Key qcbor env store).result = .success ↔
      (ecallTeepSetEsp256Key qcbor env store).store.keyState = .ready := by
  simp only [ecallTeepSetEsp256Key]
  split
  · next refused => exact iff_of_false refused (by simp [initBuiltIn])
  · constructor
    · exact finishKey_success
    · intro ready
      by_contra failed
      have kept := finishKey_keyState failed
      exact absurd (ready.symm.trans kept) (by simp [initBuiltIn])

/-- A key ECALL reports success exactly when it leaves the key ready. -/
theorem keyResult_success (qcbor : Qcbor) (env : DeviceInit) (source : KeySource) (store : KeyStore) :
    keyResult qcbor store (keyCall env source) = .success ↔
      (keyStep qcbor store (keyCall env source)).1.keyState = .ready := by
  cases source with
  | generated => exact generate_success qcbor env.openssl env.key store
  | builtIn => exact set_success qcbor env.key store

/-! ## Initialisation -/

theorem initializeKey_eq (env : App.InitEnv) (keygenMode : Option CString) {state : AttesterState}
    (notReady : state.keyReady = false) :
    App.initializeKey env keygenMode state =
      match requestedKey keygenMode with
      | some .generated => App.keyInitialized .generated env.ecallTeepGenerateEsp256KeyPair state
      | some .builtIn => App.keyInitialized .builtIn env.ecallTeepSetEsp256Key state
      | none => (-1, state) := by
  simp only [App.initializeKey, requestedKey, notReady, Bool.false_eq_true, if_false]
  generalize (if keygenMode.getD [] = [] then keygenYes else keygenMode.getD []) = mode
  by_cases generated : mode = keygenYes
  · rw [if_pos generated, if_pos generated]
  · rw [if_neg generated, if_neg generated]
    by_cases builtIn : mode = keygenNo
    · rw [if_pos builtIn, if_pos builtIn]
    · rw [if_neg builtIn, if_neg builtIn]

theorem keyInitialized_keyReady (source : KeySource) (returned : SgxStatus × Int) {state : AttesterState}
    (notReady : state.keyReady = false) :
    (App.keyInitialized source returned state).2.keyReady = true ↔ returned.1 = .success ∧ returned.2 = 0 := by
  unfold App.keyInitialized
  split
  · next failed => simp [notReady, failed]
  · next entered =>
    split
    · next failed => simp [notReady, failed]
    · next success => simp [not_not.mp entered, not_not.mp success]

/-- The flag of the host after the first initialisation. -/
theorem initializeKey_keyReady (env : DeviceInit) (keygenMode : Option CString) {state : AttesterState}
    (notReady : state.keyReady = false) :
    (App.initializeKey (hostInit lib teepErrCode env) keygenMode state).2.keyReady = true ↔
      env.ecallKey = .success ∧ ∃ source, requestedKey keygenMode = some source ∧
        teepErrCode (keyResult lib.qcbor initialKeys (keyCall env source)) = 0 := by
  rw [initializeKey_eq _ _ notReady]
  cases requested : requestedKey keygenMode with
  | none => simp [notReady]
  | some source =>
    cases source with
    | generated => simp [keyInitialized_keyReady _ _ notReady, hostInit]
    | builtIn => simp [keyInitialized_keyReady _ _ notReady, hostInit]

theorem initializeKey_initialized (env : App.InitEnv) (keygenMode : Option CString) (state : AttesterState) :
    (App.initializeKey env keygenMode state).2.initialized = state.initialized := by
  simp only [App.initializeKey, App.keyInitialized]
  repeat' split
  all_goals rfl

/-- On a device that is initialised `sgx_initialized` leaves the enclave alone. -/
theorem deviceInitialized_again (env : DeviceInit) (keygenMode : Option CString)
    (initialized : state.host.initialized = true) :
    deviceInitialized lib teepErrCode env keygenMode state =
      (0, { state with host := { state.host with stdioConfigured := true } }, []) := by
  have already : (state.host.initialized || decide (env.sgxCreateEnclave ≠ .success)) = true := by
    rw [initialized, Bool.true_or]
  rw [deviceInitialized, if_pos already, App.sgxInitialized_again _ _ initialized]

theorem sgxInitialized_created (env : App.InitEnv) (keygenMode : Option CString) {state : AttesterState}
    (notInitialized : state.initialized = false) (created : env.sgxCreateEnclave = .success)
    (notReady : state.keyReady = false) :
    ∃ prepared : AttesterState, prepared.keyReady = false ∧ prepared.initialized = true ∧
      sgxInitialized env keygenMode state = App.initializeKey env keygenMode prepared := by
  simp only [sgxInitialized, App.configureStdio_eq, notInitialized, created, Bool.false_eq_true, if_false,
    ne_eq, not_true_eq_false]
  exact ⟨_, by simp [notReady], by simp, rfl⟩

/-! ## Lives -/

/-- What is assumed of the libraries in the key ECALL that a call makes. -/
def DeviceCall.Allowed (allowed : KeyEnv → Prop) : DeviceCall → Prop
  | .init env _ => allowed env.key
  | .install env _ _ _ _ => allowed env.key
  | .invokeWasm env _ _ _ => allowed env.key
  | .setLogLevel _ _ => True
  | .close => True

/-- The enclave has been loaded, given its key and has taken the actions since. -/
structure Life (lib : Libraries) (allowed : KeyEnv → Prop) (contents : KeyedEnclave) (env : DeviceInit)
    (keygenMode : Option CString) (actions : List EnclaveAction) : Prop where
  allowed : allowed env.key
  run : contents =
    ((keyedMachine lib).run freshEnclave (keyActions env keygenMode ++ actions.map .enclave)).1
  keys : contents.keys = ((keyedMachine lib).run freshEnclave (keyActions env keygenMode)).1.keys

structure Lives (lib : Libraries) (allowed : KeyEnv → Prop) (state : DeviceState) : Prop where
  consistent : Consistent state.host
  exists_iff : state.enclave.isSome = true ↔ state.host.initialized = true
  life : ∀ contents ∈ state.enclave, ∃ env keygenMode actions, Life lib allowed contents env keygenMode actions
  agree : ∀ contents ∈ state.enclave, state.host.keyReady = true ↔ contents.keys.keyState = .ready

variable {allowed : KeyEnv → Prop}

theorem start_lives : Lives lib allowed .start where
  consistent := App.start_consistent
  exists_iff := by simp [DeviceState.start, AttesterState.start]
  life := by simp [DeviceState.start]
  agree := by simp [DeviceState.start]

theorem Lives.none (lives : Lives lib allowed state) (notInitialized : state.host.initialized = false) :
    state.enclave = none := by
  have absent := lives.exists_iff
  simpa [notInitialized] using absent

theorem Lives.not_keyReady (lives : Lives lib allowed state) (notInitialized : state.host.initialized = false) :
    state.host.keyReady = false := by
  have noEnclave : state.host.enclave = .none := by
    have absent := lives.consistent.exists_iff
    simpa [notInitialized] using absent
  have keyed := lives.consistent.keyed_iff
  simpa [noEnclave] using keyed

/-- A change of the host that leaves the flags alone. -/
theorem Lives.host {host : AttesterState} (lives : Lives lib allowed state) (consistent : Consistent host)
    (initialized : host.initialized = state.host.initialized) (keyReady : host.keyReady = state.host.keyReady) :
    Lives lib allowed { state with host := host } where
  consistent := consistent
  exists_iff := by rw [initialized]; exact lives.exists_iff
  life := lives.life
  agree := by rw [keyReady]; exact lives.agree

/-- The enclave that has just been created has the key that the host thinks it has. -/
theorem created_agree (env : DeviceInit) (keygenMode : Option CString)
    (codes : ∀ err, teepErrCode err = 0 ↔ err = .success) {prepared : AttesterState}
    (notReady : prepared.keyReady = false) :
    (App.initializeKey (hostInit lib teepErrCode env) keygenMode prepared).2.keyReady = true ↔
      ((keyedMachine lib).run freshEnclave (keyActions env keygenMode)).1.keys.keyState = .ready := by
  rw [initializeKey_keyReady env keygenMode notReady]
  unfold keyActions
  by_cases entered : env.ecallKey = .success
  · rw [if_pos entered]
    cases requested : requestedKey keygenMode with
    | none => simp [freshEnclave, initialKeys]
    | some source =>
      have ran : ((keyedMachine lib).run freshEnclave
          ((some source).toList.map fun source => .key (keyCall env source))).1.keys =
          (keyStep lib.qcbor initialKeys (keyCall env source)).1 := rfl
      rw [ran, ← keyResult_success, ← codes]
      simp [entered]
  · rw [if_neg entered]
    exact iff_of_false (fun ready => entered ready.1) (by simp [freshEnclave, initialKeys])

theorem deviceInitialized_lives (codes : ∀ err, teepErrCode err = 0 ↔ err = .success) (env : DeviceInit)
    (keygenMode : Option CString) (lives : Lives lib allowed state) (permitted : allowed env.key) :
    Lives lib allowed (deviceInitialized lib teepErrCode env keygenMode state).2.1 := by
  have consistent := App.sgxInitialized_consistent (hostInit lib teepErrCode env) keygenMode lives.consistent
  unfold deviceInitialized
  cases initialized : state.host.initialized with
  | true =>
    rw [Bool.true_or, if_pos rfl]
    rw [App.sgxInitialized_again _ _ initialized] at consistent ⊢
    exact lives.host consistent rfl rfl
  | false =>
    rw [Bool.false_or]
    by_cases created : env.sgxCreateEnclave = .success
    · rw [if_neg (by simpa using created)]
      obtain ⟨prepared, notReady, isInitialized, same⟩ := sgxInitialized_created (hostInit lib teepErrCode env)
        keygenMode initialized created (lives.not_keyReady initialized)
      rw [same] at consistent ⊢
      refine ⟨consistent, by simp [initializeKey_initialized, isInitialized], ?_, ?_⟩
      · intro contents same
        cases same
        exact ⟨env, keygenMode, [], ⟨permitted, by rw [List.map_nil, List.append_nil], rfl⟩⟩
      · intro contents same
        cases same
        exact created_agree env keygenMode codes notReady
    · rw [if_pos (by simpa using created)]
      have failed : sgxInitialized (hostInit lib teepErrCode env) keygenMode state.host =
          (-1, App.configureStdio state.host) := by
        simp [sgxInitialized, App.configureStdio_eq, initialized, hostInit, created]
      rw [failed] at consistent ⊢
      rw [App.configureStdio_eq] at consistent ⊢
      exact lives.host consistent rfl rfl

/-- The enclave goes on living. -/
theorem enter_lives (actions : KeyedEnclave → List EnclaveAction) (lives : Lives lib allowed state) :
    Lives lib allowed (enter lib actions state).1 := by
  unfold enter
  cases there : state.enclave with
  | none => exact lives
  | some contents =>
    obtain ⟨keys, _, _⟩ := enclaveRun_view lib contents (actions contents)
    obtain ⟨env, keygenMode, done, life⟩ := lives.life contents there
    refine ⟨lives.consistent, ?_, ?_, ?_⟩
    · rw [← lives.exists_iff, there]
      rfl
    · intro later same
      cases same
      refine ⟨env, keygenMode, done ++ actions contents, ⟨life.allowed, ?_, keys.trans life.keys⟩⟩
      rw [List.map_append, ← List.append_assoc, Machine.run_append, ← life.run]
    · intro later same
      cases same
      rw [keys]
      exact lives.agree contents there

theorem deviceInstall_lives (tamUrl appName : Option CString) (coseSend : Bytes) (exchanges : List Exchange)
    (lives : Lives lib allowed state) :
    Lives lib allowed (deviceInstall lib tamUrl appName coseSend exchanges state).1 := by
  unfold deviceInstall
  split
  · exact enter_lives _ lives
  · exact lives

theorem deviceInvokeWasm_lives (sgxRet : SgxStatus) (invoke : InvokeEnv) (args : InvokeArgs)
    (lives : Lives lib allowed state) :
    Lives lib allowed (deviceInvokeWasm lib sgxRet invoke args state).1 := by
  unfold deviceInvokeWasm
  split
  · exact lives
  · split
    · exact lives
    · exact enter_lives _ lives

theorem deviceStep_lives (codes : ∀ err, teepErrCode err = 0 ↔ err = .success) (call : DeviceCall)
    (lives : Lives lib allowed state) (permitted : call.Allowed allowed) :
    Lives lib allowed (deviceStep lib teepErrCode state call).1 := by
  cases call with
  | init env keygenMode => exact deviceInitialized_lives codes env keygenMode lives permitted
  | setLogLevel level ecall =>
    have consistent := App.attesterStep_consistent lives.consistent (.setLogLevel level ecall)
    simp only [deviceStep, App.attesterStep, App.attesterSetLogLevel] at consistent ⊢
    split
    · next refused =>
      rw [if_pos refused] at consistent
      exact lives.host consistent rfl rfl
    · next accepted =>
      rw [if_neg accepted] at consistent
      split
      · next initialized =>
        rw [if_pos initialized] at consistent
        exact lives.host consistent (App.sendLogLevel_initialized _ _ _) (App.sendLogLevel_keyReady _ _ _)
      · next notInitialized =>
        rw [if_neg notInitialized] at consistent
        exact lives.host consistent rfl rfl
  | install env tamUrl appName coseSend exchanges =>
    have initialised := deviceInitialized_lives codes env none lives permitted
    simp only [deviceStep]
    split
    · exact initialised
    · exact deviceInstall_lives tamUrl appName coseSend exchanges initialised
  | invokeWasm env sgxRet invoke args =>
    have initialised := deviceInitialized_lives codes env none lives permitted
    simp only [deviceStep]
    split
    · exact initialised
    · exact deviceInvokeWasm_lives sgxRet invoke args initialised
  | close =>
    have consistent := App.attesterStep_consistent lives.consistent .close
    simp only [deviceStep, App.attesterStep, App.attesterClose] at consistent ⊢
    split
    · next initialized =>
      rw [if_pos initialized] at consistent
      exact ⟨consistent, by simp, by simp, by simp⟩
    · exact lives

theorem device_run_lives (codes : ∀ err, teepErrCode err = 0 ↔ err = .success) {calls : List DeviceCall}
    (permitted : ∀ call ∈ calls, call.Allowed allowed) :
    Lives lib allowed ((device lib teepErrCode).run .start calls).1 := by
  have meets : (device lib teepErrCode).Meets (fun _ call => call.Allowed allowed) .start calls :=
    ((device lib teepErrCode).meets_const _ _ _).mpr permitted
  have preserved : ∀ (state : DeviceState) (call : DeviceCall), Lives lib allowed state → call.Allowed allowed →
      Lives lib allowed ((device lib teepErrCode).step state call).1 :=
    fun _ call lives permitted => deviceStep_lives codes call lives permitted
  exact meets.run_invariant preserved start_lives

/-- In every run of calls, whatever fails at any of them: there is an enclave exactly when the host says so; it
is one that has been loaded, has been given its key by at most one ECALL, the first that it took, and has been
through ECALLs that leave the key alone since, nothing of an enclave that was closed before; and
`g_key_ready` of the host agrees with `g_key_state` of the enclave. -/
theorem device_lives (lib : Libraries) (teepErrCode : TeepErr → Int)
    (codes : ∀ err, teepErrCode err = 0 ↔ err = .success) (calls : List DeviceCall) :
    let state := ((device lib teepErrCode).run .start calls).1
    (state.enclave.isSome = true ↔ state.host.initialized = true) ∧
    ∀ contents ∈ state.enclave,
      (state.host.keyReady = true ↔ contents.keys.keyState = .ready) ∧
      ∃ (env : DeviceInit) (keygenMode : Option CString) (actions : List EnclaveAction),
        contents = ((keyedMachine lib).run freshEnclave (keyActions env keygenMode ++ actions.map .enclave)).1 ∧
        (keyActions env keygenMode).length ≤ 1 ∧
        contents.keys = ((keyedMachine lib).run freshEnclave (keyActions env keygenMode)).1.keys := by
  intro state
  have permitted : ∀ call ∈ calls, call.Allowed fun _ => True := by
    intro call member
    cases call <;> trivial
  have lives : Lives lib (fun _ => True) state := device_run_lives codes permitted
  refine ⟨lives.exists_iff, ?_⟩
  intro contents there
  obtain ⟨env, keygenMode, actions, life⟩ := lives.life contents there
  refine ⟨lives.agree contents there, env, keygenMode, actions, life.run, ?_, life.keys⟩
  unfold keyActions
  split
  · cases requestedKey keygenMode <;> simp
  · simp

/-- 0 for success, and 1 for every failure. -/
def smallCodes (err : TeepErr) : Int := if err = .success then 0 else 1

theorem smallCodes_success (err : TeepErr) : smallCodes err = 0 ↔ err = .success := by
  unfold smallCodes
  split <;> simp [*]

/-- SGX and libraries that work. -/
def workingDevice : DeviceInit := ⟨.success, .success, .success, workingOpenssl, workingKeyEnv⟩

theorem device_lives_installed :
    let state := ((device smallLibraries smallCodes).run .start
      [.init workingDevice (some keygenNo), .install workingDevice (some [1]) (some [97]) [] firstSession]).1
    state.host.keyReady = true ∧ ∀ contents ∈ state.enclave, contents.keys.keyState = .ready := by
  intro state
  have ready : state.host.keyReady = true := by decide +kernel
  refine ⟨ready, ?_⟩
  intro contents there
  exact ((device_lives smallLibraries smallCodes smallCodes_success _).2 contents there).1.mp ready

end Taws.Device
