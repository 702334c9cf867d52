import Taws.Device.Lifetime
import Taws.Enclave.Catalogue

/-!
# The device as a catalogue of apps

Each call of `attester_api.h` works on the enclave that it finds, or on one that it has just created, and
`attester_close` takes the enclave away with all that it has been delivered.  So the device is a catalogue that is used
in sessions, and it is empty at the start of each of them.

* `enclaveFor`, `entries` — the enclave of a call, and what the call has it do.
* `observeCall` — what a catalogue would be seen to do.
* `Resides` — the enclave of the device against the manifests that it has been delivered.
* `device_catalogue` — every run of the device is one of sessions with a catalogue.
-/

namespace Taws.Device

open App (keygenNo)
open Enclave
open TcManager
open Teep
open Wasm

variable (lib : Libraries) (teepErrCode : TeepErr → Int)

/-! ## What a call has its enclave do -/

/-- The enclave of a call; `sgx_initialized` may have created it. -/
def enclaveFor (state : DeviceState) : DeviceCall → Option KeyedEnclave
  | .init env keygenMode => (deviceInitialized lib teepErrCode env keygenMode state).2.1.enclave
  | .install env _ _ _ _ => (deviceInitialized lib teepErrCode env none state).2.1.enclave
  | .invokeWasm env _ _ _ => (deviceInitialized lib teepErrCode env none state).2.1.enclave
  | .setLogLevel _ _ => state.enclave
  | .close => state.enclave

def entries (state : DeviceState) (contents : KeyedEnclave) : DeviceCall → List EnclaveAction
  | .install env (some _) (some appName) _ exchanges =>
    if (deviceInitialized lib teepErrCode env none state).1 ≠ 0 then []
    else ecalls lib appName exchanges contents.view
  | .invokeWasm env sgxRet invoke args =>
    if (deviceInitialized lib teepErrCode env none state).1 ≠ 0 then []
    else if !invokes args || sgxRet ≠ .success then []
    else [.invokeWasm invoke args]
  | _ => []

def DeviceCall.isClose : DeviceCall → Bool
  | .close => true
  | _ => false

variable {lib teepErrCode} {state : DeviceState} {call : DeviceCall}

/-- What a call leaves is what its enclave has come to. -/
theorem deviceStep_enclave (state : DeviceState) (notClose : call.isClose = false) :
    (deviceStep lib teepErrCode state call).1.enclave =
      (enclaveFor lib teepErrCode state call).map fun contents =>
        ((keyedMachine lib).run contents ((entries lib teepErrCode state contents call).map .enclave)).1 := by
  cases call with
  | close => cases notClose
  | setLogLevel level ecall => exact Option.map_id'.symm
  | init env keygenMode => exact Option.map_id'.symm
  | install env tamUrl appName coseSend exchanges =>
    simp only [deviceStep, enclaveFor]
    split
    · next failed =>
      cases tamUrl <;> cases appName <;> simp [entries, failed]
    next ready =>
    cases there : (deviceInitialized lib teepErrCode env none state).2.1.enclave with
    | none => cases tamUrl <;> cases appName <;> simp [deviceInstall, there]
    | some contents =>
      cases tamUrl <;> cases appName <;> simp [deviceInstall, entries, enter, there, ready]
  | invokeWasm env sgxRet invoke args =>
    simp only [deviceStep, enclaveFor, entries]
    split
    · next failed => simp
    next ready =>
    cases there : (deviceInitialized lib teepErrCode env none state).2.1.enclave with
    | none => simp [deviceInvokeWasm, there]
    | some contents =>
      simp only [deviceInvokeWasm, there]
      split
      · next notMade => simp [there]
      · next made => simp [enter, there]

/-! ## Sessions with a catalogue -/

/-- The device, with what the WASM runtime of its enclave holds beside it. -/
structure Resident where
  device : DeviceState
  runtime : Option Runtime

def Resident.start : Resident := ⟨.start, some .idle⟩

/-- The enclave of a call; the runtime of one that has just been created holds nothing. -/
def Resident.catalogue (state : Resident) (contents : KeyedEnclave) : CatalogueState :=
  ⟨contents.view, if state.device.enclave.isSome then state.runtime else some .idle⟩

variable (lib teepErrCode)

def residentStep (state : Resident) (call : DeviceCall) : Resident × List Observed :=
  let stepped := deviceStep lib teepErrCode state.device call
  let runtime :=
    match enclaveFor lib teepErrCode state.device call with
    | none => state.runtime
    | some contents =>
      ((catalogueMachine lib).run (state.catalogue contents)
        (entries lib teepErrCode state.device contents call)).1.runtime
  (⟨stepped.1, runtime⟩, [stepped.2])

def residence : Machine Resident DeviceCall Observed where
  step := residentStep lib teepErrCode

/-- A call is seen to do what its enclave is seen to do, and `attester_close` empties the catalogue. -/
def observeCall (state : Resident) (call : DeviceCall) :
    Option (List (CatalogueEvent Manifest CString (CString × Bytes))) :=
  if call.isClose then none
  else
    match enclaveFor lib teepErrCode state.device call with
    | none => some []
    | some contents =>
      some ((catalogueMachine lib).observed (observe lib) (state.catalogue contents)
        (entries lib teepErrCode state.device contents call))

/-- The Updates that come in a call deliver known manifests, each of them whole or not at all. -/
def CallCooperates (known : List Manifest) (state : Resident) (call : DeviceCall) : Prop :=
  ∀ contents ∈ enclaveFor lib teepErrCode state.device call,
    (catalogueMachine lib).Meets (Cooperates known) (state.catalogue contents)
      (entries lib teepErrCode state.device contents call)

instance (known : List Manifest) (state : Resident) (call : DeviceCall) :
    Decidable (CallCooperates lib teepErrCode known state call) :=
  inferInstanceAs (Decidable (∀ contents ∈ enclaveFor lib teepErrCode state.device call, _))

/-- The enclave of the device stands for what it has been delivered; there is nothing where there is none. -/
structure Resides (known : List Manifest) (state : Resident) (history : List Manifest) : Prop where
  lives : Lives lib (fun _ => True) state.device
  gone : state.device.enclave = none → history = []
  represents : ∀ contents ∈ state.device.enclave, Represents lib known ⟨contents.view, state.runtime⟩ history

variable {lib teepErrCode} {known history : List Manifest} {resident : Resident}

theorem start_resides (lib : Libraries) (known : List Manifest) : Resides lib known .start [] where
  lives := start_lives
  gone := fun _ => rfl
  represents := by simp [Resident.start, DeviceState.start]

/-- An enclave that has only been given its key is as it was loaded, for the ECALLs of a session. -/
theorem created_view (lib : Libraries) (env : DeviceInit) (keygenMode : Option CString) :
    ∃ keyState agentKey, ((keyedMachine lib).run freshEnclave (keyActions env keygenMode)).1.view =
      initialState keyState agentKey := by
  have untouched : ((keyedMachine lib).run freshEnclave (keyActions env keygenMode)).1.enclave =
      freshEnclave.enclave := by
    unfold keyActions
    split
    · cases requestedKey keygenMode <;> rfl
    · rfl
  rw [KeyedEnclave.view, untouched]
  exact ⟨_, _, rfl⟩

/-- `sgx_initialized` keeps the enclave that there is, and may create one where there is none. -/
theorem deviceInitialized_enclave (lives : Lives lib (fun _ => True) state) (env : DeviceInit)
    (keygenMode : Option CString) {contents : KeyedEnclave}
    (there : contents ∈ (deviceInitialized lib teepErrCode env keygenMode state).2.1.enclave) :
    state.enclave = some contents ∨
      state.enclave = none ∧ contents = ((keyedMachine lib).run freshEnclave (keyActions env keygenMode)).1 := by
  cases initialized : state.host.initialized with
  | true =>
    rw [deviceInitialized_again _ _ initialized] at there
    exact .inl there
  | false =>
    have none := lives.none initialized
    simp only [deviceInitialized, initialized, Bool.false_or] at there
    split at there
    · rw [none] at there
      cases there
    · cases there
      exact .inr ⟨none, rfl⟩

/-- The enclave of a call is the one of the device, or a new one. -/
theorem enclaveFor_cases (lives : Lives lib (fun _ => True) state) {contents : KeyedEnclave}
    (there : contents ∈ enclaveFor lib teepErrCode state call) :
    state.enclave = some contents ∨
      state.enclave = none ∧ ∃ keyState agentKey, contents.view = initialState keyState agentKey := by
  have initialises : ∀ env keygenMode,
      contents ∈ (deviceInitialized lib teepErrCode env keygenMode state).2.1.enclave →
      state.enclave = some contents ∨
        state.enclave = none ∧ ∃ keyState agentKey, contents.view = initialState keyState agentKey := by
    intro env keygenMode there
    obtain kept | ⟨none, rfl⟩ := deviceInitialized_enclave lives env keygenMode there
    · exact .inl kept
    · exact .inr ⟨none, created_view lib env keygenMode⟩
  cases call with
  | init env keygenMode => exact initialises env keygenMode there
  | install env tamUrl appName coseSend exchanges => exact initialises env none there
  | invokeWasm env sgxRet invoke args => exact initialises env none there
  | setLogLevel level ecall => exact .inl there
  | close => exact .inl there

/-- The enclave of a call stands for what the device has been delivered. -/
theorem Resides.enclaveFor (resides : Resides lib known resident history) {contents : KeyedEnclave}
    (there : contents ∈ enclaveFor lib teepErrCode resident.device call) :
    Represents lib known (resident.catalogue contents) history := by
  obtain kept | ⟨none, keyState, agentKey, fresh⟩ := enclaveFor_cases resides.lives there
  · rw [Resident.catalogue, kept]
    exact resides.represents contents kept
  · rw [Resident.catalogue, none, resides.gone none, fresh]
    exact start_represents lib known keyState agentKey

/-- There is an enclave for a call on a device that has one. -/
theorem enclaveFor_none (lives : Lives lib (fun _ => True) state)
    (nothing : enclaveFor lib teepErrCode state call = none) : state.enclave = none := by
  have initialises : ∀ env keygenMode,
      (deviceInitialized lib teepErrCode env keygenMode state).2.1.enclave = none → state.enclave = none := by
    intro env keygenMode nothing
    cases initialized : state.host.initialized with
    | true => rwa [deviceInitialized_again _ _ initialized] at nothing
    | false => exact lives.none initialized
  cases call with
  | init env keygenMode => exact initialises env keygenMode nothing
  | install env tamUrl appName coseSend exchanges => exact initialises env none nothing
  | invokeWasm env sgxRet invoke args => exact initialises env none nothing
  | setLogLevel level ecall => exact nothing
  | close => exact nothing

/-! ## Runs -/

/-- What a catalogue does that is used in sessions, and that is empty when one starts. -/
abbrev DeviceSpec (lib : Libraries) :
    Spec (List Manifest) (Option (List (CatalogueEvent Manifest CString (CString × Bytes)))) :=
  Sessions (CatalogueStep (wappName lib.csuit) rank (labelOf lib.csuit)) []

theorem call_represented (sound : Sound lib) (installable : Installable lib.csuit known)
    (codes : ∀ err, teepErrCode err = 0 ↔ err = .success) (resides : Resides lib known resident history)
    (cooperates : CallCooperates lib teepErrCode known resident call) :
    ∃ next, DeviceSpec lib history (observeCall lib teepErrCode resident call) next ∧
      Resides lib known (residentStep lib teepErrCode resident call).1 next := by
  have lives : Lives lib (fun _ => True) (residentStep lib teepErrCode resident call).1.device := by
    refine deviceStep_lives codes call resides.lives ?_
    cases call <;> trivial
  cases closes : call.isClose with
  | true =>
    obtain rfl : call = .close := by
      cases call with
      | close => rfl
      | _ => cases closes
    have gone : (residentStep lib teepErrCode resident .close).1.device.enclave = none := by
      simp only [residentStep, deviceStep]
      split
      · rfl
      · next notInitialized => exact resides.lives.none (Bool.not_eq_true _ ▸ notInitialized)
    refine ⟨[], .startsAnew, lives, fun _ => rfl, ?_⟩
    rw [gone]
    rintro _ ⟨⟩
  | false =>
    have left := @deviceStep_enclave lib teepErrCode call resident.device closes
    simp only [observeCall, closes, Bool.false_eq_true, if_false]
    cases there : enclaveFor lib teepErrCode resident.device call with
    | none =>
      -- nothing is entered, and there was nothing before
      rw [there] at left
      refine ⟨history, .goesOn .nil, lives, fun _ => resides.gone (enclaveFor_none resides.lives there), ?_⟩
      intro contents isLeft
      rw [residentStep, left] at isLeft
      cases isLeft
    | some contents =>
      rw [there] at left
      obtain ⟨next, run, represents⟩ := run_represents sound installable (resides.enclaveFor there)
        (cooperates contents there)
      refine ⟨next, .goesOn run, lives, ?_, ?_⟩
      · intro none
        rw [residentStep, left] at none
        cases none
      · intro later isLeft
        rw [residentStep, left] at isLeft
        cases isLeft
        -- the ECALLs are the same with the runtime beside them and without
        have view := (enclaveRun_view lib contents (entries lib teepErrCode resident.device contents call)).2.1
        have same := catalogueRun_enclave lib (resident.catalogue contents)
          (entries lib teepErrCode resident.device contents call)
        simp only [residentStep, there]
        rw [view, ← show (resident.catalogue contents).enclave = contents.view from rfl, ← same]
        exact represents

/-- A call that the app answers with an output goes to the newest version that the device has been delivered. -/
theorem Resides.latest (sound : Sound lib) (installable : Installable lib.csuit known)
    (resides : Resides lib known resident history) (cooperates : CallCooperates lib teepErrCode known resident call)
    (notClose : call.isClose = false) {contents : KeyedEnclave}
    (there : contents ∈ Device.enclaveFor lib teepErrCode resident.device call) {env : InvokeEnv} {args : InvokeArgs}
    (invokes : entries lib teepErrCode resident.device contents call = [.invokeWasm env args])
    (ok : (ecallInvokeWasm lib.csuit env args contents.view.table contents.view.wamr).1 = .ok) :
    ∃ manifest, IsLatest (wappName lib.csuit) rank history manifest ∧ manifest ∈ known ∧
      wappName lib.csuit manifest = args.wappName.getD [] ∧
      observeCall lib teepErrCode resident call =
        some [.fetched (args.wappName.getD []) (some (labelOf lib.csuit manifest))] := by
  have represents := resides.enclaveFor there
  have limited := cooperates contents there
  rw [invokes] at limited
  obtain ⟨manifest, latest, named, fetched⟩ := invoked_latest sound installable represents limited.1 ok
  refine ⟨manifest, latest, represents.seen manifest latest.1, named, ?_⟩
  have isFor : Device.enclaveFor lib teepErrCode resident.device call = some contents := there
  simp only [observeCall, notClose, Bool.false_eq_true, if_false, isFor, invokes, Machine.observed, fetched]

/-- The runtime is beside the device; it does not change what the device does. -/
theorem residence_device (lib : Libraries) (teepErrCode : TeepErr → Int) (state : Resident) (calls : List DeviceCall) :
    ((residence lib teepErrCode).run state calls).1.device =
      ((device lib teepErrCode).run state.device calls).1 := by
  have simulates : ∀ (state : Resident) (call : DeviceCall),
      ((residence lib teepErrCode).step state call).1.device =
        ((device lib teepErrCode).step state.device call).1 := fun _ _ => rfl
  exact Machine.run_simulates simulates state calls

theorem run_resides (sound : Sound lib) (installable : Installable lib.csuit known)
    (codes : ∀ err, teepErrCode err = 0 ↔ err = .success) {calls : List DeviceCall}
    (cooperates : (residence lib teepErrCode).Meets (CallCooperates lib teepErrCode known) .start calls) :
    ∃ history, SpecRun (DeviceSpec lib) []
        ((residence lib teepErrCode).observed (observeCall lib teepErrCode) .start calls) history ∧
      Resides lib known ((residence lib teepErrCode).run .start calls).1 history := by
  have matched : ∀ state history call, Resides lib known state history →
      CallCooperates lib teepErrCode known state call →
      ∃ next, DeviceSpec lib history (observeCall lib teepErrCode state call) next ∧
        Resides lib known ((residence lib teepErrCode).step state call).1 next :=
    fun _ _ _ resides cooperates => call_represented sound installable codes resides cooperates
  exact Machine.refines matched (start_resides lib known) cooperates

/-! ## A device that is closed and opened again -/

/-- A TAM that asks, delivers the app, and has no more. -/
def delivery : List Exchange :=
  [⟨⟨true, [[1]], true, some 200⟩, .success, firstRequest⟩,
    ⟨⟨true, [[1]], true, some 200⟩, .success,
      workingMessage (.update oneManifest) .other fun _ => wholeRun (appVersion [1] 1 wasmVersion1)⟩,
    ⟨⟨true, [], true, some 204⟩, .success, firstRequest⟩]

def callApp : DeviceCall := .invokeWasm workingDevice .success versionsInvoke ⟨some [97], some [102], .null 0, true, 16, true⟩

/-- The app is installed and called, and called again in a new enclave, where there is none. -/
def reopened : List DeviceCall :=
  [.init workingDevice (some keygenNo), .install workingDevice (some [1]) (some [97]) [] delivery, callApp, .close,
    callApp]

theorem reopened_observed :
    (residence smallLibraries smallCodes).observed (observeCall smallLibraries smallCodes) .start reopened =
      [some [], some [.listed [], .delivered [appVersion [1] 1 wasmVersion1]],
        some [.fetched [97] (some ([97], (smallSha256 wasmVersion1).toList))], none, some [.absent [97]]] := by
  decide +kernel

/-! ## Runs of the device -/

/-- In every run of calls, whatever fails at any of them, whose Updates deliver known manifests, each of them whole or
not at all: what the enclaves list and what they run is what a catalogue shows that is given the same manifests, and
that `attester_close` empties; and the active records are those of the newest manifest of each app. -/
theorem device_catalogue (lib : Libraries) (sound : Sound lib) (known : List Manifest)
    (installable : Installable lib.csuit known) (teepErrCode : TeepErr → Int)
    (codes : ∀ err, teepErrCode err = 0 ↔ err = .success) (calls : List DeviceCall)
    (cooperates : (residence lib teepErrCode).Meets (CallCooperates lib teepErrCode known) .start calls) :
    ∃ history, SpecRun (DeviceSpec lib) []
        ((residence lib teepErrCode).observed (observeCall lib teepErrCode) .start calls) history ∧
      let left := ((device lib teepErrCode).run .start calls).1
      (left.enclave = none → history = []) ∧
      ∀ contents ∈ left.enclave, ∀ record, record ∈ contents.view.table.active ↔
        ∃ manifest, IsLatest (wappName lib.csuit) rank history manifest ∧ record = recordOf lib.csuit manifest := by
  obtain ⟨history, run, resides⟩ := run_resides sound installable codes cooperates
  refine ⟨history, run, ?_⟩
  intro left
  have same : ((residence lib teepErrCode).run .start calls).1.device = left :=
    residence_device lib teepErrCode .start calls
  rw [← same]
  exact ⟨resides.gone, fun contents there => (resides.represents contents there).stands.active_iff⟩

theorem device_catalogue_reopened : ∃ history, SpecRun (DeviceSpec smallLibraries) []
    [some [], some [.listed [], .delivered [appVersion [1] 1 wasmVersion1]],
      some [.fetched [97] (some ([97], (smallSha256 wasmVersion1).toList))], none, some [.absent [97]]] history ∧
    ∀ contents ∈ ((device smallLibraries smallCodes).run .start reopened).1.enclave, ∀ record,
      record ∈ contents.view.table.active ↔ ∃ manifest,
        IsLatest (wappName smallCsuit) rank history manifest ∧ record = recordOf smallCsuit manifest := by
  obtain ⟨history, run, _, records⟩ := device_catalogue smallLibraries smallLibraries_sound versions
    appVersions_installable smallCodes smallCodes_success reopened (by decide +kernel)
  rw [reopened_observed] at run
  exact ⟨history, run, records⟩

end Taws.Device
