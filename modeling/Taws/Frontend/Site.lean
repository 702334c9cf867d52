import Taws.Device.Catalogue
import Taws.Frontend.Routing

/-!
# The web server on its device

The server calls the attester, the attester enters the enclave, and what the enclave leaves goes back to the
browser.  A call takes effect when it returns; what comes of calls that overlap, with the plain flags of the
host and the one TCS of the enclave, is left open.

* `Site`, `World` — the server with its device, and what the outside world does in a call.
* `siteStep`, `site` — the goroutines of the server, and the calls that they make.
* `siteCall_invoked`, `siteCall_output`, `siteCall_installed` — what a return of the device says.
* `SiteInvariant` — where the answers that are on their way come from.
* `browsers_told` — what a browser is shown is what has happened in the enclave.
-/

namespace Taws.Frontend

open App (SgxStatus TeepSessionResult Returned)
open Device
open Enclave
open TcManager
open Teep
open Wasm (EcallWasmResult InvokeEnv InvokeArgs ValidMalloc OutputContract ecallInvokeWasm ecallInvokeWasm_ok ensureWamrRunning
  outputs runFunction)

/-! ## Calls -/

structure Site where
  server : Server
  device : DeviceState

def Site.start : Site := ⟨.start, .start⟩

/-- What SGX, the TAM, the runtime and the libraries do in a call, and whether `make` comes back with a buffer for its
output; `overlap` is what comes of the call, and the device after it, if another call overlaps. -/
structure World where
  makes : Bool
  init : DeviceInit
  ecallSetLogLevel : SgxStatus
  coseSend : Bytes
  exchanges : List Exchange
  sgxRet : SgxStatus
  invoke : InvokeEnv
  overlap : AttesterReturn × DeviceState

/-- The arguments that the bridge passes; there is no pointer for an empty input. -/
def invokeArgs (wappName funcName : CString) (input : Bytes) (outputLen : Nat) : InvokeArgs where
  wappName := some wappName
  funcName := some funcName
  input := if input.length > 0 then .bytes input else .null 0
  output := true
  outputLen := outputLen
  actualLen := true

def World.call (world : World) : AttesterCall → DeviceCall
  | .setLogLevel level => .setLogLevel level world.ecallSetLogLevel
  | .init keygenMode => .init world.init keygenMode
  | .install tamUrl appName => .install world.init (some tamUrl) (some appName) world.coseSend world.exchanges
  | .invokeWasm wappName funcName input outputLen =>
    .invokeWasm world.init world.sgxRet world.invoke (invokeArgs wappName funcName input outputLen)

def attesterReturn (observed : Observed) : Returned → AttesterReturn
  | .code value => ⟨value, .ok, observed.output, observed.actualLen⟩
  | .session result => ⟨0, result, [], 0⟩
  | .nothing => ⟨0, .ok, [], 0⟩

variable (lib : Libraries) (teepErrCode : TeepErr → Int)

/-- The return of a call and the device after it, `none` where the exchanges do not end the session. -/
def siteCall (call : AttesterCall) (world : World) (device : DeviceState) : Option (AttesterReturn × DeviceState) :=
  let stepped := deviceStep lib teepErrCode device (world.call call)
  stepped.2.returned.map fun returned => (attesterReturn stepped.2 returned, stepped.1)

/-! ## Steps -/

inductive SiteEvent where
  /-- A call has returned; `device` is the device on which it was made. -/
  | called (goroutine : Goroutine) (call : AttesterCall) (world : World) (device : DeviceState)
  | overlapped (goroutine : Goroutine)
  | web (event : WebEvent)

inductive SiteAction where
  | request (request : Request)
  | step (goroutine : Goroutine) (world : World)

variable (cfg : ServerConfig)

/-- Another goroutine is inside a call as well. -/
def Server.overlaps (server : Server) (goroutine : Goroutine) : Bool :=
  (.worker :: (List.range server.handlers.length).map .handler).any fun other =>
    other ≠ goroutine && (server.place cfg other).call.isSome

/-- Nothing, where no call returns. -/
def noReturn : AttesterReturn := ⟨0, .ok, [], 0⟩

/-- The step of the server, with what the call of the goroutine returns. -/
def Site.moves (site : Site) (goroutine : Goroutine) (env : StepEnv) (device : DeviceState)
    (events : List SiteEvent) : Site × List SiteEvent :=
  (⟨serverStep cfg site.server (.step goroutine env), device⟩,
    events ++ (webEvents cfg site.server (.step goroutine env)).map .web)

/-- After a panic there is no process any more that could make a call. -/
def siteStep (site : Site) (action : SiteAction) : Site × List SiteEvent :=
  if site.server.worker = .panicked then (site, [])
  else
    match action with
    | .request request => ({ site with server := serverStep cfg site.server (.request request) }, [])
    | .step goroutine world =>
      match (site.server.place cfg goroutine).call with
      | none => site.moves cfg goroutine ⟨world.makes, noReturn⟩ site.device []
      | some call =>
        if site.server.overlaps cfg goroutine then
          site.moves cfg goroutine ⟨world.makes, world.overlap.1⟩ world.overlap.2 [.overlapped goroutine]
        else
          match siteCall lib teepErrCode call world site.device with
          | none => (site, [])
          | some (returned, device) =>
            site.moves cfg goroutine ⟨world.makes, returned⟩ device [.called goroutine call world site.device]

def site : Machine Site SiteAction SiteEvent where
  step := siteStep lib teepErrCode cfg

/-- The step of the server, apart from what is returned. -/
def SiteAction.onServer : SiteAction → Action
  | .request incoming => .request incoming
  | .step goroutine world => .step goroutine ⟨world.makes, noReturn⟩

/-! ## Returns of the device -/

variable {lib teepErrCode cfg}

theorem ecallWasmResultCode_zero {result : EcallWasmResult} : ecallWasmResultCode result = 0 ↔ result = .ok := by
  cases result <;> simp [ecallWasmResultCode]

/-- The enclave on which a call is made after `sgx_initialized`. -/
def enclaveOf (lib : Libraries) (teepErrCode : TeepErr → Int) (world : World) (device : DeviceState) :
    Option EnclaveState :=
  (deviceInitialized lib teepErrCode world.init none device).2.1.enclave.map KeyedEnclave.view

/-- A successful `attester_invoke_wasm` has run the app in the enclave. -/
theorem siteCall_invoked {wappName funcName : CString} {input : Bytes} {outputLen : Nat} {world : World}
    {device after : DeviceState} {returned : AttesterReturn}
    (called : siteCall lib teepErrCode (.invokeWasm wappName funcName input outputLen) world device =
      some (returned, after)) (success : returned.ret = 0) :
    ∃ enclave ∈ enclaveOf lib teepErrCode world device,
      let args := invokeArgs wappName funcName input outputLen
      let invoked := ecallInvokeWasm lib.csuit world.invoke args enclave.table enclave.wamr
      invoked.1 = .ok ∧ returned.actual = invoked.2.1 ∧ returned.out = outputBuffer args invoked.2.2.2 := by
  simp only [siteCall, World.call, deviceStep, enclaveOf] at called ⊢
  generalize deviceInitialized lib teepErrCode world.init none device = initialised at called ⊢
  split at called
  · next failed =>
    cases called
    exact absurd success failed
  simp only [deviceInvokeWasm] at called
  split at called
  · cases called
    cases success
  next contents there =>
  split at called
  · cases called
    cases success
  · cases called
    exact ⟨contents.view, by rw [there]; rfl, ecallWasmResultCode_zero.mp success, rfl, rfl⟩

/-- A session that has ended well, or with an activation, is one with the enclave. -/
theorem siteCall_installed {tamUrl appName : CString} {world : World} {device after : DeviceState}
    {returned : AttesterReturn}
    (called : siteCall lib teepErrCode (.install tamUrl appName) world device = some (returned, after))
    (notFatal : returned.session ≠ .fatal) :
    ∃ enclave ∈ enclaveOf lib teepErrCode world device,
      (session lib appName world.coseSend world.exchanges enclave).result = some returned.session := by
  simp only [siteCall, World.call, deviceStep, enclaveOf] at called ⊢
  generalize deviceInitialized lib teepErrCode world.init none device = initialised at called ⊢
  split at called
  · cases called
    exact absurd rfl notFatal
  cases there : initialised.2.1.enclave with
  | none =>
    simp only [deviceInstall, there] at called
    cases called
    exact absurd rfl notFatal
  | some contents =>
    simp only [deviceInstall, there] at called
    obtain ⟨value, returns, same⟩ := Option.map_eq_some_iff.mp called
    obtain ⟨result, ended, rfl⟩ := Option.map_eq_some_iff.mp returns
    cases same
    exact ⟨contents.view, rfl, ended⟩

/-- The record that the enclave runs for an app. -/
def HasApp (table : RecordTable) (wappName : CString) : Prop :=
  ∃ record, tcManagerFindRecordByWappname table (some wappName) = some record ∧ record.wappBin.isNullOrEmpty = false

theorem ensureWamrRunning_installed {csuit : Libcsuit} {env : Wasm.EnsureEnv} {wappName : CString}
    {table : RecordTable} {wamr : Wasm.WamrState}
    (ok : (ensureWamrRunning csuit env (some wappName) table wamr).1 = .ok) : HasApp table wappName := by
  simp only [ensureWamrRunning] at ok
  split at ok
  · cases ok
  split at ok
  · cases ok
  next record found =>
  split at ok
  · cases ok
  · next full => exact ⟨record, found, Bool.not_eq_true _ ▸ full⟩

/-- A call that succeeds has run an app that is installed and has written one output, which fits. -/
theorem ecallInvokeWasm_output {csuit : Libcsuit} {env : InvokeEnv} {args : InvokeArgs} {wappName : CString}
    {table : RecordTable} {wamr : Wasm.WamrState} (valid : ValidMalloc env args)
    (named : args.wappName = some wappName) (ok : (ecallInvokeWasm csuit env args table wamr).1 = .ok) :
    let invoked := ecallInvokeWasm csuit env args table wamr
    HasApp table wappName ∧ invoked.2.1 ≤ args.outputLen ∧
      ∃ output, outputs invoked.2.2.2 = [output] ∧ output.length = invoked.2.1 := by
  obtain ⟨funcName, running, events, ensured, ran, invoked⟩ := ecallInvokeWasm_ok rfl ok
  have quiet := (Wasm.ensureWamrRunning_modulesOnly csuit env.ensure args.wappName table wamr).quiet
  rw [ensured] at quiet
  obtain ⟨_, _, _, _, block, _, _, _, _, bound, written, length⟩ := (Wasm.runFunction_contract valid funcName).ok ran
  refine ⟨ensureWamrRunning_installed (named ▸ congrArg Prod.fst ensured), ?_⟩
  rw [invoked, Wasm.outputs_append, quiet.1, List.nil_append]
  exact ⟨Nat.le_trans bound (Nat.min_le_left _ _), _, written, length⟩

theorem outputBuffer_take {args : InvokeArgs} {events : List Event} {output : Bytes}
    (written : outputs events = [output]) : (outputBuffer args events).take output.length = output := by
  simp [outputBuffer, written]

/-- What is in the buffer after a call that succeeds is what the app has written; it fits. -/
theorem siteCall_output {wappName funcName : CString} {input : Bytes} {outputLen : Nat} {world : World}
    {device after : DeviceState} {returned : AttesterReturn} (valid : ∀ args, ValidMalloc world.invoke args)
    (called : siteCall lib teepErrCode (.invokeWasm wappName funcName input outputLen) world device =
      some (returned, after)) (success : returned.ret = 0) :
    returned.actual ≤ outputLen ∧
      ∃ enclave ∈ enclaveOf lib teepErrCode world device, HasApp enclave.table wappName ∧
        let args := invokeArgs wappName funcName input outputLen
        let invoked := ecallInvokeWasm lib.csuit world.invoke args enclave.table enclave.wamr
        invoked.1 = .ok ∧ outputs invoked.2.2.2 = [returned.out.take returned.actual] := by
  obtain ⟨enclave, exists_, ok, actual, out⟩ := siteCall_invoked called success
  obtain ⟨installed, bound, written, writes, length⟩ := ecallInvokeWasm_output (valid _) rfl ok
  refine ⟨actual ▸ bound, enclave, exists_, installed, ok, ?_⟩
  rw [writes, out, actual, ← length, outputBuffer_take writes]

/-! ## Where answers come from -/

/-- A text that a `/teep` handler is about to send or has sent. -/
def TeepState.text : TeepState → Option String
  | .unlocks (.text body) => some body
  | .done (.text body) => some body
  | _ => none

def Handler.teep? : Handler → Option TeepState
  | .teep state => some state
  | .detect _ _ => none

def webEventsOf (events : List SiteEvent) : List WebEvent :=
  events.filterMap fun
    | .web event => some event
    | _ => none

/-- The call has been made alone, with this return. -/
def Called (lib : Libraries) (teepErrCode : TeepErr → Int) (events : List SiteEvent) (goroutine : Goroutine)
    (call : AttesterCall) (returned : AttesterReturn) : Prop :=
  ∃ world device after, .called goroutine call world device ∈ events ∧
    siteCall lib teepErrCode call world device = some (returned, after)

/-- The runtime has kept its promises in the calls that have been made alone. -/
def ValidCalls (events : List SiteEvent) : Prop :=
  ∀ goroutine call world device, .called goroutine call world device ∈ events → ∀ args, ValidMalloc world.invoke args

structure SiteInvariant (lib : Libraries) (teepErrCode : TeepErr → Int) (cfg : ServerConfig)
    (events : List SiteEvent) (site : Site) : Prop where
  base : ServerInvariant cfg site.server
  requests : RequestInvariant site.server
  serialised : Serialised cfg site.server
  logged : Logged cfg (webEventsOf events) site.server
  invoked : ∀ req returned, .invoked req returned ∈ webEventsOf events →
    Called lib teepErrCode events .worker
      (.invokeWasm cfg.wappName cfg.funcName req.input cfg.maxOut.toNat) returned
  told : ∀ (id : Nat) (state : TeepState) (body : String), site.server.handlers[id]? = some (.teep state) →
    state.text = some body → ∃ returned,
      Called lib teepErrCode events (.handler id) (.install cfg.tamURL cfg.wappName) returned ∧
      teepResponse (runInstallSession returned) = .text body
  valid : ValidCalls events

theorem start_site (lib : Libraries) (teepErrCode : TeepErr → Int) (cfg : ServerConfig) :
    SiteInvariant lib teepErrCode cfg [] .start where
  base := start_invariant
  requests := start_requests
  serialised := start_serialised
  logged := start_logged cfg
  invoked := fun _ _ member => nomatch member
  told := fun _ _ _ there => nomatch there
  valid := fun _ _ _ _ member => nomatch member

variable {events : List SiteEvent} {state : Site}

theorem Called.mono {goroutine : Goroutine} {call : AttesterCall} {returned : AttesterReturn}
    (called : Called lib teepErrCode events goroutine call returned) (more : List SiteEvent) :
    Called lib teepErrCode (events ++ more) goroutine call returned := by
  obtain ⟨world, device, after, member, result⟩ := called
  exact ⟨world, device, after, List.mem_append_left more member, result⟩

theorem webEventsOf_append (first second : List SiteEvent) :
    webEventsOf (first ++ second) = webEventsOf first ++ webEventsOf second := List.filterMap_append

theorem webEventsOf_web (events : List WebEvent) : webEventsOf (events.map .web) = events := by
  rw [webEventsOf, List.filterMap_map]
  exact List.filterMap_some

/-- One goroutine at most is inside a call, so that the call is alone. -/
theorem Serialised.alone {server : Server} (serialised : Serialised cfg server) {goroutine : Goroutine}
    (inside : server.Inside cfg goroutine) : server.overlaps cfg goroutine = false := by
  rw [Server.overlaps, List.any_eq_false]
  rintro other _ overlaps
  rw [Bool.and_eq_true, decide_eq_true_eq] at overlaps
  exact overlaps.1 (serialised other goroutine overlaps.2 inside)

/-- What leaves a `/teep` handler with a text. -/
theorem handleTeep_text {server : Server} {id : Nat} {before next : TeepState} {body : String}
    {returned : AttesterReturn} (there : server.handlers[id]? = some (.teep before))
    (here : (handleTeep returned id before server).handlers[id]? = some (.teep next))
    (text : next.text = some body) :
    before.text = some body ∨
      before = .runInstallSession .inside ∧ teepResponse (runInstallSession returned) = .text body := by
  have moved : ∀ {state : TeepState}, (server.setHandler id (.teep state)).handlers[id]? = some (.teep next) →
      state = next := by
    intro state here
    have same := (set_there there (.teep state)).symm.trans here
    cases same
    rfl
  have stays : (server.handlers[id]? = some (.teep next)) → before.text = some body := by
    intro here
    have same := there.symm.trans here
    cases same
    exact text
  cases before with
  | arrived method =>
    simp only [handleTeep] at here
    split at here
    · cases moved here
      cases text
    · cases moved here
      cases text
  | locks =>
    simp only [handleTeep] at here
    split at here
    · cases moved here
      cases text
    · exact .inl (stays here)
  | setLogLevel phase =>
    cases phase with
    | before =>
      cases moved here
      cases text
    | inside =>
      simp only [handleTeep] at here
      split at here
      · cases moved here
        cases text
      · cases moved here
        cases text
  | initializeEnclave phase =>
    cases phase with
    | before =>
      cases moved here
      cases text
    | inside =>
      simp only [handleTeep] at here
      split at here
      · cases moved here
        cases text
      · cases moved here
        cases text
  | runInstallSession phase =>
    cases phase with
    | before =>
      cases moved here
      cases text
    | inside =>
      cases moved here
      refine .inr ⟨rfl, ?_⟩
      generalize teepResponse (runInstallSession returned) = response at text
      cases response with
      | text answer => exact congrArg HttpResponse.text (Option.some.inj text)
      | error answer status => cases text
      | image output => cases text
  | unlocks response =>
    cases moved here
    exact .inl (by cases response <;> exact text)
  | done response => exact .inl (stays here)

/-- The worker does not panic on what the device returns. -/
theorem siteCall_fits {wappName funcName : CString} {input : Bytes} {maxOut : Int} {world : World}
    {device after : DeviceState} {returned : AttesterReturn}
    (called : siteCall lib teepErrCode (.invokeWasm wappName funcName input maxOut.toNat) world device =
      some (returned, after)) (valid : ∀ args, ValidMalloc world.invoke args) :
    invokeWasm maxOut returned ≠ none := by
  unfold invokeWasm
  split
  · simp
  next succeeded =>
  obtain ⟨fits, _⟩ := siteCall_output valid called (not_not.mp succeeded)
  rw [if_pos fits]
  simp

/-! ## Steps of the site -/

variable {server : Server} {goroutine : Goroutine} {returned : AttesterReturn} {id : Nat}

/-- A panic comes from `make`, or from the slice of an output. -/
theorem step_panics (running : server.worker ≠ .panicked) (action : Action)
    (panics : (serverStep cfg server action).worker = .panicked) :
    ∃ req env, action = .step .worker env ∧ (server.worker = .invokeWasm .before req ∧ env.makes = false ∨
      server.worker = .invokeWasm .inside req ∧ invokeWasm cfg.maxOut env.returned = none) := by
  match action with
  | .request request =>
    rw [step_request running] at panics
    exact absurd panics running
  | .step .worker env =>
    rw [step_worker running] at panics
    have step := runWorker_step cfg env server
    generalize runWorker cfg env server = after at step panics
    generalize at_ : server.worker = worker at step running
    cases step with
    | stays blocked => exact absurd (at_.symm.trans panics) running
    | startsUp unasked empty less started notPanicked => exact absurd panics notPanicked
    | panics panic => exact ⟨_, env, rfl, panic⟩
    | _ => cases panics
  | .step (.handler id) env =>
    match there : server.handlers[id]? with
    | none =>
      rw [step_nobody running there] at panics
      exact absurd panics running
    | some (.teep state) =>
      rw [step_teep running there, handleTeep_worker] at panics
      exact absurd panics running
    | some (.detect upload state) =>
      rw [step_detect running there] at panics
      obtain same | ⟨_, started⟩ | ⟨input, _, accepts⟩ := handleDetect_worker server id upload state
      · exact absurd (same ▸ panics) running
      · rw [started] at panics
        cases panics
      · rw [panics] at accepts
        generalize server.worker = worker at accepts
        cases worker <;> cases accepts

/-- A text in a `/teep` handler was there before, or is what the handler makes of the session. -/
theorem step_text (running : server.worker ≠ .panicked) (goroutine : Goroutine) (env : StepEnv)
    {next : TeepState} {body : String}
    (here : (serverStep cfg server (.step goroutine env)).handlers[id]? = some (.teep next))
    (text : next.text = some body) :
    (∃ before, server.handlers[id]? = some (.teep before) ∧ before.text = some body) ∨
      goroutine = .handler id ∧ server.handlers[id]? = some (.teep (.runInstallSession .inside)) ∧
        teepResponse (runInstallSession env.returned) = .text body := by
  cases goroutine with
  | worker =>
    rw [step_worker running] at here
    -- the worker sends nothing to a `/teep` handler
    have unaffected : ∀ response handler, (Handler.receive response handler).teep? = handler.teep? := by
      intro response handler
      unfold Handler.receive
      split <;> rfl
    have observed := runWorker_handlers cfg server unaffected env id
    rw [here] at observed
    obtain ⟨before, there, same⟩ := Option.map_eq_some_iff.mp observed.symm
    cases before with
    | detect upload state => cases same
    | teep before =>
      cases same
      exact .inl ⟨next, there, text⟩
  | handler other =>
    by_cases same : other = id
    · subst same
      match there : server.handlers[other]? with
      | none =>
        rw [step_nobody running there] at here
        exact nomatch there.symm.trans here
      | some (.teep before) =>
        rw [step_teep running there] at here
        obtain before | ⟨rfl, told⟩ := handleTeep_text there here text
        · exact .inl ⟨_, rfl, before⟩
        · exact .inr ⟨rfl, rfl, told⟩
      | some (.detect upload state) =>
        rw [step_detect running there] at here
        obtain ⟨next, same⟩ := (handleDetect_step server other upload state).handler there
        exact nomatch same.symm.trans here
    · exact .inl ⟨next, (step_handlers running env (Ne.symm same)).symm.trans here, text⟩

theorem startUpApart_env (goroutine : Goroutine) (env other : StepEnv) :
    StartUpApart cfg server (.step goroutine env) ↔ StartUpApart cfg server (.step goroutine other) := by
  cases goroutine <;> rfl

/-- The answer of a call that is made for a request. -/
theorem invoked_step {action : Action} {req : DetectRequest} {returned : AttesterReturn}
    (invoked : .invoked req returned ∈ webEvents cfg server action) :
    ∃ makes, action = .step .worker ⟨makes, returned⟩ ∧ server.worker = .invokeWasm .inside req := by
  match action with
  | .request request => cases invoked
  | .step .worker other =>
    rw [webEvents] at invoked
    generalize server.worker = worker at invoked
    unfold workerEvents at invoked
    split at invoked
    · cases List.mem_singleton.mp invoked
      exact ⟨other.makes, rfl, rfl⟩
    · cases invoked
  | .step (.handler id) other =>
    rw [webEvents, handlerEvents] at invoked
    split at invoked
    · cases List.mem_singleton.mp invoked
    · cases invoked

/-- A step of the server with the return of a call, or with none where there is no call. -/
theorem moves_site {newEvents : List SiteEvent} {device : DeviceState} {env : StepEnv}
    (invariant : SiteInvariant lib teepErrCode cfg events state) (running : state.server.worker ≠ .panicked)
    (apart : StartUpApart cfg state.server (.step goroutine env)) (quiet : webEventsOf newEvents = [])
    (called : ∀ call, (state.server.place cfg goroutine).call = some call →
      Called lib teepErrCode (events ++ newEvents) goroutine call env.returned)
    (documented : ValidCalls newEvents) :
    let moved := state.moves cfg goroutine env device newEvents
    SiteInvariant lib teepErrCode cfg (events ++ moved.2) moved.1 := by
  obtain ⟨base, requests, serialised, logged, invoked, told, valid⟩ := invariant
  intro moved
  have web : webEventsOf (events ++ moved.2) =
      webEventsOf events ++ webEvents cfg state.server (.step goroutine env) := by
    simp only [moved, Site.moves, webEventsOf_append, webEventsOf_web, quiet, List.nil_append]
  have kept : ∀ {goroutine call returned}, Called lib teepErrCode (events ++ newEvents) goroutine call returned →
      Called lib teepErrCode (events ++ moved.2) goroutine call returned := by
    intro goroutine call returned called
    simp only [moved, Site.moves, ← List.append_assoc]
    exact called.mono _
  refine ⟨step_invariant base _, step_requests base requests _, (serialised_step_iff base serialised _).mpr apart,
    ?_, ?_, ?_, ?_⟩
  · rw [web]
    exact step_logged base requests _ logged
  · intro req other member
    rw [web, List.mem_append] at member
    obtain old | new := member
    · exact (invoked req other old).mono _
    · obtain ⟨makes, same, at_⟩ := invoked_step new
      cases same
      exact kept (called _ (by rw [Server.place, at_]; rfl))
  · intro id next body here text
    obtain ⟨before, there, text⟩ | ⟨rfl, there, response⟩ := step_text running goroutine env here text
    · obtain ⟨installed, made, response⟩ := told id before body there text
      exact ⟨installed, made.mono _, response⟩
    · exact ⟨env.returned, kept (called _ (by rw [place_handler there]; rfl)), response⟩
  · intro goroutine call world device member
    simp only [moved, Site.moves, List.mem_append] at member
    obtain old | new | web := member
    · exact valid goroutine call world device old
    · exact documented goroutine call world device new
    · obtain ⟨_, _, same⟩ := List.mem_map.mp web
      cases same

theorem siteStep_panicked (ended : state.server.worker = .panicked) (action : SiteAction) :
    siteStep lib teepErrCode cfg state action = (state, []) := if_pos ended

theorem step_site (invariant : SiteInvariant lib teepErrCode cfg events state) (action : SiteAction)
    (apart : StartUpApart cfg state.server action.onServer)
    (valid : ∀ goroutine world, action = .step goroutine world → ∀ args, ValidMalloc world.invoke args) :
    let stepped := siteStep lib teepErrCode cfg state action
    SiteInvariant lib teepErrCode cfg (events ++ stepped.2) stepped.1 := by
  by_cases running : state.server.worker = .panicked
  · rw [siteStep_panicked running]
    show SiteInvariant lib teepErrCode cfg (events ++ []) state
    rw [List.append_nil]
    exact invariant
  simp only [siteStep, if_neg running]
  cases action with
  | request request =>
    show SiteInvariant lib teepErrCode cfg (events ++ [])
      { state with server := serverStep cfg state.server (.request request) }
    rw [List.append_nil]
    obtain ⟨base, requests, serialised, logged, invoked, told, documented⟩ := invariant
    refine ⟨step_invariant base (.request request), step_requests base requests (.request request),
      (serialised_step_iff base serialised (.request request)).mpr apart, ?_, invoked, ?_, documented⟩
    · have after := step_logged base requests (.request request) logged
      rwa [webEvents, List.append_nil] at after
    · intro id next body here text
      rw [step_request running] at here
      obtain old | ⟨_, same⟩ := appended_there here
      · exact told id next body old text
      · cases request <;> cases same
        cases text
  | step goroutine world =>
    cases place : (state.server.place cfg goroutine).call with
    | none =>
      simp only [place]
      refine moves_site invariant running apart (show webEventsOf [] = [] from rfl)
        ?_ (fun _ _ _ _ member => absurd member List.not_mem_nil)
      intro call inside
      rw [place] at inside
      cases inside
    | some call =>
      have alone := invariant.serialised.alone (show state.server.Inside cfg goroutine by rw [Server.Inside, place]; rfl)
      simp only [place, alone, Bool.false_eq_true, if_false]
      cases returns : siteCall lib teepErrCode call world state.device with
      | none =>
        rw [List.append_nil]
        exact invariant
      | some result =>
        obtain ⟨returned, device⟩ := result
        refine moves_site invariant running ((startUpApart_env goroutine _ _).mpr apart)
          (show webEventsOf [.called goroutine call world state.device] = [] from rfl) ?_ ?_
        · intro same inside
          rw [place] at inside
          cases inside
          exact ⟨world, _, device, List.mem_append_right events (List.mem_singleton_self _), returns⟩
        · intro _ _ _ _ member
          cases List.mem_singleton.mp member
          exact valid _ _ rfl

/-- The worker does not panic in a step in which `make` comes back. -/
theorem step_runs (serialised : Serialised cfg state.server) (running : state.server.worker ≠ .panicked)
    (action : SiteAction)
    (served : ∀ goroutine world, action = .step goroutine world →
      world.makes = true ∧ ∀ args, ValidMalloc world.invoke args) :
    (siteStep lib teepErrCode cfg state action).1.server.worker ≠ .panicked := by
  simp only [siteStep, if_neg running]
  cases action with
  | request request =>
    show (serverStep cfg state.server (.request request)).worker ≠ .panicked
    rw [step_request running]
    exact running
  | step goroutine world =>
    obtain ⟨makes, valid⟩ := served goroutine world rfl
    have fits : ∀ (env : StepEnv) (device : DeviceState) (newEvents : List SiteEvent), env.makes = true →
        (∀ req, goroutine = .worker → state.server.worker = .invokeWasm .inside req →
          invokeWasm cfg.maxOut env.returned ≠ none) →
        (state.moves cfg goroutine env device newEvents).1.server.worker ≠ .panicked := by
      intro env device newEvents made fits panics
      obtain ⟨req, other, same, ⟨_, unmade⟩ | ⟨at_, none⟩⟩ := step_panics running _ panics
      · cases same
        rw [made] at unmade
        cases unmade
      · cases same
        exact fits req rfl at_ none
    cases place : (state.server.place cfg goroutine).call with
    | none =>
      simp only [place]
      refine fits _ _ _ makes ?_
      rintro req rfl at_
      rw [Server.place, at_] at place
      cases place
    | some call =>
      have alone := serialised.alone (show state.server.Inside cfg goroutine by rw [Server.Inside, place]; rfl)
      simp only [place, alone, Bool.false_eq_true, if_false]
      cases returns : siteCall lib teepErrCode call world state.device with
      | none => exact running
      | some result =>
        refine fits _ _ _ makes ?_
        rintro req rfl at_
        rw [Server.place, at_] at place
        cases place
        exact siteCall_fits returns valid

/-! ## What browsers are told -/

theorem run_site (lib : Libraries) (teepErrCode : TeepErr → Int) (cfg : ServerConfig) {actions : List SiteAction}
    (valid : ∀ goroutine world, .step goroutine world ∈ actions → ∀ args, ValidMalloc world.invoke args)
    (apart : (site lib teepErrCode cfg).Meets
      (fun state action => StartUpApart cfg state.server action.onServer) .start actions) :
    SiteInvariant lib teepErrCode cfg ((site lib teepErrCode cfg).run .start actions).2
      ((site lib teepErrCode cfg).run .start actions).1 := by
  have documented : (site lib teepErrCode cfg).Meets (fun _ action => ∀ goroutine world,
      action = .step goroutine world → ∀ args, ValidMalloc world.invoke args) .start actions := by
    refine ((site lib teepErrCode cfg).meets_const _ _ _).mpr ?_
    rintro action member goroutine world rfl
    exact valid goroutine world member
  have preserved : ∀ (events : List SiteEvent) (state : Site) (action : SiteAction),
      SiteInvariant lib teepErrCode cfg events state →
      StartUpApart cfg state.server action.onServer ∧
        (∀ goroutine world, action = .step goroutine world → ∀ args, ValidMalloc world.invoke args) →
      let stepped := (site lib teepErrCode cfg).step state action
      SiteInvariant lib teepErrCode cfg (events ++ stepped.2) stepped.1 :=
    fun events state action invariant met => step_site invariant action met.1 met.2
  exact Machine.run_history preserved (start_site lib teepErrCode cfg) (apart.and documented)

/-- While `make` comes back with its buffers, the worker does not panic. -/
theorem run_running (lib : Libraries) (teepErrCode : TeepErr → Int) (cfg : ServerConfig) {actions : List SiteAction}
    (valid : ∀ goroutine world, .step goroutine world ∈ actions → ∀ args, ValidMalloc world.invoke args)
    (apart : (site lib teepErrCode cfg).Meets
      (fun state action => StartUpApart cfg state.server action.onServer) .start actions)
    (makes : ∀ goroutine world, .step goroutine world ∈ actions → world.makes = true) :
    ((site lib teepErrCode cfg).run .start actions).1.server.worker ≠ .panicked := by
  have served : (site lib teepErrCode cfg).Meets (fun _ action => ∀ goroutine world,
      action = .step goroutine world → world.makes = true ∧ ∀ args, ValidMalloc world.invoke args) .start actions := by
    refine ((site lib teepErrCode cfg).meets_const _ _ _).mpr ?_
    rintro action member goroutine world rfl
    exact ⟨makes goroutine world member, valid goroutine world member⟩
  have preserved : ∀ (events : List SiteEvent) (state : Site) (action : SiteAction),
      SiteInvariant lib teepErrCode cfg events state ∧ state.server.worker ≠ .panicked →
      StartUpApart cfg state.server action.onServer ∧
        (∀ goroutine world, action = .step goroutine world →
          world.makes = true ∧ ∀ args, ValidMalloc world.invoke args) →
      let stepped := (site lib teepErrCode cfg).step state action
      SiteInvariant lib teepErrCode cfg (events ++ stepped.2) stepped.1 ∧ stepped.1.server.worker ≠ .panicked :=
    fun events state action ⟨invariant, running⟩ ⟨apart, served⟩ =>
      ⟨step_site invariant action apart fun goroutine world same => (served goroutine world same).2,
        step_runs invariant.serialised running action served⟩
  have initial : Site.start.server.worker ≠ .panicked := by decide
  exact (Machine.run_history preserved ⟨start_site lib teepErrCode cfg, initial⟩ (apart.and served)).2

/-- An image that a browser is shown comes from the buffer of a call on the image of this browser. -/
theorem SiteInvariant.answered (invariant : SiteInvariant lib teepErrCode cfg events state) {upload : Upload}
    {output : Bytes} (there : state.server.handlers[id]? = some (.detect upload (.done (.image output)))) :
    ∃ input world device returned after, readImage upload = .ok input ∧
      .called .worker (.invokeWasm cfg.wappName cfg.funcName input cfg.maxOut.toNat) world device ∈ events ∧
      siteCall lib teepErrCode (.invokeWasm cfg.wappName cfg.funcName input cfg.maxOut.toNat) world device =
        some (returned, after) ∧
      returned.ret = 0 ∧ output = returned.out.take returned.actual := by
  have ended : Ended cfg upload id (.image output) (about id (webEventsOf events)) := invariant.logged.told id _ there
  generalize told : about id (webEventsOf events) = story at ended
  generalize same : HttpResponse.image output = response at ended
  cases ended with
  | refused noImage => exact absurd same.symm (noImage output)
  | @answered resp before comes =>
    cases comes with
    | uncalled failed =>
      rw [detectResponse, if_pos failed] at same
      cases same
    | @called input returned _ image result =>
      have member : .invoked ⟨input, id⟩ returned ∈ webEventsOf events := by
        have first : WebEvent.invoked ⟨input, id⟩ returned ∈ about id (webEventsOf events) := by
          rw [told]
          exact List.mem_cons_self
        exact List.mem_of_mem_filter first
      obtain ⟨world, device, after, called, returns⟩ := invariant.invoked _ _ member
      simp only [invokeWasm] at result
      split at result
      · cases result
        cases same
      next success =>
      split at result
      · cases result
        exact ⟨input, world, device, returned, after, image, called, returns, not_not.mp success,
          HttpResponse.image.inj same⟩
      · cases result

/-- An image that a browser is shown is what the app has written in the enclave. -/
theorem SiteInvariant.image (invariant : SiteInvariant lib teepErrCode cfg events state) {upload : Upload}
    {output : Bytes} (there : state.server.handlers[id]? = some (.detect upload (.done (.image output)))) :
    ∃ input world device enclave, readImage upload = .ok input ∧
      .called .worker (.invokeWasm cfg.wappName cfg.funcName input cfg.maxOut.toNat) world device ∈ events ∧
      enclave ∈ enclaveOf lib teepErrCode world device ∧ HasApp enclave.table cfg.wappName ∧
      let args := invokeArgs cfg.wappName cfg.funcName input cfg.maxOut.toNat
      let invoked := ecallInvokeWasm lib.csuit world.invoke args enclave.table enclave.wamr
      invoked.1 = .ok ∧ outputs invoked.2.2.2 = [output] := by
  obtain ⟨input, world, device, returned, after, image, called, returns, success, rfl⟩ := invariant.answered there
  obtain ⟨_, enclave, exists_, installed, ok, writes⟩ :=
    siteCall_output (invariant.valid _ _ _ _ called) returns success
  exact ⟨input, world, device, enclave, image, called, exists_, installed, ok, writes⟩

/-- A text that a browser is sent says how the session with the enclave has ended. -/
theorem SiteInvariant.text (invariant : SiteInvariant lib teepErrCode cfg events state) {body : String}
    (there : state.server.handlers[id]? = some (.teep (.done (.text body)))) :
    ∃ world device enclave result,
      .called (.handler id) (.install cfg.tamURL cfg.wappName) world device ∈ events ∧
      enclave ∈ enclaveOf lib teepErrCode world device ∧
      (session lib cfg.wappName world.coseSend world.exchanges enclave).result = some result ∧
      (result = .ok ∧ body = "TEEP install finished." ∨
        result = .okDeviceActivated ∧ body = "The device has been activated. You can install the app.") := by
  obtain ⟨returned, ⟨world, device, after, called, returns⟩, response⟩ := invariant.told id _ body there rfl
  have ends : returned.session = .ok ∧ body = "TEEP install finished." ∨
      returned.session = .okDeviceActivated ∧ body = "The device has been activated. You can install the app." := by
    unfold runInstallSession at response
    split at response
    · next ok => exact .inl ⟨ok, (HttpResponse.text.inj response).symm⟩
    · next activated => exact .inr ⟨activated, (HttpResponse.text.inj response).symm⟩
    all_goals cases response
  have notFatal : returned.session ≠ .fatal := by
    intro fatal
    rw [fatal] at ends
    simp at ends
  obtain ⟨enclave, exists_, ended⟩ := siteCall_installed returns notFatal
  exact ⟨world, device, enclave, _, called, exists_, ended, ends⟩

/-- In every run of the server with its device, while the calls with which the worker starts up are kept apart from
those of the `/teep` handlers: the worker does not panic if `make` comes back with every buffer; an image that a browser
is shown is what the app that is installed under the configured name has written in the enclave, in a call on the image
of this browser; and the text that ends an installation says how the session of this handler with the TAM has ended. -/
theorem browsers_told (lib : Libraries) (teepErrCode : TeepErr → Int) (cfg : ServerConfig)
    (actions : List SiteAction)
    (valid : ∀ goroutine world, .step goroutine world ∈ actions → ∀ args, ValidMalloc world.invoke args)
    (apart : (site lib teepErrCode cfg).Meets
      (fun state action => StartUpApart cfg state.server action.onServer) .start actions) :
    let ran := (site lib teepErrCode cfg).run .start actions
    ((∀ goroutine world, .step goroutine world ∈ actions → world.makes = true) →
      ran.1.server.worker ≠ .panicked) ∧
    (∀ (id : Nat) (upload : Upload) (output : Bytes),
      ran.1.server.handlers[id]? = some (.detect upload (.done (.image output))) →
      ∃ input world device enclave, readImage upload = .ok input ∧
        .called .worker (.invokeWasm cfg.wappName cfg.funcName input cfg.maxOut.toNat) world device ∈ ran.2 ∧
        enclave ∈ enclaveOf lib teepErrCode world device ∧ HasApp enclave.table cfg.wappName ∧
        let args := invokeArgs cfg.wappName cfg.funcName input cfg.maxOut.toNat
        let invoked := ecallInvokeWasm lib.csuit world.invoke args enclave.table enclave.wamr
        invoked.1 = .ok ∧ outputs invoked.2.2.2 = [output]) ∧
    ∀ (id : Nat) (body : String), ran.1.server.handlers[id]? = some (.teep (.done (.text body))) →
      ∃ world device enclave result,
        .called (.handler id) (.install cfg.tamURL cfg.wappName) world device ∈ ran.2 ∧
        enclave ∈ enclaveOf lib teepErrCode world device ∧
        (session lib cfg.wappName world.coseSend world.exchanges enclave).result = some result ∧
        (result = .ok ∧ body = "TEEP install finished." ∨
          result = .okDeviceActivated ∧ body = "The device has been activated. You can install the app.") := by
  intro ran
  have invariant : SiteInvariant lib teepErrCode cfg ran.2 ran.1 := run_site lib teepErrCode cfg valid apart
  exact ⟨run_running lib teepErrCode cfg valid apart, fun id upload output => invariant.image,
    fun id body => invariant.text⟩

/-! ## An app that one browser installs and another one is shown -/

theorem overlongInvoke_valid (args : InvokeArgs) : ValidMalloc Wasm.overlongInvoke args where
  input := by decide
  output := by decide
  distinct := fun _ _ => by decide
  size := by
    intro argv returned block second
    obtain ⟨_, rfl⟩ : returned = 3 ∧ block = List.replicate argv[3].toNat 42 := by
      simpa [Wasm.overlongInvoke, eq_comm] using second
    rw [List.length_replicate]

/-- A TAM that asks once, and libraries that work. -/
def workingWorld : World :=
  ⟨true, workingDevice, .success, [], firstSession, .success, Wasm.overlongInvoke, noReturn, .start⟩

def sharedConfig : ServerConfig := { defaultConfig with wappName := [97], funcName := [102], maxOut := 16 }

/-- A TAM that delivers the app, and libraries that work. -/
def sharedWorld : World := { workingWorld with exchanges := delivery }

/-- A `/teep` request, and after it has been answered a `/detect` request, with the worker that it starts. -/
def installThenDetect : List SiteAction :=
  .request (.teep .post) :: List.replicate 9 (.step (.handler 0) sharedWorld) ++
    .request (.detect .post ⟨none, true, .ok [255, 216]⟩) ::
      (List.replicate 13 [.step (.handler 1) sharedWorld, .step .worker sharedWorld]).flatten

theorem installThenDetect_world : ∀ goroutine world, .step goroutine world ∈ installThenDetect →
    world = sharedWorld := by
  have same : ∀ action ∈ installThenDetect, ∀ goroutine world, action = .step goroutine world →
      world = sharedWorld := by
    simp [installThenDetect]
  exact fun goroutine world member => same _ member goroutine world rfl

theorem installThenDetect_valid : ∀ goroutine world, .step goroutine world ∈ installThenDetect →
    ∀ args, ValidMalloc world.invoke args := by
  intro goroutine world member
  rw [installThenDetect_world goroutine world member]
  exact overlongInvoke_valid

theorem installThenDetect_apart : (site smallLibraries smallCodes sharedConfig).Meets
    (fun state action => StartUpApart sharedConfig state.server action.onServer) .start installThenDetect := by
  decide +kernel

theorem browsers_told_once :
    let ran := (site smallLibraries smallCodes sharedConfig).run .start installThenDetect
    ran.1.server.worker ≠ .panicked ∧
    (∃ input world device enclave, readImage ⟨none, true, .ok [255, 216]⟩ = .ok input ∧
      .called .worker (.invokeWasm [97] [102] input 16) world device ∈ ran.2 ∧
      enclave ∈ enclaveOf smallLibraries smallCodes world device ∧ HasApp enclave.table [97] ∧
      let args := invokeArgs [97] [102] input 16
      let invoked := ecallInvokeWasm smallLibraries.csuit world.invoke args enclave.table enclave.wamr
      invoked.1 = .ok ∧ outputs invoked.2.2.2 = [[42, 42]]) ∧
    ∃ world device enclave result,
      .called (.handler 0) (.install sharedConfig.tamURL [97]) world device ∈ ran.2 ∧
      enclave ∈ enclaveOf smallLibraries smallCodes world device ∧
      (session smallLibraries [97] world.coseSend world.exchanges enclave).result = some result ∧ result = .ok := by
  obtain ⟨runs, images, texts⟩ := browsers_told smallLibraries smallCodes sharedConfig installThenDetect
    installThenDetect_valid installThenDetect_apart
  have makes : ∀ goroutine world, .step goroutine world ∈ installThenDetect → world.makes = true := by
    intro goroutine world member
    rw [installThenDetect_world goroutine world member]
    rfl
  refine ⟨runs makes, images 1 ⟨none, true, .ok [255, 216]⟩ [42, 42] (by decide +kernel), ?_⟩
  obtain ⟨world, device, enclave, result, called, exists_, ended, ⟨ok, _⟩ | ⟨_, activated⟩⟩ :=
    texts 0 "TEEP install finished." (by decide +kernel)
  · exact ⟨world, device, enclave, result, called, exists_, ended, ok⟩
  · exact absurd activated (by decide)

end Taws.Frontend
