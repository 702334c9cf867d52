import Taws.Device.Catalogue
import Taws.Frontend.Cli

/-!
# A session of the command line

All the commands of a session find the one enclave that the session has started with, as the commands before have
left it.

* `entered` — what a session has had its enclave do.
* `Seen` — what a call finds, and where a file that is written comes from.
* `session_files` — both, in every session.
* `session_returns` — a session comes to its end.
-/

namespace Taws.Frontend.Cli

open App (TeepSessionResult Returned)
open Device
open Enclave
open TcManager
open Teep
open Text (ofString fields_trimSpace fields_ne_nil)
open Wasm

variable (lib : Libraries)

/-- What a call has an enclave do that is there. -/
def callActions (enclave : EnclaveState) (world : World) : AttesterCall → List EnclaveAction
  | .install _ appName => ecalls lib appName world.exchanges enclave
  | .invokeWasm wappName funcName input outputLen =>
    if !invokes (invokeArgs wappName funcName input outputLen) || world.sgxRet ≠ .success then []
    else [.invokeWasm world.invoke (invokeArgs wappName funcName input outputLen)]
  | _ => []

/-- What the calls that have been seen have had the enclave do. -/
def entered (events : List CliEvent) : List EnclaveAction :=
  events.flatMap fun
    | .called call world device =>
      (device.enclave.map fun contents => callActions lib contents.view world call).getD []
    | _ => []

/-- The enclave after those actions. -/
def enclaveAfter (contents : KeyedEnclave) (events : List CliEvent) : KeyedEnclave :=
  ((keyedMachine lib).run contents ((entered lib events).map .enclave)).1

structure Alive (contents : KeyedEnclave) (events : List CliEvent) (device : DeviceState) : Prop where
  initialized : device.host.initialized = true
  enclave : device.enclave = some (enclaveAfter lib contents events)

/-- The output has been written in the enclave, in a call on the input that has just been read, by the app that was
installed under the name that the call has. -/
def WrittenBy (contents : KeyedEnclave) (before : List CliEvent) (output : Bytes) : Prop :=
  ∃ front inputPath input wappName funcName outputLen world device,
    before = front ++ [.read inputPath input, .called (.invokeWasm wappName funcName input outputLen) world device] ∧
    let enclave := (enclaveAfter lib contents front).view
    let args := invokeArgs wappName funcName input outputLen
    let invoked := ecallInvokeWasm lib.csuit world.invoke args enclave.table enclave.wamr
    HasApp enclave.table wappName ∧ invoked.1 = .ok ∧ outputs invoked.2.2.2 = [output] ∧
      callActions lib enclave world (.invokeWasm wappName funcName input outputLen) = [.invokeWasm world.invoke args]

/-- What is logged of a session with a TAM that ends with this result. -/
def Tells (result : TeepSessionResult) (text : String) : Prop :=
  result = .ok ∧ text = "TEEP install finished." ∨
    result = .okDeviceActivated ∧ text = "The device has been activated. You can install the app."

/-- The text says how the session of the call before it has ended, which was one with the enclave. -/
def LoggedBy (contents : KeyedEnclave) (before : List CliEvent) (text : String) : Prop :=
  ∃ front tamUrl appName world device result,
    before = front ++ [.called (.install tamUrl appName) world device] ∧
    (Device.session lib appName world.coseSend world.exchanges (enclaveAfter lib contents front).view).result =
      some result ∧ Tells result text

/-- A call finds the one enclave, as the calls before have left it. -/
def Seen (contents : KeyedEnclave) (before : List CliEvent) : CliEvent → Prop
  | .called _ _ device => Alive lib contents before device
  | .wrote _ output => WrittenBy lib contents before output
  | .logged text => LoggedBy lib contents before text
  | _ => True

variable {lib} {teepErrCode : TeepErr → Int} {contents : KeyedEnclave} {before : List CliEvent} {device : DeviceState}
  {world : CliWorld}

/-! ## One call -/

theorem entered_append (first second : List CliEvent) :
    entered lib (first ++ second) = entered lib first ++ entered lib second := List.flatMap_append

theorem enclaveAfter_append (contents : KeyedEnclave) (first second : List CliEvent) :
    enclaveAfter lib contents (first ++ second) = enclaveAfter lib (enclaveAfter lib contents first) second := by
  simp only [enclaveAfter, entered_append, List.map_append, Machine.run_append]

theorem enclaveAfter_called (alive : Alive lib contents before device) (call : AttesterCall) (world : World) :
    enclaveAfter lib contents (before ++ [.called call world device]) =
      ((keyedMachine lib).run (enclaveAfter lib contents before)
        ((callActions lib (enclaveAfter lib contents before).view world call).map .enclave)).1 := by
  rw [enclaveAfter_append]
  simp only [enclaveAfter, entered, List.flatMap_cons, List.flatMap_nil, List.append_nil, alive.enclave,
    Option.map_some, Option.getD_some]

theorem enclaveOf_again (world : World) (initialized : device.host.initialized = true) :
    enclaveOf lib teepErrCode world device = device.enclave.map KeyedEnclave.view := by
  rw [enclaveOf, deviceInitialized_again _ _ initialized]

theorem install_alive (alive : Alive lib contents before device) {tamUrl appName : CString} {world : World}
    {returned : AttesterReturn} {after : DeviceState}
    (called : siteCall lib teepErrCode (.install tamUrl appName) world device = some (returned, after)) :
    Alive lib contents (before ++ [.called (.install tamUrl appName) world device]) after := by
  obtain ⟨value, _, same⟩ := Option.map_eq_some_iff.mp called
  obtain ⟨_, rfl⟩ := Prod.mk.inj same
  refine ⟨?_, ?_⟩
  · simp only [World.call, deviceStep, deviceInitialized_again _ _ alive.initialized, deviceInstall, alive.enclave,
      enter]
    exact alive.initialized
  · rw [enclaveAfter_called alive]
    simp only [World.call, deviceStep, deviceInitialized_again _ _ alive.initialized, deviceInstall, alive.enclave,
      enter]
    rfl

theorem invoke_alive (alive : Alive lib contents before device) {wappName funcName : CString} {input : Bytes}
    {outputLen : Nat} {world : World} {returned : AttesterReturn} {after : DeviceState}
    (called : siteCall lib teepErrCode (.invokeWasm wappName funcName input outputLen) world device =
      some (returned, after)) :
    Alive lib contents (before ++ [.called (.invokeWasm wappName funcName input outputLen) world device]) after := by
  obtain ⟨value, _, same⟩ := Option.map_eq_some_iff.mp called
  obtain ⟨_, rfl⟩ := Prod.mk.inj same
  simp only [World.call, deviceStep, deviceInitialized_again _ _ alive.initialized, deviceInvokeWasm, alive.enclave]
  by_cases made : (!invokes (invokeArgs wappName funcName input outputLen) || decide (world.sgxRet ≠ .success)) = true
  · rw [if_neg (by decide), if_pos made]
    refine ⟨alive.initialized, ?_⟩
    rw [enclaveAfter_called alive, callActions, if_pos made]
    rfl
  · rw [if_neg (by decide), if_neg made]
    refine ⟨alive.initialized, ?_⟩
    rw [enclaveAfter_called alive, callActions, if_neg made]
    rfl

/-- A call that returns 0 has been made in the enclave. -/
theorem invoke_entered (alive : Alive lib contents before device) {wappName funcName : CString} {input : Bytes}
    {outputLen : Nat} {world : World} {returned : AttesterReturn} {after : DeviceState}
    (called : siteCall lib teepErrCode (.invokeWasm wappName funcName input outputLen) world device =
      some (returned, after)) (success : returned.ret = 0) (enclave : EnclaveState) :
    callActions lib enclave world (.invokeWasm wappName funcName input outputLen) =
      [.invokeWasm world.invoke (invokeArgs wappName funcName input outputLen)] := by
  by_cases made : (!invokes (invokeArgs wappName funcName input outputLen) || decide (world.sgxRet ≠ .success)) = true
  · obtain ⟨value, isValue, same⟩ := Option.map_eq_some_iff.mp called
    obtain ⟨rfl, _⟩ := Prod.mk.inj same
    simp only [World.call, deviceStep, deviceInitialized_again _ _ alive.initialized, deviceInvokeWasm,
      alive.enclave] at isValue success
    rw [if_neg (by decide), if_pos made] at isValue
    cases isValue
    cases success
  · rw [callActions, if_neg made]

/-! ## Commands -/

/-- Neither a call nor what a command has come to. -/
def CliEvent.quiet : CliEvent → Bool
  | .called _ _ _ => false
  | .wrote _ _ => false
  | .logged _ => false
  | _ => true

theorem entered_quiet {events : List CliEvent} (quiet : ∀ event ∈ events, event.quiet = true) :
    entered lib events = [] := by
  rw [entered, List.flatMap_eq_nil_iff]
  intro event member
  have isQuiet := quiet event member
  cases event with
  | called call world device => cases isQuiet
  | _ => rfl

/-- Events with which the enclave is not entered. -/
theorem Alive.nothing (alive : Alive lib contents before device) {events : List CliEvent}
    (nothing : entered lib events = []) : Alive lib contents (before ++ events) device := by
  refine ⟨alive.initialized, ?_⟩
  rw [enclaveAfter, entered_append, nothing, List.append_nil]
  exact alive.enclave

theorem seen_quiet {event : CliEvent} (quiet : event.quiet = true) : Seen lib contents before event := by
  cases event with
  | called call world device => cases quiet
  | wrote path output => cases quiet
  | logged text => cases quiet
  | _ => trivial

/-- The session with the TAM that a command may start comes to an end, and `make` comes back with the buffer for an
output. -/
structure Served (world : CliWorld) : Prop where
  ends : ∃ exchange ∈ world.device.exchanges, ¬ exchange.Enters
  makes : world.device.makes = true

instance (world : CliWorld) : Decidable (Served world) :=
  decidable_of_iff ((∃ exchange ∈ world.device.exchanges, ¬ exchange.Enters) ∧ world.device.makes = true)
    ⟨fun ⟨ends, makes⟩ => ⟨ends, makes⟩, fun ⟨ends, makes⟩ => ⟨ends, makes⟩⟩

/-- The loop reads the next line, or is left in order. -/
def Next.goesOn : Next → Bool
  | .reads => true
  | .returns => true
  | _ => false

/-- What a command leaves behind, before anything that is deferred. -/
structure Goes (lib : Libraries) (contents : KeyedEnclave) (before : List CliEvent) (world : CliWorld)
    (outcome : Outcome) : Prop where
  seen : EveryEvent (Seen lib contents) before outcome.2.1
  alive : Alive lib contents (before ++ outcome.2.1) outcome.1
  goesOn : Served world → outcome.2.2.goesOn = true

theorem goes_quiet (alive : Alive lib contents before device) {events : List CliEvent} {next : Next}
    (quiet : ∀ event ∈ events, event.quiet = true) (goesOn : Served world → next.goesOn = true) :
    Goes lib contents before world (device, events, next) where
  seen := everyEvent_of_forall fun _ event member => seen_quiet (quiet event member)
  alive := alive.nothing (entered_quiet quiet)
  goesOn := goesOn

theorem goes_reads (alive : Alive lib contents before device) {events : List CliEvent}
    (quiet : ∀ event ∈ events, event.quiet = true) :
    Goes lib contents before world (device, events, .reads) :=
  goes_quiet alive quiet fun _ => rfl

theorem sessionReport_cases (returned : AttesterReturn) :
    (∃ err, sessionReport (Frontend.runInstallSession returned) = .reported err) ∨
      ∃ text, sessionReport (Frontend.runInstallSession returned) = .logged text ∧ Tells returned.session text := by
  unfold Frontend.runInstallSession
  split
  · next ok => exact .inr ⟨_, rfl, .inl ⟨ok, rfl⟩⟩
  · next activated => exact .inr ⟨_, rfl, .inr ⟨activated, rfl⟩⟩
  all_goals exact .inl ⟨_, rfl⟩

/-- The text after a call says how the session has ended. -/
theorem install_logged (alive : Alive lib contents before device) {tamUrl appName : CString} {world : World}
    {returned : AttesterReturn} {after : DeviceState}
    (called : siteCall lib teepErrCode (.install tamUrl appName) world device = some (returned, after)) {text : String}
    (tells : Tells returned.session text) :
    LoggedBy lib contents (before ++ [.called (.install tamUrl appName) world device]) text := by
  have notFatal : returned.session ≠ .fatal := by
    intro fatal
    rw [fatal] at tells
    simp [Tells] at tells
  obtain ⟨enclave, there, ended⟩ := siteCall_installed called notFatal
  rw [enclaveOf_again _ alive.initialized, alive.enclave] at there
  cases there
  exact ⟨before, tamUrl, appName, world, device, _, rfl, ended, tells⟩

theorem install_returns {world : World} (ends : ∃ exchange ∈ world.exchanges, ¬ exchange.Enters)
    (tamUrl appName : CString) (device : DeviceState) :
    siteCall lib teepErrCode (.install tamUrl appName) world device ≠ none := by
  simp only [siteCall, World.call, deviceStep]
  split
  · simp [Observed.of]
  simp only [deviceInstall]
  cases (deviceInitialized lib teepErrCode world.init none device).2.1.enclave with
  | none => simp [Observed.of]
  | some contents => simp [session_ends ends]

theorem install_goes (alive : Alive lib contents before device) (flags : InstallFlags) :
    Goes lib contents before world (install lib teepErrCode flags world device) := by
  unfold install
  dsimp only
  split
  · next endless => exact goes_quiet alive (by simp) fun served => absurd endless (install_returns served.ends _ _ _)
  next returned after called =>
  have next : Alive lib contents _ after := install_alive alive called
  refine ⟨?_, ?_, fun _ => rfl⟩
  · rw [everyEvent_cons, everyEvent_cons]
    refine ⟨alive, ?_, everyEvent_nil _⟩
    obtain ⟨err, reported⟩ | ⟨text, logged, tells⟩ := sessionReport_cases returned
    · rw [reported]
      trivial
    · rw [logged]
      exact install_logged alive called tells
  · have nothing : entered lib [sessionReport (Frontend.runInstallSession returned)] = [] := by
      obtain ⟨err, same⟩ | ⟨text, same, _⟩ := sessionReport_cases returned <;> rw [same] <;> rfl
    have left := next.nothing nothing
    rwa [List.append_assoc] at left

theorem runInstallSession_goes (alive : Alive lib contents before device) (args : List Bytes) :
    Goes lib contents before world (runInstallSession lib teepErrCode args world device) := by
  unfold runInstallSession
  split
  · exact goes_reads alive (by simp [CliEvent.quiet])
  · exact install_goes alive _

/-- A file that is written after a call. -/
theorem writeOutput_wrote {outputPath : Bytes} {maxOut : Int} {returned : AttesterReturn} :
    (∀ event ∈ (writeOutput outputPath maxOut world returned).1, event.quiet = true) ∨
      ∃ output, (writeOutput outputPath maxOut world returned).1 = [.wrote outputPath output] ∧ returned.ret = 0 ∧
        output = returned.out.take returned.actual := by
  unfold writeOutput invokeWasm
  by_cases success : returned.ret = 0
  · rw [if_neg (not_not.mpr success)]
    by_cases fits : returned.actual ≤ maxOut.toNat
    · rw [if_pos fits]
      cases world.writeFile with
      | some err => exact .inl (by simp [CliEvent.quiet])
      | none => exact .inr ⟨_, rfl, success, rfl⟩
    · rw [if_neg fits]
      exact .inl (by simp)
  · rw [if_pos success]
    exact .inl (by simp [CliEvent.quiet])

/-- An output that fits is not sliced beyond its end. -/
theorem writeOutput_next {maxOut : Int} {returned : AttesterReturn} (outputPath : Bytes)
    (fits : returned.ret = 0 → returned.actual ≤ maxOut.toNat) :
    (writeOutput outputPath maxOut world returned).2 = .reads := by
  unfold writeOutput invokeWasm
  by_cases success : returned.ret = 0
  · rw [if_neg (not_not.mpr success), if_pos (fits success)]
    cases world.writeFile <;> rfl
  · rw [if_pos success]

theorem invoke_returns (wappName funcName : CString) (input : Bytes) (outputLen : Nat) (world : World)
    (device : DeviceState) :
    siteCall lib teepErrCode (.invokeWasm wappName funcName input outputLen) world device ≠ none := by
  simp only [siteCall, World.call, deviceStep, deviceInvokeWasm]
  split
  · simp [Observed.of]
  split
  · simp [Observed.of]
  split
  · simp [Observed.of]
  · simp

/-- What a call for detection has written in the enclave; it fits. -/
theorem invoke_written (valid : ∀ args, ValidMalloc world.device.invoke args)
    (alive : Alive lib contents before device) {inputPath input wappName funcName : Bytes} {outputLen : Nat}
    {returned : AttesterReturn} {after : DeviceState}
    (called : siteCall lib teepErrCode (.invokeWasm wappName funcName input outputLen) world.device device =
      some (returned, after)) (success : returned.ret = 0) :
    returned.actual ≤ outputLen ∧ WrittenBy lib contents
      (before ++ [.read inputPath input, .called (.invokeWasm wappName funcName input outputLen) world.device device])
      (returned.out.take returned.actual) := by
  obtain ⟨bound, enclave, there, installed, ok, writes⟩ := siteCall_output valid called success
  rw [enclaveOf_again _ alive.initialized, alive.enclave] at there
  cases there
  exact ⟨bound, before, inputPath, input, wappName, funcName, outputLen, world.device, device, rfl, installed, ok,
    writes, invoke_entered alive called success _⟩

theorem detect_goes (valid : ∀ args, ValidMalloc world.device.invoke args) (alive : Alive lib contents before device)
    (flags : DetectorFlags) (inputPath outputPath : Bytes) :
    Goes lib contents before world
      (detect lib teepErrCode flags inputPath outputPath world device) := by
  unfold detect
  split
  · exact goes_reads alive (by simp [CliEvent.quiet])
  next input _ =>
  split
  · exact goes_reads alive (by simp [CliEvent.quiet])
  split
  · next noBuffer =>
    refine goes_quiet alive (by simp [CliEvent.quiet]) fun served => ?_
    have unmade := invokeWasmCall_panics noBuffer
    rw [served.makes] at unmade
    cases unmade
  · exact goes_reads alive (by simp [CliEvent.quiet])
  next call isCall =>
  obtain rfl := invokeWasmCall_ok isCall
  split
  · next endless => exact absurd endless (invoke_returns _ _ _ _ _ _)
  next returned after called =>
  have reading : ∀ event ∈ [CliEvent.read inputPath input], event.quiet = true := by simp [CliEvent.quiet]
  have reads := alive.nothing (entered_quiet reading)
  have next := invoke_alive reads called
  -- the slice of the output is within the buffer
  have goesOn : (writeOutput outputPath flags.maxOut world returned).2 = .reads :=
    writeOutput_next outputPath fun success =>
      (@invoke_written _ _ _ _ _ world valid alive inputPath _ _ _ _ _ _ called success).1
  refine ⟨?_, ?_, fun _ => congrArg Next.goesOn goesOn⟩
  · rw [everyEvent_cons, everyEvent_cons]
    refine ⟨trivial, reads, ?_⟩
    obtain quiet | ⟨output, wrote, success, rfl⟩ := writeOutput_wrote
    · exact everyEvent_of_forall fun _ event member => seen_quiet (quiet event member)
    · rw [wrote, everyEvent_cons]
      refine ⟨?_, everyEvent_nil _⟩
      rw [List.append_assoc]
      exact (invoke_written valid alive called success).2
  · have nothing : entered lib (writeOutput outputPath flags.maxOut world returned).1 = [] := by
      obtain quiet | ⟨output, wrote, _⟩ := writeOutput_wrote
      · exact entered_quiet quiet
      · rw [wrote]
        rfl
    have left := next.nothing nothing
    rwa [List.append_assoc, List.append_assoc] at left

theorem runDetectorSession_goes (valid : ∀ args, ValidMalloc world.device.invoke args)
    (alive : Alive lib contents before device) (args : List Bytes) :
    Goes lib contents before world (runDetectorSession lib teepErrCode args world device) := by
  unfold runDetectorSession
  split
  · exact goes_reads alive (by simp [CliEvent.quiet])
  · exact goes_reads alive (by simp [CliEvent.quiet])
  · exact detect_goes valid alive _ _ _

theorem close_enclave (teepErrCode : TeepErr → Int) (alive : Alive lib contents before device) :
    (close lib teepErrCode device).enclave = none := if_pos alive.initialized

theorem runCommand_goes (valid : ∀ args, ValidMalloc world.device.invoke args)
    (alive : Alive lib contents before device) (cmd : Bytes) (args : List Bytes) :
    Goes lib contents before world (runCommand lib teepErrCode cmd args world device) := by
  unfold runCommand
  split
  · exact runInstallSession_goes alive args
  split
  · exact runDetectorSession_goes valid alive args
  split
  · exact goes_reads alive (by simp [CliEvent.quiet])
  split
  · exact goes_quiet alive (by simp) fun _ => rfl
  · exact goes_reads alive (by simp [CliEvent.quiet])

theorem runLine_goes (valid : ∀ args, ValidMalloc world.device.invoke args)
    (alive : Alive lib contents before device) (text : Bytes) :
    Goes lib contents before world (runLine lib teepErrCode text world device) := by
  unfold runLine
  dsimp only
  split
  · exact goes_reads alive (by simp)
  next notBlank =>
  split
  · -- a line that is not blank has a first word
    next noWords =>
    rw [fields_trimSpace] at noWords
    exact absurd noWords (fields_ne_nil notBlank)
  · exact runCommand_goes valid alive _ _

/-! ## Sessions -/

/-- The enclave of a session is there until the session closes it. -/
structure SessionInvariant (lib : Libraries) (contents : KeyedEnclave) (events : List CliEvent) (state : CliState) :
    Prop where
  alive : state.next.leaves = false → Alive lib contents events state.device
  closed : state.next.leaves = true → state.device.enclave = none

/-- In the calls of a line the runtime keeps its promises. -/
def CliAction.Valid : CliAction → Prop
  | .line _ world => ∀ args, ValidMalloc world.device.invoke args
  | .ends _ => True

def CliAction.Served : CliAction → Prop
  | .line _ world => Cli.Served world
  | .ends _ => True

theorem cliStep_goes {state : CliState} {action : CliAction} (invariant : SessionInvariant lib contents before state)
    (valid : action.Valid) :
    let stepped := cliStep lib teepErrCode state action
    EveryEvent (Seen lib contents) before stepped.2 ∧ SessionInvariant lib contents (before ++ stepped.2) stepped.1 := by
  intro stepped
  by_cases reads : state.next = .reads
  · have alive := invariant.alive (by rw [reads]; rfl)
    cases action with
    | line text world =>
      have same : stepped = (⟨if _ then close lib teepErrCode _ else _, _⟩, _) := if_neg (not_not.mpr reads)
      obtain ⟨seen, stillAlive, _⟩ := @runLine_goes lib teepErrCode contents before state.device world valid alive text
      rw [same]
      refine ⟨seen, ?_, ?_⟩
      · intro stays
        rw [if_neg (Bool.not_eq_true _ ▸ stays)]
        exact stillAlive
      · intro leaves
        rw [if_pos leaves]
        exact close_enclave teepErrCode stillAlive
    | ends error =>
      have same : stepped = (⟨close lib teepErrCode state.device, .returns⟩, _) := if_neg (not_not.mpr reads)
      rw [same]
      refine ⟨everyEvent_of_forall fun _ event member => seen_quiet ?_, nofun,
        fun _ => close_enclave teepErrCode alive⟩
      split at member
      · rw [List.mem_singleton.mp member]
        rfl
      · cases member
  · have same : stepped = (state, []) := if_pos reads
    rw [same, List.append_nil]
    exact ⟨everyEvent_nil _, invariant⟩

/-- The enclave with which a session starts: it has been loaded, and given its key. -/
def firstEnclave (lib : Libraries) (keygen : CString) (world : World) : KeyedEnclave :=
  ((keyedMachine lib).run freshEnclave (keyActions world.init (if keygen ≠ [] then some keygen else none))).1

theorem setLogLevel_start {level : Int} {world : World} {returned : AttesterReturn}
    (set : siteCall lib teepErrCode (.setLogLevel level) world .start = some (returned, device)) :
    device.host.initialized = false ∧ device.host.keyReady = false := by
  simp only [siteCall, World.call, deviceStep, Observed.of, Option.map_some, Option.some.injEq,
    Prod.mk.injEq] at set
  obtain ⟨_, rfl⟩ := set
  simp only [App.attesterSetLogLevel]
  split
  · exact ⟨rfl, rfl⟩
  · exact ⟨rfl, rfl⟩

/-- A first initialisation that reports success has created the enclave. -/
theorem init_created {keygenMode : Option CString} {world : World} {returned : AttesterReturn} {after : DeviceState}
    (notInitialized : device.host.initialized = false) (notReady : device.host.keyReady = false)
    (made : siteCall lib teepErrCode (.init keygenMode) world device = some (returned, after))
    (success : returned.ret = 0) :
    after.host.initialized = true ∧
      after.enclave = some ((keyedMachine lib).run freshEnclave (keyActions world.init keygenMode)).1 := by
  simp only [siteCall, World.call, deviceStep, Observed.of, Option.map_some, Option.some.injEq,
    Prod.mk.injEq] at made
  obtain ⟨rfl, rfl⟩ := made
  simp only [attesterReturn, deviceInitialized, notInitialized, Bool.false_or] at success ⊢
  by_cases created : world.init.sgxCreateEnclave = .success
  · obtain ⟨prepared, _, initialized, same⟩ := sgxInitialized_created (hostInit lib teepErrCode world.init)
      keygenMode notInitialized created notReady
    rw [if_neg (by simpa using created), same]
    exact ⟨(initializeKey_initialized _ _ prepared).trans initialized, rfl⟩
  · -- the call reports that there is no enclave
    rw [if_pos (by simpa using created)] at success
    simp [App.sgxInitialized, App.configureStdio_eq, notInitialized, hostInit, created] at success

theorem startUp_alive {keygen : CString} {logLevel : Int} {world : World}
    (started : startUp lib teepErrCode keygen logLevel world = some device) :
    Alive lib (firstEnclave lib keygen world) [] device := by
  simp only [startUp] at started
  split at started
  · cases started
  next leveled device₁ set =>
  split at started
  · cases started
  split at started
  · cases started
  next returned device₂ made =>
  split at started
  · cases started
  next success =>
  cases started
  obtain ⟨notInitialized, notReady⟩ := setLogLevel_start set
  have returnedZero : returned.ret = 0 := by
    by_contra failed
    exact success (by rw [initializeEnclave, if_pos failed]; rfl)
  obtain ⟨initialized, enclave⟩ := init_created notInitialized notReady made returnedZero
  exact ⟨initialized, enclave⟩

/-- What holds of the lines with every world that they may meet holds of the input. -/
theorem inputActions_forall {property : CliAction → Prop} {worlds : Nat → CliWorld}
    (lines : ∀ text line, property (.line text (worlds line))) (ends : ∀ error, property (.ends error))
    (stdin : Bytes) (readFails : Bool) : ∀ action ∈ inputActions stdin readFails worlds, property action := by
  intro action member
  cases List.mem_append.mp member with
  | inl isLine =>
    obtain ⟨line, _, rfl⟩ := List.mem_map.mp isLine
    exact lines line.1 line.2
  | inr isEnd =>
    rw [List.mem_singleton.mp isEnd]
    exact ends _

theorem startUp_invariant {keygen : CString} {logLevel : Int} {world : World}
    (started : startUp lib teepErrCode keygen logLevel world = some device) :
    SessionInvariant lib (firstEnclave lib keygen world) [] ⟨device, .reads⟩ :=
  ⟨fun _ => startUp_alive started, nofun⟩

theorem session_goes {keygen : CString} {logLevel : Int} {world : World} {stdin : Bytes} {readFails : Bool}
    {worlds : Nat → CliWorld} {left : CliState} {events : List CliEvent}
    (valid : ∀ line args, ValidMalloc (worlds line).device.invoke args)
    (ran : session lib teepErrCode keygen logLevel world stdin readFails worlds = some (left, events)) :
    EveryEvent (Seen lib (firstEnclave lib keygen world)) [] events ∧
      SessionInvariant lib (firstEnclave lib keygen world) events left := by
  obtain ⟨device, started, same⟩ := Option.map_eq_some_iff.mp ran
  have start : SessionInvariant lib (firstEnclave lib keygen world) [] ⟨device, .reads⟩ := startUp_invariant started
  have documented : (cli lib teepErrCode).Meets (fun _ action => action.Valid) ⟨device, .reads⟩
      (inputActions stdin readFails worlds) :=
    ((cli lib teepErrCode).meets_const _ _ _).mpr
      (inputActions_forall (fun _ line => valid line) (fun _ => trivial) stdin readFails)
  have preserved : ∀ (before : List CliEvent) (state : CliState) (action : CliAction),
      SessionInvariant lib (firstEnclave lib keygen world) before state → action.Valid →
      SessionInvariant lib (firstEnclave lib keygen world) (before ++ ((cli lib teepErrCode).step state action).2)
        ((cli lib teepErrCode).step state action).1 := fun _ _ _ invariant valid => (cliStep_goes invariant valid).2
  have holds : ∀ (before : List CliEvent) (state : CliState) (action : CliAction),
      SessionInvariant lib (firstEnclave lib keygen world) before state → action.Valid →
      EveryEvent (Seen lib (firstEnclave lib keygen world)) before ((cli lib teepErrCode).step state action).2 :=
    fun _ _ _ invariant valid => (cliStep_goes invariant valid).1
  have seen := Machine.run_events preserved holds start documented
  have kept := Machine.run_history preserved start documented
  rw [same] at seen kept
  exact ⟨seen, kept⟩

/-- In every session, whatever is typed and whatever fails: a call finds the one enclave that the session has started
with, as the calls before have left it; what is written to a file has been written in this enclave, in a call on the
input that was read just before, by the app that was installed under its name; what is logged of an installation is how
its session with this enclave has ended; and the enclave is gone once the loop has been left, by a return or a panic. -/
theorem session_files (lib : Libraries) (teepErrCode : TeepErr → Int) (keygen : CString) (logLevel : Int)
    (world : World) (stdin : Bytes) (readFails : Bool) (worlds : Nat → CliWorld)
    (valid : ∀ line args, ValidMalloc (worlds line).device.invoke args) {left : CliState} {events : List CliEvent}
    (ran : session lib teepErrCode keygen logLevel world stdin readFails worlds = some (left, events)) :
    EveryEvent (Seen lib (firstEnclave lib keygen world)) [] events ∧
      (left.next = .returns ∨ left.next = .panics ↔ left.device.enclave = none) := by
  obtain ⟨seen, invariant⟩ := session_goes valid ran
  refine ⟨seen, ?_⟩
  have leaves : left.next = .returns ∨ left.next = .panics ↔ left.next.leaves = true := by
    cases left.next <;> simp [Next.leaves]
  rw [leaves]
  refine ⟨invariant.closed, ?_⟩
  intro gone
  by_contra stays
  rw [(invariant.alive (Bool.not_eq_true _ ▸ stays)).enclave] at gone
  cases gone

/-! ## The end of a session -/

theorem cliStep_goesOn {state : CliState} {action : CliAction} (invariant : SessionInvariant lib contents before state)
    (valid : action.Valid) (served : action.Served) (going : state.next.goesOn = true) :
    (cliStep lib teepErrCode state action).1.next.goesOn = true := by
  by_cases reads : state.next = .reads
  · have alive := invariant.alive (by rw [reads]; rfl)
    cases action with
    | line text world =>
      have same : cliStep lib teepErrCode state (.line text world) = (⟨_, _⟩, _) := if_neg (not_not.mpr reads)
      have goes : Goes lib contents before world (runLine lib teepErrCode text world state.device) :=
        runLine_goes valid alive text
      rw [same]
      exact goes.goesOn served
    | ends error =>
      have same : cliStep lib teepErrCode state (.ends error) = (⟨_, .returns⟩, _) := if_neg (not_not.mpr reads)
      rw [same]
      rfl
  · have same : cliStep lib teepErrCode state action = (state, []) := if_pos reads
    rwa [same]

/-- A loop that goes on returns at the end of its input. -/
theorem cliStep_ends {state : CliState} (going : state.next.goesOn = true) (error : Bool) :
    (cliStep lib teepErrCode state (.ends error)).1.next = .returns := by
  unfold cliStep
  split
  · next notReads =>
    cases isNext : state.next with
    | reads => exact absurd isNext notReads
    | returns => rfl
    | panics =>
      rw [isNext] at going
      cases going
    | stops =>
      rw [isNext] at going
      cases going
  · rfl

/-- A session in which every installation comes to an end, and in which `make` comes back with the buffers for the
outputs, returns, whatever is typed: no line makes it panic, and the end of the input ends it. -/
theorem session_returns (lib : Libraries) (teepErrCode : TeepErr → Int) (keygen : CString) (logLevel : Int)
    (world : World) (stdin : Bytes) (readFails : Bool) (worlds : Nat → CliWorld)
    (valid : ∀ line args, ValidMalloc (worlds line).device.invoke args) (served : ∀ line, Served (worlds line))
    {left : CliState} {events : List CliEvent}
    (ran : session lib teepErrCode keygen logLevel world stdin readFails worlds = some (left, events)) :
    left.next = .returns := by
  obtain ⟨device, started, same⟩ := Option.map_eq_some_iff.mp ran
  have preserved : ∀ (before : List CliEvent) (state : CliState) (action : CliAction),
      SessionInvariant lib (firstEnclave lib keygen world) before state ∧ state.next.goesOn = true →
      action.Valid ∧ action.Served →
      SessionInvariant lib (firstEnclave lib keygen world) (before ++ ((cli lib teepErrCode).step state action).2)
          ((cli lib teepErrCode).step state action).1 ∧
        ((cli lib teepErrCode).step state action).1.next.goesOn = true :=
    fun _ _ _ ⟨invariant, going⟩ ⟨valid, served⟩ =>
      ⟨(cliStep_goes invariant valid).2, cliStep_goesOn invariant valid served going⟩
  have documented : (cli lib teepErrCode).Meets (fun _ action => action.Valid ∧ action.Served) ⟨device, .reads⟩
      (inputActions stdin readFails worlds) :=
    ((cli lib teepErrCode).meets_const _ _ _).mpr
      (inputActions_forall (fun _ line => ⟨valid line, served line⟩) (fun _ => ⟨trivial, trivial⟩) stdin readFails)
  -- the lines keep the loop going or end it, and then the end of the input ends it
  have lines := ((Machine.meets_append _ _ _ _ _).mp documented).1
  have going := (Machine.run_history preserved ⟨startUp_invariant started, rfl⟩ lines).2
  have ended := congrArg (fun ran => ran.1.next) same
  rw [inputActions, Machine.run_append] at ended
  exact ended.symm.trans (cliStep_ends going _)

/-! ## An app that is installed and called -/

def typedWorld : CliWorld := ⟨{ workingWorld with exchanges := delivery }, fun _ => .ok [1, 2, 3], none⟩

def typed : Bytes :=
  ofString "install --wapp a\n\ndetector -wapp=a --func f --max-output=0x10 in.jpg ./out.jpg\nexit\n"

def typedSession : Option (CliState × List CliEvent) :=
  session smallLibraries smallCodes App.keygenNo 1 workingWorld typed false fun _ => typedWorld

def CliEvent.file : CliEvent → Option (Bytes × Bytes)
  | .wrote path output => some (path, output)
  | _ => none

theorem typedSession_shows {α : Type} {see : CliEvent → Option α} {value : α}
    (shows : (typedSession.map fun ran => ran.2.filterMap see) = some [value]) :
    ∃ left events, typedSession = some (left, events) ∧
      ∃ before event after, events = before ++ event :: after ∧ see event = some value := by
  obtain ⟨ran, isRan, seen⟩ := Option.map_eq_some_iff.mp shows
  have shown : value ∈ ran.2.filterMap see := by
    rw [seen]
    exact List.mem_singleton_self _
  obtain ⟨event, member, isSeen⟩ := List.mem_filterMap.mp shown
  obtain ⟨before, after, parts⟩ := List.append_of_mem member
  exact ⟨ran.1, ran.2, isRan, before, event, after, parts, isSeen⟩

theorem typedSession_wrote : ∃ left events, typedSession = some (left, events) ∧
    ∃ before after, events = before ++ .wrote (ofString "out.jpg") [42, 42] :: after := by
  have shows : (typedSession.map fun ran => ran.2.filterMap CliEvent.file) = some [(ofString "out.jpg", [42, 42])] := by
    decide +kernel
  obtain ⟨left, events, ran, before, event, after, parts, isFile⟩ := typedSession_shows shows
  cases event with
  | wrote path output =>
    cases isFile
    exact ⟨left, events, ran, before, after, parts⟩
  | _ => cases isFile

theorem session_files_typed : ∃ (left : CliState) (events : List CliEvent),
    EveryEvent (Seen smallLibraries (firstEnclave smallLibraries App.keygenNo workingWorld)) [] events ∧
      left.device.enclave = none ∧ ∃ path, .wrote path [42, 42] ∈ events := by
  obtain ⟨left, events, ran, before, after, wrote⟩ := typedSession_wrote
  have returned : (typedSession.map fun ran => ran.1.next) = some .returns := by decide +kernel
  obtain ⟨seen, closed⟩ := session_files smallLibraries smallCodes App.keygenNo 1 workingWorld typed false
    (fun _ => typedWorld) (fun _ => overlongInvoke_valid) ran
  rw [ran, Option.map_some, Option.some.injEq] at returned
  exact ⟨left, events, seen, closed.mp (.inl returned), ofString "out.jpg", by simp [wrote]⟩

theorem session_returns_typed : ∃ (left : CliState) (events : List CliEvent),
    typedSession = some (left, events) ∧ left.next = .returns := by
  obtain ⟨left, events, ran, _⟩ := typedSession_wrote
  refine ⟨left, events, ran, ?_⟩
  exact session_returns smallLibraries smallCodes App.keygenNo 1 workingWorld typed false (fun _ => typedWorld)
    (fun _ => overlongInvoke_valid) (fun _ => by decide +kernel) ran

end Taws.Frontend.Cli
