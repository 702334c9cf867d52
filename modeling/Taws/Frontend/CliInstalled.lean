import Taws.Device.Installed
import Taws.Frontend.CliSession

/-!
# What a session has installed

The enclave of a session of the command line is a catalogue of apps, as in `Taws.Enclave.Catalogue`, and its commands
show the user what that catalogue shows.

* `session_represents` — wherever a session has got to, its enclave stands for what has been delivered.
* `session_newest` — a file is written by the newest version of the app that the session has installed.
* `session_installs` — what is said to be installed is installed, in this version or a newer one.
-/

namespace Taws.Frontend.Cli

open Device
open Enclave
open TcManager
open Teep
open Wasm

variable {lib : Libraries} {contents : KeyedEnclave} {device : DeviceState}

/-! ## The catalogue of a session -/

/-- The first enclave of a session, beside a runtime that holds nothing. -/
def sessionStart (lib : Libraries) (keygen : CString) (world : World) : CatalogueState :=
  ⟨(firstEnclave lib keygen world).view, some .idle⟩

theorem firstEnclave_view (lib : Libraries) (keygen : CString) (world : World) :
    ∃ keyState agentKey, sessionStart lib keygen world = catalogueStart keyState agentKey := by
  obtain ⟨keyState, agentKey, fresh⟩ := created_view lib world.init (if keygen ≠ [] then some keygen else none)
  refine ⟨keyState, agentKey, ?_⟩
  rw [sessionStart, firstEnclave, fresh]
  rfl

/-- The catalogue machine goes the way of the enclave of the session. -/
theorem sessionRun_enclave (lib : Libraries) (keygen : CString) (world : World) (events : List CliEvent) :
    ((catalogueMachine lib).run (sessionStart lib keygen world) (entered lib events)).1.enclave =
      (enclaveAfter lib (firstEnclave lib keygen world) events).view := by
  rw [catalogueRun_enclave]
  exact (enclaveRun_view lib (firstEnclave lib keygen world) (entered lib events)).2.1.symm

/-- The actions of a session before a call, those of the call, and those after it. -/
theorem entered_called {front after : List CliEvent} {call : AttesterCall} {world : World}
    (alive : Alive lib contents front device) :
    entered lib (front ++ .called call world device :: after) =
      entered lib front ++ (callActions lib (enclaveAfter lib contents front).view world call ++ entered lib after) := by
  have calls : entered lib (.called call world device :: after) =
      callActions lib (enclaveAfter lib contents front).view world call ++ entered lib after := by
    simp only [entered, List.flatMap_cons, alive.enclave, Option.map_some, Option.getD_some]
  rw [entered_append, calls]

/-- Wherever a session has got to, its enclave stands for the catalogue of what it has been delivered. -/
theorem session_represents (sound : Enclave.Sound lib) {known : List Manifest}
    (installable : Installable lib.csuit known) {keygen : CString} {world : World} {events front : List CliEvent}
    (cooperates : (catalogueMachine lib).Meets (Cooperates known) (sessionStart lib keygen world) (entered lib events))
    (isPrefix : front <+: events) :
    ∃ history, SpecRun (CatalogueStep (wappName lib.csuit) rank (labelOf lib.csuit)) []
        ((catalogueMachine lib).observed (observe lib) (sessionStart lib keygen world) (entered lib front)) history ∧
      Represents lib known ((catalogueMachine lib).run (sessionStart lib keygen world) (entered lib front)).1 history := by
  obtain ⟨rest, rfl⟩ := isPrefix
  rw [entered_append, Machine.meets_append] at cooperates
  obtain ⟨keyState, agentKey, isStart⟩ := firstEnclave_view lib keygen world
  have startRepresents : Represents lib known (sessionStart lib keygen world) [] := by
    rw [isStart]
    exact start_represents lib known keyState agentKey
  exact run_represents sound installable startRepresents cooperates.1

/-- What is written to a file while the Updates of the session deliver known manifests, each of them whole or not at
all, has been written by the newest version of its app among those that the session has installed before. -/
theorem session_newest (lib : Libraries) (sound : Enclave.Sound lib) (known : List Manifest)
    (installable : Installable lib.csuit known) (teepErrCode : TeepErr → Int) (keygen : CString) (logLevel : Int)
    (world : World) (stdin : Bytes) (readFails : Bool) (worlds : Nat → CliWorld)
    (valid : ∀ line args, ValidMalloc (worlds line).device.invoke args) {left : CliState} {events : List CliEvent}
    (ran : session lib teepErrCode keygen logLevel world stdin readFails worlds = some (left, events))
    (cooperates : (catalogueMachine lib).Meets (Cooperates known) (sessionStart lib keygen world) (entered lib events))
    {before after : List CliEvent} {path output : Bytes} (wrote : events = before ++ .wrote path output :: after) :
    ∃ front inputPath input name funcName outputLen call device history manifest,
      before = front ++ [.read inputPath input, .called (.invokeWasm name funcName input outputLen) call device] ∧
      SpecRun (CatalogueStep (wappName lib.csuit) rank (labelOf lib.csuit)) []
        ((catalogueMachine lib).observed (observe lib) (sessionStart lib keygen world) (entered lib front)) history ∧
      IsLatest (wappName lib.csuit) rank history manifest ∧ manifest ∈ known ∧ wappName lib.csuit manifest = name ∧
      let reached := ((catalogueMachine lib).run (sessionStart lib keygen world) (entered lib front)).1
      let args := invokeArgs name funcName input outputLen
      observe lib reached (.invokeWasm call.invoke args) = .fetched name (some (labelOf lib.csuit manifest)) ∧
      outputs (ecallInvokeWasm lib.csuit call.invoke args reached.enclave.table reached.enclave.wamr).2.2.2 =
        [output] := by
  obtain ⟨seen, _⟩ := session_goes valid ran
  obtain ⟨front, inputPath, input, name, funcName, outputLen, call, device, rfl, installed, ok, written, calls⟩ :=
    seen before (.wrote path output) after wrote
  have parts : events = (front ++ [.read inputPath input]) ++
      .called (.invokeWasm name funcName input outputLen) call device :: .wrote path output :: after := by
    rw [wrote]
    simp
  have isPrefix : front <+: events := ⟨_, by rw [parts, List.append_assoc]⟩
  obtain ⟨history, run, represents⟩ := session_represents sound installable cooperates isPrefix
  -- the call finds the enclave as the actions of the session have left it; reading the input is none of them
  have found : Alive lib (firstEnclave lib keygen world) (front ++ [.read inputPath input]) device := by
    refine seen (front ++ [.read inputPath input]) (.called (.invokeWasm name funcName input outputLen) call device)
      (.wrote path output :: after) ?_
    exact parts
  have reading : entered lib (front ++ [.read inputPath input]) = entered lib front := by
    rw [entered_append]
    exact List.append_nil _
  have same : enclaveAfter lib (firstEnclave lib keygen world) (front ++ [.read inputPath input]) =
      enclaveAfter lib (firstEnclave lib keygen world) front := by rw [enclaveAfter, reading, enclaveAfter]
  rw [parts, entered_called found, reading, same, calls, Machine.meets_append] at cooperates
  obtain ⟨_, limited, _⟩ := cooperates
  rw [← sessionRun_enclave lib keygen world front] at ok written
  obtain ⟨manifest, latest, named, fetched⟩ := invoked_latest sound installable represents limited ok
  exact ⟨front, inputPath, input, name, funcName, outputLen, call, device, history, manifest, rfl, run, latest,
    represents.seen manifest latest.1, named, fetched, written⟩

/-- An installation of which it is logged that it has ended well has delivered each of its batches whole; and from
then on, to the end of the session, the app of every manifest in them is installed, in this version or a newer one. -/
theorem session_installs (lib : Libraries) (sound : Enclave.Sound lib) (known : List Manifest)
    (installable : Installable lib.csuit known) (teepErrCode : TeepErr → Int) (keygen : CString) (logLevel : Int)
    (world : World) (stdin : Bytes) (readFails : Bool) (worlds : Nat → CliWorld)
    (valid : ∀ line args, ValidMalloc (worlds line).device.invoke args) {left : CliState} {events : List CliEvent}
    (ran : session lib teepErrCode keygen logLevel world stdin readFails worlds = some (left, events))
    (cooperates : (catalogueMachine lib).Meets (Cooperates known) (sessionStart lib keygen world) (entered lib events))
    {before after : List CliEvent} {text : String} (logged : events = before ++ .logged text :: after) :
    ∃ front tamUrl appName call device, before = front ++ [.called (.install tamUrl appName) call device] ∧
      let found := ((catalogueMachine lib).run (sessionStart lib keygen world) (entered lib front)).1
      let shown := (catalogueMachine lib).observed (observe lib) found
        (ecalls lib appName call.exchanges found.enclave)
      (∀ entries, .interrupted entries ∉ shown) ∧
      ∀ entries, .delivered entries ∈ shown → ∀ manifest ∈ entries, ∀ later, later <+: after →
        ∃ record ∈ (enclaveAfter lib (firstEnclave lib keygen world)
            (before ++ .logged text :: later)).view.table.active,
          record.wappName = wappName lib.csuit manifest ∧ manifest.sequenceNumber ≤ record.manifestSequenceNumber := by
  obtain ⟨seen, _⟩ := session_goes valid ran
  obtain ⟨front, tamUrl, appName, call, device, result, rfl, ended, tells⟩ := seen before (.logged text) after logged
  have found : Alive lib (firstEnclave lib keygen world) front device := by
    refine seen front (.called (.install tamUrl appName) call device) (.logged text :: after) ?_
    rw [logged]
    simp
  refine ⟨front, tamUrl, appName, call, device, rfl, ?_, ?_⟩
  · rw [← sessionRun_enclave lib keygen world front] at ended
    exact session_whole ended (tells.imp And.left And.left)
  · intro entries delivered manifest member later isPrefix
    have within : front ++ [.called (.install tamUrl appName) call device] ++ .logged text :: later <+: events := by
      rw [logged]
      exact (List.prefix_append_right_inj _).mpr ((List.prefix_cons_inj _).mpr isPrefix)
    obtain ⟨history, run, represents⟩ := session_represents sound installable cooperates within
    have parts : entered lib (front ++ [.called (.install tamUrl appName) call device] ++ .logged text :: later) =
        entered lib front ++ (ecalls lib appName call.exchanges
          (enclaveAfter lib (firstEnclave lib keygen world) front).view ++ entered lib (.logged text :: later)) := by
      rw [List.append_assoc]
      exact entered_called found
    rw [parts, Machine.observed_append, Machine.observed_append, ← sessionRun_enclave lib keygen world front] at run
    have inHistory := CatalogueRun.delivered run
      (List.mem_append_right _ (List.mem_append_left _ delivered)) manifest member
    have stands := represents.stands
    rw [sessionRun_enclave] at stands
    exact stands.installed inHistory

/-! ## An app that is installed and called -/

def CliEvent.text : CliEvent → Option String
  | .logged text => some text
  | _ => none

theorem typedSession_logged : ∃ left events, typedSession = some (left, events) ∧
    ∃ before after, events = before ++ .logged "TEEP install finished." :: after := by
  have shows : (typedSession.map fun ran => ran.2.filterMap CliEvent.text) = some ["TEEP install finished."] := by
    decide +kernel
  obtain ⟨left, events, ran, before, event, after, parts, isText⟩ := typedSession_shows shows
  cases event with
  | logged text =>
    cases isText
    exact ⟨left, events, ran, before, after, parts⟩
  | _ => cases isText

theorem typedSession_cooperates {left : CliState} {events : List CliEvent} (ran : typedSession = some (left, events)) :
    (catalogueMachine smallLibraries).Meets (Cooperates versions)
      (sessionStart smallLibraries App.keygenNo workingWorld) (entered smallLibraries events) := by
  have met : typedSession.all (fun ran => (catalogueMachine smallLibraries).Meets (Cooperates versions)
      (sessionStart smallLibraries App.keygenNo workingWorld) (entered smallLibraries ran.2)) = true := by
    decide +kernel
  rw [ran] at met
  exact of_decide_eq_true met

theorem session_newest_typed : ∃ (history : List Manifest), ∃ manifest ∈ versions,
    IsLatest (wappName smallCsuit) rank history manifest := by
  obtain ⟨left, events, ran, before, after, wrote⟩ := typedSession_wrote
  obtain ⟨_, _, _, _, _, _, _, _, history, manifest, _, _, latest, member, _⟩ := session_newest smallLibraries
    smallLibraries_sound versions appVersions_installable smallCodes App.keygenNo 1 workingWorld typed false
    (fun _ => typedWorld) (fun _ => overlongInvoke_valid) ran (typedSession_cooperates ran) wrote
  exact ⟨history, manifest, member, latest⟩

theorem session_installs_typed : ∃ left events before after, typedSession = some (left, events) ∧
    events = before ++ .logged "TEEP install finished." :: after ∧
    ∃ front tamUrl appName call device, before = front ++ [.called (.install tamUrl appName) call device] ∧
      let found := ((catalogueMachine smallLibraries).run (sessionStart smallLibraries App.keygenNo workingWorld)
        (entered smallLibraries front)).1
      let shown := (catalogueMachine smallLibraries).observed (observe smallLibraries) found
        (ecalls smallLibraries appName call.exchanges found.enclave)
      (∀ entries, .interrupted entries ∉ shown) ∧
      ∀ entries, .delivered entries ∈ shown → ∀ manifest ∈ entries, ∀ later, later <+: after →
        ∃ record ∈ (enclaveAfter smallLibraries (firstEnclave smallLibraries App.keygenNo workingWorld)
            (before ++ .logged "TEEP install finished." :: later)).view.table.active,
          record.wappName = wappName smallCsuit manifest ∧
            manifest.sequenceNumber ≤ record.manifestSequenceNumber := by
  obtain ⟨left, events, ran, before, after, logged⟩ := typedSession_logged
  exact ⟨left, events, before, after, ran, logged, session_installs smallLibraries smallLibraries_sound versions
    appVersions_installable smallCodes App.keygenNo 1 workingWorld typed false (fun _ => typedWorld)
    (fun _ => overlongInvoke_valid) ran (typedSession_cooperates ran) logged⟩

end Taws.Frontend.Cli
