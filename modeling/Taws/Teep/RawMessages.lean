import Taws.RawArray
import Taws.Teep.QueryOutcome
import Taws.Teep.Update

/-!
# Messages as they lie in memory

`recv_message` is not initialised, so of a field whose bit is not set the count of an array and the pointers
in it are arbitrary as well.  A read behind an array, and a copy from a pointer that leads nowhere, have no
outcome here; that of a request that makes neither is the one on the message that is seen.

* `RawQueryRequest`, `RawUpdate` — what is decoded is within its array and readable, nothing else need be.
* `processRawQueryRequest`, `processRawUpdate` — `none` where the code reads what is not there.
* `processRawQueryRequest_view`, `processRawUpdate_view` — on what is decoded they are the functions on lists.
-/

namespace Taws.Teep

open TcManager
open Suit

variable {capacity : Nat}

/-! ## QueryRequests -/

/-- The token and the challenge are buffers: an absent token is copied and never followed, and an absent
challenge is not looked at. -/
structure RawQueryRequest (capacity : Nat) where
  contains : Finset MessageField
  dataItemRequested : DataItemRequested
  token : Buffer
  versions : RawArray Nat capacity
  supportedTeepCipherSuites : RawArray TeepCipherSuite capacity
  challenge : Buffer
  versionsDecoded : .versions ∈ contains → versions.len ≤ capacity
  suitesDecoded : .supportedTeepCipherSuites ∈ contains → supportedTeepCipherSuites.len ≤ capacity

namespace RawQueryRequest

/-- The message with the slots that its counts cover. -/
def view (raw : RawQueryRequest capacity) : TeepQueryRequest where
  contains := raw.contains
  dataItemRequested := raw.dataItemRequested
  token := raw.token
  versions := raw.versions.held
  supportedTeepCipherSuites := raw.supportedTeepCipherSuites.held
  challenge := raw.challenge

def versionSupported (raw : RawQueryRequest capacity) : Option Bool :=
  if .versions ∈ raw.contains then raw.versions.search (· == supportedVersion) else some true

/-- The loop runs up to the count whether or not the bit is set. -/
def negotiatedCipherSuite (teep : Libteep) (raw : RawQueryRequest capacity) : Option TeepCipherSuite :=
  let preset :=
    if .supportedTeepCipherSuites ∉ raw.contains then supportedTeepCipherSuite teep
    else teepCipherSuiteInvalid teep
  match raw.supportedTeepCipherSuites.search
      fun suite => teep.teepCipherSuiteIsSame suite (supportedTeepCipherSuite teep) with
  | none => none
  | some found => some (if found then supportedTeepCipherSuite teep else preset)

end RawQueryRequest

def buildRawQueryResponse (lib : Libraries) (env : QueryEnv) (raw : RawQueryRequest capacity) (workBuf : Nat)
    (appName : Option CString) (keyPair : TeepKey) (table : RecordTable) :
    Option (Except TeepErrCode TeepQueryResponse × List Event) :=
  match raw.versionSupported with
  | none => none
  -- the list of cipher suites is not read
  | some false => some (.error .unsupportedMsgVersion, [])
  | some true =>
    match raw.negotiatedCipherSuite lib.teep with
    | none => none
    | some cipherSuite =>
      if lib.teep.teepCipherSuiteIsSame cipherSuite (teepCipherSuiteInvalid lib.teep) then
        some (.error .unsupportedCipherSuites, [])
      else some (requestedItems lib env raw.view workBuf appName keyPair table)

def processRawQueryRequest (lib : Libraries) (env : QueryEnv) (raw : RawQueryRequest capacity) (workBuf : Nat)
    (appName : Option CString) (keyPair : TeepKey) (table : RecordTable) :
    Option (TeepErr × TeepMessage × List Event) :=
  match buildRawQueryResponse lib env raw workBuf appName keyPair table with
  | none => none
  | some (.error code, events) =>
    some (.success, createError lib.teep raw.token code (.null 0) (.null 0), events)
  | some (.ok queryResponse, events) => some (.success, .queryResponse queryResponse, events)

variable {lib : Libraries} {raw : RawQueryRequest capacity} {env : QueryEnv} {workBuf : Nat}
  {appName : Option CString} {keyPair : TeepKey} {table : RecordTable}

theorem RawQueryRequest.versionSupported_view (raw : RawQueryRequest capacity) :
    raw.versionSupported = some (Teep.versionSupported raw.view) := by
  unfold RawQueryRequest.versionSupported Teep.versionSupported
  by_cases listed : .versions ∈ raw.contains
  · rw [if_pos listed, if_pos (by exact listed), RawArray.search_inBounds (raw.versionsDecoded listed),
      List.any_beq']
    rfl
  · rw [if_neg listed, if_neg (by exact listed)]

/-- The list of cipher suites is not reached, or it is there. -/
def RawQueryRequest.SuitesRead (raw : RawQueryRequest capacity) : Prop :=
  VersionRefused raw.view ∨ .supportedTeepCipherSuites ∈ raw.contains

theorem RawQueryRequest.negotiatedCipherSuite_view (teep : Libteep)
    (listed : .supportedTeepCipherSuites ∈ raw.contains) :
    raw.negotiatedCipherSuite teep = some (Teep.negotiatedCipherSuite teep raw.view) := by
  simp only [RawQueryRequest.negotiatedCipherSuite, RawArray.search_inBounds (raw.suitesDecoded listed)]
  rfl

theorem buildRawQueryResponse_view (read : raw.SuitesRead) :
    buildRawQueryResponse lib env raw workBuf appName keyPair table =
      some (buildQueryResponse lib env raw.view workBuf appName keyPair table) := by
  simp only [buildRawQueryResponse, buildQueryResponse, raw.versionSupported_view]
  cases read with
  | inl refused => rw [versionSupported_eq_false.mpr refused]; rfl
  | inr listed =>
    rw [RawQueryRequest.negotiatedCipherSuite_view lib.teep listed]
    cases Teep.versionSupported raw.view with
    | false => rfl
    | true =>
      simp only [Bool.not_true, Bool.false_eq_true, if_false]
      split <;> rfl

theorem processRawQueryRequest_view (read : raw.SuitesRead) :
    processRawQueryRequest lib env raw workBuf appName keyPair table =
      some (processQueryRequest lib env raw.view workBuf appName keyPair table) := by
  rw [processRawQueryRequest, buildRawQueryResponse_view read, processQueryRequest]
  rcases buildQueryResponse lib env raw.view workBuf appName keyPair table with ⟨outcome, events⟩
  cases outcome <;> rfl

/-- Without the bit the loop may leave the array. -/
theorem processRawQueryRequest_overrun {suite : TeepCipherSuite} (supported : ¬ VersionRefused raw.view)
    (other : lib.teep.teepCipherSuiteIsSame suite (supportedTeepCipherSuite lib.teep) = false)
    (overruns : raw.supportedTeepCipherSuites = RawArray.overrun capacity suite) :
    processRawQueryRequest lib env raw workBuf appName keyPair table = none := by
  have isSupported : Teep.versionSupported raw.view = true := by
    rw [← Bool.not_eq_false, versionSupported_eq_false]
    exact supported
  have left : (RawArray.overrun capacity suite).search
      (fun each => lib.teep.teepCipherSuiteIsSame each (supportedTeepCipherSuite lib.teep)) = none :=
    RawArray.overrun_search other
  have noSuite : raw.negotiatedCipherSuite lib.teep = none := by
    simp only [RawQueryRequest.negotiatedCipherSuite, overruns, left]
  simp only [processRawQueryRequest, buildRawQueryResponse, raw.versionSupported_view, isSupported, noSuite]

/-! ## Updates -/

/-- A `teep_buf_t`; behind a pointer that leads nowhere there is nothing to copy. -/
inductive RawBuf where
  | readable (buffer : Buffer)
  | dangling (len : Nat)

def RawBuf.toBuffer : RawBuf → Buffer
  | .readable buffer => buffer
  | .dangling len => .null len

structure RawUpdate (capacity : Nat) where
  contains : Finset MessageField
  token : Buffer
  manifestList : RawArray RawBuf capacity
  listDecoded : .manifestList ∈ contains →
    manifestList.len ≤ capacity ∧ ∀ item ∈ manifestList.held, ∃ buffer, item = .readable buffer

def RawUpdate.view (raw : RawUpdate capacity) : TeepUpdate where
  contains := raw.contains
  token := raw.token
  manifestList := raw.manifestList.held.map RawBuf.toBuffer

/-- The set-up comes first, then the checks of the length, and then the envelope is copied. -/
def processRawManifest (csuit : Libcsuit) (env : ManifestEnv) (item : RawBuf) (state : SuitState) :
    Option (SuitState × List Event × Option UpdateFailure) :=
  match item with
  | .readable buffer => some (processManifest csuit env buffer state)
  | .dangling len =>
    let setUp := setUpProcessor env
    match setUp.ready with
    | none => some (state, setUp.events ++ release setUp.held, some { errCode := .temporaryError })
    | some (_, envelopeBufLen) =>
      if len == 0 || len > envelopeBufLen then
        some (state, setUp.events ++ release setUp.held, some { errCode := .permanentError })
      -- `memcpy` from nowhere
      else none

def processRawManifests (csuit : Libcsuit) (manifests : Nat → ManifestEnv) :
    Nat → List RawBuf → SuitState → Option (SuitState × List Event × Option UpdateFailure)
  | _, [], state => some (state, [], none)
  | index, item :: items, state =>
    match processRawManifest csuit (manifests index) item state with
    | none => none
    | some (state, events, some failure) => some (state, events, some failure)
    | some (state, events, none) =>
      match processRawManifests csuit manifests (index + 1) items state with
      | none => none
      | some rest => some (rest.1, events ++ rest.2.1, rest.2.2)

/-- The array has as many slots as the count is allowed to be, and the count is checked whether or not the bit
is set. -/
def processRawUpdate (lib : Libraries) (manifests : Nat → ManifestEnv)
    (raw : RawUpdate lib.teep.teepMaxArrayLength) (state : SuitState) : Option UpdateResult :=
  let refused : UpdateResult :=
    ⟨.success, createError lib.teep raw.token .permanentError (.null 0) (.null 0), state, []⟩
  if !tokenAccepted raw.view then some refused
  else if !(1 ≤ raw.manifestList.len && raw.manifestList.len ≤ lib.teep.teepMaxArrayLength) then some refused
  else
    match processRawManifests lib.csuit manifests 0 raw.manifestList.held state with
    | none => none
    | some (state, events, some failure) =>
      some ⟨.success, createError lib.teep raw.token failure.errCode (.null 0) failure.errorSuitReport,
        state, events⟩
    | some (state, events, none) =>
      some ⟨.success, createSuccess raw.view (suitGetSuitReport state), state, events⟩

theorem processRawManifests_readable (csuit : Libcsuit) (manifests : Nat → ManifestEnv) (index : Nat)
    {items : List RawBuf} (readable : ∀ item ∈ items, ∃ buffer, item = .readable buffer) (state : SuitState) :
    processRawManifests csuit manifests index items state =
      some (processManifests csuit manifests index (items.map RawBuf.toBuffer) state) := by
  induction items generalizing index state with
  | nil => rfl
  | cons item items inductionHypothesis =>
    obtain ⟨buffer, rfl⟩ := readable item List.mem_cons_self
    have rest := inductionHypothesis (index + 1)
      fun item member => readable item (List.mem_cons_of_mem _ member)
    simp only [processRawManifests, processRawManifest, List.map_cons, RawBuf.toBuffer, processManifests]
    rcases processManifest csuit (manifests index) buffer state with ⟨after, events, outcome⟩
    cases outcome with
    | some failure => rfl
    | none => simp only [rest]

theorem RawUpdate.manifestListAccepted_view {raw : RawUpdate capacity} (teep : Libteep)
    (inBounds : raw.manifestList.len ≤ capacity) : manifestListAccepted teep raw.view =
      (1 ≤ raw.manifestList.len && raw.manifestList.len ≤ teep.teepMaxArrayLength) := by
  have length : raw.view.manifestList.length = raw.manifestList.len := by
    simp [RawUpdate.view, RawArray.held, inBounds]
  rw [manifestListAccepted, length]

theorem processRawUpdate_view {manifests : Nat → ManifestEnv} {raw : RawUpdate lib.teep.teepMaxArrayLength}
    (listed : .manifestList ∈ raw.contains) (state : SuitState) :
    processRawUpdate lib manifests raw state = some (processUpdate lib manifests raw.view state) := by
  obtain ⟨inBounds, readable⟩ := raw.listDecoded listed
  have list : raw.view.manifestList = raw.manifestList.held.map RawBuf.toBuffer := rfl
  simp only [processRawUpdate, processUpdate, RawUpdate.manifestListAccepted_view lib.teep inBounds, list,
    processRawManifests_readable lib.csuit manifests 0 readable state]
  split
  · rfl
  · split
    · rfl
    · rcases processManifests lib.csuit manifests 0 (raw.manifestList.held.map RawBuf.toBuffer) state with
        ⟨after, events, outcome⟩
      cases outcome <;> rfl

end Taws.Teep
