import Taws.Device.Lifetime
import Taws.Enclave.KeyBuffers

/-!
# What the key of a device is used for

What the device posts beside the empty body has been signed in its enclave, and an enclave signs only while its
key is ready.  The buffers of the key are freed by one kind of call only, a key generation that fails after its
pair has been stored; the host never reaches the other calls that would free them.

* `PostsSigned`, `posts_signed`
* `DropsPair`, `keyBuffers_kept_iff`
-/

namespace Taws.Device

open App (TeepSessionResult SessionState KeySource sessionLoop)
open Enclave
open Teep

variable {lib : Libraries} {teepErrCode : TeepErr → Int} {appName : CString} {state : DeviceState}

/-! ## Posting -/

/-- The loop posts what it starts with and what the enclave has signed since. -/
theorem sessionLoop_posts (exchanges : List Exchange) (enclave : EnclaveState) (state : SessionState) :
    ∀ body ∈ (sessionLoop (rounds lib appName exchanges enclave) state).posts, body = state.body ∨
      body ∈ signedIn ((enclaveMachine lib).run enclave (ecalls lib appName exchanges enclave)).2 := by
  induction exchanges generalizing enclave state with
  | nil =>
    intro body posted
    cases posted
  | cons exchange exchanges inductionHypothesis =>
    intro body posted
    rw [rounds_cons] at posted
    obtain ⟨result, ended, _⟩ | ⟨continues, goesOn⟩ :=
      App.sessionLoop_cases (roundOf lib appName enclave exchange)
        (rounds lib appName exchanges (after lib appName enclave exchange)) state
    · rw [ended, App.Round.posts] at posted
      split at posted
      · exact .inl (List.mem_singleton.mp posted)
      · cases posted
    · rw [goesOn] at posted
      cases List.mem_cons.mp posted with
      | inl first => exact .inl first
      | inr later =>
        obtain ⟨enters, message, cose, sends, ecall⟩ := continues_sends continues
        have next : ((enclaveMachine lib).step enclave (exchange.action appName)).1 =
            after lib appName enclave exchange := (if_pos enters).symm
        rw [ecalls, if_pos enters, if_neg sends.not_fatal, Machine.run_cons, next, signedIn_append]
        right
        cases inductionHypothesis (after lib appName enclave exchange) _ body later with
        | inl produced =>
          rw [App.afterEcall_body, ecall] at produced
          have signed : signedIn ((enclaveMachine lib).step enclave (exchange.action appName)).2 = [cose] :=
            sends.signed
          rw [signed, produced]
          exact List.mem_append_left _ List.mem_cons_self
        | inr signed => exact List.mem_append_right _ signed

/-- An enclave without a ready key refuses the first call, and the session ends with it. -/
theorem unready_unsigned {enclave : EnclaveState} (notReady : enclave.keyState ≠ .ready)
    (exchanges : List Exchange) :
    signedIn ((enclaveMachine lib).run enclave (ecalls lib appName exchanges enclave)).2 = [] := by
  cases exchanges with
  | nil => rfl
  | cons exchange exchanges =>
    have refused : ecallProcessMessage lib exchange.env (exchange.args appName) enclave = ⟨.fatal, enclave, []⟩ := by
      rw [ecallProcessMessage, if_pos notReady]
    have unsigned : ((enclaveMachine lib).step enclave (exchange.action appName)).2 = [] :=
      congrArg MessageOutcome.events refused
    rw [ecalls]
    split
    · rw [refused, if_pos rfl, Machine.run_cons, unsigned]
      rfl
    · rfl

theorem mem_signedIn {events : List Event} {cose : Bytes} (member : cose ∈ signedIn events) :
    .signed cose ∈ events := by
  obtain ⟨event, there, same⟩ := List.mem_filterMap.mp member
  cases event with
  | signed message =>
    cases Option.some.inj same
    exact there
  | _ => cases same

/-- What the call has posted beside empty bodies was signed in the call, by an enclave whose key is ready: a pair
with its own thumbprint next to the key of the TAM. -/
def PostsSigned (sha256 : Bytes → Sha256Hash) (stepped : DeviceState × Observed) : Prop :=
  ∀ body ∈ stepped.2.posts, body ≠ [] → .inr (.signed body) ∈ stepped.2.events ∧
    ∃ contents ∈ stepped.1.enclave, contents.keys.keyState = .ready ∧ KeyReady sha256 contents.keys

variable {sha256 : Bytes → Sha256Hash}

/-- The enclave of a device is as sound as the ECALLs make it. -/
theorem Lives.sound (encodes : EncodesThumbprint lib.qcbor) (lives : Lives lib (KeyEnv.Documented sha256) state) :
    ∀ contents ∈ state.enclave, ReadyIsSound sha256 contents.keys := by
  intro contents there
  obtain ⟨env, keygenMode, actions, life⟩ := lives.life contents there
  rw [life.keys]
  apply keyedRun_sound encodes _ (.of_uninitialized rfl)
  intro action member
  unfold keyActions at member
  split at member
  · obtain ⟨source, _, rfl⟩ := List.mem_map.mp member
    cases source with
    | generated => exact life.allowed
    | builtIn => exact life.allowed
  · cases member

theorem deviceInstall_posts (encodes : EncodesThumbprint lib.qcbor)
    (lives : Lives lib (KeyEnv.Documented sha256) state) (tamUrl appName : Option CString) (coseSend : Bytes)
    (exchanges : List Exchange) :
    PostsSigned sha256 (deviceInstall lib tamUrl appName coseSend exchanges state) := by
  unfold deviceInstall
  split
  · next url name contents there =>
    intro body posted notEmpty
    have signed := (sessionLoop_posts exchanges contents.view ⟨coseSend, 0, false, false⟩ body posted).resolve_left
      notEmpty
    obtain ⟨keys, _, events⟩ := enclaveRun_view lib contents (ecalls lib name exchanges contents.view)
    have ready : contents.view.keyState = .ready := by
      by_contra notReady
      rw [unready_unsigned notReady] at signed
      cases signed
    simp only [enter, there]
    constructor
    · rw [events]
      exact List.mem_map_of_mem (mem_signedIn signed)
    · refine ⟨_, rfl, ?_⟩
      rw [keys]
      exact ⟨ready, lives.sound encodes contents there ready⟩
  · intro body posted
    cases posted

theorem deviceStep_posts (codes : ∀ err, teepErrCode err = 0 ↔ err = .success)
    (encodes : EncodesThumbprint lib.qcbor) (lives : Lives lib (KeyEnv.Documented sha256) state)
    (call : DeviceCall) (documented : call.Allowed (KeyEnv.Documented sha256)) :
    PostsSigned sha256 (deviceStep lib teepErrCode state call) := by
  cases call with
  | init env keygenMode => intro body posted; cases posted
  | setLogLevel level ecall => intro body posted; cases posted
  | close => intro body posted; cases posted
  | install env tamUrl appName coseSend exchanges =>
    have initialised := deviceInitialized_lives codes env none lives documented
    simp only [deviceStep]
    split
    · intro body posted
      cases posted
    · intro body posted notEmpty
      obtain ⟨signed, ready⟩ :=
        deviceInstall_posts encodes initialised tamUrl appName coseSend exchanges body posted notEmpty
      exact ⟨List.mem_append_right _ signed, ready⟩
  | invokeWasm env sgxRet invoke args =>
    simp only [deviceStep]
    split
    · intro body posted
      cases posted
    · intro body posted
      simp only [deviceInvokeWasm] at posted
      split at posted
      · cases posted
      · split at posted <;> cases posted

/-- In every run of a device, whatever fails at any call: what it posts beside empty bodies has been signed in the
same call by an enclave with a ready key. -/
theorem posts_signed (lib : Libraries) (teepErrCode : TeepErr → Int)
    (codes : ∀ err, teepErrCode err = 0 ↔ err = .success) (sha256 : Bytes → Sha256Hash)
    (encodes : EncodesThumbprint lib.qcbor) (calls : List DeviceCall)
    (documented : ∀ call ∈ calls, call.Allowed (KeyEnv.Documented sha256)) :
    (device lib teepErrCode).Meets
      (fun state call => PostsSigned sha256 (deviceStep lib teepErrCode state call)) .start calls := by
  have meets : (device lib teepErrCode).Meets (fun _ call => call.Allowed (KeyEnv.Documented sha256)) .start calls :=
    ((device lib teepErrCode).meets_const _ _ _).mpr documented
  have preserved : ∀ (state : DeviceState) (call : DeviceCall), Lives lib (KeyEnv.Documented sha256) state →
      call.Allowed (KeyEnv.Documented sha256) →
      Lives lib (KeyEnv.Documented sha256) ((device lib teepErrCode).step state call).1 :=
    fun _ call lives documented => deviceStep_lives codes call lives documented
  have holds : ∀ (state : DeviceState) (call : DeviceCall), Lives lib (KeyEnv.Documented sha256) state →
      call.Allowed (KeyEnv.Documented sha256) → PostsSigned sha256 (deviceStep lib teepErrCode state call) :=
    fun _ call lives documented => deviceStep_posts codes encodes lives call documented
  exact (Machine.meets_of_invariant preserved holds start_lives meets).1

/-- The built-in key, and a session. -/
def installCalls : List DeviceCall :=
  [.init workingDevice (some App.keygenNo), .install workingDevice (some [1]) (some [97]) [] firstSession]

theorem posts_signed_installed :
    (device smallLibraries smallCodes).Meets
      (fun state call => PostsSigned smallThumbprint (deviceStep smallLibraries smallCodes state call))
      .start installCalls ∧
    ((device smallLibraries smallCodes).run .start installCalls).2.flatMap Observed.posts =
      [[], Cbor.encode (.array [.unsigned 2])] := by
  refine ⟨?_, by decide +kernel⟩
  apply posts_signed smallLibraries smallCodes smallCodes_success smallThumbprint referenceQcbor_encodesThumbprint
  intro call member
  rcases List.mem_cons.mp member with rfl | member
  · exact workingKeyEnv_documented
  · rw [List.mem_singleton.mp member]
    exact workingKeyEnv_documented

/-! ## The buffers of the key -/

/-- The call of `sgx_initialized` that a call makes, if it makes one. -/
def DeviceCall.initialization : DeviceCall → Option (DeviceInit × Option CString)
  | .init env keygenMode => some (env, keygenMode)
  | .install env _ _ _ _ => some (env, none)
  | .invokeWasm env _ _ _ => some (env, none)
  | .setLogLevel _ _ => none
  | .close => none

/-- The call creates an enclave and has it generate a key, and the key ECALL stores the pair and then fails. -/
structure DropsPair (lib : Libraries) (state : DeviceState) (env : DeviceInit) (keygenMode : Option CString) :
    Prop where
  first : state.host.initialized = false
  created : env.sgxCreateEnclave = .success
  entered : env.ecallKey = .success
  generated : requestedKey keygenMode = some .generated
  stored : (keyCall env .generated).StoresGeneratedPair
  failed : keyResult lib.qcbor initialKeys (keyCall env .generated) ≠ .success

def FreesKeyBuffer (events : List (KeyEvent ⊕ Event)) : Prop := ∃ pointer, .inl (.freed pointer) ∈ events

/-- On an enclave that has no key yet, only a generation that fails late frees anything. -/
theorem generate_frees_iff (qcbor : Qcbor) (openssl : OpensslEnv) (env : KeyEnv) :
    (∃ pointer, .freed pointer ∈ (ecallTeepGenerateEsp256KeyPair qcbor openssl env initialKeys).events) ↔
      (openssl.keyGenerated = true ∧ env.keyInit = .success) ∧
        (ecallTeepGenerateEsp256KeyPair qcbor openssl env initialKeys).result ≠ .success := by
  have nothing : (clearAgentSignBuffers
      { initialKeys with privBytes := Vector.replicate _ 0, pubBytes := Vector.replicate _ 0 }).2 = [] :=
    clear_unowned rfl rfl rfl
  have cases := generate_cases qcbor openssl env initialKeys
  simp only [nothing] at cases
  obtain ⟨notStored, result, prepared, same, noPrivate, noPublic, noKid, _⟩ |
    ⟨stored, prepared, finished, finishes, same⟩ := cases
  · have none : (generateErr ⟨result, prepared, []⟩).events = [] := by
      simp [generateErr, clear_unowned noPrivate noPublic noKid]
    rw [same, none]
    exact iff_of_false (fun freed => by obtain ⟨_, member⟩ := freed; cases member) fun both => notStored both.1
  · have onlyAllocates : ∀ pointer, .freed pointer ∉ finished.events := by
      obtain ⟨events, _⟩ := finishKey_spec qcbor env (ownGenerated (initGenerated openssl env prepared))
      rw [finishes, KeyOutcome.after, events]
      intro pointer
      split <;> simp
    rw [same]
    split
    · next failed =>
      refine iff_of_true ?_ ⟨stored, failed⟩
      have freed := generate_static qcbor initialKeys stored.1 stored.2
      simp only [same, if_pos failed] at freed
      refine ⟨.privBytes, freed.resolve_right ?_⟩
      simp [ownedPointers, generateErr, clearAgentSignBuffers]
    · next success =>
      exact iff_of_false (fun freed => onlyAllocates _ freed.choose_spec) fun both => success both.2

theorem set_frees_nothing (qcbor : Qcbor) (env : KeyEnv) (pointer : Pointer) :
    .freed pointer ∉ (ecallTeepSetEsp256Key qcbor env initialKeys).events := by
  have nothing : (clearAgentSignBuffers initialKeys).2 = [] := clear_unowned rfl rfl rfl
  simp only [ecallTeepSetEsp256Key, nothing]
  split
  · simp
  · obtain ⟨events, _⟩ := finishKey_spec qcbor env (initBuiltIn env
      { (clearAgentSignBuffers initialKeys).1 with
        agentSign := env.freeKey (clearAgentSignBuffers initialKeys).1.agentSign
        keyState := .uninitialized })
    simp only [KeyOutcome.after, List.nil_append, events]
    split <;> simp

theorem deviceInitialized_frees_iff (lib : Libraries) (teepErrCode : TeepErr → Int) (env : DeviceInit)
    (keygenMode : Option CString) (state : DeviceState) :
    FreesKeyBuffer (deviceInitialized lib teepErrCode env keygenMode state).2.2 ↔
      DropsPair lib state env keygenMode := by
  unfold deviceInitialized
  split
  · next notCreated =>
    refine iff_of_false (fun freed => by obtain ⟨_, member⟩ := freed; cases member) fun drops => ?_
    simp [drops.first, drops.created] at notCreated
  next creates =>
  rw [Bool.or_eq_true, not_or, Bool.not_eq_true, decide_eq_true_eq, not_not] at creates
  unfold keyActions
  split
  · next entered =>
    cases requested : requestedKey keygenMode with
    | none =>
      exact iff_of_false (fun freed => by obtain ⟨_, member⟩ := freed; cases member)
        fun drops => nomatch requested.symm.trans drops.generated
    | some source =>
      have events : ((keyedMachine lib).run freshEnclave
          ((some source).toList.map fun source => .key (keyCall env source))).2 =
          (keyStep lib.qcbor initialKeys (keyCall env source)).2.map .inl := List.append_nil _
      have freed : FreesKeyBuffer ((keyStep lib.qcbor initialKeys (keyCall env source)).2.map .inl) ↔
          ∃ pointer, .freed pointer ∈ (keyStep lib.qcbor initialKeys (keyCall env source)).2 := by
        simp [FreesKeyBuffer]
      rw [events, freed]
      cases source with
      | generated =>
        refine (generate_frees_iff lib.qcbor env.openssl env.key).trans ?_
        exact ⟨fun both => ⟨creates.1, creates.2, entered, requested, both.1, both.2⟩,
          fun drops => ⟨drops.stored, drops.failed⟩⟩
      | builtIn =>
        exact iff_of_false (fun freed => set_frees_nothing _ _ _ freed.choose_spec)
          fun drops => nomatch requested.symm.trans drops.generated
  · next notEntered =>
    exact iff_of_false (fun freed => by obtain ⟨_, member⟩ := freed; cases member)
      fun drops => notEntered drops.entered

/-- The ECALLs that are not about the key free nothing of it. -/
theorem enter_frees_nothing (actions : KeyedEnclave → List EnclaveAction) (state : DeviceState) :
    ¬ FreesKeyBuffer (enter lib actions state).2 := by
  rintro ⟨pointer, member⟩
  unfold enter at member
  split at member
  · cases member
  · next contents _ =>
    rw [(enclaveRun_view lib contents (actions contents)).2.2] at member
    obtain ⟨event, _, same⟩ := List.mem_map.mp member
    cases same

theorem freesKeyBuffer_append {first second : List (KeyEvent ⊕ Event)} (none : ¬ FreesKeyBuffer second) :
    FreesKeyBuffer (first ++ second) ↔ FreesKeyBuffer first := by
  constructor
  · rintro ⟨pointer, member⟩
    exact ⟨pointer, (List.mem_append.mp member).resolve_right fun there => none ⟨pointer, there⟩⟩
  · rintro ⟨pointer, member⟩
    exact ⟨pointer, List.mem_append_left second member⟩

theorem deviceStep_frees_iff (lib : Libraries) (teepErrCode : TeepErr → Int) (state : DeviceState) (call : DeviceCall) :
    FreesKeyBuffer (deviceStep lib teepErrCode state call).2.events ↔
      ∃ init ∈ call.initialization, DropsPair lib state init.1 init.2 := by
  have none : ¬ FreesKeyBuffer [] := by rintro ⟨_, member⟩; cases member
  cases call with
  | init env keygenMode =>
    simpa [deviceStep, DeviceCall.initialization, Observed.of] using
      deviceInitialized_frees_iff lib teepErrCode env _ _
  | setLogLevel level ecall => simpa [deviceStep, DeviceCall.initialization, Observed.of] using none
  | close => simpa [deviceStep, DeviceCall.initialization, Observed.of] using none
  | install env tamUrl appName coseSend exchanges =>
    have drops := deviceInitialized_frees_iff lib teepErrCode env .none state
    simp only [deviceStep, DeviceCall.initialization, Option.mem_some_iff, exists_eq_left', ← drops]
    split
    · rfl
    · apply freesKeyBuffer_append
      unfold deviceInstall
      split
      · exact enter_frees_nothing _ _
      · exact none
  | invokeWasm env sgxRet invoke args =>
    have drops := deviceInitialized_frees_iff lib teepErrCode env .none state
    simp only [deviceStep, DeviceCall.initialization, Option.mem_some_iff, exists_eq_left', ← drops]
    split
    · rfl
    · apply freesKeyBuffer_append
      unfold deviceInvokeWasm
      split
      · exact none
      · split
        · exact none
        · exact enter_frees_nothing _ _

/-- In a run of a device no buffer of a key is passed to `free`, if and only if no call has an enclave generate
its key and fails after the pair has been stored. -/
theorem keyBuffers_kept_iff (lib : Libraries) (teepErrCode : TeepErr → Int) (calls : List DeviceCall) :
    (∀ observed ∈ ((device lib teepErrCode).run .start calls).2, ¬ FreesKeyBuffer observed.events) ↔
      (device lib teepErrCode).Meets
        (fun state call => ∀ init ∈ call.initialization, ¬ DropsPair lib state init.1 init.2) .start calls := by
  generalize DeviceState.start = state
  induction calls generalizing state with
  | nil => simp
  | cons call calls inductionHypothesis =>
    have frees := deviceStep_frees_iff lib teepErrCode state call
    have emitted : ((device lib teepErrCode).step state call).2 = [(deviceStep lib teepErrCode state call).2] := rfl
    rw [Machine.run_cons, Machine.meets_cons, ← inductionHypothesis, emitted]
    simp only [List.singleton_append, List.forall_mem_cons, frees, not_exists, not_and]

end Taws.Device
