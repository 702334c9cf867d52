import Taws.Enclave.Keypair
import Taws.Teep.Reference

/-!
# What a ready key is

`g_key_state` ties three structures together that are written apart: `agent_sign.key`, its kid and
`tam_verify.key`.  Both ECALLs that set a key leave it ready only where all of their steps have succeeded,
and every other exit leaves it uninitialised.

* `KeyReady` — what `TEEP_KEY_READY` promises.
* `KeyEnv.Documented`, `EncodesThumbprint` — what is assumed of libteep and QCBOR.
* `keyedMachine` — runs of all the ECALLs, with the key that `ecall_process_message` sees.
* `keyState_sound` — the promise is kept along every run.
-/

namespace Taws.Enclave

open Teep

variable {qcbor : Qcbor} {env : KeyEnv} {store : KeyStore} {sha256 : Bytes → Sha256Hash}

/-! ## The thumbprint -/

/-- The COSE_Key with `kty`, `crv`, `x` and `y` of an uncompressed public key, in canonical form. -/
def canonicalCoseKey (publicKey : Bytes) : Bytes :=
  [0xa4, 0x01, 0x02, 0x20, 0x01, 0x21, 0x58, 0x20] ++ (publicKey.drop 1).take 32 ++
    [0x22, 0x58, 0x20] ++ (publicKey.drop 33).take 32

theorem encode_thumbprintMap {publicKey : Bytes} (length : publicKey.length = prime256v1PublicKeyLength) :
    Cbor.encode (thumbprintMap publicKey) = canonicalCoseKey publicKey := by
  have xLength : ((publicKey.drop 1).take 32).length = 32 := by
    simp [length, prime256v1PublicKeyLength]
  have yLength : ((publicKey.drop 33).take 32).length = 32 := by
    simp [length, prime256v1PublicKeyLength]
  simp only [thumbprintMap, coseKeyMap, Cbor.encode, Cbor.encodeEntries, xLength, yLength, canonicalCoseKey]
  simp [Cbor.encodeHead, Cbor.bigEndian]

/-- It fills the thumbprint buffer. -/
theorem canonicalCoseKey_length {publicKey : Bytes} (length : publicKey.length = prime256v1PublicKeyLength) :
    (canonicalCoseKey publicKey).length = coseKeyThumbprintBufferSize := by
  simp [canonicalCoseKey, length, prime256v1PublicKeyLength, coseKeyThumbprintBufferSize]

/-! ## What is assumed of the libraries -/

/-- QCBOR encodes the COSE_Key, for which the buffer is large enough. -/
def EncodesThumbprint (qcbor : Qcbor) : Prop :=
  ∀ publicKey : Bytes, publicKey.length = prime256v1PublicKeyLength →
    qcbor.finish (thumbprintMap publicKey) coseKeyThumbprintBufferSize =
      some (Cbor.encode (thumbprintMap publicKey))

/-- What libteep does where it succeeds. -/
structure KeyEnv.Documented (sha256 : Bytes → Sha256Hash) (env : KeyEnv) : Prop where
  initKey : env.keyInit = .success → ∀ pair key,
    (env.initKey pair key).privateKey = pair.privateKey ∧ (env.initKey pair key).publicKey = pair.publicKey ∧
      (env.initKey pair key).coseKey = some (pair.privateBytes, pair.publicBytes)
  initTamKey : env.tamInit = .success → ∀ publicKey key, env.initTamKey publicKey key = some publicKey
  generateSha256 : ∀ target hash, (env.generateSha256 target hash).1 = .success →
    (env.generateSha256 target hash).2 = sha256 target
  hashNotNull : ∀ target, (env.generateSha256 target .null).1 ≠ .success

def KeyCall.Documented (sha256 : Bytes → Sha256Hash) : KeyCall → Prop
  | .generate _ env => env.Documented sha256
  | .set env => env.Documented sha256
  | .free => True

/-! ## Readiness -/

structure KeyReady (sha256 : Bytes → Sha256Hash) (store : KeyStore) : Prop where
  initialised : store.agentSign.coseKey =
    some (store.read store.agentSign.privateKey, store.read store.agentSign.publicKey)
  publicKeyLength : (store.read store.agentSign.publicKey).length = prime256v1PublicKeyLength
  kid : ∃ block, store.agentSign.kid = .heap block ∧ store.heap.contents block =
    some (sha256 (canonicalCoseKey (store.read store.agentSign.publicKey))).toList
  tam : store.tamVerify = some tamEsp256PublicKey.toList

def ReadyIsSound (sha256 : Bytes → Sha256Hash) (store : KeyStore) : Prop :=
  store.keyState = .ready → KeyReady sha256 store

theorem ReadyIsSound.of_uninitialized (uninitialized : store.keyState = .uninitialized) :
    ReadyIsSound sha256 store := by
  intro ready
  rw [uninitialized] at ready
  cases ready

theorem read_static {first second : KeyStore} {pointer : Pointer} (sameWords : first.privBytes = second.privBytes)
    (samePub : first.pubBytes = second.pubBytes) (static : ∀ block, pointer ≠ .heap block) :
    first.read pointer = second.read pointer := by
  cases pointer with
  | heap block => exact absurd rfl (static block)
  | privBytes => simp [KeyStore.read, sameWords]
  | pubBytes => simp [KeyStore.read, samePub]
  | _ => rfl

/-- A key pair in static memory that `cose_key` has been initialised with. -/
structure StaticPair (store : KeyStore) : Prop where
  initialised : store.agentSign.coseKey =
    some (store.read store.agentSign.privateKey, store.read store.agentSign.publicKey)
  publicKeyLength : (store.read store.agentSign.publicKey).length = prime256v1PublicKeyLength
  privateStatic : ∀ block, store.agentSign.privateKey ≠ .heap block
  publicStatic : ∀ block, store.agentSign.publicKey ≠ .heap block

theorem StaticPair.keyReady {changed : KeyStore} {block : Block} (pair : StaticPair store)
    (samePriv : changed.privBytes = store.privBytes) (samePub : changed.pubBytes = store.pubBytes)
    (samePrivateKey : changed.agentSign.privateKey = store.agentSign.privateKey)
    (samePublicKey : changed.agentSign.publicKey = store.agentSign.publicKey)
    (sameCoseKey : changed.agentSign.coseKey = store.agentSign.coseKey)
    (kid : changed.agentSign.kid = .heap block)
    (digest : changed.heap.contents block =
      some (sha256 (canonicalCoseKey (store.read store.agentSign.publicKey))).toList)
    (tam : changed.tamVerify = some tamEsp256PublicKey.toList) : KeyReady sha256 changed := by
  have readPrivate : changed.read changed.agentSign.privateKey = store.read store.agentSign.privateKey := by
    rw [samePrivateKey]
    exact read_static samePriv samePub pair.privateStatic
  have readPublic : changed.read changed.agentSign.publicKey = store.read store.agentSign.publicKey := by
    rw [samePublicKey]
    exact read_static samePriv samePub pair.publicStatic
  apply KeyReady.mk
  · rw [sameCoseKey, readPrivate, readPublic]
    exact pair.initialised
  · rw [readPublic]
    exact pair.publicKeyLength
  · rw [readPublic]
    exact ⟨block, kid, digest⟩
  · exact tam

/-- What the last steps do to a key pair where they succeed. -/
theorem finishKey_ready (encodes : EncodesThumbprint qcbor) (documented : env.Documented sha256)
    (pair : StaticPair store) (success : (finishKey qcbor env store).result = .success) :
    KeyReady sha256 (finishKey qcbor env store).store := by
  have encoded : (qcbor.finish (thumbprintMap (store.read store.agentSign.publicKey))
      coseKeyThumbprintBufferSize).getD env.unfinished =
        canonicalCoseKey (store.read store.agentSign.publicKey) := by
    rw [encodes _ pair.publicKeyLength, Option.getD_some, encode_thumbprintMap pair.publicKeyLength]
  simp only [finishKey, teepGenerateKid, encoded] at success ⊢
  split at success
  · next hashFailed => exact absurd success hashFailed
  next hashed =>
  rw [if_neg hashed]
  have hashed := not_not.mp hashed
  split at success
  · next tamFailed => exact absurd success tamFailed
  next tamSet =>
  rw [if_neg tamSet]
  have allocated : env.malloc = true := by
    cases malloc : env.malloc with
    | true => rfl
    | false =>
      rw [malloc] at hashed
      exact absurd hashed (documented.hashNotNull _)
  have digest := documented.generateSha256 _ _ hashed
  rw [digest]
  have kid : (store.heap.malloc sha256DigestLength env.malloc).1 = .heap store.heap.next := by
    simp [Heap.malloc, allocated]
  refine pair.keyReady rfl rfl rfl rfl rfl kid ?_ (documented.initTamKey (not_not.mp tamSet) _ _)
  simp [Heap.malloc, Heap.write, allocated]

/-- Where they fail they leave the state alone. -/
theorem finishKey_keyState (failed : (finishKey qcbor env store).result ≠ .success) :
    (finishKey qcbor env store).store.keyState = store.keyState := by
  simp only [finishKey] at failed ⊢
  split at failed
  · next hashFailed =>
    rw [if_pos hashFailed]
    rfl
  next hashed =>
  rw [if_neg hashed]
  split at failed
  · next tamFailed =>
    rw [if_pos tamFailed]
    rfl
  · exact absurd rfl failed

theorem finishKey_sound (encodes : EncodesThumbprint qcbor) (documented : env.Documented sha256)
    (pair : StaticPair store) (uninitialized : store.keyState = .uninitialized) :
    ReadyIsSound sha256 (finishKey qcbor env store).store := by
  intro ready
  by_cases finished : (finishKey qcbor env store).result = .success
  · exact finishKey_ready encodes documented pair finished
  · rw [finishKey_keyState finished, uninitialized] at ready
    cases ready

theorem generateErr_keyState (outcome : KeyOutcome) : (generateErr outcome).store.keyState = .uninitialized := rfl

/-! ## The ECALLs -/

theorem generate_sound (openssl : OpensslEnv) (encodes : EncodesThumbprint qcbor)
    (documented : env.Documented sha256) (store : KeyStore) :
    ReadyIsSound sha256 (ecallTeepGenerateEsp256KeyPair qcbor openssl env store).store := by
  cases generate_cases qcbor openssl env store with
  | inl failed =>
    obtain ⟨_, _, _, same, _⟩ := failed
    rw [same]
    exact .of_uninitialized (generateErr_keyState _)
  | inr stored =>
    obtain ⟨⟨_, initialised⟩, prepared, finished, finishes, same⟩ := stored
    rw [same]
    split
    · exact .of_uninitialized (generateErr_keyState _)
    next success =>
    intro _
    rw [finishes] at success ⊢
    apply finishKey_ready encodes documented _ (not_not.mp success)
    -- the pair is in the static arrays, from which it has been initialised
    obtain ⟨_, _, coseKey⟩ := documented.initKey initialised
      ⟨.privBytes, .pubBytes, openssl.bnBn2binpad.toList, openssl.ecPointPoint2oct.toList⟩ prepared.agentSign
    apply StaticPair.mk
    · exact coseKey
    · exact openssl.ecPointPoint2oct.length_toList
    · exact fun block same => nomatch same
    · exact fun block same => nomatch same

theorem set_sound (encodes : EncodesThumbprint qcbor) (documented : env.Documented sha256) (store : KeyStore) :
    ReadyIsSound sha256 (ecallTeepSetEsp256Key qcbor env store).store := by
  simp only [ecallTeepSetEsp256Key]
  split
  · exact .of_uninitialized rfl
  next initialised =>
  obtain ⟨privateKey, publicKey, coseKey⟩ := documented.initKey (not_not.mp initialised)
    ⟨.teepAgentEsp256PrivateKey, .teepAgentEsp256PublicKey, teepAgentEsp256PrivateKey.toList,
      teepAgentEsp256PublicKey.toList⟩ (env.freeKey (clearAgentSignBuffers store).1.agentSign)
  apply finishKey_sound encodes documented _ rfl
  apply StaticPair.mk
  · simp only [initBuiltIn, coseKey, privateKey, publicKey]
    rfl
  · simp only [initBuiltIn, publicKey]
    exact teepAgentEsp256PublicKey.length_toList
  · simp [initBuiltIn, privateKey]
  · simp [initBuiltIn, publicKey]

theorem free_sound (sound : ReadyIsSound sha256 store) : ReadyIsSound sha256 (ecallTeepFreeKeypair store).1 := by
  simp only [ecallTeepFreeKeypair]
  split
  · exact sound
  · exact .of_uninitialized rfl

theorem keyStep_sound {call : KeyCall} (encodes : EncodesThumbprint qcbor) (documented : call.Documented sha256)
    (sound : ReadyIsSound sha256 store) : ReadyIsSound sha256 (keyStep qcbor store call).1 := by
  cases call with
  | generate openssl env => exact generate_sound openssl encodes documented store
  | set env => exact set_sound encodes documented store
  | free => exact free_sound sound

/-! ## The enclave with its key -/

/-- The globals of the key, and the others. -/
structure KeyedEnclave where
  keys : KeyStore
  enclave : EnclaveState

/-- `agent_sign.key` as `ecall_process_message` reads it. -/
def KeyStore.agentKey (store : KeyStore) : TeepKey :=
  ⟨if store.agentSign.publicKey = .null then .null 0 else .bytes (store.read store.agentSign.publicKey)⟩

/-- What the ECALLs that are not about the key see. -/
def KeyedEnclave.view (state : KeyedEnclave) : EnclaveState :=
  { state.enclave with keyState := state.keys.keyState, agentKey := state.keys.agentKey }

inductive KeyedAction where
  | key (call : KeyCall)
  | enclave (action : EnclaveAction)

def keyedStep (lib : Libraries) (state : KeyedEnclave) : KeyedAction → KeyedEnclave × List (KeyEvent ⊕ Event)
  | .key call =>
    let stepped := keyStep lib.qcbor state.keys call
    ({ state with keys := stepped.1 }, stepped.2.map .inl)
  | .enclave action =>
    let stepped := enclaveStep lib state.view action
    ({ state with enclave := stepped.1 }, stepped.2.map .inr)

def keyedMachine (lib : Libraries) : Machine KeyedEnclave KeyedAction (KeyEvent ⊕ Event) where
  step := keyedStep lib

def KeyedAction.Documented (sha256 : Bytes → Sha256Hash) : KeyedAction → Prop
  | .key call => call.Documented sha256
  | .enclave _ => True

theorem keyedRun_sound {lib : Libraries} {state : KeyedEnclave} {actions : List KeyedAction}
    (encodes : EncodesThumbprint lib.qcbor) (documented : ∀ action ∈ actions, action.Documented sha256)
    (initial : ReadyIsSound sha256 state.keys) :
    ReadyIsSound sha256 ((keyedMachine lib).run state actions).1.keys := by
  have preserved : ∀ (state : KeyedEnclave) (action : KeyedAction), ReadyIsSound sha256 state.keys →
      action.Documented sha256 → ReadyIsSound sha256 ((keyedMachine lib).step state action).1.keys := by
    intro state action sound documented
    cases action with
    | key call => exact keyStep_sound encodes documented sound
    | enclave action => exact sound
  have meets : (keyedMachine lib).Meets (fun _ action => action.Documented sha256) state actions :=
    ((keyedMachine lib).meets_const _ _ _).mpr documented
  exact meets.run_invariant preserved initial

/-- Whatever fails at any call, between the calls a ready key is a key pair with its own thumbprint next to
the key of the TAM; and without one no message is processed. -/
theorem keyState_sound (sha256 : Bytes → Sha256Hash) (lib : Libraries) (enclave : EnclaveState)
    (actions : List KeyedAction) (encodes : EncodesThumbprint lib.qcbor)
    (documented : ∀ action ∈ actions, action.Documented sha256) :
    let state := ((keyedMachine lib).run ⟨initialKeys, enclave⟩ actions).1
    (state.keys.keyState = .ready → KeyReady sha256 state.keys) ∧
    (state.keys.keyState ≠ .ready → ∀ (env : MessageEnv) (args : MessageArgs),
      let processed := ecallProcessMessage lib env args state.view
      processed.result = .fatal ∧ processed.state.agentStatus = state.enclave.agentStatus ∧
        processed.state.table = state.enclave.table) := by
  intro state
  constructor
  · exact keyedRun_sound encodes documented (ReadyIsSound.of_uninitialized rfl)
  · intro notReady env args processed
    have refused : processed = ⟨.fatal, state.view, []⟩ := by
      simp only [processed, ecallProcessMessage]
      exact if_pos notReady
    rw [refused]
    exact ⟨rfl, rfl, rfl⟩

theorem referenceQcbor_encodesThumbprint : EncodesThumbprint referenceQcbor := by
  intro publicKey length
  have fits : (Cbor.encode (thumbprintMap publicKey)).length ≤ coseKeyThumbprintBufferSize := by
    rw [encode_thumbprintMap length, canonicalCoseKey_length length]
  simp only [referenceQcbor]
  rw [if_pos fits]

theorem workingKeyEnv_documented : workingKeyEnv.Documented smallThumbprint where
  initKey := fun _ _ _ => ⟨rfl, rfl, rfl⟩
  initTamKey := fun _ _ _ => rfl
  generateSha256 := by
    intro target hash success
    by_cases null : hash = .null
    · simp [workingKeyEnv, null] at success
    · simp [workingKeyEnv, null]
  hashNotNull := by simp [workingKeyEnv]

/-- The key of the TAM cannot be set. -/
def withoutTamKey : KeyEnv := { workingKeyEnv with tamInit := .unexpectedError }

/-- The built-in key is set, a generated pair is to replace it, which fails at the end, and the built-in key is set
again. -/
def rekeying : List KeyedAction :=
  [.key (.set workingKeyEnv), .key (.generate workingOpenssl withoutTamKey), .key (.set workingKeyEnv)]

theorem rekeying_documented : ∀ action ∈ rekeying, action.Documented smallThumbprint := by
  have fails : withoutTamKey.Documented smallThumbprint :=
    ⟨workingKeyEnv_documented.initKey, fun success => (by cases success), workingKeyEnv_documented.generateSha256,
      workingKeyEnv_documented.hashNotNull⟩
  intro action member
  rcases List.mem_cons.mp member with rfl | member
  · exact workingKeyEnv_documented
  rcases List.mem_cons.mp member with rfl | member
  · exact fails
  · rw [List.mem_singleton.mp member]
    exact workingKeyEnv_documented

/-- The key is ready at the end, and the failed call has left an enclave that processes no message. -/
theorem keyState_rekeyed :
    let after := fun actions => ((keyedMachine smallLibraries).run
      ⟨initialKeys, initialState .uninitialized ⟨.null 0⟩⟩ actions).1
    KeyReady smallThumbprint (after rekeying).keys ∧
    ∀ (env : MessageEnv) (args : MessageArgs),
      (ecallProcessMessage smallLibraries env args (after (rekeying.take 2)).view).result = .fatal := by
  intro after
  have ready : (after rekeying).keys.keyState = .ready := by decide +kernel
  have failed : (after (rekeying.take 2)).keys.keyState ≠ .ready := by decide +kernel
  refine ⟨(keyState_sound smallThumbprint smallLibraries (initialState .uninitialized ⟨.null 0⟩) rekeying
    referenceQcbor_encodesThumbprint rekeying_documented).1 ready, ?_⟩
  intro env args
  have documented : ∀ action ∈ rekeying.take 2, action.Documented smallThumbprint :=
    fun action member => rekeying_documented action (List.mem_of_mem_take member)
  exact ((keyState_sound smallThumbprint smallLibraries (initialState .uninitialized ⟨.null 0⟩) (rekeying.take 2)
    referenceQcbor_encodesThumbprint documented).2 failed env args).1

end Taws.Enclave
