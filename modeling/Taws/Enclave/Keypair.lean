import Mathlib.Logic.Function.Basic
import Taws.Enclave.Agent

/-!
# The key of the agent

`Enclave_generate_keypair.cpp`: three ECALLs that generate a key pair, set the built-in one and free the key.
The pointers in `agent_sign.key` are of different provenance, and three flags say which of them are to be
freed.  The heap hands out every block once, so a block is named by the `malloc` that returned it.

What OpenSSL and libteep do is an outcome in `OpensslEnv` and `KeyEnv`.  The lengths that stand beside the
pointers are constants and are left out, as are the COSE tags, which `ecall_process_message` sets again before
each use.

* `clearAgentSignBuffers`, `teepGenerateKid` — what the ECALLs share.
* `ecallTeepGenerateEsp256KeyPair`, `ecallTeepSetEsp256Key`, `ecallTeepFreeKeypair`
* `keyMachine` — runs of them.
* `workingKeyEnv`, `workingOpenssl` — outcomes with which nothing fails.
-/

namespace Taws.Enclave

open Teep

/-! ## Pointers and the heap -/

/-- Where a pointer of `agent_sign.key` points to: the static arrays of the ECALL that generates a key pair,
the built-in tables, or the heap. -/
inductive Pointer where
  | null
  | privBytes
  | pubBytes
  | teepAgentEsp256PrivateKey
  | teepAgentEsp256PublicKey
  | heap (block : Block)
  deriving DecidableEq

/-- `next` is the block that the next `malloc` returns; a block that is not allocated has no contents. -/
structure Heap where
  next : Block
  contents : Block → Option Bytes

namespace Heap

/-- NULL where the allocation fails.  What a new block holds is written before it is read. -/
def malloc (heap : Heap) (size : Nat) (succeeds : Bool) : Pointer × Heap :=
  if succeeds then
    (.heap heap.next,
      ⟨heap.next + 1, Function.update heap.contents heap.next (some (List.replicate size 0))⟩)
  else (.null, heap)

/-- What is not a heap block is left alone. -/
def free (heap : Heap) : Pointer → Heap
  | .heap block => { heap with contents := Function.update heap.contents block none }
  | _ => heap

def write (heap : Heap) (pointer : Pointer) (data : Bytes) : Heap :=
  match pointer with
  | .heap block => { heap with contents := Function.update heap.contents block (some data) }
  | _ => heap

end Heap

inductive KeyEvent where
  | allocated (block : Block)
  | freed (pointer : Pointer)
  deriving DecidableEq

/-! ## The key -/

def prime256v1PrivateKeyLength : Nat := 32

def teepAgentEsp256PrivateKey : Vector UInt8 prime256v1PrivateKeyLength :=
  #v[0x60, 0xfe, 0x6d, 0xd6, 0xd8, 0x5d, 0x57, 0x40, 0xa5, 0x34, 0x9b, 0x6f, 0x91, 0x26, 0x7e, 0xea, 0xc5,
    0xba, 0x81, 0xb8, 0xcb, 0x53, 0xee, 0x24, 0x9e, 0x4b, 0x4e, 0xb1, 0x02, 0xc4, 0x76, 0xb3]

def teepAgentEsp256PublicKey : Vector UInt8 prime256v1PublicKeyLength :=
  #v[0x04, 0x58, 0x86, 0xcd, 0x61, 0xdd, 0x87, 0x58, 0x62, 0xe5, 0xaa, 0xa8, 0x20, 0xe7, 0xa1, 0x52, 0x74,
    0xc9, 0x68, 0xa9, 0xbc, 0x96, 0x04, 0x8d, 0xdc, 0xac, 0xe3, 0x2f, 0x50, 0xc3, 0x65, 0x1b, 0xa3, 0x9e,
    0xed, 0x81, 0x25, 0xe9, 0x32, 0xcd, 0x60, 0xc0, 0xea, 0xd3, 0x65, 0x0d, 0x0a, 0x48, 0x5c, 0xf7, 0x26,
    0xd3, 0x78, 0xd1, 0xb0, 0x16, 0xed, 0x42, 0x98, 0xb2, 0x96, 0x1e, 0x25, 0x8f, 0x1b]

def tamEsp256PublicKey : Vector UInt8 prime256v1PublicKeyLength :=
  #v[0x04, 0x0e, 0x90, 0x8a, 0xa8, 0xf0, 0x66, 0xdb, 0x1f, 0x08, 0x4e, 0x0c, 0x36, 0x52, 0xc6, 0x39, 0x52,
    0xbd, 0x99, 0xf2, 0xa5, 0xbd, 0xb2, 0x2f, 0x9e, 0x01, 0x36, 0x7a, 0xad, 0x03, 0xab, 0xa6, 0x8b, 0x77,
    0xda, 0x1b, 0xd8, 0xac, 0x4f, 0x0c, 0xb4, 0x90, 0xba, 0x21, 0x06, 0x48, 0xbf, 0x79, 0xab, 0x16, 0x4d,
    0x49, 0xad, 0x35, 0x51, 0xd7, 0x1d, 0x31, 0x4b, 0x27, 0x49, 0xee, 0x42, 0xd2, 0x9a]

structure AgentKey where
  privateKey : Pointer := .null
  publicKey : Pointer := .null
  kid : Pointer := .null
  /-- The private and the public key that `cose_key` is initialised with. -/
  coseKey : Option (Bytes × Bytes) := none
  deriving DecidableEq

structure KeyStore where
  privBytes : Vector UInt8 prime256v1PrivateKeyLength
  pubBytes : Vector UInt8 prime256v1PublicKeyLength
  agentSign : AgentKey
  /-- The public key that `tam_verify.key` is initialised with. -/
  tamVerify : Option Bytes
  keyState : TeepKeyState
  agentKeyOwnsPrivate : Bool
  agentKeyOwnsPublic : Bool
  agentKeyOwnsKid : Bool
  heap : Heap

/-- The bytes that a pointer points to; there are none behind NULL or a block that is not allocated. -/
def KeyStore.read (store : KeyStore) : Pointer → Bytes
  | .null => []
  | .privBytes => store.privBytes.toList
  | .pubBytes => store.pubBytes.toList
  | .teepAgentEsp256PrivateKey => Enclave.teepAgentEsp256PrivateKey.toList
  | .teepAgentEsp256PublicKey => Enclave.teepAgentEsp256PublicKey.toList
  | .heap block => (store.heap.contents block).getD []

/-- What `teep_key_init_esp256_key_pair` is called with, and the bytes there. -/
structure KeyPairArgs where
  privateKey : Pointer
  publicKey : Pointer
  privateBytes : Bytes
  publicBytes : Bytes

/-- The outcomes of OpenSSL; the two conversions are not checked. -/
structure OpensslEnv where
  evpPkeyCtxNewId : Bool
  evpPkeyKeygenInit : Bool
  evpPkeyCtxSetEcParamgenCurveNid : Bool
  evpPkeyKeygen : Bool
  evpPkeyGet1EcKey : Bool
  bnBn2binpad : Vector UInt8 prime256v1PrivateKeyLength
  ecPointPoint2oct : Vector UInt8 prime256v1PublicKeyLength

structure KeyEnv where
  freeKey : AgentKey → AgentKey
  keyInit : TeepErr
  initKey : KeyPairArgs → AgentKey → AgentKey
  malloc : Bool
  /-- What a failed `QCBOREncode_Finish` leaves in `cose_key_bytes`. -/
  unfinished : Bytes
  /-- The result, and the bytes that are in the destination afterwards. -/
  generateSha256 : Bytes → Pointer → TeepErr × Sha256Hash
  tamInit : TeepErr
  initTamKey : Bytes → Option Bytes → Option Bytes

structure KeyOutcome where
  result : TeepErr
  store : KeyStore
  events : List KeyEvent

def KeyOutcome.after (events : List KeyEvent) (outcome : KeyOutcome) : KeyOutcome :=
  { outcome with events := events ++ outcome.events }

/-! ## What the ECALLs share -/

/-- One `if` of `clear_agent_sign_buffers`: the pointer afterwards, and what is freed. -/
def clearBuffer (owns : Bool) (pointer : Pointer) : Pointer × List Pointer :=
  if owns && pointer ≠ .null then (.null, [pointer]) else (pointer, [])

def clearAgentSignBuffers (store : KeyStore) : KeyStore × List KeyEvent :=
  let privateKey := clearBuffer store.agentKeyOwnsPrivate store.agentSign.privateKey
  let publicKey := clearBuffer store.agentKeyOwnsPublic store.agentSign.publicKey
  let kid := clearBuffer store.agentKeyOwnsKid store.agentSign.kid
  let freed := privateKey.2 ++ publicKey.2 ++ kid.2
  ({ store with
      agentSign :=
        { store.agentSign with privateKey := privateKey.1, publicKey := publicKey.1, kid := kid.1 }
      agentKeyOwnsPrivate := false
      agentKeyOwnsPublic := false
      agentKeyOwnsKid := false
      heap := freed.foldl Heap.free store.heap },
    freed.map .freed)

def coseKeyThumbprintBufferSize : Nat := 11 + 32 + 32

def coseKeyMap (x y : Bytes) : Cbor.Item :=
  .map [(.unsigned 1, .unsigned 2), (.negative 0, .unsigned 1), (.negative 1, .bytes x), (.negative 2, .bytes y)]

def thumbprintMap (publicKey : Bytes) : Cbor.Item :=
  coseKeyMap ((publicKey.drop 1).take 32) ((publicKey.drop 33).take 32)

/-- Neither the encoding nor the allocation is checked. -/
def teepGenerateKid (qcbor : Qcbor) (env : KeyEnv) (store : KeyStore) : KeyOutcome :=
  let publicKey := store.read store.agentSign.publicKey
  let coseKeyBytes :=
    (qcbor.finish (thumbprintMap publicKey) coseKeyThumbprintBufferSize).getD env.unfinished
  let kid := store.heap.malloc sha256DigestLength env.malloc
  let hashed := env.generateSha256 coseKeyBytes kid.1
  ⟨hashed.1,
    { store with
      agentSign := { store.agentSign with kid := kid.1 }
      heap := kid.2.write kid.1 hashed.2.toList },
    if env.malloc then [.allocated store.heap.next] else []⟩

/-- The kid, the key of the TAM and the state, as both ECALLs set them. -/
def finishKey (qcbor : Qcbor) (env : KeyEnv) (store : KeyStore) : KeyOutcome :=
  let kid := teepGenerateKid qcbor env store
  if kid.result ≠ .success then kid
  else
    let store := { kid.store with
      agentKeyOwnsKid := true
      tamVerify := env.initTamKey tamEsp256PublicKey.toList kid.store.tamVerify }
    if env.tamInit ≠ .success then ⟨env.tamInit, store, kid.events⟩
    else ⟨.success, { store with keyState := .ready }, kid.events⟩

/-! ## The ECALLs -/

/-- The steps up to `EVP_PKEY_get1_EC_KEY`, each of which is checked. -/
def OpensslEnv.keyGenerated (env : OpensslEnv) : Bool :=
  env.evpPkeyCtxNewId && env.evpPkeyKeygenInit && env.evpPkeyCtxSetEcParamgenCurveNid &&
    env.evpPkeyKeygen && env.evpPkeyGet1EcKey

def generateErr (outcome : KeyOutcome) : KeyOutcome :=
  let cleared := clearAgentSignBuffers outcome.store
  ⟨outcome.result, { cleared.1 with keyState := .uninitialized }, outcome.events ++ cleared.2⟩

/-- The conversions, and the key that is initialised from what they have left in the static arrays. -/
def initGenerated (openssl : OpensslEnv) (env : KeyEnv) (store : KeyStore) : KeyStore :=
  { store with
    privBytes := openssl.bnBn2binpad
    pubBytes := openssl.ecPointPoint2oct
    agentSign := env.initKey
      ⟨.privBytes, .pubBytes, openssl.bnBn2binpad.toList, openssl.ecPointPoint2oct.toList⟩ store.agentSign }

/-- The flags are set although both pointers are to static arrays. -/
def ownGenerated (store : KeyStore) : KeyStore :=
  { store with
    agentSign := { store.agentSign with privateKey := .privBytes, publicKey := .pubBytes }
    agentKeyOwnsPrivate := true
    agentKeyOwnsPublic := true }

def ecallTeepGenerateEsp256KeyPair (qcbor : Qcbor) (openssl : OpensslEnv) (env : KeyEnv) (store : KeyStore) :
    KeyOutcome :=
  let cleared := clearAgentSignBuffers
    { store with privBytes := Vector.replicate _ 0, pubBytes := Vector.replicate _ 0 }
  let store := { cleared.1 with agentSign := env.freeKey cleared.1.agentSign }
  if !openssl.keyGenerated then generateErr ⟨.unexpectedError, store, cleared.2⟩
  else
    let store := initGenerated openssl env store
    if env.keyInit ≠ .success then generateErr ⟨env.keyInit, store, cleared.2⟩
    else
      let finished := (finishKey qcbor env (ownGenerated store)).after cleared.2
      if finished.result ≠ .success then generateErr finished else finished

def initBuiltIn (env : KeyEnv) (store : KeyStore) : KeyStore :=
  { store with
    agentSign := env.initKey
      ⟨.teepAgentEsp256PrivateKey, .teepAgentEsp256PublicKey, teepAgentEsp256PrivateKey.toList,
        teepAgentEsp256PublicKey.toList⟩ store.agentSign }

def ecallTeepSetEsp256Key (qcbor : Qcbor) (env : KeyEnv) (store : KeyStore) : KeyOutcome :=
  let cleared := clearAgentSignBuffers store
  let store := initBuiltIn env
    { cleared.1 with agentSign := env.freeKey cleared.1.agentSign, keyState := .uninitialized }
  if env.keyInit ≠ .success then ⟨env.keyInit, store, cleared.2⟩
  else (finishKey qcbor env store).after cleared.2

def ecallTeepFreeKeypair (store : KeyStore) : KeyStore × List KeyEvent :=
  if store.keyState = .uninitialized then (store, [])
  else
    let cleared := clearAgentSignBuffers store
    ({ cleared.1 with agentSign := {}, tamVerify := none, keyState := .uninitialized }, cleared.2)

/-- What a call that generates a key pair can do: it fails while nothing is owned, or libteep accepts the pair
and the last steps decide. -/
theorem generate_cases (qcbor : Qcbor) (openssl : OpensslEnv) (env : KeyEnv) (store : KeyStore) :
    let outcome := ecallTeepGenerateEsp256KeyPair qcbor openssl env store
    let cleared := clearAgentSignBuffers
      { store with privBytes := Vector.replicate _ 0, pubBytes := Vector.replicate _ 0 }
    (¬ (openssl.keyGenerated = true ∧ env.keyInit = .success) ∧ ∃ result prepared,
      outcome = generateErr ⟨result, prepared, cleared.2⟩ ∧ prepared.agentKeyOwnsPrivate = false ∧
      prepared.agentKeyOwnsPublic = false ∧ prepared.agentKeyOwnsKid = false ∧
      prepared.heap = cleared.1.heap) ∨
    ((openssl.keyGenerated = true ∧ env.keyInit = .success) ∧ ∃ prepared finished,
      finished = (finishKey qcbor env (ownGenerated (initGenerated openssl env prepared))).after cleared.2 ∧
      outcome = if finished.result ≠ .success then generateErr finished else finished) := by
  intro outcome cleared
  simp only [outcome, ecallTeepGenerateEsp256KeyPair]
  cases generated : openssl.keyGenerated with
  | false => exact .inl ⟨by simp, .unexpectedError, _, rfl, rfl, rfl, rfl, rfl⟩
  | true =>
    simp only [Bool.not_true, Bool.false_eq_true, if_false]
    by_cases initialised : env.keyInit = .success
    · rw [if_neg (not_not.mpr initialised)]
      exact .inr ⟨⟨trivial, initialised⟩, _, _, rfl, rfl⟩
    · rw [if_pos initialised]
      exact .inl ⟨fun both => initialised both.2, env.keyInit, _, rfl, rfl, rfl, rfl, rfl⟩

/-! ## Runs -/

inductive KeyCall where
  | generate (openssl : OpensslEnv) (env : KeyEnv)
  | set (env : KeyEnv)
  | free

def keyStep (qcbor : Qcbor) (store : KeyStore) : KeyCall → KeyStore × List KeyEvent
  | .generate openssl env =>
    let outcome := ecallTeepGenerateEsp256KeyPair qcbor openssl env store
    (outcome.store, outcome.events)
  | .set env =>
    let outcome := ecallTeepSetEsp256Key qcbor env store
    (outcome.store, outcome.events)
  | .free => ecallTeepFreeKeypair store

def keyMachine (qcbor : Qcbor) : Machine KeyStore KeyCall KeyEvent where
  step := keyStep qcbor

def initialKeys : KeyStore where
  privBytes := Vector.replicate _ 0
  pubBytes := Vector.replicate _ 0
  agentSign := {}
  tamVerify := none
  keyState := .uninitialized
  agentKeyOwnsPrivate := false
  agentKeyOwnsPublic := false
  agentKeyOwnsKid := false
  heap := ⟨0, fun _ => none⟩

/-! ## Libraries that work -/

/-- SHA-256 of the COSE_Key of the built-in public key; nothing else is hashed with it. -/
def smallThumbprint (data : Bytes) : Sha256Hash :=
  if data = Cbor.encode (thumbprintMap teepAgentEsp256PublicKey.toList) then
    #v[0xe9, 0x67, 0x88, 0xb1, 0x0b, 0x16, 0x10, 0xab, 0xe4, 0x78, 0xf9, 0xce, 0x8d, 0xcf, 0xe2, 0x30,
      0x4c, 0x09, 0x11, 0xdd, 0x8c, 0xfe, 0xad, 0xde, 0x25, 0xec, 0x30, 0xcc, 0xb5, 0xa7, 0xb5, 0xaf]
  else Vector.replicate _ 0

/-- Every call succeeds; the destination of the hash must not be NULL. -/
def workingKeyEnv : KeyEnv where
  freeKey := fun key => { key with coseKey := none }
  keyInit := .success
  initKey := fun pair _ => ⟨pair.privateKey, pair.publicKey, .null, some (pair.privateBytes, pair.publicBytes)⟩
  malloc := true
  unfinished := []
  generateSha256 := fun target hash =>
    if hash = .null then (.invalidValue, Vector.replicate _ 0) else (.success, smallThumbprint target)
  tamInit := .success
  initTamKey := fun publicKey _ => some publicKey

def workingOpenssl : OpensslEnv where
  evpPkeyCtxNewId := true
  evpPkeyKeygenInit := true
  evpPkeyCtxSetEcParamgenCurveNid := true
  evpPkeyKeygen := true
  evpPkeyGet1EcKey := true
  bnBn2binpad := teepAgentEsp256PrivateKey
  ecPointPoint2oct := teepAgentEsp256PublicKey

end Taws.Enclave
