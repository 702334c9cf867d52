import Taws.Device.Session
import Taws.Enclave.KeyReady
import Taws.Wasm.Contract

/-!
# The host with its enclave

The calls of `attester_api.h` on top of the ECALLs: the flags of the host on one side, the globals of the
enclave on the other.  `sgx_create_enclave` brings an enclave with its globals as they are initialised, and
`sgx_destroy_enclave` takes them away.  What SGX and the libraries do is part of the call.

* `deviceInitialized` — `sgx_initialized`, with the key ECALL that it makes.
* `deviceStep`, `device` — the calls.
-/

namespace Taws.Device

open App (SgxStatus TeepSessionResult AttesterState InitEnv KeySource keygenYes keygenNo sgxInitialized
  attesterInit attesterSetLogLevel attesterInstall attesterInvokeWasm attesterClose Returned)
open Enclave
open Teep
open Wasm (EcallWasmResult InvokeEnv InvokeArgs ecallInvokeWasm outputs)

structure DeviceInit where
  sgxCreateEnclave : SgxStatus
  ecallSetLogLevel : SgxStatus
  /-- The status of the key ECALL; the enclave is entered if it is `SGX_SUCCESS`. -/
  ecallKey : SgxStatus
  openssl : OpensslEnv
  key : KeyEnv

def freshEnclave : KeyedEnclave := ⟨initialKeys, initialState .uninitialized ⟨.null 0⟩⟩

def keyCall (env : DeviceInit) : KeySource → KeyCall
  | .generated => .generate env.openssl env.key
  | .builtIn => .set env.key

def keyResult (qcbor : Qcbor) (store : KeyStore) : KeyCall → TeepErr
  | .generate openssl env => (ecallTeepGenerateEsp256KeyPair qcbor openssl env store).result
  | .set env => (ecallTeepSetEsp256Key qcbor env store).result
  | .free => .success

def requestedKey (keygenMode : Option CString) : Option KeySource :=
  let keygenMode := if keygenMode.getD [] = [] then keygenYes else keygenMode.getD []
  if keygenMode = keygenYes then some .generated else if keygenMode = keygenNo then some .builtIn else none

def keyActions (env : DeviceInit) (keygenMode : Option CString) : List KeyedAction :=
  if env.ecallKey = .success then (requestedKey keygenMode).toList.map fun source => .key (keyCall env source)
  else []

def ecallWasmResultCode : EcallWasmResult → Int
  | .ok => 0
  | .invalidArgument => -1
  | .trustedComponentNotFound => -2
  | .resourceExhausted => -3
  | .wasmIncompatible => -4
  | .wasmExecutionFailed => -5
  | .internalError => -6
  | .outputBufferTooSmall => -7

/-- `enclave` holds the globals of the enclave that `global_eid` names. -/
structure DeviceState where
  host : AttesterState
  enclave : Option KeyedEnclave

def DeviceState.start : DeviceState := ⟨.start, none⟩

structure Observed where
  events : List (KeyEvent ⊕ Event)
  posts : List Bytes
  /-- `none` where the exchanges do not end the session. -/
  returned : Option Returned
  /-- `*actual_len` and the output buffer after `ecall_invoke_wasm`. -/
  actualLen : Nat
  output : Bytes

/-- Without a session and without an ECALL that writes into buffers of the caller. -/
def Observed.of (events : List (KeyEvent ⊕ Event)) (returned : Returned) : Observed :=
  ⟨events, [], some returned, 0, []⟩

inductive DeviceCall where
  | init (env : DeviceInit) (keygenMode : Option CString)
  | setLogLevel (level : Int) (ecall : SgxStatus)
  | install (env : DeviceInit) (tamUrl appName : Option CString) (coseSend : Bytes) (exchanges : List Exchange)
  | invokeWasm (env : DeviceInit) (sgxRet : SgxStatus) (invoke : InvokeEnv) (args : InvokeArgs)
  | close

variable (lib : Libraries) (teepErrCode : TeepErr → Int)

/-- The key ECALLs are only made on an enclave that has just been created. -/
def hostInit (env : DeviceInit) : InitEnv where
  sgxCreateEnclave := env.sgxCreateEnclave
  ecallSetLogLevel := env.ecallSetLogLevel
  ecallTeepGenerateEsp256KeyPair :=
    (env.ecallKey, teepErrCode (keyResult lib.qcbor initialKeys (keyCall env .generated)))
  ecallTeepSetEsp256Key :=
    (env.ecallKey, teepErrCode (keyResult lib.qcbor initialKeys (keyCall env .builtIn)))

def deviceInitialized (env : DeviceInit) (keygenMode : Option CString) (state : DeviceState) :
    Int × DeviceState × List (KeyEvent ⊕ Event) :=
  let host := sgxInitialized (hostInit lib teepErrCode env) keygenMode state.host
  if state.host.initialized || env.sgxCreateEnclave ≠ .success then (host.1, { state with host := host.2 }, [])
  else
    let created := (keyedMachine lib).run freshEnclave (keyActions env keygenMode)
    (host.1, ⟨host.2, some created.1⟩, created.2)

def enter (actions : KeyedEnclave → List EnclaveAction) (state : DeviceState) :
    DeviceState × List (KeyEvent ⊕ Event) :=
  match state.enclave with
  | none => (state, [])
  | some contents =>
    let ran := (keyedMachine lib).run contents ((actions contents).map .enclave)
    ({ state with enclave := some ran.1 }, ran.2)

def deviceInstall (tamUrl appName : Option CString) (coseSend : Bytes) (exchanges : List Exchange)
    (state : DeviceState) : DeviceState × Observed :=
  match tamUrl, appName, state.enclave with
  | some _, some appName, some contents =>
    let driven := session lib appName coseSend exchanges contents.view
    let entered := enter lib (fun contents => ecalls lib appName exchanges contents.view) state
    (entered.1, ⟨entered.2, driven.posts, driven.result.map .session, 0, []⟩)
  | _, _, _ => (state, .of [] (.session .fatal))

def invokes (args : InvokeArgs) : Bool :=
  args.wappName.getD [] ≠ [] && args.funcName.getD [] ≠ [] && args.output && args.actualLen

/-- The buffer that comes back: the bridge clears the copy that the enclave writes into. -/
def outputBuffer (args : InvokeArgs) (events : List Event) : Bytes :=
  let written := (outputs events).flatten
  written ++ List.replicate (args.outputLen - written.length) 0

def deviceInvokeWasm (sgxRet : SgxStatus) (invoke : InvokeEnv) (args : InvokeArgs) (state : DeviceState) :
    DeviceState × Observed :=
  match state.enclave with
  | none => (state, .of [] (.code (-1)))
  | some contents =>
    if !invokes args || sgxRet ≠ .success then (state, .of [] (.code (-1)))
    else
      let invoked := ecallInvokeWasm lib.csuit invoke args contents.view.table contents.view.wamr
      let entered := enter lib (fun _ => [.invokeWasm invoke args]) state
      (entered.1, ⟨entered.2, [], some (.code (ecallWasmResultCode invoked.1)), invoked.2.1,
        outputBuffer args invoked.2.2.2⟩)

def deviceStep (state : DeviceState) : DeviceCall → DeviceState × Observed
  | .init env keygenMode =>
    let init := deviceInitialized lib teepErrCode env keygenMode state
    (init.2.1, .of init.2.2 (.code init.1))
  | .setLogLevel level ecall =>
    let set := attesterSetLogLevel level ecall state.host
    ({ state with host := set.2 }, .of [] (.code set.1))
  | .install env tamUrl appName coseSend exchanges =>
    let init := deviceInitialized lib teepErrCode env none state
    if init.1 ≠ 0 then (init.2.1, .of init.2.2 (.session .fatal))
    else
      let installed := deviceInstall lib tamUrl appName coseSend exchanges init.2.1
      (installed.1, { installed.2 with events := init.2.2 ++ installed.2.events })
  | .invokeWasm env sgxRet invoke args =>
    let init := deviceInitialized lib teepErrCode env none state
    if init.1 ≠ 0 then (init.2.1, .of init.2.2 (.code init.1))
    else
      let invoked := deviceInvokeWasm lib sgxRet invoke args init.2.1
      (invoked.1, { invoked.2 with events := init.2.2 ++ invoked.2.events })
  | .close =>
    ({ host := attesterClose state.host, enclave := if state.host.initialized then none else state.enclave },
      .of [] .nothing)

def device : Machine DeviceState DeviceCall Observed where
  step state call := ((deviceStep lib teepErrCode state call).1, [(deviceStep lib teepErrCode state call).2])

end Taws.Device
