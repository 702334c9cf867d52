import Taws.Suit.Callbacks
import Taws.Teep.Messages

/-!
# Events

What the enclave does that its state alone does not show: heap blocks, the SUIT processor, the
messages it builds and the WASM runtime.  The functions of the model return the events they cause,
oldest first.
-/

namespace Taws

open Teep (Block)

/-- A module, a module instance or an execution environment of the WASM runtime. -/
abbrev Handle := Nat

inductive Event where
  | allocated (block : Block)
  | freed (block : Block)
  -- the SUIT processor; `context` is the block of the processor context that the call reads
  | processorInitialized (context : Block)
  | manifestAdded (context : Block)
  | callback (callback : Suit.SuitCallback) (returned : SuitErr)
  | envelopeProcessed (context : Block) (manifestDigest : Buffer) (result : SuitErr)
  | recordChecked (context : Block) (manifestDigest : Buffer) (returned : Int)
  | processorFreed (context : Block)
  -- messages
  | updateEntered
  | built (message : Teep.TeepMessage)
  | encoded (message : Bytes)
  | signed (message : Bytes)
  -- the WASM runtime; `size` is the length that the call is given
  | wasmLoaded (wappName : CString) (wappBin : Bytes) (size : Nat)
  | wasmInstantiated (module moduleInstance : Handle)
  | wasmDeinstantiated (moduleInstance : Handle)
  | wasmUnloaded (module : Handle)
  | execEnvCreated (execEnv : Handle)
  | execEnvDestroyed (execEnv : Handle)
  | moduleAllocated (offset : UInt64) (size : UInt32)
  | moduleFreed (offset : UInt64)
  | inputCopied (input : Buffer) (length : Nat)
  | wasmCalled (argv : Vector UInt32 4)
  | outputWritten (output : Bytes)
  deriving DecidableEq

end Taws
