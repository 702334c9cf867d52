import Taws.Buffers

/-!
# Manifest records

The record type of `tc_manager.h`, the arguments of the SUIT store callback, and the parts of
libcsuit that `tc_manager.cpp` calls.  libcsuit is not part of the repository, so its functions are
parameters; what is assumed of them is stated where it is used.
-/

namespace Taws

inductive SuitErr where
  | success
  | fatal
  | conditionMismatch
  | invalidValue
  | notImplemented
  | noMemory
  | other (code : Int)
  deriving DecidableEq

inductive SuitStoreOperation where
  | store
  | other (key : Nat)
  deriving DecidableEq

/-- The byte strings of a decoded `suit_component_identifier_t`. -/
abbrev ComponentIdentifier := List Bytes

structure SuitDigest where
  algorithmId : Int
  bytes : Bytes
  deriving DecidableEq

structure Libcsuit where
  suitMaxNameLength : Nat
  suitDecodeComponentIdentifier : Bytes → Option ComponentIdentifier
  /-- The file name as the buffer of the given size holds it afterwards; an error carries what the
  failed call has left in the buffer, if it wrote there at all. -/
  suitComponentIdentifierToFilename : ComponentIdentifier → Nat → Except (Option CString) CString
  /-- The return code, and what the 32-byte buffer holds afterwards. -/
  suitGenerateSha256 : Bytes → Sha256Hash → SuitErr × Sha256Hash
  suitDecodeDigest : Buffer → Except SuitErr SuitDigest
  /-- SHA-256 itself, as `suitGenerateSha256` is documented to compute it. -/
  sha256 : Bytes → Sha256Hash

/-- Every call of `suit_generate_sha256` into a 32-byte buffer succeeds. -/
def Libcsuit.Sha256Succeeds (csuit : Libcsuit) : Prop :=
  ∀ data hash, csuit.suitGenerateSha256 data hash = (.success, csuit.sha256 data)

/-- `suit_store_args_t` -/
structure SuitStoreArgs where
  operation : SuitStoreOperation
  manifestDigest : Buffer
  manifestSequenceNumber : UInt64
  isManifestItself : Bool
  dst : Buffer
  srcBuf : Buffer
  deriving DecidableEq

/-- `manifest_record_t` -/
structure ManifestRecord where
  manifestDigest : Buffer
  manifestName : CString
  manifestSequenceNumber : UInt64
  manifestBin : Buffer
  wappName : CString
  wappHash : Sha256Hash
  wappBin : Buffer
  deriving DecidableEq

/-- A record whose memory is all zero. -/
instance : Inhabited ManifestRecord where
  default :=
    { manifestDigest := .null 0, manifestName := [], manifestSequenceNumber := 0,
      manifestBin := .null 0, wappName := [], wappHash := Vector.replicate _ 0, wappBin := .null 0 }

namespace ManifestRecord

@[simp] theorem default_manifestDigest : (default : ManifestRecord).manifestDigest = .null 0 := rfl
@[simp] theorem default_manifestName : (default : ManifestRecord).manifestName = [] := rfl
@[simp] theorem default_manifestSequenceNumber :
    (default : ManifestRecord).manifestSequenceNumber = 0 := rfl
@[simp] theorem default_manifestBin : (default : ManifestRecord).manifestBin = .null 0 := rfl
@[simp] theorem default_wappName : (default : ManifestRecord).wappName = [] := rfl
@[simp] theorem default_wappBin : (default : ManifestRecord).wappBin = .null 0 := rfl

end ManifestRecord

end Taws
