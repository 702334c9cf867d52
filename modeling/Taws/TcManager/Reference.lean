import Taws.Cbor
import Taws.TcManager.Record

/-!
# A concrete libcsuit

One way to fill in the parameters that stand for libcsuit, as its documentation describes them:
component identifiers and digests are CBOR, a file name is the segments with a `'/'` before each.

* `reference_sha256Succeeds` — the reference meets what is assumed of `suit_generate_sha256`.
* `reference_filenamesFit` — file names are NUL-terminated within the given size.
-/

namespace Taws

def byteString : Cbor.Item → Option Bytes
  | .bytes data => some data
  | _ => none

def encodeComponentIdentifier (componentId : ComponentIdentifier) : Bytes :=
  Cbor.encode (.array (componentId.map .bytes))

def decodeComponentIdentifier (encoded : Bytes) : Option ComponentIdentifier :=
  match Cbor.decode encoded with
  | some (.array items, []) => items.mapM byteString
  | _ => none

/-- What can be read as a C string: the bytes before the first NUL. -/
def cString (bytes : Bytes) : CString := bytes.takeWhile (· != 0)

def componentIdentifierToFilename (componentId : ComponentIdentifier) (size : Nat) :
    Except (Option CString) CString :=
  let filename := componentId.flatMap fun segment => '/'.toUInt8 :: segment
  if filename.length < size then .ok (cString filename) else .error none

/-- `[algorithm, bytes]` -/
def decodeDigest (encoded : Buffer) : Except SuitErr SuitDigest :=
  match Cbor.decode encoded.data with
  | some (.array [.negative algorithm, .bytes digest], []) => .ok ⟨-1 - algorithm, digest⟩
  | some (.array [.unsigned algorithm, .bytes digest], []) => .ok ⟨algorithm, digest⟩
  | _ => .error .invalidValue

def reference (sha256 : Bytes → Sha256Hash) : Libcsuit where
  suitMaxNameLength := 256
  suitDecodeComponentIdentifier := decodeComponentIdentifier
  suitComponentIdentifierToFilename := componentIdentifierToFilename
  suitGenerateSha256 := fun data _ => (.success, sha256 data)
  suitDecodeDigest := decodeDigest
  sha256 := sha256

theorem reference_sha256Succeeds (sha256 : Bytes → Sha256Hash) : (reference sha256).Sha256Succeeds :=
  fun _ _ => rfl

/-- Every file name is shorter than the buffer it is written to. -/
def Libcsuit.FilenamesFit (csuit : Libcsuit) : Prop :=
  ∀ componentId size name, csuit.suitComponentIdentifierToFilename componentId size = .ok name ∨
    csuit.suitComponentIdentifierToFilename componentId size = .error (some name) → name.length < size

theorem reference_filenamesFit (sha256 : Bytes → Sha256Hash) : (reference sha256).FilenamesFit := by
  intro componentId size name outcome
  simp only [reference, componentIdentifierToFilename] at outcome
  split at outcome
  · next fits =>
    cases outcome with
    | inl ok =>
      -- the C string ends at the first NUL, so it can only be shorter
      obtain rfl : cString _ = name := Except.ok.inj ok
      exact Nat.lt_of_le_of_lt (List.takeWhile_sublist _).length_le fits
    | inr error => simp at error
  · simp at outcome

/-! ## Two small apps -/

def wasmVersion1 : Bytes := [0, 97, 115, 109, 1, 0, 0, 0]

def wasmVersion2 : Bytes := [0, 97, 115, 109, 2, 0, 0, 0]

/-- SHA-256 of the two apps; nothing else is hashed with it. -/
def smallSha256 (data : Bytes) : Sha256Hash :=
  if data = wasmVersion1 then
    #v[147, 164, 75, 187, 150, 199, 81, 33, 142, 76, 0, 212, 121, 228, 193, 67, 88, 18, 42, 56, 154, 204,
      161, 98, 5, 177, 228, 208, 220, 95, 148, 118]
  else if data = wasmVersion2 then
    #v[89, 58, 176, 180, 209, 102, 252, 74, 162, 214, 149, 110, 163, 128, 25, 226, 197, 117, 19, 79, 129,
      57, 176, 161, 130, 53, 247, 171, 213, 149, 16, 63]
  else Vector.replicate _ 0

def smallCsuit : Libcsuit := reference smallSha256

/-- The component identifier of one segment. -/
def componentNamed (name : Bytes) : Buffer := .bytes (encodeComponentIdentifier [name])

/-- The callback that stores a manifest. -/
def manifestStore (digest : Bytes) (sequenceNumber : UInt64) (name bin : Bytes) : SuitStoreArgs where
  operation := .store
  manifestDigest := .bytes digest
  manifestSequenceNumber := sequenceNumber
  isManifestItself := true
  dst := componentNamed name
  srcBuf := .bytes bin

/-- The callback that stores a payload. -/
def payloadStore (digest : Bytes) (sequenceNumber : UInt64) (name bin : Bytes) : SuitStoreArgs where
  operation := .store
  manifestDigest := .bytes digest
  manifestSequenceNumber := sequenceNumber
  isManifestItself := false
  dst := componentNamed name
  srcBuf := .bytes bin

end Taws
