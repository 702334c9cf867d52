import Mathlib.Data.List.Basic

/-!
# Byte buffers

Pointers with a length, as the enclave passes them around (`UsefulBuf`, `UsefulBufC`, `teep_buf_t`),
C strings and SHA-256 hashes.
-/

namespace Taws

abbrev Bytes := List UInt8

/-- A pointer with a length: NULL with whatever length stands beside it, or the bytes it points to. -/
inductive Buffer where
  | null (length : Nat)
  | bytes (data : Bytes)
  deriving DecidableEq

namespace Buffer

def isNull : Buffer → Bool
  | .null _ => true
  | .bytes _ => false

def len : Buffer → Nat
  | .null length => length
  | .bytes data => data.length

/-- The bytes that can be read through the pointer. -/
def data : Buffer → Bytes
  | .null _ => []
  | .bytes data => data

/-- `UsefulBuf_IsNULLOrEmpty`, `UsefulBuf_IsNULLOrEmptyC` -/
def isNullOrEmpty (buffer : Buffer) : Bool := buffer.isNull || buffer.len == 0

@[simp] theorem isNull_null (length : Nat) : (null length).isNull = true := rfl
@[simp] theorem isNull_bytes (data : Bytes) : (bytes data).isNull = false := rfl
@[simp] theorem len_null (length : Nat) : (null length).len = length := rfl
@[simp] theorem len_bytes (data : Bytes) : (bytes data).len = data.length := rfl
@[simp] theorem data_null (length : Nat) : (null length).data = [] := rfl
@[simp] theorem data_bytes (data : Bytes) : (bytes data).data = data := rfl
@[simp] theorem isNullOrEmpty_null (length : Nat) : (null length).isNullOrEmpty = true := rfl

@[simp] theorem isNullOrEmpty_bytes (data : Bytes) : (bytes data).isNullOrEmpty = data.isEmpty := by
  cases data <;> rfl

theorem isNullOrEmpty_eq_false {buffer : Buffer} :
    buffer.isNullOrEmpty = false ↔ buffer = .bytes buffer.data ∧ buffer.data ≠ [] := by
  cases buffer <;> simp

/-- Two non-empty buffers with equal bytes are equal as buffers. -/
theorem eq_of_data {first second : Buffer} (firstFull : first.isNullOrEmpty = false)
    (same : first.data = second.data) : first = second := by
  cases first <;> cases second <;> simp_all

end Buffer

/-- What a `char` array holds as a C string: the bytes before the first NUL. -/
abbrev CString := Bytes

def sha256DigestLength : Nat := 32

abbrev Sha256Hash := Vector UInt8 sha256DigestLength

end Taws
