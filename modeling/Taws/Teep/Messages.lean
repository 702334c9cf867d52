import Mathlib.Data.Finset.Basic
import Taws.Cbor
import Taws.TcManager.Record

/-!
# TEEP messages

The messages of libteep as the agent reads and builds them, and the parts of libteep and QCBOR that
it calls.  Neither library is part of the repository, so they are parameters.

A received message is whatever `recv_message` holds after decoding: a field whose bit in `contains`
is not set holds whatever the memory held before.  Its arrays are the lists that can be read from them;
counts and pointers that lead elsewhere are the matter of `RawMessages`.  The agent clears a QueryResponse before it builds
it and sets only the bits of an Error or a Success, so the fields of those two are optional.

* `createError` — the common constructor of Error messages.
-/

namespace Taws.Teep

/-- The identity of a heap block. -/
abbrev Block := Nat

/-- The `TEEP_MESSAGE_CONTAINS_` bits. -/
inductive MessageField where
  | token
  | versions
  | supportedTeepCipherSuites
  | challenge
  | manifestList
  | selectedVersion
  | attestationPayload
  | attestationPayloadFormat
  | requestedTcList
  | tcList
  deriving DecidableEq

structure CoseMechanism where
  coseTag : Nat
  algorithmId : Int
  deriving DecidableEq

/-- `teep_cipher_suite_t` -/
structure TeepCipherSuite where
  first : CoseMechanism
  second : CoseMechanism
  deriving DecidableEq

/-- Whether encoding into a buffer of the given size succeeds, and with which bytes. -/
structure Qcbor where
  finish : Cbor.Item → Nat → Option Bytes
  finishGetSize : Cbor.Item → Option Nat
  /-- The size that is left behind the given prefix of a buffer, `none` for a NULL result. -/
  usefulBufSliceTail : Nat → Nat → Option Nat

/-- What is encoded is the preferred serialisation of the item. -/
def Qcbor.PreferredSerialisation (qcbor : Qcbor) : Prop :=
  ∀ item size encoded, qcbor.finish item size = some encoded → encoded = Cbor.encode item

structure Libteep where
  teepMaxArrayLength : Nat
  /-- The number of entries of the `tc_list` of a QueryResponse. -/
  tcListCapacity : Nat
  cborTagCoseSign1 : Nat
  cborTagInvalid16 : Nat
  tCoseAlgorithmEsp256 : Int
  teepCoseNone : Int
  teepCipherSuiteIsSame : TeepCipherSuite → TeepCipherSuite → Bool

def supportedVersion : Nat := 0

def supportedTeepCipherSuite (teep : Libteep) : TeepCipherSuite :=
  ⟨⟨teep.cborTagCoseSign1, teep.tCoseAlgorithmEsp256⟩, ⟨0, 0⟩⟩

def supportedTeepCipherSuites (teep : Libteep) : List TeepCipherSuite := [supportedTeepCipherSuite teep]

def teepCipherSuiteInvalid (teep : Libteep) : TeepCipherSuite :=
  ⟨⟨teep.cborTagInvalid16, teep.teepCoseNone⟩, ⟨teep.cborTagInvalid16, teep.teepCoseNone⟩⟩

/-! ## Received messages -/

structure DataItemRequested where
  attestation : Bool
  trustedComponents : Bool
  deriving DecidableEq

/-- `teep_query_request_t` -/
structure TeepQueryRequest where
  contains : Finset MessageField
  dataItemRequested : DataItemRequested
  token : Buffer
  versions : List Nat
  supportedTeepCipherSuites : List TeepCipherSuite
  challenge : Buffer

/-- `teep_update_t` -/
structure TeepUpdate where
  contains : Finset MessageField
  token : Buffer
  manifestList : List Buffer

/-- What `recv_message` is decoded to. -/
inductive RecvMessage where
  | queryRequest (request : TeepQueryRequest)
  | update (update : TeepUpdate)
  | other

/-! ## Messages to send -/

inductive TeepErrCode where
  | permanentError
  | unsupportedMsgVersion
  | unsupportedCipherSuites
  | manifestProcessingFailed
  | temporaryError
  deriving DecidableEq

/-- An entry of `tc_list`: the heap block that holds it and its bytes. -/
structure TcInfo where
  block : Block
  encoded : Bytes
  deriving DecidableEq

/-- `teep_query_response_t` -/
structure TeepQueryResponse where
  contains : Finset MessageField := ∅
  token : Buffer := .null 0
  selectedVersion : Nat := 0
  attestationPayload : Buffer := .null 0
  attestationPayloadFormat : Buffer := .null 0
  requestedTcList : List Bytes := []
  tcList : List TcInfo := []
  deriving DecidableEq

/-- `teep_error_t`; a field whose bit is not set is `none`. -/
structure TeepError where
  errCode : TeepErrCode
  token : Option Buffer := none
  errMsg : Option Buffer := none
  suitReports : Option Buffer := none
  versions : Option (List Nat) := none
  supportedTeepCipherSuites : Option (List TeepCipherSuite) := none
  deriving DecidableEq

/-- `teep_success_t` -/
structure TeepSuccess where
  token : Buffer
  suitReports : Option Buffer := none
  deriving DecidableEq

/-- `send_message`, by its type; what another type holds is not looked at. -/
inductive TeepMessage where
  | queryResponse (response : TeepQueryResponse)
  | error (error : TeepError)
  | success (success : TeepSuccess)
  | other
  deriving DecidableEq

def TeepMessage.isQueryResponse : TeepMessage → Bool
  | .queryResponse _ => true
  | _ => false

def TeepMessage.isSuccess : TeepMessage → Bool
  | .success _ => true
  | _ => false

/-- The token is put into the Error whether or not the request has one. -/
def createError (teep : Libteep) (token : Buffer) (errCode : TeepErrCode) (msgBuf suitReportBuf : Buffer) :
    TeepMessage :=
  .error
    { errCode := errCode
      token := if !token.isNull && 8 ≤ token.len && token.len ≤ 64 then some token else none
      errMsg := if msgBuf.len > 0 then some msgBuf else none
      suitReports :=
        if errCode = .manifestProcessingFailed && !suitReportBuf.isNull && suitReportBuf.len > 0 then
          some suitReportBuf
        else none
      versions := if errCode = .unsupportedMsgVersion then some [supportedVersion] else none
      supportedTeepCipherSuites :=
        if errCode = .unsupportedCipherSuites then some (supportedTeepCipherSuites teep) else none }

end Taws.Teep
