import Taws.Teep.Evidence

/-!
# Processing a QueryRequest

`process_query_request` of `Enclave_process_message.cpp`.  The allocations it makes are outcomes in
`QueryEnv`; a tc-info buffer is a heap block that the response refers to.

* `versionSupported`, `negotiatedCipherSuite` — negotiation.
* `attestationStep`, `trustedComponentsStep`, `requestedItems` — the two items that can be requested.
* `processQueryRequest` — the whole function.
-/

namespace Taws.Teep

open TcManager

/-- `WORK_BUF_LEN` -/
def workBufLen : Nat := 1024 * 64

def kDcapQuoteAttestationPayloadFormat : Bytes := "application/sgx-quote3-teep-bundle".toUTF8.toList

structure QueryEnv where
  evidence : EvidenceEnv
  /-- The temporary list of tc-list items. -/
  tcListItems : Option Block
  /-- The buffer of the tc-info at each index. -/
  tcInfoBuf : Nat → Option Block

/-- The outside world as `process_query_request` sees it. -/
structure Libraries where
  csuit : Libcsuit
  teep : Libteep
  qcbor : Qcbor

/-! ## tc-info -/

/-- `encode_tc_info_map` -/
def tcInfoMap (item : TcListItem) : Cbor.Item :=
  .map
    [(.unsigned 0, .array [.bytes item.componentId]),
      (.unsigned 3, .bytes (Cbor.encode (.array [.negative 15, .bytes item.tcImageDigest.toList])))]

def buildTcInfoCborFromTcListItem (lib : Libraries) (tcInfoBuf : Option Block) (item : TcListItem) :
    Option TcInfo × List Event :=
  -- `strnlen`
  let componentIdLen := min item.componentId.length (tcComponentIdMaxLen lib.csuit + 1)
  if componentIdLen = 0 || componentIdLen > tcComponentIdMaxLen lib.csuit then (none, [])
  else
    match lib.qcbor.finishGetSize (tcInfoMap item) with
    | none => (none, [])
    | some tcInfoBufLen =>
      if tcInfoBufLen = 0 then (none, [])
      else
        match tcInfoBuf with
        | none => (none, [])
        | some block =>
          match lib.qcbor.finish (tcInfoMap item) tcInfoBufLen with
          | none => (none, [.allocated block, .freed block])
          | some encoded => (some ⟨block, encoded⟩, [.allocated block])

/-- The loop over the items from `index` on; `none` where one of them cannot be built. -/
def buildTcInfos (lib : Libraries) (tcInfoBuf : Nat → Option Block) :
    Nat → List TcListItem → Option (List TcInfo) × List Event
  | _, [] => (some [], [])
  | index, item :: items =>
    match buildTcInfoCborFromTcListItem lib (tcInfoBuf index) item with
    | (none, events) => (none, events)
    | (some info, events) =>
      match buildTcInfos lib tcInfoBuf (index + 1) items with
      | (none, later) => (none, events ++ later)
      | (some infos, later) => (some (info :: infos), events ++ later)

/-- Frees the first `tc_list.len` entries. -/
def freeQueryResponseTcListBuffers (queryResponse : TeepQueryResponse) : List Event :=
  queryResponse.tcList.map fun info => .freed info.block

/-! ## Negotiation -/

/-- Without a list of versions, version 0 is meant. -/
def versionSupported (queryRequest : TeepQueryRequest) : Bool :=
  if .versions ∈ queryRequest.contains then queryRequest.versions.contains supportedVersion else true

/-- The cipher suite after the two loops: the list is searched whether or not its bit is set. -/
def negotiatedCipherSuite (teep : Libteep) (queryRequest : TeepQueryRequest) : TeepCipherSuite :=
  let preset :=
    if .supportedTeepCipherSuites ∉ queryRequest.contains then supportedTeepCipherSuite teep
    else teepCipherSuiteInvalid teep
  if queryRequest.supportedTeepCipherSuites.any
      (fun suite => teep.teepCipherSuiteIsSame suite (supportedTeepCipherSuite teep)) then
    supportedTeepCipherSuite teep
  else preset

/-! ## The requested items -/

/-- The cleared response with the token, the selected version and their bits. -/
def clearedResponse (queryRequest : TeepQueryRequest) : TeepQueryResponse :=
  let hasToken := .token ∈ queryRequest.contains
  { contains := (if hasToken then {.token} else ∅) ∪ {.selectedVersion}
    token := if hasToken then queryRequest.token else .null 0
    selectedVersion := supportedVersion }

/-- The response so far and the size of what is left of the scratch buffer, or an error code. -/
abbrev StepResult := Except TeepErrCode (TeepQueryResponse × Nat) × List Event

def attestationStep (lib : Libraries) (env : QueryEnv) (queryRequest : TeepQueryRequest)
    (keyPair : TeepKey) (queryResponse : TeepQueryResponse) (tmpLen : Nat) : StepResult :=
  if !queryRequest.dataItemRequested.attestation then (.ok (queryResponse, tmpLen), [])
  else
    match createEvidenceDcapEnvelope lib.qcbor env.evidence queryRequest tmpLen keyPair with
    | (.error _, events) => (.error .temporaryError, events)
    | (.ok eat, events) =>
      match lib.qcbor.usefulBufSliceTail tmpLen eat.length with
      | none => (.error .temporaryError, events)
      | some rest =>
        (.ok
          ({ queryResponse with
              contains := queryResponse.contains ∪ {.attestationPayload, .attestationPayloadFormat}
              attestationPayload := .bytes eat
              attestationPayloadFormat := .bytes kDcapQuoteAttestationPayloadFormat }, rest), events)

/-- Everything after the requested component identifier has been encoded.  Where a tc-info cannot be
built, the buffers are freed while `tc_list.len` is still 0. -/
def tcListStep (lib : Libraries) (env : QueryEnv) (table : RecordTable)
    (queryResponse : TeepQueryResponse) : Except TeepErrCode TeepQueryResponse × List Event :=
  let recordCount := tcManagerRecordCount table
  if recordCount > lib.teep.tcListCapacity then (.error .permanentError, [])
  else if recordCount = 0 then (.ok queryResponse, [])
  else
    match env.tcListItems with
    | none => (.error .temporaryError, [])
    | some items =>
      match tcManagerGetTcList lib.csuit table true recordCount true with
      | (returned, tcListItems) =>
        if returned ≠ 0 then (.error .temporaryError, [.allocated items, .freed items])
        else
          match buildTcInfos lib env.tcInfoBuf 0 tcListItems with
          | (none, events) =>
            (.error .temporaryError,
              .allocated items :: events ++ .freed items :: freeQueryResponseTcListBuffers queryResponse)
          | (some infos, events) =>
            (.ok
              { queryResponse with
                contains := queryResponse.contains ∪ {.tcList}
                tcList := infos },
              .allocated items :: events ++ [.freed items])

def trustedComponentsStep (lib : Libraries) (env : QueryEnv) (queryRequest : TeepQueryRequest)
    (appName : Option CString) (table : RecordTable) (queryResponse : TeepQueryResponse) (tmpLen : Nat) :
    Except TeepErrCode TeepQueryResponse × List Event :=
  if !queryRequest.dataItemRequested.trustedComponents then (.ok queryResponse, [])
  else
    match appName with
    | none => (.error .permanentError, [])
    | some name =>
      if name = [] then (.error .permanentError, [])
      else
        match lib.qcbor.finish (.array [.bytes name]) tmpLen with
        | none => (.error .temporaryError, [])
        | some encodedRequestedComponentId =>
          tcListStep lib env table
            { queryResponse with
              contains := queryResponse.contains ∪ {.requestedTcList}
              requestedTcList := [encodedRequestedComponentId] }

/-- What follows the negotiation. -/
def requestedItems (lib : Libraries) (env : QueryEnv) (queryRequest : TeepQueryRequest) (workBuf : Nat)
    (appName : Option CString) (keyPair : TeepKey) (table : RecordTable) :
    Except TeepErrCode TeepQueryResponse × List Event :=
  match attestationStep lib env queryRequest keyPair (clearedResponse queryRequest) workBuf with
  | (.error code, events) => (.error code, events)
  | (.ok (queryResponse, tmpLen), events) =>
    match trustedComponentsStep lib env queryRequest appName table queryResponse tmpLen with
    | (built, later) => (built, events ++ later)

/-- The response, or the error code that `create_error` is called with.  Of the scratch buffer `workBuf`
only the length decides anything. -/
def buildQueryResponse (lib : Libraries) (env : QueryEnv) (queryRequest : TeepQueryRequest) (workBuf : Nat)
    (appName : Option CString) (keyPair : TeepKey) (table : RecordTable) :
    Except TeepErrCode TeepQueryResponse × List Event :=
  if !versionSupported queryRequest then (.error .unsupportedMsgVersion, [])
  else if lib.teep.teepCipherSuiteIsSame (negotiatedCipherSuite lib.teep queryRequest)
      (teepCipherSuiteInvalid lib.teep) then (.error .unsupportedCipherSuites, [])
  else requestedItems lib env queryRequest workBuf appName keyPair table

def processQueryRequest (lib : Libraries) (env : QueryEnv) (queryRequest : TeepQueryRequest) (workBuf : Nat)
    (appName : Option CString) (keyPair : TeepKey) (table : RecordTable) :
    TeepErr × TeepMessage × List Event :=
  match buildQueryResponse lib env queryRequest workBuf appName keyPair table with
  | (.error code, events) =>
    (.success, createError lib.teep queryRequest.token code (.null 0) (.null 0), events)
  | (.ok queryResponse, events) => (.success, .queryResponse queryResponse, events)

end Taws.Teep
