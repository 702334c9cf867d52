import Taws.Event

/-!
# Attestation evidence

The DCAP path of `Enclave_generate_evidence.cpp`, which `SGX_EVIDENCE == 1` selects.  The SGX functions
and OCALLs are outcomes in `EvidenceEnv`; a bridge failure and a failure of the OCALL itself lead to
the same exit and are one outcome.
-/

namespace Taws.Teep

inductive TeepErr where
  | success
  | invalidValue
  | noMemory
  | unexpectedError
  deriving DecidableEq

/-- What is read of `teep_key_t`. -/
structure TeepKey where
  publicKey : Buffer
  deriving DecidableEq

def prime256v1PublicKeyLength : Nat := 65

def kP256CoordinateLength : Nat := 32

abbrev SgxTargetInfo := Bytes

abbrev SgxReport := Bytes

abbrev SgxSha384Hash := Vector UInt8 48

/-- `sgx_report_data_t` -/
abbrev SgxReportData := Vector UInt8 (48 + 16)

structure EvidenceEnv where
  quoteBuf : Option Block
  ocallGetQeTargetInfo : Option SgxTargetInfo
  /-- The hash over the updates in turn, from `sgx_sha384_init` to `sgx_sha384_close`. -/
  sgxSha384 : List Bytes → Option SgxSha384Hash
  sgxCreateReport : SgxTargetInfo → SgxReportData → Option SgxReport
  ocallGetQuoteSize : Option Nat
  ocallGetQuote : SgxReport → (size : Nat) → Option (Vector UInt8 size)
  rawReportDataBuf : Option Block

def isUncompressedP256PublicKey (keyPair : TeepKey) : Bool :=
  !keyPair.publicKey.isNull && keyPair.publicKey.len == prime256v1PublicKeyLength &&
    keyPair.publicKey.data.head? == some 0x04

/-- The `challenge` that is passed on: NULL when the request has none. -/
def getQueryChallenge (queryRequest : TeepQueryRequest) : Except TeepErr Buffer :=
  if .challenge ∉ queryRequest.contains then .ok (.null 0)
  else if queryRequest.challenge.len > 0 && queryRequest.challenge.isNull then .error .invalidValue
  else .ok queryRequest.challenge

/-- The two coordinates of the public key. -/
def publicKeyX (keyPair : TeepKey) : Bytes := (keyPair.publicKey.data.drop 1).take kP256CoordinateLength

def publicKeyY (keyPair : TeepKey) : Bytes :=
  (keyPair.publicKey.data.drop (1 + kP256CoordinateLength)).take kP256CoordinateLength

def createRawDcapReportData (env : EvidenceEnv) (queryRequest : TeepQueryRequest) (keyPair : TeepKey) :
    Except TeepErr (Block × Bytes) :=
  if !isUncompressedP256PublicKey keyPair then .error .invalidValue
  else
    match getQueryChallenge queryRequest with
    | .error code => .error code
    | .ok challenge =>
      match env.rawReportDataBuf with
      | none => .error .noMemory
      | some buf => .ok (buf, publicKeyX keyPair ++ publicKeyY keyPair ++ challenge.data)

/-- The length of the challenge is cast to 32 bits for the update. -/
def createDcapReportData (env : EvidenceEnv) (queryRequest : TeepQueryRequest) (keyPair : TeepKey) :
    Except TeepErr SgxReportData :=
  if !isUncompressedP256PublicKey keyPair then .error .invalidValue
  else
    match getQueryChallenge queryRequest with
    | .error code => .error code
    | .ok challenge =>
      let updates := [publicKeyX keyPair, publicKeyY keyPair] ++
        if challenge.len > 0 then [challenge.data.take (challenge.len % 2 ^ 32)] else []
      match env.sgxSha384 updates with
      | none => .error .unexpectedError
      | some digest => .ok (digest ++ Vector.replicate 16 (0 : UInt8))

/-- `bufLen` is the size of the quote buffer. -/
def createEvidenceDcap (env : EvidenceEnv) (queryRequest : TeepQueryRequest) (bufLen : Nat)
    (keyPair : TeepKey) : Except TeepErr Bytes :=
  if !isUncompressedP256PublicKey keyPair || bufLen = 0 then .error .invalidValue
  else
    match getQueryChallenge queryRequest with
    | .error code => .error code
    | .ok _ =>
      match env.ocallGetQeTargetInfo with
      | none => .error .unexpectedError
      | some qeTargetInfo =>
        match createDcapReportData env queryRequest keyPair with
        | .error code => .error code
        | .ok reportData =>
          match env.sgxCreateReport qeTargetInfo reportData with
          | none => .error .unexpectedError
          | some report =>
            match env.ocallGetQuoteSize with
            | none => .error .unexpectedError
            | some requiredQuoteSize =>
              if requiredQuoteSize = 0 || requiredQuoteSize > bufLen then .error .noMemory
              else
                match env.ocallGetQuote report requiredQuoteSize with
                | none => .error .unexpectedError
                | some quote => .ok quote.toList

/-- `bufLen` is the size of the caller's buffer.  The quote buffer and the raw report data are freed on
every exit after they were allocated. -/
def createEvidenceDcapEnvelope (qcbor : Qcbor) (env : EvidenceEnv) (queryRequest : TeepQueryRequest)
    (bufLen : Nat) (keyPair : TeepKey) : Except TeepErr Bytes × List Event :=
  if !isUncompressedP256PublicKey keyPair || bufLen = 0 then (.error .invalidValue, [])
  else
    match env.quoteBuf with
    | none => (.error .noMemory, [])
    | some quoteBuf =>
      match createEvidenceDcap env queryRequest bufLen keyPair with
      | .error code => (.error code, [.allocated quoteBuf, .freed quoteBuf])
      | .ok quote =>
        match createRawDcapReportData env queryRequest keyPair with
        | .error code => (.error code, [.allocated quoteBuf, .freed quoteBuf])
        | .ok (rawReportDataBuf, rawReportData) =>
          let events := [.allocated quoteBuf, .allocated rawReportDataBuf, .freed rawReportDataBuf,
            .freed quoteBuf]
          match qcbor.finish (.array [.bytes quote, .bytes rawReportData]) bufLen with
          | none => (.error .unexpectedError, events)
          | some eat => (.ok eat, events)

end Taws.Teep
