import Taws.Teep.Reference

/-!
# What the evidence binds together

`create_evidence_dcap_envelope` with its out-parameter: what `*ret` holds on each exit, also where the
function fails.  A payload that is returned holds a quote over the hash of the public key and the challenge,
and next to it the bytes that were hashed.

* `OutParameter.createEvidenceDcap`, `OutParameter.createEvidenceDcapEnvelope` — the functions with `*ret`.
* `createEvidenceDcapEnvelope_ret` — they compute what the functions that return the payload compute.
* `createDcapReportData_hash` — the streamed hash is the hash of the concatenated report data.
* `envelope_bindsQuote` — the binding.
-/

namespace Taws.Teep

variable {qcbor : Qcbor} {env : EvidenceEnv} {queryRequest : TeepQueryRequest} {keyPair : TeepKey}

/-! ## The out-parameter -/

/-- A `UsefulBuf` that is only written to. -/
structure Storage where
  isNull : Bool
  len : Nat

structure EvidenceReturn where
  result : TeepErr
  ret : Buffer
  deriving DecidableEq

namespace OutParameter

/-- `ret` is what `*ret` holds at the call. -/
def createEvidenceDcap (env : EvidenceEnv) (queryRequest : Option TeepQueryRequest) (buf : Storage)
    (keyPair : Option TeepKey) (ret : Buffer) : EvidenceReturn :=
  match queryRequest, keyPair with
  | some queryRequest, some keyPair =>
    if !isUncompressedP256PublicKey keyPair || buf.isNull || buf.len == 0 then ⟨.invalidValue, ret⟩
    else
      let ret := .null 0
      match getQueryChallenge queryRequest with
      | .error code => ⟨code, ret⟩
      | .ok _ =>
        match env.ocallGetQeTargetInfo with
        | none => ⟨.unexpectedError, ret⟩
        | some qeTargetInfo =>
          match createDcapReportData env queryRequest keyPair with
          | .error code => ⟨code, ret⟩
          | .ok reportData =>
            match env.sgxCreateReport qeTargetInfo reportData with
            | none => ⟨.unexpectedError, ret⟩
            | some report =>
              match env.ocallGetQuoteSize with
              | none => ⟨.unexpectedError, ret⟩
              | some requiredQuoteSize =>
                if requiredQuoteSize = 0 || requiredQuoteSize > buf.len then ⟨.noMemory, ret⟩
                else
                  match env.ocallGetQuote report requiredQuoteSize with
                  | none => ⟨.unexpectedError, ret⟩
                  | some quote => ⟨.success, .bytes quote.toList⟩
  | _, _ => ⟨.invalidValue, ret⟩

/-- The `cleanup` label. -/
def cleanup (result : TeepErr) (ret : Buffer) : EvidenceReturn :=
  ⟨result, if result ≠ .success then .null 0 else ret⟩

/-- `unfinished` is what a failed `QCBOREncode_Finish` leaves in `*ret`. -/
def createEvidenceDcapEnvelope (qcbor : Qcbor) (env : EvidenceEnv) (queryRequest : Option TeepQueryRequest)
    (buf : Storage) (keyPair : Option TeepKey) (unfinished ret : Buffer) : EvidenceReturn :=
  match queryRequest, keyPair with
  | some queryRequest, some keyPair =>
    if !isUncompressedP256PublicKey keyPair || buf.isNull || buf.len == 0 then ⟨.invalidValue, ret⟩
    else
      let ret := .null 0
      match env.quoteBuf with
      | none => ⟨.noMemory, ret⟩
      | some _ =>
        -- the quote gets storage of its own, as large as the caller's
        let quote := createEvidenceDcap env (some queryRequest) ⟨false, buf.len⟩ (some keyPair) (.null 0)
        if quote.result ≠ .success then cleanup quote.result ret
        else
          match createRawDcapReportData env queryRequest keyPair with
          | .error code => cleanup code ret
          | .ok (_, rawReportData) =>
            match qcbor.finish (.array [.bytes quote.ret.data, .bytes rawReportData]) buf.len with
            | none => cleanup .unexpectedError unfinished
            | some eat => cleanup .success (.bytes eat)
  | _, _ => ⟨.invalidValue, ret⟩

end OutParameter

/-- An error leaves NULL behind. -/
def returned : Except TeepErr Bytes → EvidenceReturn
  | .ok data => ⟨.success, .bytes data⟩
  | .error code => ⟨code, .null 0⟩

theorem createEvidenceDcap_ret (buf : Storage) (ret : Buffer)
    (uncompressed : isUncompressedP256PublicKey keyPair = true) (notNull : buf.isNull = false)
    (notEmpty : buf.len ≠ 0) :
    OutParameter.createEvidenceDcap env (some queryRequest) buf (some keyPair) ret =
      returned (createEvidenceDcap env queryRequest buf.len keyPair) := by
  have accepted : (!isUncompressedP256PublicKey keyPair || buf.isNull || buf.len == 0) = false := by
    simp [uncompressed, notNull, notEmpty]
  have acceptedHere : (!isUncompressedP256PublicKey keyPair || decide (buf.len = 0)) = false := by
    simp [uncompressed, notEmpty]
  simp only [OutParameter.createEvidenceDcap, createEvidenceDcap, accepted, acceptedHere, Bool.false_eq_true,
    if_false]
  cases getQueryChallenge queryRequest with
  | error code => rfl
  | ok challenge =>
    cases env.ocallGetQeTargetInfo with
    | none => rfl
    | some qeTargetInfo =>
      cases createDcapReportData env queryRequest keyPair with
      | error code => rfl
      | ok reportData =>
        dsimp only
        cases env.sgxCreateReport qeTargetInfo reportData with
        | none => rfl
        | some report =>
          cases env.ocallGetQuoteSize with
          | none => rfl
          | some requiredQuoteSize =>
            dsimp only
            split
            · rfl
            · cases env.ocallGetQuote report requiredQuoteSize with
              | none => rfl
              | some quote => rfl

theorem getQueryChallenge_error {code : TeepErr} (failed : getQueryChallenge queryRequest = .error code) :
    code ≠ .success := by
  simp only [getQueryChallenge] at failed
  split at failed
  · cases failed
  · split at failed <;> cases failed
    simp

theorem createDcapReportData_error {code : TeepErr}
    (failed : createDcapReportData env queryRequest keyPair = .error code) : code ≠ .success := by
  simp only [createDcapReportData] at failed
  split at failed
  · cases failed
    simp
  · split at failed
    · next challengeFailed =>
      cases failed
      exact getQueryChallenge_error challengeFailed
    · split at failed <;> cases failed
      simp

theorem createRawDcapReportData_error {code : TeepErr}
    (failed : createRawDcapReportData env queryRequest keyPair = .error code) : code ≠ .success := by
  simp only [createRawDcapReportData] at failed
  split at failed
  · cases failed
    simp
  · split at failed
    · next challengeFailed =>
      cases failed
      exact getQueryChallenge_error challengeFailed
    · split at failed <;> cases failed
      simp

theorem createEvidenceDcap_error {bufLen : Nat} {code : TeepErr}
    (failed : createEvidenceDcap env queryRequest bufLen keyPair = .error code) : code ≠ .success := by
  simp only [createEvidenceDcap] at failed
  split at failed
  · cases failed
    simp
  split at failed
  · next challengeFailed =>
    cases failed
    exact getQueryChallenge_error challengeFailed
  split at failed
  · cases failed
    simp
  split at failed
  · next reportDataFailed =>
    cases failed
    exact createDcapReportData_error reportDataFailed
  split at failed
  · cases failed
    simp
  split at failed
  · cases failed
    simp
  split at failed
  · cases failed
    simp
  · split at failed <;> cases failed
    simp

/-- Past the checks of the arguments the out-parameter is the payload, or NULL. -/
theorem createEvidenceDcapEnvelope_ret {buf : Storage} (unfinished ret : Buffer)
    (uncompressed : isUncompressedP256PublicKey keyPair = true) (notNull : buf.isNull = false)
    (notEmpty : buf.len ≠ 0) :
    OutParameter.createEvidenceDcapEnvelope qcbor env (some queryRequest) buf (some keyPair) unfinished ret =
      returned (createEvidenceDcapEnvelope qcbor env queryRequest buf.len keyPair).1 := by
  have accepted : (!isUncompressedP256PublicKey keyPair || buf.isNull || buf.len == 0) = false := by
    simp [uncompressed, notNull, notEmpty]
  have acceptedHere : (!isUncompressedP256PublicKey keyPair || decide (buf.len = 0)) = false := by
    simp [uncompressed, notEmpty]
  simp only [OutParameter.createEvidenceDcapEnvelope, createEvidenceDcapEnvelope, accepted, acceptedHere,
    Bool.false_eq_true, if_false]
  cases env.quoteBuf with
  | none => rfl
  | some quoteBuf =>
    dsimp only
    rw [createEvidenceDcap_ret ⟨false, buf.len⟩ (.null 0) uncompressed rfl notEmpty]
    cases quoted : createEvidenceDcap env queryRequest buf.len keyPair with
    | error code =>
      have notSuccess := createEvidenceDcap_error quoted
      simp [returned, OutParameter.cleanup, notSuccess]
    | ok quote =>
      simp only [returned, ne_eq, not_true_eq_false, if_false, Buffer.data_bytes]
      cases raw : createRawDcapReportData env queryRequest keyPair with
      | error code =>
        have notSuccess := createRawDcapReportData_error raw
        simp [OutParameter.cleanup, notSuccess]
      | ok rawReportData =>
        dsimp only
        cases qcbor.finish (.array [.bytes quote, .bytes rawReportData.2]) buf.len with
        | none => rfl
        | some eat => rfl

/-- A call whose buffer is refused leaves the out-parameter alone. -/
theorem createEvidenceDcapEnvelope_refused {buf : Storage} (unfinished ret : Buffer)
    (refused : ¬ (buf.isNull = false ∧ buf.len ≠ 0)) :
    OutParameter.createEvidenceDcapEnvelope qcbor env (some queryRequest) buf (some keyPair) unfinished ret =
      ⟨.invalidValue, ret⟩ := by
  have notAccepted : (!isUncompressedP256PublicKey keyPair || buf.isNull || buf.len == 0) = true := by
    cases null : buf.isNull with
    | true => simp
    | false =>
      have empty : buf.len = 0 := not_not.mp fun notEmpty => refused ⟨null, notEmpty⟩
      simp [empty]
  simp only [OutParameter.createEvidenceDcapEnvelope, notAccepted, if_true]

/-! ## The hash and the raw report data -/

/-- The challenge bytes of a request: none if it has no challenge. -/
def challengeBytes (queryRequest : TeepQueryRequest) : Bytes :=
  if .challenge ∈ queryRequest.contains then queryRequest.challenge.data else []

def rawReportData (queryRequest : TeepQueryRequest) (keyPair : TeepKey) : Bytes :=
  publicKeyX keyPair ++ publicKeyY keyPair ++ challengeBytes queryRequest

/-- The hash over the updates in turn is the hash of what they concatenate to. -/
def EvidenceEnv.Hashes (env : EvidenceEnv) (sha384 : Bytes → SgxSha384Hash) : Prop :=
  ∀ updates digest, env.sgxSha384 updates = some digest → digest = sha384 updates.flatten

theorem getQueryChallenge_ok {challenge : Buffer} (ok : getQueryChallenge queryRequest = .ok challenge) :
    challenge.data = challengeBytes queryRequest ∧ (challenge.len = 0 ∨
      .challenge ∈ queryRequest.contains ∧ challenge = queryRequest.challenge) ∧
      challenge.len = challenge.data.length := by
  simp only [getQueryChallenge] at ok
  split at ok
  · next absent =>
    cases ok
    simp [challengeBytes, absent]
  · next present =>
    split at ok
    · cases ok
    · next readable =>
      cases ok
      have present := not_not.mp present
      refine ⟨by simp [challengeBytes, present], .inr ⟨present, rfl⟩, ?_⟩
      cases challenge : queryRequest.challenge with
      | bytes data => rfl
      | null length =>
        rw [challenge] at readable
        simpa using readable

/-- The update with the challenge is left out where there is nothing to hash. -/
theorem updates_flatten {challenge : Buffer} (x y : Bytes) (exact : challenge.len = challenge.data.length)
    (short : challenge.len < 2 ^ 32) :
    ([x, y] ++ if challenge.len > 0 then [challenge.data.take (challenge.len % 2 ^ 32)] else []).flatten =
      x ++ y ++ challenge.data := by
  rw [Nat.mod_eq_of_lt short, exact, List.take_length]
  split
  · simp
  · next empty =>
    have none : challenge.data = [] := List.eq_nil_of_length_eq_zero (by omega)
    simp [none]

theorem createDcapReportData_hash {sha384 : Bytes → SgxSha384Hash} {reportData : SgxReportData}
    (hashes : env.Hashes sha384)
    (short : .challenge ∈ queryRequest.contains → queryRequest.challenge.len < 2 ^ 32)
    (made : createDcapReportData env queryRequest keyPair = .ok reportData) :
    reportData = sha384 (rawReportData queryRequest keyPair) ++ Vector.replicate 16 (0 : UInt8) := by
  simp only [createDcapReportData] at made
  split at made
  · cases made
  split at made
  · cases made
  next challenge ok =>
  obtain ⟨data, source, exact⟩ := getQueryChallenge_ok ok
  have challengeShort : challenge.len < 2 ^ 32 := by
    cases source with
    | inl empty => rw [empty]; exact Nat.two_pow_pos 32
    | inr there =>
      obtain ⟨present, rfl⟩ := there
      exact short present
  split at made
  · cases made
  next digest hashed =>
  rw [← Except.ok.inj made, hashes _ _ hashed, updates_flatten _ _ exact challengeShort, data]
  rfl

theorem createRawDcapReportData_ok {made : Block × Bytes}
    (ok : createRawDcapReportData env queryRequest keyPair = .ok made) :
    made.2 = rawReportData queryRequest keyPair := by
  simp only [createRawDcapReportData] at ok
  split at ok
  · cases ok
  split at ok
  · cases ok
  next challenge challengeOk =>
  split at ok
  · cases ok
  · cases ok
    rw [rawReportData, ← (getQueryChallenge_ok challengeOk).1]

/-- The quote is of a report that was created over this report data. -/
def QuoteOf (env : EvidenceEnv) (reportData : SgxReportData) (quote : Bytes) : Prop :=
  ∃ qeTargetInfo report size, ∃ quoted : Vector UInt8 size,
    env.ocallGetQeTargetInfo = some qeTargetInfo ∧
    env.sgxCreateReport qeTargetInfo reportData = some report ∧
    env.ocallGetQuoteSize = some size ∧
    env.ocallGetQuote report size = some quoted ∧ quote = quoted.toList

theorem createEvidenceDcap_ok {bufLen : Nat} {quote : Bytes}
    (made : createEvidenceDcap env queryRequest bufLen keyPair = .ok quote) :
    quote.length ≤ bufLen ∧ ∃ reportData,
      createDcapReportData env queryRequest keyPair = .ok reportData ∧ QuoteOf env reportData quote := by
  simp only [createEvidenceDcap] at made
  split at made
  · cases made
  split at made
  · cases made
  split at made
  · cases made
  next qeTargetInfo targeted =>
  split at made
  · cases made
  next reportData reportDataMade =>
  split at made
  · cases made
  next report reported =>
  split at made
  · cases made
  next size sized =>
  split at made
  · cases made
  next fits =>
  split at made
  · cases made
  next quoted quotedOk =>
  cases made
  refine ⟨?_, reportData, reportDataMade, qeTargetInfo, report, size, quoted, targeted, reported, sized,
    quotedOk, rfl⟩
  simp at fits
  simp
  omega

theorem createEvidenceDcapEnvelope_error {bufLen : Nat} {code : TeepErr}
    (failed : (createEvidenceDcapEnvelope qcbor env queryRequest bufLen keyPair).1 = .error code) :
    code ≠ .success := by
  simp only [createEvidenceDcapEnvelope] at failed
  split at failed
  · cases failed
    simp
  split at failed
  · cases failed
    simp
  split at failed
  · next quoteFailed =>
    cases failed
    exact createEvidenceDcap_error quoteFailed
  split at failed
  · next rawFailed =>
    cases failed
    exact createRawDcapReportData_error rawFailed
  · split at failed <;> cases failed
    simp

theorem createEvidenceDcapEnvelope_ok {bufLen : Nat} {eat : Bytes}
    (made : (createEvidenceDcapEnvelope qcbor env queryRequest bufLen keyPair).1 = .ok eat) :
    ∃ quote, createEvidenceDcap env queryRequest bufLen keyPair = .ok quote ∧
      qcbor.finish (.array [.bytes quote, .bytes (rawReportData queryRequest keyPair)]) bufLen = some eat := by
  simp only [createEvidenceDcapEnvelope] at made
  split at made
  · cases made
  split at made
  · cases made
  split at made
  · cases made
  next quote quoted =>
  split at made
  · cases made
  next buf raw rawMade =>
  split at made
  · cases made
  next finished =>
  cases made
  refine ⟨quote, quoted, ?_⟩
  rw [← createRawDcapReportData_ok rawMade]
  exact finished

/-- Coordinates of the length of P-256 are a prefix that can be cut off again. -/
theorem rawReportData_injective {x y x' y' challenge challenge' : Bytes}
    (xLength : x.length = kP256CoordinateLength) (yLength : y.length = kP256CoordinateLength)
    (xLength' : x'.length = kP256CoordinateLength) (yLength' : y'.length = kP256CoordinateLength)
    (same : x ++ y ++ challenge = x' ++ y' ++ challenge') : x = x' ∧ y = y' ∧ challenge = challenge' := by
  rw [List.append_assoc, List.append_assoc] at same
  obtain ⟨sameX, rest⟩ := List.append_inj same (xLength.trans xLength'.symm)
  obtain ⟨sameY, sameChallenge⟩ := List.append_inj rest (yLength.trans yLength'.symm)
  exact ⟨sameX, sameY, sameChallenge⟩

/-! ## The binding -/

section Binding

variable {x y : Bytes}

/-- `04 || x || y` -/
def uncompressedKey (x y : Bytes) : TeepKey := ⟨.bytes (4 :: (x ++ y))⟩

theorem uncompressedKey_accepted (xLength : x.length = kP256CoordinateLength)
    (yLength : y.length = kP256CoordinateLength) : isUncompressedP256PublicKey (uncompressedKey x y) = true := by
  simp [isUncompressedP256PublicKey, uncompressedKey, xLength, yLength, prime256v1PublicKeyLength,
    kP256CoordinateLength]

theorem publicKeyX_uncompressedKey (xLength : x.length = kP256CoordinateLength) :
    publicKeyX (uncompressedKey x y) = x := by
  simp only [publicKeyX, uncompressedKey, Buffer.data_bytes, List.drop_succ_cons, List.drop_zero]
  exact List.take_left' xLength

theorem publicKeyY_uncompressedKey (xLength : x.length = kP256CoordinateLength)
    (yLength : y.length = kP256CoordinateLength) : publicKeyY (uncompressedKey x y) = y := by
  simp only [publicKeyY, uncompressedKey, Buffer.data_bytes, Nat.add_comm 1, List.drop_succ_cons]
  rw [List.drop_left' xLength]
  exact List.take_of_length_le (Nat.le_of_eq yLength)

theorem rawReportData_uncompressedKey (queryRequest : TeepQueryRequest)
    (xLength : x.length = kP256CoordinateLength) (yLength : y.length = kP256CoordinateLength) :
    rawReportData queryRequest (uncompressedKey x y) = x ++ y ++ challengeBytes queryRequest := by
  rw [rawReportData, publicKeyX_uncompressedKey xLength, publicKeyY_uncompressedKey xLength yLength]

theorem challengeBytes_length
    (short : .challenge ∈ queryRequest.contains → queryRequest.challenge.len < 2 ^ 32) :
    (challengeBytes queryRequest).length < 2 ^ 32 := by
  simp only [challengeBytes]
  split
  · next present =>
    have bound := short present
    cases challenge : queryRequest.challenge with
    | bytes data => rwa [challenge] at bound
    | null length => exact Nat.two_pow_pos 32
  · exact Nat.two_pow_pos 32

/-- Both strings are short enough for a CBOR head. -/
theorem payload_decodes {quote raw : Bytes} (quoteLength : quote.length < 2 ^ 64) (rawLength : raw.length < 2 ^ 64) :
    Cbor.decode (Cbor.encode (.array [.bytes quote, .bytes raw])) = some (.array [.bytes quote, .bytes raw], []) := by
  have sized : Cbor.Sized (.array [.bytes quote, .bytes raw]) := by
    simp only [Cbor.Sized, Cbor.SizedItems, List.length_cons, List.length_nil]
    exact ⟨by omega, quoteLength, rawLength, trivial⟩
  have decoded := Cbor.decode_encode sized []
  rwa [List.append_nil] at decoded

/-- A payload that is returned is the array of a quote over the hash of the key and the challenge, and of
what was hashed, from which they can be read off; a call that fails past the checks of its arguments leaves
NULL behind. -/
theorem envelope_bindsQuote (sha384 : Bytes → SgxSha384Hash) (qcbor : Qcbor) (env : EvidenceEnv)
    (x y : Bytes) (queryRequest : TeepQueryRequest) (buf : Storage) (unfinished ret : Buffer)
    (preferred : qcbor.PreferredSerialisation) (hashes : env.Hashes sha384)
    (xLength : x.length = kP256CoordinateLength) (yLength : y.length = kP256CoordinateLength)
    (short : .challenge ∈ queryRequest.contains → queryRequest.challenge.len < 2 ^ 32)
    (bufBound : buf.len < 2 ^ 64) :
    let called := OutParameter.createEvidenceDcapEnvelope qcbor env (some queryRequest) buf
      (some (uncompressedKey x y)) unfinished ret
    let raw := x ++ y ++ challengeBytes queryRequest
    (called.result = .success → ∃ payload quote, called.ret = .bytes payload ∧
      Cbor.decode payload = some (.array [.bytes quote, .bytes raw], []) ∧
      QuoteOf env (sha384 raw ++ Vector.replicate 16 (0 : UInt8)) quote ∧
      ∀ x' y' challenge', x'.length = kP256CoordinateLength → y'.length = kP256CoordinateLength →
        raw = x' ++ y' ++ challenge' → x' = x ∧ y' = y ∧ challenge' = challengeBytes queryRequest) ∧
    (buf.isNull = false → buf.len ≠ 0 → called.result ≠ .success → called.ret = .null 0) := by
  intro called raw
  have uncompressed := uncompressedKey_accepted xLength yLength
  -- the out parameter is only written once the arguments have been checked
  by_cases accepted : buf.isNull = false ∧ buf.len ≠ 0
  · obtain ⟨notNull, notEmpty⟩ := accepted
    have sameRet : called = returned (createEvidenceDcapEnvelope qcbor env queryRequest buf.len
        (uncompressedKey x y)).1 := createEvidenceDcapEnvelope_ret unfinished ret uncompressed notNull notEmpty
    cases made : (createEvidenceDcapEnvelope qcbor env queryRequest buf.len (uncompressedKey x y)).1 with
    | error code =>
      have notSuccess := createEvidenceDcapEnvelope_error made
      rw [made] at sameRet
      rw [sameRet]
      exact ⟨fun success => absurd success notSuccess, fun _ _ _ => rfl⟩
    | ok payload =>
      rw [made] at sameRet
      rw [sameRet]
      refine ⟨fun _ => ?_, fun _ _ failed => absurd rfl failed⟩
      obtain ⟨quote, quoted, finished⟩ := createEvidenceDcapEnvelope_ok made
      obtain ⟨quoteLength, reportData, reportDataMade, quoteOf⟩ := createEvidenceDcap_ok quoted
      rw [rawReportData_uncompressedKey queryRequest xLength yLength] at finished
      refine ⟨payload, quote, rfl, ?_, ?_, ?_⟩
      · have challengeLength := challengeBytes_length short
        have rawLength : raw.length < 2 ^ 64 := by
          simp only [raw, List.length_append, xLength, yLength, kP256CoordinateLength]
          omega
        rw [preferred _ _ _ finished]
        exact payload_decodes (by omega) rawLength
      -- what the report data hashes is what the payload carries next to the quote
      · have hashed := createDcapReportData_hash hashes short reportDataMade
        rw [rawReportData_uncompressedKey queryRequest xLength yLength] at hashed
        rwa [hashed] at quoteOf
      · intro x' y' challenge' xLength' yLength' same
        obtain ⟨sameX, sameY, sameChallenge⟩ :=
          rawReportData_injective xLength yLength xLength' yLength' same
        exact ⟨sameX.symm, sameY.symm, sameChallenge.symm⟩
  · have refused : called = ⟨.invalidValue, ret⟩ := createEvidenceDcapEnvelope_refused unfinished ret accepted
    rw [refused]
    constructor
    · intro success
      cases success
    · intro notNull notEmpty
      exact absurd ⟨notNull, notEmpty⟩ accepted

/-- The coordinates of the base point of P-256. -/
def baseX : Bytes :=
  [107, 23, 209, 242, 225, 44, 66, 71, 248, 188, 230, 229, 99, 164, 64, 242, 119, 3, 125, 129, 45, 235,
    51, 160, 244, 161, 57, 69, 216, 152, 194, 150]

def baseY : Bytes :=
  [79, 227, 66, 226, 254, 26, 127, 155, 142, 231, 235, 74, 124, 15, 158, 22, 43, 206, 51, 87, 107, 49,
    94, 206, 203, 182, 64, 104, 55, 191, 81, 245]

def challengeRequest : TeepQueryRequest where
  contains := {.challenge}
  dataItemRequested := ⟨true, false⟩
  token := .null 0
  versions := []
  supportedTeepCipherSuites := []
  challenge := .bytes [1, 2, 3, 4, 5, 6, 7, 8]

/-- SHA-384 of the report data of this request; nothing else is hashed with it. -/
def smallSha384 (data : Bytes) : SgxSha384Hash :=
  if data = baseX ++ baseY ++ [1, 2, 3, 4, 5, 6, 7, 8] then
    #v[16, 25, 54, 33, 24, 168, 226, 21, 233, 121, 155, 121, 65, 60, 52, 150, 237, 43, 21, 35, 168, 161,
      236, 37, 111, 202, 254, 204, 225, 138, 205, 18, 52, 182, 160, 52, 36, 72, 154, 223, 81, 151, 146,
      2, 121, 157, 162, 123]
  else Vector.replicate _ 0

/-- The quote is what the report was created over. -/
def hashingEvidence : EvidenceEnv :=
  { workingEvidence with sgxSha384 := fun updates => some (smallSha384 updates.flatten) }

theorem envelope_bindsBasePoint :
    let called := OutParameter.createEvidenceDcapEnvelope referenceQcbor hashingEvidence (some challengeRequest)
      ⟨false, 4096⟩ (some (uncompressedKey baseX baseY)) (.null 0) (.null 7)
    called.result = .success ∧ ∃ payload quote, called.ret = .bytes payload ∧
      Cbor.decode payload =
        some (.array [.bytes quote, .bytes (baseX ++ baseY ++ [1, 2, 3, 4, 5, 6, 7, 8])], []) ∧
      QuoteOf hashingEvidence
        (smallSha384 (baseX ++ baseY ++ [1, 2, 3, 4, 5, 6, 7, 8]) ++ Vector.replicate 16 (0 : UInt8)) quote := by
  have hashes : hashingEvidence.Hashes smallSha384 := by
    intro updates digest hashed
    exact (Option.some.inj hashed).symm
  have bound := (envelope_bindsQuote smallSha384 referenceQcbor hashingEvidence baseX baseY challengeRequest
    ⟨false, 4096⟩ (.null 0) (.null 7) referenceQcbor_preferredSerialisation hashes rfl rfl
    (fun _ => by decide +kernel) (by decide +kernel)).1
  have success : (OutParameter.createEvidenceDcapEnvelope referenceQcbor hashingEvidence (some challengeRequest)
      ⟨false, 4096⟩ (some (uncompressedKey baseX baseY)) (.null 0) (.null 7)).result = .success := by
    decide +kernel
  obtain ⟨payload, quote, same, decoded, quoteOf, _⟩ := bound success
  exact ⟨success, payload, quote, same, decoded, quoteOf⟩

end Binding

end Taws.Teep
