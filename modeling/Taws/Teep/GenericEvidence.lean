import Taws.Teep.QuoteBinding
import Taws.Teep.TcInfoEncoding

/-!
# Generic EAT evidence

`create_evidence_generic`, which `SGX_EVIDENCE == 0` selects: the payload of an EAT is encoded between the two
halves of a COSE_Sign1 that the attester's key signs.  What t_cose does is an outcome in `GenericEvidenceEnv`.

* `encodeEat`, `eatItem` — the calls of the encoder, and the item that they encode.
* `createEvidenceGeneric`, `attestationStepGeneric` — the function, and how `process_query_request` uses it.
* `eatConfirmation`, `eatNonce`, `eatLabels` — what the TAM reads in the payload.
* `genericEvidence_confirms` — it reads the agent's key and the challenge.
-/

namespace Taws.Teep

/-! ## The payload -/

/-- The calls of `QcborCall`, and `QCBOREncode_AddText`. -/
inductive EatCall where
  | qcbor (call : QcborCall)
  | addText (text : Bytes)

def EatCall.run (context : QcborEncodeContext) : EatCall → Option QcborEncodeContext
  | .qcbor call => context.call call
  | .addText text => some (context.add (.text text))

def eatEncodedItem (calls : List EatCall) : Option Cbor.Item :=
  (calls.foldlM EatCall.run QcborEncodeContext.init).bind QcborEncodeContext.finished

/-- `QCBOREncode_OpenMapInMapN` -/
def openMapInMapN (label : Int) : List EatCall := [.qcbor (.addInt64 label), .qcbor .openMap]

/-- `QCBOREncode_OpenArrayInMapN` -/
def arrayInMapN (label : Int) : List EatCall := (openArrayInMapN label).map .qcbor

def addInt64ToMapN (label value : Int) : List EatCall := [.qcbor (.addInt64 label), .qcbor (.addInt64 value)]

def addBytesToMapN (label : Int) (data : Bytes) : List EatCall := [.qcbor (.addInt64 label), .qcbor (.addBytes data)]

def addTextToMapN (label : Int) (text : Bytes) : List EatCall := [.qcbor (.addInt64 label), .addText text]

def eatProfile : Nat := 265
def measurementValue : Nat := 2
def cnf : Nat := 8
def coseKey : Nat := 1
def keyType : Nat := 1
def curve : Int := -1
def xCoordinate : Int := -2
def yCoordinate : Int := -3
def keyId : Nat := 3
def eatNonceLabel : Nat := 10
def ueid : Nat := 256
def oemid : Nat := 258
def hwmodel : Nat := 259
def hwversion : Nat := 260
def measurements : Nat := 273
def contentType : Nat := 600
def idLabel : Nat := 1
def algorithm : Nat := 1

def kDefaultEatNonce : Bytes := [0x94, 0x8F, 0x88, 0x60, 0xD1, 0x3A, 0x46, 0x3E, 0x8E]

def kUeid : Bytes :=
  [0x01, 0x62, 0x75, 0x69, 0x6c, 0x64, 0x69, 0x6e, 0x67, 0x2d, 0x64, 0x65, 0x76, 0x2d, 0x31, 0x32, 0x33]

def kOemid : Bytes := [0x89, 0x48, 0x23]

def kHwmodel : Bytes :=
  [0x54, 0x9d, 0xce, 0xcc, 0x8b, 0x98, 0x7c, 0x73, 0x7b, 0x44, 0xe4, 0x0f, 0x7c, 0x63, 0x5c, 0xe8]

def kDeadbeefBytes : Bytes := (List.replicate 8 [0xDE, 0xAD, 0xBE, 0xEF]).flatten

def versionText : Bytes := "1.3.4".toUTF8.toList

def agentName : Bytes := "TEEP Agent".toUTF8.toList

def profileText : Bytes := "urn:ietf:rfc:rfc9711".toUTF8.toList

/-- `[version, 1]`, with the calls that open it. -/
def versionArray (opening : List EatCall) : List EatCall :=
  opening ++ [.addText versionText, .qcbor (.addInt64 1), .qcbor .closeArray]

def encodeConfirmation (x y kid : Bytes) : List EatCall :=
  openMapInMapN cnf ++ openMapInMapN coseKey ++ addInt64ToMapN keyType 2 ++ addInt64ToMapN curve 1 ++
    addBytesToMapN xCoordinate x ++ addBytesToMapN yCoordinate y ++ [.qcbor .closeMap] ++ addBytesToMapN keyId kid ++
    [.qcbor .closeMap]

/-- The entries of the content-format map. -/
def encodeContentFormat : List EatCall :=
  arrayInMapN idLabel ++ .addText agentName :: versionArray [.qcbor .openArray] ++ .qcbor .closeArray ::
    arrayInMapN measurementValue ++
    [.qcbor (.addInt64 algorithm), .qcbor (.addBytes kDeadbeefBytes), .qcbor .closeArray]

def encodeMeasurements : List EatCall :=
  arrayInMapN measurements ++
    .qcbor .openArray :: .qcbor (.addInt64 contentType) :: .qcbor .bstrWrap :: .qcbor .openMap :: encodeContentFormat ++
    [.qcbor .closeMap, .qcbor .closeBstrWrap, .qcbor .closeArray, .qcbor .closeArray]

/-- From `QCBOREncode_OpenMap` to `QCBOREncode_CloseMap`. -/
def encodeEat (x y kid nonce : Bytes) : List EatCall :=
  [.qcbor .openMap] ++ encodeConfirmation x y kid ++ addBytesToMapN eatNonceLabel nonce ++ addBytesToMapN ueid kUeid ++
    addBytesToMapN oemid kOemid ++ addBytesToMapN hwmodel kHwmodel ++
    versionArray (arrayInMapN hwversion) ++ addTextToMapN eatProfile profileText ++
    encodeMeasurements ++ [.qcbor .closeMap]

def confirmationItem (x y kid : Bytes) : Cbor.Item :=
  .map
    [(.unsigned 1, .map [(.unsigned 1, .unsigned 2), (.negative 0, .unsigned 1), (.negative 1, .bytes x),
        (.negative 2, .bytes y)]),
      (.unsigned 3, .bytes kid)]

def measurementsItem : Cbor.Item :=
  .array [.array [.unsigned 600, .bytes (Cbor.encode (.map
    [(.unsigned 1, .array [.text agentName, .array [.text versionText, .unsigned 1]]),
      (.unsigned 2, .array [.unsigned 1, .bytes kDeadbeefBytes])]))]]

def eatItem (x y kid nonce : Bytes) : Cbor.Item :=
  .map
    [(.unsigned 8, confirmationItem x y kid), (.unsigned 10, .bytes nonce), (.unsigned 256, .bytes kUeid),
      (.unsigned 258, .bytes kOemid), (.unsigned 259, .bytes kHwmodel),
      (.unsigned 260, .array [.text versionText, .unsigned 1]), (.unsigned 265, .text profileText),
      (.unsigned 273, measurementsItem)]

/-- Wherever the calls are made, they add the items. -/
def Adds (calls : List EatCall) (added : List Cbor.Item) : Prop :=
  ∀ context, calls.foldlM EatCall.run context = some { context with items := context.items ++ added }

theorem Adds.append {first second : List EatCall} {items others : List Cbor.Item} (one : Adds first items)
    (other : Adds second others) : Adds (first ++ second) (items ++ others) := by
  intro context
  rw [List.foldlM_append, one context]
  exact (other _).trans (by rw [List.append_assoc])

theorem Adds.container {calls : List EatCall} {added : List Cbor.Item} {opening closing : EatCall}
    {container : Container} {item : Cbor.Item} (inner : Adds calls added)
    (opens : ∀ context, opening.run context = some (context.openContainer container))
    (closes : ∀ context, closing.run context = context.closeContainer container)
    (isItem : container.item added = some item) : Adds ([opening] ++ calls ++ [closing]) [item] := by
  intro context
  have innerAdds := inner (context.openContainer container)
  have opened : [opening].foldlM EatCall.run context = some (context.openContainer container) := by
    simp [opens]
  rw [List.foldlM_append, List.foldlM_append, opened]
  simp only [Option.bind_eq_bind, Option.bind_some, innerAdds]
  simp [closes, QcborEncodeContext.closeContainer, QcborEncodeContext.openContainer, isItem]

theorem Adds.inMap {calls : List EatCall} {added : List Cbor.Item} {entries : List (Cbor.Item × Cbor.Item)}
    (inner : Adds calls added) (isEntries : mapEntries added = some entries) :
    Adds ([.qcbor .openMap] ++ calls ++ [.qcbor .closeMap]) [.map entries] :=
  inner.container (fun _ => rfl) (fun _ => rfl) (by simp [Container.item, isEntries])

theorem Adds.inArray {calls : List EatCall} {added : List Cbor.Item} (inner : Adds calls added) :
    Adds ([.qcbor .openArray] ++ calls ++ [.qcbor .closeArray]) [.array added] :=
  inner.container (fun _ => rfl) (fun _ => rfl) rfl

theorem Adds.wrapped {calls : List EatCall} {item : Cbor.Item} (inner : Adds calls [item]) :
    Adds ([.qcbor .bstrWrap] ++ calls ++ [.qcbor .closeBstrWrap]) [.bytes (Cbor.encode item)] :=
  inner.container (fun _ => rfl) (fun _ => rfl) (by simp [Container.item, Cbor.encodeItems])

theorem adds_int64 (value : Int) : Adds [.qcbor (.addInt64 value)] [int64Item value] := fun _ => rfl

theorem adds_bytes (data : Bytes) : Adds [.qcbor (.addBytes data)] [.bytes data] := fun _ => rfl

theorem adds_text (text : Bytes) : Adds [.addText text] [.text text] := fun _ => rfl

theorem adds_bytesToMapN (label : Int) (data : Bytes) :
    Adds (addBytesToMapN label data) [int64Item label, .bytes data] := (adds_int64 label).append (adds_bytes data)

theorem adds_version : Adds (versionArray [.qcbor .openArray]) [.array [.text versionText, .unsigned 1]] :=
  ((adds_text versionText).append (adds_int64 1)).inArray

theorem adds_confirmation (x y kid : Bytes) :
    Adds (encodeConfirmation x y kid) [.unsigned 8, confirmationItem x y kid] := by
  have key := ((adds_int64 1).append (adds_int64 2)).append ((adds_int64 (-1)).append (adds_int64 1))
  have coordinates := ((adds_int64 (-2)).append (adds_bytes x)).append ((adds_int64 (-3)).append (adds_bytes y))
  have coseKey := (adds_int64 1).append ((key.append coordinates).inMap rfl)
  exact (adds_int64 8).append ((coseKey.append ((adds_int64 3).append (adds_bytes kid))).inMap rfl)

theorem adds_measurements : Adds encodeMeasurements [.unsigned 273, measurementsItem] := by
  have name := (adds_int64 1).append ((adds_text agentName).append adds_version).inArray
  have value := (adds_int64 2).append ((adds_int64 1).append (adds_bytes kDeadbeefBytes)).inArray
  have wrapped := ((name.append value).inMap rfl).wrapped
  exact (adds_int64 273).append ((adds_int64 600).append wrapped).inArray.inArray

theorem eatEncodedItem_eat (x y kid nonce : Bytes) :
    eatEncodedItem (encodeEat x y kid nonce) = some (eatItem x y kid nonce) := by
  have claims := (adds_confirmation x y kid).append (adds_bytesToMapN eatNonceLabel nonce)
  have device := (adds_bytesToMapN ueid kUeid).append ((adds_bytesToMapN oemid kOemid).append
    (adds_bytesToMapN hwmodel kHwmodel))
  have version : Adds (versionArray (arrayInMapN hwversion))
      [.unsigned 260, .array [.text versionText, .unsigned 1]] := (adds_int64 260).append adds_version
  have profile : Adds (addTextToMapN eatProfile profileText) [.unsigned 265, .text profileText] :=
    (adds_int64 265).append (adds_text profileText)
  have nested : encodeEat x y kid nonce = [.qcbor .openMap] ++
      ((encodeConfirmation x y kid ++ addBytesToMapN eatNonceLabel nonce) ++
        (addBytesToMapN ueid kUeid ++ (addBytesToMapN oemid kOemid ++ addBytesToMapN hwmodel kHwmodel)) ++
        (versionArray (arrayInMapN hwversion) ++
          (addTextToMapN eatProfile profileText ++ encodeMeasurements))) ++ [.qcbor .closeMap] := by
    simp only [encodeEat, List.append_assoc]
  have whole : Adds (encodeEat x y kid nonce) [eatItem x y kid nonce] := by
    rw [nested]
    exact ((claims.append device).append (version.append (profile.append adds_measurements))).inMap rfl
  rw [eatEncodedItem, whole QcborEncodeContext.init]
  rfl

/-! ## The function -/

inductive GenericErr where
  | teep (code : TeepErr)
  | signingFailed
  deriving DecidableEq

/-- The key that `teep_key_init_esp256_key_pair` makes and `teep_free_key` frees. -/
inductive EatKeyEvent where
  | initialized
  | freed
  deriving DecidableEq

structure GenericEvidenceEnv where
  teepKeyInitEsp256KeyPair : TeepErr
  /-- `t_cose_sign1_encode_parameters` into a buffer of the given size. -/
  encodeParameters : Nat → Bool
  /-- `t_cose_sign1_encode_signature` over the payload. -/
  encodeSignature : Bytes → Nat → Bool
  /-- The COSE_Sign1 with the payload, `none` where `QCBOREncode_Finish` fails. -/
  finish : Bytes → Nat → Option Bytes

/-- What is read of `teep_key_t` here. -/
structure TeepKeyPair extends TeepKey where
  kid : Buffer

structure GenericReturn where
  result : GenericErr
  ret : Buffer
  keys : List EatKeyEvent
  deriving DecidableEq

/-- The nonce: the challenge as it is passed on, if the request has one. -/
def nonceOf (queryRequest : TeepQueryRequest) (challenge : Buffer) : Bytes :=
  if .challenge ∈ queryRequest.contains then challenge.data else kDefaultEatNonce

/-- From `t_cose_sign1_encode_parameters` to `QCBOREncode_Finish`. -/
def signEat (env : GenericEvidenceEnv) (calls : List EatCall) (bufLen : Nat) : Except GenericErr Bytes :=
  if !env.encodeParameters bufLen then .error .signingFailed
  else
    match eatEncodedItem calls with
    -- an error of the encoder comes out with the signature
    | none => .error .signingFailed
    | some item =>
      let payload := Cbor.encode item
      if !env.encodeSignature payload bufLen then .error .signingFailed
      else
        match env.finish payload bufLen with
        | none => .error (.teep .unexpectedError)
        | some cose => .ok cose

/-- `ret` is what `*ret` holds at the call. -/
def createEvidenceGeneric (env : GenericEvidenceEnv) (queryRequest : Option TeepQueryRequest) (buf : Storage)
    (keyPair : Option TeepKeyPair) (ret : Buffer) : GenericReturn :=
  match queryRequest, keyPair with
  | some queryRequest, some keyPair =>
    if !isUncompressedP256PublicKey keyPair.toTeepKey || buf.isNull || buf.len == 0 then
      ⟨.teep .invalidValue, ret, []⟩
    else
      match getQueryChallenge queryRequest with
      | .error code => ⟨.teep code, .null 0, []⟩
      | .ok challenge =>
        if env.teepKeyInitEsp256KeyPair ≠ .success then ⟨.teep env.teepKeyInitEsp256KeyPair, .null 0, []⟩
        else
          match signEat env (encodeEat (publicKeyX keyPair.toTeepKey) (publicKeyY keyPair.toTeepKey) keyPair.kid.data
            (nonceOf queryRequest challenge)) buf.len with
          | .error code => ⟨code, .null 0, [.initialized, .freed]⟩
          | .ok cose => ⟨.teep .success, .bytes cose, [.initialized, .freed]⟩
  | _, _ => ⟨.teep .invalidValue, ret, []⟩

def kGenericEatAttestationPayloadFormat : Bytes :=
  "application/eat+cwt; eat_profile=\"urn:ietf:rfc:rfc9711\"".toUTF8.toList

/-- The part of `process_query_request` that `attestationStep` is for the other setting. -/
def attestationStepGeneric (qcbor : Qcbor) (env : GenericEvidenceEnv) (queryRequest : TeepQueryRequest)
    (keyPair : TeepKeyPair) (queryResponse : TeepQueryResponse) (tmpLen : Nat) :
    Except TeepErrCode (TeepQueryResponse × Nat) :=
  if !queryRequest.dataItemRequested.attestation then .ok (queryResponse, tmpLen)
  else
    let made := createEvidenceGeneric env (some queryRequest) ⟨false, tmpLen⟩ (some keyPair) (.null 0)
    if made.result ≠ .teep .success then .error .temporaryError
    else
      match qcbor.usefulBufSliceTail tmpLen made.ret.len with
      | none => .error .temporaryError
      | some rest =>
        .ok
          ({ queryResponse with
              contains := queryResponse.contains ∪ {.attestationPayload, .attestationPayloadFormat}
              attestationPayload := made.ret
              attestationPayloadFormat := .bytes kGenericEatAttestationPayloadFormat }, rest)

/-! ## Reading the payload -/

/-- The first claim with the label. -/
def labelled (label : Nat) : List (Cbor.Item × Cbor.Item) → Option Cbor.Item
  | [] => none
  | (.unsigned other, value) :: entries => if other = label then some value else labelled label entries
  | _ :: entries => labelled label entries

def eatEntries (payload : Bytes) : List (Cbor.Item × Cbor.Item) :=
  match Cbor.decode payload with
  | some (.map entries, []) => entries
  | _ => []

/-- The coordinates and the key identifier of the confirmation claim, if it has a P-256 key. -/
def eatConfirmation (payload : Bytes) : Option (Bytes × Bytes × Bytes) :=
  match labelled cnf (eatEntries payload) with
  | some (.map
      [(.unsigned 1, .map [(.unsigned 1, .unsigned 2), (.negative 0, .unsigned 1), (.negative 1, .bytes x),
          (.negative 2, .bytes y)]),
        (.unsigned 3, .bytes kid)]) => some (x, y, kid)
  | _ => none

def eatNonce (payload : Bytes) : Option Bytes :=
  match labelled eatNonceLabel (eatEntries payload) with
  | some (.bytes nonce) => some nonce
  | _ => none

def eatLabels (payload : Bytes) : Option (List Nat) :=
  (eatEntries payload).mapM fun entry =>
    match entry.1 with
    | .unsigned label => some label
    | _ => none

variable {x y kid nonce : Bytes}

theorem sized_measurements : Cbor.Sized measurementsItem := by
  have length : (Cbor.encode (.map
      [(.unsigned 1, .array [.text agentName, .array [.text versionText, .unsigned 1]]),
        (.unsigned 2, .array [.unsigned 1, .bytes kDeadbeefBytes])])).length < 2 ^ 64 := by
    decide +kernel
  simpa [measurementsItem, Cbor.Sized, Cbor.SizedItems] using length

theorem sized_eatItem (xLength : x.length = kP256CoordinateLength) (yLength : y.length = kP256CoordinateLength)
    (kidLength : kid.length < 2 ^ 64) (nonceLength : nonce.length < 2 ^ 64) :
    Cbor.Sized (eatItem x y kid nonce) := by
  have constants : kUeid.length < 2 ^ 64 ∧ kOemid.length < 2 ^ 64 ∧ kHwmodel.length < 2 ^ 64 ∧
      versionText.length < 2 ^ 64 ∧ profileText.length < 2 ^ 64 := by
    decide +kernel
  simp only [kP256CoordinateLength] at xLength yLength
  simp only [eatItem, confirmationItem, Cbor.Sized, Cbor.SizedItems, Cbor.SizedEntries, xLength, yLength, kidLength,
    nonceLength, constants, sized_measurements, List.length_cons, List.length_nil]
  decide

theorem eatEntries_eat (xLength : x.length = kP256CoordinateLength) (yLength : y.length = kP256CoordinateLength)
    (kidLength : kid.length < 2 ^ 64) (nonceLength : nonce.length < 2 ^ 64) :
    Cbor.Item.map (eatEntries (Cbor.encode (eatItem x y kid nonce))) = eatItem x y kid nonce := by
  have decoded := Cbor.decode_encode (sized_eatItem xLength yLength kidLength nonceLength) []
  rw [List.append_nil] at decoded
  rw [eatEntries, decoded]
  rfl

/-- The payload names the key and the nonce, and has no label twice. -/
structure Confirms (payload x y kid nonce : Bytes) : Prop where
  confirmation : eatConfirmation payload = some (x, y, kid)
  nonce : eatNonce payload = some nonce
  labels : ∃ labels, eatLabels payload = some labels ∧ labels.Pairwise (· < ·)

theorem encode_confirms (xLength : x.length = kP256CoordinateLength) (yLength : y.length = kP256CoordinateLength)
    (kidLength : kid.length < 2 ^ 64) (nonceLength : nonce.length < 2 ^ 64) :
    Confirms (Cbor.encode (eatItem x y kid nonce)) x y kid nonce := by
  have entries := Cbor.Item.map.inj (eatEntries_eat xLength yLength kidLength nonceLength)
  refine ⟨?_, ?_, [8, 10, 256, 258, 259, 260, 265, 273], ?_, by decide⟩
  · rw [eatConfirmation, entries]
    rfl
  · rw [eatNonce, entries]
    rfl
  · rw [eatLabels, entries]
    rfl

/-! ## What is confirmed -/

/-- What is signed is what verifying gives back. -/
def GenericEvidenceEnv.Verifies (env : GenericEvidenceEnv) (verifySign1 : Bytes → Option Bytes) : Prop :=
  ∀ payload size cose, env.encodeSignature payload size = true → env.finish payload size = some cose →
    verifySign1 cose = some payload

/-- The nonce that the TAM may expect. -/
def expectedNonce (queryRequest : TeepQueryRequest) : Bytes := nonceOf queryRequest queryRequest.challenge

variable {env : GenericEvidenceEnv} {queryRequest : TeepQueryRequest} {verifySign1 : Bytes → Option Bytes}
  {calls : List EatCall} {bufLen : Nat}

theorem signEat_error {code : GenericErr} (failed : signEat env calls bufLen = .error code) :
    code ≠ .teep .success := by
  simp only [signEat] at failed
  split at failed
  · cases failed
    simp
  split at failed
  · cases failed
    simp
  split at failed
  · cases failed
    simp
  split at failed <;> cases failed
  simp

theorem signEat_ok {cose : Bytes} (signed : signEat env (encodeEat x y kid nonce) bufLen = .ok cose) :
    env.encodeSignature (Cbor.encode (eatItem x y kid nonce)) bufLen = true ∧
      env.finish (Cbor.encode (eatItem x y kid nonce)) bufLen = some cose := by
  simp only [signEat, eatEncodedItem_eat] at signed
  split at signed
  · cases signed
  split at signed
  · cases signed
  next isSigned =>
  split at signed
  · cases signed
  next finished =>
  cases signed
  exact ⟨by simpa using isSigned, finished⟩

/-- The challenge that is passed on gives the nonce that is expected. -/
theorem getQueryChallenge_nonce {challenge : Buffer} (passed : getQueryChallenge queryRequest = .ok challenge) :
    nonceOf queryRequest challenge = expectedNonce queryRequest := by
  simp only [expectedNonce, nonceOf]
  split
  · next present =>
    simp only [getQueryChallenge, present, not_true_eq_false, if_false] at passed
    split at passed
    · cases passed
    · cases passed
      rfl
  · rfl

theorem expectedNonce_length (short : .challenge ∈ queryRequest.contains → queryRequest.challenge.len < 2 ^ 64) :
    (expectedNonce queryRequest).length < 2 ^ 64 := by
  simp only [expectedNonce, nonceOf]
  split
  · next present =>
    have bound := short present
    cases challenge : queryRequest.challenge with
    | bytes data => rwa [challenge] at bound
    | null length => exact Nat.two_pow_pos 64
  · decide

/-- What a call leaves, whatever it is given. -/
structure Leaves (made : GenericReturn) (buf : Storage) (confirms : Bytes → Prop) : Prop where
  keyFreed : made.keys = [] ∨ made.keys = [.initialized, .freed]
  failed : buf.isNull = false → buf.len ≠ 0 → made.result ≠ .teep .success → made.ret = .null 0
  succeeded : made.result = .teep .success → ∃ cose, made.ret = .bytes cose ∧ confirms cose

theorem createEvidenceGeneric_leaves (verifies : env.Verifies verifySign1)
    (xLength : x.length = kP256CoordinateLength) (yLength : y.length = kP256CoordinateLength) {kid : Buffer}
    (kidLength : kid.data.length < 2 ^ 64)
    (short : .challenge ∈ queryRequest.contains → queryRequest.challenge.len < 2 ^ 64) (buf : Storage) (ret : Buffer) :
    Leaves (createEvidenceGeneric env (some queryRequest) buf (some ⟨uncompressedKey x y, kid⟩) ret) buf
      fun cose => ∃ payload, verifySign1 cose = some payload ∧
        Confirms payload x y kid.data (expectedNonce queryRequest) := by
  simp only [createEvidenceGeneric]
  split
  · next refused =>
    refine ⟨.inl rfl, ?_, by simp⟩
    intro notNull notEmpty
    simp [uncompressedKey_accepted xLength yLength, notNull, notEmpty] at refused
  split
  · next code challengeFailed =>
    have notSuccess := getQueryChallenge_error challengeFailed
    exact ⟨.inl rfl, fun _ _ _ => rfl, fun success => absurd (GenericErr.teep.inj success) notSuccess⟩
  next challenge passed =>
  split
  · next notInitialized =>
    exact ⟨.inl rfl, fun _ _ _ => rfl, fun success => absurd (GenericErr.teep.inj success) notInitialized⟩
  split
  · next code signFailed =>
    exact ⟨.inr rfl, fun _ _ _ => rfl, fun success => absurd success (signEat_error signFailed)⟩
  next cose signed =>
  refine ⟨.inr rfl, fun _ _ failed => absurd rfl failed, fun _ => ⟨cose, rfl, ?_⟩⟩
  rw [publicKeyX_uncompressedKey xLength, publicKeyY_uncompressedKey xLength yLength,
    getQueryChallenge_nonce passed] at signed
  obtain ⟨isSigned, finished⟩ := signEat_ok signed
  exact ⟨_, verifies _ _ _ isSigned finished,
    encode_confirms xLength yLength kidLength (expectedNonce_length short)⟩

/-- Whatever t_cose does: the key that signs is freed if it has been made, a call that fails past the checks of its
arguments leaves NULL behind, and in the payload that a TAM verifies it reads the agent's key and the nonce that it
may expect, once each.  A QueryResponse gets no other payload, with the format that goes with it. -/
theorem genericEvidence_confirms (env : GenericEvidenceEnv) (verifySign1 : Bytes → Option Bytes)
    (verifies : env.Verifies verifySign1) (x y : Bytes) (xLength : x.length = kP256CoordinateLength)
    (yLength : y.length = kP256CoordinateLength) (kid : Buffer) (kidLength : kid.data.length < 2 ^ 64)
    (queryRequest : TeepQueryRequest)
    (short : .challenge ∈ queryRequest.contains → queryRequest.challenge.len < 2 ^ 64) :
    let confirms := fun cose => ∃ payload, verifySign1 cose = some payload ∧
      Confirms payload x y kid.data (expectedNonce queryRequest)
    (∀ buf ret, Leaves (createEvidenceGeneric env (some queryRequest) buf (some ⟨uncompressedKey x y, kid⟩) ret) buf
      confirms) ∧
    ∀ qcbor response tmpLen built rest, queryRequest.dataItemRequested.attestation = true →
      attestationStepGeneric qcbor env queryRequest ⟨uncompressedKey x y, kid⟩ response tmpLen = .ok (built, rest) →
      ∃ cose, built.attestationPayload = .bytes cose ∧ confirms cose ∧
        built.attestationPayloadFormat = .bytes kGenericEatAttestationPayloadFormat := by
  intro confirms
  have leaves := createEvidenceGeneric_leaves verifies xLength yLength kidLength short
  refine ⟨leaves, ?_⟩
  intro qcbor response tmpLen built rest asks ok
  simp only [attestationStepGeneric, asks, Bool.not_true, Bool.false_eq_true, if_false] at ok
  split at ok
  · cases ok
  next success =>
  split at ok
  · cases ok
  cases ok
  obtain ⟨cose, isCose, confirmed⟩ := (leaves ⟨false, tmpLen⟩ (.null 0)).succeeded (not_not.mp success)
  exact ⟨cose, isCose, confirmed, rfl⟩

/-! ## A COSE_Sign1 -/

/-- `1: -9`, the algorithm ESP256. -/
def protectedHeader : Bytes := Cbor.encode (.map [(.unsigned 1, .negative 8)])

/-- The `Sig_structure` of a COSE_Sign1 without external data. -/
def sigStructure (payload : Bytes) : Bytes :=
  Cbor.encode (.array [.text "Signature1".toUTF8.toList, .bytes protectedHeader, .bytes [], .bytes payload])

/-- Two numbers of 32 bytes that depend on all of the `Sig_structure`, in the place of r and s. -/
def signatureOver (toBeSigned : Bytes) : Bytes :=
  (List.range 64).map fun index => toBeSigned.foldl (fun sum byte => sum * 31 + byte) (UInt8.ofNat index)

def coseSign1Item (payload : Bytes) : Cbor.Item :=
  .array [.bytes protectedHeader, .map [], .bytes payload, .bytes (signatureOver (sigStructure payload))]

/-- Tag 18 and the array. -/
def coseSign1 (payload : Bytes) : Bytes := 0xd2 :: Cbor.encode (coseSign1Item payload)

def verifyCoseSign1 : Bytes → Option Bytes
  | 0xd2 :: rest =>
    match Cbor.decode rest with
    | some (.array [.bytes header, .map [], .bytes payload, .bytes signature], []) =>
      if header = protectedHeader ∧ signature = signatureOver (sigStructure payload) then some payload else none
    | _ => none
  | _ => none

/-- Every call succeeds as long as the COSE_Sign1 fits the buffer. -/
def workingSigning : GenericEvidenceEnv where
  teepKeyInitEsp256KeyPair := .success
  encodeParameters := fun size => decide (32 ≤ size)
  encodeSignature := fun payload size => decide (payload.length < 2 ^ 64) && decide ((coseSign1 payload).length ≤ size)
  finish := fun payload size => if (coseSign1 payload).length ≤ size then some (coseSign1 payload) else none

theorem sized_coseSign1Item {payload : Bytes} (small : payload.length < 2 ^ 64) :
    Cbor.Sized (coseSign1Item payload) := by
  have header : protectedHeader.length < 2 ^ 64 := by decide +kernel
  have signature : (signatureOver (sigStructure payload)).length < 2 ^ 64 := by simp [signatureOver]
  simp only [coseSign1Item, Cbor.Sized, Cbor.SizedItems, Cbor.SizedEntries, small, header, signature,
    List.length_cons, List.length_nil]
  decide

theorem workingSigning_verifies : workingSigning.Verifies verifyCoseSign1 := by
  intro payload size cose signed finished
  simp only [workingSigning, Bool.and_eq_true, decide_eq_true_eq] at signed
  simp only [workingSigning, if_pos signed.2, Option.some.injEq] at finished
  have decoded := Cbor.decode_encode (sized_coseSign1Item signed.1) []
  rw [List.append_nil] at decoded
  rw [← finished, coseSign1, verifyCoseSign1, decoded]
  simp [coseSign1Item]

theorem genericEvidence_basePoint : ∃ cose payload,
    (createEvidenceGeneric workingSigning (some challengeRequest) ⟨false, 4096⟩
      (some ⟨uncompressedKey baseX baseY, .bytes [1]⟩) (.null 0)).ret = .bytes cose ∧
      verifyCoseSign1 cose = some payload ∧ Confirms payload baseX baseY [1] [1, 2, 3, 4, 5, 6, 7, 8] := by
  have leaves := (genericEvidence_confirms workingSigning verifyCoseSign1 workingSigning_verifies baseX baseY rfl rfl
    (.bytes [1]) (by decide +kernel) challengeRequest (fun _ => by decide +kernel)).1 ⟨false, 4096⟩ (.null 0)
  obtain ⟨cose, isCose, payload, verified, confirmed⟩ := leaves.succeeded (by decide +kernel)
  exact ⟨cose, payload, isCose, verified, confirmed⟩

end Taws.Teep
