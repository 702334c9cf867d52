import Taws.Teep.RawMessages

/-!
# Fields that are absent

A field whose bit in `contains` is not set holds whatever the memory held.  Two messages agree if they
differ in such fields only, the slots of an array behind its count included.

* `buildQueryResponse_agrees` — on what is seen, building a QueryResponse never depends on an absent field.
* `absentFields_ignored_iff` — when all agreeing messages have one and the same answer.  An Error takes the
  token, a QueryRequest is searched for cipher suites and an Update for manifests without looking at the bit.
-/

namespace Taws.Teep

open TcManager
open Suit

/-- The requests agree on what is present. -/
structure TeepQueryRequest.Agrees (first second : TeepQueryRequest) : Prop where
  contains : first.contains = second.contains
  dataItemRequested : first.dataItemRequested = second.dataItemRequested
  token : .token ∈ first.contains → first.token = second.token
  versions : .versions ∈ first.contains → first.versions = second.versions
  supportedTeepCipherSuites : .supportedTeepCipherSuites ∈ first.contains →
    first.supportedTeepCipherSuites = second.supportedTeepCipherSuites
  challenge : .challenge ∈ first.contains → first.challenge = second.challenge

variable {lib : Libraries} {first second : TeepQueryRequest}

/-! ## QueryRequests -/

theorem versionSupported_agrees (agrees : first.Agrees second) :
    versionSupported first = versionSupported second := by
  by_cases hasVersions : .versions ∈ first.contains
  · simp [versionSupported, ← agrees.contains, hasVersions, agrees.versions hasVersions]
  · simp [versionSupported, ← agrees.contains, hasVersions]

/-- Without the bit, the outcome is the same whatever the search through the list finds: there is only
one cipher suite to be found. -/
theorem negotiatedCipherSuite_absent (teep : Libteep) (absent : .supportedTeepCipherSuites ∉ first.contains) :
    negotiatedCipherSuite teep first = supportedTeepCipherSuite teep := by
  simp [negotiatedCipherSuite, absent]

theorem negotiatedCipherSuite_agrees (teep : Libteep) (agrees : first.Agrees second) :
    negotiatedCipherSuite teep first = negotiatedCipherSuite teep second := by
  by_cases hasSuites : .supportedTeepCipherSuites ∈ first.contains
  · simp [negotiatedCipherSuite, ← agrees.contains, hasSuites, agrees.supportedTeepCipherSuites hasSuites]
  · have absent : .supportedTeepCipherSuites ∉ second.contains := by rwa [← agrees.contains]
    rw [negotiatedCipherSuite_absent teep hasSuites, negotiatedCipherSuite_absent teep absent]

theorem clearedResponse_agrees (agrees : first.Agrees second) : clearedResponse first = clearedResponse second := by
  by_cases hasToken : .token ∈ first.contains
  · simp [clearedResponse, ← agrees.contains, hasToken, agrees.token hasToken]
  · simp [clearedResponse, ← agrees.contains, hasToken]

theorem getQueryChallenge_agrees (agrees : first.Agrees second) :
    getQueryChallenge first = getQueryChallenge second := by
  by_cases hasChallenge : .challenge ∈ first.contains
  · simp [getQueryChallenge, ← agrees.contains, hasChallenge, agrees.challenge hasChallenge]
  · simp [getQueryChallenge, ← agrees.contains, hasChallenge]

/-- The evidence depends on the request through its challenge only. -/
theorem createEvidenceDcapEnvelope_agrees (agrees : first.Agrees second) (qcbor : Qcbor) (env : EvidenceEnv)
    (bufLen : Nat) (keyPair : TeepKey) :
    createEvidenceDcapEnvelope qcbor env first bufLen keyPair =
      createEvidenceDcapEnvelope qcbor env second bufLen keyPair := by
  have challenge := getQueryChallenge_agrees agrees
  simp only [createEvidenceDcapEnvelope, createEvidenceDcap, createDcapReportData, createRawDcapReportData,
    challenge]

theorem buildQueryResponse_agrees (agrees : first.Agrees second) (env : QueryEnv) (workBuf : Nat)
    (appName : Option CString) (keyPair : TeepKey) (table : RecordTable) :
    buildQueryResponse lib env first workBuf appName keyPair table =
      buildQueryResponse lib env second workBuf appName keyPair table := by
  simp only [buildQueryResponse, requestedItems, attestationStep, trustedComponentsStep,
    versionSupported_agrees agrees, negotiatedCipherSuite_agrees lib.teep agrees, clearedResponse_agrees agrees, agrees.dataItemRequested,
    createEvidenceDcapEnvelope_agrees agrees]

/-! ## The token of an Error -/

/-- An Error with another token, or without one. -/
theorem createError_other (teep : Libteep) (token : Buffer) (errCode : TeepErrCode)
    (msgBuf suitReportBuf : Buffer) :
    ∃ other, createError teep other errCode msgBuf suitReportBuf ≠
      createError teep token errCode msgBuf suitReportBuf := by
  by_cases taken : (!token.isNull && 8 ≤ token.len && token.len ≤ 64) = true
  · exact ⟨.null 0, by simp [createError, taken]⟩
  · exact ⟨.bytes (List.replicate 8 0), by simp [createError, taken]⟩

/-! ## Requests in memory -/

variable {capacity : Nat} {raw other : RawQueryRequest capacity} {env : QueryEnv} {workBuf : Nat}
  {appName : Option CString} {keyPair : TeepKey} {table : RecordTable}

structure RawQueryRequest.Agrees (first second : RawQueryRequest capacity) : Prop where
  contains : first.contains = second.contains
  dataItemRequested : first.dataItemRequested = second.dataItemRequested
  token : .token ∈ first.contains → first.token = second.token
  versions : .versions ∈ first.contains → first.versions.Agrees second.versions
  supportedTeepCipherSuites : .supportedTeepCipherSuites ∈ first.contains →
    first.supportedTeepCipherSuites.Agrees second.supportedTeepCipherSuites
  challenge : .challenge ∈ first.contains → first.challenge = second.challenge

theorem RawQueryRequest.Agrees.view (agrees : raw.Agrees other) : raw.view.Agrees other.view where
  contains := agrees.contains
  dataItemRequested := agrees.dataItemRequested
  token := agrees.token
  versions := fun listed => (agrees.versions listed).held
  supportedTeepCipherSuites := fun listed => (agrees.supportedTeepCipherSuites listed).held
  challenge := agrees.challenge

theorem RawQueryRequest.agrees_token (absent : .token ∉ raw.contains) (token : Buffer) :
    raw.Agrees { raw with token := token } where
  contains := rfl
  dataItemRequested := rfl
  token := fun hasToken => absurd hasToken absent
  versions := fun _ => .refl _
  supportedTeepCipherSuites := fun _ => .refl _
  challenge := fun _ => rfl

theorem RawQueryRequest.agrees_refl (raw : RawQueryRequest capacity) : raw.Agrees raw where
  contains := rfl
  dataItemRequested := rfl
  token := fun _ => rfl
  versions := fun _ => .refl _
  supportedTeepCipherSuites := fun _ => .refl _
  challenge := fun _ => rfl

/-- The request with a count of cipher suites that leads behind the array. -/
def RawQueryRequest.overrun (raw : RawQueryRequest capacity) (absent : .supportedTeepCipherSuites ∉ raw.contains)
    (suite : TeepCipherSuite) : RawQueryRequest capacity :=
  { raw with
    supportedTeepCipherSuites := RawArray.overrun capacity suite
    suitesDecoded := fun listed => absurd listed absent }

theorem RawQueryRequest.agrees_overrun (absent : .supportedTeepCipherSuites ∉ raw.contains)
    (suite : TeepCipherSuite) : raw.Agrees (raw.overrun absent suite) where
  contains := rfl
  dataItemRequested := rfl
  token := fun _ => rfl
  versions := fun _ => .refl _
  supportedTeepCipherSuites := fun listed => absurd listed absent
  challenge := fun _ => rfl

theorem VersionRefused.agrees (refused : VersionRefused first) (agrees : first.Agrees second) :
    VersionRefused second := by
  rw [← versionSupported_eq_false, ← versionSupported_agrees agrees, versionSupported_eq_false]
  exact refused

theorem RawQueryRequest.SuitesRead.agrees (read : raw.SuitesRead) (agrees : raw.Agrees other) :
    other.SuitesRead := by
  cases read with
  | inl refused => exact .inl (refused.agrees agrees.view)
  | inr listed => exact .inr (agrees.contains ▸ listed)

/-- The message that a request is answered with. -/
def queryAnswer (lib : Libraries) (env : QueryEnv) (raw : RawQueryRequest capacity) (workBuf : Nat)
    (appName : Option CString) (keyPair : TeepKey) (table : RecordTable) : Option TeepMessage :=
  (processRawQueryRequest lib env raw workBuf appName keyPair table).map fun processed => processed.2.1

/-- Where the list of cipher suites is not in the way, agreeing requests differ in the token of an Error. -/
theorem queryAnswer_agrees (read : raw.SuitesRead) (agrees : raw.Agrees other) :
    queryAnswer lib env other workBuf appName keyPair table =
      some (match (buildQueryResponse lib env raw.view workBuf appName keyPair table).1 with
        | .error code => createError lib.teep other.token code (.null 0) (.null 0)
        | .ok queryResponse => .queryResponse queryResponse) := by
  rw [queryAnswer, processRawQueryRequest_view (read.agrees agrees), Option.map_some, processQueryRequest_built,
    buildQueryResponse_agrees agrees.view]
  rfl

/-- All requests that agree with this one have one and the same answer exactly when the cipher suites are not
reached or are there, and the request has a token or can be answered. -/
theorem queryRequest_ignored_iff (lib : Libraries) (compares : ComparesSuites lib.teep) (env : QueryEnv)
    (raw : RawQueryRequest capacity) (workBuf : Nat) (appName : Option CString) (keyPair : TeepKey)
    (table : RecordTable) :
    (∀ other, raw.Agrees other → ∃ message,
      queryAnswer lib env raw workBuf appName keyPair table = some message ∧
        queryAnswer lib env other workBuf appName keyPair table = some message) ↔
      (VersionRefused raw.view ∨ .supportedTeepCipherSuites ∈ raw.contains) ∧
        (.token ∈ raw.contains ∨ Answerable lib env raw.view workBuf appName keyPair table) := by
  rw [← buildQueryResponse_ok]
  constructor
  · intro same
    have read : raw.SuitesRead := by
      -- otherwise a count that leads behind the array agrees with the request, and has no answer
      by_contra unread
      obtain ⟨supported, absent⟩ := not_or.mp unread
      have invalidDiffers : lib.teep.teepCipherSuiteIsSame (teepCipherSuiteInvalid lib.teep)
          (supportedTeepCipherSuite lib.teep) = false := by
        rw [← Bool.not_eq_true, compares.same]
        exact (supportedTeepCipherSuite_ne compares).symm
      obtain ⟨message, -, answered⟩ := same _ (RawQueryRequest.agrees_overrun absent
        (teepCipherSuiteInvalid lib.teep))
      have overruns : processRawQueryRequest lib env (raw.overrun absent (teepCipherSuiteInvalid lib.teep)) workBuf
          appName keyPair table = none :=
        processRawQueryRequest_overrun supported invalidDiffers rfl
      rw [queryAnswer, overruns] at answered
      cases answered
    refine ⟨read, ?_⟩
    cases built : (buildQueryResponse lib env raw.view workBuf appName keyPair table).1 with
    | ok queryResponse => exact .inr ⟨queryResponse, rfl⟩
    | error code =>
      -- an Error carries the token, whether it is there or not
      left
      by_contra noToken
      obtain ⟨token, different⟩ := createError_other lib.teep raw.token code (.null 0) (.null 0)
      have agrees := RawQueryRequest.agrees_token noToken token
      obtain ⟨message, answer, otherAnswer⟩ := same _ agrees
      rw [queryAnswer_agrees read raw.agrees_refl, built] at answer
      rw [queryAnswer_agrees read agrees, built, ← answer] at otherAnswer
      exact different (Option.some.inj otherAnswer)
  · rintro ⟨read, either⟩ other agrees
    refine ⟨_, queryAnswer_agrees read raw.agrees_refl, ?_⟩
    rw [queryAnswer_agrees read agrees]
    cases built : (buildQueryResponse lib env raw.view workBuf appName keyPair table).1 with
    | ok queryResponse => rfl
    | error code =>
      have hasToken := either.resolve_right (by simp [built])
      rw [agrees.token hasToken]

/-! ## Updates in memory -/

section Updates

variable {manifests : Nat → ManifestEnv} {raw other : RawUpdate lib.teep.teepMaxArrayLength} {state : SuitState}

structure RawUpdate.Agrees (first second : RawUpdate capacity) : Prop where
  contains : first.contains = second.contains
  token : .token ∈ first.contains → first.token = second.token
  manifestList : .manifestList ∈ first.contains → first.manifestList.Agrees second.manifestList

/-- The message that an Update is answered with, and the table that it leaves. -/
def updateAnswer (lib : Libraries) (manifests : Nat → ManifestEnv) (raw : RawUpdate lib.teep.teepMaxArrayLength)
    (state : SuitState) : Option (TeepMessage × RecordTable) :=
  (processRawUpdate lib manifests raw state).map fun processed => (processed.message, processed.state.table)

/-- The Update is answered with a permanent Error, and nothing has happened. -/
def Refused (lib : Libraries) (manifests : Nat → ManifestEnv) (raw : RawUpdate lib.teep.teepMaxArrayLength)
    (state : SuitState) : Prop :=
  updateAnswer lib manifests raw state =
    some (createError lib.teep raw.token .permanentError (.null 0) (.null 0), state.table)

theorem tokenAccepted_iff {update : TeepUpdate} : tokenAccepted update = true ↔
    .token ∈ update.contains ∧ 8 ≤ update.token.len ∧ update.token.len ≤ 64 := by
  simp [tokenAccepted, and_assoc]

theorem refused_of_token (notAccepted : ¬ (.token ∈ raw.contains ∧ 8 ≤ raw.token.len ∧ raw.token.len ≤ 64)) :
    Refused lib manifests raw state := by
  have refused : tokenAccepted raw.view = false := by
    rw [← Bool.not_eq_true, tokenAccepted_iff]
    exact notAccepted
  simp [Refused, updateAnswer, processRawUpdate, refused]

theorem refused_of_length (outside : ¬ (1 ≤ raw.manifestList.len ∧
    raw.manifestList.len ≤ lib.teep.teepMaxArrayLength)) : Refused lib manifests raw state := by
  have notAccepted : (1 ≤ raw.manifestList.len && raw.manifestList.len ≤ lib.teep.teepMaxArrayLength : Bool) =
      false := by simpa using outside
  simp only [Refused, updateAnswer, processRawUpdate, notAccepted]
  split <;> rfl

/-- The first manifest is set up for with an envelope buffer that holds nothing. -/
def NoEnvelope (env : ManifestEnv) : Prop := ∃ context, (setUpProcessor env).ready = some (context, 0)

theorem processRawManifest_noEnvelope (csuit : Libcsuit) {env : ManifestEnv} (noEnvelope : NoEnvelope env)
    (item : RawBuf) (state : SuitState) : ∃ events, processRawManifest csuit env item state =
      some (state, events, some { errCode := .permanentError }) := by
  obtain ⟨context, ready⟩ := noEnvelope
  refine ⟨(setUpProcessor env).events ++ release (setUpProcessor env).held, ?_⟩
  -- a length is zero, or it is more than the buffer holds
  have refused : ∀ len : Nat, (len == 0 || decide (len > 0)) = true := by
    intro len
    rcases Nat.eq_zero_or_pos len with isEmpty | full
    · simp [isEmpty]
    · simp [full]
  cases item with
  | readable buffer => simp only [processRawManifest, processManifest, ready, Bool.or_assoc, refused, Bool.or_true, if_true]
  | dangling len => simp only [processRawManifest, ready, refused, if_true]

theorem refused_of_noEnvelope (noEnvelope : NoEnvelope (manifests 0)) : Refused lib manifests raw state := by
  by_cases inBounds : 1 ≤ raw.manifestList.len ∧ raw.manifestList.len ≤ lib.teep.teepMaxArrayLength
  swap
  · exact refused_of_length inBounds
  by_cases goodToken : .token ∈ raw.contains ∧ 8 ≤ raw.token.len ∧ raw.token.len ≤ 64
  swap
  · exact refused_of_token goodToken
  have accepted : tokenAccepted raw.view = true := tokenAccepted_iff.mpr goodToken
  have length : raw.manifestList.held.length = raw.manifestList.len := by
    simp [RawArray.held, inBounds.2]
  cases list : raw.manifestList.held with
  | nil =>
    rw [list] at length
    exact absurd length.symm (Nat.one_le_iff_ne_zero.mp inBounds.1)
  | cons item items =>
    obtain ⟨events, processed⟩ := processRawManifest_noEnvelope lib.csuit noEnvelope item state
    simp [Refused, updateAnswer, processRawUpdate, accepted, inBounds, list, processRawManifests, processed]

theorem Refused.same (refused : Refused lib manifests raw state) (otherRefused : Refused lib manifests other state)
    (sameToken : raw.token = other.token) : ∃ answer, updateAnswer lib manifests raw state = some answer ∧
      updateAnswer lib manifests other state = some answer :=
  ⟨_, refused, by rw [sameToken]; exact otherRefused⟩

theorem RawUpdate.agrees_token (absent : .token ∉ raw.contains) (token : Buffer) :
    raw.Agrees { raw with token := token } where
  contains := rfl
  token := fun hasToken => absurd hasToken absent
  manifestList := fun _ => .refl _

/-- The Update with a list of that many pointers that lead nowhere, each with a length of one. -/
def RawUpdate.strayList (raw : RawUpdate lib.teep.teepMaxArrayLength) (absent : .manifestList ∉ raw.contains)
    (len : Nat) : RawUpdate lib.teep.teepMaxArrayLength :=
  { raw with
    manifestList := ⟨len, Vector.replicate _ (.dangling 1)⟩
    listDecoded := fun listed => absurd listed absent }

theorem RawUpdate.agrees_strayList (absent : .manifestList ∉ raw.contains) (len : Nat) :
    raw.Agrees (raw.strayList absent len) where
  contains := rfl
  token := fun _ => rfl
  manifestList := fun listed => absurd listed absent

/-- One pointer that leads nowhere is refused only if nothing fits the envelope buffer. -/
theorem noEnvelope_of_refused (absent : .manifestList ∉ raw.contains) (accepted : tokenAccepted raw.view = true)
    (lists : lib.teep.teepMaxArrayLength ≠ 0) (refused : Refused lib manifests (raw.strayList absent 1) state) :
    NoEnvelope (manifests 0) := by
  have room : 1 ≤ lib.teep.teepMaxArrayLength := Nat.one_le_iff_ne_zero.mpr lists
  have items : (raw.strayList absent 1).manifestList.held = [.dangling 1] := by
    obtain ⟨capacity, isSucc⟩ := Nat.exists_eq_succ_of_ne_zero lists
    simp [RawArray.held, RawUpdate.strayList, isSucc, List.replicate_succ]
  have token : tokenAccepted (raw.strayList absent 1).view = true := accepted
  have length : (raw.strayList absent 1).manifestList.len = 1 := rfl
  simp only [Refused, updateAnswer, processRawUpdate, token, length, room, items, processRawManifests,
    processRawManifest, Bool.not_true, Bool.false_eq_true, if_false, Nat.le_refl, decide_true, Bool.and_self]
    at refused
  cases ready : (setUpProcessor (manifests 0)).ready with
  | none =>
    rw [ready] at refused
    simp [createError] at refused
  | some setUp =>
    obtain ⟨context, envelopeBufLen⟩ := setUp
    cases envelopeBufLen with
    | zero => exact ⟨context, ready⟩
    | succ size =>
      rw [ready] at refused
      simp at refused

/-- All Updates that agree with this one have one and the same answer exactly when it has a token, and it has a
manifest list or is refused before one of its manifests is copied. -/
theorem update_ignored_iff (lib : Libraries) (manifests : Nat → ManifestEnv)
    (raw : RawUpdate lib.teep.teepMaxArrayLength) (state : SuitState) :
    (∀ other, raw.Agrees other → ∃ answer, updateAnswer lib manifests raw state = some answer ∧
        updateAnswer lib manifests other state = some answer) ↔
      .token ∈ raw.contains ∧ (.manifestList ∈ raw.contains ∨
        ¬ (8 ≤ raw.token.len ∧ raw.token.len ≤ 64) ∨ lib.teep.teepMaxArrayLength = 0 ∨
        NoEnvelope (manifests 0)) := by
  constructor
  · intro same
    have hasToken : .token ∈ raw.contains := by
      -- without the bit the Update is refused, and the Error carries what its memory holds
      by_contra noToken
      obtain ⟨token, different⟩ := createError_other lib.teep raw.token .permanentError (.null 0) (.null 0)
      have refused : Refused lib manifests raw state := refused_of_token fun accepted => noToken accepted.1
      have otherRefused : Refused lib manifests { raw with token := token } state :=
        refused_of_token fun accepted => noToken accepted.1
      obtain ⟨answer, isAnswer, isOther⟩ := same _ (RawUpdate.agrees_token noToken token)
      have answers := isOther.trans isAnswer.symm
      rw [refused, otherRefused] at answers
      exact different (congrArg Prod.fst (Option.some.inj answers))
    refine ⟨hasToken, ?_⟩
    by_contra none
    obtain ⟨absent, goodToken, lists, noneFits⟩ : .manifestList ∉ raw.contains ∧
        (8 ≤ raw.token.len ∧ raw.token.len ≤ 64) ∧ lib.teep.teepMaxArrayLength ≠ 0 ∧
        ¬ NoEnvelope (manifests 0) := by
      simpa [not_or] using none
    have accepted : tokenAccepted raw.view = true := tokenAccepted_iff.mpr ⟨hasToken, goodToken⟩
    -- an empty list is refused, so a list of one pointer would have to be refused as well
    have emptyRefused : Refused lib manifests (raw.strayList absent 0) state :=
      refused_of_length (by simp [RawUpdate.strayList])
    obtain ⟨answer, isAnswer, isEmpty⟩ := same _ (RawUpdate.agrees_strayList absent 0)
    obtain ⟨single, isSame, isSingle⟩ := same _ (RawUpdate.agrees_strayList absent 1)
    have refused : Refused lib manifests (raw.strayList absent 1) state := by
      have answers := isSingle.trans (isSame.symm.trans (isAnswer.trans isEmpty.symm))
      exact answers.trans emptyRefused
    exact noneFits (noEnvelope_of_refused absent accepted lists refused)
  · rintro ⟨hasToken, exempt⟩ other agrees
    have sameToken := agrees.token hasToken
    rcases exempt with listed | badToken | noLists | noEnvelope
    · have sameView : other.view = raw.view := by
        simp only [RawUpdate.view, agrees.contains, sameToken, (agrees.manifestList listed).held]
      refine ⟨((processUpdate lib manifests raw.view state).message,
        (processUpdate lib manifests raw.view state).state.table), ?_, ?_⟩
      · rw [updateAnswer, processRawUpdate_view listed, Option.map_some]
      · rw [updateAnswer, processRawUpdate_view (agrees.contains ▸ listed), Option.map_some, sameView]
    · have refused : Refused lib manifests raw state := refused_of_token fun accepted => badToken accepted.2
      have otherRefused : Refused lib manifests other state :=
        refused_of_token fun accepted => badToken (sameToken ▸ accepted.2)
      exact refused.same otherRefused sameToken
    · have outside : ∀ each : RawUpdate lib.teep.teepMaxArrayLength,
          ¬ (1 ≤ each.manifestList.len ∧ each.manifestList.len ≤ lib.teep.teepMaxArrayLength) := by
        omega
      exact (refused_of_length (outside raw)).same (refused_of_length (outside other)) sameToken
    · exact (refused_of_noEnvelope noEnvelope).same (refused_of_noEnvelope noEnvelope) sameToken

end Updates

/-- When a field that is absent does not influence the agent: the cipher suites of a request are not reached or
are there, and it has a token or can be answered; an Update has a token, and it has a manifest list or is
refused before one of its manifests is copied. -/
theorem absentFields_ignored_iff (lib : Libraries) (compares : ComparesSuites lib.teep) (env : QueryEnv)
    (queryRequest : RawQueryRequest capacity) (workBuf : Nat) (appName : Option CString) (keyPair : TeepKey)
    (table : RecordTable) (manifests : Nat → ManifestEnv) (update : RawUpdate lib.teep.teepMaxArrayLength)
    (state : SuitState) :
    ((∀ other, queryRequest.Agrees other → ∃ message,
        queryAnswer lib env queryRequest workBuf appName keyPair table = some message ∧
          queryAnswer lib env other workBuf appName keyPair table = some message) ↔
      (VersionRefused queryRequest.view ∨ .supportedTeepCipherSuites ∈ queryRequest.contains) ∧
        (.token ∈ queryRequest.contains ∨
          Answerable lib env queryRequest.view workBuf appName keyPair table)) ∧
    ((∀ other, update.Agrees other → ∃ answer,
        updateAnswer lib manifests update state = some answer ∧
          updateAnswer lib manifests other state = some answer) ↔
      .token ∈ update.contains ∧ (.manifestList ∈ update.contains ∨
        ¬ (8 ≤ update.token.len ∧ update.token.len ≤ 64) ∨ lib.teep.teepMaxArrayLength = 0 ∨
        NoEnvelope (manifests 0))) :=
  ⟨queryRequest_ignored_iff lib compares env queryRequest workBuf appName keyPair table,
    update_ignored_iff lib manifests update state⟩

/-- Only version 7 is asked for; the memory of the token holds eight bytes. -/
def tokenlessRequest : RawQueryRequest 20 where
  contains := {.versions}
  dataItemRequested := ⟨false, true⟩
  token := .bytes [1, 2, 3, 4, 5, 6, 7, 8]
  versions := ⟨1, Vector.replicate 20 7⟩
  supportedTeepCipherSuites := ⟨0, Vector.replicate 20 (teepCipherSuiteInvalid referenceTeep)⟩
  challenge := .null 0
  versionsDecoded := by decide
  suitesDecoded := by decide

/-- There is a token, and no list of cipher suites; the memory of its count holds 21, and the array has 20
slots. -/
def unlistedRequest : RawQueryRequest 20 where
  contains := {.token}
  dataItemRequested := ⟨false, true⟩
  token := .bytes [1, 2, 3, 4, 5, 6, 7, 8]
  versions := ⟨0, Vector.replicate 20 7⟩
  supportedTeepCipherSuites := ⟨21, Vector.replicate 20 (teepCipherSuiteInvalid referenceTeep)⟩
  challenge := .null 0
  versionsDecoded := by decide
  suitesDecoded := by decide

def smallAnswer (raw : RawQueryRequest 20) : Option TeepMessage :=
  queryAnswer smallLibraries workingQuery raw workBufLen (some [97]) ⟨.null 0⟩ SlotTable.empty

theorem tokenlessRequest_answered :
    (.token ∉ tokenlessRequest.contains ∧
      smallAnswer tokenlessRequest = some (.error
        { errCode := .unsupportedMsgVersion
          token := some (.bytes [1, 2, 3, 4, 5, 6, 7, 8])
          versions := some [0] }) ∧
      ¬ ∀ other, tokenlessRequest.Agrees other → ∃ message,
        smallAnswer tokenlessRequest = some message ∧ smallAnswer other = some message) ∧
    (.token ∈ unlistedRequest.contains ∧ smallAnswer unlistedRequest = none) := by
  have answered : smallAnswer tokenlessRequest = some (.error
      { errCode := .unsupportedMsgVersion
        token := some (.bytes [1, 2, 3, 4, 5, 6, 7, 8])
        versions := some [0] }) := by decide +kernel
  refine ⟨⟨by decide, answered, ?_⟩, by decide, by decide +kernel⟩
  intro same
  have noToken : .token ∉ tokenlessRequest.contains := by decide
  obtain ⟨message, isMessage, isOther⟩ := same _ (RawQueryRequest.agrees_token noToken (.null 0))
  have otherAnswered : smallAnswer { tokenlessRequest with token := .null 0 } =
      some (.error { errCode := .unsupportedMsgVersion, versions := some [0] }) := by decide +kernel
  rw [← isMessage, answered] at isOther
  rw [otherAnswered] at isOther
  exact absurd isOther (by decide)

/-- There is a token and a list with the supported cipher suite. -/
def listedRequest : RawQueryRequest 20 where
  contains := {.token, .supportedTeepCipherSuites}
  dataItemRequested := ⟨false, true⟩
  token := .bytes [1, 2, 3, 4, 5, 6, 7, 8]
  versions := ⟨0, Vector.replicate 20 7⟩
  supportedTeepCipherSuites := ⟨1, Vector.replicate 20 (supportedTeepCipherSuite referenceTeep)⟩
  challenge := .null 0
  versionsDecoded := by decide
  suitesDecoded := by decide

/-- A token and no manifest list. -/
def listlessUpdate : RawUpdate smallLibraries.teep.teepMaxArrayLength where
  contains := {.token}
  token := .bytes [1, 2, 3, 4, 5, 6, 7, 8]
  manifestList := ⟨1, Vector.replicate _ (.dangling 1)⟩
  listDecoded := fun listed => absurd listed (by decide)

/-- The request has one answer whatever the memory of its versions and its challenge holds; the Update without
a list has not. -/
theorem absentFields_ignored_listed :
    (∀ other, listedRequest.Agrees other → ∃ message,
      smallAnswer listedRequest = some message ∧ smallAnswer other = some message) ∧
    ¬ ∀ other, listlessUpdate.Agrees other → ∃ answer,
      updateAnswer smallLibraries (fun _ => workingManifest fun _ => unfetchedRun) listlessUpdate
          ⟨SlotTable.empty, .null 0⟩ = some answer ∧
        updateAnswer smallLibraries (fun _ => workingManifest fun _ => unfetchedRun) other
          ⟨SlotTable.empty, .null 0⟩ = some answer := by
  obtain ⟨query, update⟩ := absentFields_ignored_iff smallLibraries referenceTeep_comparesSuites workingQuery
    listedRequest workBufLen (some [97]) ⟨.null 0⟩ SlotTable.empty
    (fun _ => workingManifest fun _ => unfetchedRun) listlessUpdate ⟨SlotTable.empty, .null 0⟩
  refine ⟨query.mpr ⟨.inr (by decide), .inl (by decide)⟩, fun same => ?_⟩
  rcases (update.mp same).2 with listed | badToken | noLists | noEnvelope
  · exact absurd listed (by decide)
  · exact absurd (by decide) badToken
  · exact absurd noLists (by decide)
  · obtain ⟨context, ready⟩ := noEnvelope
    cases ready

end Taws.Teep
