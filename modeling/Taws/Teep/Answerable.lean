import Taws.Teep.TcList

/-!
# Requests that can be answered

A QueryResponse is built for a request exactly when it negotiates, and the evidence and the tc-list that it
asks for can be provided.

* `Answerable` — the condition.
* `buildQueryResponse_ok` — a QueryResponse is built exactly then.
* `processQueryRequest_built` — anything else is answered with an Error.
-/

namespace Taws.Teep

open TcManager

variable {lib : Libraries}

/-- What is left of the scratch buffer behind the evidence that is asked for, `none` where it cannot be
made. -/
def scratchLeft (lib : Libraries) (env : QueryEnv) (queryRequest : TeepQueryRequest) (workBuf : Nat)
    (keyPair : TeepKey) : Option Nat :=
  if queryRequest.dataItemRequested.attestation then
    match (createEvidenceDcapEnvelope lib.qcbor env.evidence queryRequest workBuf keyPair).1 with
    | .error _ => none
    | .ok eat => lib.qcbor.usefulBufSliceTail workBuf eat.length
  else some workBuf

/-- The records can be listed. -/
structure TcListAvailable (lib : Libraries) (env : QueryEnv) (table : RecordTable) : Prop where
  room : tcManagerRecordCount table ≤ lib.teep.tcListCapacity
  items : tcManagerRecordCount table ≠ 0 → env.tcListItems ≠ none ∧
    (tcManagerGetTcList lib.csuit table true (tcManagerRecordCount table) true).1 = 0 ∧
    (buildTcInfos lib env.tcInfoBuf 0
      (tcManagerGetTcList lib.csuit table true (tcManagerRecordCount table) true).2).1 ≠ none

/-- The request negotiates, and what it asks for can be provided. -/
structure Answerable (lib : Libraries) (env : QueryEnv) (queryRequest : TeepQueryRequest) (workBuf : Nat)
    (appName : Option CString) (keyPair : TeepKey) (table : RecordTable) : Prop where
  negotiates : Negotiates lib.teep queryRequest
  provided : ∃ tmpLen, scratchLeft lib env queryRequest workBuf keyPair = some tmpLen ∧
    (queryRequest.dataItemRequested.trustedComponents = true →
      (∃ name, appName = some name ∧ name ≠ [] ∧ lib.qcbor.finish (.array [.bytes name]) tmpLen ≠ none) ∧
        TcListAvailable lib env table)

theorem attestationStep_ok (lib : Libraries) (env : QueryEnv) (queryRequest : TeepQueryRequest) (keyPair : TeepKey)
    (queryResponse : TeepQueryResponse) (workBuf tmpLen : Nat) :
    (∃ built, (attestationStep lib env queryRequest keyPair queryResponse workBuf).1 = .ok (built, tmpLen)) ↔
      scratchLeft lib env queryRequest workBuf keyPair = some tmpLen := by
  unfold attestationStep scratchLeft
  cases queryRequest.dataItemRequested.attestation with
  | false => simp
  | true =>
    rcases createEvidenceDcapEnvelope lib.qcbor env.evidence queryRequest workBuf keyPair with ⟨made, events⟩
    cases made with
    | error code => simp
    | ok eat => cases tail : lib.qcbor.usefulBufSliceTail workBuf eat.length <;> simp [tail]

theorem tcListStep_ok (env : QueryEnv) (table : RecordTable) (queryResponse : TeepQueryResponse) :
    (∃ built, (tcListStep lib env table queryResponse).1 = .ok built) ↔ TcListAvailable lib env table := by
  simp only [tcListStep]
  by_cases crowded : tcManagerRecordCount table > lib.teep.tcListCapacity
  · rw [if_pos crowded]
    constructor
    · rintro ⟨built, failed⟩
      cases failed
    · intro available
      exact absurd available.room (Nat.not_le.mpr crowded)
  · have room := Nat.not_lt.mp crowded
    rw [if_neg crowded]
    by_cases isEmpty : tcManagerRecordCount table = 0
    · rw [if_pos isEmpty]
      exact ⟨fun _ => ⟨room, fun inUse => absurd isEmpty inUse⟩, fun _ => ⟨queryResponse, rfl⟩⟩
    · rw [if_neg isEmpty]
      have items_iff : TcListAvailable lib env table ↔ _ :=
        ⟨fun available => available.items isEmpty, fun items => ⟨room, fun _ => items⟩⟩
      rw [items_iff]
      cases env.tcListItems with
      | none => simp
      | some items =>
        rcases tcManagerGetTcList lib.csuit table true (tcManagerRecordCount table) true with ⟨returned, listed⟩
        by_cases failed : returned ≠ 0
        · simp [failed]
        · rcases buildTcInfos lib env.tcInfoBuf 0 listed with ⟨infos, events⟩
          cases infos <;> simp_all

theorem trustedComponentsStep_ok (env : QueryEnv) (queryRequest : TeepQueryRequest) (appName : Option CString)
    (table : RecordTable) (queryResponse : TeepQueryResponse) (tmpLen : Nat) :
    (∃ built, (trustedComponentsStep lib env queryRequest appName table queryResponse tmpLen).1 = .ok built) ↔
      (queryRequest.dataItemRequested.trustedComponents = true →
        (∃ name, appName = some name ∧ name ≠ [] ∧ lib.qcbor.finish (.array [.bytes name]) tmpLen ≠ none) ∧
          TcListAvailable lib env table) := by
  unfold trustedComponentsStep
  cases queryRequest.dataItemRequested.trustedComponents with
  | false => simp
  | true =>
    cases appName with
    | none => simp
    | some name =>
      by_cases isEmpty : name = []
      · simp [isEmpty]
      · cases finished : lib.qcbor.finish (.array [.bytes name]) tmpLen <;>
          simp [isEmpty, finished, tcListStep_ok]

/-- A QueryResponse is built exactly for the requests that can be answered. -/
theorem buildQueryResponse_ok (env : QueryEnv) (queryRequest : TeepQueryRequest) (workBuf : Nat)
    (appName : Option CString) (keyPair : TeepKey) (table : RecordTable) :
    (∃ built, (buildQueryResponse lib env queryRequest workBuf appName keyPair table).1 = .ok built) ↔
      Answerable lib env queryRequest workBuf appName keyPair table := by
  have attested := attestationStep_ok lib env queryRequest keyPair (clearedResponse queryRequest) workBuf
  constructor
  · rintro ⟨built, ok⟩
    simp only [buildQueryResponse, requestedItems] at ok
    split at ok
    · cases ok
    · next supported =>
      split at ok
      · cases ok
      · next valid =>
        split at ok
        · cases ok
        · next queryResponse tmpLen events made =>
          have left := (attested tmpLen).mp ⟨queryResponse, by rw [made]⟩
          have provided := (trustedComponentsStep_ok env queryRequest appName table queryResponse tmpLen).mp
            ⟨built, ok⟩
          exact ⟨⟨by simpa using supported, by simpa using valid⟩, tmpLen, left, provided⟩
  · rintro ⟨⟨supported, valid⟩, tmpLen, left, provided⟩
    obtain ⟨queryResponse, made⟩ := (attested tmpLen).mpr left
    have step : attestationStep lib env queryRequest keyPair (clearedResponse queryRequest) workBuf =
        (.ok (queryResponse, tmpLen), (attestationStep lib env queryRequest keyPair
          (clearedResponse queryRequest) workBuf).2) := Prod.ext made rfl
    obtain ⟨built, ok⟩ := (trustedComponentsStep_ok env queryRequest appName table queryResponse tmpLen).mpr
      provided
    refine ⟨built, ?_⟩
    rw [buildQueryResponse, requestedItems, step]
    simp only [supported, valid, Bool.not_true, Bool.false_eq_true, if_false, ok]

theorem processQueryRequest_built (env : QueryEnv) (queryRequest : TeepQueryRequest) (workBuf : Nat)
    (appName : Option CString) (keyPair : TeepKey) (table : RecordTable) :
    (processQueryRequest lib env queryRequest workBuf appName keyPair table).2.1 =
      match (buildQueryResponse lib env queryRequest workBuf appName keyPair table).1 with
      | .error code => createError lib.teep queryRequest.token code (.null 0) (.null 0)
      | .ok queryResponse => .queryResponse queryResponse := by
  unfold processQueryRequest
  rcases buildQueryResponse lib env queryRequest workBuf appName keyPair table with ⟨outcome, events⟩
  cases outcome <;> rfl

end Taws.Teep
