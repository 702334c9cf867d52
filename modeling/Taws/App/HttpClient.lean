import Taws.Buffers

/-!
# The HTTP client

`teep_http_client.cpp`.  libcurl hands the body of a response to `write_callback` in chunks, and fails the
transfer when the callback returns another count than the length of the chunk.  The callback copies what
fits its buffer and always returns the length of the chunk, so a body that is too large is cut off, and the
transfer succeeds.

* `writeCallback`, `curlEasyPerform`, `teepSendHttpPost`
* `handOver_eq` — the buffer holds the front of the body, however it was cut into chunks.
* `bodyWhole_iff` — the transfers whose body arrives whole or not at all.
-/

namespace Taws.App

/-- `teep_http_recv_context_t`; `out` is what has been written to the buffer. -/
structure RecvContext where
  out : Bytes
  allocatedLen : Nat
  deriving DecidableEq

/-- The count that is returned, and the context afterwards.  `recvBuffer` has `size * nitems` bytes. -/
def writeCallback (recvBuffer : Bytes) (ctx : RecvContext) : Nat × RecvContext :=
  let recvSize := recvBuffer.length
  let remainSize := if ctx.out.length < ctx.allocatedLen then ctx.allocatedLen - ctx.out.length else 0
  let copySize := if recvSize < remainSize then recvSize else remainSize
  -- what does not fit is logged, if nothing fits, and dropped
  (recvSize, if copySize > 0 then { ctx with out := ctx.out ++ recvBuffer.take copySize } else ctx)

/-! ## libcurl -/

structure Transfer where
  easyInit : Bool
  chunks : List Bytes
  /-- Whether the transfer succeeds as far as it does not depend on the callback. -/
  completes : Bool
  /-- `CURLINFO_RESPONSE_CODE`, `none` where `curl_easy_getinfo` fails. -/
  responseCode : Option Int
  deriving DecidableEq

/-- Hands over the chunks until the callback returns another count than the length of the chunk. -/
def handOver (callback : Bytes → RecvContext → Nat × RecvContext) : List Bytes → RecvContext → Bool × RecvContext
  | [], ctx => (true, ctx)
  | chunk :: chunks, ctx =>
    let written := callback chunk ctx
    if written.1 = chunk.length then handOver callback chunks written.2 else (false, written.2)

def curlEasyPerform (transfer : Transfer) (callback : Bytes → RecvContext → Nat × RecvContext)
    (ctx : RecvContext) : Bool × RecvContext :=
  let handed := handOver callback transfer.chunks ctx
  (handed.1 && transfer.completes, handed.2)

/-! ## The POST -/

-- 0, 1, 2 and `TEEP_ERR_UNEXPECTED_ERROR`
inductive PostResult where
  | ok
  | performFailed
  | badStatus
  | unexpectedError
  deriving DecidableEq

structure PostOutcome where
  result : PostResult
  received : Bytes
  posted : Option Bytes
  deriving DecidableEq

def statusResult (responseCode : Option Int) : PostResult :=
  match responseCode with
  | none => .badStatus
  | some code => if code = 204 then .ok else if code < 0 || code ≠ 200 then .badStatus else .ok

/-- `capacity` is the length of `out_recv_buffer` on entry. -/
def teepSendHttpPost (transfer : Transfer) (sendBuffer : Buffer) (capacity : Nat) : PostOutcome :=
  if !transfer.easyInit then ⟨.unexpectedError, [], none⟩
  else
    let body := if sendBuffer.isNullOrEmpty then [] else sendBuffer.data
    let performed := curlEasyPerform transfer writeCallback ⟨[], capacity⟩
    let result := if !performed.1 then .performFailed else statusResult transfer.responseCode
    ⟨result, performed.2.out, some body⟩

/-! ## What arrives -/

variable {transfer : Transfer} {capacity : Nat}

/-- A chunk that fits is appended whole, one that straddles the end is cut there, one behind it is dropped. -/
theorem writeCallback_eq {ctx : RecvContext} (within : ctx.out.length ≤ ctx.allocatedLen) (chunk : Bytes) :
    writeCallback chunk ctx = (chunk.length, { ctx with out := (ctx.out ++ chunk).take ctx.allocatedLen }) := by
  have front : (ctx.out ++ chunk).take ctx.allocatedLen =
      ctx.out ++ chunk.take (ctx.allocatedLen - ctx.out.length) := by
    rw [List.take_append, List.take_of_length_le within]
  simp only [writeCallback, front]
  by_cases room : ctx.out.length < ctx.allocatedLen
  · rw [if_pos room]
    by_cases fits : chunk.length < ctx.allocatedLen - ctx.out.length
    · rw [if_pos fits, List.take_of_length_le (Nat.le_refl _), List.take_of_length_le (Nat.le_of_lt fits)]
      cases chunk with
      | nil => simp
      | cons byte bytes => simp
    · rw [if_neg fits, if_pos (by omega)]
  · have nothing : ctx.allocatedLen - ctx.out.length = 0 := by omega
    simp [room, nothing]

theorem take_take_append {limit : Nat} (first second : Bytes) :
    (first.take limit ++ second).take limit = (first ++ second).take limit := by
  have rest : limit - (first.take limit).length = limit - first.length := by
    rw [List.length_take]
    omega
  rw [List.take_append, List.take_append, List.take_take, Nat.min_self, rest]

theorem handOver_eq (chunks : List Bytes) {ctx : RecvContext} (within : ctx.out.length ≤ ctx.allocatedLen) :
    handOver writeCallback chunks ctx =
      (true, { ctx with out := (ctx.out ++ chunks.flatten).take ctx.allocatedLen }) := by
  induction chunks generalizing ctx with
  | nil =>
    rw [handOver, List.flatten_nil, List.append_nil, List.take_of_length_le within]
  | cons chunk chunks inductionHypothesis =>
    have stillWithin : ((ctx.out ++ chunk).take ctx.allocatedLen).length ≤ ctx.allocatedLen :=
      List.length_take_le _ _
    simp only [handOver, writeCallback_eq within, if_true]
    rw [inductionHypothesis stillWithin]
    simp only [take_take_append, List.flatten_cons, List.append_assoc]

theorem handOver_empty (chunks : List Bytes) (capacity : Nat) :
    handOver writeCallback chunks ⟨[], capacity⟩ = (true, ⟨chunks.flatten.take capacity, capacity⟩) :=
  handOver_eq chunks (Nat.zero_le capacity)

def receivedSoFar (capacity : Nat) (handed : List Bytes) : Bytes :=
  (handOver writeCallback handed ⟨[], capacity⟩).2.out

theorem receivedSoFar_eq (capacity : Nat) (handed : List Bytes) :
    receivedSoFar capacity handed = handed.flatten.take capacity := by
  rw [receivedSoFar, handOver_empty]

theorem teepSendHttpPost_eq (transfer : Transfer) (sendBuffer : Buffer) (capacity : Nat) :
    teepSendHttpPost transfer sendBuffer capacity =
      if !transfer.easyInit then ⟨.unexpectedError, [], none⟩
      else ⟨if !transfer.completes then .performFailed else statusResult transfer.responseCode,
        transfer.chunks.flatten.take capacity, some (if sendBuffer.isNullOrEmpty then [] else sendBuffer.data)⟩ := by
  simp only [teepSendHttpPost, curlEasyPerform, handOver_empty, Bool.true_and]

/-! ## The contract -/

/-- The transfer ends with status 200 or 204, whatever is in the body. -/
structure Accepted (transfer : Transfer) : Prop where
  easyInit : transfer.easyInit = true
  completes : transfer.completes = true
  status : transfer.responseCode = some 200 ∨ transfer.responseCode = some 204

theorem statusResult_ok (responseCode : Option Int) :
    statusResult responseCode = .ok ↔ responseCode = some 200 ∨ responseCode = some 204 := by
  cases responseCode with
  | none => simp [statusResult]
  | some code =>
    simp only [statusResult, Bool.or_eq_true, decide_eq_true_eq, Option.some.injEq]
    split
    · next noContent => simp [noContent]
    split
    · next refused =>
      have notOk : ¬ (code = 200 ∨ code = 204) := by omega
      simp [notOk]
    · next accepted =>
      have isOk : code = 200 := by omega
      simp [isOk]

theorem teepSendHttpPost_ok (transfer : Transfer) (sendBuffer : Buffer) (capacity : Nat) :
    (teepSendHttpPost transfer sendBuffer capacity).result = .ok ↔ Accepted transfer := by
  rw [teepSendHttpPost_eq]
  cases easyInit : transfer.easyInit with
  | false => exact ⟨nofun, fun accepted => nomatch easyInit.symm.trans accepted.easyInit⟩
  | true =>
    cases completes : transfer.completes with
    | false => exact ⟨nofun, fun accepted => nomatch completes.symm.trans accepted.completes⟩
    | true =>
      show statusResult transfer.responseCode = .ok ↔ _
      rw [statusResult_ok]
      exact ⟨fun status => ⟨easyInit, completes, status⟩, fun accepted => accepted.status⟩

theorem teepSendHttpPost_received (accepted : Accepted transfer) (sendBuffer : Buffer) (capacity : Nat) :
    (teepSendHttpPost transfer sendBuffer capacity).received = transfer.chunks.flatten.take capacity := by
  rw [teepSendHttpPost_eq, accepted.easyInit]
  rfl

/-- The body of the response fits the buffer and arrives whole, or the POST fails; how the body is cut into
chunks makes no difference, and nothing is written behind the buffer. -/
structure BodyWhole (transfer : Transfer) (sendBuffer : Buffer) (capacity : Nat) : Prop where
  bounded : ∀ handed, handed <+: transfer.chunks → (receivedSoFar capacity handed).length ≤ capacity
  uncut : ∀ chunks : List Bytes, chunks.flatten = transfer.chunks.flatten →
    teepSendHttpPost { transfer with chunks := chunks } sendBuffer capacity =
      teepSendHttpPost transfer sendBuffer capacity
  whole : (teepSendHttpPost transfer sendBuffer capacity).result = .ok →
    (teepSendHttpPost transfer sendBuffer capacity).received = transfer.chunks.flatten
  refused : capacity < transfer.chunks.flatten.length →
    (teepSendHttpPost transfer sendBuffer capacity).result ≠ .ok

/-- Bodies arrive whole or not at all exactly where no body that is too large comes with status 200 or 204. -/
theorem bodyWhole_iff (transfer : Transfer) (sendBuffer : Buffer) (capacity : Nat) :
    BodyWhole transfer sendBuffer capacity ↔
      ¬ (Accepted transfer ∧ capacity < transfer.chunks.flatten.length) := by
  constructor
  · intro bodyWhole tooLarge
    exact bodyWhole.refused tooLarge.2 ((teepSendHttpPost_ok transfer sendBuffer capacity).mpr tooLarge.1)
  · intro fits
    refine
      { bounded := ?_
        uncut := ?_
        whole := ?_
        refused := ?_ }
    · intro handed _
      rw [receivedSoFar_eq]
      exact List.length_take_le _ _
    · intro chunks same
      rw [teepSendHttpPost_eq, teepSendHttpPost_eq, same]
    · intro ok
      have accepted := (teepSendHttpPost_ok transfer sendBuffer capacity).mp ok
      have short : transfer.chunks.flatten.length ≤ capacity := by
        by_contra tooLarge
        exact fits ⟨accepted, Nat.not_le.mp tooLarge⟩
      rw [teepSendHttpPost_received accepted, List.take_of_length_le short]
    · intro tooLarge ok
      exact fits ⟨(teepSendHttpPost_ok transfer sendBuffer capacity).mp ok, tooLarge⟩

def oversized (size : Nat) : Transfer := ⟨true, [List.replicate size 0, [0]], true, some 200⟩

theorem oversized_length (size : Nat) : (oversized size).chunks.flatten.length = size + 1 := by
  simp [oversized]

/-- With the 20 MiB of `run_teep_session` the last byte is lost, and the POST returns 0. -/
theorem oversized_truncated :
    (teepSendHttpPost (oversized (1024 * 1024 * 20)) (.null 0) (1024 * 1024 * 20)).result = .ok ∧
      ¬ BodyWhole (oversized (1024 * 1024 * 20)) (.null 0) (1024 * 1024 * 20) := by
  have tooLarge : 1024 * 1024 * 20 < (oversized (1024 * 1024 * 20)).chunks.flatten.length := by
    rw [oversized_length]
    omega
  have ok : (teepSendHttpPost (oversized (1024 * 1024 * 20)) (.null 0) (1024 * 1024 * 20)).result = .ok :=
    (teepSendHttpPost_ok _ _ _).mpr ⟨rfl, rfl, .inl rfl⟩
  exact ⟨ok, fun bodyWhole => bodyWhole.refused tooLarge ok⟩

end Taws.App
