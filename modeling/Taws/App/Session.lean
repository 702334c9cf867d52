import Taws.App.Attester
import Taws.App.HttpClient
import Taws.Enclave.Agent

/-!
# The session driver

`run_teep_session` of `sgx_teep_session.cpp`: what the TAM answers to a POST is given to the enclave, and
what the enclave produces is the body of the next POST, until a body is empty or something fails.  A round
is what happens outside: the transfer that libcurl makes, and what the ECALL returns for what was received.

* `runTeepSession` — the loop, with the bodies it posts.
* `Continues`, `HttpFails`, `EcallFails`, `EmptyBody` — what a round can do to the session.
* `session_contract` — the bodies and the result of every session.
-/

namespace Taws.App

open Enclave (EcallProcessTeepResult)

def maxReceiveBufferSize : Nat := 1024 * 1024 * 20

structure EcallOutcome where
  sgxRet : SgxStatus
  ret : EcallProcessTeepResult
  /-- The front of `send_buf`, of the length in `*actual_len`. -/
  produced : Bytes
  deriving DecidableEq

structure Round where
  transfer : Transfer
  ecallProcessMessage : Bytes → EcallOutcome

/-- The local variables that live through the loop; `coseSend` is the memory behind `cose_send_buf.ptr`. -/
structure SessionState where
  coseSend : Bytes
  coseSendLen : Nat
  hasTeepErrorResponse : Bool
  inDeviceActivationFlow : Bool

/-- The result, `none` where the loop has not ended, and the bodies of the POSTs. -/
structure SessionOutcome where
  result : Option TeepSessionResult
  posts : List Bytes
  deriving DecidableEq

def sessionResult (state : SessionState) : TeepSessionResult :=
  if state.hasTeepErrorResponse then .teepErrorResponse
  else if state.inDeviceActivationFlow then .okDeviceActivated
  else .ok

/-- The end of an iteration: the ECALL has written the front of the send buffer, and nothing reads the rest. -/
def afterEcall (ecall : EcallOutcome) (state : SessionState) : SessionState where
  coseSend := ecall.produced ++ state.coseSend.drop ecall.produced.length
  coseSendLen := ecall.produced.length
  hasTeepErrorResponse := if ecall.ret = .responseIsTeepError then true else state.hasTeepErrorResponse
  inDeviceActivationFlow := if ecall.ret = .deviceActivationFlow then true else state.inDeviceActivationFlow

def sessionLoop : List Round → SessionState → SessionOutcome
  | [], _ => ⟨none, []⟩
  | round :: rounds, state =>
    let sendBuf := Buffer.bytes (state.coseSend.take state.coseSendLen)
    let post := teepSendHttpPost round.transfer sendBuf maxReceiveBufferSize
    if post.result ≠ .ok then ⟨some .httpError, post.posted.toList⟩
    else if post.received.length = 0 then ⟨some (sessionResult state), post.posted.toList⟩
    else
      let ecall := round.ecallProcessMessage post.received
      if ecall.sgxRet ≠ .success then ⟨some .fatal, post.posted.toList⟩
      else if ecall.ret = .fatal then ⟨some .fatal, post.posted.toList⟩
      else
        let later := sessionLoop rounds (afterEcall ecall state)
        { later with posts := post.posted.toList ++ later.posts }

/-- `coseSend` is what the send buffer holds before it is written to. -/
def runTeepSession (coseSend : Bytes) (rounds : List Round) : SessionOutcome :=
  sessionLoop rounds ⟨coseSend, 0, false, false⟩

/-! ## Rounds -/

namespace Round

/-- What the POST of the round returns; it does not depend on what is posted. -/
def post (round : Round) : PostOutcome := teepSendHttpPost round.transfer (.null 0) maxReceiveBufferSize

def ecall (round : Round) : EcallOutcome := round.ecallProcessMessage round.post.received

def HttpFails (round : Round) : Prop := round.post.result ≠ .ok

def EmptyBody (round : Round) : Prop := round.post.result = .ok ∧ round.post.received = []

def EcallFails (round : Round) : Prop :=
  round.post.result = .ok ∧ round.post.received ≠ [] ∧ (round.ecall.sgxRet ≠ .success ∨ round.ecall.ret = .fatal)

/-- The enclave has produced a message for the next POST. -/
structure Continues (round : Round) : Prop where
  ok : round.post.result = .ok
  body : round.post.received ≠ []
  returned : round.ecall.sgxRet = .success
  notFatal : round.ecall.ret ≠ .fatal

def posts (round : Round) (body : Bytes) : List Bytes := if round.transfer.easyInit then [body] else []

end Round

variable {round : Round} {rounds : List Round} {state : SessionState}

def SessionState.body (state : SessionState) : Bytes := state.coseSend.take state.coseSendLen

theorem post_result (round : Round) (sendBuffer : Buffer) :
    (teepSendHttpPost round.transfer sendBuffer maxReceiveBufferSize).result = round.post.result := by
  simp only [Round.post, teepSendHttpPost_eq]
  split <;> rfl

theorem post_received (round : Round) (sendBuffer : Buffer) :
    (teepSendHttpPost round.transfer sendBuffer maxReceiveBufferSize).received = round.post.received := by
  simp only [Round.post, teepSendHttpPost_eq]
  split <;> rfl

theorem post_posted (round : Round) (body : Bytes) :
    (teepSendHttpPost round.transfer (.bytes body) maxReceiveBufferSize).posted.toList = round.posts body := by
  rw [teepSendHttpPost_eq, Round.posts]
  cases round.transfer.easyInit with
  | false => rfl
  | true => cases body <;> rfl

theorem posts_of_ok (ok : round.post.result = .ok) (body : Bytes) : round.posts body = [body] := by
  have accepted := (teepSendHttpPost_ok round.transfer (.null 0) maxReceiveBufferSize).mp ok
  rw [Round.posts, accepted.easyInit]
  rfl

/-! ## One round -/

/-- A round ends the session, or leaves its message to the next one. -/
theorem sessionLoop_cases (round : Round) (rounds : List Round) (state : SessionState) :
    (∃ result, sessionLoop (round :: rounds) state = ⟨some result, round.posts state.body⟩ ∧
      (round.HttpFails ∧ result = .httpError ∨ round.EcallFails ∧ result = .fatal ∨
        round.EmptyBody ∧ result = sessionResult state)) ∨
    (round.Continues ∧ sessionLoop (round :: rounds) state =
      { sessionLoop rounds (afterEcall round.ecall state) with
        posts := state.body :: (sessionLoop rounds (afterEcall round.ecall state)).posts }) := by
  simp only [sessionLoop, post_result, post_received, post_posted]
  by_cases failed : round.post.result ≠ .ok
  · exact .inl ⟨.httpError, if_pos failed, .inl ⟨failed, rfl⟩⟩
  have ok : round.post.result = .ok := not_not.mp failed
  rw [if_neg failed]
  by_cases isEmpty : round.post.received = []
  · have noBytes : round.post.received.length = 0 := by rw [isEmpty]; rfl
    exact .inl ⟨sessionResult state, if_pos noBytes, .inr (.inr ⟨⟨ok, isEmpty⟩, rfl⟩)⟩
  have notEmpty : ¬ round.post.received.length = 0 := fun none => isEmpty (List.length_eq_zero_iff.mp none)
  rw [if_neg notEmpty]
  by_cases notReturned : round.ecall.sgxRet ≠ .success
  · exact .inl ⟨.fatal, if_pos notReturned, .inr (.inl ⟨⟨ok, isEmpty, .inl notReturned⟩, rfl⟩)⟩
  by_cases fatal : round.ecall.ret = .fatal
  · exact .inl ⟨.fatal, (if_neg notReturned).trans (if_pos fatal),
      .inr (.inl ⟨⟨ok, isEmpty, .inr fatal⟩, rfl⟩)⟩
  · rw [posts_of_ok ok]
    exact .inr ⟨⟨ok, isEmpty, not_not.mp notReturned, fatal⟩, (if_neg notReturned).trans (if_neg fatal)⟩

theorem not_continues (ended : round.HttpFails ∨ round.EcallFails ∨ round.EmptyBody) : ¬ round.Continues := by
  intro continues
  obtain failed | ⟨_, _, notReturned | fatal⟩ | isEmpty := ended
  · exact failed continues.ok
  · exact notReturned continues.returned
  · exact continues.notFatal fatal
  · exact continues.body isEmpty.2

/-! ## The whole session -/

@[simp] theorem afterEcall_body (ecall : EcallOutcome) (state : SessionState) :
    (afterEcall ecall state).body = ecall.produced := List.take_left

def stateAfter (completed : List Round) (state : SessionState) : SessionState :=
  completed.foldl (fun state round => afterEcall round.ecall state) state

/-- The flags are set by any round and never cleared. -/
theorem stateAfter_flags (completed : List Round) (state : SessionState) :
    (stateAfter completed state).hasTeepErrorResponse =
        (state.hasTeepErrorResponse || completed.any fun round => round.ecall.ret = .responseIsTeepError) ∧
      (stateAfter completed state).inDeviceActivationFlow =
        (state.inDeviceActivationFlow || completed.any fun round => round.ecall.ret = .deviceActivationFlow) := by
  induction completed generalizing state with
  | nil => simp [stateAfter]
  | cons round completed inductionHypothesis =>
    have later := inductionHypothesis (afterEcall round.ecall state)
    rw [stateAfter, List.foldl_cons, ← stateAfter, later.1, later.2]
    simp only [afterEcall, List.any_cons]
    by_cases isError : round.ecall.ret = .responseIsTeepError
    · simp [isError]
    · by_cases isActivation : round.ecall.ret = .deviceActivationFlow <;> simp [isError, isActivation]

def verdict (completed : List Round) : TeepSessionResult :=
  if completed.any fun round => round.ecall.ret = .responseIsTeepError then .teepErrorResponse
  else if completed.any fun round => round.ecall.ret = .deviceActivationFlow then .okDeviceActivated
  else .ok

/-- The session has gone through the completed rounds and ended in the last one. -/
structure EndsIn (completed : List Round) (last : Round) (state : SessionState) (outcome : SessionOutcome)
    (result : TeepSessionResult) : Prop where
  continued : ∀ round ∈ completed, round.Continues
  posts : outcome.posts = (state.body :: completed.map fun round => round.ecall.produced).take
    (completed.length + if last.transfer.easyInit then 1 else 0)
  ends : last.HttpFails ∧ result = .httpError ∨ last.EcallFails ∧ result = .fatal ∨
    last.EmptyBody ∧ result = sessionResult (stateAfter completed state)

theorem EndsIn.first {last : Round} {outcome : SessionOutcome} {result : TeepSessionResult}
    (posts : outcome.posts = last.posts state.body)
    (ends : last.HttpFails ∧ result = .httpError ∨ last.EcallFails ∧ result = .fatal ∨
      last.EmptyBody ∧ result = sessionResult state) : EndsIn [] last state outcome result where
  continued := nofun
  posts := by
    rw [posts, Round.posts]
    cases last.transfer.easyInit <;> rfl
  ends := ends

theorem EndsIn.cons {completed : List Round} {last : Round} {later : SessionOutcome} {result : TeepSessionResult}
    (continues : round.Continues) (ends : EndsIn completed last (afterEcall round.ecall state) later result) :
    EndsIn (round :: completed) last state { later with posts := state.body :: later.posts } result where
  continued := List.forall_mem_cons.mpr ⟨continues, ends.continued⟩
  posts := by
    have shift : (round :: completed).length + (if last.transfer.easyInit then 1 else 0) =
        completed.length + (if last.transfer.easyInit then 1 else 0) + 1 := by
      rw [List.length_cons]
      omega
    rw [shift, List.take_succ_cons, ends.posts, afterEcall_body, List.map_cons]
  ends := ends.ends

/-- By induction on the rounds: the body that the next round posts is what this one has produced. -/
theorem sessionLoop_ends (rounds : List Round) (state : SessionState) {result : TeepSessionResult}
    (ended : (sessionLoop rounds state).result = some result) :
    ∃ completed last later, rounds = completed ++ last :: later ∧
      EndsIn completed last state (sessionLoop rounds state) result := by
  induction rounds generalizing state with
  | nil => cases ended
  | cons round rounds inductionHypothesis =>
    obtain ⟨decided, outcome, ends⟩ | ⟨continues, outcome⟩ := sessionLoop_cases round rounds state
    · rw [outcome] at ended ⊢
      cases ended
      exact ⟨[], round, rounds, rfl, .first rfl ends⟩
    · rw [outcome] at ended ⊢
      obtain ⟨completed, last, later, rfl, ends⟩ := inductionHypothesis (afterEcall round.ecall state) ended
      exact ⟨round :: completed, last, later, rfl, ends.cons continues⟩

theorem sessionLoop_unfinished (rounds : List Round) (state : SessionState) :
    (sessionLoop rounds state).result = none ↔ ∀ round ∈ rounds, round.Continues := by
  induction rounds generalizing state with
  | nil => simp [sessionLoop]
  | cons round rounds inductionHypothesis =>
    rw [List.forall_mem_cons]
    obtain ⟨decided, outcome, ends⟩ | ⟨continues, outcome⟩ := sessionLoop_cases round rounds state
    · have stops : ¬ round.Continues := not_continues (ends.imp And.left (Or.imp And.left And.left))
      rw [outcome]
      exact ⟨nofun, fun all => absurd all.1 stops⟩
    · rw [outcome]
      exact (inductionHypothesis (afterEcall round.ecall state)).trans
        ⟨fun later => ⟨continues, later⟩, fun all => all.2⟩

/-- A session returns in the first round that does not continue.  It has posted an empty body and then, in
each round, what the ECALL of the preceding round has produced; an HTTP error and a failed ECALL decide the
result, and an empty body leaves it to what the rounds before have produced. -/
theorem session_contract (coseSend : Bytes) (rounds : List Round)
    (stops : ∃ round ∈ rounds, ¬ round.Continues) :
    ∃ completed last later result, rounds = completed ++ last :: later ∧
      (∀ round ∈ completed, round.Continues) ∧
      (runTeepSession coseSend rounds).result = some result ∧
      (runTeepSession coseSend rounds).posts =
        ([] :: completed.map fun round => round.ecall.produced).take
          (completed.length + if last.transfer.easyInit then 1 else 0) ∧
      (last.HttpFails ∧ result = .httpError ∨ last.EcallFails ∧ result = .fatal ∨
        last.EmptyBody ∧ result = verdict completed) := by
  obtain ⟨result, ended⟩ : ∃ result, (runTeepSession coseSend rounds).result = some result := by
    refine Option.ne_none_iff_exists'.mp fun unfinished => ?_
    obtain ⟨round, member, notContinues⟩ := stops
    exact notContinues ((sessionLoop_unfinished rounds _).mp unfinished round member)
  obtain ⟨completed, last, later, split, ends⟩ := sessionLoop_ends rounds ⟨coseSend, 0, false, false⟩ ended
  have flags := stateAfter_flags completed ⟨coseSend, 0, false, false⟩
  have judged : sessionResult (stateAfter completed ⟨coseSend, 0, false, false⟩) = verdict completed := by
    rw [sessionResult, flags.1, flags.2, verdict, Bool.false_or, Bool.false_or]
  refine ⟨completed, last, later, result, split, ends.continued, ended, ends.posts, ?_⟩
  rw [← judged]
  exact ends.ends

/-! ## A session of three rounds -/

def answered (body : Bytes) (ret : EcallProcessTeepResult) (produced : Bytes) : Round where
  transfer := ⟨true, [body], true, some 200⟩
  ecallProcessMessage := fun _ => ⟨.success, ret, produced⟩

def noContent : Round where
  transfer := ⟨true, [], true, some 204⟩
  ecallProcessMessage := fun _ => ⟨.success, .ok, []⟩

/-- A QueryResponse with evidence, then an Error, then status 204. -/
def activatedThenError : List Round :=
  [answered [1] .deviceActivationFlow [2, 3], answered [4] .responseIsTeepError [5], noContent]

theorem noContent_stops : ¬ noContent.Continues := fun continues => absurd continues.body (by decide +kernel)

theorem session_contract_error :
    ∃ completed last later result, activatedThenError = completed ++ last :: later ∧
      (∀ round ∈ completed, round.Continues) ∧
      (runTeepSession [0, 0, 0] activatedThenError).result = some result ∧
      (runTeepSession [0, 0, 0] activatedThenError).posts =
        ([] :: completed.map fun round => round.ecall.produced).take
          (completed.length + if last.transfer.easyInit then 1 else 0) ∧
      (last.HttpFails ∧ result = .httpError ∨ last.EcallFails ∧ result = .fatal ∨
        last.EmptyBody ∧ result = verdict completed) ∧
      result = .teepErrorResponse ∧
      (runTeepSession [0, 0, 0] activatedThenError).posts = [[], [2, 3], [5]] := by
  obtain ⟨completed, last, later, result, split, continued, ended, posts, decided⟩ :=
    session_contract [0, 0, 0] activatedThenError ⟨noContent, by simp [activatedThenError], noContent_stops⟩
  have isError : (runTeepSession [0, 0, 0] activatedThenError).result = some .teepErrorResponse := by decide +kernel
  exact ⟨completed, last, later, result, split, continued, ended, posts, decided,
    Option.some.inj (ended.symm.trans isError), by decide +kernel⟩

end Taws.App
