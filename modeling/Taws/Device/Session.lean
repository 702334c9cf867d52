import Taws.App.Session
import Taws.Enclave.Sent

/-!
# A session with its enclave

`run_teep_session` on top of `ecall_process_message`: each ECALL of the loop finds the enclave as the ones
before have left it, and what the enclave has signed is what the loop posts.

* `Exchange`, `rounds` — the iterations of the loop, with the enclave behind the ECALL.
* `ecalls` — the ECALLs that the session makes, as a run of the enclave.
* `session_truthful` — what is posted is what the enclave has signed, and the result of the session tells what
  that was.
-/

namespace Taws.Device

open App (SgxStatus TeepSessionResult EcallOutcome Transfer Round PostOutcome SessionOutcome SessionState
  teepSendHttpPost maxReceiveBufferSize runTeepSession)
open Enclave
open Teep

/-- `TEEP_SEND_BUFFER_SIZE`, which is `MAX_SEND_BUFFER_SIZE` of the host. -/
def teepSendBufferSize : Nat := 1024 * 64

/-- One iteration of the loop: the transfer, the status of the ECALL, and what the libraries do in it.  Where
the status is not `SGX_SUCCESS` the enclave has not been entered. -/
structure Exchange where
  transfer : Transfer
  sgxRet : SgxStatus
  env : MessageEnv

namespace Exchange

def post (exchange : Exchange) : PostOutcome :=
  teepSendHttpPost exchange.transfer (.null 0) maxReceiveBufferSize

def args (appName : CString) (exchange : Exchange) : MessageArgs :=
  ⟨exchange.post.received, some appName, teepSendBufferSize⟩

def action (appName : CString) (exchange : Exchange) : EnclaveAction :=
  .processMessage exchange.env (exchange.args appName)

/-- The ECALL is made and reaches the enclave. -/
def Enters (exchange : Exchange) : Prop :=
  exchange.post.result = .ok ∧ exchange.post.received ≠ [] ∧ exchange.sgxRet = .success

instance (exchange : Exchange) : Decidable exchange.Enters := inferInstanceAs (Decidable (_ ∧ _ ∧ _))

end Exchange

/-- What the host finds when the ECALL returns. -/
def ecallOutcome (sgxRet : SgxStatus) (outcome : MessageOutcome) : EcallOutcome :=
  if sgxRet = .success then ⟨sgxRet, outcome.result, (signedIn outcome.events).getLastD []⟩
  -- `ret` is as the loop has initialised it
  else ⟨sgxRet, .ok, []⟩

variable (lib : Libraries) (appName : CString)

/-- The enclave after the ECALL of the exchange. -/
def after (enclave : EnclaveState) (exchange : Exchange) : EnclaveState :=
  if exchange.Enters then ((enclaveMachine lib).step enclave (exchange.action appName)).1 else enclave

def rounds : List Exchange → EnclaveState → List Round
  | [], _ => []
  | exchange :: exchanges, enclave =>
    { transfer := exchange.transfer
      ecallProcessMessage := fun received =>
        ecallOutcome exchange.sgxRet
          (ecallProcessMessage lib exchange.env ⟨received, some appName, teepSendBufferSize⟩ enclave) } ::
      rounds exchanges (after lib appName enclave exchange)

/-- The session of a host with the enclave. -/
def session (coseSend : Bytes) (exchanges : List Exchange) (enclave : EnclaveState) : SessionOutcome :=
  runTeepSession coseSend (rounds lib appName exchanges enclave)

/-- The ECALLs of the session, up to the first that the loop does not go on after. -/
def ecalls : List Exchange → EnclaveState → List EnclaveAction
  | [], _ => []
  | exchange :: exchanges, enclave =>
    if exchange.Enters then
      exchange.action appName ::
        if (ecallProcessMessage lib exchange.env (exchange.args appName) enclave).result = .fatal then []
        else ecalls exchanges (after lib appName enclave exchange)
    else []

/-! ## What the enclave answers -/

/-- The exchanges have all been answered, with these messages and their signed forms. -/
inductive Answers : EnclaveState → List Exchange → List (TeepMessage × Bytes) → Prop where
  | nil {enclave : EnclaveState} : Answers enclave [] []
  | cons {enclave : EnclaveState} {exchange : Exchange} {exchanges : List Exchange} {message : TeepMessage}
      {cose : Bytes} {sent : List (TeepMessage × Bytes)} (enters : exchange.Enters)
      (sends : Sends lib exchange.env (exchange.args appName) enclave message cose)
      (later : Answers (after lib appName enclave exchange) exchanges sent) :
    Answers enclave (exchange :: exchanges) ((message, cose) :: sent)

/-- How the last exchange ends the session. -/
inductive Ends (enclave : EnclaveState) (last : Exchange) (sent : List TeepMessage) : TeepSessionResult → Prop where
  | httpError (failed : last.post.result ≠ .ok) : Ends enclave last sent .httpError
  | notEntered (ok : last.post.result = .ok) (body : last.post.received ≠ []) (lost : last.sgxRet ≠ .success) :
    Ends enclave last sent .fatal
  | refused (enters : last.Enters)
      (fatal : (ecallProcessMessage lib last.env (last.args appName) enclave).result = .fatal) :
    Ends enclave last sent .fatal
  | error (ok : last.post.result = .ok) (noBody : last.post.received = []) (reported : ∃ error, .error error ∈ sent) :
    Ends enclave last sent .teepErrorResponse
  | activated (ok : last.post.result = .ok) (noBody : last.post.received = [])
      (noError : ∀ error, .error error ∉ sent)
      (evidence : ∃ response, .queryResponse response ∈ sent ∧ .attestationPayload ∈ response.contains) :
    Ends enclave last sent .okDeviceActivated
  | ok (ok : last.post.result = .ok) (noBody : last.post.received = []) (noError : ∀ error, .error error ∉ sent)
      (noEvidence : ∀ response, .queryResponse response ∈ sent → .attestationPayload ∉ response.contains) :
    Ends enclave last sent .ok

variable {lib : Libraries} {appName : CString} {enclave : EnclaveState} {exchanges : List Exchange}

/-! ## Rounds of the loop -/

/-- The round of an exchange that finds the enclave in the given state. -/
def roundOf (lib : Libraries) (appName : CString) (enclave : EnclaveState) (exchange : Exchange) : Round where
  transfer := exchange.transfer
  ecallProcessMessage := fun received =>
    ecallOutcome exchange.sgxRet
      (ecallProcessMessage lib exchange.env ⟨received, some appName, teepSendBufferSize⟩ enclave)

theorem roundOf_ecall (enclave : EnclaveState) (exchange : Exchange) :
    (roundOf lib appName enclave exchange).ecall = ecallOutcome exchange.sgxRet
      (ecallProcessMessage lib exchange.env (exchange.args appName) enclave) := rfl

theorem rounds_cons (exchange : Exchange) (exchanges : List Exchange) (enclave : EnclaveState) :
    rounds lib appName (exchange :: exchanges) enclave =
      roundOf lib appName enclave exchange :: rounds lib appName exchanges (after lib appName enclave exchange) := rfl

theorem rounds_split {completed : List Round} {last : Round} {later : List Round}
    (split : rounds lib appName exchanges enclave = completed ++ last :: later) :
    ∃ before exchange rest, exchanges = before ++ exchange :: rest ∧
      completed = rounds lib appName before enclave ∧
      last = roundOf lib appName (before.foldl (after lib appName) enclave) exchange := by
  induction exchanges generalizing completed enclave with
  | nil => simp [rounds] at split
  | cons exchange exchanges inductionHypothesis =>
    rw [rounds_cons] at split
    cases completed with
    | nil =>
      obtain ⟨same, _⟩ := List.cons.inj split
      exact ⟨[], exchange, exchanges, rfl, rfl, same.symm⟩
    | cons round completed =>
      obtain ⟨rfl, rest⟩ := List.cons.inj split
      obtain ⟨before, found, others, rfl, rfl, rfl⟩ := inductionHypothesis rest
      exact ⟨exchange :: before, found, others, rfl, rfl, rfl⟩

/-- A round that continues has been answered by the enclave. -/
theorem continues_sends {exchange : Exchange} (continues : (roundOf lib appName enclave exchange).Continues) :
    exchange.Enters ∧ ∃ message cose, Sends lib exchange.env (exchange.args appName) enclave message cose ∧
      (roundOf lib appName enclave exchange).ecall = ⟨.success, resultOf message, cose⟩ := by
  have returned : exchange.sgxRet = .success := by
    have success := continues.returned
    rw [roundOf_ecall, ecallOutcome] at success
    split at success
    · next returned => exact returned
    · exact success
  have ecall := @roundOf_ecall lib appName enclave exchange
  rw [ecallOutcome, if_pos returned, returned] at ecall
  refine ⟨⟨continues.ok, continues.body, returned⟩, ?_⟩
  cases ecallProcessMessage_sends lib exchange.env (exchange.args appName) enclave with
  | inl failed =>
    have notFatal := continues.notFatal
    rw [ecall] at notFatal
    exact absurd failed.1 notFatal
  | inr sent =>
    obtain ⟨message, cose, sends⟩ := sent
    exact ⟨message, cose, sends, by rw [ecall, sends.result, sends.signed]; rfl⟩

theorem answers_of_continues (continued : ∀ round ∈ rounds lib appName exchanges enclave, round.Continues) :
    ∃ sent, Answers lib appName enclave exchanges sent ∧
      (rounds lib appName exchanges enclave).map Round.ecall =
        sent.map fun answer => ⟨.success, resultOf answer.1, answer.2⟩ := by
  induction exchanges generalizing enclave with
  | nil => exact ⟨[], .nil, rfl⟩
  | cons exchange exchanges inductionHypothesis =>
    rw [rounds_cons, List.forall_mem_cons] at continued
    obtain ⟨first, rest⟩ := continued
    obtain ⟨enters, message, cose, sends, ecall⟩ := continues_sends first
    obtain ⟨sent, answers, ecalls⟩ := inductionHypothesis rest
    refine ⟨(message, cose) :: sent, .cons enters sends answers, ?_⟩
    rw [rounds_cons, List.map_cons, List.map_cons, ecall, ecalls]

/-! ## The run of the enclave -/

theorem Answers.length {sent : List (TeepMessage × Bytes)} (answers : Answers lib appName enclave exchanges sent) :
    sent.length = exchanges.length := by
  induction answers with
  | nil => rfl
  | cons enters sends later inductionHypothesis => simp [inductionHypothesis]

theorem Answers.enters {sent : List (TeepMessage × Bytes)} (answers : Answers lib appName enclave exchanges sent) :
    ∀ exchange ∈ exchanges, exchange.Enters := by
  induction answers with
  | nil => simp
  | cons enters sends later inductionHypothesis => exact List.forall_mem_cons.mpr ⟨enters, inductionHypothesis⟩

/-- A session comes to an end if a transfer, the TAM or SGX ends it. -/
theorem session_ends (stops : ∃ exchange ∈ exchanges, ¬ exchange.Enters) (coseSend : Bytes) :
    (session lib appName coseSend exchanges enclave).result ≠ none := by
  intro unfinished
  obtain ⟨sent, answers, _⟩ := answers_of_continues ((App.sessionLoop_unfinished _ _).mp unfinished)
  obtain ⟨exchange, member, notEntered⟩ := stops
  exact notEntered (answers.enters exchange member)

/-- The exchanges take the enclave through one call each, and what it signs in them is what is sent. -/
theorem Answers.run {sent : List (TeepMessage × Bytes)} (answers : Answers lib appName enclave exchanges sent) :
    ((enclaveMachine lib).run enclave (exchanges.map (Exchange.action appName))).1 =
        exchanges.foldl (after lib appName) enclave ∧
      signedIn ((enclaveMachine lib).run enclave (exchanges.map (Exchange.action appName))).2 =
        sent.map Prod.snd := by
  induction answers with
  | nil => exact ⟨rfl, rfl⟩
  | @cons enclave exchange exchanges message cose sent enters sends later inductionHypothesis =>
    have next : ((enclaveMachine lib).step enclave (exchange.action appName)).1 =
        after lib appName enclave exchange := (if_pos enters).symm
    rw [List.map_cons, Machine.run_cons, next]
    refine ⟨inductionHypothesis.1, ?_⟩
    rw [signedIn_append, inductionHypothesis.2]
    exact congrArg (· ++ sent.map Prod.snd) sends.signed

theorem Answers.ecalls {sent : List (TeepMessage × Bytes)} (answers : Answers lib appName enclave exchanges sent)
    (rest : List Exchange) :
    ecalls lib appName (exchanges ++ rest) enclave = exchanges.map (Exchange.action appName) ++
      ecalls lib appName rest (exchanges.foldl (after lib appName) enclave) := by
  induction answers with
  | nil => rfl
  | @cons enclave exchange exchanges message cose sent enters sends later inductionHypothesis =>
    rw [List.cons_append, Device.ecalls, if_pos enters, if_neg sends.not_fatal, inductionHypothesis]
    rfl

/-- An exchange that ends the session signs nothing. -/
theorem ending_unsigned {last : Exchange} {later : List Exchange}
    (ended : ¬ (roundOf lib appName enclave last).Continues) :
    signedIn ((enclaveMachine lib).run enclave (ecalls lib appName (last :: later) enclave)).2 = [] := by
  rw [Device.ecalls]
  split
  · next enters =>
    cases ecallProcessMessage_sends lib last.env (last.args appName) enclave with
    | inl failed =>
      rw [if_pos failed.1, Machine.run_cons, Machine.run_nil, List.append_nil]
      exact failed.2
    | inr sent =>
      obtain ⟨message, cose, sends⟩ := sent
      refine absurd ⟨enters.1, enters.2.1, ?_, ?_⟩ ended
      · rw [roundOf_ecall, ecallOutcome, if_pos enters.2.2]
        exact enters.2.2
      · rw [roundOf_ecall, ecallOutcome, if_pos enters.2.2]
        exact sends.not_fatal
  · rfl

/-! ## The result -/

theorem resultOf_eq_error (message : TeepMessage) :
    resultOf message = .responseIsTeepError ↔ ∃ error, message = .error error := by
  cases message with
  | error error => simp [resultOf]
  | queryResponse response =>
    simp only [resultOf]
    split <;> simp
  | success success => simp [resultOf]
  | other => simp [resultOf]

/-- The flags of the loop say what has been sent. -/
theorem verdict_ends {completed : List Round} {last : Exchange} {sent : List (TeepMessage × Bytes)}
    (ok : last.post.result = .ok) (noBody : last.post.received = [])
    (ecalls : completed.map Round.ecall = sent.map fun answer => ⟨.success, resultOf answer.1, answer.2⟩) :
    Ends lib appName enclave last (sent.map Prod.fst) (App.verdict completed) := by
  have any : ∀ result, (completed.any fun round => round.ecall.ret = result) =
      (sent.map Prod.fst).any fun message => resultOf message = result := by
    intro result
    have mapped : (completed.any fun round => round.ecall.ret = result) =
        (completed.map Round.ecall).any fun ecall => ecall.ret = result := by rw [List.any_map]; rfl
    rw [mapped, ecalls, List.any_map, List.any_map]
    rfl
  have isActivation : ∀ message, resultOf message = .deviceActivationFlow ↔
      ∃ response, message = .queryResponse response ∧ .attestationPayload ∈ response.contains := by
    intro message
    cases message with
    | error error => simp [resultOf]
    | queryResponse response => simp [resultOf]
    | success success => simp [resultOf]
    | other => simp [resultOf]
  unfold App.verdict
  rw [any, any]
  split
  · next reported =>
    obtain ⟨message, member, same⟩ := List.any_eq_true.mp reported
    obtain ⟨error, rfl⟩ := (resultOf_eq_error message).mp (of_decide_eq_true same)
    exact .error ok noBody ⟨error, member⟩
  next silent =>
  have noError : ∀ error, .error error ∉ sent.map Prod.fst := fun error member =>
    silent (List.any_eq_true.mpr ⟨_, member, decide_eq_true ((resultOf_eq_error _).mpr ⟨error, rfl⟩)⟩)
  split
  · next attested =>
    obtain ⟨message, member, same⟩ := List.any_eq_true.mp attested
    obtain ⟨response, rfl, evidence⟩ := (isActivation message).mp (of_decide_eq_true same)
    exact .activated ok noBody noError ⟨response, member, evidence⟩
  · next unattested =>
    refine .ok ok noBody noError ?_
    intro response member evidence
    exact unattested (List.any_eq_true.mpr
      ⟨_, member, decide_eq_true ((isActivation _).mpr ⟨response, rfl, evidence⟩)⟩)

/-- A session that has ended: what has been answered before its last exchange. -/
theorem session_parts {coseSend : Bytes} {result : TeepSessionResult}
    (ended : (session lib appName coseSend exchanges enclave).result = some result) :
    ∃ completed last later sent, exchanges = completed ++ last :: later ∧
      Answers lib appName enclave completed sent ∧
      (rounds lib appName completed enclave).map Round.ecall =
        sent.map (fun answer => ⟨.success, resultOf answer.1, answer.2⟩) ∧
      App.EndsIn (rounds lib appName completed enclave)
        (roundOf lib appName (completed.foldl (after lib appName) enclave) last) ⟨coseSend, 0, false, false⟩
        (session lib appName coseSend exchanges enclave) result := by
  obtain ⟨rounds, last, later, split, ends⟩ := App.sessionLoop_ends _ ⟨coseSend, 0, false, false⟩ ended
  obtain ⟨completed, exchange, rest, rfl, rfl, rfl⟩ := rounds_split split
  obtain ⟨sent, answers, produced⟩ := answers_of_continues ends.continued
  exact ⟨completed, exchange, rest, sent, rfl, answers, produced, ends⟩

/-- What the last exchange has made of the session. -/
theorem ends_of_endsIn {coseSend : Bytes} {completed : List Exchange} {last : Exchange}
    {sent : List (TeepMessage × Bytes)} {outcome : SessionOutcome} {result : TeepSessionResult}
    (produced : (rounds lib appName completed enclave).map Round.ecall =
      sent.map fun answer => ⟨.success, resultOf answer.1, answer.2⟩)
    (ends : App.EndsIn (rounds lib appName completed enclave)
      (roundOf lib appName (completed.foldl (after lib appName) enclave) last) ⟨coseSend, 0, false, false⟩ outcome
      result) :
    Ends lib appName (completed.foldl (after lib appName) enclave) last (sent.map Prod.fst) result := by
  obtain ⟨failed, rfl⟩ | ⟨⟨ok, body, notReturned⟩, rfl⟩ | ⟨⟨ok, noBody⟩, rfl⟩ := ends.ends
  · exact .httpError failed
  · by_cases returned : last.sgxRet = .success
    · refine .refused ⟨ok, body, returned⟩ ?_
      rw [roundOf_ecall, ecallOutcome, if_pos returned] at notReturned
      exact notReturned.resolve_left (not_not.mpr returned)
    · exact .notEntered ok body returned
  · have flags := App.stateAfter_flags (rounds lib appName completed enclave) ⟨coseSend, 0, false, false⟩
    have judged : App.sessionResult
        (App.stateAfter (rounds lib appName completed enclave) ⟨coseSend, 0, false, false⟩) =
        App.verdict (rounds lib appName completed enclave) := by
      rw [App.sessionResult, flags.1, flags.2, App.verdict, Bool.false_or, Bool.false_or]
    rw [judged]
    exact verdict_ends ok noBody produced

/-- A session that ends well has not sent an Error, and enters the enclave for the exchanges that are answered. -/
theorem session_accepted {coseSend : Bytes} {result : TeepSessionResult}
    (ended : (session lib appName coseSend exchanges enclave).result = some result)
    (accepted : result = .ok ∨ result = .okDeviceActivated) :
    ∃ completed sent, Answers lib appName enclave completed sent ∧
      (∀ error, .error error ∉ sent.map Prod.fst) ∧
      Device.ecalls lib appName exchanges enclave = completed.map (Exchange.action appName) := by
  obtain ⟨completed, last, later, sent, rfl, answers, produced, ends⟩ := session_parts ended
  refine ⟨completed, sent, answers, ?_⟩
  -- the last exchange has brought an empty body
  have unentered : ∀ (noBody : last.post.received = []), Device.ecalls lib appName (completed ++ last :: later) enclave =
      completed.map (Exchange.action appName) := by
    intro noBody
    rw [answers.ecalls, Device.ecalls, if_neg fun enters => enters.2.1 noBody, List.append_nil]
  cases ends_of_endsIn produced ends with
  | httpError failed => simp at accepted
  | notEntered ok body lost => simp at accepted
  | refused enters fatal => simp at accepted
  | error ok noBody reported => simp at accepted
  | activated ok noBody noError evidence => exact ⟨noError, unentered noBody⟩
  | ok ok noBody noError noEvidence => exact ⟨noError, unentered noBody⟩

/-- Whatever a session meets: the host posts an empty body and then, in order, the messages that the enclave has
signed; all of them, unless the last POST could not be made.  The result is an error response exactly when one of
them is an Error, and an activation when none is and a QueryResponse carries evidence. -/
theorem session_truthful (lib : Libraries) (appName : CString) (coseSend : Bytes) (exchanges : List Exchange)
    (enclave : EnclaveState) {result : TeepSessionResult}
    (ended : (session lib appName coseSend exchanges enclave).result = some result) :
    ∃ completed last later sent, exchanges = completed ++ last :: later ∧
      Answers lib appName enclave completed sent ∧
      Ends lib appName ((enclaveMachine lib).run enclave (completed.map (Exchange.action appName))).1 last
        (sent.map Prod.fst) result ∧
      (session lib appName coseSend exchanges enclave).posts =
        ([] :: sent.map Prod.snd).take (completed.length + if last.transfer.easyInit then 1 else 0) ∧
      signedIn ((enclaveMachine lib).run enclave (ecalls lib appName exchanges enclave)).2 =
        sent.map Prod.snd := by
  obtain ⟨completed, exchange, rest, sent, rfl, answers, produced, ends⟩ := session_parts ended
  have stops : ¬ (roundOf lib appName (completed.foldl (after lib appName) enclave) exchange).Continues :=
    App.not_continues (ends.ends.imp And.left (Or.imp And.left And.left))
  have sameLength : (Device.rounds lib appName completed enclave).length = completed.length := by
    rw [← answers.length, ← List.length_map (f := Round.ecall), produced, List.length_map]
  refine ⟨completed, exchange, rest, sent, rfl, answers, ?_, ?_, ?_⟩
  · rw [answers.run.1]
    exact ends_of_endsIn produced ends
  · have posts := ends.posts
    rw [sameLength] at posts
    have bodies : ((Device.rounds lib appName completed enclave).map fun round => round.ecall.produced) =
        sent.map Prod.snd := by
      have mapped := congrArg (List.map EcallOutcome.produced) produced
      rw [List.map_map, List.map_map] at mapped
      exact mapped
    rw [bodies] at posts
    exact posts
  · rw [answers.ecalls, Machine.run_append, signedIn_append, answers.run.1, answers.run.2,
      ending_unsigned stops, List.append_nil]

/-- A request and then status 204, with an enclave whose libraries work. -/
def firstSession : List Exchange :=
  [⟨⟨true, [[1]], true, some 200⟩, .success, firstRequest⟩, ⟨⟨true, [], true, some 204⟩, .success, firstRequest⟩]

theorem session_truthful_first :
    ∃ (completed : List Exchange) (last : Exchange) (later : List Exchange) (sent : List (TeepMessage × Bytes)),
      firstSession = completed ++ last :: later ∧
      Ends smallLibraries [97]
        ((enclaveMachine smallLibraries).run freshState (completed.map (Exchange.action [97]))).1 last
        (sent.map Prod.fst) .ok ∧
      (session smallLibraries [97] [] firstSession freshState).posts =
        ([] :: sent.map Prod.snd).take (completed.length + if last.transfer.easyInit then 1 else 0) ∧
      (session smallLibraries [97] [] firstSession freshState).posts = [[], Cbor.encode (.array [.unsigned 2])] := by
  have ended : (session smallLibraries [97] [] firstSession freshState).result = some .ok := by decide +kernel
  obtain ⟨completed, last, later, sent, split, _, ends, posts, _⟩ :=
    session_truthful smallLibraries [97] [] firstSession freshState ended
  exact ⟨completed, last, later, sent, split, ends, posts, by decide +kernel⟩

end Taws.Device
