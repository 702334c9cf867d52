import Taws.Device.Session
import Taws.Enclave.Catalogue

/-!
# What an installation leaves

A session that ends well has delivered whatever it was given to deliver.

* `Answers.whole` — an enclave that has sent no Error has not interrupted a batch.
* `session_whole` — so a session that ends well has delivered each of its batches whole.
-/

namespace Taws.Device

open App (TeepSessionResult)
open Enclave
open TcManager
open Teep

variable {lib : Libraries} {appName : CString} {exchanges : List Exchange}

theorem shown_whole (message : TeepMessage) (entries : List Manifest) : shown message ≠ .interrupted entries := by
  unfold shown
  split
  · split <;> simp
  · simp

/-- An Update is answered with a Success or with an Error. -/
theorem processUpdate_answer (lib : Libraries) (manifests : Nat → ManifestEnv) (update : TeepUpdate)
    (state : Suit.SuitState) :
    (processUpdate lib manifests update state).message.isSuccess = true ∨
      ∃ error, (processUpdate lib manifests update state).message = .error error := by
  unfold processUpdate
  split
  · exact .inr ⟨_, rfl⟩
  split
  · exact .inr ⟨_, rfl⟩
  split
  · exact .inr ⟨_, rfl⟩
  · exact .inl rfl

/-- The result of a call for an expected Update is that of its answer, if it can be sent. -/
theorem update_result {env : MessageEnv} {args : MessageArgs} {enclave : EnclaveState} {update : TeepUpdate}
    (received : Received env args enclave (.update update)) (expected : enclave.agentStatus ≠ .waitingQueryRequest) :
    (ecallProcessMessage lib env args enclave).result =
      (encodeAndSign env args (updated lib env update enclave).message).1 := by
  rw [ecallProcessMessage, if_neg (not_not.mpr received.1), received.2]
  simp only [handleMessage, handleUpdate_eq update expected]
  rfl

/-- A batch is not interrupted where the call neither fails nor sends an Error. -/
theorem observeMessage_whole {env : MessageEnv} {args : MessageArgs} {enclave : EnclaveState} {message : TeepMessage}
    {cose : Bytes} (sends : Sends lib env args enclave message cose) (noError : ∀ error, message ≠ .error error)
    (entries : List Manifest) : observeMessage lib env args enclave ≠ .interrupted entries := by
  simp only [observeMessage]
  split
  · simp
  next ready =>
  split
  · exact shown_whole _ _
  · next update received =>
    simp only [observeUpdate]
    split
    · exact shown_whole _ _
    next expected =>
    split
    · simp
    next failed =>
    -- the Error that it is answered with would have been sent
    obtain ⟨error, isError⟩ := (processUpdate_answer lib env.manifests update enclave.suit).resolve_left failed
    have result := @update_result lib _ _ _ _ ⟨not_not.mp ready, received⟩ expected
    rw [updated, isError] at result
    cases encodeAndSign_sent env args (.error error) with
    | inl unsent => exact absurd (result.trans unsent.1) sends.not_fatal
    | inr sent =>
      obtain ⟨cbor, signed, _, _, same⟩ := sent
      rw [sends.result, same] at result
      obtain ⟨error, rfl⟩ := (resultOf_eq_error message).mp result
      exact absurd rfl (noError error)
  · simp

/-- An enclave that has sent no Error has not interrupted a batch. -/
theorem Answers.whole {enclave : EnclaveState} {sent : List (TeepMessage × Bytes)}
    (answers : Answers lib appName enclave exchanges sent) (noError : ∀ error, .error error ∉ sent.map Prod.fst)
    {state : CatalogueState} (same : state.enclave = enclave) (entries : List Manifest) :
    .interrupted entries ∉
      (catalogueMachine lib).observed (observe lib) state (exchanges.map (Exchange.action appName)) := by
  induction answers generalizing state with
  | nil => simp [Machine.observed]
  | @cons enclave exchange exchanges message cose sent enters sends later inductionHypothesis =>
    subst same
    simp only [List.map_cons, List.mem_cons, not_or] at noError
    have next : ((catalogueMachine lib).step state (exchange.action appName)).1.enclave =
        after lib appName state.enclave exchange := (if_pos enters).symm
    rw [List.map_cons, Machine.observed, List.mem_cons, not_or]
    refine ⟨?_, inductionHypothesis (fun error => (noError error).2) next⟩
    intro interrupted
    exact observeMessage_whole sends (fun error isError => (noError error).1 isError.symm) entries interrupted.symm

/-- A session that ends well has delivered each of its batches whole. -/
theorem session_whole {coseSend : Bytes} {state : CatalogueState} {result : TeepSessionResult}
    (ended : (session lib appName coseSend exchanges state.enclave).result = some result)
    (accepted : result = .ok ∨ result = .okDeviceActivated) (entries : List Manifest) :
    .interrupted entries ∉
      (catalogueMachine lib).observed (observe lib) state (ecalls lib appName exchanges state.enclave) := by
  obtain ⟨completed, sent, answers, noError, entered⟩ := session_accepted ended accepted
  rw [entered]
  exact answers.whole noError rfl entries

end Taws.Device
