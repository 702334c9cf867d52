import Taws.Enclave.Order

/-!
# What a call sends

A call of `ecall_process_message` that is not fatal has signed exactly one message, and its result tells the
type of that message; a fatal call has signed nothing.

* `signedIn` — the signed messages of a trace.
* `Sends` — what a call has sent.
* `ecallProcessMessage_sends`, `ecallProcessMessage_fatal`
-/

namespace Taws.Enclave

open Teep

def signedIn (events : List Event) : List Bytes :=
  events.filterMap fun event =>
    match event with
    | .signed cose => some cose
    | _ => none

@[simp] theorem signedIn_append (first second : List Event) :
    signedIn (first ++ second) = signedIn first ++ signedIn second := List.filterMap_append

theorem signedIn_within {kinds : List EventKind} {events : List Event} (within : Within kinds events)
    (other : .message ∉ kinds) : signedIn events = [] := by
  rw [signedIn, List.filterMap_eq_nil_iff]
  intro event member
  cases event with
  | signed cose => exact absurd (within _ member) other
  | _ => rfl

/-- The call encodes and signs the message, and nothing else. -/
structure Sends (lib : Libraries) (env : MessageEnv) (args : MessageArgs) (state : EnclaveState)
    (message : TeepMessage) (cose : Bytes) : Prop where
  chosen : .built message ∈ (ecallProcessMessage lib env args state).events ∨
    EarlyUpdate env args state ∧ message = env.leftover
  encoded : ∃ cbor, env.encodeMessage message = some cbor ∧ env.signSign1 cbor args.allocatedLen = some cose
  signed : signedIn (ecallProcessMessage lib env args state).events = [cose]
  result : (ecallProcessMessage lib env args state).result = resultOf message

variable {lib : Libraries} {env : MessageEnv} {args : MessageArgs} {state : EnclaveState}

theorem signedIn_freeTcList (message : TeepMessage) : signedIn (freeTcList message) = [] :=
  signedIn_within (freeTcList_within message) (by simp)

theorem encodeAndSign_sent (env : MessageEnv) (args : MessageArgs) (message : TeepMessage) :
    ((encodeAndSign env args message).1 = .fatal ∧ signedIn (encodeAndSign env args message).2 = []) ∨
    ∃ cbor cose, env.encodeMessage message = some cbor ∧ env.signSign1 cbor args.allocatedLen = some cose ∧
      encodeAndSign env args message = (resultOf message, .encoded cbor :: .signed cose :: freeTcList message) := by
  unfold encodeAndSign
  cases encoding : env.encodeMessage message with
  | none => exact .inl ⟨rfl, signedIn_freeTcList message⟩
  | some cbor =>
    cases signing : env.signSign1 cbor args.allocatedLen with
    | none =>
      refine .inl ⟨by simp [signing], ?_⟩
      simp only [signing]
      exact signedIn_freeTcList message
    | some cose => exact .inr ⟨cbor, cose, rfl, signing, by simp [signing]⟩

/-- Sending a message after events that sign nothing. -/
theorem sendMessage_sent {earlier : List Event} (unsigned : signedIn earlier = []) (message : TeepMessage)
    (state : EnclaveState) :
    let outcome := (sendMessage env args message state).after earlier
    (outcome.result = .fatal ∧ signedIn outcome.events = []) ∨
    ∃ cbor cose, env.encodeMessage message = some cbor ∧ env.signSign1 cbor args.allocatedLen = some cose ∧
      signedIn outcome.events = [cose] ∧ outcome.result = resultOf message := by
  intro outcome
  have events : outcome.events = earlier ++ (encodeAndSign env args message).2 := rfl
  have result : outcome.result = (encodeAndSign env args message).1 := rfl
  rw [events, result, signedIn_append, unsigned, List.nil_append]
  cases encodeAndSign_sent env args message with
  | inl failed => exact .inl failed
  | inr sent =>
    obtain ⟨cbor, cose, encoding, signing, same⟩ := sent
    refine .inr ⟨cbor, cose, encoding, signing, ?_, by rw [same]⟩
    rw [same]
    exact congrArg (List.cons cose) (signedIn_freeTcList message)

/-- Each call is fatal and signs nothing, or it sends one message. -/
theorem ecallProcessMessage_sends (lib : Libraries) (env : MessageEnv) (args : MessageArgs)
    (state : EnclaveState) :
    ((ecallProcessMessage lib env args state).result = .fatal ∧
      signedIn (ecallProcessMessage lib env args state).events = []) ∨
    ∃ message cose, Sends lib env args state message cose := by
  have exit := ecallProcessMessage_exit lib env args state
  generalize same : ecallProcessMessage lib env args state = outcome at exit
  cases exit with
  | refused nothing => exact .inl ⟨rfl, rfl⟩
  | early received waiting =>
    have early : EarlyUpdate env args state := ⟨⟨_, received⟩, waiting⟩
    cases @sendMessage_sent env args [] rfl env.leftover state with
    | inl failed => exact .inl failed
    | inr sent =>
      obtain ⟨cbor, cose, encoding, signing, signed, result⟩ := sent
      exact .inr ⟨env.leftover, cose, .inr ⟨early, rfl⟩, ⟨cbor, encoding, signing⟩,
        by rw [same]; exact signed, by rw [same]; exact result⟩
  | @query request received =>
    have unsigned : signedIn ((queried lib env args request state).2 ++
        [.built (queried lib env args request state).1]) = [] := by
      rw [signedIn_append, signedIn_within (queried_within lib env args request state) (by simp)]
      rfl
    cases sendMessage_sent unsigned (queried lib env args request state).1 state with
    | inl failed => exact .inl failed
    | inr sent =>
      obtain ⟨cbor, cose, encoding, signing, signed, result⟩ := sent
      refine .inr ⟨_, cose, .inl ?_, ⟨cbor, encoding, signing⟩, by rw [same]; exact signed,
        by rw [same]; exact result⟩
      rw [same]
      simp [MessageOutcome.after]
  | @update update received expected =>
    have unsigned : signedIn (.updateEntered :: (updated lib env update state).events ++
        [.built (updated lib env update state).message]) = [] := by
      have inside := signedIn_within (updated_within lib env update state) (by simp)
      rw [signedIn_append, List.append_eq_nil_iff]
      exact ⟨inside, rfl⟩
    cases sendMessage_sent unsigned (updated lib env update state).message
      { state with suit := (updated lib env update state).state } with
    | inl failed => exact .inl failed
    | inr sent =>
      obtain ⟨cbor, cose, encoding, signing, signed, result⟩ := sent
      refine .inr ⟨_, cose, .inl ?_, ⟨cbor, encoding, signing⟩, by rw [same]; exact signed,
        by rw [same]; exact result⟩
      rw [same]
      simp [MessageOutcome.after]

theorem Sends.not_fatal {message : TeepMessage} {cose : Bytes} (sends : Sends lib env args state message cose) :
    (ecallProcessMessage lib env args state).result ≠ .fatal := by
  rw [sends.result]
  exact resultOf_ne_fatal message

end Taws.Enclave
