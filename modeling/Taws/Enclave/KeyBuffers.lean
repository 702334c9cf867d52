import Taws.Enclave.Keypair
import Taws.Teep.Reference

/-!
# What the key ECALLs free

The flags say that the agent owns the buffers of its key.  The kid is a block that `malloc` has returned; the
two keys of a generated pair are static arrays, and the flags are set for them all the same.  So the buffers
are released correctly exactly in the runs that never get a generated key pair into libteep.

* `Live`, `FreesLive`, `BuffersOwned` — what it means to release the buffers correctly.
* `KidOnly` — the invariant of the other runs: the kid alone is owned.
* `generate_static` — a generated key pair leaves a static array owned, or frees it.
* `keyBuffers_released_iff` — the exact condition.
-/

namespace Taws.Enclave

open Teep

variable {qcbor : Qcbor} {emitted : List KeyEvent} {store : KeyStore}

/-! ## Ownership -/

/-- A block that `malloc` has returned and that has not been freed since. -/
def Live (emitted : List KeyEvent) (pointer : Pointer) : Prop :=
  ∃ block, pointer = .heap block ∧ .allocated block ∈ emitted ∧ .freed pointer ∉ emitted

def FreesLive (emitted : List KeyEvent) (event : KeyEvent) : Prop :=
  ∀ pointer, event = .freed pointer → Live emitted pointer

/-- The pointers of the flags that are set. -/
def ownedPointers (store : KeyStore) : List Pointer :=
  (if store.agentKeyOwnsPrivate then [store.agentSign.privateKey] else []) ++
    (if store.agentKeyOwnsPublic then [store.agentSign.publicKey] else []) ++
    (if store.agentKeyOwnsKid then [store.agentSign.kid] else [])

/-- Where a flag is set, the pointer is NULL or to a live block that no other flag is set for. -/
structure BuffersOwned (emitted : List KeyEvent) (store : KeyStore) : Prop where
  live : ∀ pointer ∈ ownedPointers store, pointer = .null ∨ Live emitted pointer
  alone : ((ownedPointers store).filter (· ≠ .null)).Nodup

/-- The blocks named so far are below the next one. -/
def BlocksBelow (emitted : List KeyEvent) (next : Block) : Prop :=
  ∀ block, .allocated block ∈ emitted ∨ .freed (.heap block) ∈ emitted → block < next

structure KidOnly (emitted : List KeyEvent) (store : KeyStore) : Prop where
  noPrivate : store.agentKeyOwnsPrivate = false
  noPublic : store.agentKeyOwnsPublic = false
  kid : store.agentKeyOwnsKid = true → store.agentSign.kid = .null ∨ Live emitted store.agentSign.kid
  below : BlocksBelow emitted store.heap.next

theorem KidOnly.of_unowned (noPrivate : store.agentKeyOwnsPrivate = false)
    (noPublic : store.agentKeyOwnsPublic = false) (noKid : store.agentKeyOwnsKid = false)
    (below : BlocksBelow emitted store.heap.next) : KidOnly emitted store where
  noPrivate := noPrivate
  noPublic := noPublic
  kid := by simp [noKid]
  below := below

theorem KidOnly.buffersOwned (kidOnly : KidOnly emitted store) : BuffersOwned emitted store := by
  have owned : ownedPointers store = if store.agentKeyOwnsKid then [store.agentSign.kid] else [] := by
    simp [ownedPointers, kidOnly.noPrivate, kidOnly.noPublic]
  cases ownsKid : store.agentKeyOwnsKid with
  | false => exact ⟨by simp [owned, ownsKid], by simp [owned, ownsKid]⟩
  | true =>
    refine ⟨?_, ?_⟩
    · intro pointer member
      rw [owned, ownsKid, if_pos rfl, List.mem_singleton] at member
      rw [member]
      exact kidOnly.kid ownsKid
    · rw [owned, ownsKid, if_pos rfl]
      exact List.Nodup.filter _ (List.nodup_singleton _)

/-! ## Clearing -/

theorem free_next (heap : Heap) (pointer : Pointer) : (heap.free pointer).next = heap.next := by
  cases pointer <;> rfl

theorem foldl_free_next (freed : List Pointer) (heap : Heap) : (freed.foldl Heap.free heap).next = heap.next := by
  induction freed generalizing heap with
  | nil => rfl
  | cons pointer freed inductionHypothesis =>
    rw [List.foldl_cons, inductionHypothesis, free_next]

@[simp] theorem clear_next (store : KeyStore) :
    (clearAgentSignBuffers store).1.heap.next = store.heap.next := by
  simp [clearAgentSignBuffers, foldl_free_next]

/-- Without flags nothing is freed. -/
theorem clear_unowned (noPrivate : store.agentKeyOwnsPrivate = false) (noPublic : store.agentKeyOwnsPublic = false)
    (noKid : store.agentKeyOwnsKid = false) : (clearAgentSignBuffers store).2 = [] := by
  simp [clearAgentSignBuffers, clearBuffer, noPrivate, noPublic, noKid]

/-- Where only the kid is owned, only the kid is freed. -/
theorem clear_kidOnly (kidOnly : KidOnly emitted store) :
    (clearAgentSignBuffers store).2 = [] ∨
      (clearAgentSignBuffers store).2 = [.freed store.agentSign.kid] ∧ Live emitted store.agentSign.kid := by
  have events : (clearAgentSignBuffers store).2 =
      (clearBuffer store.agentKeyOwnsKid store.agentSign.kid).2.map .freed := by
    simp [clearAgentSignBuffers, clearBuffer, kidOnly.noPrivate, kidOnly.noPublic]
  rw [events, clearBuffer]
  split
  · next owned =>
    rw [Bool.and_eq_true, decide_eq_true_iff] at owned
    exact .inr ⟨rfl, (kidOnly.kid owned.1).resolve_left owned.2⟩
  · exact .inl rfl

theorem BlocksBelow.mono {next next' : Block} (below : BlocksBelow emitted next) (le : next ≤ next') :
    BlocksBelow emitted next' := by
  intro block named
  exact Nat.lt_of_lt_of_le (below block named) le

theorem BlocksBelow.append {events : List KeyEvent} {next : Block} (below : BlocksBelow emitted next)
    (eventsBelow : BlocksBelow events next) : BlocksBelow (emitted ++ events) next := by
  intro block named
  simp only [List.mem_append] at named
  cases named with
  | inl allocated => exact allocated.elim (fun old => below block (.inl old)) fun new => eventsBelow block (.inl new)
  | inr freed => exact freed.elim (fun old => below block (.inr old)) fun new => eventsBelow block (.inr new)

/-- Clearing frees what is live, and what it frees is named already. -/
theorem clear_spec (kidOnly : KidOnly emitted store) :
    EveryEvent FreesLive emitted (clearAgentSignBuffers store).2 ∧
      BlocksBelow (emitted ++ (clearAgentSignBuffers store).2) store.heap.next := by
  cases clear_kidOnly kidOnly with
  | inl none =>
    rw [none, List.append_nil]
    exact ⟨everyEvent_nil _, kidOnly.below⟩
  | inr kid =>
    obtain ⟨events, live⟩ := kid
    rw [events]
    refine ⟨?_, kidOnly.below.append ?_⟩
    · rw [everyEvent_cons]
      refine ⟨?_, everyEvent_nil _⟩
      intro pointer same
      cases same
      exact live
    · intro block named
      simp only [List.mem_singleton, KeyEvent.freed.injEq, reduceCtorEq, false_or] at named
      obtain ⟨allocated, same, there, _⟩ := live
      rw [same] at named
      cases named
      exact kidOnly.below block (.inl there)

/-! ## A new kid -/

@[simp] theorem write_next (heap : Heap) (pointer : Pointer) (data : Bytes) :
    (heap.write pointer data).next = heap.next := by
  cases pointer <;> rfl

/-- The new kid is a new block, or NULL. -/
theorem finishKey_spec (qcbor : Qcbor) (env : KeyEnv) (store : KeyStore) :
    let finished := finishKey qcbor env store
    finished.events = (if env.malloc then [.allocated store.heap.next] else []) ∧
      finished.store.heap.next = (if env.malloc then store.heap.next + 1 else store.heap.next) ∧
      finished.store.agentSign.kid = (if env.malloc then .heap store.heap.next else .null) ∧
      finished.store.agentSign.privateKey = store.agentSign.privateKey ∧
      finished.store.agentKeyOwnsPrivate = store.agentKeyOwnsPrivate ∧
      finished.store.agentKeyOwnsPublic = store.agentKeyOwnsPublic := by
  cases malloc : env.malloc with
  | false =>
    simp only [finishKey, teepGenerateKid, Heap.malloc, malloc, Bool.false_eq_true, if_false]
    split
    · simp
    · split <;> simp
  | true =>
    simp only [finishKey, teepGenerateKid, Heap.malloc, malloc, if_true]
    split
    · simp
    · split <;> simp

theorem finishKey_kidOnly (env : KeyEnv) (noPrivate : store.agentKeyOwnsPrivate = false)
    (noPublic : store.agentKeyOwnsPublic = false) (below : BlocksBelow emitted store.heap.next) :
    EveryEvent FreesLive emitted (finishKey qcbor env store).events ∧
      KidOnly (emitted ++ (finishKey qcbor env store).events) (finishKey qcbor env store).store := by
  obtain ⟨events, next, kid, _, ownsPrivate, ownsPublic⟩ := finishKey_spec qcbor env store
  rw [events]
  cases malloc : env.malloc with
  | false =>
    rw [malloc] at next kid
    simp only [Bool.false_eq_true, if_false, List.append_nil] at next kid ⊢
    refine ⟨everyEvent_nil _, ownsPrivate.trans noPrivate, ownsPublic.trans noPublic, fun _ => .inl kid, ?_⟩
    rw [next]
    exact below
  | true =>
    rw [malloc] at next kid
    simp only [if_true] at next kid ⊢
    -- a new block has not been freed before
    have notFreed : .freed (.heap store.heap.next) ∉ emitted ++ [.allocated store.heap.next] := by
      intro member
      simp only [List.mem_append, List.mem_singleton, reduceCtorEq, or_false] at member
      exact Nat.lt_irrefl _ (below _ (.inr member))
    refine ⟨?_, ownsPrivate.trans noPrivate, ownsPublic.trans noPublic, fun _ => .inr ?_, ?_⟩
    · apply everyEvent_of_forall
      intro before event member pointer same
      rw [List.mem_singleton.mp member] at same
      cases same
    · rw [kid]
      exact ⟨store.heap.next, rfl, List.mem_append_right _ (List.mem_singleton_self _), notFreed⟩
    · rw [next]
      apply (below.mono (Nat.le_succ _)).append
      intro block named
      simp only [List.mem_singleton, KeyEvent.allocated.injEq, reduceCtorEq, or_false] at named
      rw [named]
      exact Nat.lt_succ_self _

/-! ## One call -/

/-- The call generates a key pair and libteep accepts it. -/
def KeyCall.StoresGeneratedPair : KeyCall → Prop
  | .generate openssl env => openssl.keyGenerated = true ∧ env.keyInit = .success
  | .set _ | .free => False

/-- The end of the `err` label where nothing is owned. -/
theorem generateErr_unowned (result : TeepErr) {prepared : KeyStore} {events : List KeyEvent}
    (noPrivate : prepared.agentKeyOwnsPrivate = false) (noPublic : prepared.agentKeyOwnsPublic = false)
    (noKid : prepared.agentKeyOwnsKid = false) (below : BlocksBelow (emitted ++ events) prepared.heap.next) :
    (generateErr ⟨result, prepared, events⟩).events = events ∧
      KidOnly (emitted ++ events) (generateErr ⟨result, prepared, events⟩).store := by
  constructor
  · simp only [generateErr]
    rw [clear_unowned noPrivate noPublic noKid, List.append_nil]
  · apply KidOnly.of_unowned rfl rfl rfl
    simp only [generateErr, clear_next]
    exact below

theorem generate_kidOnly (openssl : OpensslEnv) (env : KeyEnv) (kidOnly : KidOnly emitted store)
    (notStored : ¬ (openssl.keyGenerated = true ∧ env.keyInit = .success)) :
    let outcome := ecallTeepGenerateEsp256KeyPair qcbor openssl env store
    EveryEvent FreesLive emitted outcome.events ∧ KidOnly (emitted ++ outcome.events) outcome.store := by
  intro outcome
  have zeroed : KidOnly emitted
      { store with privBytes := Vector.replicate _ 0, pubBytes := Vector.replicate _ 0 } :=
    ⟨kidOnly.noPrivate, kidOnly.noPublic, kidOnly.kid, kidOnly.below⟩
  obtain ⟨every, below⟩ := clear_spec zeroed
  cases generate_cases qcbor openssl env store with
  | inr stored => exact absurd stored.1 notStored
  | inl failed =>
    obtain ⟨_, result, prepared, same, noPrivate, noPublic, noKid, heap⟩ := failed
    rw [← clear_next, ← heap] at below
    obtain ⟨sameEvents, kidOnlyAfter⟩ := generateErr_unowned result noPrivate noPublic noKid below
    rw [show outcome = _ from same, sameEvents]
    exact ⟨every, kidOnlyAfter⟩

theorem set_kidOnly (env : KeyEnv) (kidOnly : KidOnly emitted store) :
    let outcome := ecallTeepSetEsp256Key qcbor env store
    EveryEvent FreesLive emitted outcome.events ∧ KidOnly (emitted ++ outcome.events) outcome.store := by
  intro outcome
  obtain ⟨every, below⟩ := clear_spec kidOnly
  rw [← clear_next store] at below
  simp only [outcome, ecallTeepSetEsp256Key]
  split
  · exact ⟨every, KidOnly.of_unowned rfl rfl rfl below⟩
  · simp only [KeyOutcome.after]
    rw [everyEvent_append, ← List.append_assoc, and_assoc]
    exact ⟨every, finishKey_kidOnly env rfl rfl below⟩

theorem free_kidOnly (kidOnly : KidOnly emitted store) :
    EveryEvent FreesLive emitted (ecallTeepFreeKeypair store).2 ∧
      KidOnly (emitted ++ (ecallTeepFreeKeypair store).2) (ecallTeepFreeKeypair store).1 := by
  obtain ⟨every, below⟩ := clear_spec kidOnly
  rw [← clear_next store] at below
  simp only [ecallTeepFreeKeypair]
  split
  · rw [List.append_nil]
    exact ⟨everyEvent_nil _, kidOnly⟩
  · exact ⟨every, KidOnly.of_unowned rfl rfl rfl below⟩

theorem keyStep_kidOnly (call : KeyCall) (kidOnly : KidOnly emitted store)
    (notStored : ¬ call.StoresGeneratedPair) :
    EveryEvent FreesLive emitted (keyStep qcbor store call).2 ∧
      KidOnly (emitted ++ (keyStep qcbor store call).2) (keyStep qcbor store call).1 := by
  cases call with
  | generate openssl env => exact generate_kidOnly openssl env kidOnly notStored
  | set env => exact set_kidOnly env kidOnly
  | free => exact free_kidOnly kidOnly

/-- A generated pair that is stored is static: the private key stays owned, or it is freed. -/
theorem generate_static {openssl : OpensslEnv} {env : KeyEnv} (qcbor : Qcbor) (store : KeyStore)
    (generated : openssl.keyGenerated = true) (initialised : env.keyInit = .success) :
    let outcome := ecallTeepGenerateEsp256KeyPair qcbor openssl env store
    .freed .privBytes ∈ outcome.events ∨ .privBytes ∈ ownedPointers outcome.store := by
  intro outcome
  cases generate_cases qcbor openssl env store with
  | inl failed => exact absurd ⟨generated, initialised⟩ failed.1
  | inr stored =>
    obtain ⟨_, prepared, finished, finishes, same⟩ := stored
    obtain ⟨_, _, _, privateKey, ownsPrivate, _⟩ :=
      finishKey_spec qcbor env (ownGenerated (initGenerated openssl env prepared))
    have static : finished.store.agentSign.privateKey = .privBytes := by
      rw [finishes]
      exact privateKey
    have owned : finished.store.agentKeyOwnsPrivate = true := by
      rw [finishes]
      exact ownsPrivate
    rw [show outcome = _ from same]
    split
    · -- the `err` label frees it
      apply Or.inl
      simp [generateErr, clearAgentSignBuffers, clearBuffer, static, owned]
    · apply Or.inr
      simp [ownedPointers, static, owned]

theorem static_notLive : ¬ Live emitted .privBytes := by
  intro ⟨block, same, _⟩
  cases same

theorem freedStatic_notLive {events : List KeyEvent} (freed : .freed .privBytes ∈ events) :
    ¬ EveryEvent FreesLive emitted events := by
  intro every
  obtain ⟨front, back, split⟩ := List.append_of_mem freed
  exact static_notLive (every front _ back split .privBytes rfl)

/-! ## Runs -/

theorem initialKeys_kidOnly : KidOnly [] initialKeys :=
  KidOnly.of_unowned rfl rfl rfl fun block named => by simp at named

/-- Whatever fails at any call: what the agent frees is live and what it owns is NULL or live and its own, along
the whole run, exactly when no call stores a key pair that it has generated. -/
theorem keyBuffers_released_iff (qcbor : Qcbor) (calls : List KeyCall) :
    (EveryEvent FreesLive [] ((keyMachine qcbor).run initialKeys calls).2 ∧
      ∀ done rest, calls = done ++ rest →
        BuffersOwned ((keyMachine qcbor).run initialKeys done).2 ((keyMachine qcbor).run initialKeys done).1) ↔
    ∀ call ∈ calls, ¬ call.StoresGeneratedPair := by
  constructor
  · intro ⟨every, owned⟩ call member stores
    cases call with
    | set env => exact stores
    | free => exact stores
    | generate openssl env =>
      obtain ⟨done, rest, rfl⟩ := List.append_of_mem member
      have before := owned (done ++ [.generate openssl env]) rest (by simp)
      rw [Machine.run_append] at before every
      -- the static private key is freed at once, or owned and not live
      cases generate_static qcbor ((keyMachine qcbor).run initialKeys done).1 stores.1 stores.2 with
      | inl freed =>
        rw [everyEvent_append, Machine.run_cons, everyEvent_append] at every
        exact freedStatic_notLive freed every.2.1
      | inr ownsStatic =>
        cases before.live .privBytes ownsStatic with
        | inl null => cases null
        | inr live => exact static_notLive live
  · intro notStored
    have preserved : ∀ emitted store call, KidOnly emitted store → ¬ KeyCall.StoresGeneratedPair call →
        KidOnly (emitted ++ ((keyMachine qcbor).step store call).2) ((keyMachine qcbor).step store call).1 :=
      fun emitted store call kidOnly notStored => (keyStep_kidOnly call kidOnly notStored).2
    have holds : ∀ emitted store call, KidOnly emitted store → ¬ KeyCall.StoresGeneratedPair call →
        EveryEvent FreesLive emitted ((keyMachine qcbor).step store call).2 :=
      fun emitted store call kidOnly notStored => (keyStep_kidOnly call kidOnly notStored).1
    have meets : ∀ calls : List KeyCall, (∀ call ∈ calls, ¬ call.StoresGeneratedPair) →
        (keyMachine qcbor).Meets (fun _ call => ¬ call.StoresGeneratedPair) initialKeys calls :=
      fun calls => ((keyMachine qcbor).meets_const _ _ _).mpr
    constructor
    · exact Machine.run_events preserved holds initialKeys_kidOnly (meets calls notStored)
    · intro done rest split
      have doneMeets := meets done fun call member =>
        notStored call (by rw [split]; exact List.mem_append_left rest member)
      have kidOnly := Machine.run_history preserved initialKeys_kidOnly doneMeets
      rw [List.nil_append] at kidOnly
      exact kidOnly.buffersOwned

/-- A key pair is generated, and then freed. -/
def generateAndFree : KeyStore × List KeyEvent :=
  (keyMachine referenceQcbor).run initialKeys [.generate workingOpenssl workingKeyEnv, .free]

/-- Nothing fails, and both static arrays are passed to `free`. -/
theorem generateAndFree_freesStatic :
    generateAndFree.2 =
      [.allocated 0, .freed .privBytes, .freed .pubBytes, .freed (.heap 0)] ∧
    ¬ EveryEvent FreesLive [] generateAndFree.2 := by
  have events : generateAndFree.2 =
      [.allocated 0, .freed .privBytes, .freed .pubBytes, .freed (.heap 0)] := by decide +kernel
  refine ⟨events, ?_⟩
  apply freedStatic_notLive
  rw [events]
  exact List.mem_cons_of_mem _ List.mem_cons_self

end Taws.Enclave
