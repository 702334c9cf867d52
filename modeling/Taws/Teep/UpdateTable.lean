import Taws.TcManager.Downgrade
import Taws.Teep.Reference

/-!
# What an Update does to the record table

An Update changes the table only through the store callbacks and the finalisations that its events
record, so the table after it is a run of table calls.  There is no roll-back: what the callbacks of a
manifest have stored stays when its processing fails.

* `processUpdate_table` — the table after an Update is a run of the calls in its events.
* `processUpdate_processings` — these calls are processings of manifests.
* `failedUpdate_untouched` — records of other manifests stay, unless a finalised one replaces them.
-/

namespace Taws.Teep

open TcManager
open Suit
open SlotTable
open scoped List

/-- The call into the record table that an event stands for. -/
def tcCall : Event → Option TcCall
  | .callback (.store args alloc) _ => if args.operation = .store then some (.store (some args) alloc) else none
  | .recordChecked _ manifestDigest _ => some (.checkAndUpdate manifestDigest)
  | _ => none

def tcCalls (events : List Event) : List TcCall := events.filterMap tcCall

theorem tcCalls_append (first second : List Event) : tcCalls (first ++ second) = tcCalls first ++ tcCalls second :=
  List.filterMap_append

def callbackEvents (called : List (SuitCallback × SuitErr)) : List Event :=
  called.map fun each => .callback each.1 each.2

variable {csuit : Libcsuit} {state : SuitState}

/-! ## The calls of one manifest -/

theorem runCallback_table (csuit : Libcsuit) (callback : SuitCallback) (state : SuitState) (returned : SuitErr) :
    (runCallback csuit callback state).2.table =
      tcRun csuit state.table (tcCalls [.callback callback returned]) := by
  cases callback with
  | store args alloc =>
    by_cases isStore : args.operation = .store
    · simp [runCallback, wrapSuitStoreCallback, tcCalls, tcCall, isStore, tcRun, tcMachine, tcStep]
    · simp [runCallback, wrapSuitStoreCallback, tcCalls, tcCall, isStore, tcRun]
  | condition args ret => rfl
  | report suitReport malloc => rfl
  | invoke => rfl

theorem tcCalls_callbacks_cons (csuit : Libcsuit) (callback : SuitCallback) (callbacks : List SuitCallback)
    (state : SuitState) :
    tcCalls (callbackEvents (runCallbacks csuit (callback :: callbacks) state).1) =
      tcCalls [.callback callback (runCallback csuit callback state).1] ++
        tcCalls (callbackEvents (runCallbacks csuit callbacks (runCallback csuit callback state).2).1) :=
  tcCalls_append [_] _

theorem runCallbacks_table (csuit : Libcsuit) (callbacks : List SuitCallback) (state : SuitState) :
    (runCallbacks csuit callbacks state).2.table =
      tcRun csuit state.table (tcCalls (callbackEvents (runCallbacks csuit callbacks state).1)) := by
  induction callbacks generalizing state with
  | nil => rfl
  | cons callback callbacks inductionHypothesis =>
    have first := runCallback_table csuit callback state (runCallback csuit callback state).1
    rw [tcCalls_callbacks_cons, tcRun_append, ← first]
    exact inductionHypothesis _

theorem setUpProcessor_calls (env : ManifestEnv) : tcCalls (setUpProcessor env).events = [] := by
  unfold setUpProcessor
  repeat' split
  all_goals rfl

theorem release_calls (held : Resources) : tcCalls (release held) = [] := by
  obtain ⟨engine, context, initialized⟩ := held
  cases engine <;> cases context <;> cases initialized <;> rfl

theorem processEnvelope_table (context : Block) (run : EnvelopeRun) (state : SuitState) :
    (processEnvelope csuit context run state).1.table =
      tcRun csuit state.table (tcCalls (processEnvelope csuit context run state).2.1) := by
  have stored := runCallbacks_table csuit run.callbacks state
  have calls : ∀ later, tcCalls (callbackEvents (runCallbacks csuit run.callbacks state).1 ++
      Event.envelopeProcessed context run.manifestDigest run.result :: later) =
      tcCalls (callbackEvents (runCallbacks csuit run.callbacks state).1) ++ tcCalls later := by
    intro later
    rw [tcCalls_append]
    rfl
  simp only [processEnvelope]
  split
  · have split := calls []
    simp only [callbackEvents] at split stored
    rw [split, stored]
    simp [tcCalls]
  · split <;>
    · have split := calls [.recordChecked context run.manifestDigest
        (tcManagerCheckAndUpdateRecord run.manifestDigest (runCallbacks csuit run.callbacks state).2.table).1]
      simp only [callbackEvents] at split stored
      simp only [List.append_assoc, List.singleton_append]
      rw [split, tcRun_append, ← stored]
      rfl

theorem processManifest_table (csuit : Libcsuit) (env : ManifestEnv) (item : Buffer) (state : SuitState) :
    (processManifest csuit env item state).1.table =
      tcRun csuit state.table (tcCalls (processManifest csuit env item state).2.1) := by
  have noCalls := setUpProcessor_calls env
  have released := release_calls (setUpProcessor env).held
  simp only [processManifest]
  split
  · simp only [tcCalls_append, noCalls, released]
    rfl
  · next context envelopeBufLen _ =>
    split
    · simp only [tcCalls_append, noCalls, released]
      rfl
    · split
      · simp only [tcCalls_append, noCalls]
        change _ = tcRun csuit state.table ([] ++ tcCalls (release (setUpProcessor env).held))
        rw [released]
        rfl
      · rw [processEnvelope_table]
        simp only [tcCalls_append, noCalls, released, List.append_nil]
        rfl

theorem processManifests_table (csuit : Libcsuit) (manifests : Nat → ManifestEnv) (index : Nat) (items : List Buffer)
    (state : SuitState) :
    (processManifests csuit manifests index items state).1.table =
      tcRun csuit state.table (tcCalls (processManifests csuit manifests index items state).2.1) := by
  induction items generalizing index state with
  | nil => rfl
  | cons item items inductionHypothesis =>
    have first := processManifest_table csuit (manifests index) item state
    simp only [processManifests]
    split
    · next after events failure processed =>
      rw [processed] at first
      exact first
    · next after events processed =>
      rw [processed] at first
      simp only [tcCalls_append, tcRun_append]
      rw [inductionHypothesis]
      exact congrArg (fun table => tcRun csuit table _) first

/-- The table after an Update is what the calls recorded in its events make of it. -/
theorem processUpdate_table (lib : Libraries) (manifests : Nat → ManifestEnv) (update : TeepUpdate)
    (state : SuitState) :
    (processUpdate lib manifests update state).state.table =
      tcRun lib.csuit state.table (tcCalls (processUpdate lib manifests update state).events) := by
  simp only [processUpdate]
  split
  · rfl
  · split
    · rfl
    · have processed := processManifests_table lib.csuit manifests 0 update.manifestList state
      split <;>
      · next after events _ split =>
        rw [split] at processed
        exact processed

/-! ## Processings -/

/-- The store callbacks of one run of `suit_process_envelope`, finalised if it succeeds. -/
def EnvelopeRun.processing (run : EnvelopeRun) : Processing where
  digest := run.manifestDigest
  stores := run.callbacks.filterMap fun
    | .store args alloc => if args.operation = .store then some (args, alloc) else none
    | _ => none
  finalises := run.result = .success

theorem callbacks_calls (callbacks : List SuitCallback) (state : SuitState) :
    tcCalls (callbackEvents (runCallbacks csuit callbacks state).1) =
      (EnvelopeRun.processing ⟨.null 0, callbacks, .success⟩).storeCalls := by
  induction callbacks generalizing state with
  | nil => rfl
  | cons callback callbacks inductionHypothesis =>
    have rest := inductionHypothesis (runCallback csuit callback state).2
    rw [tcCalls_callbacks_cons, rest]
    cases callback with
    | store args alloc =>
      by_cases isStore : args.operation = .store
      · simp [tcCalls, tcCall, isStore, EnvelopeRun.processing, Processing.storeCalls]
      · simp [tcCalls, tcCall, isStore, EnvelopeRun.processing, Processing.storeCalls]
    | condition args ret => rfl
    | report suitReport malloc => rfl
    | invoke => rfl

theorem processEnvelope_calls (csuit : Libcsuit) (context : Block) (run : EnvelopeRun) (state : SuitState) :
    tcCalls (processEnvelope csuit context run state).2.1 = run.processing.calls := by
  have stores : tcCalls (callbackEvents (runCallbacks csuit run.callbacks state).1) =
      run.processing.storeCalls := callbacks_calls run.callbacks state
  simp only [callbackEvents] at stores
  simp only [processEnvelope]
  split
  · next failed =>
    rw [tcCalls_append, stores]
    simp [tcCalls, tcCall, Processing.calls, EnvelopeRun.processing, failed]
  · next succeeded =>
    have success : run.result = .success := not_not.mp succeeded
    split <;>
    · rw [tcCalls_append, tcCalls_append, stores]
      simp [tcCalls, tcCall, Processing.calls, EnvelopeRun.processing, success]

/-- The envelope has been processed, and the check of the record that its callbacks have left returns 0. -/
def Finalises (csuit : Libcsuit) (processing : Processing) (table : RecordTable) : Prop :=
  processing.finalises = true ∧
    (tcManagerCheckAndUpdateRecord processing.digest (tcRun csuit table processing.storeCalls)).1 = 0

theorem processEnvelope_done {context : Block} {run : EnvelopeRun} {state : SuitState}
    (done : (processEnvelope csuit context run state).2.2 = none) :
    Finalises csuit run.processing state.table := by
  by_cases failed : run.result ≠ .success
  · simp [processEnvelope, failed] at done
  · have stored := runCallbacks_table csuit run.callbacks state
    rw [callbacks_calls] at stored
    refine ⟨by simpa [EnvelopeRun.processing] using failed, ?_⟩
    by_contra unchecked
    change ¬ (tcManagerCheckAndUpdateRecord run.manifestDigest
      (tcRun csuit state.table (EnvelopeRun.processing ⟨.null 0, run.callbacks, .success⟩).storeCalls)).1 = 0
      at unchecked
    rw [← stored] at unchecked
    simp [processEnvelope, failed, unchecked] at done

/-- The processing of one manifest, given with its position in the list. -/
def manifestProcessing (manifests : Nat → ManifestEnv) (item : Buffer × Nat) : Processing :=
  ((manifests item.2).processEnvelope item.1.data).processing

/-- Either the manifest is refused before its envelope is processed, or its calls are a processing, which
is finalised unless it fails. -/
theorem processManifest_calls (csuit : Libcsuit) (env : ManifestEnv) (item : Buffer) (state : SuitState) :
    (tcCalls (processManifest csuit env item state).2.1 = [] ∧
      (processManifest csuit env item state).2.2 ≠ none) ∨
    (tcCalls (processManifest csuit env item state).2.1 = (env.processEnvelope item.data).processing.calls ∧
      ((processManifest csuit env item state).2.2 = none →
        Finalises csuit (env.processEnvelope item.data).processing state.table)) := by
  have noCalls := setUpProcessor_calls env
  have released := release_calls (setUpProcessor env).held
  have refused : ∀ context : Block, tcCalls (.manifestAdded context :: release (setUpProcessor env).held) = [] :=
    fun context => released
  simp only [processManifest]
  split
  · exact .inl ⟨by simp only [tcCalls_append, noCalls, released, List.append_nil], by simp⟩
  · next context envelopeBufLen _ =>
    split
    · exact .inl ⟨by simp only [tcCalls_append, noCalls, released, List.append_nil], by simp⟩
    · split
      · exact .inl ⟨by simp only [tcCalls_append, noCalls, refused, List.append_nil], by simp⟩
      · refine .inr ⟨?_, processEnvelope_done⟩
        have calls := processEnvelope_calls csuit context (env.processEnvelope item.data) state
        have added : ∀ events, tcCalls (.manifestAdded context :: events) = tcCalls events := fun _ => rfl
        simp only [List.append_assoc, List.cons_append, tcCalls_append, noCalls, added, calls, released,
          List.append_nil, List.nil_append]

/-- How far processing gets in a list from this table: the manifests in `done` are finalised, the calls in
`attempted` are those of the manifest after them, and no call is about a later one. -/
structure Progress (csuit : Libcsuit) (manifests : Nat → ManifestEnv) (table : RecordTable)
    (items done rest : List (Buffer × Nat)) (calls attempted : List TcCall) : Prop where
  split : items = done ++ rest
  finalised : ∀ before item later, done = before ++ item :: later →
    Finalises csuit (manifestProcessing manifests item)
      (tcRun csuit table ((before.map (manifestProcessing manifests)).flatMap Processing.calls))
  calls_eq : calls = (done.map (manifestProcessing manifests)).flatMap Processing.calls ++ attempted
  attempted_eq : attempted = [] ∨
    ∃ failing ∈ rest.head?, attempted = (manifestProcessing manifests failing).calls

theorem processManifests_progress (csuit : Libcsuit) (manifests : Nat → ManifestEnv) (index : Nat)
    (items : List Buffer) (state : SuitState) :
    ∃ done rest attempted, Progress csuit manifests state.table (items.zipIdx index) done rest
        (tcCalls (processManifests csuit manifests index items state).2.1) attempted ∧
      ((processManifests csuit manifests index items state).2.2 ≠ none → rest ≠ []) := by
  induction items generalizing index state with
  | nil => exact ⟨[], [], [], ⟨rfl, by simp, rfl, .inl rfl⟩, by simp [processManifests]⟩
  | cons item items inductionHypothesis =>
    -- the list is split where the first manifest fails
    have first := processManifest_calls csuit (manifests index) item state
    have table := processManifest_table csuit (manifests index) item state
    rw [List.zipIdx_cons]
    simp only [processManifests]
    split
    · next after events failure processed =>
      rw [processed] at first
      refine ⟨[], (item, index) :: items.zipIdx (index + 1), tcCalls events, ⟨rfl, by simp, rfl, ?_⟩, by simp⟩
      cases first with
      | inl refused => exact .inl refused.1
      | inr attempted => exact .inr ⟨(item, index), rfl, attempted.1⟩
    · next after events processed =>
      rw [processed] at first table
      obtain ⟨calls, finalises⟩ := first.resolve_left fun refused => refused.2 rfl
      obtain ⟨done, rest, attempted, progress, remains⟩ := inductionHypothesis (index + 1) after
      refine ⟨(item, index) :: done, rest, attempted, ⟨?_, ?_, ?_, progress.attempted_eq⟩, remains⟩
      · rw [progress.split]
        rfl
      · intro before each later split
        cases before with
        | nil =>
          cases split
          exact finalises rfl
        | cons _ before =>
          obtain ⟨rfl, inDone⟩ := List.cons.inj split
          have later := progress.finalised before each later inDone
          rw [show after.table = _ from table, ← tcRun_append, show tcCalls events = _ from calls] at later
          exact later
      · rw [tcCalls_append, progress.calls_eq]
        simp only [List.map_cons, List.flatMap_cons, List.append_assoc]
        exact congrArg (· ++ _) calls

theorem processUpdate_progress (lib : Libraries) (manifests : Nat → ManifestEnv) (update : TeepUpdate)
    (state : SuitState) :
    ∃ done rest attempted, Progress lib.csuit manifests state.table update.manifestList.zipIdx done rest
        (tcCalls (processUpdate lib manifests update state).events) attempted ∧
      (∀ error, (processUpdate lib manifests update state).message = .error error → rest = [] →
        update.manifestList = []) := by
  have refused : Progress lib.csuit manifests state.table update.manifestList.zipIdx [] update.manifestList.zipIdx
      [] [] :=
    ⟨rfl, by simp, rfl, .inl rfl⟩
  have nothingLeft : ∀ items : List Buffer, items.zipIdx = [] → items = [] := fun _ => List.zipIdx_eq_nil_iff.mp
  obtain ⟨done, rest, attempted, progress, remains⟩ :=
    processManifests_progress lib.csuit manifests 0 update.manifestList state
  simp only [processUpdate]
  split
  · exact ⟨_, _, _, refused, fun _ _ => nothingLeft _⟩
  · split
    · exact ⟨_, _, _, refused, fun _ _ => nothingLeft _⟩
    · split
      · next after events failure split =>
        rw [split] at progress remains
        exact ⟨done, rest, attempted, progress, fun _ _ none => absurd none (remains (by simp))⟩
      · next after events split =>
        rw [split] at progress
        refine ⟨done, rest, attempted, progress, ?_⟩
        intro error isError
        cases isError

/-- The table calls of an Update are processings of the manifests in its list. -/
theorem processUpdate_processings (lib : Libraries) (manifests : Nat → ManifestEnv) (update : TeepUpdate)
    (state : SuitState) :
    ∃ run : List Processing,
      tcCalls (processUpdate lib manifests update state).events = run.flatMap Processing.calls ∧
      ∀ processing ∈ run, ∃ item ∈ update.manifestList.zipIdx, processing = manifestProcessing manifests item := by
  obtain ⟨done, rest, attempted, progress, _⟩ := processUpdate_progress lib manifests update state
  have inList : ∀ item ∈ done, item ∈ update.manifestList.zipIdx := by
    intro item member
    rw [progress.split]
    exact List.mem_append_left _ member
  cases progress.attempted_eq with
  | inl none =>
    refine ⟨done.map (manifestProcessing manifests), by simp [progress.calls_eq, none], ?_⟩
    intro processing member
    obtain ⟨item, inDone, rfl⟩ := List.mem_map.mp member
    exact ⟨item, inList item inDone, rfl⟩
  | inr attempt =>
    -- the manifest that fails has had its callbacks too
    obtain ⟨failing, isNext, calls⟩ := attempt
    refine ⟨done.map (manifestProcessing manifests) ++ [manifestProcessing manifests failing], ?_, ?_⟩
    · simp [progress.calls_eq, calls]
    · intro processing member
      cases List.mem_append.mp member with
      | inl mapped =>
        obtain ⟨item, inDone, rfl⟩ := List.mem_map.mp mapped
        exact ⟨item, inList item inDone, rfl⟩
      | inr last =>
        refine ⟨failing, ?_, List.mem_singleton.mp last⟩
        rw [progress.split]
        exact List.mem_append_right _ (List.mem_of_mem_head? isNext)

/-! ## Records of other manifests -/

/-- The call is about the record of this digest. -/
def Touches (call : TcCall) (digest : Buffer) : Prop :=
  match call with
  | .store (some args) _ => args.manifestDigest = digest
  | .store none _ => False
  | .checkAndUpdate checked => checked = digest
  | .removeAll => True

/-- One of the calls finalises a complete record of the same app name with at least the same sequence
number. -/
def Superseded (csuit : Libcsuit) (table : RecordTable) (calls : List TcCall) (record : ManifestRecord) :
    Prop :=
  ∃ before digest later finalised, calls = before ++ .checkAndUpdate digest :: later ∧
    tcManagerFindRecordByDigest (tcRun csuit table before) digest = some finalised ∧
    manifestRecordIsComplete finalised = true ∧ finalised.wappName = record.wappName ∧
    record.manifestSequenceNumber ≤ finalised.manifestSequenceNumber

variable {table : RecordTable} {record : ManifestRecord}

theorem Superseded.later {call : TcCall} {calls : List TcCall}
    (superseded : Superseded csuit (tcStep csuit table call).2 calls record) :
    Superseded csuit table (call :: calls) record := by
  obtain ⟨before, digest, later, finalised, split, rest⟩ := superseded
  exact ⟨call :: before, digest, later, finalised, by rw [split]; rfl, rest⟩

theorem store_keeps_untouched (clean : table.Clean) (args : SuitStoreArgs) (alloc : StoreAlloc)
    (untouched : args.manifestDigest ≠ record.manifestDigest) :
    record ∈ (tcManagerStoreRecordFromStoreArgs csuit (some args) alloc table).2.active ↔
      record ∈ table.active := by
  constructor
  · intro member
    cases store_mem clean args alloc member with
    | inl before => exact before
    | inr stored =>
      obtain ⟨_, _, _, key⟩ := stored
      exact absurd key.symm untouched
  · intro member
    rcases store_cases csuit clean args alloc with ⟨same, _⟩ | ⟨index, _, found, same⟩ | ⟨begins, same⟩
    · rwa [same]
    · obtain ⟨_, bound, key⟩ := findByDigest_some found
      rw [same]
      refine (setSlot_perm clean bound).mem_iff.mpr (List.mem_cons_of_mem _ ?_)
      rcases List.mem_cons.mp ((active_perm_cons_others clean bound).mem_iff.mp member) with rfl | other
      · exact absurd key.symm untouched
      · exact other
    · rw [same, storeNew_active clean begins]
      exact List.mem_append_left _ member

theorem check_keeps_untouched (clean : table.Clean) {digest : Buffer}
    (untouched : digest ≠ record.manifestDigest) (member : record ∈ table.active) :
    record ∈ (tcManagerCheckAndUpdateRecord digest table).2.active ∨
      Superseded csuit table [.checkAndUpdate digest] record := by
  rcases checkAndUpdate_cases clean digest with
    ⟨_, same⟩ | ⟨index, found, outcome⟩
  · rw [same]
    exact .inl member
  · obtain ⟨_, bound, key⟩ := findByDigest_some found
    have inOthers : record ∈ table.others index := by
      rcases List.mem_cons.mp ((active_perm_cons_others clean bound).mem_iff.mp member) with rfl | other
      · exact absurd key.symm untouched
      · exact other
    rcases outcome with ⟨_, _, active⟩ | ⟨complete, _, finalised⟩
    · exact .inl (active.mem_iff.mpr inOthers)
    · generalize (tcManagerCheckAndUpdateRecord digest table).2 = after at finalised ⊢
      cases finalised with
      | only _ => exact .inl member
      | @replaced _ older _ _ sameName notNewer active =>
        -- the one record that finalising another manifest removes
        by_cases isOlder : record = older
        · subst isOlder
          refine .inr ⟨[], digest, [], table.slot index, rfl, ?_, complete, sameName.symm, notNewer⟩
          simp [tcManagerFindRecordByDigest, tcRun, found]
        · left
          refine active.mem_iff.mpr (List.mem_cons_of_mem _ ?_)
          exact (List.mem_erase_of_ne isOlder).mpr inOthers
      | discarded _ _ _ _ active => exact .inl (active.mem_iff.mpr inOthers)

theorem run_keeps_untouched (clean : table.Clean) (calls : List TcCall)
    (untouched : ∀ call ∈ calls, ¬ Touches call record.manifestDigest) (member : record ∈ table.active) :
    record ∈ (tcRun csuit table calls).active ∨ Superseded csuit table calls record := by
  induction calls generalizing table with
  | nil => exact .inl member
  | cons call calls inductionHypothesis =>
    have first := untouched call List.mem_cons_self
    have rest := fun each inRest => untouched each (List.mem_cons_of_mem call inRest)
    have stepped : record ∈ (tcStep csuit table call).2.active ∨
        Superseded csuit table [call] record := by
      cases call with
      | store storeArgs alloc =>
        cases storeArgs with
        | none => exact .inl member
        | some args => exact .inl ((store_keeps_untouched clean args alloc first).mpr member)
      | checkAndUpdate digest => exact check_keeps_untouched clean first member
      | removeAll => exact absurd trivial first
    cases stepped with
    | inl kept => exact (inductionHypothesis (tcStep_clean clean call) rest kept).imp_right Superseded.later
    | inr superseded =>
      obtain ⟨before, digest, later, finalised, split, finalises⟩ := superseded
      have whole : call :: calls = before ++ .checkAndUpdate digest :: (later ++ calls) := by
        calc call :: calls
          _ = [call] ++ calls := rfl
          _ = before ++ .checkAndUpdate digest :: later ++ calls := by rw [split]
          _ = before ++ .checkAndUpdate digest :: (later ++ calls) := by simp
      exact .inr ⟨before, digest, later ++ calls, finalised, whole, finalises⟩

/-- Records of a digest that no call is about were there before. -/
theorem run_adds_touched (clean : table.Clean) (calls : List TcCall)
    (untouched : ∀ call ∈ calls, ¬ Touches call record.manifestDigest)
    (member : record ∈ (tcRun csuit table calls).active) : record ∈ table.active := by
  induction calls generalizing table with
  | nil => exact member
  | cons call calls inductionHypothesis =>
    have first := untouched call List.mem_cons_self
    have stepped : record ∈ (tcStep csuit table call).2.active :=
      inductionHypothesis (tcStep_clean clean call)
        (fun each inRest => untouched each (List.mem_cons_of_mem call inRest)) member
    cases call with
    | store storeArgs alloc =>
      cases storeArgs with
      | none => exact stepped
      | some args => exact (store_keeps_untouched clean args alloc first).mp stepped
    | checkAndUpdate digest => exact checkAndUpdate_mem clean digest stepped
    | removeAll => exact absurd trivial first

/-- An Update that is answered with an Error has done what it has done, and that is all it has done.
It stops at a manifest of its list: the manifests before it have been finalised, its own callbacks are
not undone, and the later ones are not looked at.  A record that no call is about is there afterwards
exactly when it was there before, unless a finalised manifest replaces it; and without any call the
table is the same. -/
theorem failedUpdate_untouched (lib : Libraries) (manifests : Nat → ManifestEnv) (update : TeepUpdate)
    (before : RecordTable) (clean : before.Clean) (suitReport : Buffer) (error : TeepError)
    (failed : (processUpdate lib manifests update ⟨before, suitReport⟩).message = .error error) :
    let updated := processUpdate lib manifests update ⟨before, suitReport⟩
    ∃ done rest calls attempted,
      Progress lib.csuit manifests before update.manifestList.zipIdx done rest calls attempted ∧
      (rest = [] → update.manifestList = []) ∧
      updated.state.table = tcRun lib.csuit before calls ∧
      (calls = [] → updated.state.table = before) ∧
      ∀ record, (∀ call ∈ calls, ¬ Touches call record.manifestDigest) →
        (record ∈ updated.state.table.active → record ∈ before.active) ∧
        (record ∈ before.active → record ∈ updated.state.table.active ∨
          Superseded lib.csuit before calls record) := by
  intro updated
  have after : updated.state.table = tcRun lib.csuit before (tcCalls updated.events) :=
    processUpdate_table lib manifests update ⟨before, suitReport⟩
  obtain ⟨done, rest, attempted, progress, remains⟩ :=
    processUpdate_progress lib manifests update ⟨before, suitReport⟩
  refine ⟨done, rest, tcCalls updated.events, attempted, progress, remains error failed, after, ?_, ?_⟩
  · intro none
    rw [after, none]
    rfl
  · intro record untouched
    rw [after]
    exact ⟨run_adds_touched clean _ untouched, run_keeps_untouched clean _ untouched⟩

/-! ## A failed Update of one manifest -/

/-- The manifest and its payload are stored, then the image does not match. -/
def mismatchedRun : EnvelopeRun where
  manifestDigest := .bytes [1]
  callbacks :=
    [.store (manifestStore [1] 1 [109] [160]) ⟨true, true⟩,
      .store (payloadStore [1] 1 [97] wasmVersion2) ⟨true, true⟩,
      .condition ⟨.bytes [1], .imageMatch, 8, .bytes (Cbor.encode
        (.array [.negative 15, .bytes (smallSha256 wasmVersion1).toList]))⟩ (some {})]
  result := .conditionMismatch

def oneManifest : TeepUpdate := ⟨{.token}, .bytes (List.replicate 8 0), [.bytes [0xa0]]⟩

def mismatchedUpdate : UpdateResult :=
  processUpdate smallLibraries (fun _ => workingManifest fun _ => mismatchedRun) oneManifest
    ⟨SlotTable.empty, .null 0⟩

theorem mismatchedUpdate_untouched : mismatchedUpdate.state.table.active.length = 1 ∧
    ∃ done rest calls attempted,
      Progress smallCsuit (fun _ => workingManifest fun _ => mismatchedRun) SlotTable.empty
        oneManifest.manifestList.zipIdx done rest calls attempted ∧ rest ≠ [] := by
  obtain ⟨done, rest, calls, attempted, progress, remains, _⟩ :=
    failedUpdate_untouched smallLibraries (fun _ => workingManifest fun _ => mismatchedRun) oneManifest
      SlotTable.empty empty_clean (.null 0)
      { errCode := .manifestProcessingFailed, token := some oneManifest.token } (by decide +kernel)
  refine ⟨by decide +kernel, done, rest, calls, attempted, progress, ?_⟩
  intro none
  cases remains none

/-- The payload that did not match stays in the table. -/
theorem mismatchedUpdate_changes : ¬ ∀ (lib : Libraries) (manifests : Nat → ManifestEnv) (update : TeepUpdate)
    (state : SuitState) (error : TeepError), (processUpdate lib manifests update state).message = .error error →
      ∀ record, record ∈ (processUpdate lib manifests update state).state.table.active ↔
        record ∈ state.table.active := by
  intro unchanged
  have same := unchanged smallLibraries (fun _ => workingManifest fun _ => mismatchedRun) oneManifest
    ⟨SlotTable.empty, .null 0⟩ { errCode := .manifestProcessingFailed, token := some oneManifest.token }
    (by decide +kernel) (mismatchedUpdate.state.table.slot 0)
  have stored : mismatchedUpdate.state.table.slot 0 ∈ mismatchedUpdate.state.table.active := by decide +kernel
  cases same.mp stored

end Taws.Teep
