import Taws.Machine
import Taws.Teep.Reference

/-!
# Where an attached SUIT report comes from

The report callback replaces `g_suit_report` only by a report that is not empty, and nothing else clears it.
So a message carries the report of its own processing if that processing has reported, and otherwise whatever
an earlier one has left.

* `storedReport` — what is stored after a number of callbacks.
* `stoppedAt` — the manifest at which the loop of `process_update` ends early.
* `fresh_iff`, `suitReport_fresh_iff` — exactly when an attached report is of its own processing.
-/

namespace Taws.Teep

open Suit

variable {csuit : Libcsuit} {callbacks : List SuitCallback} {stored report : Buffer} {state : SuitState}

/-! ## The stored report -/

def storeReport (stored : Buffer) : SuitCallback → Buffer
  | .report suitReport malloc => (wrapSuitReportCallback suitReport malloc stored).2
  | _ => stored

def storedReport (callbacks : List SuitCallback) (stored : Buffer) : Buffer := callbacks.foldl storeReport stored

/-- The report callback is called with a report that is not empty. -/
def Reports (callbacks : List SuitCallback) : Prop :=
  ∃ suitReport malloc, .report suitReport malloc ∈ callbacks ∧ suitReport.isNullOrEmpty = false

/-- One of the callbacks has stored this report. -/
def Produces (callbacks : List SuitCallback) (report : Buffer) : Prop :=
  ∃ suitReport, .report suitReport true ∈ callbacks ∧ suitReport.isNullOrEmpty = false ∧
    report = .bytes suitReport.data

theorem Produces.reports (produces : Produces callbacks report) : Reports callbacks := by
  obtain ⟨suitReport, member, full, _⟩ := produces
  exact ⟨suitReport, true, member, full⟩

theorem Reports.cons (reports : Reports callbacks) (callback : SuitCallback) : Reports (callback :: callbacks) := by
  obtain ⟨suitReport, malloc, member, full⟩ := reports
  exact ⟨suitReport, malloc, List.mem_cons_of_mem _ member, full⟩

theorem Produces.cons (produces : Produces callbacks report) (callback : SuitCallback) :
    Produces (callback :: callbacks) report := by
  obtain ⟨suitReport, member, full, same⟩ := produces
  exact ⟨suitReport, List.mem_cons_of_mem _ member, full, same⟩

theorem runCallback_suitReport (csuit : Libcsuit) (callback : SuitCallback) (state : SuitState) :
    (runCallback csuit callback state).2.suitReport = storeReport state.suitReport callback := by
  cases callback <;> rfl

theorem runCallbacks_suitReport (csuit : Libcsuit) (callbacks : List SuitCallback) (state : SuitState) :
    (runCallbacks csuit callbacks state).2.suitReport = storedReport callbacks state.suitReport := by
  induction callbacks generalizing state with
  | nil => rfl
  | cons callback callbacks inductionHypothesis =>
    change (runCallbacks csuit callbacks (runCallback csuit callback state).2).2.suitReport = _
    rw [inductionHypothesis, runCallback_suitReport]
    rfl

/-- One callback leaves the report alone, or it reports, and then the report is its own or none. -/
theorem storeReport_cases (stored : Buffer) (callback : SuitCallback) :
    (¬ Reports [callback] ∧ storeReport stored callback = stored) ∨
      (Reports [callback] ∧
        (storeReport stored callback = .null 0 ∨ Produces [callback] (storeReport stored callback))) := by
  cases callback with
  | report suitReport malloc =>
    cases full : suitReport.isNullOrEmpty with
    | true => simp [storeReport, wrapSuitReportCallback, Reports, full]
    | false =>
      have reports : Reports [.report suitReport malloc] := ⟨suitReport, malloc, List.mem_singleton_self _, full⟩
      cases malloc with
      | false => exact .inr ⟨reports, .inl (by simp [storeReport, wrapSuitReportCallback, full])⟩
      | true =>
        have produced : storeReport stored (.report suitReport true) = .bytes suitReport.data := by
          simp [storeReport, wrapSuitReportCallback, full]
        exact .inr ⟨reports, .inr ⟨suitReport, List.mem_singleton_self _, full, produced⟩⟩
  | store args alloc => simp [storeReport, Reports]
  | condition args ret => simp [storeReport, Reports]
  | invoke => simp [storeReport, Reports]

/-- Callbacks that do not report leave the stored report; after others it is theirs, or there is none. -/
theorem storedReport_cases (callbacks : List SuitCallback) (stored : Buffer) :
    (¬ Reports callbacks ∧ storedReport callbacks stored = stored) ∨
      (Reports callbacks ∧
        (storedReport callbacks stored = .null 0 ∨ Produces callbacks (storedReport callbacks stored))) := by
  induction callbacks generalizing stored with
  | nil => exact .inl ⟨by simp [Reports], rfl⟩
  | cons callback callbacks inductionHypothesis =>
    have step : storedReport (callback :: callbacks) stored =
        storedReport callbacks (storeReport stored callback) := rfl
    rw [step]
    cases inductionHypothesis (storeReport stored callback) with
    | inr later =>
      obtain ⟨reports, own⟩ := later
      exact .inr ⟨reports.cons callback, own.imp_right fun produces => produces.cons callback⟩
    | inl noLater =>
      obtain ⟨silent, kept⟩ := noLater
      rw [kept]
      -- then the first callback decides
      have onlyFirst : ∀ suitReport malloc, .report suitReport malloc ∈ callback :: callbacks →
          suitReport.isNullOrEmpty = false → .report suitReport malloc ∈ [callback] := by
        intro suitReport malloc member full
        cases List.mem_cons.mp member with
        | inl first => exact List.mem_singleton.mpr first
        | inr rest => exact absurd ⟨suitReport, malloc, rest, full⟩ silent
      cases storeReport_cases stored callback with
      | inl noFirst =>
        refine .inl ⟨?_, noFirst.2⟩
        intro ⟨suitReport, malloc, member, full⟩
        exact noFirst.1 ⟨suitReport, malloc, onlyFirst _ _ member full, full⟩
      | inr first =>
        obtain ⟨⟨suitReport, malloc, member, full⟩, own⟩ := first
        have reports : Reports (callback :: callbacks) :=
          ⟨suitReport, malloc, List.mem_cons.mpr (.inl (List.mem_singleton.mp member)), full⟩
        refine .inr ⟨reports, own.imp_right ?_⟩
        intro ⟨source, sourceMember, sourceFull, same⟩
        exact ⟨source, List.mem_cons.mpr (.inl (List.mem_singleton.mp sourceMember)), sourceFull, same⟩

/-! ## The loop over the manifests -/

/-- The call of `suit_process_envelope` for a manifest, if the iteration gets to it. -/
def envelopeCall (env : ManifestEnv) (item : Buffer) : Option EnvelopeRun :=
  match (setUpProcessor env).ready with
  | none => none
  | some (_, envelopeBufLen) =>
    if item.isNull || item.len == 0 || item.len > envelopeBufLen then none
    else if !env.addManifest item.data then none
    else some (env.processEnvelope item.data)

/-- The callbacks of all the manifests from `index` on. -/
def updateCallbacks (manifests : Nat → ManifestEnv) : Nat → List Buffer → List SuitCallback
  | _, [] => []
  | index, item :: items =>
    ((manifests index).processEnvelope item.data).callbacks ++ updateCallbacks manifests (index + 1) items

/-- The manifest at which the loop ends early, with its position and the state it finds. -/
def stoppedAt (csuit : Libcsuit) (manifests : Nat → ManifestEnv) :
    Nat → List Buffer → SuitState → Option (Nat × Buffer × SuitState)
  | _, [], _ => none
  | index, item :: items, state =>
    match processManifest csuit (manifests index) item state with
    | (_, _, some _) => some (index, item, state)
    | (after, _, none) => stoppedAt csuit manifests (index + 1) items after

/-- An iteration that gets to the envelope processes it. -/
theorem processManifest_called (csuit : Libcsuit) (state : SuitState) {env : ManifestEnv} {item : Buffer}
    {run : EnvelopeRun} (called : envelopeCall env item = some run) :
    run = env.processEnvelope item.data ∧
    ∃ context, (processManifest csuit env item state).1 = (processEnvelope csuit context run state).1 ∧
      (processManifest csuit env item state).2.2 = (processEnvelope csuit context run state).2.2 := by
  cases ready : (setUpProcessor env).ready with
  | none =>
    rw [envelopeCall, ready] at called
    cases called
  | some set =>
    obtain ⟨context, envelopeBufLen⟩ := set
    rw [envelopeCall, ready] at called
    dsimp only at called
    split at called
    · cases called
    next readable =>
    split at called
    · cases called
    next added =>
    obtain rfl := Option.some.inj called
    simp only [processManifest, ready]
    rw [if_neg readable, if_neg added]
    exact ⟨trivial, context, rfl, rfl⟩

/-- Any other iteration fails, without a report. -/
theorem processManifest_notCalled (csuit : Libcsuit) (state : SuitState) {env : ManifestEnv} {item : Buffer}
    (notCalled : envelopeCall env item = none) :
    ∃ errCode, errCode ≠ .manifestProcessingFailed ∧
      (processManifest csuit env item state).2.2 = some { errCode := errCode } := by
  cases ready : (setUpProcessor env).ready with
  | none =>
    simp only [processManifest, ready]
    exact ⟨.temporaryError, by simp, rfl⟩
  | some set =>
    obtain ⟨context, envelopeBufLen⟩ := set
    rw [envelopeCall, ready] at notCalled
    dsimp only at notCalled
    simp only [processManifest, ready]
    split at notCalled
    · next unreadable =>
      rw [if_pos unreadable]
      exact ⟨.permanentError, by simp, rfl⟩
    next readable =>
    rw [if_neg readable]
    split at notCalled
    · next notAdded =>
      rw [if_pos notAdded]
      exact ⟨.permanentError, by simp, rfl⟩
    · cases notCalled

theorem processEnvelope_suitReport (csuit : Libcsuit) (context : Block) (run : EnvelopeRun) (state : SuitState) :
    (processEnvelope csuit context run state).1.suitReport = storedReport run.callbacks state.suitReport := by
  simp only [processEnvelope]
  split
  · exact runCallbacks_suitReport csuit run.callbacks state
  · split <;> exact runCallbacks_suitReport csuit run.callbacks state

/-- What goes with the error of an envelope: a report only if the processing of the envelope failed. -/
theorem processEnvelope_failure {context : Block} {run : EnvelopeRun} {failure : UpdateFailure}
    (failed : (processEnvelope csuit context run state).2.2 = some failure) :
    (run.result ≠ .success ∧
      failure = ⟨.manifestProcessingFailed, failReport (storedReport run.callbacks state.suitReport)⟩) ∨
    (run.result = .success ∧ failure = { errCode := .temporaryError }) := by
  simp only [processEnvelope, suitGetSuitReport, runCallbacks_suitReport] at failed
  split at failed
  · next result => exact .inl ⟨result, (Option.some.inj failed).symm⟩
  · next result =>
    split at failed
    · exact .inr ⟨not_not.mp result, (Option.some.inj failed).symm⟩
    · cases failed

theorem processManifests_finished {manifests : Nat → ManifestEnv} {index : Nat} {items : List Buffer}
    (finished : stoppedAt csuit manifests index items state = none) :
    (processManifests csuit manifests index items state).2.2 = none ∧
      (processManifests csuit manifests index items state).1.suitReport =
        storedReport (updateCallbacks manifests index items) state.suitReport := by
  induction items generalizing index state with
  | nil => exact ⟨rfl, rfl⟩
  | cons item items inductionHypothesis =>
    simp only [stoppedAt] at finished
    split at finished
    · cases finished
    · next after events processed =>
      obtain ⟨noFailure, report⟩ := inductionHypothesis finished
      simp only [processManifests, processed]
      refine ⟨noFailure, ?_⟩
      -- a manifest that is processed has had its envelope processed
      have first : after.suitReport =
          storedReport ((manifests index).processEnvelope item.data).callbacks state.suitReport := by
        cases called : envelopeCall (manifests index) item with
        | none =>
          obtain ⟨errCode, _, failed⟩ := processManifest_notCalled csuit state called
          rw [processed] at failed
          cases failed
        | some run =>
          obtain ⟨rfl, context, sameState, _⟩ := processManifest_called csuit state called
          rw [processed] at sameState
          rw [show after = _ from sameState, processEnvelope_suitReport]
      rw [report, first, updateCallbacks]
      exact List.foldl_append.symm

theorem processManifests_stopped {manifests : Nat → ManifestEnv} {index position : Nat} {items : List Buffer}
    {item : Buffer} {before : SuitState}
    (stopped : stoppedAt csuit manifests index items state = some (position, item, before)) :
    (processManifests csuit manifests index items state).2.2 =
        (processManifest csuit (manifests position) item before).2.2 ∧
      (processManifest csuit (manifests position) item before).2.2.isSome = true := by
  induction items generalizing index state with
  | nil => cases stopped
  | cons head items inductionHypothesis =>
    simp only [stoppedAt] at stopped
    split at stopped
    · next after events failure processed =>
      obtain ⟨rfl, rfl, rfl⟩ : index = position ∧ head = item ∧ state = before := by simpa using stopped
      simp [processManifests, processed]
    · next after events processed =>
      simp only [processManifests, processed]
      exact inductionHypothesis stopped

/-! ## One Update -/

/-- A report that comes with the message is of the processing that the message is about: of this Update for
a Success, of the envelope that failed for an Error. -/
def Fresh (lib : Libraries) (manifests : Nat → ManifestEnv) (update : TeepUpdate) (state : SuitState) : Prop :=
  match (processUpdate lib manifests update state).message with
  | .success success => ∀ report ∈ success.suitReports,
      Produces (updateCallbacks manifests 0 update.manifestList) report
  | .error error => ∀ report ∈ error.suitReports, ∃ index item before,
      stoppedAt lib.csuit manifests 0 update.manifestList state = some (index, item, before) ∧
      ∃ run ∈ envelopeCall (manifests index) item, run.result ≠ .success ∧ Produces run.callbacks report
  | _ => True

/-- Where the stored report is read, the processing in question has reported, or it has found no report that
could be attached. -/
def FindsNoReport (lib : Libraries) (manifests : Nat → ManifestEnv) (update : TeepUpdate) (state : SuitState) :
    Prop :=
  tokenAccepted update = true → manifestListAccepted lib.teep update = true →
    match stoppedAt lib.csuit manifests 0 update.manifestList state with
    | none => Reports (updateCallbacks manifests 0 update.manifestList) ∨ state.suitReport.isNullOrEmpty = true
    | some (index, item, before) => ∀ run ∈ envelopeCall (manifests index) item, run.result ≠ .success →
        Reports run.callbacks ∨ before.suitReport.isNullOrEmpty = true ∨ before.suitReport.len > workBufLen

theorem attached_iff : (!report.isNull && decide (report.len > 0)) = true ↔ report.isNullOrEmpty = false := by
  cases report with
  | null length => simp
  | bytes data => cases data <;> simp

theorem createSuccess_fresh (callbacks : List SuitCallback) (stored : Buffer) (update : TeepUpdate) :
    (match createSuccess update (storedReport callbacks stored) with
      | .success success => ∀ report ∈ success.suitReports, Produces callbacks report
      | _ => True) ↔ (Reports callbacks ∨ stored.isNullOrEmpty = true) := by
  simp only [createSuccess]
  cases storedReport_cases callbacks stored with
  | inl silent =>
    obtain ⟨notReports, kept⟩ := silent
    rw [kept]
    cases full : stored.isNullOrEmpty with
    | true =>
      have notAttached : ¬ (!stored.isNull && decide (stored.len > 0)) = true := by
        rw [attached_iff, full]
        exact Bool.true_eq_false_eq_False
      simp [notAttached]
    | false =>
      -- the report of an earlier processing is attached
      simp only [attached_iff.mpr full, if_true, Option.mem_some_iff, forall_eq', notReports, false_or,
        Bool.false_eq_true, iff_false]
      exact fun produces => notReports produces.reports
  | inr reported =>
    obtain ⟨reports, own⟩ := reported
    refine iff_of_true ?_ (.inl reports)
    intro report attached
    cases own with
    | inl none => simp [none] at attached
    | inr produces =>
      split at attached
      · rwa [← Option.some.inj attached]
      · cases attached

/-- The scratch buffer decides what an Error can carry. -/
theorem failReport_eq (report : Buffer) : failReport report =
    if report.isNullOrEmpty = false ∧ report.len ≤ workBufLen then report else .null 0 := by
  cases report with
  | null length => simp [failReport]
  | bytes data =>
    rw [failReport]
    refine if_congr ?_ rfl rfl
    rw [Bool.and_eq_true, decide_eq_true_iff, attached_iff]

/-- The report that goes with a failed envelope: its own, or one that was stored before it. -/
theorem failReport_fresh (callbacks : List SuitCallback) (stored : Buffer) :
    ((failReport (storedReport callbacks stored)).isNullOrEmpty = false →
      Produces callbacks (failReport (storedReport callbacks stored))) ↔
    (Reports callbacks ∨ stored.isNullOrEmpty = true ∨ stored.len > workBufLen) := by
  rw [failReport_eq]
  cases storedReport_cases callbacks stored with
  | inl silent =>
    obtain ⟨notReports, kept⟩ := silent
    rw [kept]
    split
    · next readable =>
      -- the report of an earlier processing is attached
      obtain ⟨full, fits⟩ := readable
      have notLong : ¬ stored.len > workBufLen := by omega
      simp only [full, forall_const, notReports, notLong, Bool.false_eq_true, or_self, iff_false]
      exact fun produces => notReports produces.reports
    · next unreadable =>
      refine iff_of_true (fun full => by simp at full) (.inr ?_)
      cases full : stored.isNullOrEmpty with
      | true => exact .inl rfl
      | false =>
        have notFits : ¬ stored.len ≤ workBufLen := fun fits => unreadable ⟨full, fits⟩
        exact .inr (by omega)
  | inr reported =>
    obtain ⟨reports, own⟩ := reported
    refine iff_of_true ?_ (.inl reports)
    intro full
    split at full
    · next readable =>
      rw [if_pos readable]
      cases own with
      | inl none => rw [none] at full; simp at full
      | inr produces => exact produces
    · simp at full

theorem createError_suitReports (teep : Libteep) (token : Buffer) (errCode : TeepErrCode) (report : Buffer) :
    ∃ error, createError teep token errCode (.null 0) report = .error error ∧
      ∀ attached, attached ∈ error.suitReports ↔
        errCode = .manifestProcessingFailed ∧ report.isNullOrEmpty = false ∧ attached = report := by
  refine ⟨_, rfl, ?_⟩
  intro attached
  cases report with
  | null length => simp
  | bytes data => cases data <;> simp [eq_comm]

/-- Only the Error about a failed envelope carries a report. -/
theorem fresh_of_createError {lib : Libraries} {manifests : Nat → ManifestEnv} {update : TeepUpdate}
    {token : Buffer} {errCode : TeepErrCode}
    (answered : (processUpdate lib manifests update state).message =
      createError lib.teep token errCode (.null 0) report)
    (other : errCode ≠ .manifestProcessingFailed) : Fresh lib manifests update state := by
  obtain ⟨error, same, attached⟩ := createError_suitReports lib.teep token errCode report
  rw [same] at answered
  simp only [Fresh, answered]
  intro report member
  exact absurd ((attached report).mp member).1 other

theorem processUpdate_finished {lib : Libraries} {manifests : Nat → ManifestEnv} {update : TeepUpdate}
    (token : tokenAccepted update = true) (list : manifestListAccepted lib.teep update = true)
    (finished : (processManifests lib.csuit manifests 0 update.manifestList state).2.2 = none) :
    (processUpdate lib manifests update state).message = createSuccess update
      (suitGetSuitReport (processManifests lib.csuit manifests 0 update.manifestList state).1) := by
  simp only [processUpdate, token, list, Bool.not_true, Bool.false_eq_true, if_false]
  split
  · next processed =>
    rw [processed] at finished
    cases finished
  · next processed => rw [processed]

theorem processUpdate_failed {lib : Libraries} {manifests : Nat → ManifestEnv} {update : TeepUpdate}
    {failure : UpdateFailure} (token : tokenAccepted update = true)
    (list : manifestListAccepted lib.teep update = true)
    (failed : (processManifests lib.csuit manifests 0 update.manifestList state).2.2 = some failure) :
    (processUpdate lib manifests update state).message =
      createError lib.teep update.token failure.errCode (.null 0) failure.errorSuitReport := by
  simp only [processUpdate, token, list, Bool.not_true, Bool.false_eq_true, if_false]
  split
  · next processed =>
    rw [processed] at failed
    rw [Option.some.inj failed]
  · next processed =>
    rw [processed] at failed
    cases failed

theorem fresh_finished {lib : Libraries} {manifests : Nat → ManifestEnv} {update : TeepUpdate}
    (token : tokenAccepted update = true) (list : manifestListAccepted lib.teep update = true)
    (finished : stoppedAt lib.csuit manifests 0 update.manifestList state = none) :
    Fresh lib manifests update state ↔
      (Reports (updateCallbacks manifests 0 update.manifestList) ∨ state.suitReport.isNullOrEmpty = true) := by
  obtain ⟨noFailure, report⟩ := processManifests_finished finished
  have answered : (processUpdate lib manifests update state).message =
      createSuccess update
        (storedReport (updateCallbacks manifests 0 update.manifestList) state.suitReport) := by
    rw [← report]
    exact processUpdate_finished token list noFailure
  rw [← createSuccess_fresh _ _ update]
  simp only [Fresh, answered, createSuccess]

theorem fresh_stopped {lib : Libraries} {manifests : Nat → ManifestEnv} {update : TeepUpdate} {index : Nat}
    {item : Buffer} {before : SuitState} (token : tokenAccepted update = true)
    (list : manifestListAccepted lib.teep update = true)
    (stopped : stoppedAt lib.csuit manifests 0 update.manifestList state = some (index, item, before)) :
    Fresh lib manifests update state ↔
      ∀ run ∈ envelopeCall (manifests index) item, run.result ≠ .success →
        (Reports run.callbacks ∨ before.suitReport.isNullOrEmpty = true ∨
          before.suitReport.len > workBufLen) := by
  obtain ⟨sameFailure, isSome⟩ := processManifests_stopped stopped
  obtain ⟨failure, failed⟩ := Option.isSome_iff_exists.mp isSome
  have answered : (processUpdate lib manifests update state).message =
      createError lib.teep update.token failure.errCode (.null 0) failure.errorSuitReport :=
    processUpdate_failed token list (sameFailure.trans failed)
  cases called : envelopeCall (manifests index) item with
  | none =>
    obtain ⟨errCode, other, notCalled⟩ := processManifest_notCalled lib.csuit before called
    obtain rfl : failure = { errCode := errCode } := Option.some.inj (failed.symm.trans notCalled)
    simp [fresh_of_createError answered other]
  | some run =>
    obtain ⟨_, context, _, itsFailure⟩ := processManifest_called lib.csuit before called
    rw [itsFailure] at failed
    simp only [Option.mem_some_iff, forall_eq']
    cases processEnvelope_failure failed with
    | inr succeeded =>
      -- the envelope succeeded and the record was refused
      obtain ⟨result, rfl⟩ := succeeded
      refine iff_of_true (fresh_of_createError answered (by simp)) ?_
      exact fun notSuccess => absurd result notSuccess
    | inl ofEnvelope =>
      obtain ⟨result, rfl⟩ := ofEnvelope
      obtain ⟨error, same, attached⟩ := createError_suitReports lib.teep update.token
        .manifestProcessingFailed (failReport (storedReport run.callbacks before.suitReport))
      rw [same] at answered
      simp only [result, ne_eq, not_false_eq_true, forall_const]
      rw [← failReport_fresh]
      simp only [Fresh, answered]
      constructor
      · intro fresh full
        obtain ⟨_, _, _, there, own, calledOwn, _, produces⟩ := fresh _ ((attached _).mpr ⟨rfl, full, rfl⟩)
        obtain ⟨rfl, rfl, rfl⟩ : index = _ ∧ item = _ ∧ before = _ := by
          simpa using (stopped.symm.trans there)
        obtain rfl : run = own := Option.some.inj (called.symm.trans calledOwn)
        exact produces
      · intro produces report member
        obtain ⟨_, full, rfl⟩ := (attached report).mp member
        exact ⟨index, item, before, stopped, run, called, result, produces full⟩

theorem fresh_iff (lib : Libraries) (manifests : Nat → ManifestEnv) (update : TeepUpdate) (state : SuitState) :
    Fresh lib manifests update state ↔ FindsNoReport lib manifests update state := by
  cases token : tokenAccepted update with
  | false =>
    have answered : (processUpdate lib manifests update state).message =
        createError lib.teep update.token .permanentError (.null 0) (.null 0) := by
      simp [processUpdate, token]
    simp [FindsNoReport, token, fresh_of_createError answered]
  | true =>
    cases list : manifestListAccepted lib.teep update with
    | false =>
      have answered : (processUpdate lib manifests update state).message =
          createError lib.teep update.token .permanentError (.null 0) (.null 0) := by
        simp [processUpdate, token, list]
      simp [FindsNoReport, list, fresh_of_createError answered]
    | true =>
      simp only [FindsNoReport, token, list, forall_const]
      cases stops : stoppedAt lib.csuit manifests 0 update.manifestList state with
      | none => exact fresh_finished token list stops
      | some stop => exact fresh_stopped token list stops

/-! ## Runs of Updates -/

/-- One Update, with what happens to the manifest at each position of its list. -/
structure UpdateCall where
  manifests : Nat → ManifestEnv
  update : TeepUpdate

def updates (lib : Libraries) : Machine SuitState UpdateCall TeepMessage where
  step state call :=
    let updated := processUpdate lib call.manifests call.update state
    (updated.state, [updated.message])

/-- Along every run, the attached reports are of their own processing exactly when every Update that reads the
stored report has had it written, or found none. -/
theorem suitReport_fresh_iff (lib : Libraries) (state : SuitState) (calls : List UpdateCall) :
    (updates lib).Meets (fun state call => Fresh lib call.manifests call.update state) state calls ↔
      (updates lib).Meets (fun state call => FindsNoReport lib call.manifests call.update state) state calls := by
  have preserved : ∀ (state : SuitState) (call : UpdateCall), True →
      Fresh lib call.manifests call.update state → True := fun _ _ _ _ => trivial
  apply Machine.meets_congr preserved
  · intro state call _
    exact fresh_iff lib call.manifests call.update state
  · trivial

/-- The manifest is stored and the envelope succeeds; only the first of two Updates reports. -/
def installedRun (digest : UInt8) (sequence : UInt64) (reports : List SuitCallback) : EnvelopeRun where
  manifestDigest := .bytes [digest]
  callbacks := .store (manifestStore [digest] sequence [109] [160]) ⟨true, true⟩ ::
    .store (payloadStore [digest] sequence [97] wasmVersion1) ⟨true, true⟩ :: reports
  result := .success

def reportingUpdate : UpdateCall where
  manifests := fun _ => workingManifest fun _ => installedRun 1 1 [.report (.bytes [1, 2, 3]) true]
  update := ⟨{.token}, .bytes (List.replicate 8 0), [.bytes [0xa0]]⟩

def silentUpdate : UpdateCall where
  manifests := fun _ => workingManifest fun _ => installedRun 2 2 []
  update := ⟨{.token}, .bytes (List.replicate 8 0), [.bytes [0xa0]]⟩

/-- The Success of the second Update carries the report of the first. -/
theorem suitReport_outlivesUpdate :
    ((updates smallLibraries).run ⟨SlotTable.empty, .null 0⟩ [reportingUpdate, silentUpdate]).2 =
      List.replicate 2 (.success ⟨.bytes (List.replicate 8 0), some (.bytes [1, 2, 3])⟩) ∧
    ¬ (updates smallLibraries).Meets (fun state call => Fresh smallLibraries call.manifests call.update state)
      ⟨SlotTable.empty, .null 0⟩ [reportingUpdate, silentUpdate] := by
  constructor
  · decide +kernel
  · intro ⟨_, fresh, _⟩
    have answered : (processUpdate smallLibraries silentUpdate.manifests silentUpdate.update
        ((updates smallLibraries).step ⟨SlotTable.empty, .null 0⟩ reportingUpdate).1).message =
          .success ⟨.bytes (List.replicate 8 0), some (.bytes [1, 2, 3])⟩ := by decide +kernel
    simp only [Fresh, answered] at fresh
    obtain ⟨suitReport, member, _, _⟩ := fresh (.bytes [1, 2, 3]) rfl
    have silent : ∀ callback ∈ updateCallbacks silentUpdate.manifests 0 silentUpdate.update.manifestList,
        callback ≠ .report suitReport true := by
      simp [silentUpdate, updateCallbacks, workingManifest, installedRun]
    exact silent _ member rfl

end Taws.Teep
