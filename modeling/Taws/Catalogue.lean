import Taws.Latest
import Taws.Refinement

/-!
# Catalogues

A catalogue is given entries, in batches, and is asked what it has and for the entry of a key.  All that it shows is
the latest entry of each key among those that it has been given.

* `CatalogueEvent` — what is seen of it.
* `CatalogueStep` — what it may do; its state is the list of the entries that it has been given, newest first.
* `CatalogueStep.keeps` — it forgets nothing.
* `CatalogueRun.delivered` — a batch that has been taken is there at the end.
* `CatalogueRun.noDowngrade` — what is fetched for a key is never outranked by what was fetched for it before.
-/

namespace Taws

open scoped List

inductive CatalogueEvent (α κ ι : Type) where
  /-- A batch, all of which has been taken. -/
  | delivered (entries : List α)
  /-- A batch of which some first part has been taken. -/
  | interrupted (entries : List α)
  /-- The labels of the entries that are shown, in any order. -/
  | listed (labels : List (Option ι))
  | fetched (wanted : κ) (label : Option ι)
  | absent (wanted : κ)
  /-- Nothing is shown. -/
  | refused
  deriving DecidableEq

variable {α κ ν ι : Type} [LinearOrder ν]

inductive CatalogueStep (key : α → κ) (rank : α → ν) (label : α → ι) :
    List α → CatalogueEvent α κ ι → List α → Prop where
  | delivered {history entries : List α} :
    CatalogueStep key rank label history (.delivered entries) (entries.reverse ++ history)
  | interrupted {history done rest : List α} :
    CatalogueStep key rank label history (.interrupted (done ++ rest)) (done.reverse ++ history)
  | listed {history entries : List α} {labels : List (Option ι)} (nodup : entries.Nodup)
      (latest : ∀ entry, entry ∈ entries ↔ IsLatest key rank history entry)
      (labelled : labels ~ entries.map fun entry => some (label entry)) :
    CatalogueStep key rank label history (.listed labels) history
  | fetched {history : List α} {entry : α} (latest : IsLatest key rank history entry) :
    CatalogueStep key rank label history (.fetched (key entry) (some (label entry))) history
  | absent {history : List α} {wanted : κ} (none : ∀ entry ∈ history, key entry ≠ wanted) :
    CatalogueStep key rank label history (.absent wanted) history
  | refused {history : List α} : CatalogueStep key rank label history .refused history

variable {key : α → κ} {rank : α → ν} {label : α → ι} {history before after : List α}

theorem CatalogueStep.keeps {event : CatalogueEvent α κ ι} (step : CatalogueStep key rank label before event after) :
    ∀ entry ∈ before, entry ∈ after := by
  intro entry member
  cases step with
  | delivered => exact List.mem_append_right _ member
  | interrupted => exact List.mem_append_right _ member
  | listed nodup latest labelled => exact member
  | fetched latest => exact member
  | absent none => exact member
  | refused => exact member

theorem CatalogueStep.ofFetched {wanted : κ} {shown : Option ι}
    (step : CatalogueStep key rank label before (.fetched wanted shown) after) :
    after = before ∧ ∃ entry, IsLatest key rank before entry ∧ key entry = wanted ∧ shown = some (label entry) := by
  generalize isEvent : CatalogueEvent.fetched wanted shown = event at step
  cases step with
  | fetched latest =>
    cases isEvent
    exact ⟨rfl, _, latest, rfl, rfl⟩
  | delivered => cases isEvent
  | interrupted => cases isEvent
  | listed nodup latest labelled => cases isEvent
  | absent none => cases isEvent
  | refused => cases isEvent

theorem CatalogueRun.keeps {seen : List (CatalogueEvent α κ ι)} {entry : α}
    (run : SpecRun (CatalogueStep key rank label) before seen after) (member : entry ∈ before) : entry ∈ after :=
  run.invariant (fun _ _ _ step member => step.keeps entry member) member

/-- A batch that has been taken is there at the end. -/
theorem CatalogueRun.delivered {seen : List (CatalogueEvent α κ ι)} {entries : List α}
    (run : SpecRun (CatalogueStep key rank label) before seen after) (isSeen : .delivered entries ∈ seen) :
    ∀ entry ∈ entries, entry ∈ after := by
  obtain ⟨front, back, rfl⟩ := List.append_of_mem isSeen
  obtain ⟨_, _, rest⟩ := run.split
  cases rest with
  | cons step later =>
    intro entry member
    cases step with
    | delivered =>
      apply CatalogueRun.keeps later
      exact List.mem_append_left _ (List.mem_reverse.mpr member)

/-- What is fetched for a key is never outranked by what was fetched for it before. -/
theorem CatalogueRun.noDowngrade {front middle back : List (CatalogueEvent α κ ι)} {wanted : κ}
    {shown later : Option ι} (run : SpecRun (CatalogueStep key rank label) before
      (front ++ .fetched wanted shown :: middle ++ .fetched wanted later :: back) after) :
    ∃ entry ∈ after, ∃ newer ∈ after, key entry = wanted ∧ key newer = wanted ∧ shown = some (label entry) ∧
      later = some (label newer) ∧ rank entry ≤ rank newer := by
  obtain ⟨_, firstPart, secondPart⟩ := run.split
  obtain ⟨_, _, firstFetch⟩ := firstPart.split
  cases firstFetch with
  | cons firstStep middleRun =>
    cases secondPart with
    | cons secondStep lastRun =>
      obtain ⟨rfl, entry, latest, isWanted, isShown⟩ := firstStep.ofFetched
      obtain ⟨rfl, newer, newest, newerWanted, isLater⟩ := secondStep.ofFetched
      have stillThere := CatalogueRun.keeps middleRun latest.1
      exact ⟨entry, CatalogueRun.keeps lastRun stillThere, newer, CatalogueRun.keeps lastRun newest.1, isWanted,
        newerWanted, isShown, isLater, newest.2 entry stillThere (isWanted.trans newerWanted.symm)⟩

end Taws
