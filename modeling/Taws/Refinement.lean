import Taws.Machine

/-!
# Refinement

A specification says, with a relation that need not be a function, which steps are allowed and what is seen of each
of them.  A machine refines it when every one of its steps is matched by one that looks the same.

* `Spec`, `SpecRun` — specifications and their runs.
* `Machine.observed` — what is seen of a run of a machine.
* `Machine.refines` — from steps to runs.
* `SpecRun.split`, `SpecRun.append` — the parts of a run.
* `SpecRun.invariant` — what every allowed step keeps, every allowed run keeps.
* `Sessions` — a specification that is used several steps at a time, and can be started anew.
* `SpecRun.lastSession` — what has been seen since the last start is a run of the specification.
-/

namespace Taws

variable {σ τ α ε ω : Type}

/-- From a state, with what is seen of the step, to a state. -/
abbrev Spec (τ ω : Type) := τ → ω → τ → Prop

inductive SpecRun (spec : Spec τ ω) : τ → List ω → τ → Prop where
  | nil {state : τ} : SpecRun spec state [] state
  | cons {before next after : τ} {seen : ω} {later : List ω} (step : spec before seen next)
      (rest : SpecRun spec next later after) : SpecRun spec before (seen :: later) after

/-- A run that is seen in two parts stops in between. -/
theorem SpecRun.split {spec : Spec τ ω} {before after : τ} {first second : List ω}
    (run : SpecRun spec before (first ++ second) after) :
    ∃ between, SpecRun spec before first between ∧ SpecRun spec between second after := by
  induction first generalizing before with
  | nil => exact ⟨before, .nil, run⟩
  | cons seen first inductionHypothesis =>
    cases run with
    | cons step rest =>
      obtain ⟨between, front, back⟩ := inductionHypothesis rest
      exact ⟨between, .cons step front, back⟩

theorem SpecRun.append {spec : Spec τ ω} {before between after : τ} {first second : List ω}
    (front : SpecRun spec before first between) (back : SpecRun spec between second after) :
    SpecRun spec before (first ++ second) after := by
  induction front with
  | nil => exact back
  | cons step rest inductionHypothesis => exact .cons step (inductionHypothesis back)

theorem SpecRun.invariant {spec : Spec τ ω} {invariant : τ → Prop}
    (preserved : ∀ before seen after, spec before seen after → invariant before → invariant after)
    {before after : τ} {seen : List ω} (run : SpecRun spec before seen after) (initial : invariant before) :
    invariant after := by
  induction run with
  | nil => exact initial
  | cons step rest inductionHypothesis => exact inductionHypothesis (preserved _ _ _ step initial)

/-! ## Sessions -/

/-- Several steps at a time, of which is seen what is seen of each, or a new start. -/
inductive Sessions (spec : Spec τ ω) (start : τ) : Spec τ (Option (List ω)) where
  | goesOn {before after : τ} {seen : List ω} (run : SpecRun spec before seen after) :
    Sessions spec start before (some seen) after
  | startsAnew {before : τ} : Sessions spec start before none start

/-- What has been seen since the last start, where `earlier` had been seen before. -/
def lastSession (earlier : List ω) : List (Option (List ω)) → List ω
  | [] => earlier
  | some seen :: later => lastSession (earlier ++ seen) later
  | none :: later => lastSession [] later

theorem SpecRun.lastSession {spec : Spec τ ω} {start before after : τ} {earlier : List ω}
    {seen : List (Option (List ω))} (run : SpecRun (Sessions spec start) before seen after)
    (began : SpecRun spec start earlier before) : SpecRun spec start (lastSession earlier seen) after := by
  induction run generalizing earlier with
  | nil => exact began
  | cons step rest inductionHypothesis =>
    cases step with
    | goesOn run => exact inductionHypothesis (began.append run)
    | startsAnew => exact inductionHypothesis .nil

/-! ## Machines -/

namespace Machine

/-- What is seen of each step. -/
def observed (machine : Machine σ α ε) (observe : σ → α → ω) : σ → List α → List ω
  | _, [] => []
  | state, action :: actions =>
    observe state action :: machine.observed observe (machine.step state action).1 actions

theorem observed_append (machine : Machine σ α ε) (observe : σ → α → ω) (state : σ) (first second : List α) :
    machine.observed observe state (first ++ second) =
      machine.observed observe state first ++ machine.observed observe (machine.run state first).1 second := by
  induction first generalizing state with
  | nil => rfl
  | cons action actions inductionHypothesis =>
    rw [List.cons_append, observed, observed, inductionHypothesis, List.cons_append, run_cons]

/-- If each step that meets the condition is matched from related states, and leads to related states again, so is
each run. -/
theorem refines {machine : Machine σ α ε} {observe : σ → α → ω} {spec : Spec τ ω} {relates : σ → τ → Prop}
    {condition : σ → α → Prop}
    (matched : ∀ state abstract action, relates state abstract → condition state action →
      ∃ next, spec abstract (observe state action) next ∧ relates (machine.step state action).1 next)
    {state : σ} {abstract : τ} {actions : List α} (related : relates state abstract)
    (meets : machine.Meets condition state actions) :
    ∃ after, SpecRun spec abstract (machine.observed observe state actions) after ∧
      relates (machine.run state actions).1 after := by
  induction actions generalizing state abstract with
  | nil => exact ⟨abstract, .nil, related⟩
  | cons action actions inductionHypothesis =>
    obtain ⟨next, step, nextRelated⟩ := matched state abstract action related meets.1
    obtain ⟨after, rest, afterRelated⟩ := inductionHypothesis nextRelated meets.2
    exact ⟨after, .cons step rest, afterRelated⟩

end Machine

end Taws
