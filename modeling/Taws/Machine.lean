/-!
# Machines and their runs

A deterministic machine that takes one action at a time and emits events.  Whatever the outside
world decides (an allocation, a library outcome) is part of the action, so a run is a list of actions,
and a statement about every run is a statement about every list.

* `run` — the state and the events of a whole run.
* `run_simulates` — a machine that does step by step what another does, seen through a function, does so
  in runs.
* `run_map` — a machine that takes actions as another one takes what they stand for runs like it.
* `Meets` — every step of the run satisfies a condition on the state it is taken from.
* `Along` — every state of the run has a property; `along_iff` reads it step by step.
* `meets_congr` — conditions that agree wherever an invariant holds agree along runs.
* `meets_of_invariant` — from what each step gives under an invariant to what a run gives.
* `run_preserves`, `Meets.run_invariant` — what one step preserves, a run preserves.
* `run_events` — what holds of every event of one step, given what was emitted before it, holds of
  every event of a run.
* `run_history` — the invariant rule for invariants that look at what was emitted.
-/

namespace Taws

structure Machine (σ α ε : Type) where
  step : σ → α → σ × List ε

namespace Machine

variable {σ α ε : Type} (machine : Machine σ α ε)

/-- The state after the actions, and the events they emitted, oldest first. -/
def run : σ → List α → σ × List ε
  | state, [] => (state, [])
  | state, action :: actions =>
    ((run (machine.step state action).1 actions).1,
      (machine.step state action).2 ++ (run (machine.step state action).1 actions).2)

/-- Every step of the run satisfies `condition` in the state it is taken from. -/
def Meets (condition : σ → α → Prop) : σ → List α → Prop
  | _, [] => True
  | state, action :: actions =>
    condition state action ∧ Meets condition (machine.step state action).1 actions

/-- Every state of the run, the first one included, has `property`. -/
def Along (property : σ → Prop) (state : σ) (actions : List α) : Prop :=
  ∀ front, front <+: actions → property (machine.run state front).1

instance decidableMeets (condition : σ → α → Prop) [∀ state action, Decidable (condition state action)] :
    ∀ (state : σ) (actions : List α), Decidable (machine.Meets condition state actions)
  | _, [] => .isTrue trivial
  | state, action :: actions =>
    have := decidableMeets condition (machine.step state action).1 actions
    inferInstanceAs (Decidable (_ ∧ _))

@[simp] theorem run_nil (state : σ) : machine.run state [] = (state, []) := rfl

@[simp] theorem run_cons (state : σ) (action : α) (actions : List α) :
    machine.run state (action :: actions) =
      ((machine.run (machine.step state action).1 actions).1,
        (machine.step state action).2 ++ (machine.run (machine.step state action).1 actions).2) := rfl

@[simp] theorem meets_nil (condition : σ → α → Prop) (state : σ) :
    machine.Meets condition state [] ↔ True := Iff.rfl

@[simp] theorem meets_cons (condition : σ → α → Prop) (state : σ) (action : α) (actions : List α) :
    machine.Meets condition state (action :: actions) ↔
      condition state action ∧ machine.Meets condition (machine.step state action).1 actions := Iff.rfl

theorem run_append (state : σ) (first second : List α) :
    machine.run state (first ++ second) =
      ((machine.run (machine.run state first).1 second).1,
        (machine.run state first).2 ++ (machine.run (machine.run state first).1 second).2) := by
  induction first generalizing state with
  | nil => simp
  | cons action actions inductionHypothesis => simp [inductionHypothesis]

theorem meets_append (condition : σ → α → Prop) (state : σ) (first second : List α) :
    machine.Meets condition state (first ++ second) ↔
      machine.Meets condition state first ∧
        machine.Meets condition (machine.run state first).1 second := by
  induction first generalizing state with
  | nil => simp
  | cons action actions inductionHypothesis => simp [inductionHypothesis, and_assoc]

theorem along_cons (property : σ → Prop) (state : σ) (action : α) (actions : List α) :
    machine.Along property state (action :: actions) ↔
      property state ∧ machine.Along property (machine.step state action).1 actions := by
  constructor
  · intro along
    refine ⟨along [] List.nil_prefix, ?_⟩
    intro front isPrefix
    exact along (action :: front) (List.cons_prefix_cons.mpr ⟨rfl, isPrefix⟩)
  · rintro ⟨first, later⟩ front isPrefix
    cases front with
    | nil => exact first
    | cons head front =>
      obtain ⟨rfl, rest⟩ := List.cons_prefix_cons.mp isPrefix
      exact later front rest

/-- A property of the states of a run is one of its first state and of what each step leads to. -/
theorem along_iff (property : σ → Prop) (state : σ) (actions : List α) :
    machine.Along property state actions ↔
      property state ∧ machine.Meets (fun state action => property (machine.step state action).1) state actions := by
  induction actions generalizing state with
  | nil => simp [Along]
  | cons action actions inductionHypothesis => rw [along_cons, inductionHypothesis, meets_cons]

/-- The rule for simulations: what each step of the first machine does to the state, the second does to its
image; so runs end in the image of each other. -/
theorem run_simulates {τ δ : Type} {first : Machine σ α ε} {second : Machine τ α δ} {image : σ → τ}
    (simulates : ∀ state action, image (first.step state action).1 = (second.step (image state) action).1)
    (state : σ) (actions : List α) : image (first.run state actions).1 = (second.run (image state) actions).1 := by
  induction actions generalizing state with
  | nil => rfl
  | cons action actions inductionHypothesis =>
    rw [run_cons, run_cons, ← simulates state action]
    exact inductionHypothesis _

/-- A machine that takes actions as another one takes what they stand for runs like it. -/
theorem run_map {β : Type} {first : Machine σ α ε} {second : Machine σ β ε} {read : β → α} {actions : List β}
    (same : ∀ action ∈ actions, ∀ state, first.step state (read action) = second.step state action) (state : σ) :
    first.run state (actions.map read) = second.run state actions := by
  induction actions generalizing state with
  | nil => rfl
  | cons action actions inductionHypothesis =>
    rw [List.forall_mem_cons] at same
    rw [List.map_cons, run_cons, run_cons, same.1 state, inductionHypothesis same.2]

/-- A condition that does not look at the state is a condition on the list of actions. -/
theorem meets_const (condition : α → Prop) (state : σ) (actions : List α) :
    machine.Meets (fun _ => condition) state actions ↔ ∀ action ∈ actions, condition action := by
  induction actions generalizing state with
  | nil => simp
  | cons action actions inductionHypothesis => simp [inductionHypothesis]

theorem Meets.and {machine : Machine σ α ε} {first second : σ → α → Prop} {state : σ}
    {actions : List α} (left : machine.Meets first state actions)
    (right : machine.Meets second state actions) :
    machine.Meets (fun state action => first state action ∧ second state action) state actions := by
  induction actions generalizing state with
  | nil => trivial
  | cons action actions inductionHypothesis =>
    exact ⟨⟨left.1, right.1⟩, inductionHypothesis left.2 right.2⟩

theorem Meets.mono {machine : Machine σ α ε} {first second : σ → α → Prop} {state : σ}
    {actions : List α} (weaker : ∀ state action, first state action → second state action)
    (meets : machine.Meets first state actions) : machine.Meets second state actions := by
  induction actions generalizing state with
  | nil => trivial
  | cons action actions inductionHypothesis => exact ⟨weaker _ _ meets.1, inductionHypothesis meets.2⟩

/-- Conditions that agree wherever an invariant holds agree along the runs that start in it. -/
theorem meets_congr {machine : Machine σ α ε} {invariant : σ → Prop} {first second : σ → α → Prop}
    (preserved : ∀ state action, invariant state → first state action →
      invariant (machine.step state action).1)
    (agree : ∀ state action, invariant state → (first state action ↔ second state action))
    {state : σ} (initial : invariant state) (actions : List α) :
    machine.Meets first state actions ↔ machine.Meets second state actions := by
  induction actions generalizing state with
  | nil => simp
  | cons action actions inductionHypothesis =>
    rw [meets_cons, meets_cons, ← agree state action initial]
    exact and_congr_right fun met => inductionHypothesis (preserved state action initial met)

/-- The invariant rule for runs that meet a condition. -/
theorem Meets.run_invariant {machine : Machine σ α ε} {invariant : σ → Prop} {condition : σ → α → Prop}
    (preserved : ∀ state action, invariant state → condition state action →
      invariant (machine.step state action).1)
    {state : σ} {actions : List α} (initial : invariant state)
    (meets : machine.Meets condition state actions) : invariant (machine.run state actions).1 := by
  induction actions generalizing state with
  | nil => exact initial
  | cons action actions inductionHypothesis =>
    exact inductionHypothesis (preserved state action initial meets.1) meets.2

/-- The invariant rule. -/
theorem run_preserves {machine : Machine σ α ε} {invariant : σ → Prop}
    (preserved : ∀ state action, invariant state → invariant (machine.step state action).1)
    {state : σ} (initial : invariant state) (actions : List α) :
    invariant (machine.run state actions).1 :=
  Meets.run_invariant (fun state action holds _ => preserved state action holds) initial
    ((machine.meets_const (fun _ => True) state actions).mpr fun _ _ => trivial)

/-- What a condition gives of each step under an invariant that it keeps, a run that meets the condition
gives of all its steps; the invariant holds at its end. -/
theorem meets_of_invariant {machine : Machine σ α ε} {invariant : σ → Prop}
    {condition property : σ → α → Prop}
    (preserved : ∀ state action, invariant state → condition state action →
      invariant (machine.step state action).1)
    (holds : ∀ state action, invariant state → condition state action → property state action)
    {state : σ} {actions : List α} (initial : invariant state)
    (meets : machine.Meets condition state actions) :
    machine.Meets property state actions ∧ invariant (machine.run state actions).1 := by
  refine ⟨?_, meets.run_invariant preserved initial⟩
  induction actions generalizing state with
  | nil => trivial
  | cons action actions inductionHypothesis =>
    exact ⟨holds state action initial meets.1,
      inductionHypothesis (preserved state action initial meets.1) meets.2⟩

end Machine

/-! ## Properties of the events of a trace -/

/-- Every event of `events` satisfies `property` of what was emitted before it; `emitted` is what
had been emitted before `events`. -/
def EveryEvent {ε : Type} (property : List ε → ε → Prop) (emitted events : List ε) : Prop :=
  ∀ before event after, events = before ++ event :: after → property (emitted ++ before) event

section EveryEvent

variable {σ α ε : Type} {property : List ε → ε → Prop}

theorem everyEvent_nil (emitted : List ε) : EveryEvent property emitted [] := by
  intro before event after split
  simp at split

theorem everyEvent_cons {emitted : List ε} {event : ε} {events : List ε} :
    EveryEvent property emitted (event :: events) ↔
      property emitted event ∧ EveryEvent property (emitted ++ [event]) events := by
  constructor
  · intro every
    refine ⟨by simpa using every [] event events rfl, ?_⟩
    intro before next after split
    simpa using every (event :: before) next after (by simp [split])
  · rintro ⟨head, tail⟩ before next after split
    cases before with
    | nil =>
      obtain ⟨rfl, rfl⟩ : event = next ∧ events = after := by simpa using split
      simpa using head
    | cons first before =>
      obtain ⟨rfl, rest⟩ : event = first ∧ events = before ++ next :: after := by simpa using split
      simpa using tail before next after rest

theorem everyEvent_append {emitted first second : List ε} :
    EveryEvent property emitted (first ++ second) ↔
      EveryEvent property emitted first ∧ EveryEvent property (emitted ++ first) second := by
  induction first generalizing emitted with
  | nil => simp [everyEvent_nil]
  | cons event events inductionHypothesis =>
    simp [everyEvent_cons, inductionHypothesis, and_assoc]

theorem everyEvent_of_forall {emitted events : List ε}
    (always : ∀ before, ∀ event ∈ events, property before event) : EveryEvent property emitted events := by
  intro before event after split
  apply always
  rw [split]
  exact List.mem_append_right _ List.mem_cons_self

/-- The rule for events: an invariant of the steps that gives the property of each event a step
emits gives it of every event of the run. -/
theorem Machine.run_events {machine : Machine σ α ε} {condition : σ → α → Prop}
    {invariant : List ε → σ → Prop}
    (preserved : ∀ emitted state action, invariant emitted state → condition state action →
      invariant (emitted ++ (machine.step state action).2) (machine.step state action).1)
    (holds : ∀ emitted state action, invariant emitted state → condition state action →
      EveryEvent property emitted (machine.step state action).2)
    {state : σ} {actions : List α} {emitted : List ε}
    (initial : invariant emitted state) (meets : machine.Meets condition state actions) :
    EveryEvent property emitted (machine.run state actions).2 := by
  induction actions generalizing state emitted with
  | nil => exact everyEvent_nil _
  | cons action actions inductionHypothesis =>
    rw [Machine.run_cons, everyEvent_append]
    exact ⟨holds _ _ _ initial meets.1,
      inductionHypothesis (preserved _ _ _ initial meets.1) meets.2⟩

/-- An invariant that looks at what has been emitted holds at the end of a run. -/
theorem Machine.run_history {machine : Machine σ α ε} {condition : σ → α → Prop}
    {invariant : List ε → σ → Prop}
    (preserved : ∀ emitted state action, invariant emitted state → condition state action →
      invariant (emitted ++ (machine.step state action).2) (machine.step state action).1)
    {state : σ} {actions : List α} {emitted : List ε}
    (initial : invariant emitted state) (meets : machine.Meets condition state actions) :
    invariant (emitted ++ (machine.run state actions).2) (machine.run state actions).1 := by
  induction actions generalizing state emitted with
  | nil => simpa using initial
  | cons action actions inductionHypothesis =>
    rw [Machine.run_cons, ← List.append_assoc]
    exact inductionHypothesis (preserved _ _ _ initial meets.1) meets.2

end EveryEvent

end Taws
