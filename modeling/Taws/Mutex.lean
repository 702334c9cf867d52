import Mathlib.Logic.Basic

/-!
# Mutual exclusion by a lock

A lock names the process that holds it, and the program of a process says where it holds it.  The two agree
as long as every step of a process takes the lock when it is free, gives it back from where it is held, or
leaves it alone.

* `Guarded` — the lock names the one process that is at a place where it holds it.
* `LockStep` — what a step of one process may do to the lock.
* `Guarded.step`, `Guarded.unique` — such steps keep the two in agreement, so there is one holder at most.
* `AtMostOne.step_iff` — what a step of one process must be for at most one to be inside after it.
-/

namespace Taws

variable {ι : Type} {owner owner' : Option ι} {holds holds' : ι → Prop} {process other : ι}

def Guarded (owner : Option ι) (holds : ι → Prop) : Prop := ∀ process, holds process ↔ owner = some process

/-- A step of `process` that is at a place that holds the lock before it as `before` says, and after it as
`after` says. -/
def LockStep (process : ι) (owner owner' : Option ι) (before after : Prop) : Prop :=
  owner' = owner ∧ (after ↔ before) ∨
    owner = none ∧ owner' = some process ∧ after ∨
    before ∧ owner' = none ∧ ¬ after

theorem LockStep.keep {before after : Prop} (same : after ↔ before) : LockStep process owner owner before after :=
  .inl ⟨rfl, same⟩

theorem LockStep.lock {before after : Prop} (holds : after) : LockStep process none (some process) before after :=
  .inr (.inl ⟨rfl, rfl, holds⟩)

theorem LockStep.unlock {before after : Prop} (held : before) (gone : ¬ after) :
    LockStep process owner none before after :=
  .inr (.inr ⟨held, rfl, gone⟩)

theorem Guarded.unique (guarded : Guarded owner holds) (first : holds process) (second : holds other) :
    process = other := by
  have same := (guarded process).mp first
  rw [(guarded other).mp second] at same
  exact (Option.some.inj same).symm

theorem Guarded.congr (guarded : Guarded owner holds) (same : ∀ process, holds' process ↔ holds process) :
    Guarded owner holds' := by
  intro process
  rw [same process]
  exact guarded process

theorem Guarded.step (guarded : Guarded owner holds)
    (acts : LockStep process owner owner' (holds process) (holds' process))
    (others : ∀ other, other ≠ process → (holds' other ↔ holds other)) : Guarded owner' holds' := by
  intro other
  by_cases acting : other = process
  · subst acting
    obtain ⟨rfl, same⟩ | ⟨-, rfl, held⟩ | ⟨-, rfl, gone⟩ := acts
    · rw [same, guarded other]
    · simp [held]
    · simp [gone]
  · rw [others other acting, guarded other]
    obtain ⟨rfl, -⟩ | ⟨rfl, rfl, -⟩ | ⟨held, rfl, -⟩ := acts
    · rfl
    · simp [Ne.symm acting]
    · rw [(guarded process).mp held]
      simp [Ne.symm acting]

/-! ## At most one inside -/

def AtMostOne (inside : ι → Prop) : Prop := ∀ first second, inside first → inside second → first = second

/-- When a step moves one process only, it has to stay outside as long as another one is inside. -/
theorem AtMostOne.step_iff {inside inside' : ι → Prop} (one : AtMostOne inside)
    (others : ∀ other, other ≠ process → (inside' other ↔ inside other)) :
    AtMostOne inside' ↔ (inside' process → ∀ other, other ≠ process → ¬ inside other) := by
  constructor
  · intro one' entered other apart there
    exact apart (one' other process ((others other apart).mpr there) entered)
  · intro alone first second firstInside secondInside
    by_cases firstActs : first = process <;> by_cases secondActs : second = process
    · rw [firstActs, secondActs]
    · subst firstActs
      exact absurd ((others second secondActs).mp secondInside) (alone firstInside second secondActs)
    · subst secondActs
      exact absurd ((others first firstActs).mp firstInside) (alone secondInside first firstActs)
    · exact one first second ((others first firstActs).mp firstInside) ((others second secondActs).mp secondInside)

end Taws
