import Mathlib.Logic.Basic

/-!
# Statements that may jump to an error label

A function body of the kind that sets up resources step by step and, when a step fails, jumps to one label
at its end.  A statement changes the state and either goes on or jumps with a failure; a block stops at the
first jump, and so does a loop.

* `Statement`, `block`, `forEach` — statements, one after the other, and over a list.
* `Triple` — from states of one kind a statement goes on to states of another, or jumps from states of a third.
* `Triple.cons`, `Triple.forEach` — the rules for blocks and for loops with an invariant.
-/

namespace Taws

/-- `none` where the statement goes on, and the failure where it jumps to the label. -/
def Statement (σ φ : Type) : Type := σ → Option φ × σ

namespace Statement

variable {σ φ ι : Type}

def skip : Statement σ φ := fun state => (none, state)

def andThen (first second : Statement σ φ) : Statement σ φ := fun state =>
  match first state with
  | (none, next) => second next
  | (some failure, next) => (some failure, next)

def block : List (Statement σ φ) → Statement σ φ
  | [] => skip
  | statement :: statements => statement.andThen (block statements)

/-- The body for each item, with its index. -/
def forEach (body : Nat → ι → Statement σ φ) : Nat → List ι → Statement σ φ
  | _, [] => skip
  | index, item :: items => (body index item).andThen (forEach body (index + 1) items)

/-- Jumps with the failure unless the condition holds. -/
def require (condition : Bool) (failure : φ) : Statement σ φ := fun state =>
  if condition then (none, state) else (some failure, state)

def assign (change : σ → σ) : Statement σ φ := fun state => (none, change state)

variable {first second : Statement σ φ} {state next : σ} {failure : φ}

theorem block_nil (state : σ) : block ([] : List (Statement σ φ)) state = (none, state) := rfl

theorem block_cons (statement : Statement σ φ) (statements : List (Statement σ φ)) (state : σ) :
    block (statement :: statements) state = statement.andThen (block statements) state := rfl

theorem block_append (front back : List (Statement σ φ)) (state : σ) :
    block (front ++ back) state = (block front).andThen (block back) state := by
  induction front generalizing state with
  | nil => rfl
  | cons statement front inductionHypothesis =>
    rw [List.cons_append, block_cons, block, andThen, andThen, andThen]
    cases outcome : statement state with
    | mk jump next =>
      cases jump with
      | none => exact inductionHypothesis next
      | some failure => rfl

theorem andThen_goes_on (goesOn : first state = (none, next)) : first.andThen second state = second next := by
  simp only [andThen, goesOn]

theorem andThen_jumps (jumps : first state = (some failure, next)) :
    first.andThen second state = (some failure, next) := by
  simp only [andThen, jumps]

end Statement

/-! ## Triples -/

/-- Run from a state in `pre`, the statement goes on in `post` or jumps in `exit`. -/
def Triple {σ φ : Type} (pre : σ → Prop) (statement : Statement σ φ) (post exit : σ → Prop) : Prop :=
  ∀ state, pre state →
    (∃ next, statement state = (none, next) ∧ post next) ∨
      ∃ failure next, statement state = (some failure, next) ∧ exit next

namespace Triple

variable {σ φ ι : Type} {pre middle post exit invariant : σ → Prop} {first second statement : Statement σ φ}
  {statements : List (Statement σ φ)}

theorem skip : Triple (φ := φ) pre Statement.skip pre exit := fun state holds => .inl ⟨state, rfl, holds⟩

theorem andThen (left : Triple pre first middle exit) (right : Triple middle second post exit) :
    Triple pre (first.andThen second) post exit := by
  intro state holds
  obtain ⟨next, goesOn, between⟩ | ⟨failure, next, jumps, outside⟩ := left state holds
  · rw [Statement.andThen_goes_on goesOn]
    exact right next between
  · exact .inr ⟨failure, next, Statement.andThen_jumps jumps, outside⟩

theorem cons (head : Triple pre statement middle exit) (tail : Triple middle (Statement.block statements) post exit) :
    Triple pre (Statement.block (statement :: statements)) post exit :=
  head.andThen tail

theorem assign {change : σ → σ} (changes : ∀ state, pre state → post (change state)) :
    Triple (φ := φ) pre (Statement.assign change) post exit :=
  fun state holds => .inl ⟨_, rfl, changes state holds⟩

theorem exists_pre {α : Type} {pre : α → σ → Prop} (each : ∀ witness, Triple (pre witness) statement post exit) :
    Triple (fun state => ∃ witness, pre witness state) statement post exit := by
  intro state holds
  obtain ⟨witness, holds⟩ := holds
  exact each witness state holds

theorem fact_pre {fact : Prop} (given : fact → Triple pre statement post exit) :
    Triple (fun state => fact ∧ pre state) statement post exit := by
  intro state holds
  exact given holds.1 state holds.2

theorem require {condition : Bool} {failure : φ} (fails : ∀ state, pre state → exit state) :
    Triple pre (Statement.require condition failure) pre exit := by
  intro state holds
  cases condition with
  | true => exact .inl ⟨state, rfl, holds⟩
  | false => exact .inr ⟨failure, state, rfl, fails state holds⟩

/-- The rule for loops: every body keeps the invariant, or jumps. -/
theorem forEach {body : Nat → ι → Statement σ φ}
    (keeps : ∀ index item, Triple invariant (body index item) invariant exit) (index : Nat) (items : List ι) :
    Triple invariant (Statement.forEach body index items) invariant exit := by
  induction items generalizing index with
  | nil => exact skip
  | cons item items inductionHypothesis => exact (keeps index item).andThen (inductionHypothesis (index + 1))

/-- What holds where the statement ends, on either way. -/
theorem ends (triple : Triple pre statement post exit) (weaker : ∀ state, post state → exit state) {state : σ}
    (holds : pre state) : exit (statement state).2 := by
  obtain ⟨next, goesOn, after⟩ | ⟨failure, next, jumps, outside⟩ := triple state holds
  · rw [goesOn]
    exact weaker next after
  · rw [jumps]
    exact outside

end Triple

end Taws
