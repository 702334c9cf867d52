import Mathlib.Data.Finset.Basic
import Mathlib.Data.Finset.Dedup
import Mathlib.Data.Finset.Lattice.Lemmas

/-!
# Ledgers of resources

Which resources are live is read off a trace of what is taken and what is given back.  The ledger faults
on a resource that is taken while it is live and on one that is given back while it is not, so a trace
that is accepted gives nothing back twice, and what it leaves live is what it leaks.

* `replay` — the live resources after a trace, `none` after a fault.
* `replay_bracket` — a resource that is taken first and given back last.
* `replay_releaseAll` — resources that are given back one after the other.
* `Leaves` — the resources that are live after a trace, taken and given back at the front of the list.
* `LedgerHeap`, `LedgerHeap.Holds` — a heap that keeps a ledger of its blocks.
-/

namespace Taws

/-- A resource is taken or given back. -/
inductive LedgerEntry (ρ : Type) where
  | acquired (resource : ρ)
  | released (resource : ρ)
  deriving DecidableEq

namespace Ledger

variable {ρ : Type} [DecidableEq ρ]

def enter (live : Finset ρ) : LedgerEntry ρ → Option (Finset ρ)
  | .acquired resource => if resource ∈ live then none else some (insert resource live)
  | .released resource => if resource ∈ live then some (live.erase resource) else none

/-- The entries one after the other. -/
def replay (live : Finset ρ) (entries : List (LedgerEntry ρ)) : Option (Finset ρ) :=
  entries.foldlM enter live

@[simp] theorem replay_nil (live : Finset ρ) : replay live [] = some live := rfl

theorem replay_append (live : Finset ρ) (first second : List (LedgerEntry ρ)) :
    replay live (first ++ second) = (replay live first).bind fun after => replay after second := by
  simp only [replay, List.foldlM_append]
  rfl

variable {live after : Finset ρ} {resource : ρ} {entries middle : List (LedgerEntry ρ)}

theorem replay_acquired (new : resource ∉ live) :
    replay live (.acquired resource :: entries) = replay (insert resource live) entries := by
  simp [replay, enter, new]

theorem replay_released (there : resource ∈ live) :
    replay live (.released resource :: entries) = replay (live.erase resource) entries := by
  simp [replay, enter, there]

theorem replay_append_of (accepted : replay live entries = some after) (later : List (LedgerEntry ρ)) :
    replay live (entries ++ later) = replay after later := by
  rw [replay_append, accepted, Option.bind_some]

/-- A resource that is taken first and given back last leaves what was live before. -/
theorem replay_bracket (new : resource ∉ live)
    (accepted : replay (insert resource live) middle = some (insert resource live)) :
    replay live (.acquired resource :: middle ++ [.released resource]) = some live := by
  rw [List.cons_append, replay_acquired new, replay_append_of accepted,
    replay_released (Finset.mem_insert_self resource live), Finset.erase_insert new, replay_nil]

/-- Distinct resources that are given back one after the other leave what else was live. -/
theorem replay_releaseAll {resources : List ρ} (nodup : resources.Nodup)
    (new : ∀ resource ∈ resources, resource ∉ live) :
    replay (live ∪ resources.toFinset) (resources.map .released) = some live := by
  induction resources with
  | nil =>
    rw [List.toFinset_nil, Finset.union_empty]
    rfl
  | cons resource resources inductionHypothesis =>
    obtain ⟨notMember, nodup⟩ := List.nodup_cons.mp nodup
    have headNew := new resource List.mem_cons_self
    have alone : resource ∉ live ∪ resources.toFinset := by
      rw [Finset.mem_union, List.mem_toFinset]
      exact fun either => either.elim headNew notMember
    rw [List.map_cons, List.toFinset_cons, Finset.union_insert,
      replay_released (Finset.mem_insert_self _ _), Finset.erase_insert alone]
    exact inductionHypothesis nodup fun other member => new other (List.mem_cons_of_mem _ member)

/-- The trace is accepted and leaves these resources live. -/
def Leaves (entries : List (LedgerEntry ρ)) (resources : List ρ) : Prop :=
  resources.Nodup ∧ replay ∅ entries = some resources.toFinset

variable {resources : List ρ}

theorem leaves_nil : Leaves ([] : List (LedgerEntry ρ)) [] := ⟨List.nodup_nil, rfl⟩

theorem Leaves.acquire (leaves : Leaves entries resources) (new : resource ∉ resources) :
    Leaves (entries ++ [.acquired resource]) (resource :: resources) := by
  obtain ⟨nodup, accepted⟩ := leaves
  refine ⟨List.nodup_cons.mpr ⟨new, nodup⟩, ?_⟩
  rw [replay_append_of accepted, replay_acquired (by rwa [List.mem_toFinset]), replay_nil, List.toFinset_cons]

theorem Leaves.release (leaves : Leaves entries (resource :: resources)) :
    Leaves (entries ++ [.released resource]) resources := by
  obtain ⟨nodup, accepted⟩ := leaves
  obtain ⟨notMember, nodup⟩ := List.nodup_cons.mp nodup
  refine ⟨nodup, ?_⟩
  rw [replay_append_of accepted, List.toFinset_cons, replay_released (Finset.mem_insert_self _ _),
    Finset.erase_insert (by rwa [List.mem_toFinset]), replay_nil]

end Ledger

/-! ## A heap that keeps a ledger -/

/-- `malloc` never returns a block twice: `next` is the one that it returns next. -/
structure LedgerHeap where
  next : Nat
  trace : List (LedgerEntry Nat)

namespace LedgerHeap

def unused : LedgerHeap := ⟨0, []⟩

/-- The new block, and the heap in which it is allocated. -/
def malloc (heap : LedgerHeap) : Nat × LedgerHeap :=
  (heap.next, ⟨heap.next + 1, heap.trace ++ [.acquired heap.next]⟩)

def free (heap : LedgerHeap) (block : Nat) : LedgerHeap :=
  { heap with trace := heap.trace ++ [.released block] }

/-- The trace is accepted and the live blocks are those held, each of them once. -/
structure Holds (heap : LedgerHeap) (held : Multiset Nat) : Prop where
  live : ∃ live, Ledger.replay ∅ heap.trace = some live ∧ live.val = held
  below : ∀ block ∈ held, block < heap.next

theorem holds_unused : unused.Holds 0 where
  live := ⟨∅, rfl, rfl⟩
  below := nofun

variable {heap : LedgerHeap} {block : Nat} {held : Multiset Nat}

theorem Holds.malloc (holds : heap.Holds held) : heap.malloc.2.Holds (heap.malloc.1 ::ₘ held) where
  live := by
    obtain ⟨live, accepted, rfl⟩ := holds.live
    have new : heap.next ∉ live := fun member => Nat.lt_irrefl _ (holds.below _ member)
    refine ⟨insert heap.next live, ?_, Finset.insert_val_of_notMem new⟩
    rw [LedgerHeap.malloc, Ledger.replay_append_of accepted, Ledger.replay_acquired new, Ledger.replay_nil]
  below := by
    intro block member
    show block < heap.next + 1
    cases Multiset.mem_cons.mp member with
    | inl same =>
      rw [same]
      exact Nat.lt_succ_self _
    | inr old => exact Nat.lt_succ_of_lt (holds.below block old)

theorem Holds.free (holds : heap.Holds (block ::ₘ held)) : (heap.free block).Holds held where
  live := by
    obtain ⟨live, accepted, same⟩ := holds.live
    have there : block ∈ live := by
      rw [← Finset.mem_val, same]
      exact Multiset.mem_cons_self block held
    refine ⟨live.erase block, ?_, ?_⟩
    · rw [LedgerHeap.free, Ledger.replay_append_of accepted, Ledger.replay_released there, Ledger.replay_nil]
    · rw [Finset.erase_val, same, Multiset.erase_cons_head]
  below := fun other member => holds.below other (Multiset.mem_cons_of_mem member)

end LedgerHeap

end Taws
