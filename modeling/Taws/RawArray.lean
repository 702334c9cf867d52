import Mathlib.Data.List.TakeDrop

/-!
# Arrays with a count

An array of fixed capacity beside a count of its slots in use, as both lie in memory.  Where nothing has
been stored the count is arbitrary, and a loop that trusts it leaves the array: a read behind the last
slot has no outcome.

* `held` — the slots that the count covers.
* `search` — the loop that reads slot after slot until a test succeeds.
* `search_eq` — it has an outcome if the test succeeds in the array or the count stays within it.
* `Agrees` — two arrays with the same count that hold the same.
-/

namespace Taws

structure RawArray (α : Type) (capacity : Nat) where
  len : Nat
  items : Vector α capacity

namespace RawArray

variable {α : Type} {capacity : Nat}

def held (array : RawArray α capacity) : List α := array.items.toList.take array.len

/-- The slots from `index` on, as many as are left; `none` where one of them lies behind the array. -/
def searchFrom (array : RawArray α capacity) (test : α → Bool) (index : Nat) : Nat → Option Bool
  | 0 => some false
  | left + 1 =>
    match array.items[index]? with
    | none => none
    | some item => if test item then some true else array.searchFrom test (index + 1) left

def search (array : RawArray α capacity) (test : α → Bool) : Option Bool := array.searchFrom test 0 array.len

variable {array : RawArray α capacity} {test : α → Bool}

theorem searchFrom_eq (array : RawArray α capacity) (test : α → Bool) {index : Nat} (within : index ≤ capacity)
    (left : Nat) : array.searchFrom test index left =
      if ((array.items.toList.drop index).take left).any test then some true
      else if index + left ≤ capacity then some false else none := by
  induction left generalizing index with
  | zero => simp [searchFrom, within]
  | succ left inductionHypothesis =>
    rcases Nat.lt_or_eq_of_le within with inside | atEnd
    · have slot : array.items[index]? = some array.items[index] := Vector.getElem?_eq_getElem inside
      have split : array.items.toList.drop index =
          array.items[index] :: array.items.toList.drop (index + 1) := by
        rw [List.drop_eq_getElem_cons (by simpa using inside), Vector.getElem_toList]
      simp only [searchFrom, slot, split, List.take_succ_cons, List.any_cons]
      rw [inductionHypothesis inside]
      by_cases found : test array.items[index] = true
      · simp [found]
      · simp [found, Nat.add_assoc, Nat.add_comm 1 left]
    · -- the next slot lies behind the array
      subst atEnd
      have nothing : array.items.toList.drop index = [] := List.drop_eq_nil_of_le (by simp)
      simp [searchFrom, nothing]

theorem search_eq (array : RawArray α capacity) (test : α → Bool) :
    array.search test =
      if array.held.any test then some true else if array.len ≤ capacity then some false else none := by
  rw [search, searchFrom_eq array test (Nat.zero_le _), List.drop_zero, Nat.zero_add]
  rfl

theorem search_inBounds (inBounds : array.len ≤ capacity) (test : α → Bool) :
    array.search test = some (array.held.any test) := by
  rw [search_eq]
  cases array.held.any test <;> simp [inBounds]

/-- A count behind the array, and nothing in the array for which the test succeeds. -/
def overrun (capacity : Nat) (item : α) : RawArray α capacity := ⟨capacity + 1, Vector.replicate capacity item⟩

theorem overrun_search {item : α} (fails : test item = false) : (overrun capacity item).search test = none := by
  have notFound : (overrun capacity item).held.any test = false := by
    simp [held, overrun, fails]
  rw [search_eq, notFound, if_neg Bool.false_ne_true]
  exact if_neg (Nat.not_succ_le_self capacity)

/-- The slots behind the count may differ. -/
structure Agrees (first second : RawArray α capacity) : Prop where
  len : first.len = second.len
  held : first.held = second.held

theorem Agrees.refl (array : RawArray α capacity) : array.Agrees array := ⟨rfl, rfl⟩

end RawArray

end Taws
