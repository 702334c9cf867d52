import Mathlib.Data.List.Perm.Basic

/-!
# Slot tables

A slot table keeps its records in an array of fixed capacity, the active ones in the slots below
`len`.  A record is removed by exchanging it with the last active one and clearing the slot that
becomes free, so slots move.

* `active` — the active records in slot order; every operation is described by what it does to them.
* `removeAt_active`, `removeAt_perm` — removal, by position and up to order.
* `Clean` — the table is within its capacity and every slot at or beyond `len` is clear.
-/

namespace Taws

open scoped List

/-- The list with position `index` taken by the last element and the last position dropped. -/
def swapRemove {α : Type} (list : List α) (index : Nat) : List α :=
  match list.getLast? with
  | none => []
  | some last => (list.set index last).dropLast

theorem dropLast_set_last {α : Type} (list : List α) (value : α) :
    (list.set (list.length - 1) value).dropLast = list.dropLast := by
  simp only [List.dropLast_eq_take, List.length_set, List.take_set]
  exact List.set_eq_of_length_le (by simp)

section SwapRemove

variable {α : Type} {list : List α} {index : Nat}

/-- Removing by exchange with the last element removes exactly the element at `index`. -/
theorem swapRemove_perm (bound : index < list.length) :
    list[index] :: swapRemove list index ~ list := by
  obtain ⟨front, last, rfl⟩ : ∃ front last, list = front ++ [last] :=
    ⟨list.dropLast, list.getLast (by rintro rfl; simp at bound), (List.dropLast_append_getLast _).symm⟩
  have removed : swapRemove (front ++ [last]) index = ((front ++ [last]).set index last).dropLast := by
    simp [swapRemove]
  rw [removed]
  by_cases isLast : index = front.length
  · -- the last element takes its own place, and is dropped
    subst isLast
    simpa [List.set_append_right] using (List.perm_append_singleton last front).symm
  · have inFront : index < front.length := by
      simp only [List.length_append, List.length_singleton] at bound
      omega
    rw [List.set_append_left _ _ inFront, List.dropLast_concat, List.getElem_append_left inFront]
    calc front[index] :: front.set index last
      _ ~ front[index] :: last :: front.eraseIdx index :=
          (List.set_perm_cons_eraseIdx inFront last).cons _
      _ ~ last :: front[index] :: front.eraseIdx index := List.Perm.swap _ _ _
      _ ~ last :: front := (List.getElem_cons_eraseIdx_perm inFront).cons _
      _ ~ front ++ [last] := (List.perm_append_singleton last front).symm

end SwapRemove

structure SlotTable (α : Type) (capacity : Nat) where
  slots : Vector α capacity
  len : Nat
  deriving DecidableEq

namespace SlotTable

variable {α : Type} [Inhabited α] {capacity : Nat}

/-- The table without active records and with every slot clear. -/
def empty : SlotTable α capacity := ⟨Vector.replicate capacity default, 0⟩

def slot (table : SlotTable α capacity) (index : Nat) : α := table.slots[index]?.getD default

def setSlot (table : SlotTable α capacity) (index : Nat) (value : α) : SlotTable α capacity :=
  { table with slots := table.slots.setIfInBounds index value }

/-- The active records, in slot order. -/
def active (table : SlotTable α capacity) : List α := table.slots.toList.take table.len

structure Clean (table : SlotTable α capacity) : Prop where
  len_le : table.len ≤ capacity
  clear : ∀ index, table.len ≤ index → table.slot index = default

omit [Inhabited α] in
@[simp] theorem setSlot_len (table : SlotTable α capacity) (index : Nat) (value : α) :
    (table.setSlot index value).len = table.len := rfl

theorem setSlot_slot (table : SlotTable α capacity) (index other : Nat) (value : α) :
    (table.setSlot index value).slot other =
      if index = other ∧ other < capacity then value else table.slot other := by
  simp only [slot, setSlot, Vector.getElem?_setIfInBounds]
  grind

theorem slot_of_capacity_le {table : SlotTable α capacity} {index : Nat} (outside : capacity ≤ index) :
    table.slot index = default := by
  simp [slot, outside]

@[simp] theorem empty_len : (empty : SlotTable α capacity).len = 0 := rfl

@[simp] theorem empty_active : (empty : SlotTable α capacity).active = [] := rfl

theorem empty_clean : (empty : SlotTable α capacity).Clean where
  len_le := Nat.zero_le _
  clear := by
    intro index _
    simp only [slot, empty, Vector.getElem?_replicate]
    split <;> rfl

variable {table : SlotTable α capacity} {index : Nat} {value : α}

theorem active_length (clean : table.Clean) : table.active.length = table.len := by
  simp [active, clean.len_le]

omit [Inhabited α] in
theorem active_of_len_zero (isEmpty : table.len = 0) : table.active = [] := by
  simp [active, isEmpty]

theorem active_getElem? (clean : table.Clean) (bound : index < table.len) :
    table.active[index]? = some (table.slot index) := by
  have inCapacity : index < capacity := Nat.lt_of_lt_of_le bound clean.len_le
  simp [active, slot, bound, inCapacity]

theorem active_getElem (clean : table.Clean) (bound : index < table.active.length) :
    table.active[index] = table.slot index := by
  have inUse : index < table.len := by rwa [active_length clean] at bound
  have found := active_getElem? clean inUse
  rw [List.getElem?_eq_getElem bound] at found
  exact Option.some.inj found

theorem slot_mem_active (clean : table.Clean) (bound : index < table.len) :
    table.slot index ∈ table.active :=
  List.mem_of_getElem? (active_getElem? clean bound)

theorem exists_slot_of_mem_active (clean : table.Clean) (member : value ∈ table.active) :
    ∃ index < table.len, table.slot index = value := by
  obtain ⟨index, bound, rfl⟩ := List.getElem_of_mem member
  exact ⟨index, by rwa [active_length clean] at bound, (active_getElem clean bound).symm⟩

theorem active_eq_map (clean : table.Clean) : table.active = (List.range table.len).map table.slot := by
  apply List.ext_getElem
  · simp [active_length clean]
  · intro position bound _
    simp [active_getElem clean bound]

/-- Searching the slots in order is searching the active records. -/
theorem find_slot_eq_find_active (clean : table.Clean) (predicate : α → Bool) :
    ((List.range table.len).find? fun index => predicate (table.slot index)).map table.slot =
      table.active.find? predicate := by
  rw [active_eq_map clean, List.find?_map]
  rfl

/-- The active records other than the one at `index`. -/
def others (table : SlotTable α capacity) (index : Nat) : List α := table.active.eraseIdx index

theorem active_perm_cons_others (clean : table.Clean) (bound : index < table.len) :
    table.active ~ table.slot index :: table.others index := by
  have inActive : index < table.active.length := by rwa [active_length clean]
  rw [← active_getElem clean inActive]
  exact (List.getElem_cons_eraseIdx_perm inActive).symm

theorem mem_others (clean : table.Clean) :
    value ∈ table.others index ↔ ∃ other < table.len, other ≠ index ∧ table.slot other = value := by
  rw [others, List.mem_eraseIdx_iff_getElem]
  constructor
  · rintro ⟨other, bound, different, rfl⟩
    exact ⟨other, by rwa [active_length clean] at bound, different, (active_getElem clean bound).symm⟩
  · rintro ⟨other, bound, different, rfl⟩
    have inActive : other < table.active.length := by rwa [active_length clean]
    exact ⟨other, inActive, different, active_getElem clean inActive⟩

theorem active_split (clean : table.Clean) (bound : index < table.len) :
    table.active = table.active.take index ++ table.slot index :: table.active.drop (index + 1) := by
  have inActive : index < table.active.length := by rwa [active_length clean]
  rw [← active_getElem clean inActive, ← List.drop_eq_getElem_cons inActive, List.take_append_drop]

theorem slot_mem_take (clean : table.Clean) {earlier : Nat} (ahead : earlier < index) (bound : index < table.len) :
    table.slot earlier ∈ table.active.take index := by
  apply List.mem_of_getElem?
  rw [List.getElem?_take_of_lt ahead, active_getElem? clean (Nat.lt_trans ahead bound)]

theorem set_active (clean : table.Clean) (bound : index < table.len) (value : α) :
    table.active.set index value = table.active.take index ++ value :: table.active.drop (index + 1) := by
  have inActive : index < table.active.length := by rwa [active_length clean]
  rw [List.set_eq_take_append_cons_drop, if_pos inActive]

omit [Inhabited α] in
@[simp] theorem setSlot_active : (table.setSlot index value).active = table.active.set index value := by
  simp [active, setSlot, List.take_set]

theorem setSlot_perm (clean : table.Clean) (bound : index < table.len) :
    (table.setSlot index value).active ~ value :: table.others index := by
  rw [setSlot_active]
  exact List.set_perm_cons_eraseIdx (by rwa [active_length clean]) value

theorem setSlot_clean (clean : table.Clean) (bound : index < table.len) :
    (table.setSlot index value).Clean where
  len_le := clean.len_le
  clear := by
    intro other beyond
    rw [setSlot_slot, if_neg (by simp only [setSlot_len] at beyond; omega)]
    exact clean.clear other beyond

/-- Writing back what a slot holds changes nothing. -/
theorem setSlot_same (same : table.slot index = value) : table.setSlot index value = table := by
  have slots : table.slots.setIfInBounds index value = table.slots := by
    ext position bound
    rw [Vector.getElem_setIfInBounds]
    split
    · next equal => subst equal; simpa [slot, bound] using same.symm
    · rfl
  simp [setSlot, slots]

omit [Inhabited α] in
/-- Of two values written into one slot the second stays. -/
theorem setSlot_setSlot (first second : α) :
    (table.setSlot index first).setSlot index second = table.setSlot index second := by
  have slots : (table.slots.setIfInBounds index first).setIfInBounds index second =
      table.slots.setIfInBounds index second := by
    ext position bound
    simp only [Vector.getElem_setIfInBounds]
    split <;> rfl
  simp [setSlot, slots]

/-- Exchange two slots. -/
def swap (table : SlotTable α capacity) (first second : Nat) : SlotTable α capacity :=
  (table.setSlot first (table.slot second)).setSlot second (table.slot first)

@[simp] theorem swap_len (first second : Nat) : (table.swap first second).len = table.len := rfl

theorem swap_clean {first second : Nat} (clean : table.Clean) (firstBound : first < table.len)
    (secondBound : second < table.len) : (table.swap first second).Clean :=
  setSlot_clean (setSlot_clean clean firstBound) secondBound

theorem swap_slot {first second : Nat} (clean : table.Clean) (firstBound : first < table.len)
    (secondBound : second < table.len) (other : Nat) :
    (table.swap first second).slot other =
      if other = second then table.slot first
      else if other = first then table.slot second
      else table.slot other := by
  have := clean.len_le
  simp only [swap, setSlot_slot]
  grind

theorem swap_perm {first second : Nat} (clean : table.Clean) (firstBound : first < table.len)
    (secondBound : second < table.len) : (table.swap first second).active ~ table.active := by
  have firstActive : first < table.active.length := by rwa [active_length clean]
  have secondActive : second < table.active.length := by rwa [active_length clean]
  simp only [swap, setSlot_active]
  rw [← active_getElem clean secondActive, ← active_getElem clean firstActive]
  exact List.set_set_perm firstActive secondActive

/-- Take a further slot into use, without touching what it holds. -/
def alloc (table : SlotTable α capacity) : SlotTable α capacity := { table with len := table.len + 1 }

/-- Clear the last slot in use and give it back. -/
def clearLast (table : SlotTable α capacity) : SlotTable α capacity :=
  { table.setSlot (table.len - 1) default with len := table.len - 1 }

/-- Exchange the record with the last active one and clear the slot that becomes free. -/
def removeAt (table : SlotTable α capacity) (index : Nat) : SlotTable α capacity :=
  if table.len ≤ index then table
  else (if index = table.len - 1 then table else table.swap index (table.len - 1)).clearLast

theorem clearLast_active (clean : table.Clean) : table.clearLast.active = table.active.dropLast := by
  have lengthActive : (table.slots.toList.take table.len).length = table.len := active_length clean
  simp only [active, clearLast, setSlot, Vector.toList_setIfInBounds, List.take_set]
  rw [List.set_eq_of_length_le (List.length_take_le _ _), List.dropLast_eq_take, List.take_take, lengthActive,
    Nat.min_eq_left (Nat.sub_le _ _)]

theorem clearLast_clean (clean : table.Clean) : table.clearLast.Clean where
  len_le := by have := clean.len_le; simp only [clearLast]; omega
  clear := by
    intro other beyond
    change (table.setSlot (table.len - 1) default).slot other = default
    rw [setSlot_slot]
    split
    · rfl
    · next different =>
      have := clean.len_le
      by_cases outside : capacity ≤ other
      · exact slot_of_capacity_le outside
      · exact clean.clear other (by simp only [clearLast] at beyond; omega)

theorem alloc_active (clean : table.Clean) (room : table.len < capacity) :
    table.alloc.active = table.active ++ [default] := by
  have fresh : table.slots.toList[table.len]? = some default := by
    -- the slot just past the active ones is clear
    have cleared := clean.clear table.len (Nat.le_refl _)
    simpa [slot, room] using cleared
  simp only [active, alloc]
  rw [List.take_add_one, fresh]
  rfl

theorem alloc_clean (clean : table.Clean) (room : table.len < capacity) : table.alloc.Clean where
  len_le := room
  clear := fun index beyond => clean.clear index (Nat.le_of_succ_le beyond)

theorem removeAt_of_le (beyond : table.len ≤ index) : table.removeAt index = table := by
  simp [removeAt, beyond]

theorem removeAt_of_lt (bound : index < table.len) :
    table.removeAt index =
      (if index = table.len - 1 then table else table.swap index (table.len - 1)).clearLast := by
  simp [removeAt, Nat.not_le.mpr bound]

theorem removeAt_len (bound : index < table.len) : (table.removeAt index).len = table.len - 1 := by
  rw [removeAt_of_lt bound]
  split <;> rfl

theorem removeAt_active (clean : table.Clean) (bound : index < table.len) :
    (table.removeAt index).active = swapRemove table.active index := by
  have lastBound : table.len - 1 < table.len := by omega
  have lengthActive := active_length clean
  have lastActive : table.active.getLast? = some (table.slot (table.len - 1)) := by
    rw [List.getLast?_eq_getElem?, lengthActive]
    exact active_getElem? clean lastBound
  simp only [swapRemove, lastActive]
  rw [removeAt_of_lt bound]
  by_cases isLast : index = table.len - 1
  -- nothing is exchanged when the last active record is removed
  · rw [if_pos isLast, clearLast_active clean, isLast, ← lengthActive, dropLast_set_last]
  · have lengthSet : (table.active.set index (table.slot (table.len - 1))).length = table.len := by
      rw [List.length_set, lengthActive]
    rw [if_neg isLast, clearLast_active (swap_clean clean bound lastBound), swap, setSlot_active,
      setSlot_active]
    rw [← dropLast_set_last (table.active.set index _) (table.slot index), lengthSet]

theorem removeAt_perm (clean : table.Clean) (bound : index < table.len) :
    table.slot index :: (table.removeAt index).active ~ table.active := by
  have inActive : index < table.active.length := by rwa [active_length clean]
  rw [removeAt_active clean bound, ← active_getElem clean inActive]
  exact swapRemove_perm inActive

theorem removeAt_clean (clean : table.Clean) : (table.removeAt index).Clean := by
  by_cases bound : index < table.len
  · rw [removeAt_of_lt bound]
    apply clearLast_clean
    split
    · exact clean
    · exact swap_clean clean bound (by omega)
  · rwa [removeAt_of_le (Nat.not_lt.mp bound)]

/-- Taking a slot into use and removing it again restores the table. -/
theorem removeAt_alloc (clean : table.Clean) : table.alloc.removeAt table.len = table := by
  have cleared : table.setSlot table.len default = table :=
    setSlot_same (clean.clear table.len (Nat.le_refl _))
  have inUse : table.len < table.alloc.len := Nat.lt_succ_self _
  have isLast : table.len = table.alloc.len - 1 := rfl
  rw [removeAt_of_lt inUse, if_pos isLast]
  calc table.alloc.clearLast
    _ = { table.setSlot table.len default with len := table.len } := rfl
    _ = table := by rw [cleared]

/-- What has been written into the last slot in use is gone once it is removed. -/
theorem removeAt_setSlot_last (isLast : index + 1 = table.len) (value : α) :
    (table.setSlot index value).removeAt index = table.removeAt index := by
  have position : index = table.len - 1 := by omega
  have bound : index < table.len := by omega
  have sameBound : index < (table.setSlot index value).len := bound
  have samePosition : index = (table.setSlot index value).len - 1 := position
  rw [removeAt_of_lt bound, removeAt_of_lt sameBound, if_pos position, if_pos samePosition]
  simp only [clearLast, setSlot_len, ← position, setSlot_setSlot]

/-! ## Mapping the slots -/

section Map

variable {β : Type} [Inhabited β] {f : α → β}

omit [Inhabited α] [Inhabited β] in
/-- The table whose slots hold the image of what they held. -/
def map (f : α → β) (table : SlotTable α capacity) : SlotTable β capacity := ⟨table.slots.map f, table.len⟩

omit [Inhabited α] [Inhabited β] in
@[simp] theorem map_len : (table.map f).len = table.len := rfl

theorem map_slot (clear : f default = default) (index : Nat) : (table.map f).slot index = f (table.slot index) := by
  simp only [slot, map, Vector.getElem?_map]
  cases table.slots[index]? with
  | none => exact clear.symm
  | some value => rfl

omit [Inhabited α] [Inhabited β] in
theorem map_setSlot (index : Nat) (value : α) :
    (table.setSlot index value).map f = (table.map f).setSlot index (f value) := by
  simp [map, setSlot, Vector.map_setIfInBounds]

theorem map_swap (clear : f default = default) (first second : Nat) :
    (table.swap first second).map f = (table.map f).swap first second := by
  rw [swap, map_setSlot, map_setSlot, swap, map_slot clear, map_slot clear]

theorem map_clearLast (clear : f default = default) : table.clearLast.map f = (table.map f).clearLast := by
  have cleared : (table.setSlot (table.len - 1) default).map f =
      (table.map f).setSlot (table.len - 1) default := by
    rw [map_setSlot, clear]
  simp only [clearLast, map_len, ← cleared]
  rfl

theorem map_removeAt (clear : f default = default) (index : Nat) :
    (table.removeAt index).map f = (table.map f).removeAt index := by
  by_cases beyond : table.len ≤ index
  · have alsoBeyond : (table.map f).len ≤ index := beyond
    rw [removeAt_of_le beyond, removeAt_of_le alsoBeyond]
  have bound : index < (table.map f).len := Nat.not_le.mp beyond
  rw [removeAt_of_lt (Nat.not_le.mp beyond), removeAt_of_lt bound, map_clearLast clear]
  by_cases isLast : index = table.len - 1
  · have alsoLast : index = (table.map f).len - 1 := isLast
    rw [if_pos isLast, if_pos alsoLast]
  · have notLast : index ≠ (table.map f).len - 1 := isLast
    rw [if_neg isLast, if_neg notLast, map_swap clear]
    rfl

theorem map_empty (clear : f default = default) : (empty : SlotTable α capacity).map f = empty := by
  simp [map, empty, clear]

end Map

end SlotTable

end Taws
