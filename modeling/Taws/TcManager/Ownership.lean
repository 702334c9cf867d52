import Mathlib.Algebra.BigOperators.Group.List.Basic
import Mathlib.Algebra.Order.Group.Multiset
import Taws.TcManager.Blocks

/-!
# Who owns the blocks of a record

Each block that is live is held by one pointer of one active record, and each pointer of an active record
is to a live block.  An exchange of two slots moves the pointers with the records, so only what a store or a
removal does to one record has to be accounted for.

* `pointers` — the blocks that records point to, with multiplicity.
* `Owned` — the invariant.
* `recordBuffers_owned` — it holds after each call of a run.
-/

namespace Taws.TcManager.Blocks

open scoped List

/-! ## The pointers of a record -/

def BlockBuf.blocks : BlockBuf → Multiset Nat
  | .null _ => 0
  | .block held _ => {held}

def BlockRecord.blocks (record : BlockRecord) : Multiset Nat :=
  record.manifestDigest.blocks + (record.manifestBin.blocks + record.wappBin.blocks)

/-- The pointers that are not NULL, each as often as it occurs. -/
def pointers (records : List BlockRecord) : Multiset Nat := (records.map BlockRecord.blocks).sum

theorem pointers_cons (record : BlockRecord) (records : List BlockRecord) :
    pointers (record :: records) = record.blocks + pointers records := by
  rw [pointers, List.map_cons, List.sum_cons, pointers]

theorem pointers_perm {first second : List BlockRecord} (perm : first ~ second) :
    pointers first = pointers second :=
  (perm.map BlockRecord.blocks).sum_eq

theorem blocks_default : (default : BlockRecord).blocks = 0 := rfl

theorem setDigest_null {record : BlockRecord} (isNull : record.manifestDigest = .null 0) :
    { record with manifestDigest := .null record.manifestDigest.len } = record := by
  cases record
  cases isNull
  rfl

/-- The live blocks are those that the active records point to, and each has one pointer. -/
structure Owned (state : HeapTable) : Prop where
  clean : state.table.Clean
  holds : state.heap.Holds (pointers state.table.active)

variable {csuit : Libcsuit} {state : HeapTable} {heap : LedgerHeap} {held : Multiset Nat} {index : Nat}

/-! ## Freeing and allocating -/

theorem freeBuf_holds {buf : BlockBuf} (holds : heap.Holds (buf.blocks + held)) : (freeBuf heap buf).Holds held := by
  cases buf with
  | null length => simpa [BlockBuf.blocks, freeBuf] using holds
  | block block data => exact LedgerHeap.Holds.free (by simpa [BlockBuf.blocks] using holds)

theorem freeRecord_holds {record : BlockRecord} (holds : heap.Holds (record.blocks + held)) :
    (freeBuf (freeBuf (freeBuf heap record.manifestDigest) record.manifestBin) record.wappBin).Holds held := by
  rw [BlockRecord.blocks, add_assoc, add_assoc] at holds
  exact freeBuf_holds (freeBuf_holds (freeBuf_holds holds))

/-- The old block is given back and the new one held in its place. -/
theorem replaceBin_holds (source : Buffer) (malloc : Bool) {old : BlockBuf}
    (holds : heap.Holds (old.blocks + held)) :
    (replaceBin heap old source malloc).2.2.Holds ((replaceBin heap old source malloc).2.1.blocks + held) := by
  have released : ∃ freed buf, (if old.isNull then (old, heap) else (.null 0, freeBuf heap old)) = (buf, freed) ∧
      buf.blocks = 0 ∧ freed.Holds held := by
    cases old with
    | null length => exact ⟨heap, _, rfl, rfl, by simpa [BlockBuf.blocks] using holds⟩
    | block block data => exact ⟨_, _, rfl, rfl, freeBuf_holds holds⟩
  obtain ⟨freed, buf, same, noBlock, freedHolds⟩ := released
  simp only [replaceBin, same]
  split
  · rwa [noBlock, zero_add]
  split
  · have allocated := freedHolds.malloc
    rwa [← Multiset.singleton_add] at allocated
  · rwa [noBlock, zero_add]

/-- A store replaces one of the three pointers; the other two are held throughout. -/
theorem blocks_manifestBin (record : BlockRecord) (held : Multiset Nat) :
    record.blocks + held =
      record.manifestBin.blocks + (record.manifestDigest.blocks + record.wappBin.blocks + held) := by
  unfold BlockRecord.blocks
  ac_rfl

theorem blocks_wappBin (record : BlockRecord) (held : Multiset Nat) :
    record.blocks + held =
      record.wappBin.blocks + (record.manifestDigest.blocks + record.manifestBin.blocks + held) := by
  unfold BlockRecord.blocks
  ac_rfl

theorem storeFields_holds (args : SuitStoreArgs) (alloc : StoreAlloc) {record : BlockRecord}
    (holds : heap.Holds (record.blocks + held)) :
    (storeFields csuit args alloc record heap).2.2.Holds
      ((storeFields csuit args alloc record heap).2.1.blocks + held) := by
  unfold storeFields
  split
  · rw [blocks_manifestBin] at holds ⊢
    exact replaceBin_holds args.srcBuf alloc.bin holds
  · rw [blocks_wappBin] at holds ⊢
    exact replaceBin_holds args.srcBuf alloc.bin holds

/-! ## The table operations -/

theorem removeAt_owned (owned : Owned state) (index : Nat) : Owned (manifestRecordRemoveAt state index) := by
  have table := removeAt_table state index
  refine ⟨table ▸ SlotTable.removeAt_clean owned.clean, ?_⟩
  rw [table]
  unfold manifestRecordRemoveAt
  split
  · next beyond => rw [SlotTable.removeAt_of_le beyond]; exact owned.holds
  next inUse =>
  have bound := Nat.not_le.mp inUse
  -- the record that is freed is the one that was at `index`, wherever it is then
  have moved : (if index = state.table.len - 1 then state.table
      else state.table.swap index (state.table.len - 1)).slot (state.table.len - 1) = state.table.slot index := by
    split
    · next isLast => rw [← isLast]
    · rw [SlotTable.swap_slot owned.clean bound (by omega), if_pos rfl]
  have removed := pointers_perm (SlotTable.removeAt_perm owned.clean bound)
  rw [pointers_cons] at removed
  have holds := owned.holds
  rw [← removed] at holds
  simp only [moved]
  exact freeRecord_holds holds

theorem pointers_slot {table : SlotTable BlockRecord tcManagerRecordMaxCount} (clean : table.Clean)
    (bound : index < table.len) :
    pointers table.active = (table.slot index).blocks + pointers (table.others index) := by
  rw [pointers_perm (SlotTable.active_perm_cons_others clean bound), pointers_cons]

theorem pointers_setSlot {table : SlotTable BlockRecord tcManagerRecordMaxCount} (clean : table.Clean)
    (bound : index < table.len) (record : BlockRecord) :
    pointers (table.setSlot index record).active = record.blocks + pointers (table.others index) := by
  rw [pointers_perm (SlotTable.setSlot_perm clean bound), pointers_cons]

theorem storeAt_owned (args : SuitStoreArgs) (alloc : StoreAlloc) (owned : Owned state)
    (bound : index < state.table.len) : Owned (storeAt csuit args alloc state index).2 where
  clean := SlotTable.setSlot_clean owned.clean bound
  holds := by
    have holds := owned.holds
    rw [pointers_slot owned.clean bound] at holds
    show LedgerHeap.Holds _ (pointers (state.table.setSlot index _).active)
    rw [pointers_setSlot owned.clean bound]
    exact storeFields_holds args alloc holds

/-- A slot just past the active ones holds no pointer. -/
theorem alloc_owned (owned : Owned state) (room : state.table.len < tcManagerRecordMaxCount) :
    Owned { state with table := state.table.alloc } where
  clean := SlotTable.alloc_clean owned.clean room
  holds := by
    show state.heap.Holds (pointers state.table.alloc.active)
    rw [SlotTable.alloc_active owned.clean room, pointers_perm (List.perm_append_singleton _ _), pointers_cons,
      blocks_default, zero_add]
    exact owned.holds

theorem storeNew_owned (args : SuitStoreArgs) (alloc : StoreAlloc) (owned : Owned state)
    (bound : index < state.table.len) (noPointers : (state.table.slot index).manifestDigest = .null 0) :
    Owned (storeNew csuit args alloc state index).2 := by
  unfold storeNew
  split
  · exact removeAt_owned owned index
  split
  · -- the pointer was NULL before the `malloc` that fails
    have unchanged := setDigest_null noPointers
    simp only [unchanged, SlotTable.setSlot_same rfl]
    exact removeAt_owned owned index
  · refine storeAt_owned args alloc ⟨SlotTable.setSlot_clean owned.clean bound, ?_⟩ bound
    have holds := owned.holds
    rw [pointers_slot owned.clean bound] at holds
    show LedgerHeap.Holds _ (pointers (state.table.setSlot index _).active)
    rw [pointers_setSlot owned.clean bound]
    have others : (state.table.slot index).blocks =
        (state.table.slot index).manifestBin.blocks + (state.table.slot index).wappBin.blocks := by
      rw [BlockRecord.blocks, noPointers, BlockBuf.blocks, zero_add]
    have allocated := holds.malloc
    rw [others, ← Multiset.singleton_add, ← add_assoc] at allocated
    exact allocated

/-! ## Runs -/

theorem store_owned (csuit : Libcsuit) (storeArgs : Option SuitStoreArgs) (alloc : StoreAlloc)
    (owned : Owned state) : Owned (tcManagerStoreRecordFromStoreArgs csuit storeArgs alloc state).2 := by
  unfold tcManagerStoreRecordFromStoreArgs
  split
  · exact owned
  next args =>
  split
  · exact owned
  split
  · next index found =>
    have inUse : index < state.table.len := (findByDigest_some found).2.1
    exact storeAt_owned args alloc owned inUse
  unfold manifestRecordsAlloc
  by_cases full : state.table.len ≥ tcManagerRecordMaxCount
  · simp only [if_pos full]
    exact owned
  · simp only [if_neg full]
    have room := Nat.not_le.mp full
    have cleared : state.table.slot state.table.len = default := owned.clean.clear _ (Nat.le_refl _)
    refine storeNew_owned args alloc (alloc_owned owned room) (Nat.lt_succ_self _) ?_
    show (state.table.slot state.table.len).manifestDigest = .null 0
    rw [cleared]
    rfl

theorem updateOrDiscard_owned (owned : Owned state) (recordIndex : Nat) :
    Owned (manifestRecordUpdateOrDiscard state recordIndex) := by
  unfold manifestRecordUpdateOrDiscard
  split
  · exact owned
  split
  · exact owned
  next inUse =>
  split
  · exact owned
  next index found =>
  split
  · have indexInUse := List.mem_range.mp (List.mem_of_find?_eq_some found)
    have recordInUse := Nat.not_le.mp inUse
    apply removeAt_owned
    refine ⟨SlotTable.swap_clean owned.clean indexInUse recordInUse, ?_⟩
    rw [pointers_perm (SlotTable.swap_perm owned.clean indexInUse recordInUse)]
    exact owned.holds
  · exact removeAt_owned owned recordIndex

theorem removeAllLoop_owned (fuel : Nat) (owned : Owned state) : Owned (removeAllLoop fuel state) := by
  induction fuel generalizing state with
  | zero => exact owned
  | succ fuel inductionHypothesis =>
    unfold removeAllLoop
    split
    · exact inductionHypothesis (removeAt_owned owned 0)
    · exact owned

/-- Every call keeps the pointers and the live blocks in step. -/
theorem blockStep_owned (csuit : Libcsuit) (owned : Owned state) (call : TcCall) :
    Owned (blockStep csuit state call).2 := by
  cases call with
  | store storeArgs alloc => exact store_owned csuit storeArgs alloc owned
  | checkAndUpdate digest =>
    simp only [blockStep, tcManagerCheckAndUpdateRecord]
    split
    · exact owned
    split
    · exact removeAt_owned owned _
    · exact updateOrDiscard_owned owned _
  | removeAll => exact removeAllLoop_owned _ owned

theorem blockRun_owned (csuit : Libcsuit) (calls : List TcCall) : Owned (blockRun csuit calls) := by
  have preserved : ∀ state call, Owned state → Owned ((blockMachine csuit).step state call).1 :=
    fun state call owned => blockStep_owned csuit owned call
  have initial : Owned ⟨SlotTable.empty, .unused⟩ := ⟨SlotTable.empty_clean, LedgerHeap.holds_unused⟩
  exact Machine.run_preserves preserved initial calls

/-- After each call of a run no free has missed a live block, and the live blocks are the pointers of the
active records, each occurring once; no other slot points to a block. -/
theorem recordBuffers_owned (csuit : Libcsuit) (calls : List TcCall) :
    (∃ live, Ledger.replay ∅ (blockRun csuit calls).heap.trace = some live ∧
      live.val = pointers (blockRun csuit calls).table.active) ∧
    (pointers (blockRun csuit calls).table.active).Nodup ∧
    ∀ index, (blockRun csuit calls).table.len ≤ index → ((blockRun csuit calls).table.slot index).blocks = 0 := by
  have owned := blockRun_owned csuit calls
  refine ⟨owned.holds.live, ?_, ?_⟩
  · obtain ⟨live, _, same⟩ := owned.holds.live
    rw [← same]
    exact live.nodup
  · intro index inactive
    rw [owned.clean.clear index inactive]
    exact blocks_default

end Taws.TcManager.Blocks
