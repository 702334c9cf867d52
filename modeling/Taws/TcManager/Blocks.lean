import Taws.Ledger
import Taws.TcManager.Operations

/-!
# The record table and its heap blocks

The functions of `tc_manager.cpp` that write to the table, with each `malloc` and `free` they make.  A
buffer of a record is NULL or a heap block.  The bytes of a block are written once, right after its `malloc`,
and stand beside it; a function that only reads sees the bytes alone.

* `HeapTable` — the table and the heap.
* `blockStep`, `blockRun` — the calls that change them.
* `blockStep_erased`, `blockRun_erased` — without the blocks the table is the one of `tcStep` and `tcRun`.
-/

namespace Taws.TcManager.Blocks

/-- The `UsefulBuf` of a record. -/
inductive BlockBuf where
  | null (length : Nat)
  | block (block : Nat) (data : Bytes)
  deriving DecidableEq

namespace BlockBuf

def isNull : BlockBuf → Bool
  | .null _ => true
  | .block _ _ => false

def len : BlockBuf → Nat
  | .null length => length
  | .block _ data => data.length

/-- What can be read through the pointer. -/
def erased : BlockBuf → Buffer
  | .null length => .null length
  | .block _ data => .bytes data

@[simp] theorem isNull_erased (buf : BlockBuf) : buf.erased.isNull = buf.isNull := by
  cases buf <;> rfl

end BlockBuf

/-- `manifest_record_t` -/
structure BlockRecord where
  manifestDigest : BlockBuf
  manifestName : CString
  manifestSequenceNumber : UInt64
  manifestBin : BlockBuf
  wappName : CString
  wappHash : Sha256Hash
  wappBin : BlockBuf
  deriving DecidableEq

/-- A record whose memory is all zero. -/
instance : Inhabited BlockRecord where
  default :=
    { manifestDigest := .null 0, manifestName := [], manifestSequenceNumber := 0,
      manifestBin := .null 0, wappName := [], wappHash := Vector.replicate _ 0, wappBin := .null 0 }

def BlockRecord.erased (record : BlockRecord) : ManifestRecord where
  manifestDigest := record.manifestDigest.erased
  manifestName := record.manifestName
  manifestSequenceNumber := record.manifestSequenceNumber
  manifestBin := record.manifestBin.erased
  wappName := record.wappName
  wappHash := record.wappHash
  wappBin := record.wappBin.erased

/-- `g_manifest_records` with `g_manifest_record_len`, and the heap. -/
structure HeapTable where
  table : SlotTable BlockRecord tcManagerRecordMaxCount
  heap : LedgerHeap

def HeapTable.erased (state : HeapTable) : RecordTable := state.table.map BlockRecord.erased

/-- `free` of a pointer that is not NULL. -/
def freeBuf (heap : LedgerHeap) : BlockBuf → LedgerHeap
  | .null _ => heap
  | .block block _ => heap.free block

/-! ## Slots -/

def manifestRecordsAlloc (state : HeapTable) : Option (Nat × HeapTable) :=
  if state.table.len ≥ tcManagerRecordMaxCount then none
  else some (state.table.len, { state with table := state.table.alloc })

def manifestRecordRemoveAt (state : HeapTable) (index : Nat) : HeapTable :=
  if index ≥ state.table.len then state
  else
    let last := state.table.len - 1
    let table := if index = last then state.table else state.table.swap index last
    let record := table.slot last
    let heap := freeBuf (freeBuf (freeBuf state.heap record.manifestDigest) record.manifestBin) record.wappBin
    ⟨table.clearLast, heap⟩

def manifestRecordUpdateOrDiscard (state : HeapTable) (recordIndex : Nat) : HeapTable :=
  if (state.table.slot recordIndex).wappName = [] then state
  else if recordIndex ≥ state.table.len then state
  else
    match (List.range state.table.len).find? (sameWappName state.erased recordIndex) with
    | none => state
    | some index =>
      if (state.table.slot index).manifestSequenceNumber ≤ (state.table.slot recordIndex).manifestSequenceNumber
      then manifestRecordRemoveAt { state with table := state.table.swap index recordIndex } recordIndex
      else manifestRecordRemoveAt state recordIndex

/-! ## Storing -/

/-- Frees the old binary and copies the new one; `false` when the copy cannot be allocated. -/
def replaceBin (heap : LedgerHeap) (old : BlockBuf) (source : Buffer) (malloc : Bool) :
    Bool × BlockBuf × LedgerHeap :=
  let released := if old.isNull then (old, heap) else (.null 0, freeBuf heap old)
  if source.isNullOrEmpty then (true, released)
  else if malloc then
    let allocated := released.2.malloc
    (true, .block allocated.1 source.data, allocated.2)
  else (false, released)

def storeManifest (csuit : Libcsuit) (args : SuitStoreArgs) (alloc : StoreAlloc) (record : BlockRecord)
    (heap : LedgerHeap) : Int × BlockRecord × LedgerHeap :=
  let name := manifestRecordSetIdsFromComponentId csuit args.dst record.manifestName csuit.suitMaxNameLength
  let bin := replaceBin heap record.manifestBin args.srcBuf alloc.bin
  (if bin.1 then 0 else -1,
    { record with
      manifestSequenceNumber := args.manifestSequenceNumber
      manifestName := name.2
      manifestBin := bin.2.1 }, bin.2.2)

def storePayload (csuit : Libcsuit) (args : SuitStoreArgs) (alloc : StoreAlloc) (record : BlockRecord)
    (heap : LedgerHeap) : Int × BlockRecord × LedgerHeap :=
  let name := manifestRecordSetIdsFromComponentId csuit args.dst record.wappName csuit.suitMaxNameLength
  let bin := replaceBin heap record.wappBin args.srcBuf alloc.bin
  (if bin.1 then 0 else -1,
    { record with
      wappName := name.2
      wappBin := bin.2.1
      wappHash :=
        if bin.1 && !args.srcBuf.isNullOrEmpty then
          (csuit.suitGenerateSha256 args.srcBuf.data record.wappHash).2
        else record.wappHash }, bin.2.2)

def storeFields (csuit : Libcsuit) (args : SuitStoreArgs) (alloc : StoreAlloc) (record : BlockRecord)
    (heap : LedgerHeap) : Int × BlockRecord × LedgerHeap :=
  if args.isManifestItself then storeManifest csuit args alloc record heap
  else storePayload csuit args alloc record heap

def storeAt (csuit : Libcsuit) (args : SuitStoreArgs) (alloc : StoreAlloc) (state : HeapTable) (index : Nat) :
    Int × HeapTable :=
  let stored := storeFields csuit args alloc (state.table.slot index) state.heap
  (stored.1, ⟨state.table.setSlot index stored.2.1, stored.2.2⟩)

/-- The new record at `index`, just taken into use.  A `malloc` that fails sets the pointer to NULL. -/
def storeNew (csuit : Libcsuit) (args : SuitStoreArgs) (alloc : StoreAlloc) (state : HeapTable) (index : Nat) :
    Int × HeapTable :=
  if args.manifestDigest.isNullOrEmpty then (-1, manifestRecordRemoveAt state index)
  else if !alloc.digest then
    let record := state.table.slot index
    let failed := { record with manifestDigest := BlockBuf.null record.manifestDigest.len }
    (-1, manifestRecordRemoveAt { state with table := state.table.setSlot index failed } index)
  else
    let allocated := state.heap.malloc
    let digest := BlockBuf.block allocated.1 args.manifestDigest.data
    let table := state.table.setSlot index { state.table.slot index with manifestDigest := digest }
    storeAt csuit args alloc ⟨table, allocated.2⟩ index

def tcManagerStoreRecordFromStoreArgs (csuit : Libcsuit) (storeArgs : Option SuitStoreArgs) (alloc : StoreAlloc)
    (state : HeapTable) : Int × HeapTable :=
  match storeArgs with
  | none => (-1, state)
  | some args =>
    if args.operation ≠ .store then (-1, state)
    else
      match manifestRecordFindByDigest state.erased args.manifestDigest with
      | some index => storeAt csuit args alloc state index
      | none =>
        match manifestRecordsAlloc state with
        | none => (-1, state)
        | some (index, allocated) => storeNew csuit args alloc allocated index

/-! ## Finalising and clearing -/

def tcManagerCheckAndUpdateRecord (digest : Buffer) (state : HeapTable) : Int × HeapTable :=
  match manifestRecordFindByDigest state.erased digest with
  | none => (-1, state)
  | some index =>
    if !manifestRecordIsComplete (state.table.slot index).erased then (-1, manifestRecordRemoveAt state index)
    else (0, manifestRecordUpdateOrDiscard state index)

/-- The `while` loop; `fuel` is the length, which every iteration lowers by one. -/
def removeAllLoop : Nat → HeapTable → HeapTable
  | 0, state => state
  | fuel + 1, state =>
    if state.table.len > 0 then removeAllLoop fuel (manifestRecordRemoveAt state 0) else state

def tcManagerRemoveAll (state : HeapTable) : HeapTable := removeAllLoop state.table.len state

def blockStep (csuit : Libcsuit) (state : HeapTable) : TcCall → Int × HeapTable
  | .store storeArgs alloc => tcManagerStoreRecordFromStoreArgs csuit storeArgs alloc state
  | .checkAndUpdate digest => tcManagerCheckAndUpdateRecord digest state
  | .removeAll => (0, tcManagerRemoveAll state)

def blockMachine (csuit : Libcsuit) : Machine HeapTable TcCall Int where
  step state call := ((blockStep csuit state call).2, [(blockStep csuit state call).1])

/-- The table and the heap after the calls, from the empty table and a heap that has not been used. -/
def blockRun (csuit : Libcsuit) (calls : List TcCall) : HeapTable :=
  ((blockMachine csuit).run ⟨SlotTable.empty, .unused⟩ calls).1

/-! ## Without the blocks -/

theorem erased_default : (default : BlockRecord).erased = default := rfl

variable {state : HeapTable}

@[simp] theorem erased_len (state : HeapTable) : state.erased.len = state.table.len := rfl

@[simp] theorem erased_slot (state : HeapTable) (index : Nat) :
    state.erased.slot index = (state.table.slot index).erased := SlotTable.map_slot erased_default index

theorem removeAt_table (state : HeapTable) (index : Nat) :
    (manifestRecordRemoveAt state index).table = state.table.removeAt index := by
  unfold manifestRecordRemoveAt
  split
  · next beyond => exact (SlotTable.removeAt_of_le beyond).symm
  · next bound => exact (SlotTable.removeAt_of_lt (Nat.not_le.mp bound)).symm

theorem removeAt_erased (state : HeapTable) (index : Nat) :
    (manifestRecordRemoveAt state index).erased = TcManager.manifestRecordRemoveAt state.erased index := by
  rw [HeapTable.erased, removeAt_table, SlotTable.map_removeAt erased_default]
  rfl

theorem updateOrDiscard_erased (state : HeapTable) (recordIndex : Nat) :
    (manifestRecordUpdateOrDiscard state recordIndex).erased =
      TcManager.manifestRecordUpdateOrDiscard state.erased recordIndex := by
  have sameName : (state.table.slot recordIndex).erased.wappName = (state.table.slot recordIndex).wappName := rfl
  simp only [manifestRecordUpdateOrDiscard, TcManager.manifestRecordUpdateOrDiscard, erased_slot, erased_len,
    sameName]
  by_cases unnamed : (state.table.slot recordIndex).wappName = []
  · rw [if_pos unnamed, if_pos unnamed]
  rw [if_neg unnamed, if_neg unnamed]
  by_cases beyond : recordIndex ≥ state.table.len
  · rw [if_pos beyond, if_pos beyond]
  rw [if_neg beyond, if_neg beyond]
  cases (List.range state.table.len).find? (sameWappName state.erased recordIndex) with
  | none => rfl
  | some index =>
    have exchanged : HeapTable.erased { state with table := state.table.swap index recordIndex } =
        state.erased.swap index recordIndex := SlotTable.map_swap erased_default index recordIndex
    have older : (state.table.slot index).erased.manifestSequenceNumber =
        (state.table.slot index).manifestSequenceNumber := rfl
    have newer : (state.table.slot recordIndex).erased.manifestSequenceNumber =
        (state.table.slot recordIndex).manifestSequenceNumber := rfl
    simp only [older, newer]
    split
    · rw [removeAt_erased, exchanged]
    · rw [removeAt_erased]

theorem replaceBin_erased (heap : LedgerHeap) (old : BlockBuf) (source : Buffer) (malloc : Bool) :
    ((replaceBin heap old source malloc).1, (replaceBin heap old source malloc).2.1.erased) =
      TcManager.replaceBin old.erased source malloc := by
  unfold replaceBin TcManager.replaceBin
  cases old <;> cases source.isNullOrEmpty <;> cases malloc <;> rfl

theorem storeFields_erased (csuit : Libcsuit) (args : SuitStoreArgs) (alloc : StoreAlloc) (record : BlockRecord)
    (heap : LedgerHeap) :
    ((storeFields csuit args alloc record heap).1, (storeFields csuit args alloc record heap).2.1.erased) =
      TcManager.storeFields csuit args alloc record.erased := by
  have manifest := replaceBin_erased heap record.manifestBin args.srcBuf alloc.bin
  have payload := replaceBin_erased heap record.wappBin args.srcBuf alloc.bin
  unfold storeFields TcManager.storeFields
  cases args.isManifestItself with
  | true =>
    simp only [if_true, storeManifest, TcManager.storeManifest, BlockRecord.erased, ← manifest]
  | false =>
    simp only [Bool.false_eq_true, if_false, storePayload, TcManager.storePayload, BlockRecord.erased, ← payload]

theorem storeAt_erased (csuit : Libcsuit) (args : SuitStoreArgs) (alloc : StoreAlloc) (state : HeapTable)
    (index : Nat) :
    ((storeAt csuit args alloc state index).1, (storeAt csuit args alloc state index).2.erased) =
      TcManager.storeAt csuit args alloc state.erased index := by
  have fields := storeFields_erased csuit args alloc (state.table.slot index) state.heap
  simp only [TcManager.storeAt, erased_slot, ← fields]
  exact Prod.ext rfl (SlotTable.map_setSlot _ _)

theorem storeNew_erased (csuit : Libcsuit) (args : SuitStoreArgs) (alloc : StoreAlloc) (state : HeapTable)
    {index : Nat} (isLast : index + 1 = state.table.len) :
    ((storeNew csuit args alloc state index).1, (storeNew csuit args alloc state index).2.erased) =
      TcManager.storeNew csuit args alloc state.erased index := by
  simp only [storeNew, TcManager.storeNew]
  by_cases noDigest : args.manifestDigest.isNullOrEmpty = true
  · rw [if_pos noDigest, if_pos noDigest]
    exact Prod.ext rfl (removeAt_erased state index)
  rw [if_neg noDigest, if_neg noDigest]
  by_cases failed : (!alloc.digest) = true
  · rw [if_pos failed, if_pos failed]
    have erasedLast : index + 1 = state.erased.len := isLast
    refine Prod.ext rfl ?_
    rw [removeAt_erased, HeapTable.erased, SlotTable.map_setSlot, TcManager.manifestRecordRemoveAt,
      TcManager.manifestRecordRemoveAt, ← SlotTable.removeAt_setSlot_last erasedLast]
    rfl
  rw [if_neg failed, if_neg failed, storeAt_erased]
  simp only [erased_slot]
  rw [HeapTable.erased, SlotTable.map_setSlot]
  rfl

theorem removeAllLoop_erased (fuel : Nat) (state : HeapTable) :
    (removeAllLoop fuel state).erased = TcManager.removeAllLoop fuel state.erased := by
  induction fuel generalizing state with
  | zero => rfl
  | succ fuel inductionHypothesis =>
    simp only [removeAllLoop, TcManager.removeAllLoop]
    by_cases inUse : state.table.len > 0
    · have erasedInUse : state.erased.len > 0 := inUse
      rw [if_pos inUse, if_pos erasedInUse, inductionHypothesis, removeAt_erased]
    · have erasedUnused : ¬ state.erased.len > 0 := inUse
      rw [if_neg inUse, if_neg erasedUnused]

theorem blockStep_erased (csuit : Libcsuit) (state : HeapTable) (call : TcCall) :
    ((blockStep csuit state call).1, (blockStep csuit state call).2.erased) =
      tcStep csuit state.erased call := by
  cases call with
  | store storeArgs alloc =>
    cases storeArgs with
    | none => rfl
    | some args =>
      simp only [blockStep, tcStep, tcManagerStoreRecordFromStoreArgs,
        TcManager.tcManagerStoreRecordFromStoreArgs]
      by_cases otherOperation : args.operation ≠ .store
      · rw [if_pos otherOperation, if_pos otherOperation]
      rw [if_neg otherOperation, if_neg otherOperation]
      cases manifestRecordFindByDigest state.erased args.manifestDigest with
      | some index => exact storeAt_erased csuit args alloc state index
      | none =>
        simp only [manifestRecordsAlloc, TcManager.manifestRecordsAlloc]
        by_cases full : state.table.len ≥ tcManagerRecordMaxCount
        · have erasedFull : state.erased.len ≥ tcManagerRecordMaxCount := full
          rw [if_pos full, if_pos erasedFull]
        · have erasedRoom : ¬ state.erased.len ≥ tcManagerRecordMaxCount := full
          rw [if_neg full, if_neg erasedRoom]
          exact storeNew_erased csuit args alloc { state with table := state.table.alloc } rfl
  | checkAndUpdate digest =>
    simp only [blockStep, tcStep, tcManagerCheckAndUpdateRecord, TcManager.tcManagerCheckAndUpdateRecord]
    cases manifestRecordFindByDigest state.erased digest with
    | none => rfl
    | some index =>
      simp only [erased_slot]
      split
      · exact Prod.ext rfl (removeAt_erased state index)
      · exact Prod.ext rfl (updateOrDiscard_erased state index)
  | removeAll => exact Prod.ext rfl (removeAllLoop_erased state.table.len state)

/-- Leaving the blocks out of a run gives the run of the table without blocks. -/
theorem blockRun_erased (csuit : Libcsuit) (calls : List TcCall) :
    (blockRun csuit calls).erased = tcRun csuit SlotTable.empty calls := by
  have initial : HeapTable.erased ⟨SlotTable.empty, .unused⟩ = SlotTable.empty :=
    SlotTable.map_empty erased_default
  have simulates : ∀ state call, ((blockMachine csuit).step state call).1.erased =
      ((tcMachine csuit).step state.erased call).1 :=
    fun state call => congrArg Prod.snd (blockStep_erased csuit state call)
  rw [blockRun, Machine.run_simulates simulates, initial]
  rfl

end Taws.TcManager.Blocks
