import Taws.Machine
import Taws.TcManager.Table

/-!
# What the table operations do to the active records

One lemma for each operation says everything the operation can do, in terms of the active records;
the invariants are derived from these lemmas and never unfold the operations.

* `findByDigest_some`, `findByDigest_none` — lookup by digest.
* `findRecordByWappname_eq` — lookup by app name is a search of the active records in slot order.
* `store_cases`, `checkAndUpdate_cases` — the outcomes of storing and of finalising.
-/

namespace Taws.TcManager

open scoped List
open SlotTable

variable {csuit : Libcsuit} {table : RecordTable} {digest : Buffer}

/-! ## Lookup -/

theorem digestMatches_iff {record : ManifestRecord} (full : digest.isNullOrEmpty = false) :
    digestMatches digest record = true ↔ record.manifestDigest = digest := by
  obtain ⟨shape, _⟩ := Buffer.isNullOrEmpty_eq_false.mp full
  rw [shape]
  cases stored : record.manifestDigest with
  | null length => simp [digestMatches, stored]
  | bytes data =>
    simp only [digestMatches, stored, Buffer.isNull_bytes, Buffer.len_bytes, Buffer.data_bytes,
      Bool.not_false, Bool.true_and, Bool.and_eq_true, beq_iff_eq, Buffer.bytes.injEq]
    exact ⟨fun both => both.2, fun same => ⟨by rw [same], same⟩⟩

theorem findByDigest_of_empty (empty : digest.isNullOrEmpty = true) :
    manifestRecordFindByDigest table digest = none := by
  simp [manifestRecordFindByDigest, empty]

theorem findByDigest_some {index : Nat}
    (found : manifestRecordFindByDigest table digest = some index) :
    digest.isNullOrEmpty = false ∧ index < table.len ∧ (table.slot index).manifestDigest = digest := by
  cases full : digest.isNullOrEmpty with
  | true => simp [findByDigest_of_empty full] at found
  | false =>
    simp only [manifestRecordFindByDigest, full, Bool.false_eq_true, if_false] at found
    have inRange := List.mem_of_find?_eq_some found
    have matching := List.find?_some found
    exact ⟨rfl, List.mem_range.mp inRange, (digestMatches_iff full).mp matching⟩

theorem findByDigest_none (clean : table.Clean) (full : digest.isNullOrEmpty = false) :
    manifestRecordFindByDigest table digest = none ↔
      ∀ record ∈ table.active, record.manifestDigest ≠ digest := by
  simp only [manifestRecordFindByDigest, full, Bool.false_eq_true, if_false, List.find?_eq_none,
    List.mem_range, digestMatches_iff full]
  constructor
  · intro absent record member
    obtain ⟨index, bound, rfl⟩ := exists_slot_of_mem_active clean member
    exact absent index bound
  · intro absent index bound
    exact absent _ (slot_mem_active clean bound)

theorem findByDigest_eq_none_iff (clean : table.Clean) :
    manifestRecordFindByDigest table digest = none ↔
      digest.isNullOrEmpty = true ∨ ∀ record ∈ table.active, record.manifestDigest ≠ digest := by
  cases full : digest.isNullOrEmpty with
  | true => simp [findByDigest_of_empty full]
  | false => simp [findByDigest_none clean full]

theorem findRecordByWappname_eq (clean : table.Clean) {name : CString} (named : name ≠ []) :
    tcManagerFindRecordByWappname table (some name) =
      table.active.find? fun record => record.wappName == name := by
  have sameTest : (fun index => (table.slot index).wappName != [] && (table.slot index).wappName == name) =
      fun index => (table.slot index).wappName == name := by
    funext index
    by_cases same : (table.slot index).wappName = name
    · simp [same, named]
    · simp [same]
  simp only [tcManagerFindRecordByWappname, manifestRecordFindByWappName, if_neg named, sameTest]
  exact find_slot_eq_find_active clean fun record => record.wappName == name

theorem isComplete_iff {record : ManifestRecord} :
    manifestRecordIsComplete record = true ↔
      record.manifestName ≠ [] ∧ record.wappName ≠ [] ∧ record.manifestBin.isNullOrEmpty = false ∧
        record.wappBin.isNullOrEmpty = false := by
  simp only [manifestRecordIsComplete, Bool.or_eq_true, decide_eq_true_eq]
  split
  · next missing => simp only [Bool.false_eq_true, false_iff]; tauto
  · next present =>
    rw [not_or] at present
    cases record.manifestBin.isNullOrEmpty <;> cases record.wappBin.isNullOrEmpty <;> simp [present]

/-! ## Storing -/

/-- The record a store callback for a new digest writes its fields into. -/
def freshRecord (digest : Buffer) : ManifestRecord :=
  { (default : ManifestRecord) with manifestDigest := digest }

@[simp] theorem storeFields_manifestDigest (args : SuitStoreArgs) (alloc : StoreAlloc)
    (record : ManifestRecord) :
    (storeFields csuit args alloc record).2.manifestDigest = record.manifestDigest := by
  unfold storeFields storeManifest storePayload
  split <;> rfl

/-- The record that a store call with these arguments would begin is new, and there is room for it. -/
structure BeginsRecord (table : RecordTable) (args : SuitStoreArgs) (alloc : StoreAlloc) : Prop where
  isStore : args.operation = .store
  full : args.manifestDigest.isNullOrEmpty = false
  absent : ∀ record ∈ table.active, record.manifestDigest ≠ args.manifestDigest
  room : table.len < tcManagerRecordMaxCount
  allocated : alloc.digest = true

theorem storeAt_active {args : SuitStoreArgs} {alloc : StoreAlloc} {index : Nat} :
    (storeAt csuit args alloc table index).2.active =
      table.active.set index (storeFields csuit args alloc (table.slot index)).2 := by
  simp [storeAt]

theorem storeNew_eq (clean : table.Clean) {args : SuitStoreArgs} {alloc : StoreAlloc}
    (begins : BeginsRecord table args alloc) :
    storeNew csuit args alloc table.alloc table.len =
      ((storeFields csuit args alloc (freshRecord args.manifestDigest)).1,
        (table.alloc.setSlot table.len (freshRecord args.manifestDigest)).setSlot table.len
          (storeFields csuit args alloc (freshRecord args.manifestDigest)).2) := by
  obtain ⟨shape, _⟩ := Buffer.isNullOrEmpty_eq_false.mp begins.full
  have zeroed : table.alloc.slot table.len = default := clean.clear table.len (Nat.le_refl _)
  have written : (table.alloc.setSlot table.len (freshRecord args.manifestDigest)).slot table.len =
      freshRecord args.manifestDigest := by
    rw [setSlot_slot, if_pos ⟨rfl, begins.room⟩]
  simp only [storeNew, begins.full, begins.allocated, Bool.false_eq_true, Bool.not_true, if_false,
    zeroed, ← shape]
  change storeAt csuit args alloc (table.alloc.setSlot table.len (freshRecord args.manifestDigest))
    table.len = _
  rw [storeAt, written]

/-- The three outcomes of a store call: it is rejected and changes nothing, it writes into the record
of its digest, or it appends a record for a new digest. -/
theorem store_cases (csuit : Libcsuit) (clean : table.Clean) (args : SuitStoreArgs) (alloc : StoreAlloc) :
    (tcManagerStoreRecordFromStoreArgs csuit (some args) alloc table = (-1, table) ∧
      ¬ BeginsRecord table args alloc) ∨
    (∃ index, args.operation = .store ∧
      manifestRecordFindByDigest table args.manifestDigest = some index ∧
      tcManagerStoreRecordFromStoreArgs csuit (some args) alloc table =
        storeAt csuit args alloc table index) ∨
    (BeginsRecord table args alloc ∧
      tcManagerStoreRecordFromStoreArgs csuit (some args) alloc table =
        storeNew csuit args alloc table.alloc table.len) := by
  simp only [tcManagerStoreRecordFromStoreArgs]
  by_cases isStore : args.operation = .store
  swap
  · exact .inl ⟨if_pos isStore, fun begins => isStore begins.isStore⟩
  rw [if_neg (not_not_intro isStore)]
  cases found : manifestRecordFindByDigest table args.manifestDigest with
  | some index => exact .inr (.inl ⟨index, isStore, rfl, rfl⟩)
  | none =>
    by_cases room : table.len < tcManagerRecordMaxCount
    swap
    · exact .inl ⟨by simp [manifestRecordsAlloc, Nat.not_lt.mp room], fun begins => room begins.room⟩
    simp only [manifestRecordsAlloc, ge_iff_le, if_neg (Nat.not_le.mpr room)]
    -- a slot that was taken is given back where the digest cannot be set
    cases full : args.manifestDigest.isNullOrEmpty with
    | true =>
      refine .inl ⟨by simp [storeNew, full, manifestRecordRemoveAt, removeAt_alloc clean], ?_⟩
      intro begins
      simp [begins.full] at full
    | false =>
      cases allocated : alloc.digest with
      | false =>
        refine .inl ⟨by simp [storeNew, full, allocated, manifestRecordRemoveAt, removeAt_alloc clean], ?_⟩
        intro begins
        simp [begins.allocated] at allocated
      | true =>
        have absent := (findByDigest_none clean full).mp found
        exact .inr (.inr ⟨⟨isStore, full, absent, room, allocated⟩, trivial⟩)

theorem storeNew_active (clean : table.Clean) {args : SuitStoreArgs} {alloc : StoreAlloc}
    (begins : BeginsRecord table args alloc) :
    (storeNew csuit args alloc table.alloc table.len).2.active =
      table.active ++ [(storeFields csuit args alloc (freshRecord args.manifestDigest)).2] := by
  rw [storeNew_eq clean begins, setSlot_active, setSlot_active, alloc_active clean begins.room,
    ← active_length clean]
  simp

theorem storeNew_clean (clean : table.Clean) {args : SuitStoreArgs} {alloc : StoreAlloc}
    (begins : BeginsRecord table args alloc) :
    (storeNew csuit args alloc table.alloc table.len).2.Clean := by
  have inUse : table.len < table.alloc.len := Nat.lt_succ_self _
  rw [storeNew_eq clean begins]
  exact setSlot_clean (setSlot_clean (alloc_clean clean begins.room) inUse) inUse

theorem store_clean (csuit : Libcsuit) (clean : table.Clean) (storeArgs : Option SuitStoreArgs)
    (alloc : StoreAlloc) :
    (tcManagerStoreRecordFromStoreArgs csuit storeArgs alloc table).2.Clean := by
  cases storeArgs with
  | none => exact clean
  | some args =>
    rcases store_cases csuit clean args alloc with ⟨same, _⟩ | ⟨index, _, found, same⟩ | ⟨begins, same⟩
    · rwa [same]
    · rw [same]
      exact setSlot_clean clean (findByDigest_some found).2.1
    · rw [same]
      exact storeNew_clean clean begins

/-! ## Finalising -/

/-- The record that the loop of `manifest_record_update_or_discard` compares with the one at `index`. -/
def comparedWith (table : RecordTable) (index : Nat) : Option ManifestRecord :=
  ((List.range table.len).find? (sameWappName table index)).map table.slot

/-- What `manifest_record_update_or_discard` does with the record at `index`: it leaves the table
alone, or it removes an older record of the same name, or it removes the record itself. -/
theorem updateOrDiscard_cases (clean : table.Clean) {index : Nat} (bound : index < table.len)
    (named : (table.slot index).wappName ≠ []) :
    (manifestRecordUpdateOrDiscard table index = table ∧
      ∀ other ∈ table.others index, other.wappName ≠ (table.slot index).wappName) ∨
    (∃ older ∈ table.others index, comparedWith table index = some older ∧
      older.wappName = (table.slot index).wappName ∧
      older.manifestSequenceNumber ≤ (table.slot index).manifestSequenceNumber ∧
      (manifestRecordUpdateOrDiscard table index).active ~
        table.slot index :: (table.others index).erase older) ∨
    (∃ newer ∈ table.others index, comparedWith table index = some newer ∧
      newer.wappName = (table.slot index).wappName ∧
      ¬ newer.manifestSequenceNumber ≤ (table.slot index).manifestSequenceNumber ∧
      (manifestRecordUpdateOrDiscard table index).active ~ table.others index) := by
  simp only [manifestRecordUpdateOrDiscard, if_neg named, ge_iff_le, if_neg (Nat.not_le.mpr bound)]
  cases found : (List.range table.len).find? (sameWappName table index) with
  | none =>
    refine .inl ⟨rfl, ?_⟩
    intro other member
    obtain ⟨position, inUse, different, rfl⟩ := (mem_others clean).mp member
    have noMatch := List.find?_eq_none.mp found position (List.mem_range.mpr inUse)
    intro same
    exact noMatch (by simp [sameWappName, different, same, named])
  | some position =>
    have inUse : position < table.len := List.mem_range.mp (List.mem_of_find?_eq_some found)
    have matching := List.find?_some found
    simp only [sameWappName, Bool.and_eq_true, bne_iff_ne, ne_eq, beq_iff_eq] at matching
    obtain ⟨⟨different, _⟩, same⟩ := matching
    have member : table.slot position ∈ table.others index :=
      (mem_others clean).mpr ⟨position, inUse, different, rfl⟩
    have compared : comparedWith table index = some (table.slot position) := by simp [comparedWith, found]
    dsimp only
    split
    · next notNewer =>
      refine .inr (.inl ⟨_, member, compared, same, notNewer, ?_⟩)
      have boundAfter : index < (table.swap position index).len := bound
      have exchanged := removeAt_perm (swap_clean clean inUse bound) boundAfter
      rw [swap_slot clean inUse bound, if_pos rfl] at exchanged
      -- after the swap, the slot that is removed holds the older record
      have total : table.slot position :: (manifestRecordRemoveAt (table.swap position index) index).active ~
          table.slot position :: table.slot index :: (table.others index).erase (table.slot position) :=
        calc _ ~ table.active := exchanged.trans (swap_perm clean inUse bound)
          _ ~ table.slot index :: table.others index := active_perm_cons_others clean bound
          _ ~ table.slot index :: table.slot position :: (table.others index).erase (table.slot position) :=
            (List.perm_cons_erase member).cons _
          _ ~ _ := List.Perm.swap _ _ _
      exact total.cons_inv
    · next isNewer =>
      refine .inr (.inr ⟨_, member, compared, same, isNewer, ?_⟩)
      have removed := removeAt_perm clean bound
      exact (removed.trans (active_perm_cons_others clean bound)).cons_inv

theorem updateOrDiscard_clean (clean : table.Clean) (index : Nat) :
    (manifestRecordUpdateOrDiscard table index).Clean := by
  unfold manifestRecordUpdateOrDiscard
  split
  · exact clean
  · split
    · exact clean
    · next inUse =>
      split
      · exact clean
      · next position found =>
        have positionInUse : position < table.len := List.mem_range.mp (List.mem_of_find?_eq_some found)
        split
        · exact removeAt_clean (swap_clean clean positionInUse (Nat.not_le.mp inUse))
        · exact removeAt_clean clean

/-- The outcomes of finalising a complete record; `compared` is the record that it is compared with. -/
inductive Finalised (table : RecordTable) (compared : Option ManifestRecord) (record : ManifestRecord)
    (others : List ManifestRecord) : RecordTable → Prop where
  | only (unique : ∀ other ∈ others, other.wappName ≠ record.wappName) :
      Finalised table compared record others table
  | replaced {after : RecordTable} {older : ManifestRecord} (member : older ∈ others)
      (first : compared = some older) (sameName : older.wappName = record.wappName)
      (notNewer : older.manifestSequenceNumber ≤ record.manifestSequenceNumber)
      (active : after.active ~ record :: others.erase older) : Finalised table compared record others after
  | discarded {after : RecordTable} {newer : ManifestRecord} (member : newer ∈ others)
      (first : compared = some newer) (sameName : newer.wappName = record.wappName)
      (isNewer : ¬ newer.manifestSequenceNumber ≤ record.manifestSequenceNumber)
      (active : after.active ~ others) : Finalised table compared record others after

theorem checkAndUpdate_cases (clean : table.Clean) (digest : Buffer) :
    (manifestRecordFindByDigest table digest = none ∧
      tcManagerCheckAndUpdateRecord digest table = (-1, table)) ∨
    ∃ index, manifestRecordFindByDigest table digest = some index ∧
      ((manifestRecordIsComplete (table.slot index) = false ∧
        (tcManagerCheckAndUpdateRecord digest table).1 = -1 ∧
        (tcManagerCheckAndUpdateRecord digest table).2.active ~ table.others index) ∨
      (manifestRecordIsComplete (table.slot index) = true ∧
        (tcManagerCheckAndUpdateRecord digest table).1 = 0 ∧
        Finalised table (comparedWith table index) (table.slot index) (table.others index)
          (tcManagerCheckAndUpdateRecord digest table).2)) := by
  unfold tcManagerCheckAndUpdateRecord
  cases found : manifestRecordFindByDigest table digest with
  | none => exact .inl ⟨rfl, rfl⟩
  | some index =>
    obtain ⟨_, bound, _⟩ := findByDigest_some found
    refine .inr ⟨index, rfl, ?_⟩
    cases complete : manifestRecordIsComplete (table.slot index) with
    | false =>
      have removed := (removeAt_perm clean bound).trans (active_perm_cons_others clean bound)
      exact .inl ⟨rfl, by simp [complete], by simpa [complete, manifestRecordRemoveAt] using removed.cons_inv⟩
    | true =>
      refine .inr ⟨rfl, by simp [complete], ?_⟩
      simp only [complete, Bool.not_true, Bool.false_eq_true, if_false]
      rcases updateOrDiscard_cases clean bound (isComplete_iff.mp complete).2.1 with
        ⟨same, unique⟩ | ⟨older, member, first, sameName, notNewer, active⟩ |
        ⟨newer, member, first, sameName, isNewer, active⟩
      · rw [same]
        exact .only unique
      · exact .replaced member first sameName notNewer active
      · exact .discarded member first sameName isNewer active

theorem checkAndUpdate_clean (clean : table.Clean) (digest : Buffer) :
    (tcManagerCheckAndUpdateRecord digest table).2.Clean := by
  unfold tcManagerCheckAndUpdateRecord
  split
  · exact clean
  · split
    · exact removeAt_clean clean
    · exact updateOrDiscard_clean clean _

/-! ## Clearing -/

theorem removeAllLoop_spec (clean : table.Clean) {fuel : Nat} (enough : table.len ≤ fuel) :
    (removeAllLoop fuel table).Clean ∧ (removeAllLoop fuel table).len = 0 := by
  induction fuel generalizing table with
  | zero => exact ⟨clean, Nat.le_zero.mp enough⟩
  | succ fuel inductionHypothesis =>
    simp only [removeAllLoop]
    split
    · next positive =>
      have shorter : (manifestRecordRemoveAt table 0).len = table.len - 1 := removeAt_len positive
      exact inductionHypothesis (removeAt_clean clean) (by omega)
    · next isEmpty => exact ⟨clean, Nat.eq_zero_of_not_pos isEmpty⟩

theorem removeAll_clean (clean : table.Clean) : (tcManagerRemoveAll table).Clean :=
  (removeAllLoop_spec clean (Nat.le_refl _)).1

theorem removeAll_active (clean : table.Clean) : (tcManagerRemoveAll table).active = [] := by
  apply List.eq_nil_of_length_eq_zero
  rw [active_length (removeAll_clean clean)]
  exact (removeAllLoop_spec clean (Nat.le_refl _)).2

/-! ## Runs of table calls -/

/-- A call into `tc_manager.cpp` that changes the table. -/
inductive TcCall where
  | store (storeArgs : Option SuitStoreArgs) (alloc : StoreAlloc)
  | checkAndUpdate (digest : Buffer)
  | removeAll

def tcStep (csuit : Libcsuit) (table : RecordTable) : TcCall → Int × RecordTable
  | .store storeArgs alloc => tcManagerStoreRecordFromStoreArgs csuit storeArgs alloc table
  | .checkAndUpdate digest => tcManagerCheckAndUpdateRecord digest table
  | .removeAll => (0, tcManagerRemoveAll table)

/-- The table as a machine whose actions are the calls; it emits the return code of each. -/
def tcMachine (csuit : Libcsuit) : Machine RecordTable TcCall Int where
  step table call := ((tcStep csuit table call).2, [(tcStep csuit table call).1])

/-- The table after the calls. -/
def tcRun (csuit : Libcsuit) (table : RecordTable) (calls : List TcCall) : RecordTable :=
  ((tcMachine csuit).run table calls).1

theorem tcStep_clean (clean : table.Clean) (call : TcCall) : (tcStep csuit table call).2.Clean := by
  cases call with
  | store storeArgs alloc => exact store_clean csuit clean storeArgs alloc
  | checkAndUpdate digest => exact checkAndUpdate_clean clean digest
  | removeAll => exact removeAll_clean clean

theorem tcRun_preserves (csuit : Libcsuit) (invariant : RecordTable → Prop)
    (preserved : ∀ table call, invariant table → invariant (tcStep csuit table call).2)
    (initial : invariant table) (calls : List TcCall) : invariant (tcRun csuit table calls) := by
  have stepPreserved : ∀ table call, invariant table →
      invariant ((tcMachine csuit).step table call).1 := preserved
  exact Machine.run_preserves stepPreserved initial calls

end Taws.TcManager
