import Taws.Latest
import Taws.TcManager.Records

/-!
# What finalising does to the records of one app name

`manifest_record_update_or_discard` compares the record with the first other record of its app name
and returns.  So it settles which of two records stays, and a third one is left where it was.

* `Finalised.carrying` — the records of the name before and after, up to order.
* `finalisation_keepsNewest_iff` — exactly the newest record is left iff there were at most two.
-/

namespace Taws.TcManager

open scoped List
open SlotTable

variable {csuit : Libcsuit} {table after : RecordTable} {digest : Buffer} {record : ManifestRecord}
  {others : List ManifestRecord} {compared : Option ManifestRecord}

def carrying (name : CString) (records : List ManifestRecord) : List ManifestRecord :=
  records.filter fun record => record.wappName == name

theorem mem_carrying {name : CString} {records : List ManifestRecord} :
    record ∈ carrying name records ↔ record ∈ records ∧ record.wappName = name := by
  simp [carrying]

theorem carrying_perm (name : CString) {records : List ManifestRecord} (same : records ~ others) :
    carrying name records ~ carrying name others := same.filter _

theorem carrying_cons {records : List ManifestRecord} :
    carrying record.wappName (record :: records) = record :: carrying record.wappName records := by
  simp [carrying]

theorem carrying_erase {other : ManifestRecord} {name : CString} (member : other ∈ others)
    (named : other.wappName = name) :
    carrying name others ~ other :: carrying name (others.erase other) := by
  have split := carrying_perm name (List.perm_cons_erase member)
  subst named
  rwa [carrying_cons] at split

/-- The sequence number, in an order that the general results about latest entries apply to. -/
def sequenceNumber (record : ManifestRecord) : Nat := record.manifestSequenceNumber.toNat

theorem sequenceNumber_le {first second : ManifestRecord} :
    sequenceNumber first ≤ sequenceNumber second ↔
      first.manifestSequenceNumber ≤ second.manifestSequenceNumber := UInt64.le_iff_toNat_le.symm

/-- One active record carries the app name of `record`: the newest of those that carried it before,
and `record` itself when none was newer. -/
def KeepsNewest (before after : RecordTable) (record : ManifestRecord) : Prop :=
  ∃ kept, carrying record.wappName after.active = [kept] ∧ kept.wappName = record.wappName ∧
    IsLatest ManifestRecord.wappName sequenceNumber before.active kept ∧
    ((∀ other ∈ before.active, other.wappName = record.wappName →
      sequenceNumber other ≤ sequenceNumber record) → kept = record)

/-- Of the records of the app name, finalising removes at most one, which the kept one outranks; the
ones in `left` it does not look at. -/
theorem Finalised.carrying (finalised : Finalised table compared record others after)
    (split : table.active ~ record :: others) :
    (carrying record.wappName table.active ~ [record] ∧ carrying record.wappName after.active ~ [record]) ∨
    ∃ kept removed left, carrying record.wappName table.active ~ kept :: removed :: left ∧
      carrying record.wappName after.active ~ kept :: left ∧
      sequenceNumber removed ≤ sequenceNumber kept ∧
      (kept = record ∨ removed = record ∧ sequenceNumber record < sequenceNumber kept) := by
  have before := carrying_perm record.wappName split
  rw [carrying_cons] at before
  cases finalised with
  | only unique =>
    have noOther : TcManager.carrying record.wappName others = [] := by
      simpa [TcManager.carrying] using unique
    rw [noOther] at before
    exact .inl ⟨before, before⟩
  | replaced member _ sameName notNewer active =>
    have remaining := carrying_perm record.wappName active
    rw [carrying_cons] at remaining
    have exposed := before.trans ((carrying_erase member sameName).cons record)
    exact .inr ⟨record, _, _, exposed, remaining, sequenceNumber_le.mpr notNewer, .inl rfl⟩
  | discarded member _ sameName isNewer active =>
    have remaining := (carrying_perm record.wappName active).trans (carrying_erase member sameName)
    have exposed := before.trans ((carrying_erase member sameName).cons record)
    -- the finalised record is the one that is removed
    have outranked := not_le.mp (mt sequenceNumber_le.mp isNewer)
    exact .inr ⟨_, record, _, exposed.trans (List.Perm.swap _ _ _), remaining, outranked.le,
      .inr ⟨rfl, outranked⟩⟩

theorem keepsNewest_of_two {kept removed : ManifestRecord}
    (before : carrying record.wappName table.active ~ [kept, removed])
    (remaining : carrying record.wappName after.active ~ [kept])
    (outranks : sequenceNumber removed ≤ sequenceNumber kept)
    (which : kept = record ∨ removed = record ∧ sequenceNumber record < sequenceNumber kept) :
    KeepsNewest table after record := by
  have keptMember : kept ∈ table.active ∧ kept.wappName = record.wappName :=
    mem_carrying.mp (before.mem_iff.mpr List.mem_cons_self)
  refine ⟨kept, List.perm_singleton.mp remaining, keptMember.2, ⟨keptMember.1, ?_⟩, ?_⟩
  · intro other member sameName
    have carries := before.mem_iff.mp (mem_carrying.mpr ⟨member, sameName.trans keptMember.2⟩)
    cases List.mem_cons.mp carries with
    | inl isKept => rw [isKept]
    | inr isRemoved =>
      rw [List.mem_singleton.mp isRemoved]
      exact outranks
  · intro newest
    cases which with
    | inl same => exact same
    | inr outranked => exact absurd (newest kept keptMember.1 keptMember.2) (not_le_of_gt outranked.2)

theorem keepsNewest_of_one (before : carrying record.wappName table.active ~ [record])
    (remaining : carrying record.wappName after.active ~ [record]) : KeepsNewest table after record := by
  have member := (mem_carrying.mp (before.mem_iff.mpr (List.mem_singleton_self record))).1
  refine ⟨record, List.perm_singleton.mp remaining, rfl, ⟨member, ?_⟩, fun _ => rfl⟩
  intro other otherMember sameName
  have carries := before.mem_iff.mp (mem_carrying.mpr ⟨otherMember, sameName⟩)
  rw [List.mem_singleton.mp carries]

theorem Finalised.keepsNewest_iff (finalised : Finalised table compared record others after)
    (split : table.active ~ record :: others) :
    KeepsNewest table after record ↔ (TcManager.carrying record.wappName table.active).length ≤ 2 := by
  rcases finalised.carrying split with
    ⟨before, remaining⟩ | ⟨kept, removed, left, before, remaining, outranks, which⟩
  · have one : (TcManager.carrying record.wappName table.active).length = 1 := before.length_eq
    exact ⟨fun _ => by omega, fun _ => keepsNewest_of_one before remaining⟩
  · have countBefore : (TcManager.carrying record.wappName table.active).length = left.length + 2 :=
      before.length_eq
    have countAfter : (TcManager.carrying record.wappName after.active).length = left.length + 1 :=
      remaining.length_eq
    constructor
    · rintro ⟨single, exactly, _⟩
      -- one record is left, so one was removed and none was not looked at
      rw [exactly, List.length_singleton] at countAfter
      omega
    · intro few
      have noneLeft : left = [] := List.eq_nil_of_length_eq_zero (by omega)
      subst noneLeft
      exact keepsNewest_of_two before remaining outranks which

/-- The latest-version rule holds of a finalisation exactly when at most one other active record
carries the app name. -/
theorem finalisation_keepsNewest_iff (csuit : Libcsuit) (calls : List TcCall) (digest : Buffer)
    (record : ManifestRecord)
    (found : tcManagerFindRecordByDigest (tcRun csuit SlotTable.empty calls) digest = some record)
    (complete : manifestRecordIsComplete record = true) :
    (tcManagerCheckAndUpdateRecord digest (tcRun csuit SlotTable.empty calls)).1 = 0 ∧
    (KeepsNewest (tcRun csuit SlotTable.empty calls)
        (tcManagerCheckAndUpdateRecord digest (tcRun csuit SlotTable.empty calls)).2 record ↔
      (TcManager.carrying record.wappName (tcRun csuit SlotTable.empty calls).active).length ≤ 2) := by
  have kept := tcRun_wellKept csuit empty_wellKept calls
  obtain ⟨rfl, others, split⟩ := findRecord_split kept.toClean found
  obtain ⟨success, finalised⟩ := checkAndUpdate_complete kept split complete
  exact ⟨success, finalised.keepsNewest_iff split⟩

/-- Two versions of one app, of which the older one is finalised. -/
def twoVersions : List TcCall := storeBoth [2] 2 [97] wasmVersion2 ++ storeBoth [1] 1 [97] wasmVersion1

theorem finalisation_keepsNewest_iff_two :
    (tcManagerCheckAndUpdateRecord (.bytes [1]) (tcRun smallCsuit SlotTable.empty twoVersions)).1 = 0 ∧
    KeepsNewest (tcRun smallCsuit SlotTable.empty twoVersions)
      (tcManagerCheckAndUpdateRecord (.bytes [1]) (tcRun smallCsuit SlotTable.empty twoVersions)).2
      ((tcRun smallCsuit SlotTable.empty twoVersions).slot 1) := by
  obtain ⟨success, keeps⟩ := finalisation_keepsNewest_iff smallCsuit twoVersions (.bytes [1])
    ((tcRun smallCsuit SlotTable.empty twoVersions).slot 1) (by decide +kernel) (by decide +kernel)
  exact ⟨success, keeps.mpr (by decide +kernel)⟩

/-- Three versions of one app are stored and then the newest one is finalised. -/
def threeVersions : RecordTable :=
  tcRun smallCsuit SlotTable.empty
    (storeBoth [1] 1 [97] wasmVersion1 ++ storeBoth [2] 2 [97] wasmVersion2 ++
      storeBoth [3] 3 [97] wasmVersion2)

theorem threeVersions_two_left :
    ∃ record, tcManagerFindRecordByDigest threeVersions (.bytes [3]) = some record ∧
      manifestRecordIsComplete record = true ∧
      (tcManagerCheckAndUpdateRecord (.bytes [3]) threeVersions).1 = 0 ∧
      ¬ KeepsNewest threeVersions (tcManagerCheckAndUpdateRecord (.bytes [3]) threeVersions).2 record := by
  have two : (carrying [97] (tcManagerCheckAndUpdateRecord (.bytes [3]) threeVersions).2.active).length = 2 := by
    decide +kernel
  refine ⟨threeVersions.slot 2, by decide +kernel, by decide +kernel, by decide +kernel, ?_⟩
  rintro ⟨kept, single, _⟩
  have named : (threeVersions.slot 2).wappName = [97] := by decide +kernel
  rw [named] at single
  rw [single] at two
  cases two

end Taws.TcManager
