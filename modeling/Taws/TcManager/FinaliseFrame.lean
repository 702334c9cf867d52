import Taws.TcManager.FailedStore
import Taws.TcManager.Finalisation

/-!
# What finalising leaves alone

A record is removed by exchanging slots, twice when it replaces an older one.  Whatever the indices are,
the active records afterwards are those before without at most one, and that one is the finalised record
or an older one of its name.

* `TableInvariant.wellKept` — the invariant stated slot by slot is the one on the active records.
* `Removable` — which record finalising a digest may remove.
* `finalisation_frame` — finalising any digest in any table with the invariant.
-/

namespace Taws.TcManager

open scoped List
open SlotTable

variable {csuit : Libcsuit} {table after : RecordTable} {digest : Buffer} {record removed : ManifestRecord}
  {others : List ManifestRecord} {compared : Option ManifestRecord}

theorem TableInvariant.wellKept (invariant : TableInvariant csuit table) : WellKept table where
  toClean := invariant.clean
  keyed := by
    constructor
    · intro record member
      obtain ⟨index, bound, rfl⟩ := exists_slot_of_mem_active invariant.clean member
      exact invariant.digest_full index bound
    · rw [active_eq_map invariant.clean, List.map_map]
      apply List.Nodup.map_on _ List.nodup_range
      intro first firstInRange second secondInRange same
      exact invariant.digest_distinct first (List.mem_range.mp firstInRange) second
        (List.mem_range.mp secondInRange) same

/-- The records that finalising the digest may remove: the record of the digest when it is incomplete or
outdated, or another one that the record of the digest replaces. -/
inductive Removable (records : List ManifestRecord) (digest : Buffer) (removed : ManifestRecord) : Prop where
  | incomplete (key : removed.manifestDigest = digest) (incomplete : manifestRecordIsComplete removed = false)
  | outdated (key : removed.manifestDigest = digest) (newer : ManifestRecord) (member : newer ∈ records)
      (sameName : newer.wappName = removed.wappName)
      (isNewer : removed.manifestSequenceNumber < newer.manifestSequenceNumber)
  | replaced (other : removed.manifestDigest ≠ digest) (record : ManifestRecord) (member : record ∈ records)
      (key : record.manifestDigest = digest) (sameName : removed.wappName = record.wappName)
      (notNewer : removed.manifestSequenceNumber ≤ record.manifestSequenceNumber)

/-- The record of the digest is active and complete. -/
def CompleteRecord (records : List ManifestRecord) (digest : Buffer) : Prop :=
  ∃ record ∈ records, record.manifestDigest = digest ∧ manifestRecordIsComplete record = true

/-- At most one record goes, and it is one that may go. -/
def RemovesAtMostOne (digest : Buffer) (before after : List ManifestRecord) : Prop :=
  after ~ before ∨ ∃ removed, before ~ removed :: after ∧ Removable before digest removed

theorem Finalised.removesAtMostOne (finalised : Finalised table compared record others after)
    (kept : WellKept table) (split : table.active ~ record :: others) :
    RemovesAtMostOne record.manifestDigest table.active after.active := by
  cases finalised with
  | only _ => exact .inl (List.Perm.refl _)
  | @replaced _ older member _ sameName notNewer active =>
    have exposed : table.active ~ older :: after.active :=
      calc table.active
        _ ~ record :: others := split
        _ ~ record :: older :: others.erase older := (List.perm_cons_erase member).cons record
        _ ~ older :: record :: others.erase older := List.Perm.swap _ _ _
        _ ~ older :: after.active := active.symm.cons older
    have recordActive : record ∈ table.active := split.mem_iff.mpr List.mem_cons_self
    exact .inr ⟨older, exposed, .replaced (kept.digest_ne split member) record recordActive rfl sameName notNewer⟩
  | @discarded _ newer member _ sameName isNewer active =>
    have newerActive : newer ∈ table.active := split.mem_iff.mpr (List.mem_cons_of_mem _ member)
    exact .inr ⟨record, split.trans (active.symm.cons record),
      .outdated rfl newer newerActive sameName (UInt64.not_le.mp isNewer)⟩

theorem checkAndUpdate_removesAtMostOne (kept : WellKept table) (digest : Buffer) :
    RemovesAtMostOne digest table.active (tcManagerCheckAndUpdateRecord digest table).2.active := by
  cases active_or_absent table digest with
  | inl absent =>
    rw [checkAndUpdate_absent kept.toClean (.inr absent)]
    exact .inl (List.Perm.refl _)
  | inr present =>
    obtain ⟨record, others, rfl, split⟩ := present
    cases complete : manifestRecordIsComplete record with
    | true => exact (checkAndUpdate_complete kept split complete).2.removesAtMostOne kept split
    | false =>
      have active := (checkAndUpdate_incomplete kept split complete).2
      exact .inr ⟨record, split.trans (active.symm.cons record), .incomplete rfl complete⟩

theorem checkAndUpdate_returns (kept : WellKept table) (digest : Buffer) :
    (tcManagerCheckAndUpdateRecord digest table).1 = 0 ↔ CompleteRecord table.active digest := by
  cases active_or_absent table digest with
  | inl absent =>
    rw [checkAndUpdate_absent kept.toClean (.inr absent)]
    constructor
    · intro success
      simp at success
    · intro complete
      obtain ⟨record, member, key, _⟩ := complete
      exact absurd key (absent record member)
  | inr present =>
    obtain ⟨record, others, rfl, split⟩ := present
    have recordActive : record ∈ table.active := split.mem_iff.mpr List.mem_cons_self
    cases complete : manifestRecordIsComplete record with
    | true =>
      have success := (checkAndUpdate_complete kept split complete).1
      exact ⟨fun _ => ⟨record, recordActive, rfl, complete⟩, fun _ => success⟩
    | false =>
      rw [(checkAndUpdate_incomplete kept split complete).1]
      constructor
      · intro success
        simp at success
      · intro found
        obtain ⟨other, member, key, otherComplete⟩ := found
        -- the digest belongs to one record only
        obtain rfl := kept.keyed.eq_of_digest member recordActive key
        rw [complete] at otherComplete
        cases otherComplete

/-- Finalising any digest in any table with the invariant: what is returned, which record may go, and that
all the others stay as they were. -/
theorem finalisation_frame (invariant : TableInvariant csuit table) (digest : Buffer) :
    ((tcManagerCheckAndUpdateRecord digest table).1 = 0 ↔ CompleteRecord table.active digest) ∧
      RemovesAtMostOne digest table.active (tcManagerCheckAndUpdateRecord digest table).2.active ∧
      ((∀ record ∈ table.active, record.manifestDigest ≠ digest) →
        tcManagerCheckAndUpdateRecord digest table = (-1, table)) := by
  have kept := invariant.wellKept
  exact ⟨checkAndUpdate_returns kept digest, checkAndUpdate_removesAtMostOne kept digest,
    fun absent => checkAndUpdate_absent kept.toClean (.inr absent)⟩

theorem threeVersions_invariant : TableInvariant smallCsuit threeVersions :=
  (tcRun_wellKept smallCsuit empty_wellKept _).tableInvariant
    (tcRun_hashBound (reference_sha256Succeeds smallSha256) _)

theorem finalisation_frame_threeVersions :
    (tcManagerCheckAndUpdateRecord (.bytes [3]) threeVersions).1 = 0 ∧
      RemovesAtMostOne (.bytes [3]) threeVersions.active
        (tcManagerCheckAndUpdateRecord (.bytes [3]) threeVersions).2.active ∧
      tcManagerCheckAndUpdateRecord (.bytes [4]) threeVersions = (-1, threeVersions) := by
  obtain ⟨returns, removes, _⟩ := finalisation_frame threeVersions_invariant (.bytes [3])
  obtain ⟨_, _, absent⟩ := finalisation_frame threeVersions_invariant (.bytes [4])
  exact ⟨returns.mpr ⟨threeVersions.slot 2, by decide +kernel⟩, removes, absent (by decide +kernel)⟩

end Taws.TcManager
