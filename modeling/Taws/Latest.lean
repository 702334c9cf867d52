import Mathlib.Data.List.Dedup
import Mathlib.Data.Set.Finite.Lemmas

/-!
# Keeping the latest entry of each key

Entries have a key and a rank.  A store that sees them one at a time and keeps, for each key, the one
of greatest rank ends up with the latest entry of each key, whatever order they came in and however
often each of them came.

* `IsLatest` — an entry of the history that no entry of its key outranks.
* `KeepsLatest` — what is held is exactly what is latest, once each.
* `KeepsLatest.replay`, `.outdated`, `.replace`, `.insert` — the four things that can happen to a new entry.
* `KeepsLatest.perm` — what is held does not depend on order or repetition.
-/

namespace Taws

open scoped List

section Latest

variable {α κ ν : Type} [LinearOrder ν] {key : α → κ} {rank : α → ν}

def IsLatest (key : α → κ) (rank : α → ν) (history : List α) (entry : α) : Prop :=
  entry ∈ history ∧ ∀ other ∈ history, key other = key entry → rank other ≤ rank entry

theorem IsLatest.congr {history other : List α} {entry : α}
    (sameMembers : ∀ entry, entry ∈ history ↔ entry ∈ other) :
    IsLatest key rank history entry ↔ IsLatest key rank other entry := by
  simp only [IsLatest, sameMembers]

/-- An entry is latest after a further one has come if it was before and the further one does not
outrank it. -/
theorem isLatest_cons {history : List α} {entry other : α} :
    IsLatest key rank (entry :: history) other ↔
      other ∈ entry :: history ∧ (key entry = key other → rank entry ≤ rank other) ∧
        ∀ third ∈ history, key third = key other → rank third ≤ rank other := by
  simp only [IsLatest, List.forall_mem_cons]

/-- Every key of the history has a latest entry. -/
theorem exists_isLatest {history : List α} {other : α} (seen : other ∈ history) :
    ∃ latest, IsLatest key rank history latest ∧ key latest = key other := by
  have finite : {entry | entry ∈ history ∧ key entry = key other}.Finite :=
    history.finite_toSet.subset fun _ both => both.1
  obtain ⟨latest, ⟨member, sameKey⟩, greatest⟩ := Set.exists_max_image _ rank finite ⟨other, seen, rfl⟩
  refine ⟨latest, ⟨member, ?_⟩, sameKey⟩
  intro third thirdMember thirdKey
  exact greatest third ⟨thirdMember, thirdKey.trans sameKey⟩

/-- Entries of one key and one rank are the same entry. -/
def Ranked (key : α → κ) (rank : α → ν) (history : List α) : Prop :=
  ∀ first ∈ history, ∀ second ∈ history, key first = key second → rank first = rank second → first = second

/-- Two latest entries of one key are the same entry. -/
theorem Ranked.latest_unique {history : List α} (ranked : Ranked key rank history) {first second : α}
    (firstLatest : IsLatest key rank history first) (secondLatest : IsLatest key rank history second)
    (sameKey : key first = key second) : first = second := by
  have up := secondLatest.2 first firstLatest.1 sameKey
  have down := firstLatest.2 second secondLatest.1 sameKey.symm
  exact ranked first firstLatest.1 second secondLatest.1 sameKey (le_antisymm up down)

structure KeepsLatest (key : α → κ) (rank : α → ν) (held history : List α) : Prop where
  nodup : held.Nodup
  mem_iff : ∀ entry, entry ∈ held ↔ IsLatest key rank history entry

namespace KeepsLatest

variable {held history : List α} {entry : α}

theorem nil : KeepsLatest key rank [] [] where
  nodup := List.nodup_nil
  mem_iff := by simp [IsLatest]

/-- What is held does not depend on the order of the entries or on how often each of them came. -/
theorem perm {otherHeld otherHistory : List α} (keeps : KeepsLatest key rank held history)
    (otherKeeps : KeepsLatest key rank otherHeld otherHistory)
    (sameMembers : ∀ entry, entry ∈ history ↔ entry ∈ otherHistory) : held ~ otherHeld := by
  rw [List.perm_ext_iff_of_nodup keeps.nodup otherKeeps.nodup]
  intro entry
  rw [keeps.mem_iff, otherKeeps.mem_iff, IsLatest.congr sameMembers]

theorem mem_history (keeps : KeepsLatest key rank held history) (member : entry ∈ held) :
    entry ∈ history := ((keeps.mem_iff entry).mp member).1

theorem keys_nodup (keeps : KeepsLatest key rank held history) (ranked : Ranked key rank history) :
    (held.map key).Nodup := by
  refine List.Nodup.map_on ?_ keeps.nodup
  intro first firstMember second secondMember sameKey
  exact ranked.latest_unique ((keeps.mem_iff first).mp firstMember)
    ((keeps.mem_iff second).mp secondMember) sameKey

/-- There are at most as many held entries as there are keys. -/
theorem length_le [DecidableEq κ] (keeps : KeepsLatest key rank held history)
    (ranked : Ranked key rank history) : held.length ≤ (history.map key).dedup.length := by
  have subset : held.map key ⊆ (history.map key).dedup := by
    intro value member
    obtain ⟨entry, entryMember, rfl⟩ := List.mem_map.mp member
    exact List.mem_dedup.mpr (List.mem_map_of_mem (keeps.mem_history entryMember))
  calc held.length
    _ = (held.map key).length := (List.length_map _).symm
    _ ≤ (history.map key).dedup.length := (List.subperm_of_subset (keeps.keys_nodup ranked) subset).length_le

/-- An entry that is already held comes again. -/
theorem replay (keeps : KeepsLatest key rank held history) (member : entry ∈ held) :
    KeepsLatest key rank held (entry :: history) := by
  have seen := keeps.mem_history member
  refine ⟨keeps.nodup, fun other => (keeps.mem_iff other).trans (IsLatest.congr ?_)⟩
  intro other
  constructor
  · exact List.mem_cons_of_mem _
  · intro either
    cases List.mem_cons.mp either with
    | inl same => rwa [same]
    | inr inHistory => exact inHistory

/-- An entry comes that a held entry of its key outranks. -/
theorem outdated (keeps : KeepsLatest key rank held history) {newer : α} (member : newer ∈ held)
    (sameKey : key newer = key entry) (outranks : rank entry < rank newer) :
    KeepsLatest key rank held (entry :: history) := by
  have newerLatest := (keeps.mem_iff newer).mp member
  refine ⟨keeps.nodup, fun other => (keeps.mem_iff other).trans ?_⟩
  constructor
  · rintro ⟨seen, latest⟩
    refine isLatest_cons.mpr ⟨List.mem_cons_of_mem _ seen, ?_, latest⟩
    intro entryKey
    exact outranks.le.trans (latest newer newerLatest.1 (sameKey.trans entryKey))
  · intro isLatest
    obtain ⟨either, _, latest⟩ := isLatest_cons.mp isLatest
    cases List.mem_cons.mp either with
    | inl same =>
      -- the entry itself is outranked, so it is not latest
      rw [same] at latest
      exact absurd outranks (not_lt_of_ge (latest newer newerLatest.1 sameKey))
    | inr inHistory => exact ⟨inHistory, latest⟩

/-- An entry comes that outranks the held entry of its key. -/
theorem replace [DecidableEq α] (keeps : KeepsLatest key rank held history)
    (ranked : Ranked key rank history) {older : α} (member : older ∈ held)
    (sameKey : key older = key entry) (outranked : rank older < rank entry) :
    KeepsLatest key rank (entry :: held.erase older) (entry :: history) := by
  have olderLatest := (keeps.mem_iff older).mp member
  -- the entry outranks whatever has been seen of its key, so it has not been seen itself
  have entryNew : entry ∉ history := by
    intro seen
    exact absurd outranked (not_lt_of_ge (olderLatest.2 entry seen sameKey.symm))
  have entryLatest : IsLatest key rank (entry :: history) entry := by
    refine isLatest_cons.mpr ⟨List.mem_cons_self, fun _ => le_refl _, ?_⟩
    intro third inHistory thirdKey
    exact (olderLatest.2 third inHistory (thirdKey.trans sameKey.symm)).trans outranked.le
  refine ⟨?_, fun other => ?_⟩
  · refine List.nodup_cons.mpr ⟨?_, keeps.nodup.erase older⟩
    intro held
    exact entryNew (keeps.mem_history (List.mem_of_mem_erase held))
  · rw [List.mem_cons, keeps.nodup.mem_erase_iff, keeps.mem_iff]
    constructor
    · intro either
      cases either with
      | inl same => rwa [same]
      | inr remains =>
        obtain ⟨different, seen, latest⟩ := remains
        refine isLatest_cons.mpr ⟨List.mem_cons_of_mem _ seen, ?_, latest⟩
        intro entryKey
        -- the only latest entry of that key was the older one, which is not held any more
        exact absurd (ranked.latest_unique ⟨seen, latest⟩ olderLatest (entryKey.symm.trans sameKey.symm))
          different
    · intro isLatest
      obtain ⟨either, bounded, latest⟩ := isLatest_cons.mp isLatest
      cases List.mem_cons.mp either with
      | inl same => exact .inl same
      | inr inHistory =>
        refine .inr ⟨?_, inHistory, latest⟩
        intro isOlder
        rw [isOlder] at bounded
        exact absurd outranked (not_lt_of_ge (bounded sameKey.symm))

/-- An entry comes whose key no held entry has. -/
theorem insert (keeps : KeepsLatest key rank held history)
    (fresh : ∀ other ∈ held, key other ≠ key entry) :
    KeepsLatest key rank (entry :: held) (entry :: history) := by
  -- a key that has been seen has a latest entry, and that is held
  have freshKey : ∀ other ∈ history, key other ≠ key entry := by
    intro other seen sameKey
    obtain ⟨latest, isLatest, latestKey⟩ : ∃ latest, IsLatest key rank history latest ∧ _ :=
      exists_isLatest seen
    exact fresh latest ((keeps.mem_iff latest).mpr isLatest) (latestKey.trans sameKey)
  refine ⟨?_, fun other => ?_⟩
  · refine List.nodup_cons.mpr ⟨?_, keeps.nodup⟩
    intro member
    exact fresh entry member rfl
  · rw [List.mem_cons, keeps.mem_iff]
    constructor
    · intro either
      cases either with
      | inl same =>
        rw [same]
        refine isLatest_cons.mpr ⟨List.mem_cons_self, fun _ => le_refl _, ?_⟩
        intro third inHistory thirdKey
        exact absurd thirdKey (freshKey third inHistory)
      | inr before =>
        refine isLatest_cons.mpr ⟨List.mem_cons_of_mem _ before.1, ?_, before.2⟩
        intro entryKey
        exact absurd entryKey.symm (freshKey other before.1)
    · intro isLatest
      obtain ⟨either, _, latest⟩ := isLatest_cons.mp isLatest
      cases List.mem_cons.mp either with
      | inl same => exact .inl same
      | inr inHistory => exact .inr ⟨inHistory, latest⟩

end KeepsLatest

end Latest

end Taws
