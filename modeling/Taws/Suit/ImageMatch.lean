import Taws.Suit.Callbacks
import Taws.TcManager.Records

/-!
# The image-match condition

The callback compares the expected digest with the hash that is stored beside the binary, not with the
binary.  In a reachable table the two say the same, so the callback decides what the condition is about.

* `GenuineBin` — a binary that is not there has length 0; every record of a reachable table is so.
* `imageMatch_success` — the decision points of the callback, for one record.
* `imageMatch_iff` — the callback succeeds exactly on the image that is expected.
-/

namespace Taws.Suit

open TcManager
open SlotTable

variable {csuit : Libcsuit} {record : ManifestRecord} {args : SuitConditionArgs} {ret : SuitCallbackRet}

/-- The length of the binary is the number of its bytes. -/
def GenuineBin (record : ManifestRecord) : Prop := record.wappBin.len = record.wappBin.data.length

theorem GenuineBin.len_eq_zero (genuine : GenuineBin record) :
    record.wappBin.len = 0 ↔ record.wappBin.isNullOrEmpty = true := by
  rw [GenuineBin] at genuine
  cases stored : record.wappBin with
  | null length =>
    rw [stored] at genuine
    simpa using genuine
  | bytes data => simp

theorem replaceBin_genuine {old source : Buffer} {malloc : Bool} (genuine : old.len = old.data.length) :
    (replaceBin old source malloc).2.len = (replaceBin old source malloc).2.data.length := by
  have released : (if old.isNull then old else Buffer.null 0).len =
      (if old.isNull then old else Buffer.null 0).data.length := by
    cases old with
    | null length => exact genuine
    | bytes data => rfl
  simp only [replaceBin]
  generalize (if old.isNull then old else Buffer.null 0) = left at released ⊢
  split
  · exact released
  · split
    · rfl
    · exact released

theorem storeFields_genuine (args : SuitStoreArgs) (alloc : StoreAlloc) (genuine : GenuineBin record) :
    GenuineBin (storeFields csuit args alloc record).2 := by
  unfold storeFields
  split
  -- a manifest store does not touch the app binary
  · exact genuine
  · exact replaceBin_genuine genuine

theorem tcRun_genuine (csuit : Libcsuit) (calls : List TcCall) :
    ∀ record ∈ (tcRun csuit SlotTable.empty calls).active, GenuineBin record :=
  tcRun_records (fun _ => rfl) (fun args alloc _ genuine => storeFields_genuine args alloc genuine) calls

/-! ## The callback -/

/-- `suit_decode_digest` reports a failure as one. -/
def ReportsUndecodable (csuit : Libcsuit) : Prop :=
  ∀ encoded code, csuit.suitDecodeDigest encoded = .error code → code ≠ .success

/-- The bytes now stored in the record are those of the expected image. -/
def IsExpectedImage (csuit : Libcsuit) (args : SuitConditionArgs) (record : ManifestRecord) : Prop :=
  record.wappBin.isNullOrEmpty = false ∧
    (args.expectedU64 = 0 ∨ args.expectedU64.toNat = record.wappBin.data.length) ∧
    ∃ digest, csuit.suitDecodeDigest args.expectedStr = .ok digest ∧
      digest.algorithmId = suitAlgorithmIdSha256 ∧ digest.bytes.length = sha256DigestLength ∧
      digest.bytes = (csuit.sha256 record.wappBin.data).toList

/-- The decision points of the callback, in the order of the source. -/
theorem imageMatch_success (reports : ReportsUndecodable csuit) (genuine : GenuineBin record)
    (matching : hashMatches csuit record) :
    (imageMatch csuit args record ret).1 = .success ↔ IsExpectedImage csuit args record := by
  simp only [imageMatch, IsExpectedImage]
  by_cases noBin : record.wappBin.len = 0
  · have empty := genuine.len_eq_zero.mp noBin
    simp [noBin, empty]
  have full : record.wappBin.isNullOrEmpty = false := by
    cases stored : record.wappBin.isNullOrEmpty with
    | false => rfl
    | true => exact absurd (genuine.len_eq_zero.mpr stored) noBin
  have hash := matching full
  rw [if_neg noBin]
  by_cases wrongSize : args.expectedU64 ≠ 0 ∧ record.wappBin.len ≠ args.expectedU64.toNat
  · have size : ¬ (args.expectedU64 = 0 ∨ args.expectedU64.toNat = record.wappBin.data.length) := by
      rw [← genuine]
      exact fun rightSize => rightSize.elim wrongSize.1 fun same => wrongSize.2 same.symm
    rw [if_pos wrongSize]
    simp [size]
  have size : args.expectedU64 = 0 ∨ args.expectedU64.toNat = record.wappBin.data.length := by
    rw [← genuine]
    by_cases noSize : args.expectedU64 = 0
    · exact .inl noSize
    · exact .inr (not_not.mp fun different => wrongSize ⟨noSize, fun same => different same.symm⟩)
  rw [if_neg wrongSize]
  cases decoded : csuit.suitDecodeDigest args.expectedStr with
  | error code => simp [reports _ _ decoded]
  | ok digest =>
    by_cases unsupported :
        digest.algorithmId ≠ suitAlgorithmIdSha256 ∨ digest.bytes.length ≠ sha256DigestLength
    · have notSha256 : digest.algorithmId = suitAlgorithmIdSha256 →
          digest.bytes.length ≠ sha256DigestLength := by
        intro algorithm
        exact unsupported.resolve_left (not_not_intro algorithm)
      simp only [if_pos unsupported, reduceCtorEq, false_iff]
      rintro ⟨_, _, _, same, algorithm, length, _⟩
      obtain rfl := Except.ok.inj same
      exact notSha256 algorithm length
    · dsimp only
      rw [if_neg unsupported]
      obtain ⟨algorithm, length⟩ := not_or.mp unsupported
      have sha256Digest := And.intro (not_not.mp algorithm) (not_not.mp length)
      -- what remains is the comparison with the stored hash
      by_cases same : digest.bytes = record.wappHash.toList
      · rw [if_pos same]
        exact iff_of_true rfl ⟨full, size, digest, rfl, sha256Digest.1, sha256Digest.2, hash ▸ same⟩
      · simp [same, ← hash]

/-- In every reachable table the condition holds exactly for the bytes that are stored now under the
manifest digest. -/
theorem imageMatch_iff (csuit : Libcsuit) (sha256 : csuit.Sha256Succeeds) (reports : ReportsUndecodable csuit)
    (calls : List TcCall) (args : SuitConditionArgs) (isImageMatch : args.condition = .imageMatch)
    (ret : SuitCallbackRet) :
    (wrapSuitConditionCallback csuit args (some ret) (tcRun csuit SlotTable.empty calls)).1 = .success ↔
      ∃ record ∈ (tcRun csuit SlotTable.empty calls).active,
        record.manifestDigest = args.manifestDigest ∧ IsExpectedImage csuit args record := by
  have kept : WellKept (tcRun csuit SlotTable.empty calls) := tcRun_wellKept csuit empty_wellKept calls
  have bound := tcRun_hashBound sha256 calls
  have genuine := tcRun_genuine csuit calls
  generalize tcRun csuit SlotTable.empty calls = table at kept bound genuine ⊢
  cases found : tcManagerFindRecordByDigest table args.manifestDigest with
  | none =>
    simp only [wrapSuitConditionCallback, found, reduceCtorEq, false_iff]
    intro ⟨record, member, key, _⟩
    have present := kept.findRecord (List.perm_cons_erase member)
    rw [key, found] at present
    cases present
  | some record =>
    obtain ⟨key, others, split⟩ := findRecord_split kept.toClean found
    have member : record ∈ table.active := split.mem_iff.mpr List.mem_cons_self
    simp only [wrapSuitConditionCallback, found, isImageMatch, if_true]
    rw [imageMatch_success reports (genuine record member) (bound record member)]
    constructor
    · intro expected
      exact ⟨record, member, key, expected⟩
    · intro ⟨other, otherMember, otherKey, expected⟩
      -- no other record has the digest
      have same := kept.keyed.eq_of_digest otherMember member (otherKey.trans key.symm)
      rwa [same] at expected

theorem reference_reportsUndecodable (sha256 : Bytes → Sha256Hash) : ReportsUndecodable (reference sha256) := by
  intro encoded code failed
  change decodeDigest encoded = .error code at failed
  unfold decodeDigest at failed
  split at failed
  · cases failed
  · cases failed
  · obtain rfl := Except.error.inj failed
    simp

/-- The condition of the installed app: its size, and its SHA-256 digest with the algorithm. -/
def imageCondition (digest wapp : Bytes) : SuitConditionArgs where
  manifestDigest := .bytes digest
  condition := .imageMatch
  expectedU64 := wapp.length.toUInt64
  expectedStr := .bytes (Cbor.encode (.array [.negative 15, .bytes (smallSha256 wapp).toList]))

theorem imageMatch_storedVersion :
    ((wrapSuitConditionCallback smallCsuit (imageCondition [1] wasmVersion1) (some {})
      (tcRun smallCsuit SlotTable.empty (storeBoth [1] 1 [97] wasmVersion1))).1 = .success ↔
      ∃ record ∈ (tcRun smallCsuit SlotTable.empty (storeBoth [1] 1 [97] wasmVersion1)).active,
        record.manifestDigest = .bytes [1] ∧
          IsExpectedImage smallCsuit (imageCondition [1] wasmVersion1) record) ∧
    (wrapSuitConditionCallback smallCsuit (imageCondition [1] wasmVersion1) (some {})
      (tcRun smallCsuit SlotTable.empty (storeBoth [1] 1 [97] wasmVersion1))).1 = .success :=
  ⟨imageMatch_iff smallCsuit (reference_sha256Succeeds smallSha256) (reference_reportsUndecodable smallSha256) _
    (imageCondition [1] wasmVersion1) rfl _, by decide +kernel⟩

end Taws.Suit
