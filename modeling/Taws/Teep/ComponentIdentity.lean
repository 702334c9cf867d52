import Mathlib.Data.List.TakeWhile
import Taws.TcManager.FinaliseFrame
import Taws.Teep.TcList

/-!
# The component identity that is reported

An app is known by one flat name: the segments of its component identifier joined, read as a C string,
without leading slashes.  That name is what two versions of an app share and what a tc-info reports, as an
identifier of one segment.

* `flatName` — the name of a component identifier.
* `OneName` — the identifiers that are their own flat name.
* `trimFilename_flatName` — what the buffer holds after a destination is accepted.
* `reportedIdentity` — what is reported for a payload, and which payloads share a name.
-/

namespace Taws.Teep

open TcManager
open SlotTable

variable {csuit : Libcsuit} {lib : Libraries} {record : ManifestRecord} {table : RecordTable} {dst : Buffer}
  {componentId other : ComponentIdentifier} {name : CString} {size : Nat}

/-! ## Flat names -/

def slash : UInt8 := '/'.toUInt8

def joined (componentId : ComponentIdentifier) : Bytes := List.intercalate [slash] componentId

/-- The segments joined, up to the first NUL, without leading slashes. -/
def flatName (componentId : ComponentIdentifier) : CString :=
  (cString (joined componentId)).dropWhile (· == slash)

/-- `suit_component_identifier_to_filename` joins the segments with slashes, with or without a leading one, and
ends the name within the given size. -/
def JoinsSegments (csuit : Libcsuit) : Prop :=
  ∀ componentId size name, csuit.suitComponentIdentifierToFilename componentId size = .ok name →
    name.length < size ∧ (name = cString (joined componentId) ∨ name = cString (slash :: joined componentId))

/-- One segment that has no NUL and does not begin with a slash. -/
def OneName (componentId : ComponentIdentifier) : Prop :=
  ∃ segment, componentId = [segment] ∧ 0 ∉ segment ∧ segment.head? ≠ some slash

theorem cString_cons_slash (bytes : Bytes) : cString (slash :: bytes) = slash :: cString bytes := by
  have notNul : (slash != 0) = true := by decide
  rw [cString, List.takeWhile_cons, notNul, if_pos rfl]
  rfl

theorem cString_eq_self {bytes : Bytes} (noNul : 0 ∉ bytes) : cString bytes = bytes := by
  rw [cString, List.takeWhile_eq_self_iff]
  intro byte member
  rw [bne_iff_ne]
  rintro rfl
  exact noNul member

theorem dropWhile_slash_of_head {bytes : Bytes} (noSlash : bytes.head? ≠ some slash) :
    bytes.dropWhile (· == slash) = bytes := by
  cases bytes with
  | nil => rfl
  | cons first rest =>
    have different : (first == slash) = false := by simpa using noSlash
    simp [different]

theorem flatName_noNul (componentId : ComponentIdentifier) : 0 ∉ flatName componentId := by
  intro member
  have inString := (List.dropWhile_suffix (· == slash)).mem member
  have notNul := List.mem_takeWhile_imp inString
  simp at notNul

theorem flatName_head (componentId : ComponentIdentifier) : (flatName componentId).head? ≠ some slash := by
  have first := List.head?_dropWhile_not (· == slash) (cString (joined componentId))
  intro head
  rw [flatName] at head
  rw [head] at first
  simp at first

/-- The identifiers that the flat name gives back. -/
theorem flatName_eq_iff : [flatName componentId] = componentId ↔ OneName componentId := by
  constructor
  · intro same
    exact ⟨flatName componentId, same.symm, flatName_noNul componentId, flatName_head componentId⟩
  · intro oneName
    obtain ⟨segment, rfl, noNul, noSlash⟩ := oneName
    have single : joined [segment] = segment := by simp [joined, List.intercalate]
    rw [flatName, single, cString_eq_self noNul, dropWhile_slash_of_head noSlash]

theorem flatName_injective (oneName : OneName componentId) (otherName : OneName other)
    (same : flatName componentId = flatName other) : componentId = other := by
  rw [← flatName_eq_iff.mpr oneName, ← flatName_eq_iff.mpr otherName, same]

/-! ## Accepting a destination -/

/-- The destination is decoded to the component identifier and a file name is made of it. -/
structure AcceptedAs (csuit : Libcsuit) (dst : Buffer) (componentId : ComponentIdentifier) : Prop where
  full : dst.isNullOrEmpty = false
  decoded : csuit.suitDecodeComponentIdentifier dst.data = some componentId
  named : ∃ name, csuit.suitComponentIdentifierToFilename componentId csuit.suitMaxNameLength = .ok name

theorem trimFilename_eq (fits : name.length < size) :
    trimFilename name size = name.dropWhile (· == '/'.toUInt8) := by
  have suffix := List.dropWhile_suffix (l := name) (· == '/'.toUInt8)
  simp only [trimFilename]
  split
  · next same => exact (suffix.eq_of_length same).symm
  · next shorter =>
    have le := suffix.length_le
    exact List.take_of_length_le (by omega)

/-- What the buffer holds after a destination is accepted. -/
theorem trimFilename_flatName (joins : JoinsSegments csuit)
    (named : csuit.suitComponentIdentifierToFilename componentId size = .ok name) :
    trimFilename name size = flatName componentId := by
  obtain ⟨fits, isJoined⟩ := joins componentId size name named
  rw [trimFilename_eq fits]
  cases isJoined with
  | inl plain =>
    rw [plain]
    rfl
  | inr leading =>
    -- the leading slash is dropped with the others
    rw [leading, cString_cons_slash]
    rfl

theorem setIds_flatName (joins : JoinsSegments csuit) (accepted : AcceptedAs csuit dst componentId)
    (filename : CString) :
    manifestRecordSetIdsFromComponentId csuit dst filename csuit.suitMaxNameLength =
      (true, flatName componentId) := by
  obtain ⟨name, named⟩ := accepted.named
  have positive : csuit.suitMaxNameLength ≠ 0 := by
    have fits := (joins _ _ _ named).1
    omega
  simp only [manifestRecordSetIdsFromComponentId, accepted.full, accepted.decoded, named, positive]
  simp [trimFilename_flatName joins named]

/-! ## Reporting -/

/-- The component identifier that a tc-info carries. -/
def tcInfoComponentId (encoded : Bytes) : Option ComponentIdentifier :=
  match Cbor.decode encoded with
  | some (.map ((.unsigned 0, .array segments) :: _), []) => segments.mapM byteString
  | _ => none

theorem tcInfoComponentId_encode {item : TcListItem} (sized : item.componentId.length < 2 ^ 64) :
    tcInfoComponentId (Cbor.encode (tcInfoMap item)) = some [item.componentId] := by
  have decoded := Cbor.decode_encode (sized_tcInfo sized) []
  rw [List.append_nil] at decoded
  simp only [tcInfoComponentId, decoded]
  rfl

theorem tcListItem_componentId {item : TcListItem} (exported : tcListItem csuit record = some item) :
    item.componentId = record.wappName ∧ item.componentId.length < csuit.suitMaxNameLength := by
  simp only [tcListItem] at exported
  split at exported
  · cases exported
  split at exported
  · cases exported
  next inRange =>
  cases exported
  simp only [Bool.or_eq_true, decide_eq_true_eq, not_or] at inRange
  have short : record.wappName.length < csuit.suitMaxNameLength := by omega
  have whole : record.wappName.take (min record.wappName.length csuit.suitMaxNameLength) = record.wappName :=
    List.take_of_length_le (by omega)
  simp only [whole]
  exact ⟨trivial, short⟩

theorem buildTcInfo_encoded (preferred : lib.qcbor.PreferredSerialisation) {block : Option Block}
    {item : TcListItem} {info : TcInfo} (built : (buildTcInfoCborFromTcListItem lib block item).1 = some info) :
    info.encoded = Cbor.encode (tcInfoMap item) := by
  simp only [buildTcInfoCborFromTcListItem] at built
  split at built
  · cases built
  split at built
  · cases built
  split at built
  · cases built
  split at built
  · cases built
  split at built
  · cases built
  next finished =>
  cases built
  exact preferred _ _ _ finished

/-- The tc-info of the record, whatever buffer it is built in, carries this component identifier. -/
def ReportedAs (lib : Libraries) (record : ManifestRecord) (componentId : ComponentIdentifier) : Prop :=
  ∀ item block info, tcListItem lib.csuit record = some item →
    (buildTcInfoCborFromTcListItem lib block item).1 = some info →
    tcInfoComponentId info.encoded = some componentId

theorem reportedAs_wappName (preferred : lib.qcbor.PreferredSerialisation)
    (nameLength : lib.csuit.suitMaxNameLength < 2 ^ 64) (record : ManifestRecord) :
    ReportedAs lib record [record.wappName] := by
  intro item block info exported built
  obtain ⟨name, short⟩ := tcListItem_componentId exported
  rw [buildTcInfo_encoded preferred built, tcInfoComponentId_encode (Nat.lt_trans short nameLength), name]

/-! ## Installing -/

/-- If the call stores a payload for the digest, its destination is accepted as the component identifier. -/
def StoresAs (csuit : Libcsuit) (digest : Buffer) (componentId : ComponentIdentifier) : TcCall → Prop
  | .store (some args) _ => args.operation = .store → args.isManifestItself = false →
      args.manifestDigest = digest → AcceptedAs csuit args.dst componentId
  | _ => True

/-- The record of the digest has no app name yet, or the flat name of the component identifier. -/
def NamedAs (digest : Buffer) (componentId : ComponentIdentifier) (record : ManifestRecord) : Prop :=
  record.manifestDigest = digest → record.wappName = [] ∨ record.wappName = flatName componentId

theorem storeFields_namedAs (joins : JoinsSegments csuit) {digest : Buffer} {args : SuitStoreArgs}
    {alloc : StoreAlloc} {written : ManifestRecord}
    (accepted : args.isManifestItself = false → args.manifestDigest = digest →
      AcceptedAs csuit args.dst componentId)
    (key : written.manifestDigest = args.manifestDigest) (named : NamedAs digest componentId written) :
    NamedAs digest componentId (storeFields csuit args alloc written).2 := by
  intro sameDigest
  rw [storeFields_manifestDigest] at sameDigest
  cases kind : args.isManifestItself with
  | true =>
    -- the manifest leaves the app name alone
    simp only [storeFields, kind, if_true]
    exact named sameDigest
  | false =>
    simp only [storeFields, kind, Bool.false_eq_true, if_false]
    right
    simp only [storePayload, setIds_flatName joins (accepted kind (key.symm.trans sameDigest))]

theorem tcStep_namedAs (joins : JoinsSegments csuit) (clean : table.Clean) {digest : Buffer} {call : TcCall}
    (stores : StoresAs csuit digest componentId call)
    (named : ∀ record ∈ table.active, NamedAs digest componentId record) :
    ∀ record ∈ (tcStep csuit table call).2.active, NamedAs digest componentId record := by
  intro record member
  cases call with
  | store storeArgs alloc =>
    cases storeArgs with
    | none => exact named record member
    | some args =>
      by_cases isStore : args.operation = .store
      swap
      · have refused : tcManagerStoreRecordFromStoreArgs csuit (some args) alloc table = (-1, table) := by
          simp [tcManagerStoreRecordFromStoreArgs, isStore]
        simp only [tcStep, refused] at member
        exact named record member
      cases store_mem clean args alloc member with
      | inl before => exact named record before
      | inr stored =>
        obtain ⟨written, rfl, source, key⟩ := stored
        rw [storeFields_manifestDigest] at key
        apply storeFields_namedAs joins (stores isStore) key
        cases source with
        | inl active => exact named written active
        | inr isNew =>
          intro _
          exact .inl (by rw [isNew]; rfl)
  | checkAndUpdate digest => exact named record (checkAndUpdate_mem clean digest member)
  | removeAll =>
    have cleared : record ∈ (tcManagerRemoveAll table).active := member
    simp [removeAll_active clean] at cleared

/-- In every run whose payloads for the digest are accepted as the component identifier, a complete record of
the digest has its flat name. -/
theorem tcRun_namedAs (joins : JoinsSegments csuit) {digest : Buffer} {calls : List TcCall}
    (stores : ∀ call ∈ calls, StoresAs csuit digest componentId call) :
    ∀ record ∈ (tcRun csuit SlotTable.empty calls).active, record.manifestDigest = digest →
      manifestRecordIsComplete record = true → record.wappName = flatName componentId := by
  have preserved : ∀ table call,
      (table.Clean ∧ ∀ record ∈ table.active, NamedAs digest componentId record) →
      StoresAs csuit digest componentId call →
      ((tcMachine csuit).step table call).1.Clean ∧
        ∀ record ∈ ((tcMachine csuit).step table call).1.active, NamedAs digest componentId record :=
    fun table call reached stores => ⟨tcStep_clean reached.1 call, tcStep_namedAs joins reached.1 stores reached.2⟩
  have meets := ((tcMachine csuit).meets_const (StoresAs csuit digest componentId) SlotTable.empty calls).mpr stores
  obtain ⟨_, named⟩ := Machine.Meets.run_invariant preserved ⟨empty_clean, by simp⟩ meets
  intro record member key complete
  exact (named record member key).resolve_left (isComplete_iff.mp complete).2.1

/-- A payload is reported under its flat name, whatever else is stored; that is its component identifier
exactly for identifiers of one segment, and two such identifiers never meet in the duplicate rule. -/
theorem reportedIdentity (lib : Libraries) (preferred : lib.qcbor.PreferredSerialisation)
    (joins : JoinsSegments lib.csuit) (nameLength : lib.csuit.suitMaxNameLength < 2 ^ 64)
    (componentId : ComponentIdentifier) :
    (∀ digest calls, (∀ call ∈ calls, StoresAs lib.csuit digest componentId call) →
      ∀ record ∈ (tcRun lib.csuit SlotTable.empty calls).active, record.manifestDigest = digest →
        manifestRecordIsComplete record = true →
        record.wappName = flatName componentId ∧ ReportedAs lib record [flatName componentId]) ∧
    ([flatName componentId] = componentId ↔ OneName componentId) ∧
    ∀ other, OneName componentId → OneName other → componentId ≠ other →
      flatName componentId ≠ flatName other ∧
      ∀ table, TableInvariant lib.csuit table → ∀ record ∈ table.active, record.wappName = flatName componentId →
        ∀ bystander ∈ table.active, bystander.wappName = flatName other →
          bystander ∈ (tcManagerCheckAndUpdateRecord record.manifestDigest table).2.active := by
  refine ⟨?_, flatName_eq_iff, ?_⟩
  · intro digest calls stores record member key complete
    have named := tcRun_namedAs joins stores record member key complete
    have reported := reportedAs_wappName preferred nameLength record
    rw [named] at reported
    exact ⟨named, reported⟩
  · intro other oneName otherName different
    have differ : flatName componentId ≠ flatName other :=
      fun same => different (flatName_injective oneName otherName same)
    refine ⟨differ, ?_⟩
    intro table invariant record member named bystander active bystanderNamed
    cases checkAndUpdate_removesAtMostOne invariant.wellKept record.manifestDigest with
    | inl kept => exact kept.mem_iff.mpr active
    | inr removal =>
      obtain ⟨removed, split, removable⟩ := removal
      cases List.mem_cons.mp (split.mem_iff.mp active) with
      | inr stays => exact stays
      | inl same =>
        -- a record that goes is the one of the digest or has its name
        subst same
        have sameRecord : bystander.manifestDigest = record.manifestDigest → bystander = record :=
          invariant.wellKept.keyed.eq_of_digest active member
        have notSame : bystander ≠ record := by
          rintro rfl
          exact differ (named.symm.trans bystanderNamed)
        cases removable with
        | incomplete key _ => exact absurd (sameRecord key) notSame
        | outdated key _ _ _ _ => exact absurd (sameRecord key) notSame
        | replaced _ replacing replacingMember key sameName _ =>
          obtain rfl := invariant.wellKept.keyed.eq_of_digest replacingMember member key
          exact absurd (named.symm.trans (sameName.symm.trans bystanderNamed)) differ

/-! ## Two identifiers with one name -/

theorem joined_cons (segment : Bytes) (segments : ComponentIdentifier) :
    (segment :: segments).flatMap (slash :: ·) = slash :: joined (segment :: segments) := by
  induction segments generalizing segment with
  | nil => simp [joined, List.intercalate]
  | cons next segments inductionHypothesis =>
    rw [List.flatMap_cons, inductionHypothesis]
    simp [joined, List.intercalate]

theorem reference_joinsSegments (sha256 : Bytes → Sha256Hash) : JoinsSegments (reference sha256) := by
  intro componentId size name named
  simp only [reference, componentIdentifierToFilename] at named
  split at named
  · next fits =>
    obtain rfl := Except.ok.inj named
    refine ⟨Nat.lt_of_le_of_lt (List.takeWhile_sublist _).length_le fits, ?_⟩
    cases componentId with
    | nil => exact .inl rfl
    | cons segment segments => exact .inr (congrArg cString (joined_cons segment segments))
  · cases named

def encodedId (segments : ComponentIdentifier) : Buffer := .bytes (encodeComponentIdentifier segments)

/-- An app whose component identifier has the given segments is stored and finalised. -/
def installSegments (digest : Bytes) (segments : ComponentIdentifier) : List TcCall :=
  [.store (some (manifestStore digest 1 [109] [160])) ⟨true, true⟩,
    .store (some { payloadStore digest 1 [] wasmVersion1 with dst := encodedId segments }) ⟨true, true⟩,
    .checkAndUpdate (.bytes digest)]

/-- The segments "a" and "b" are reported as the one segment "a/b", and an app of that name takes the place of
the first. -/
theorem segments_flattened :
    AcceptedAs smallCsuit (encodedId [[97], [98]]) [[97], [98]] ∧
      AcceptedAs smallCsuit (encodedId [[97, 47, 98]]) [[97, 47, 98]] ∧
      (∃ record ∈ (tcRun smallCsuit SlotTable.empty (installSegments [1] [[97], [98]])).active,
        manifestRecordIsComplete record = true ∧ ReportedAs smallLibraries record [[97, 47, 98]] ∧
          ¬ ReportedAs smallLibraries record [[97], [98]]) ∧
      (tcRun smallCsuit SlotTable.empty
        (installSegments [1] [[97], [98]] ++ installSegments [2] [[97, 47, 98]])).active.map
          ManifestRecord.manifestDigest = [.bytes [2]] := by
  have reported : ReportedAs smallLibraries
      ((tcRun smallCsuit SlotTable.empty (installSegments [1] [[97], [98]])).slot 0) _ :=
    reportedAs_wappName referenceQcbor_preferredSerialisation (by decide) _
  have named : ((tcRun smallCsuit SlotTable.empty (installSegments [1] [[97], [98]])).slot 0).wappName =
      [97, 47, 98] := by decide +kernel
  rw [named] at reported
  refine ⟨⟨by decide, by decide +kernel, _, rfl⟩, ⟨by decide, by decide +kernel, _, rfl⟩,
    ⟨_, by decide +kernel, by decide +kernel, reported, ?_⟩, by decide +kernel⟩
  intro asSegments
  obtain ⟨item, exported⟩ : ∃ item, tcListItem smallLibraries.csuit
      ((tcRun smallCsuit SlotTable.empty (installSegments [1] [[97], [98]])).slot 0) = some item :=
    Option.isSome_iff_exists.mp (by decide +kernel)
  have builds : ∀ item ∈ tcListItem smallLibraries.csuit
      ((tcRun smallCsuit SlotTable.empty (installSegments [1] [[97], [98]])).slot 0),
      (buildTcInfoCborFromTcListItem smallLibraries (some 7) item).1.isSome = true := by decide +kernel
  obtain ⟨info, built⟩ := Option.isSome_iff_exists.mp (builds item exported)
  have flat := reported item (some 7) info exported built
  rw [asSegments item (some 7) info exported built] at flat
  simp at flat

theorem reportedIdentity_oneName :
    (∃ record ∈ (tcRun smallCsuit SlotTable.empty (installSegments [1] [[97]])).active,
      record.wappName = [97] ∧ ReportedAs smallLibraries record [[97]]) ∧
    flatName [[97]] ≠ flatName [[98]] := by
  have preferred : smallLibraries.qcbor.PreferredSerialisation := referenceQcbor_preferredSerialisation
  obtain ⟨installed, _, apart⟩ := reportedIdentity smallLibraries preferred
    (reference_joinsSegments smallSha256) (by decide) [[97]]
  have accepted : AcceptedAs smallCsuit (encodedId [[97]]) [[97]] := ⟨by decide, by decide +kernel, _, rfl⟩
  have stores : ∀ call ∈ installSegments [1] [[97]], StoresAs smallCsuit (.bytes [1]) [[97]] call := by
    intro call member
    simp only [installSegments, List.mem_cons, List.not_mem_nil, or_false] at member
    obtain rfl | rfl | rfl := member
    · intro _ notManifest
      cases notManifest
    · intro _ _ _
      exact accepted
    · trivial
  have oneName : ∀ byte : UInt8, byte = 97 ∨ byte = 98 → OneName [[byte]] := by
    rintro byte (rfl | rfl)
    · exact ⟨[97], rfl, by decide, by decide⟩
    · exact ⟨[98], rfl, by decide, by decide⟩
  have single : flatName [[97]] = [97] := by decide
  obtain ⟨named, reported⟩ := installed (.bytes [1]) (installSegments [1] [[97]]) stores
    ((tcRun smallCsuit SlotTable.empty (installSegments [1] [[97]])).slot 0) (by decide +kernel)
    (by decide +kernel) (by decide +kernel)
  rw [single] at named reported
  exact ⟨⟨_, by decide +kernel, named, reported⟩,
    (apart [[98]] (oneName 97 (.inl rfl)) (oneName 98 (.inr rfl)) (by decide)).1⟩

end Taws.Teep
