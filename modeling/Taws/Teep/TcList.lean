import Taws.Teep.UpdateTable

/-!
# What a QueryResponse reports

The tc-list of a QueryResponse has one entry for each active record, in slot order, and looking an app
name up returns the first record of the name in slot order.  A table with an incomplete record is not
exported at all.

* `tcListItems_eq` — the items that are exported.
* `tcInfoEntry_encode` — the name and the digest can be read back from a tc-info.
* `queryResponse_reports` — what is reported against what is looked up.
-/

namespace Taws.Teep

open TcManager
open SlotTable

variable {csuit : Libcsuit} {record : ManifestRecord} {records : List ManifestRecord} {table : RecordTable}

/-! ## App names fit their buffer -/

def NameFits (csuit : Libcsuit) (name : CString) : Prop :=
  name = [] ∨ name.length < csuit.suitMaxNameLength

theorem trimFilename_length (filename : CString) (filenameLen : Nat) :
    (trimFilename filename filenameLen).length ≤ filename.length := by
  have shorter := (List.dropWhile_suffix (l := filename) (· == '/'.toUInt8)).length_le
  simp only [trimFilename]
  split
  · exact Nat.le_refl _
  · rw [List.length_take]
    omega

theorem setIds_fits (filenames : csuit.FilenamesFit) (componentId : Buffer) {filename : CString}
    (fits : NameFits csuit filename) :
    NameFits csuit
      (manifestRecordSetIdsFromComponentId csuit componentId filename csuit.suitMaxNameLength).2 := by
  simp only [manifestRecordSetIdsFromComponentId]
  split
  · exact fits
  · split
    · exact fits
    · next decoded _ =>
      cases named : csuit.suitComponentIdentifierToFilename decoded csuit.suitMaxNameLength with
      | error leftover =>
        cases leftover with
        | none => exact fits
        | some name => exact .inr (filenames _ _ name (.inr named))
      | ok name =>
        have bound := filenames _ _ name (.inl named)
        exact .inr (Nat.lt_of_le_of_lt (trimFilename_length name _) bound)

theorem reachable_nameFits (filenames : csuit.FilenamesFit) (calls : List TcCall) :
    ∀ record ∈ (tcRun csuit SlotTable.empty calls).active, NameFits csuit record.wappName := by
  apply tcRun_records
  · intro digest
    exact .inl rfl
  · intro args alloc record fits
    unfold storeFields
    split
    · exact fits
    · exact setIds_fits filenames args.dst fits

/-! ## Exporting -/

/-- What the tc-list says about a record. -/
def itemOf (record : ManifestRecord) : TcListItem := ⟨record.wappName, record.wappHash⟩

theorem tcListItem_eq (fits : NameFits csuit record.wappName) :
    tcListItem csuit record = if manifestRecordIsComplete record then some (itemOf record) else none := by
  cases complete : manifestRecordIsComplete record with
  | false => simp [tcListItem, complete]
  | true =>
    have named := (isComplete_iff.mp complete).2.1
    have short := fits.resolve_left named
    have positive := List.length_pos_iff.mpr named
    have whole : min record.wappName.length csuit.suitMaxNameLength = record.wappName.length :=
      Nat.min_eq_left (Nat.le_of_lt short)
    have inRange : ¬ (record.wappName.length = 0 ∨ csuit.suitMaxNameLength ≤ record.wappName.length ∨
        csuit.suitMaxNameLength - 1 < record.wappName.length) := by
      omega
    simp only [tcListItem, complete, whole, tcComponentIdMaxLen, itemOf, List.take_length]
    simp only [Bool.not_true, Bool.false_eq_true, if_false, if_true, Bool.or_eq_true, decide_eq_true_eq,
      ge_iff_le, gt_iff_lt, or_assoc, if_neg inRange]

theorem tcListItems_eq (fits : ∀ record ∈ records, NameFits csuit record.wappName) :
    tcListItems csuit records =
      if records.all manifestRecordIsComplete then some (records.map itemOf) else none := by
  induction records with
  | nil => rfl
  | cons record records inductionHypothesis =>
    have head := tcListItem_eq (fits record List.mem_cons_self)
    have tail := inductionHypothesis fun other member => fits other (List.mem_cons_of_mem _ member)
    simp only [tcListItems, head, tail, List.all_cons, List.map_cons]
    cases manifestRecordIsComplete record <;> cases records.all manifestRecordIsComplete <;> rfl

theorem getTcList_eq (clean : table.Clean) (fits : ∀ record ∈ table.active, NameFits csuit record.wappName)
    (inUse : tcManagerRecordCount table ≠ 0) :
    tcManagerGetTcList csuit table true (tcManagerRecordCount table) true =
      if table.active.all manifestRecordIsComplete then (0, table.active.map itemOf) else (-1, []) := by
  have slots : (List.range (tcManagerRecordCount table)).map table.slot = table.active :=
    (active_eq_map clean).symm
  simp only [tcManagerGetTcList, slots, tcListItems_eq fits, inUse]
  cases table.active.all manifestRecordIsComplete <;> simp

/-! ## tc-info -/

/-- The app name and the digest that a tc-info carries. -/
def tcInfoEntry (encoded : Bytes) : Option (CString × Bytes) :=
  match Cbor.decode encoded with
  | some (.map [(.unsigned 0, .array [.bytes name]), (.unsigned 3, .bytes wrapped)], []) =>
    match Cbor.decode wrapped with
    | some (.array [.negative 15, .bytes digest], []) => some (name, digest)
    | _ => none
  | _ => none

theorem encodedDigest_length (digest : Sha256Hash) :
    (Cbor.encode (.array [.negative 15, .bytes digest.toList])).length = 36 := by
  have digestLength : digest.toList.length = 32 := digest.length_toList
  simp [Cbor.encode, Cbor.encodeItems, Cbor.encodeHead, Cbor.bigEndian, digestLength]

theorem sized_digest (digest : Sha256Hash) : Cbor.Sized (.array [.negative 15, .bytes digest.toList]) := by
  have digestLength : digest.toList.length = 32 := digest.length_toList
  simp [Cbor.Sized, Cbor.SizedItems, digestLength]

theorem sized_tcInfo {item : TcListItem} (sized : item.componentId.length < 2 ^ 64) :
    Cbor.Sized (tcInfoMap item) := by
  simpa [tcInfoMap, Cbor.Sized, Cbor.SizedItems, Cbor.SizedEntries, encodedDigest_length] using sized

theorem tcInfoEntry_encode {item : TcListItem} (sized : item.componentId.length < 2 ^ 64) :
    tcInfoEntry (Cbor.encode (tcInfoMap item)) = some (item.componentId, item.tcImageDigest.toList) := by
  have outer := Cbor.decode_encode (sized_tcInfo sized) []
  have inner := Cbor.decode_encode (sized_digest item.tcImageDigest) []
  rw [List.append_nil] at outer inner
  simp only [tcInfoEntry, outer]
  simp only [tcInfoMap, inner]

/-- The encoder takes the tc-info of the record. -/
def TcInfoEncodes (qcbor : Qcbor) (record : ManifestRecord) : Prop :=
  ∃ size encoded, qcbor.finishGetSize (tcInfoMap (itemOf record)) = some size ∧ size ≠ 0 ∧
    qcbor.finish (tcInfoMap (itemOf record)) size = some encoded

variable {lib : Libraries}

/-- An item that passes the check of its name, and that the encoder takes in both passes. -/
theorem buildTcInfo_finished {item : TcListItem} (named : item.componentId ≠ [])
    (short : item.componentId.length ≤ tcComponentIdMaxLen lib.csuit) {size : Nat} {encoded : Bytes}
    (isSize : lib.qcbor.finishGetSize (tcInfoMap item) = some size) (positive : size ≠ 0)
    (finished : lib.qcbor.finish (tcInfoMap item) size = some encoded) (block : Block) :
    (buildTcInfoCborFromTcListItem lib (some block) item).1 = some ⟨block, encoded⟩ := by
  have whole : min item.componentId.length (tcComponentIdMaxLen lib.csuit + 1) = item.componentId.length := by
    omega
  have notEmpty : item.componentId.length ≠ 0 := by
    have nonzero := List.length_pos_iff.mpr named
    omega
  have notLong : ¬ item.componentId.length > tcComponentIdMaxLen lib.csuit := by omega
  simp only [buildTcInfoCborFromTcListItem, whole, isSize, finished]
  simp [notEmpty, notLong, positive]

theorem buildTcInfo_eq (preferred : lib.qcbor.PreferredSerialisation)
    (fits : NameFits lib.csuit record.wappName) (complete : manifestRecordIsComplete record = true)
    (encodes : TcInfoEncodes lib.qcbor record) (block : Block) :
    (buildTcInfoCborFromTcListItem lib (some block) (itemOf record)).1 =
      some ⟨block, Cbor.encode (tcInfoMap (itemOf record))⟩ := by
  have named := (isComplete_iff.mp complete).2.1
  have short := fits.resolve_left named
  have inRange : (itemOf record).componentId.length ≤ tcComponentIdMaxLen lib.csuit := by
    show record.wappName.length ≤ lib.csuit.suitMaxNameLength - 1
    omega
  obtain ⟨size, encoded, isSize, sizePositive, finished⟩ := encodes
  rw [buildTcInfo_finished named inRange isSize sizePositive finished block, preferred _ _ _ finished]

theorem buildTcInfos_eq (preferred : lib.qcbor.PreferredSerialisation) {tcInfoBuf : Nat → Option Block}
    (buffers : ∀ index, tcInfoBuf index ≠ none) (index : Nat)
    (fits : ∀ record ∈ records, NameFits lib.csuit record.wappName)
    (complete : ∀ record ∈ records, manifestRecordIsComplete record = true)
    (encodes : ∀ record ∈ records, TcInfoEncodes lib.qcbor record) :
    ∃ infos, (buildTcInfos lib tcInfoBuf index (records.map itemOf)).1 = some infos ∧
      infos.map TcInfo.encoded = records.map fun record => Cbor.encode (tcInfoMap (itemOf record)) := by
  induction records generalizing index with
  | nil => exact ⟨[], rfl, rfl⟩
  | cons record records inductionHypothesis =>
    obtain ⟨block, isBlock⟩ := Option.ne_none_iff_exists'.mp (buffers index)
    have head := buildTcInfo_eq preferred (fits record List.mem_cons_self) (complete record List.mem_cons_self)
      (encodes record List.mem_cons_self) block
    obtain ⟨infos, tail, encodings⟩ := inductionHypothesis (index + 1)
      (fun other member => fits other (List.mem_cons_of_mem _ member))
      (fun other member => complete other (List.mem_cons_of_mem _ member))
      (fun other member => encodes other (List.mem_cons_of_mem _ member))
    refine ⟨⟨block, Cbor.encode (tcInfoMap (itemOf record))⟩ :: infos, ?_, ?_⟩
    swap
    · rw [List.map_cons, encodings]
      rfl
    simp only [List.map_cons, buildTcInfos, isBlock]
    split
    · next events built =>
      rw [built] at head
      cases head
    · next info events built =>
      rw [built] at head
      obtain rfl : info = _ := Option.some.inj head
      split
      · next later rest =>
        rw [rest] at tail
        cases tail
      · next others later rest =>
        rw [rest] at tail
        obtain rfl : others = infos := Option.some.inj tail
        rfl

/-! ## The response -/

/-- Every active record is complete and the entries fit the response. -/
def Exportable (lib : Libraries) (table : RecordTable) : Prop :=
  (∀ record ∈ table.active, manifestRecordIsComplete record = true) ∧
    tcManagerRecordCount table ≤ lib.teep.tcListCapacity

theorem tcListStep_exportable (preferred : lib.qcbor.PreferredSerialisation) {env : QueryEnv}
    (items : env.tcListItems ≠ none) (buffers : ∀ index, env.tcInfoBuf index ≠ none) (clean : table.Clean)
    (fits : ∀ record ∈ table.active, NameFits lib.csuit record.wappName)
    (encodes : ∀ record ∈ table.active, TcInfoEncodes lib.qcbor record)
    (exportable : Exportable lib table) {queryResponse : TeepQueryResponse}
    (noEntries : queryResponse.tcList = []) :
    ∃ response, (tcListStep lib env table queryResponse).1 = .ok response ∧
      response.tcList.map TcInfo.encoded =
        table.active.map fun record => Cbor.encode (tcInfoMap (itemOf record)) := by
  obtain ⟨complete, room⟩ := exportable
  obtain ⟨block, isBlock⟩ := Option.ne_none_iff_exists'.mp items
  simp only [tcListStep]
  rw [if_neg (Nat.not_lt.mpr room)]
  split
  · next isEmpty =>
    have noRecords : table.active = [] := active_of_len_zero isEmpty
    exact ⟨queryResponse, rfl, by simp [noEntries, noRecords]⟩
  · next inUse =>
    have allComplete : table.active.all manifestRecordIsComplete = true := List.all_eq_true.mpr complete
    obtain ⟨infos, built, encodings⟩ := buildTcInfos_eq preferred buffers 0 fits complete encodes
    simp only [isBlock, getTcList_eq clean fits inUse, allComplete, if_true, ne_eq, not_true_eq_false, if_false]
    split
    · next events failed =>
      rw [failed] at built
      cases built
    · next others events succeeded =>
      rw [succeeded] at built
      obtain rfl : others = infos := Option.some.inj built
      exact ⟨_, rfl, encodings⟩

theorem tcListStep_not_exportable {env : QueryEnv} (items : env.tcListItems ≠ none) (clean : table.Clean)
    (fits : ∀ record ∈ table.active, NameFits lib.csuit record.wappName)
    (notExportable : ¬ Exportable lib table) (queryResponse : TeepQueryResponse) :
    ∃ code, (tcListStep lib env table queryResponse).1 = .error code := by
  obtain ⟨block, isBlock⟩ := Option.ne_none_iff_exists'.mp items
  simp only [tcListStep]
  split
  · exact ⟨_, rfl⟩
  · next room =>
    have incomplete : table.active.all manifestRecordIsComplete = false := by
      by_contra complete
      have allComplete := List.all_eq_true.mp (Bool.not_eq_false _ ▸ complete)
      exact notExportable ⟨allComplete, Nat.not_lt.mp room⟩
    -- an empty table is exportable
    have inUse : tcManagerRecordCount table ≠ 0 := by
      intro isEmpty
      simp [active_of_len_zero isEmpty] at incomplete
    rw [if_neg inUse]
    simp only [isBlock, getTcList_eq clean fits inUse, incomplete]
    exact ⟨_, rfl⟩

/-- The request asks for a version and a cipher suite that the agent has. -/
def Negotiates (teep : Libteep) (queryRequest : TeepQueryRequest) : Prop :=
  versionSupported queryRequest = true ∧
    teep.teepCipherSuiteIsSame (negotiatedCipherSuite teep queryRequest) (teepCipherSuiteInvalid teep) = false

/-- The evidence, the allocations and the encodings on the way to the tc-list succeed. -/
structure NothingFails (lib : Libraries) (env : QueryEnv) (queryRequest : TeepQueryRequest) (workBuf : Nat)
    (appName : CString) (keyPair : TeepKey) (table : RecordTable) : Prop where
  requested : ∃ queryResponse tmpLen encoded,
    (attestationStep lib env queryRequest keyPair (clearedResponse queryRequest) workBuf).1 =
        .ok (queryResponse, tmpLen) ∧
      lib.qcbor.finish (.array [.bytes appName]) tmpLen = some encoded
  tcListItems : env.tcListItems ≠ none
  tcInfoBuf : ∀ index, env.tcInfoBuf index ≠ none
  tcInfos : ∀ record ∈ table.active, TcInfoEncodes lib.qcbor record

variable {env : QueryEnv} {queryRequest : TeepQueryRequest} {workBuf : Nat} {appName : CString} {keyPair : TeepKey}

theorem attestationStep_tcList {queryResponse built : TeepQueryResponse} {tmpLen rest : Nat}
    (succeeded : (attestationStep lib env queryRequest keyPair queryResponse tmpLen).1 = .ok (built, rest)) :
    built.tcList = queryResponse.tcList := by
  simp only [attestationStep] at succeeded
  split at succeeded
  · cases succeeded
    rfl
  · split at succeeded
    · cases succeeded
    · split at succeeded
      · cases succeeded
      · cases succeeded
        rfl

/-- What is left to decide is the tc-list. -/
theorem processQueryRequest_tcList (asks : queryRequest.dataItemRequested.trustedComponents = true)
    (negotiates : Negotiates lib.teep queryRequest) (named : appName ≠ [])
    (working : NothingFails lib env queryRequest workBuf appName keyPair table) :
    ∃ queryResponse, queryResponse.tcList = [] ∧
      (processQueryRequest lib env queryRequest workBuf (some appName) keyPair table).2.1 =
        match (tcListStep lib env table queryResponse).1 with
        | .error code => createError lib.teep queryRequest.token code (.null 0) (.null 0)
        | .ok response => .queryResponse response := by
  obtain ⟨built, tmpLen, encoded, attested, finished⟩ := working.requested
  have noEntries : built.tcList = [] := attestationStep_tcList attested
  let requesting : TeepQueryResponse := { built with
    contains := built.contains ∪ {.requestedTcList}
    requestedTcList := [encoded] }
  have step : attestationStep lib env queryRequest keyPair (clearedResponse queryRequest) workBuf =
      (.ok (built, tmpLen), (attestationStep lib env queryRequest keyPair (clearedResponse queryRequest)
        workBuf).2) := Prod.ext attested rfl
  refine ⟨requesting, noEntries, ?_⟩
  rw [processQueryRequest, buildQueryResponse, requestedItems, step]
  simp only [negotiates.1, negotiates.2, trustedComponentsStep, asks, named, finished, Bool.not_true,
    Bool.false_eq_true, if_false]
  cases tcListStep lib env table requesting with
  | mk outcome events => cases outcome <;> rfl

/-- The digests that the tc-list has for an app name, in order. -/
def reportedDigests (response : TeepQueryResponse) (wappName : CString) : List Bytes :=
  response.tcList.filterMap fun info =>
    match tcInfoEntry info.encoded with
    | some (name, digest) => if name = wappName then some digest else none
    | none => none

theorem reportedDigests_eq {response : TeepQueryResponse}
    (encodings : response.tcList.map TcInfo.encoded =
      records.map fun record => Cbor.encode (tcInfoMap (itemOf record)))
    (sized : ∀ record ∈ records, record.wappName.length < 2 ^ 64) (wappName : CString) :
    reportedDigests response wappName =
      (records.filter fun record => record.wappName == wappName).map fun record => record.wappHash.toList := by
  let digestFor : Bytes → Option Bytes := fun encoded =>
    match tcInfoEntry encoded with
    | some (name, digest) => if name = wappName then some digest else none
    | none => none
  calc reportedDigests response wappName
    _ = (response.tcList.map TcInfo.encoded).filterMap digestFor := by
      rw [List.filterMap_map]
      rfl
    _ = (records.map fun record => Cbor.encode (tcInfoMap (itemOf record))).filterMap digestFor := by
      rw [encodings]
    _ = (records.filter fun record => record.wappName == wappName).map fun record =>
        record.wappHash.toList := by
      clear encodings
      induction records with
      | nil => rfl
      | cons record records inductionHypothesis =>
        have entry : tcInfoEntry (Cbor.encode (tcInfoMap (itemOf record))) =
            some (record.wappName, record.wappHash.toList) := tcInfoEntry_encode (sized record List.mem_cons_self)
        have tail := inductionHypothesis fun other member => sized other (List.mem_cons_of_mem _ member)
        by_cases same : record.wappName = wappName
        · simp [digestFor, entry, same, ← tail]
        · simp [digestFor, entry, same, ← tail]

/-- If all records are complete, what is reported for an app name begins with the record that looking the
name up returns. -/
theorem reported_lookup (kept : WellKept table)
    (complete : ∀ record ∈ table.active, manifestRecordIsComplete record = true) {wappName : CString}
    {reported : List Bytes}
    (digests : reported = (table.active.filter fun record => record.wappName == wappName).map fun record =>
      record.wappHash.toList) :
    (tcManagerFindRecordByWappname table (some wappName) = none → reported = []) ∧
      ∀ record, tcManagerFindRecordByWappname table (some wappName) = some record →
        record.wappBin.isNullOrEmpty = false ∧ reported.head? = some record.wappHash.toList ∧
        ((∀ other ∈ table.active, other.wappName = wappName → other = record) →
          reported = [record.wappHash.toList]) := by
  by_cases nameless : wappName = []
  · -- complete records have a name, and looking the empty name up fails
    have noRecord : ∀ record ∈ table.active, ¬ (record.wappName == wappName) = true := by
      intro record member same
      have isNamed := (isComplete_iff.mp (complete record member)).2.1
      exact isNamed ((beq_iff_eq.mp same).trans nameless)
    have notFound : tcManagerFindRecordByWappname table (some wappName) = none := by
      simp [tcManagerFindRecordByWappname, manifestRecordFindByWappName, nameless]
    rw [notFound, digests, List.filter_eq_nil_iff.mpr noRecord]
    exact ⟨fun _ => rfl, by simp⟩
  · rw [findRecordByWappname_eq kept.toClean nameless, digests]
    constructor
    · intro notFound
      rw [List.filter_eq_nil_iff.mpr (List.find?_eq_none.mp notFound)]
      rfl
    · intro record found
      have member := List.mem_of_find?_eq_some found
      have carries : (record.wappName == wappName) = true :=
        List.find?_some (p := fun other : ManifestRecord => other.wappName == wappName) found
      refine ⟨(isComplete_iff.mp (complete record member)).2.2.2, ?_, ?_⟩
      · rw [List.head?_map, List.head?_filter, found]
        rfl
      · intro unique
        -- the active records have no duplicates, so the only one of the name is listed once
        have only : (table.active.filter fun other => other.wappName == wappName) = [record] := by
          rw [← List.perm_singleton, List.perm_ext_iff_of_nodup (kept.keyed.nodup.filter _) (by simp)]
          intro other
          rw [List.mem_filter, List.mem_singleton, beq_iff_eq]
          constructor
          · intro both
            exact unique other both.1 both.2
          · intro same
            rw [same]
            exact ⟨member, beq_iff_eq.mp carries⟩
        rw [only]
        rfl

/-- In every reachable table, a QueryResponse is built exactly when the table can be exported.  Its
first entry for an app name is that of the record which looking the name up returns, and the only one
unless another record carries the name; there is none where looking the name up fails. -/
theorem queryResponse_reports (lib : Libraries) (preferred : lib.qcbor.PreferredSerialisation)
    (filenames : lib.csuit.FilenamesFit) (nameLength : lib.csuit.suitMaxNameLength < 2 ^ 64)
    (calls : List TcCall) (env : QueryEnv) (queryRequest : TeepQueryRequest) (workBuf : Nat) (appName : CString)
    (keyPair : TeepKey) (asks : queryRequest.dataItemRequested.trustedComponents = true)
    (negotiates : Negotiates lib.teep queryRequest) (named : appName ≠ [])
    (working : NothingFails lib env queryRequest workBuf appName keyPair (tcRun lib.csuit SlotTable.empty calls)) :
    let table := tcRun lib.csuit SlotTable.empty calls
    let message := (processQueryRequest lib env queryRequest workBuf (some appName) keyPair table).2.1
    (¬ Exportable lib table → ∃ error, message = .error error) ∧
    (Exportable lib table → ∃ response, message = .queryResponse response ∧
      (∀ info ∈ response.tcList, (tcInfoEntry info.encoded).isSome) ∧
      ∀ wappName,
        (tcManagerFindRecordByWappname table (some wappName) = none → reportedDigests response wappName = []) ∧
        ∀ record, tcManagerFindRecordByWappname table (some wappName) = some record →
          record.wappBin.isNullOrEmpty = false ∧
          (reportedDigests response wappName).head? = some record.wappHash.toList ∧
          ((∀ other ∈ table.active, other.wappName = wappName → other = record) →
            reportedDigests response wappName = [record.wappHash.toList])) := by
  intro table message
  have kept : WellKept table := tcRun_wellKept lib.csuit empty_wellKept calls
  have fits := reachable_nameFits filenames calls
  obtain ⟨queryResponse, noEntries, isMessage⟩ := processQueryRequest_tcList asks negotiates named working
  constructor
  · intro notExportable
    obtain ⟨code, failed⟩ := tcListStep_not_exportable working.tcListItems kept.toClean fits notExportable
      queryResponse
    rw [failed] at isMessage
    exact ⟨_, isMessage⟩
  · intro exportable
    -- the entries are the encodings of the active records, in the order of the table
    obtain ⟨response, built, encodings⟩ := tcListStep_exportable preferred working.tcListItems
      working.tcInfoBuf kept.toClean fits working.tcInfos exportable noEntries
    rw [built] at isMessage
    have sized : ∀ record ∈ table.active, record.wappName.length < 2 ^ 64 := by
      intro record member
      have short := (fits record member).resolve_left (isComplete_iff.mp (exportable.1 record member)).2.1
      exact Nat.lt_trans short nameLength
    refine ⟨response, isMessage, ?_, ?_⟩
    · intro info member
      have isEncoding : info.encoded ∈ response.tcList.map TcInfo.encoded := List.mem_map_of_mem member
      rw [encodings] at isEncoding
      obtain ⟨record, active, same⟩ := List.mem_map.mp isEncoding
      rw [← same, tcInfoEntry_encode (sized record active)]
      rfl
    · intro wappName
      exact reported_lookup kept exportable.1 (reportedDigests_eq encodings sized wappName)

/-! ## An installed app, and a record of a failed Update -/

def trustedComponentsRequest : TeepQueryRequest where
  contains := {.token}
  dataItemRequested := ⟨false, true⟩
  token := .bytes (List.replicate 8 0)
  versions := []
  supportedTeepCipherSuites := []
  challenge := .null 0

def queryAfter (table : RecordTable) : TeepMessage :=
  (processQueryRequest smallLibraries workingQuery trustedComponentsRequest workBufLen (some [97]) ⟨.null 0⟩ table).2.1

theorem tcInfoEncodes_reference (record : ManifestRecord) : TcInfoEncodes referenceQcbor record := by
  refine ⟨_, _, rfl, ?_, if_pos (Nat.le_refl _)⟩
  exact Nat.ne_of_gt (Cbor.encode_length_pos _)

theorem nothingFails_reference (table : RecordTable) :
    NothingFails smallLibraries workingQuery trustedComponentsRequest workBufLen [97] ⟨.null 0⟩ table where
  requested := ⟨_, _, Cbor.encode (.array [.bytes [97]]), rfl, by decide +kernel⟩
  tcListItems := by decide
  tcInfoBuf := by simp [workingQuery]
  tcInfos := fun record _ => tcInfoEncodes_reference record

theorem negotiates_reference : Negotiates referenceTeep trustedComponentsRequest :=
  ⟨by decide, by decide⟩

def installedApp : List TcCall := storeBoth [1] 1 [97] wasmVersion1 ++ [.checkAndUpdate (.bytes [1])]

theorem installedApp_reported : ∃ response,
    queryAfter (tcRun smallCsuit SlotTable.empty installedApp) = .queryResponse response ∧
      reportedDigests response [97] = [(smallSha256 wasmVersion1).toList] := by
  have reports := queryResponse_reports smallLibraries referenceQcbor_preferredSerialisation
    (reference_filenamesFit smallSha256) (by decide) installedApp workingQuery trustedComponentsRequest
    workBufLen [97]
    ⟨.null 0⟩ rfl negotiates_reference (by decide) (nothingFails_reference _)
  obtain ⟨response, built, _, entries⟩ := reports.2 ⟨by decide +kernel, by decide +kernel⟩
  have entry := (entries [97]).2 ((tcRun smallCsuit SlotTable.empty installedApp).slot 0) (by decide +kernel)
  exact ⟨response, built, entry.2.2 (by decide +kernel)⟩

/-- The manifest is stored, then its payload cannot be fetched. -/
def unfetchedRun : EnvelopeRun where
  manifestDigest := .bytes [1]
  callbacks := [.store (manifestStore [1] 1 [109] [160]) ⟨true, true⟩]
  result := .other 1

def unfetchedUpdate : UpdateResult :=
  processUpdate smallLibraries (fun _ => workingManifest fun _ => unfetchedRun) oneManifest
    ⟨SlotTable.empty, .null 0⟩

/-- One incomplete record is enough for an Error. -/
theorem unfetchedUpdate_refused :
    NothingFails smallLibraries workingQuery trustedComponentsRequest workBufLen [97] ⟨.null 0⟩
        unfetchedUpdate.state.table ∧
      Negotiates referenceTeep trustedComponentsRequest ∧
      ¬ ∃ response, queryAfter unfetchedUpdate.state.table = .queryResponse response := by
  refine ⟨nothingFails_reference _, negotiates_reference, ?_⟩
  rintro ⟨response, built⟩
  have refused : (queryAfter unfetchedUpdate.state.table).isQueryResponse = false := by decide +kernel
  rw [built] at refused
  cases refused

end Taws.Teep
