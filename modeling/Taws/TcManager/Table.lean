import Taws.SlotTable
import Taws.TcManager.Record

/-!
# The record table of `tc_manager.cpp`

`g_manifest_records` and `g_manifest_record_len` are a slot table of `tcManagerRecordMaxCount` records.
A `manifest_record_t *` into the array is a slot index, a NULL one is `none`, and the outcome of each
`malloc` is part of the call.
-/

namespace Taws.TcManager

def tcManagerRecordMaxCount : Nat := 20

/-- `g_manifest_records` with `g_manifest_record_len` -/
abbrev RecordTable := SlotTable ManifestRecord tcManagerRecordMaxCount

/-- Whether the `malloc` of the digest and the `malloc` of the binary in one store call succeed. -/
structure StoreAlloc where
  digest : Bool
  bin : Bool
  deriving DecidableEq

/-! ## Component identifiers -/

/-- The `while` loop over leading `'/'` and the move of what is left to the front. -/
def trimFilename (filename : CString) (filenameLen : Nat) : CString :=
  let trimmed := filename.dropWhile (· == '/'.toUInt8)
  if trimmed.length = filename.length then filename else trimmed.take (filenameLen - 1)

/-- The return value, and what `filename` holds afterwards. -/
def manifestRecordSetIdsFromComponentId (csuit : Libcsuit) (encodedComponentId : Buffer)
    (filename : CString) (filenameLen : Nat) : Bool × CString :=
  if filenameLen = 0 || encodedComponentId.isNullOrEmpty then (false, filename)
  else
    match csuit.suitDecodeComponentIdentifier encodedComponentId.data with
    | none => (false, filename)
    | some componentId =>
      match csuit.suitComponentIdentifierToFilename componentId filenameLen with
      -- `filename` is the buffer itself, so a failed call may have changed it
      | .error leftover => (false, leftover.getD filename)
      | .ok name => (true, trimFilename name filenameLen)

/-! ## Slots -/

/-- The record just past the active ones, with the table in which it is active. -/
def manifestRecordsAlloc (table : RecordTable) : Option (Nat × RecordTable) :=
  if table.len ≥ tcManagerRecordMaxCount then none else some (table.len, table.alloc)

/-- Frees the record's buffers, zeroes the slot and shrinks the table. -/
def manifestRecordRemoveAt (table : RecordTable) (index : Nat) : RecordTable := table.removeAt index

/-- The `memcmp` test of `manifest_record_find_by_digest`. -/
def digestMatches (digest : Buffer) (record : ManifestRecord) : Bool :=
  !record.manifestDigest.isNull && record.manifestDigest.len == digest.len &&
    record.manifestDigest.data == digest.data

def manifestRecordFindByDigest (table : RecordTable) (digest : Buffer) : Option Nat :=
  if digest.isNullOrEmpty then none
  else (List.range table.len).find? fun index => digestMatches digest (table.slot index)

def manifestRecordFindByWappName (table : RecordTable) (wappName : Option CString) : Option Nat :=
  match wappName with
  | none => none
  | some name =>
    if name = [] then none
    else (List.range table.len).find? fun index =>
      (table.slot index).wappName != [] && (table.slot index).wappName == name

def manifestRecordIsComplete (record : ManifestRecord) : Bool :=
  if record.manifestName = [] || record.wappName = [] then false
  else if record.manifestBin.isNullOrEmpty then false
  else if record.wappBin.isNullOrEmpty then false
  else true

/-- Whether the loop of `manifest_record_update_or_discard` stops at slot `index`. -/
def sameWappName (table : RecordTable) (recordIndex index : Nat) : Bool :=
  index != recordIndex && (table.slot index).wappName != [] &&
    (table.slot index).wappName == (table.slot recordIndex).wappName

/-- The loop returns at the first other record with the same app name. -/
def manifestRecordUpdateOrDiscard (table : RecordTable) (recordIndex : Nat) : RecordTable :=
  if (table.slot recordIndex).wappName = [] then table
  else if recordIndex ≥ table.len then table
  else
    match (List.range table.len).find? (sameWappName table recordIndex) with
    | none => table
    | some index =>
      -- the new record moves to the slot of the older one, which is removed from where the new one was
      if (table.slot index).manifestSequenceNumber ≤ (table.slot recordIndex).manifestSequenceNumber
      then manifestRecordRemoveAt (table.swap index recordIndex) recordIndex
      else manifestRecordRemoveAt table recordIndex

/-! ## Storing -/

/-- Releases the old binary and copies the new one; `false` when the copy cannot be allocated. -/
def replaceBin (old source : Buffer) (malloc : Bool) : Bool × Buffer :=
  let released := if old.isNull then old else .null 0
  if source.isNullOrEmpty then (true, released)
  else if malloc then (true, .bytes source.data)
  else (false, released)

/-- The branch for the manifest itself: sequence number, manifest name, manifest binary. -/
def storeManifest (csuit : Libcsuit) (args : SuitStoreArgs) (alloc : StoreAlloc)
    (record : ManifestRecord) : Int × ManifestRecord :=
  let name := manifestRecordSetIdsFromComponentId csuit args.dst record.manifestName csuit.suitMaxNameLength
  let bin := replaceBin record.manifestBin args.srcBuf alloc.bin
  (if bin.1 then 0 else -1,
    { record with
      manifestSequenceNumber := args.manifestSequenceNumber
      manifestName := name.2
      manifestBin := bin.2 })

/-- The branch for a payload: app name, app binary and its hash.  The hash is left alone when no
bytes are copied. -/
def storePayload (csuit : Libcsuit) (args : SuitStoreArgs) (alloc : StoreAlloc)
    (record : ManifestRecord) : Int × ManifestRecord :=
  let name := manifestRecordSetIdsFromComponentId csuit args.dst record.wappName csuit.suitMaxNameLength
  let bin := replaceBin record.wappBin args.srcBuf alloc.bin
  (if bin.1 then 0 else -1,
    { record with
      wappName := name.2
      wappBin := bin.2
      wappHash :=
        if bin.1 && !args.srcBuf.isNullOrEmpty then
          (csuit.suitGenerateSha256 args.srcBuf.data record.wappHash).2
        else record.wappHash })

def storeFields (csuit : Libcsuit) (args : SuitStoreArgs) (alloc : StoreAlloc)
    (record : ManifestRecord) : Int × ManifestRecord :=
  if args.isManifestItself then storeManifest csuit args alloc record
  else storePayload csuit args alloc record

/-- Stores the fields into the record at `index`. -/
def storeAt (csuit : Libcsuit) (args : SuitStoreArgs) (alloc : StoreAlloc) (table : RecordTable)
    (index : Nat) : Int × RecordTable :=
  let stored := storeFields csuit args alloc (table.slot index)
  (stored.1, table.setSlot index stored.2)

/-- The new record at `index`, just taken into use: it is given up again when there is no digest or
the digest cannot be copied. -/
def storeNew (csuit : Libcsuit) (args : SuitStoreArgs) (alloc : StoreAlloc) (table : RecordTable)
    (index : Nat) : Int × RecordTable :=
  if args.manifestDigest.isNullOrEmpty then (-1, manifestRecordRemoveAt table index)
  else if !alloc.digest then (-1, manifestRecordRemoveAt table index)
  else
    let digest := Buffer.bytes args.manifestDigest.data
    storeAt csuit args alloc
      (table.setSlot index { table.slot index with manifestDigest := digest }) index

def tcManagerStoreRecordFromStoreArgs (csuit : Libcsuit) (storeArgs : Option SuitStoreArgs)
    (alloc : StoreAlloc) (table : RecordTable) : Int × RecordTable :=
  match storeArgs with
  | none => (-1, table)
  | some args =>
    if args.operation ≠ .store then (-1, table)
    else
      match manifestRecordFindByDigest table args.manifestDigest with
      | some index => storeAt csuit args alloc table index
      | none =>
        match manifestRecordsAlloc table with
        | none => (-1, table)
        | some (index, allocated) => storeNew csuit args alloc allocated index

/-! ## Finalising, reading and clearing -/

def tcManagerCheckAndUpdateRecord (digest : Buffer) (table : RecordTable) : Int × RecordTable :=
  match manifestRecordFindByDigest table digest with
  | none => (-1, table)
  | some index =>
    if !manifestRecordIsComplete (table.slot index) then (-1, manifestRecordRemoveAt table index)
    else (0, manifestRecordUpdateOrDiscard table index)

def tcManagerFindRecordByDigest (table : RecordTable) (digest : Buffer) : Option ManifestRecord :=
  (manifestRecordFindByDigest table digest).map table.slot

def tcManagerFindRecordByWappname (table : RecordTable) (wappName : Option CString) :
    Option ManifestRecord :=
  (manifestRecordFindByWappName table wappName).map table.slot

def tcManagerRecordCount (table : RecordTable) : Nat := table.len

/-- The `while` loop; `fuel` is the length, which every iteration lowers by one. -/
def removeAllLoop : Nat → RecordTable → RecordTable
  | 0, table => table
  | fuel + 1, table =>
    if table.len > 0 then removeAllLoop fuel (manifestRecordRemoveAt table 0) else table

def tcManagerRemoveAll (table : RecordTable) : RecordTable := removeAllLoop table.len table

/-- `tc_list_item_t` -/
structure TcListItem where
  componentId : CString
  tcImageDigest : Sha256Hash
  deriving DecidableEq

def tcComponentIdMaxLen (csuit : Libcsuit) : Nat := csuit.suitMaxNameLength - 1

/-- The item for one record, `none` where the loop of `tc_manager_get_tc_list` gives up. -/
def tcListItem (csuit : Libcsuit) (record : ManifestRecord) : Option TcListItem :=
  if !manifestRecordIsComplete record then none
  else
    let nameLen := min record.wappName.length csuit.suitMaxNameLength
    if nameLen = 0 || nameLen ≥ csuit.suitMaxNameLength || nameLen > tcComponentIdMaxLen csuit then none
    else some ⟨record.wappName.take nameLen, record.wappHash⟩

def tcListItems (csuit : Libcsuit) : List ManifestRecord → Option (List TcListItem)
  | [] => some []
  | record :: records =>
    match tcListItem csuit record, tcListItems csuit records with
    | some item, some items => some (item :: items)
    | _, _ => none

/-- The return code and the first `*out_count` items; `outItems` and `outCount` say whether the
pointers are not NULL. -/
def tcManagerGetTcList (csuit : Libcsuit) (table : RecordTable) (outItems : Bool) (capacity : Nat)
    (outCount : Bool) : Int × List TcListItem :=
  if !outCount then (-1, [])
  else if capacity = 0 || !outItems then (-1, [])
  else if tcManagerRecordCount table = 0 then (0, [])
  else if capacity < tcManagerRecordCount table then (-1, [])
  else
    match tcListItems csuit ((List.range (tcManagerRecordCount table)).map table.slot) with
    | none => (-1, [])
    | some items => (0, items)

end Taws.TcManager
