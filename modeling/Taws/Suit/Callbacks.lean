import Taws.TcManager.Table

/-!
# The SUIT callbacks of `suit_processor_wrapper.cpp`

libcsuit calls these while it processes an envelope.  They act on the record table and on
`g_suit_report`.

* `wrapSuitStoreCallback`, `wrapSuitConditionCallback`, `wrapSuitReportCallback`, `wrapSuitInvokeCallback`
* `SuitCallback`, `runCallback`, `runCallbacks` — any sequence of them.
-/

namespace Taws.Suit

open TcManager

inductive SuitCondition where
  | imageMatch
  | other (key : Int)
  deriving DecidableEq

inductive SuitParameter where
  | imageSize
  | imageDigest
  deriving DecidableEq

inductive SuitReportReason where
  | componentUnsupported
  | conditionFailed
  | cborParse
  deriving DecidableEq

/-- `suit_condition_args_t` -/
structure SuitConditionArgs where
  manifestDigest : Buffer
  condition : SuitCondition
  expectedU64 : UInt64
  expectedStr : Buffer
  deriving DecidableEq

/-- `suit_callback_ret_t`; a field the callback has not written is `none`. -/
structure SuitCallbackRet where
  firstConsumedKey : Option SuitParameter := none
  secondConsumedKey : Option SuitParameter := none
  reason : Option SuitReportReason := none
  deriving DecidableEq

/-- `SUIT_ALGORITHM_ID_SHA256` -/
def suitAlgorithmIdSha256 : Int := -16

/-- What the callbacks act on: the record table and `g_suit_report`. -/
structure SuitState where
  table : RecordTable
  suitReport : Buffer
  deriving DecidableEq

def suitGetSuitReport (state : SuitState) : Buffer := state.suitReport

def wrapSuitStoreCallback (csuit : Libcsuit) (storeArgs : SuitStoreArgs) (alloc : StoreAlloc)
    (table : RecordTable) : SuitErr × RecordTable :=
  if storeArgs.operation = .store then
    let stored := tcManagerStoreRecordFromStoreArgs csuit (some storeArgs) alloc table
    (if stored.1 ≠ 0 then .fatal else .success, stored.2)
  else (.success, table)

def wrapSuitInvokeCallback : SuitErr := .success

/-- The branch for `SUIT_CONDITION_IMAGE_MATCH`. -/
def imageMatch (csuit : Libcsuit) (args : SuitConditionArgs) (record : ManifestRecord)
    (ret : SuitCallbackRet) : SuitErr × SuitCallbackRet :=
  let wappBinSize := record.wappBin.len
  if wappBinSize = 0 then (.conditionMismatch, { ret with reason := some .componentUnsupported })
  else if args.expectedU64 ≠ 0 ∧ wappBinSize ≠ args.expectedU64.toNat then
    (.conditionMismatch,
      { ret with firstConsumedKey := some .imageSize, reason := some .conditionFailed })
  else
    match csuit.suitDecodeDigest args.expectedStr with
    | .error code => (code, { ret with reason := some .cborParse })
    | .ok digest =>
      if digest.algorithmId ≠ suitAlgorithmIdSha256 ∨ digest.bytes.length ≠ sha256DigestLength then
        (.notImplemented, { ret with reason := some .componentUnsupported })
      else
        -- the size counts as consumed also where none was expected
        let consumed := { ret with
          firstConsumedKey := some .imageSize
          secondConsumedKey := some .imageDigest }
        if digest.bytes = record.wappHash.toList then (.success, consumed)
        else (.conditionMismatch, { consumed with reason := some .conditionFailed })

/-- `conditionRet` is `none` where the pointer is NULL. -/
def wrapSuitConditionCallback (csuit : Libcsuit) (args : SuitConditionArgs)
    (conditionRet : Option SuitCallbackRet) (table : RecordTable) : SuitErr × Option SuitCallbackRet :=
  match conditionRet with
  | none => (.invalidValue, none)
  | some ret =>
    match tcManagerFindRecordByDigest table args.manifestDigest with
    | none => (.fatal, some { ret with reason := some .componentUnsupported })
    | some record =>
      if args.condition = .imageMatch then
        let matched := imageMatch csuit args record ret
        (matched.1, some matched.2)
      else (.success, some ret)

/-- A report that is not empty replaces the stored one, which is released first; `malloc` says whether
the copy can be allocated. -/
def wrapSuitReportCallback (suitReport : Buffer) (malloc : Bool) (stored : Buffer) : SuitErr × Buffer :=
  if suitReport.isNullOrEmpty then (.success, stored)
  else if !malloc then (.noMemory, .null 0)
  else (.success, .bytes suitReport.data)

/-- One callback of libcsuit, with the outcomes of its allocations. -/
inductive SuitCallback where
  | store (args : SuitStoreArgs) (alloc : StoreAlloc)
  | condition (args : SuitConditionArgs) (ret : Option SuitCallbackRet)
  | report (suitReport : Buffer) (malloc : Bool)
  | invoke
  deriving DecidableEq

def runCallback (csuit : Libcsuit) (callback : SuitCallback) (state : SuitState) : SuitErr × SuitState :=
  match callback with
  | .store args alloc =>
    let stored := wrapSuitStoreCallback csuit args alloc state.table
    (stored.1, { state with table := stored.2 })
  | .condition args ret => ((wrapSuitConditionCallback csuit args ret state.table).1, state)
  | .report suitReport malloc =>
    let reported := wrapSuitReportCallback suitReport malloc state.suitReport
    (reported.1, { state with suitReport := reported.2 })
  | .invoke => (wrapSuitInvokeCallback, state)

/-- The callbacks one after the other, each paired with what it returned. -/
def runCallbacks (csuit : Libcsuit) : List SuitCallback → SuitState → List (SuitCallback × SuitErr) × SuitState
  | [], state => ([], state)
  | callback :: callbacks, state =>
    let ran := runCallback csuit callback state
    let rest := runCallbacks csuit callbacks ran.2
    ((callback, ran.1) :: rest.1, rest.2)

end Taws.Suit
