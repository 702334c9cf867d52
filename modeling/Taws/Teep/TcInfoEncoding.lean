import Taws.Teep.ComponentIdentity
import Taws.Teep.QueryOutcome

/-!
# The encoding of a tc-info

A tc-info is made in two passes over the same calls of the encoder: one to learn its size, one into a buffer of
that size.  What comes out can be read back, and names the component in the bytes in which
`process_query_request` asks for it.

* `encodeTcInfoMap`, `encodeRequestedComponentId` — the calls, and the items that they encode.
* `Qcbor.CountsBytes` — what the size-only mode is for.
* `CarriesTcInfo`, `NamedLikeRequest` — what the bytes say, and where the TAM finds the requested name in them.
* `tcInfo_roundTrip` — both of them hold of every tc-info that is built.
-/

namespace Taws.Teep

open TcManager

/-! ## The calls -/

inductive QcborCall where
  | openMap
  | closeMap
  | openArray
  | closeArray
  | bstrWrap
  | closeBstrWrap
  | addInt64 (value : Int)
  | addBytes (data : Bytes)

/-- `QCBOREncode_OpenArrayInMapN` -/
def openArrayInMapN (label : Int) : List QcborCall := [.addInt64 label, .openArray]

/-- `QCBOREncode_BstrWrapInMapN` -/
def bstrWrapInMapN (label : Int) : List QcborCall := [.addInt64 label, .bstrWrap]

def kSuitParameterComponentId : Int := 0
def kSuitParameterImageDigest : Int := 3
def kSuitDigestAlgorithmSha256 : Int := -16

def encodeTcInfoMap (item : TcListItem) (componentIdLen : Nat) : List QcborCall :=
  .openMap :: openArrayInMapN kSuitParameterComponentId ++
    [.addBytes (item.componentId.take componentIdLen), .closeArray] ++
    bstrWrapInMapN kSuitParameterImageDigest ++
    [.openArray, .addInt64 kSuitDigestAlgorithmSha256, .addBytes item.tcImageDigest.toList, .closeArray,
      .closeBstrWrap, .closeMap]

/-- The calls of `process_query_request` for `requested_tc_list`. -/
def encodeRequestedComponentId (appName : CString) : List QcborCall :=
  [.openArray, .addBytes appName, .closeArray]

/-! ## What they encode -/

inductive Container where
  | map
  | array
  | bstr
  deriving DecidableEq

/-- The items of the innermost open container, and for each open one, innermost first, what it is and the
items that stand before it. -/
structure QcborEncodeContext where
  items : List Cbor.Item
  opened : List (Container × List Cbor.Item)

/-- In a map, labels and values take turns. -/
def mapEntries : List Cbor.Item → Option (List (Cbor.Item × Cbor.Item))
  | [] => some []
  | [_] => none
  | label :: value :: items => (mapEntries items).map ((label, value) :: ·)

/-- A closed container; what is wrapped in a byte string is encoded first. -/
def Container.item (items : List Cbor.Item) : Container → Option Cbor.Item
  | .map => (mapEntries items).map .map
  | .array => some (.array items)
  | .bstr => some (.bytes (Cbor.encodeItems items))

def int64Item (value : Int) : Cbor.Item :=
  if value < 0 then .negative (-1 - value).toNat else .unsigned value.toNat

namespace QcborEncodeContext

def init : QcborEncodeContext := ⟨[], []⟩

def add (context : QcborEncodeContext) (item : Cbor.Item) : QcborEncodeContext :=
  { context with items := context.items ++ [item] }

def openContainer (context : QcborEncodeContext) (container : Container) : QcborEncodeContext :=
  ⟨[], (container, context.items) :: context.opened⟩

/-- Only the innermost container can be closed. -/
def closeContainer (context : QcborEncodeContext) (container : Container) : Option QcborEncodeContext :=
  match context.opened with
  | [] => none
  | (innermost, before) :: opened =>
    if innermost = container then (container.item context.items).map fun item => ⟨before ++ [item], opened⟩
    else none

def call (context : QcborEncodeContext) : QcborCall → Option QcborEncodeContext
  | .openMap => some (context.openContainer .map)
  | .closeMap => context.closeContainer .map
  | .openArray => some (context.openContainer .array)
  | .closeArray => context.closeContainer .array
  | .bstrWrap => some (context.openContainer .bstr)
  | .closeBstrWrap => context.closeContainer .bstr
  | .addInt64 value => some (context.add (int64Item value))
  | .addBytes data => some (context.add (.bytes data))

/-- The one item that has been added, when everything is closed. -/
def finished (context : QcborEncodeContext) : Option Cbor.Item :=
  match context.opened, context.items with
  | [], [item] => some item
  | _, _ => none

end QcborEncodeContext

/-- The item that the calls encode, `none` where the encoder reports an error. -/
def encodedItem (calls : List QcborCall) : Option Cbor.Item :=
  (calls.foldlM QcborEncodeContext.call QcborEncodeContext.init).bind QcborEncodeContext.finished

theorem encodedItem_tcInfo (item : TcListItem) :
    encodedItem (encodeTcInfoMap item item.componentId.length) = some (tcInfoMap item) := by
  have wrapped : Cbor.encodeItems [.array [.negative 15, .bytes item.tcImageDigest.toList]] =
      Cbor.encode (.array [.negative 15, .bytes item.tcImageDigest.toList]) := List.append_nil _
  rw [encodeTcInfoMap, List.take_length, tcInfoMap, ← wrapped]
  -- what is left is running the calls
  rfl

theorem encodedItem_requested (appName : CString) :
    encodedItem (encodeRequestedComponentId appName) = some (.array [.bytes appName]) := rfl

/-! ## Reading back -/

/-- The size-only mode counts the bytes of the encoding, and a buffer of that size holds them. -/
structure Qcbor.CountsBytes (qcbor : Qcbor) : Prop where
  size : ∀ item size, qcbor.finishGetSize item = some size → size = (Cbor.encode item).length
  fits : ∀ item size, qcbor.finishGetSize item = some size → qcbor.finish item size ≠ none

/-- The bytes are the map `{0: [component_id], 3: << [-16, digest] >>}` of the item and nothing more. -/
def CarriesTcInfo (encoded : Bytes) (item : TcListItem) : Prop :=
  ∃ wrapped,
    Cbor.decode encoded = some (.map
      [(.unsigned 0, .array [.bytes item.componentId]), (.unsigned 3, .bytes wrapped)], []) ∧
    Cbor.decode wrapped = some (.array [.negative 15, .bytes item.tcImageDigest.toList], [])

/-- Behind the head of the map and the label 0, the bytes go on with `requested`, and the item that is read
there ends where `requested` does. -/
def NamedLikeRequest (encoded requested : Bytes) (componentId : CString) : Prop :=
  ∃ rest, encoded = 0xa2 :: 0x00 :: (requested ++ rest) ∧
    Cbor.decode (requested ++ rest) = some (.array [.bytes componentId], rest)

theorem carriesTcInfo_encode {item : TcListItem} (sized : item.componentId.length < 2 ^ 64) :
    CarriesTcInfo (Cbor.encode (tcInfoMap item)) item := by
  have outer := Cbor.decode_encode (sized_tcInfo sized) []
  have inner := Cbor.decode_encode (sized_digest item.tcImageDigest) []
  rw [List.append_nil] at outer inner
  exact ⟨_, outer, inner⟩

theorem CarriesTcInfo.unique {encoded : Bytes} {first second : TcListItem} (one : CarriesTcInfo encoded first)
    (other : CarriesTcInfo encoded second) : first = second := by
  obtain ⟨wrapped, outer, inner⟩ := one
  obtain ⟨wrapped', outer', inner'⟩ := other
  rw [outer] at outer'
  simp only [Option.some.injEq, Prod.mk.injEq, Cbor.Item.map.injEq, List.cons.injEq, Cbor.Item.array.injEq,
    Cbor.Item.bytes.injEq, true_and, and_true] at outer'
  obtain ⟨name, rfl⟩ := outer'
  rw [inner] at inner'
  simp only [Option.some.injEq, Prod.mk.injEq, List.cons.injEq, Cbor.Item.array.injEq,
    Cbor.Item.bytes.injEq, true_and, and_true] at inner'
  obtain ⟨firstName, firstDigest⟩ := first
  obtain ⟨secondName, secondDigest⟩ := second
  obtain rfl : firstName = secondName := name
  obtain rfl : firstDigest = secondDigest := Vector.toList_inj.mp inner'
  rfl

theorem namedLikeRequest_encode {item : TcListItem} (sized : item.componentId.length < 2 ^ 64) :
    NamedLikeRequest (Cbor.encode (tcInfoMap item)) (Cbor.encode (.array [.bytes item.componentId]))
      item.componentId := by
  have nameSized : Cbor.Sized (.array [.bytes item.componentId]) := by
    simpa [Cbor.Sized, Cbor.SizedItems] using sized
  exact ⟨_, rfl, Cbor.decode_encode nameSized _⟩

/-! ## What is built -/

variable {lib : Libraries} {env : QueryEnv} {queryRequest : TeepQueryRequest} {appName : Option CString}
  {keyPair : TeepKey} {table : RecordTable} {workBuf : Nat} {response : TeepQueryResponse}

theorem buildTcInfo_inRange {item : TcListItem} {block : Option Block} {info : TcInfo}
    (built : (buildTcInfoCborFromTcListItem lib block item).1 = some info) :
    item.componentId.length ≤ tcComponentIdMaxLen lib.csuit := by
  simp only [buildTcInfoCborFromTcListItem] at built
  split at built
  · cases built
  · next inRange =>
    simp only [Bool.or_eq_true, decide_eq_true_eq, not_or] at inRange
    omega

/-! ## What is requested -/

theorem trustedComponentsStep_requested (preferred : lib.qcbor.PreferredSerialisation)
    (asks : queryRequest.dataItemRequested.trustedComponents = true) {built : TeepQueryResponse} {tmpLen : Nat}
    (ok : (trustedComponentsStep lib env queryRequest appName table built tmpLen).1 = .ok response) :
    ∃ name, appName = some name ∧ response.requestedTcList = [Cbor.encode (.array [.bytes name])] := by
  simp only [trustedComponentsStep, asks, Bool.not_true, Bool.false_eq_true, if_false] at ok
  split at ok
  · cases ok
  next name =>
  split at ok
  · cases ok
  split at ok
  · cases ok
  next encoded finished =>
  obtain ⟨contains, tcList, rfl, -⟩ := tcListStep_keeps ok
  exact ⟨name, rfl, by rw [preferred _ _ _ finished]⟩

/-- A QueryResponse to a request for trusted components asks for the encoding of the app name. -/
theorem queryResponse_requested (preferred : lib.qcbor.PreferredSerialisation)
    (asks : queryRequest.dataItemRequested.trustedComponents = true)
    (answered : (processQueryRequest lib env queryRequest workBuf appName keyPair table).2.1 =
      .queryResponse response) :
    ∃ name, appName = some name ∧ response.requestedTcList = [Cbor.encode (.array [.bytes name])] := by
  rw [processQueryRequest_built] at answered
  split at answered
  · cases answered
  next queryResponse built =>
  cases answered
  simp only [buildQueryResponse, requestedItems] at built
  split at built
  · cases built
  split at built
  · cases built
  split at built
  · cases built
  exact trustedComponentsStep_requested preferred asks built

/-! ## The round trip -/

/-- What is built from an item comes out as long as the size pass says and can be read back, so no other item
is built into the same bytes; and the TAM finds the component in it in the bytes in which a QueryResponse of
the same app name asks for it. -/
theorem tcInfo_roundTrip (lib : Libraries) (preferred : lib.qcbor.PreferredSerialisation)
    (counts : lib.qcbor.CountsBytes) (nameLength : lib.csuit.suitMaxNameLength < 2 ^ 64) (item : TcListItem)
    (named : item.componentId ≠ []) (fits : item.componentId.length ≤ tcComponentIdMaxLen lib.csuit)
    {size : Nat} (isSize : lib.qcbor.finishGetSize (tcInfoMap item) = some size) (block : Block) :
    ∃ encoded, (buildTcInfoCborFromTcListItem lib (some block) item).1 = some ⟨block, encoded⟩ ∧
      encoded.length = size ∧
      CarriesTcInfo encoded item ∧
      (∀ other otherBlock, (buildTcInfoCborFromTcListItem lib otherBlock other).1.map TcInfo.encoded = some encoded →
        other = item) ∧
      ∀ env queryRequest workBuf keyPair table response,
        queryRequest.dataItemRequested.trustedComponents = true →
        (processQueryRequest lib env queryRequest workBuf (some item.componentId) keyPair table).2.1 =
          .queryResponse response →
        ∃ requested, response.requestedTcList = [requested] ∧ NamedLikeRequest encoded requested item.componentId := by
  have counted := counts.size _ _ isSize
  have small : ∀ item : TcListItem, item.componentId.length ≤ tcComponentIdMaxLen lib.csuit →
      item.componentId.length < 2 ^ 64 := by
    unfold tcComponentIdMaxLen
    omega
  have sized := small item fits
  have positive : size ≠ 0 := by
    have length := Cbor.encode_length_pos (tcInfoMap item)
    omega
  obtain ⟨encoded, finished⟩ := Option.ne_none_iff_exists'.mp (counts.fits _ _ isSize)
  have built := buildTcInfo_finished named fits isSize positive finished block
  obtain rfl := preferred _ _ _ finished
  refine ⟨_, built, counted.symm, carriesTcInfo_encode sized, ?_, ?_⟩
  · intro other otherBlock same
    obtain ⟨info, otherBuilt, encoded⟩ := Option.map_eq_some_iff.mp same
    rw [buildTcInfo_encoded preferred otherBuilt] at encoded
    have carries := carriesTcInfo_encode (small other (buildTcInfo_inRange otherBuilt))
    rw [encoded] at carries
    exact carries.unique (carriesTcInfo_encode sized)
  · intro env queryRequest workBuf keyPair table response asks answered
    obtain ⟨name, sameName, requested⟩ := queryResponse_requested preferred asks answered
    cases sameName
    exact ⟨_, requested, namedLikeRequest_encode sized⟩

theorem referenceQcbor_countsBytes : referenceQcbor.CountsBytes where
  size := by
    intro item size isSize
    exact (Option.some.inj isSize).symm
  fits := by
    intro item size isSize
    cases isSize
    simp [referenceQcbor]

/-- The shortest name with a head of two bytes. -/
def longNamed : TcListItem := ⟨List.replicate 24 97, smallSha256 []⟩

def longNamedAnswer : TeepMessage :=
  (processQueryRequest smallLibraries workingQuery trustedComponentsRequest workBufLen (some longNamed.componentId)
    ⟨.null 0⟩ SlotTable.empty).2.1

theorem tcInfo_roundTrip_longName :
    ∃ encoded, (buildTcInfoCborFromTcListItem smallLibraries (some 9) longNamed).1 = some ⟨9, encoded⟩ ∧
      encoded.length = 68 ∧ CarriesTcInfo encoded longNamed ∧
      ∃ response requested, longNamedAnswer = .queryResponse response ∧
        response.requestedTcList = [requested] ∧ NamedLikeRequest encoded requested longNamed.componentId := by
  obtain ⟨encoded, built, length, carries, -, named⟩ := tcInfo_roundTrip smallLibraries
    referenceQcbor_preferredSerialisation referenceQcbor_countsBytes (by decide) longNamed (by decide) (by decide)
    (show _ = some 68 by decide +kernel) 9
  refine ⟨encoded, built, length, carries, ?_⟩
  have isResponse : longNamedAnswer.isQueryResponse = true := by decide +kernel
  cases answered : longNamedAnswer with
  | queryResponse response =>
    obtain ⟨requested, only, like⟩ := named workingQuery trustedComponentsRequest workBufLen ⟨.null 0⟩ SlotTable.empty
      response rfl answered
    exact ⟨response, requested, rfl, only, like⟩
  | error _ | success _ | other =>
    rw [answered] at isResponse
    cases isResponse

end Taws.Teep
