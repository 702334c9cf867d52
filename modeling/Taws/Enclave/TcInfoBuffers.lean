import Taws.Ledger
import Taws.Enclave.Exits
import Taws.Teep.QueryOutcome

/-!
# What a QueryRequest allocates

The tc-infos of a response are heap blocks.  They are counted in `tc_list.len` only once all of them have
been built, and freed by that count; so a failure frees none of them.  A failure of the first leaves none,
a failure of any later one leaks those before it.

* `TcInfoBuffersReleased` — what it means to release the blocks correctly.
* `TcInfoBuilds`, `buildTcInfos_loop` — how far the loop comes.
* `TcInfosLeak`, `buildQueryResponse_leaves` — what an error leaves behind.
* `tcInfoBuffers_released_iff` — the requests that are handled without a leak.
-/

namespace Taws.Enclave

open TcManager
open Teep

/-! ## The heap in a trace -/

def heapEntry : Event → Option (LedgerEntry Block)
  | .allocated block => some (.acquired block)
  | .freed block => some (.released block)
  | _ => none

theorem filterMap_built (message : TeepMessage) : [Event.built message].filterMap heapEntry = [] := rfl

/-- What the encoder is given when the event happens refers to live blocks only. -/
def ReadsLive (before : List Event) (event : Event) : Prop :=
  ∀ response, event = .built (.queryResponse response) ∨
      (∃ cbor, event = .encoded cbor) ∧ .built (.queryResponse response) ∈ before →
    ∃ live, Ledger.replay ∅ (before.filterMap heapEntry) = some live ∧
      ∀ info ∈ response.tcList, info.block ∈ live

/-- Every block is freed exactly once, and no freed block is encoded. -/
structure TcInfoBuffersReleased (events : List Event) : Prop where
  released : Ledger.replay ∅ (events.filterMap heapEntry) = some ∅
  referenced : EveryEvent ReadsLive [] events

/-- The blocks are what is left after the events. -/
def Holds (blocks : List Block) (events : List Event) : Prop :=
  blocks.Nodup ∧ Ledger.replay ∅ (events.filterMap heapEntry) = some blocks.toFinset

/-- `malloc` does not return a block that has not been freed. -/
structure FreshBlocks (env : QueryEnv) : Prop where
  evidence : ∀ block, env.evidence.quoteBuf = some block → env.evidence.rawReportDataBuf ≠ some block
  items : ∀ index block, env.tcListItems = some block → env.tcInfoBuf index ≠ some block
  infos : ∀ index other block, env.tcInfoBuf index = some block → env.tcInfoBuf other = some block →
    index = other

/-! ## The loop -/

/-- The tc-info of the item can be built in the block that is allocated for it. -/
structure TcInfoBuilds (lib : Libraries) (tcInfoBuf : Option Block) (item : TcListItem) : Prop where
  named : item.componentId ≠ []
  short : item.componentId.length ≤ tcComponentIdMaxLen lib.csuit
  allocated : tcInfoBuf ≠ none
  encodes : ∃ size, lib.qcbor.finishGetSize (tcInfoMap item) = some size ∧ size ≠ 0 ∧
    lib.qcbor.finish (tcInfoMap item) size ≠ none

variable {lib : Libraries}

/-- Nothing is left of a tc-info that cannot be built. -/
theorem buildTcInfo_cases (lib : Libraries) (tcInfoBuf : Option Block) (item : TcListItem) :
    (TcInfoBuilds lib tcInfoBuf item ∧ ∃ block encoded, tcInfoBuf = some block ∧
      buildTcInfoCborFromTcListItem lib tcInfoBuf item = (some ⟨block, encoded⟩, [.allocated block])) ∨
    (¬ TcInfoBuilds lib tcInfoBuf item ∧ ∃ events,
      buildTcInfoCborFromTcListItem lib tcInfoBuf item = (none, events) ∧
      (events = [] ∨ ∃ block, tcInfoBuf = some block ∧ events = [.allocated block, .freed block])) := by
  have named : (min item.componentId.length (tcComponentIdMaxLen lib.csuit + 1) = 0 ||
      min item.componentId.length (tcComponentIdMaxLen lib.csuit + 1) > tcComponentIdMaxLen lib.csuit) = true ↔
        ¬ (item.componentId ≠ [] ∧ item.componentId.length ≤ tcComponentIdMaxLen lib.csuit) := by
    rw [Bool.or_eq_true, decide_eq_true_eq, decide_eq_true_eq, ← List.length_pos_iff]
    omega
  simp only [buildTcInfoCborFromTcListItem, named]
  split
  · next unnamed =>
    exact .inr ⟨fun builds => unnamed ⟨builds.named, builds.short⟩, [], rfl, .inl rfl⟩
  next nameFits =>
  cases sized : lib.qcbor.finishGetSize (tcInfoMap item) with
  | none =>
    refine .inr ⟨fun builds => ?_, [], rfl, .inl rfl⟩
    obtain ⟨size, hasSize, _⟩ := builds.encodes
    cases sized.symm.trans hasSize
  | some tcInfoBufLen =>
    simp only
    split
    · next isEmpty =>
      refine .inr ⟨fun builds => ?_, [], rfl, .inl rfl⟩
      obtain ⟨size, hasSize, positive, _⟩ := builds.encodes
      rw [sized, Option.some.injEq] at hasSize
      exact positive (hasSize.symm.trans isEmpty)
    next notEmpty =>
    cases tcInfoBuf with
    | none => exact .inr ⟨fun builds => builds.allocated rfl, [], rfl, .inl rfl⟩
    | some block =>
      cases finished : lib.qcbor.finish (tcInfoMap item) tcInfoBufLen with
      | none =>
        refine .inr ⟨fun builds => ?_, _, rfl, .inr ⟨block, rfl, rfl⟩⟩
        obtain ⟨size, hasSize, _, encodes⟩ := builds.encodes
        rw [sized, Option.some.injEq] at hasSize
        exact encodes (hasSize ▸ finished)
      | some encoded =>
        have accepted := not_not.mp nameFits
        have builds : TcInfoBuilds lib (some block) item :=
          { named := accepted.1
            short := accepted.2
            allocated := by simp
            encodes := ⟨_, sized, notEmpty, by simp [finished]⟩ }
        exact .inl ⟨builds, block, encoded, rfl, rfl⟩

/-- The blocks that the loop from `index` on leaves allocated, in a heap where none of its blocks is live. -/
structure LoopBlocks (tcInfoBuf : Nat → Option Block) (index : Nat) (blocks : List Block)
    (events : List Event) : Prop where
  buffers : ∀ block ∈ blocks, ∃ later, index ≤ later ∧ tcInfoBuf later = some block
  nodup : blocks.Nodup
  replays : ∀ live : Finset Block,
    (∀ later block, index ≤ later → tcInfoBuf later = some block → block ∉ live) →
    Ledger.replay live (events.filterMap heapEntry) = some (live ∪ blocks.toFinset)

variable {tcInfoBuf : Nat → Option Block} {index : Nat} {blocks : List Block} {events : List Event}

theorem LoopBlocks.stopped (tcInfoBuf : Nat → Option Block) (index : Nat)
    (nothing : events = [] ∨ ∃ block, tcInfoBuf index = some block ∧ events = [.allocated block, .freed block]) :
    LoopBlocks tcInfoBuf index [] events where
  buffers := by simp
  nodup := List.nodup_nil
  replays := by
    intro live fresh
    rw [List.toFinset_nil, Finset.union_empty]
    obtain rfl | ⟨block, buffer, rfl⟩ := nothing
    · rfl
    · exact Ledger.replay_bracket (fresh index block (Nat.le_refl _) buffer) (Ledger.replay_nil _)

theorem LoopBlocks.cons {block : Block}
    (distinct : ∀ index other block, tcInfoBuf index = some block → tcInfoBuf other = some block → index = other)
    (buffer : tcInfoBuf index = some block) (loop : LoopBlocks tcInfoBuf (index + 1) blocks events) :
    LoopBlocks tcInfoBuf index (block :: blocks) (.allocated block :: events) where
  buffers := by
    intro other member
    cases List.mem_cons.mp member with
    | inl same => exact ⟨index, Nat.le_refl _, same ▸ buffer⟩
    | inr inTail =>
      obtain ⟨later, after, buffer⟩ := loop.buffers other inTail
      exact ⟨later, Nat.le_of_succ_le after, buffer⟩
  nodup := by
    refine List.nodup_cons.mpr ⟨?_, loop.nodup⟩
    intro member
    obtain ⟨later, after, sameBuffer⟩ := loop.buffers block member
    have same := distinct _ _ _ buffer sameBuffer
    omega
  replays := by
    intro live fresh
    have new := fresh index block (Nat.le_refl _) buffer
    have tailFresh : ∀ later other, index + 1 ≤ later → tcInfoBuf later = some other →
        other ∉ insert block live := by
      intro later other after otherBuffer member
      cases Finset.mem_insert.mp member with
      | inl same =>
        have sameIndex := distinct _ _ _ buffer (same ▸ otherBuffer)
        omega
      | inr isLive => exact fresh later other (Nat.le_of_succ_le after) otherBuffer isLive
    rw [List.filterMap_cons_some (f := heapEntry) rfl, Ledger.replay_acquired new, loop.replays _ tailFresh,
      List.toFinset_cons, Finset.union_insert, Finset.insert_union]

/-- The loop ends with all tc-infos, or at the first that cannot be built. -/
theorem buildTcInfos_loop (lib : Libraries)
    (distinct : ∀ index other block, tcInfoBuf index = some block → tcInfoBuf other = some block → index = other)
    (index : Nat) (items : List TcListItem) :
    ∃ blocks, LoopBlocks tcInfoBuf index blocks (buildTcInfos lib tcInfoBuf index items).2 ∧
      (∀ infos, (buildTcInfos lib tcInfoBuf index items).1 = some infos →
        blocks = infos.map (·.block) ∧
          ∀ position item, items[position]? = some item → TcInfoBuilds lib (tcInfoBuf (index + position)) item) ∧
      ((buildTcInfos lib tcInfoBuf index items).1 = none →
        (blocks ≠ [] ↔ ∃ item, items.head? = some item ∧ TcInfoBuilds lib (tcInfoBuf index) item) ∧
          ∃ position item, items[position]? = some item ∧
            ¬ TcInfoBuilds lib (tcInfoBuf (index + position)) item) := by
  induction items generalizing index with
  | nil =>
    refine ⟨[], .stopped _ _ (.inl rfl), ?_, by simp [buildTcInfos]⟩
    intro infos built
    cases built
    exact ⟨rfl, by simp⟩
  | cons item items inductionHypothesis =>
    obtain ⟨builds, block, encoded, buffer, built⟩ | ⟨fails, events, built, nothing⟩ :=
      buildTcInfo_cases lib (tcInfoBuf index) item
    -- the buffer of this item stays allocated, however the later ones end
    · obtain ⟨blocks, loop, finished, stopped⟩ := inductionHypothesis (index + 1)
      have shift : ∀ position, index + 1 + position = index + (position + 1) := by
        intro position
        omega
      refine ⟨block :: blocks, ?_⟩
      simp only [buildTcInfos, built]
      rcases tail : buildTcInfos lib tcInfoBuf (index + 1) items with ⟨rest, later⟩
      rw [tail] at loop finished stopped
      have extended := loop.cons distinct buffer
      cases rest with
      | none =>
        obtain ⟨_, position, failing, found, fails⟩ := stopped rfl
        refine ⟨extended, by simp, fun _ => ⟨?_, position + 1, failing, found, ?_⟩⟩
        · simp [builds]
        · rw [← shift]
          exact fails
      | some infos =>
        obtain ⟨same, all⟩ := finished infos rfl
        refine ⟨extended, ?_, by simp⟩
        intro infos' isInfos
        cases isInfos
        refine ⟨by rw [same]; rfl, ?_⟩
        intro position other found
        cases position with
        | zero =>
          cases found
          exact builds
        | succ position =>
          rw [← shift]
          exact all position other found
    -- the item that fails frees its own buffer
    · refine ⟨[], ?_⟩
      simp only [buildTcInfos, built]
      refine ⟨.stopped _ _ nothing, by simp, fun _ => ⟨?_, 0, item, rfl, fails⟩⟩
      simp [fails]

/-! ## The whole response -/

theorem holds_nil : Holds [] [] := ⟨List.nodup_nil, rfl⟩

/-- The temporary list is held for as long as the loop runs. -/
theorem LoopBlocks.holds {items : Block} (loop : LoopBlocks tcInfoBuf 0 blocks events)
    (distinct : ∀ index, tcInfoBuf index ≠ some items) :
    Holds blocks (.allocated items :: events ++ [.freed items]) := by
  refine ⟨loop.nodup, ?_⟩
  have new : items ∉ (∅ : Finset Block) := by simp
  have apart : items ∉ (∅ : Finset Block) ∪ blocks.toFinset := by
    rw [Finset.empty_union, List.mem_toFinset]
    intro member
    obtain ⟨later, _, buffer⟩ := loop.buffers items member
    exact distinct later buffer
  have looped := loop.replays (insert items ∅) (by
    intro later block _ buffer member
    rw [insert_empty_eq, Finset.mem_singleton] at member
    exact distinct later (member ▸ buffer))
  rw [List.cons_append, List.filterMap_cons_some (f := heapEntry) rfl, List.filterMap_append,
    Ledger.replay_acquired new, Ledger.replay_append_of looped, Finset.insert_union]
  show Ledger.replay _ [.released items] = _
  rw [Ledger.replay_released (Finset.mem_insert_self _ _), Finset.erase_insert apart, Ledger.replay_nil,
    Finset.empty_union]

def tcBlocks (response : TeepQueryResponse) : List Block := response.tcList.map (·.block)

/-- The loop is reached with the items of all records. -/
structure ListsItems (lib : Libraries) (env : QueryEnv) (table : RecordTable) (items : List TcListItem) :
    Prop where
  inUse : tcManagerRecordCount table ≠ 0
  room : tcManagerRecordCount table ≤ lib.teep.tcListCapacity
  temporary : env.tcListItems ≠ none
  exported : tcListItems lib.csuit ((List.range (tcManagerRecordCount table)).map table.slot) = some items

/-- The tc-info of the first record can be built, and that of another one cannot. -/
def TcInfosLeak (lib : Libraries) (env : QueryEnv) (table : RecordTable) : Prop :=
  ∃ items, ListsItems lib env table items ∧
    (∃ first, items.head? = some first ∧ TcInfoBuilds lib (env.tcInfoBuf 0) first) ∧
    ∃ index item, items[index]? = some item ∧ ¬ TcInfoBuilds lib (env.tcInfoBuf index) item

/-- A response holds its tc-infos and nothing else; an error holds nothing, unless it leaks. -/
def Leaves (leaks : Prop) (result : Except TeepErrCode TeepQueryResponse) (events : List Event) : Prop :=
  ∃ held, Holds held events ∧ (∀ response, result = .ok response → held = tcBlocks response ∧ ¬ leaks) ∧
    ∀ code, result = .error code → (held ≠ [] ↔ leaks)

variable {env : QueryEnv} {table : RecordTable} {queryResponse : TeepQueryResponse} {leaks : Prop}

theorem Leaves.error {code : TeepErrCode} (holds : Holds [] events) (noLeak : ¬ leaks) :
    Leaves leaks (.error code) events :=
  ⟨[], holds, by simp, fun _ _ => ⟨fun held => absurd rfl held, fun leak => absurd leak noLeak⟩⟩

theorem Leaves.ok (holds : Holds (tcBlocks queryResponse) events) (noLeak : ¬ leaks) :
    Leaves leaks (.ok queryResponse) events := by
  refine ⟨_, holds, ?_, by simp⟩
  intro response same
  cases same
  exact ⟨rfl, noLeak⟩

theorem Leaves.congr {leaks' : Prop} {result : Except TeepErrCode TeepQueryResponse}
    (leaves : Leaves leaks result events) (same : leaks ↔ leaks') : Leaves leaks' result events := by
  rw [← same]
  exact leaves

theorem tcManagerGetTcList_all (csuit : Libcsuit) (inUse : tcManagerRecordCount table ≠ 0) :
    tcManagerGetTcList csuit table true (tcManagerRecordCount table) true =
      (tcListItems csuit ((List.range (tcManagerRecordCount table)).map table.slot)).elim (-1, [])
        fun items => (0, items) := by
  simp only [tcManagerGetTcList, inUse, Nat.lt_irrefl, Bool.not_true, Bool.or_false, decide_false,
    Bool.false_eq_true, if_false]
  cases tcListItems csuit ((List.range (tcManagerRecordCount table)).map table.slot) <;> rfl

/-- Once the records are listed: the loop ends with all tc-infos, or it leaks those before the first that
cannot be built. -/
theorem listed_leaves (fresh : FreshBlocks env) {items : Block} (temporary : env.tcListItems = some items)
    {listed : List TcListItem} (lists : ListsItems lib env table listed) :
    ∃ held, Holds held
        (.allocated items :: (buildTcInfos lib env.tcInfoBuf 0 listed).2 ++ [.freed items]) ∧
      (∀ infos, (buildTcInfos lib env.tcInfoBuf 0 listed).1 = some infos →
        held = infos.map (·.block) ∧ ¬ TcInfosLeak lib env table) ∧
      ((buildTcInfos lib env.tcInfoBuf 0 listed).1 = none → (held ≠ [] ↔ TcInfosLeak lib env table)) := by
  obtain ⟨blocks, loop, finished, stopped⟩ := buildTcInfos_loop lib fresh.infos 0 listed
  have holds := loop.holds fun index => fresh.items index items temporary
  simp only [Nat.zero_add] at finished stopped
  have sameItems : ∀ other, ListsItems lib env table other → other = listed := fun other otherLists =>
    Option.some.inj (otherLists.exported.symm.trans lists.exported)
  refine ⟨blocks, holds, ?_, ?_⟩
  · intro infos built
    obtain ⟨same, all⟩ := finished infos built
    refine ⟨same, fun leak => ?_⟩
    obtain ⟨other, otherLists, _, index, item, found, fails⟩ := leak
    rw [sameItems other otherLists] at found
    exact fails (all index item found)
  · intro failed
    obtain ⟨first, failing⟩ := stopped failed
    constructor
    · intro left
      exact ⟨listed, lists, first.mp left, failing⟩
    · intro leak
      obtain ⟨other, otherLists, builds, _⟩ := leak
      rw [sameItems other otherLists] at builds
      exact first.mpr builds

theorem tcListStep_leaves (lib : Libraries) (fresh : FreshBlocks env) (table : RecordTable)
    (cleared : queryResponse.tcList = []) :
    Leaves (TcInfosLeak lib env table) (tcListStep lib env table queryResponse).1
      (tcListStep lib env table queryResponse).2 := by
  have noBlocks : tcBlocks queryResponse = [] := by simp [tcBlocks, cleared]
  simp only [tcListStep]
  split
  · next crowded =>
    refine .error holds_nil fun leak => ?_
    obtain ⟨items, lists, _⟩ := leak
    exact Nat.not_lt.mpr lists.room crowded
  next room =>
  split
  · next isEmpty =>
    refine .ok (noBlocks ▸ holds_nil) fun leak => ?_
    obtain ⟨items, lists, _⟩ := leak
    exact lists.inUse isEmpty
  next inUse =>
  cases temporary : env.tcListItems with
  | none =>
    refine .error holds_nil fun leak => ?_
    obtain ⟨items, lists, _⟩ := leak
    exact lists.temporary temporary
  | some items =>
    rw [tcManagerGetTcList_all lib.csuit inUse]
    cases exported : tcListItems lib.csuit ((List.range (tcManagerRecordCount table)).map table.slot) with
    | none =>
      have noLeak : ¬ TcInfosLeak lib env table := by
        intro leak
        obtain ⟨listed, lists, _⟩ := leak
        cases exported.symm.trans lists.exported
      have stopped := LoopBlocks.stopped env.tcInfoBuf 0 (.inl rfl)
      exact .error (stopped.holds fun index => fresh.items index items temporary) noLeak
    | some listed =>
      have lists : ListsItems lib env table listed :=
        ⟨inUse, Nat.not_lt.mp room, by simp [temporary], exported⟩
      obtain ⟨held, holds, finished, stopped⟩ := listed_leaves fresh temporary lists
      simp only [Option.elim_some, ne_eq, not_true_eq_false, if_false]
      rcases built : buildTcInfos lib env.tcInfoBuf 0 listed with ⟨infos, events⟩
      rw [built] at holds finished stopped
      cases infos with
      | none =>
        -- `tc_list.len` is still 0, so the buffers that are left are not freed
        rw [freeQueryResponseTcListBuffers, cleared, List.map_nil]
        exact ⟨held, holds, by simp, fun _ _ => stopped rfl⟩
      | some infos =>
        obtain ⟨rfl, noLeak⟩ := finished infos rfl
        exact .ok holds noLeak

theorem Holds.after {before : List Event} (holds : Holds blocks events) (settled : Holds [] before) :
    Holds blocks (before ++ events) := by
  refine ⟨holds.1, ?_⟩
  rw [List.filterMap_append, Ledger.replay_append_of settled.2]
  exact holds.2

theorem Leaves.after {result : Except TeepErrCode TeepQueryResponse} {before : List Event}
    (leaves : Leaves leaks result events) (settled : Holds [] before) : Leaves leaks result (before ++ events) := by
  obtain ⟨held, holds, ok, error⟩ := leaves
  exact ⟨held, holds.after settled, ok, error⟩

theorem trustedComponentsStep_leaves (lib : Libraries) (fresh : FreshBlocks env) (queryRequest : TeepQueryRequest)
    (appName : Option CString) (table : RecordTable) (tmpLen : Nat) (cleared : queryResponse.tcList = []) :
    Leaves (queryRequest.dataItemRequested.trustedComponents = true ∧ Requests lib appName tmpLen ∧
        TcInfosLeak lib env table)
      (trustedComponentsStep lib env queryRequest appName table queryResponse tmpLen).1
      (trustedComponentsStep lib env queryRequest appName table queryResponse tmpLen).2 := by
  have noBlocks : tcBlocks queryResponse = [] := by simp [tcBlocks, cleared]
  unfold trustedComponentsStep
  cases asked : queryRequest.dataItemRequested.trustedComponents with
  | false => exact .ok (noBlocks ▸ holds_nil) fun leak => Bool.false_ne_true leak.1
  | true =>
    cases appName with
    | none =>
      refine .error holds_nil fun leak => ?_
      obtain ⟨_, ⟨name, named, _⟩, _⟩ := leak
      cases named
    | some name =>
      by_cases isEmpty : name = []
      · simp only [isEmpty, Bool.not_true, Bool.false_eq_true, if_false, if_true]
        refine .error holds_nil fun leak => ?_
        obtain ⟨_, ⟨other, named, notEmpty, _⟩, _⟩ := leak
        exact notEmpty (Option.some.inj named).symm
      · simp only [isEmpty, Bool.not_true, Bool.false_eq_true, if_false]
        cases finished : lib.qcbor.finish (.array [.bytes name]) tmpLen with
        | none =>
          refine .error holds_nil fun leak => ?_
          obtain ⟨_, ⟨other, named, _, encodes⟩, _⟩ := leak
          rw [← Option.some.inj named] at encodes
          exact encodes finished
        | some encoded =>
          have requests : Requests lib (some name) tmpLen := ⟨name, rfl, isEmpty, by simp [finished]⟩
          refine Leaves.congr (tcListStep_leaves lib fresh table cleared) ?_
          exact ⟨fun leak => ⟨trivial, requests, leak⟩, fun leak => leak.2.2⟩

theorem rawReportDataBuf_of_ok {evidence : EvidenceEnv} {queryRequest : TeepQueryRequest} {keyPair : TeepKey}
    {block : Block} {rawReportData : Bytes}
    (ok : createRawDcapReportData evidence queryRequest keyPair = .ok (block, rawReportData)) :
    evidence.rawReportDataBuf = some block := by
  unfold createRawDcapReportData at ok
  split at ok
  · cases ok
  split at ok
  · cases ok
  split at ok
  · cases ok
  · next buf allocated =>
    cases ok
    exact allocated

/-- The quote buffer and the raw report data are freed on every exit. -/
theorem createEvidence_holds (qcbor : Qcbor) (fresh : FreshBlocks env) (queryRequest : TeepQueryRequest)
    (bufLen : Nat) (keyPair : TeepKey) :
    Holds [] (createEvidenceDcapEnvelope qcbor env.evidence queryRequest bufLen keyPair).2 := by
  unfold createEvidenceDcapEnvelope
  split
  · exact holds_nil
  cases quoted : env.evidence.quoteBuf with
  | none => exact holds_nil
  | some quoteBuf =>
    have new : quoteBuf ∉ (∅ : Finset Block) := by simp
    have alone : Holds [] [.allocated quoteBuf, .freed quoteBuf] :=
      ⟨List.nodup_nil, Ledger.replay_bracket new (Ledger.replay_nil _)⟩
    simp only
    split
    · exact alone
    split
    · exact alone
    next rawReportDataBuf rawReportData raw =>
    have rawNew : rawReportDataBuf ∉ (insert quoteBuf ∅ : Finset Block) := by
      rw [insert_empty_eq, Finset.mem_singleton]
      intro same
      exact fresh.evidence quoteBuf quoted (same ▸ rawReportDataBuf_of_ok raw)
    have inner := Ledger.replay_bracket rawNew (Ledger.replay_nil _)
    have both : Holds [] [.allocated quoteBuf, .allocated rawReportDataBuf, .freed rawReportDataBuf,
        .freed quoteBuf] :=
      ⟨List.nodup_nil, Ledger.replay_bracket new inner⟩
    split
    · exact both
    · exact both

theorem attestationStep_holds (lib : Libraries) (fresh : FreshBlocks env) (queryRequest : TeepQueryRequest)
    (keyPair : TeepKey) (queryResponse : TeepQueryResponse) (tmpLen : Nat) :
    Holds [] (attestationStep lib env queryRequest keyPair queryResponse tmpLen).2 := by
  have evidence := createEvidence_holds lib.qcbor fresh queryRequest tmpLen keyPair
  unfold attestationStep
  split
  · exact holds_nil
  rcases made : createEvidenceDcapEnvelope lib.qcbor env.evidence queryRequest tmpLen keyPair with
    ⟨result, events⟩
  rw [made] at evidence
  cases result with
  | error code => exact evidence
  | ok eat => cases tail : lib.qcbor.usefulBufSliceTail tmpLen eat.length <;> simpa [tail] using evidence

theorem attestationStep_tcList {lib : Libraries} {queryRequest : TeepQueryRequest} {keyPair : TeepKey}
    {tmpLen rest : Nat} {built : TeepQueryResponse}
    (ok : (attestationStep lib env queryRequest keyPair queryResponse tmpLen).1 = .ok (built, rest)) :
    built.tcList = queryResponse.tcList := by
  unfold attestationStep at ok
  split at ok
  · cases ok
    rfl
  split at ok
  · cases ok
  split at ok
  · cases ok
  · cases ok
    rfl

/-- A request that leaks: the loop over the records is reached, and it fails after the first of them. -/
structure QueryLeaks (lib : Libraries) (env : QueryEnv) (queryRequest : TeepQueryRequest)
    (appName : Option CString) (keyPair : TeepKey) (table : RecordTable) : Prop where
  negotiates : Negotiates lib.teep queryRequest
  asked : queryRequest.dataItemRequested.trustedComponents = true
  requests : ∃ tmpLen, scratchLeft lib env queryRequest workBufLen keyPair = some tmpLen ∧ Requests lib appName tmpLen
  partly : TcInfosLeak lib env table

theorem buildQueryResponse_leaves (lib : Libraries) (fresh : FreshBlocks env) (queryRequest : TeepQueryRequest)
    (appName : Option CString) (keyPair : TeepKey) (table : RecordTable) :
    Leaves (QueryLeaks lib env queryRequest appName keyPair table)
      (buildQueryResponse lib env queryRequest workBufLen appName keyPair table).1
      (buildQueryResponse lib env queryRequest workBufLen appName keyPair table).2 := by
  simp only [buildQueryResponse, requestedItems]
  split
  · next unsupported => exact .error holds_nil fun leak => by simp [leak.negotiates.1] at unsupported
  next supported =>
  split
  · next invalid => exact .error holds_nil fun leak => by simp [leak.negotiates.2] at invalid
  next valid =>
  have attested := attestationStep_ok lib env queryRequest keyPair (clearedResponse queryRequest) workBufLen
  have settled := attestationStep_holds lib fresh queryRequest keyPair (clearedResponse queryRequest) workBufLen
  rcases made : attestationStep lib env queryRequest keyPair (clearedResponse queryRequest) workBufLen with
    ⟨result, events⟩
  rw [made] at attested settled
  cases result with
  | error code =>
    refine .error settled fun leak => ?_
    obtain ⟨tmpLen, left, _⟩ := leak.requests
    obtain ⟨built, failed⟩ := (attested tmpLen).mpr left
    cases failed
  | ok built =>
    obtain ⟨queryResponse, tmpLen⟩ := built
    have cleared : queryResponse.tcList = [] := attestationStep_tcList (by rw [made])
    have left := (attested tmpLen).mp ⟨queryResponse, rfl⟩
    refine ((trustedComponentsStep_leaves lib fresh queryRequest appName table tmpLen cleared).after
      settled).congr ?_
    constructor
    · intro reached
      obtain ⟨asked, requests, partly⟩ := reached
      exact ⟨⟨by simpa using supported, by simpa using valid⟩, asked, ⟨tmpLen, left, requests⟩, partly⟩
    · intro leak
      obtain ⟨other, otherLeft, requests⟩ := leak.requests
      obtain rfl : tmpLen = other := Option.some.inj (left.symm.trans otherLeft)
      exact ⟨leak.asked, requests, leak.partly⟩

/-! ## The whole call -/

variable {args : MessageArgs} {state : EnclaveState}

theorem freeTcList_entries (response : TeepQueryResponse) :
    (freeTcList (.queryResponse response)).filterMap heapEntry = (tcBlocks response).map .released := by
  simp only [freeTcList, freeQueryResponseTcListBuffers, tcBlocks, List.filterMap_map, List.map_map]
  rw [← List.filterMap_eq_map]
  rfl

/-- Encoding and signing touch the heap only at the end, where the tc-infos are freed. -/
theorem encodeAndSign_entries (env : MessageEnv) (args : MessageArgs) (message : TeepMessage) :
    (encodeAndSign env args message).2.filterMap heapEntry = (freeTcList message).filterMap heapEntry := by
  unfold encodeAndSign
  cases env.encodeMessage message with
  | none => rfl
  | some cbor =>
    simp only
    cases env.signSign1 cbor args.allocatedLen <;> rfl

/-- The message is a response that holds its tc-infos, or it has none to free. -/
theorem queried_holds (lib : Libraries) (env : MessageEnv) (fresh : FreshBlocks env.query) (args : MessageArgs)
    (request : TeepQueryRequest) (state : EnclaveState) :
    (∃ response, (queried lib env args request state).1 = .queryResponse response ∧
      Holds (tcBlocks response) (queried lib env args request state).2 ∧
      ¬ QueryLeaks lib env.query request args.appName state.agentKey state.table) ∨
    ((∀ response, (queried lib env args request state).1 ≠ .queryResponse response) ∧
      freeTcList (queried lib env args request state).1 = [] ∧
      ∃ held, Holds held (queried lib env args request state).2 ∧
        (held ≠ [] ↔ QueryLeaks lib env.query request args.appName state.agentKey state.table)) := by
  obtain ⟨held, holds, ok, error⟩ :=
    buildQueryResponse_leaves lib fresh request args.appName state.agentKey state.table
  simp only [queried, processQueryRequest]
  rcases built : buildQueryResponse lib env.query request workBufLen args.appName state.agentKey state.table with
    ⟨result, events⟩
  rw [built] at holds ok error
  cases result with
  | error code => exact .inr ⟨by simp [createError], rfl, held, holds, error code rfl⟩
  | ok response =>
    obtain ⟨rfl, noLeak⟩ := ok response rfl
    exact .inl ⟨response, rfl, holds, noLeak⟩

/-- Only a message that is built or encoded refers to anything. -/
theorem readsLive_of_other {before : List Event} {event : Event} (notBuilt : ∀ message, event ≠ .built message)
    (notEncoded : ∀ cbor, event ≠ .encoded cbor) : ReadsLive before event := by
  intro response reads
  cases reads with
  | inl built => exact absurd built (notBuilt _)
  | inr encoded =>
    obtain ⟨⟨cbor, same⟩, _⟩ := encoded
    exact absurd same (notEncoded cbor)

theorem readsLive_of_heap {before events : List Event} (heap : Within [.heap] events) :
    EveryEvent ReadsLive before events := by
  apply everyEvent_of_forall
  intro earlier event member
  have kind := heap event member
  cases event with
  | allocated block => exact readsLive_of_other (by simp) (by simp)
  | freed block => exact readsLive_of_other (by simp) (by simp)
  | _ => cases List.mem_singleton.mp kind

/-- A message that refers to live blocks when it is built does so when it is encoded. -/
theorem readsLive_sent (env : MessageEnv) (args : MessageArgs) {message : TeepMessage} {events : List Event}
    (heap : Within [.heap] events)
    (refers : ∀ response, message = .queryResponse response →
      ∃ live, Ledger.replay ∅ (events.filterMap heapEntry) = some live ∧
        ∀ info ∈ response.tcList, info.block ∈ live) :
    EveryEvent ReadsLive [] (events ++ [.built message] ++ (encodeAndSign env args message).2) := by
  have built : ReadsLive events (.built message) := by
    intro response reads
    obtain same | ⟨⟨_, encoded⟩, _⟩ := reads
    · cases same
      exact refers response rfl
    · cases encoded
  have encoded : ∀ cbor, ReadsLive (events ++ [.built message]) (.encoded cbor) := by
    intro cbor response reads
    obtain same | ⟨_, member⟩ := reads
    · cases same
    rw [List.mem_append, List.mem_singleton] at member
    obtain earlier | same := member
    · cases List.mem_singleton.mp (heap _ earlier)
    · cases same
      rw [List.filterMap_append, filterMap_built, List.append_nil]
      exact refers response rfl
  have freed := freeTcList_within message
  simp only [everyEvent_append, everyEvent_cons, List.nil_append]
  refine ⟨⟨readsLive_of_heap heap, built, everyEvent_nil _⟩, ?_⟩
  unfold encodeAndSign
  split
  · exact readsLive_of_heap freed
  split
  · exact everyEvent_cons.mpr ⟨encoded _, readsLive_of_heap freed⟩
  · exact everyEvent_cons.mpr ⟨encoded _, everyEvent_cons.mpr
      ⟨readsLive_of_other (by simp) (by simp), readsLive_of_heap freed⟩⟩

/-- What a QueryRequest leads to, once the key is ready. -/
theorem ecallProcessMessage_queried (lib : Libraries) {env : MessageEnv} {request : TeepQueryRequest}
    (receives : receive env args.recvBuf = some (.queryRequest request)) (ready : state.keyState = .ready) :
    (ecallProcessMessage lib env args state).events =
      (queried lib env args request state).2 ++ [.built (queried lib env args request state).1] ++
        (encodeAndSign env args (queried lib env args request state).1).2 := by
  simp only [ecallProcessMessage, ready, receives, handleMessage, handleQueryRequest_eq, ne_eq,
    not_true_eq_false, if_false]
  rfl

/-- The heap sees what the response has allocated, and then what is freed of it. -/
theorem queried_entries (lib : Libraries) (env : MessageEnv) (args : MessageArgs) (request : TeepQueryRequest)
    (state : EnclaveState) :
    ((queried lib env args request state).2 ++ [Event.built (queried lib env args request state).1] ++
        (encodeAndSign env args (queried lib env args request state).1).2).filterMap heapEntry =
      (queried lib env args request state).2.filterMap heapEntry ++
        (freeTcList (queried lib env args request state).1).filterMap heapEntry := by
  rw [List.filterMap_append, List.filterMap_append, encodeAndSign_entries, filterMap_built, List.append_nil]

/-- A QueryRequest is handled without a leak, a double free or a freed block in the message exactly if the loop
over the records is not reached, or fails at the first of them, or does not fail. -/
theorem tcInfoBuffers_released_iff (lib : Libraries) (env : MessageEnv) (args : MessageArgs)
    (state : EnclaveState) {request : TeepQueryRequest} (fresh : FreshBlocks env.query)
    (receives : receive env args.recvBuf = some (.queryRequest request)) :
    TcInfoBuffersReleased (ecallProcessMessage lib env args state).events ↔
      ¬ (state.keyState = .ready ∧
        QueryLeaks lib env.query request args.appName state.agentKey state.table) := by
  by_cases ready : state.keyState = .ready
  swap
  · have refused : (ecallProcessMessage lib env args state).events = [] := by
      simp [ecallProcessMessage, ready]
    rw [refused]
    exact ⟨fun _ leak => ready leak.1, fun _ => ⟨rfl, everyEvent_nil _⟩⟩
  have heap := queried_within lib env args request state
  have entries := queried_entries lib env args request state
  rw [ecallProcessMessage_queried lib receives ready]
  obtain ⟨response, same, holds, noLeak⟩ | ⟨noResponse, noList, held, holds, leaks⟩ :=
    queried_holds lib env fresh args request state
  · refine iff_of_true ⟨?_, ?_⟩ fun leak => noLeak leak.2
    · rw [entries, same, freeTcList_entries, Ledger.replay_append_of holds.2]
      have new : ∀ block ∈ tcBlocks response, block ∉ (∅ : Finset Block) := by simp
      have released := Ledger.replay_releaseAll holds.1 new
      rwa [Finset.empty_union] at released
    -- the message is encoded and signed before `free_tc_list`
    · refine readsLive_sent env args heap fun other isOther => ?_
      obtain rfl : response = other := by
        rw [same] at isOther
        exact TeepMessage.queryResponse.inj isOther
      refine ⟨_, holds.2, fun info member => ?_⟩
      exact List.mem_toFinset.mpr (List.mem_map_of_mem member)
  -- an Error has no list to free, so what the loop has left is never freed
  · constructor
    · intro released leak
      have empty := released.released
      rw [entries, noList, List.filterMap_nil, List.append_nil, holds.2, Option.some.injEq,
        List.toFinset_eq_empty_iff] at empty
      exact leaks.mpr leak.2 empty
    · intro noLeak
      have nothing : held = [] := by
        by_contra left
        exact noLeak ⟨ready, leaks.mp left⟩
      refine ⟨?_, readsLive_sent env args heap fun response isResponse => absurd isResponse (noResponse response)⟩
      rw [entries, noList, List.filterMap_nil, List.append_nil, holds.2, nothing]
      rfl

/-! ## Two records, and one buffer that cannot be allocated -/

def twoApps : EnclaveState :=
  { freshState with
    suit.table := tcRun smallCsuit SlotTable.empty
      (storeBoth [1] 1 [97] wasmVersion1 ++ .checkAndUpdate (.bytes [1]) ::
        storeBoth [2] 1 [98] wasmVersion2 ++ [.checkAndUpdate (.bytes [2])]) }

def withoutBuffer (missing : Nat) : MessageEnv :=
  { firstRequest with
    query.tcInfoBuf := fun index => if index = missing then none else some (4 + index) }

theorem withoutBuffer_fresh (missing : Nat) : FreshBlocks (withoutBuffer missing).query where
  evidence := by
    intro block quoteBuf
    cases quoteBuf
    simp [withoutBuffer, firstRequest, workingMessage, workingQuery, workingEvidence]
  items := by
    intro index block isItems buffer
    cases isItems
    simp only [withoutBuffer, Option.ite_none_left_eq_some, Option.some.injEq] at buffer
    have same : 4 + index = 3 := buffer.2
    omega
  infos := by
    intro index other block buffer otherBuffer
    simp only [withoutBuffer, Option.ite_none_left_eq_some, Option.some.injEq] at buffer otherBuffer
    exact Nat.add_left_cancel (buffer.2.trans otherBuffer.2.symm)

/-- Without the first buffer nothing is leaked. -/
theorem tcInfoBuffers_released_first :
    TcInfoBuffersReleased
      (ecallProcessMessage smallLibraries (withoutBuffer 0) ⟨[], some [97], 4096⟩ twoApps).events := by
  have receives : receive (withoutBuffer 0) [] = some (.queryRequest trustedComponentsRequest) := rfl
  apply (tcInfoBuffers_released_iff smallLibraries (withoutBuffer 0) ⟨[], some [97], 4096⟩ twoApps
    (withoutBuffer_fresh 0) receives).mpr
  intro leak
  obtain ⟨_, _, ⟨first, _, builds⟩, _⟩ := leak.2.partly
  exact builds.allocated rfl

/-- Without the second buffer the first one is leaked. -/
theorem tcInfoBuffers_leaked_second :
    FreshBlocks (withoutBuffer 1).query ∧
    receive (withoutBuffer 1) [] = some (.queryRequest trustedComponentsRequest) ∧
    ¬ TcInfoBuffersReleased
      (ecallProcessMessage smallLibraries (withoutBuffer 1) ⟨[], some [97], 4096⟩ twoApps).events := by
  refine ⟨withoutBuffer_fresh 1, rfl, ?_⟩
  intro released
  have left : Ledger.replay ∅ ((ecallProcessMessage smallLibraries (withoutBuffer 1) ⟨[], some [97], 4096⟩
      twoApps).events.filterMap heapEntry) = some {4} := by
    decide +kernel
  have nothing : ({4} : Finset Block) = ∅ := Option.some.inj (left.symm.trans released.released)
  exact Finset.singleton_ne_empty 4 nothing

end Taws.Enclave
