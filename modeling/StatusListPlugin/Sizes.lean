import Mathlib.Tactic.Linarith
import StatusListPlugin.Allocation

/-!
# Runs with well-sized definitions

When every definition is created with integer sizes `1 ≤ status_size ≤ list_size`, every
status list gets such sizes too, and its cursor stays within its `list_size`: the entry the
cursor tags exists only while `cursor * entry_size < list_size`, which leaves room for one
more step. With `Consistent` this gives the layout of every reachable state of such runs.
-/

namespace StatusListPlugin

/-- Integer sizes with `1 ≤ status_size ≤ list_size`. -/
def SizesWithin (statusSize listSize : JsonValue) : Prop :=
  ∃ entrySize size : Int, statusSize = .int entrySize ∧ listSize = .int size ∧
    1 ≤ entrySize ∧ entrySize ≤ size

/-- A `create_status_list_def` body whose sizes are such integers. -/
def WellSizedBody (body : JsonValue) : Prop :=
  ∃ statusSize listSize, body.get "status_size" = .ok statusSize ∧
    body.get "list_size" = .ok listSize ∧ SizesWithin statusSize listSize

/-- The requests of runs whose definitions are created with well-sized bodies; every other
request takes any arguments. -/
def WellSizedRequest : Request → Prop
  | .createStatusListDef body _ => WellSizedBody body
  | _ => True

/-- The sizes of every definition and status list of a store, and the bound on the cursors. -/
structure WellSized (txn : Store) : Prop where
  definition_sizes : ∀ definition ∈ txn.definitions,
    SizesWithin definition.status_size definition.list_size
  list_sizes : ∀ statusList ∈ txn.lists, 1 ≤ statusList.entry_size ∧
    statusList.entry_size ≤ statusList.list_size ∧ statusList.entry_cursor ≤ statusList.list_size

/-- After the slot of rank `rank`, with `rank * W < C`, there is room for `W` more. -/
theorem rank_add_le {rank entrySize size : Int} (positive : 1 ≤ entrySize)
    (fits : entrySize ≤ size) (slot : rank * entrySize < size) :
    rank + entrySize ≤ size := by
  by_cases first : rank = 0
  · omega
  · nlinarith

namespace WellSized

variable {sys : System}

theorem initial : WellSized System.initial.store :=
  ⟨(fun _ member => by cases member), (fun _ member => by cases member)⟩

/-- Handing out the entry at a list's cursor keeps the cursor within the list. -/
theorem assign_advance (sized : WellSized sys.store) (consistent : Consistent sys)
    {working : StatusList} {found : StatusListEntry} (member : working ∈ sys.store.lists)
    (query : (BaseRecord.query sys.store (cursorFilter working) : List StatusListEntry) =
      [found]) :
    WellSized { sys.store with
      entries := sys.store.entries.map fun old =>
        if old.id == found.id then { found with is_assigned := true } else old,
      lists := sys.store.lists.map fun old =>
        if old.id == working.id then advanceCursor working else old } where
  definition_sizes := sized.definition_sizes
  list_sizes statusList listed := by
    rcases (mem_map_replace member).mp listed with rfl | ⟨old, -⟩
    · obtain ⟨positive, fits, -⟩ := sized.list_sizes working member
      have shape := consistent.list_shape working member
      obtain ⟨foundMember, filtered⟩ := BaseRecord.mem_of_query_eq_singleton query
      obtain ⟨owned, tagged⟩ := (matchesFilter_entry _ _ _).mp filtered
      obtain ⟨-, -, -, rank, ranked, rankTag⟩ := shape.slot foundMember owned
      rw [tagged, ← toString_natCast, toString_int_inj] at rankTag
      refine ⟨positive, fits, rank_add_le positive fits ?_⟩
      rw [rankTag]
      exact (lt_rangeLength_iff (by omega)).mp ranked
    · exact sized.list_sizes statusList old

/-- A new list takes its sizes from its well-sized definition, with the cursor at `0`. -/
theorem create_list {txn txn' : Store} (sized : WellSized txn)
    {definition : StatusListDefinition} {uid : String} {shuffle : Rearrangement Int}
    {statusList : StatusList} (retrieved : definition ∈ txn.definitions)
    (created : CreatedStatusList txn definition uid shuffle txn' statusList) :
    WellSized txn' where
  definition_sizes stored member := by
    rw [created.definitions_eq] at member
    rcases (mem_map_replace retrieved).mp member with rfl | ⟨old, -⟩
    · exact sized.definition_sizes definition retrieved
    · exact sized.definition_sizes stored old
  list_sizes listed member := by
    rw [created.lists_eq] at member
    rcases List.mem_append.mp member with old | added
    · exact sized.list_sizes listed old
    · rw [List.mem_singleton.mp added]
      obtain ⟨entrySize, size, statusSize, listSize, positive, fits⟩ :=
        sized.definition_sizes definition retrieved
      have entrySizeEq := created.entry_size_eq
      have sizeEq := created.list_size_eq
      rw [statusSize, JsonValue.asIndex_int, Except.ok.injEq] at entrySizeEq
      rw [listSize, JsonValue.asIndex_int, Except.ok.injEq] at sizeEq
      rw [created.entry_cursor_eq]
      omega

/-- Every request of a well-sized run keeps the sizes and the cursors' bound. -/
theorem handle_step (sized : WellSized sys.store) (consistent : Consistent sys)
    {request : Request} (wellSized : WellSizedRequest request)
    (admissible : request.Admissible sys) : WellSized (handle sys request).1.store := by
  cases request with
  | createStatusListDef body uid =>
      show WellSized (createStatusListDef sys.store body uid).1
      rcases createStatusListDef_store sys.store body uid with unchanged | ⟨fields, read, added⟩
      · rw [unchanged]
        exact sized
      rw [← (BaseRecord.add_eq_ok.mp added).2.2]
      obtain ⟨statusSize, listSize, statusSizeOk, listSizeOk, within⟩ := wellSized
      obtain ⟨-, -, statusSizeRead, -, -, listSizeRead⟩ := definitionFields_eq_ok read
      have sizes : SizesWithin fields.status_size fields.list_size := by
        rw [statusSizeOk, Except.ok.injEq] at statusSizeRead
        rw [listSizeOk, Except.ok.injEq] at listSizeRead
        rwa [← statusSizeRead, ← listSizeRead]
      refine ⟨fun definition member => ?_, sized.list_sizes⟩
      rcases List.mem_append.mp member with old | added
      · exact sized.definition_sizes definition old
      · rw [List.mem_singleton.mp added]
        exact sizes
  | createStatusListEntry body uid shuffle =>
      show WellSized (createStatusListEntry sys.store body uid shuffle).1
      rcases createStatusListEntry_store sys.store body uid shuffle with
        unchanged | ⟨statusList, entry, committed⟩
      · rw [unchanged]
        exact sized
      obtain ⟨definitionId, definition, current, mid, working, found, -, retrieved, currentOk, worked,
        query, rfl, rfl, committedStore⟩ := createStatusListEntryTxn_eq_ok committed
      obtain ⟨midConsistent, member, kept⟩ :=
        consistent.working_phase (admissible uid rfl).1 retrieved currentOk worked
      have midSized : WellSized mid := by
        rcases kept with rfl | created
        · exact sized
        · exact sized.create_list (BaseRecord.retrieveById_eq_ok retrieved).1 created
      rw [committedStore]
      exact @assign_advance ⟨mid, uid :: sys.issued⟩ midSized midConsistent _ _ member query
  | updateStatusListEntry status_list_id index status =>
      show WellSized (updateStatusListEntry sys.store status_list_id index [.status status]).1
      rcases updateStatusListEntry_store sys.store status_list_id index status with
        unchanged | ⟨found, -, updated⟩
      · rw [unchanged]
        exact sized
      · rw [updated]
        exact ⟨sized.definition_sizes, sized.list_sizes⟩
  | recycleStatusListEntry status_list_id index =>
      show WellSized (recycleStatusListEntry sys.store status_list_id index).1
      rw [recycleStatusListEntry_store]
      exact sized
  | deleteStatusList id =>
      show WellSized (deleteStatusList sys.store id).1
      rcases deleteStatusList_store sys.store id with unchanged | deleted
      · rw [unchanged]
        exact sized
      · rw [(deleteStatusListRecords_eq_ok deleted).2]
        exact ⟨sized.definition_sizes,
          fun statusList member => sized.list_sizes statusList (List.mem_filter.mp member).1⟩
  | deleteStatusListDef id =>
      show WellSized (deleteStatusListDef sys.store id).1
      rcases deleteStatusListDef_store sys.store id with unchanged | ⟨-, deleted⟩
      · rw [unchanged]
        exact sized
      · rw [deleted]
        exact ⟨fun definition member =>
          sized.definition_sizes definition (List.mem_filter.mp member).1, sized.list_sizes⟩

end WellSized

theorem Run.wellSized {trace : List (Request × Response)} {sys : System}
    (run : Run WellSizedRequest System.initial trace sys) : WellSized sys.store := by
  induction run with
  | nil => exact WellSized.initial
  | step run wellSized admissible sized => exact sized.handle_step run.consistent wellSized admissible

theorem Reachable.wellSized {sys : System} (reachable : Reachable WellSizedRequest sys) :
    WellSized sys.store :=
  reachable.elim fun _ run => run.wellSized

/-! ## The layout of a reachable state -/

theorem ListShape.ids_perm {entries : List StatusListEntry} {statusList : StatusList}
    (shape : ListShape entries statusList) :
    ((entries.filter (·.status_list_id == statusList.id)).map (·.id)).Perm
      ((rangeValues 0 statusList.list_size statusList.entry_size).map (entryId statusList.id)) := by
  obtain ⟨-, -, order, perm, tags⟩ := shape
  have ids := tags.map Prod.fst
  rw [slotLayout_ids, slotTags, List.map_map] at ids
  exact ids.trans (perm.map _)

theorem ListShape.sequences_perm {entries : List StatusListEntry} {statusList : StatusList}
    (shape : ListShape entries statusList) :
    ((entries.filter (·.status_list_id == statusList.id)).map (·.sequence)).Perm
      ((List.range (rangeLength 0 statusList.list_size statusList.entry_size)).map toString) := by
  obtain ⟨-, -, order, perm, tags⟩ := shape
  have sequences := tags.map Prod.snd
  rw [slotLayout_sequences, slotTags, List.map_map, perm.length_eq, length_rangeValues] at sequences
  exact sequences

/-- A request changes a definition it keeps only by advancing its `list_cursor`. -/
theorem Consistent.definition_step {sys : System} (consistent : Consistent sys)
    (request : Request) {definition definition' : StatusListDefinition}
    (stored : definition ∈ sys.store.definitions)
    (stored' : definition' ∈ (handle sys request).1.store.definitions)
    (sameId : definition'.id = definition.id) :
    definition' = definition ∨ definition' = advanceListCursor definition := by
  have kept : definition' ∈ sys.store.definitions ∨
      (∃ advanced ∈ sys.store.definitions, definition' = advanceListCursor advanced) ∨
      ∀ old ∈ sys.store.definitions, old.id ≠ definition'.id := by
    cases request with
    | createStatusListDef body uid =>
        change definition' ∈ (createStatusListDef sys.store body uid).1.definitions at stored'
        rcases createStatusListDef_store sys.store body uid with
          unchanged | ⟨fields, -, added⟩
        · rw [unchanged] at stored'
          exact .inl stored'
        obtain ⟨-, fresh, saved⟩ := BaseRecord.add_eq_ok.mp added
        rw [← saved] at stored'
        rcases List.mem_append.mp stored' with old | new
        · exact .inl old
        · rw [List.mem_singleton.mp new]
          exact .inr (.inr (BaseRecord.stored_eq_false.mp fresh))
    | createStatusListEntry body uid shuffle =>
        change definition' ∈ (createStatusListEntry sys.store body uid shuffle).1.definitions
          at stored'
        rcases createStatusListEntry_store sys.store body uid shuffle with
          unchanged | ⟨statusList, entry, committed⟩
        · rw [unchanged] at stored'
          exact .inl stored'
        obtain ⟨definitionId, retrievedDefinition, current, mid, working, found, -, retrieved, -,
          worked, -, -, -, committedStore⟩ := createStatusListEntryTxn_eq_ok committed
        rw [committedStore] at stored'
        rcases workingStatusList_eq_ok worked with ⟨rfl, -, -⟩ | created
        · exact .inl stored'
        · have member := (BaseRecord.retrieveById_eq_ok retrieved).1
          change definition' ∈ mid.definitions at stored'
          rw [created.definitions_eq] at stored'
          rcases (mem_map_replace member).mp stored' with rfl | ⟨old, -⟩
          · exact .inr (.inl ⟨retrievedDefinition, member, rfl⟩)
          · exact .inl old
    | updateStatusListEntry status_list_id index status =>
        change definition' ∈
          (updateStatusListEntry sys.store status_list_id index [.status status]).1.definitions at stored'
        rcases updateStatusListEntry_store sys.store status_list_id index status with
          unchanged | ⟨found, -, updated⟩
        · rw [unchanged] at stored'
          exact .inl stored'
        · rw [updated] at stored'
          exact .inl stored'
    | recycleStatusListEntry status_list_id index =>
        change definition' ∈ (recycleStatusListEntry sys.store status_list_id index).1.definitions
          at stored'
        rw [recycleStatusListEntry_store] at stored'
        exact .inl stored'
    | deleteStatusList id =>
        change definition' ∈ (deleteStatusList sys.store id).1.definitions at stored'
        rcases deleteStatusList_store sys.store id with unchanged | deleted
        · rw [unchanged] at stored'
          exact .inl stored'
        · rw [(deleteStatusListRecords_eq_ok deleted).2] at stored'
          exact .inl stored'
    | deleteStatusListDef id =>
        change definition' ∈ (deleteStatusListDef sys.store id).1.definitions at stored'
        rcases deleteStatusListDef_store sys.store id with unchanged | ⟨-, deleted⟩
        · rw [unchanged] at stored'
          exact .inl stored'
        · rw [deleted] at stored'
          exact .inl (List.mem_filter.mp stored').1
  rcases kept with old | ⟨advanced, member, rfl⟩ | fresh
  · exact .inl (eq_of_id_eq consistent.definitions_nodup old stored sameId)
  · exact .inr (by rw [eq_of_id_eq consistent.definitions_nodup member stored sameId])
  · exact absurd sameId.symm (fresh definition stored)

/-- The layout of a state: the entries of each status list, one per slot of
`range(0, list_size, entry_size)` with the ranks `0 … m-1` as tags; the cursors, at a whole
number of entry sizes within the list; every entry's list stored; the lists of each
definition with distinct tags `str(k)` for `k` up to its `list_cursor`, and none while it is
`None`; and every request from the state moving a `list_cursor` only from `None` to `0` or
from `n` to `n + 1`. -/
structure SlotLayout (sys : System) : Prop where
  entry_ids : ∀ statusList ∈ sys.store.lists,
    ((sys.store.entries.filter (·.status_list_id == statusList.id)).map (·.id)).Perm
      ((rangeValues 0 statusList.list_size statusList.entry_size).map (entryId statusList.id))
  entry_sequences : ∀ statusList ∈ sys.store.lists,
    ((sys.store.entries.filter (·.status_list_id == statusList.id)).map (·.sequence)).Perm
      ((List.range (rangeLength 0 statusList.list_size statusList.entry_size)).map toString)
  cursor_bounds : ∀ statusList ∈ sys.store.lists,
    statusList.entry_size ∣ statusList.entry_cursor ∧ 0 ≤ statusList.entry_cursor ∧
      statusList.entry_cursor ≤ statusList.list_size
  entry_owner : ∀ entry ∈ sys.store.entries,
    ∃ statusList ∈ sys.store.lists, statusList.id = entry.status_list_id
  sequences_distinct : ∀ definition ∈ sys.store.definitions,
    ((sys.store.lists.filter (·.definition_id == definition.id)).map (·.sequence)).Nodup
  sequences_below : ∀ definition ∈ sys.store.definitions, ∀ statusList ∈ sys.store.lists,
    statusList.definition_id = definition.id →
      SequenceBelow definition.list_cursor statusList.sequence
  cursor_steps : ∀ (request : Request), ∀ definition ∈ sys.store.definitions,
    ∀ definition' ∈ (handle sys request).1.store.definitions, definition'.id = definition.id →
      definition'.list_cursor = definition.list_cursor ∨
        (definition.list_cursor = none ∧ definition'.list_cursor = some 0) ∨
        ∃ n, definition.list_cursor = some n ∧ definition'.list_cursor = some (n + 1)

/-- Every state that a run of well-sized definitions reaches from the empty store has the
layout `SlotLayout` describes. -/
theorem reachable_slot_layout {sys : System} (reachable : Reachable WellSizedRequest sys) :
    SlotLayout sys := by
  have consistent := reachable.consistent
  have sized := reachable.wellSized
  refine ⟨fun statusList member => (consistent.list_shape statusList member).ids_perm,
    fun statusList member => (consistent.list_shape statusList member).sequences_perm,
    fun statusList member => ?_, consistent.entry_owner, fun definition _ => ?_,
    fun definition stored statusList member named => ?_,
    fun request definition stored definition' stored' sameId => ?_⟩
  · have cursor := (consistent.list_shape statusList member).cursor_eq
    obtain ⟨positive, -, bounded⟩ := sized.list_sizes statusList member
    refine ⟨⟨_, cursor.trans (Int.mul_comm _ _)⟩, ?_, bounded⟩
    rw [cursor]
    exact Int.mul_nonneg (by omega) (by omega)
  · have pairs := nodup_map_filter consistent.sequences_nodup (·.definition_id == definition.id)
    have constant : (sys.store.lists.filter (·.definition_id == definition.id)).map
        (fun statusList => (statusList.definition_id, statusList.sequence)) =
        ((sys.store.lists.filter (·.definition_id == definition.id)).map (·.sequence)).map
          (Prod.mk definition.id) := by
      rw [List.map_map]
      refine List.map_congr_left fun statusList member => ?_
      simpa using (List.mem_filter.mp member).2
    rw [constant] at pairs
    exact pairs.of_map _
  · obtain ⟨owner, ownerStored, ownerId, below⟩ := consistent.list_definition statusList member
    rwa [eq_of_id_eq consistent.definitions_nodup ownerStored stored (ownerId.trans named)] at below
  · rcases consistent.definition_step request stored stored' sameId with rfl | rfl
    · exact .inl rfl
    · simp only [advanceListCursor]
      cases definition.list_cursor with
      | none => exact .inr (.inl ⟨rfl, rfl⟩)
      | some cursor => exact .inr (.inr ⟨cursor, rfl, rfl⟩)

/-- A body with `status_size` `1` and `list_size` `2`. -/
def unitSizes : JsonValue :=
  .object [("status_purpose", .str "revocation"), ("status_size", .int 1), ("list_size", .int 2)]

theorem unitSizes_wellSized : WellSizedBody unitSizes :=
  ⟨_, _, rfl, rfl, 1, 2, rfl, rfl, by decide, by decide⟩

theorem slot_layout_after_one_allocation :
    let defined := handle System.initial (.createStatusListDef unitSizes firstUuid)
    let allocated := handle defined.1
      (.createStatusListEntry (entryRequestBody firstUuid) secondUuid reversal)
    Reachable WellSizedRequest allocated.1 ∧ SlotLayout allocated.1 := by
  intro defined allocated
  have reachable : Reachable WellSizedRequest allocated.1 :=
    ⟨_, .step (.step .nil unitSizes_wellSized (by rintro uid ⟨⟩; decide)) trivial
      (by rintro uid ⟨⟩; decide)⟩
  exact ⟨reachable, reachable_slot_layout reachable⟩

end StatusListPlugin
