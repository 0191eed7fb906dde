import StatusListPlugin.Sizes

/-!
# When an allocation succeeds

`create_status_list_entry` finds the current list by the tag `sequence = str(list_cursor)` and
the entry to hand out by the tag `sequence = str(entry_cursor)`. The entries of a list are
tagged with their ranks `0 … m - 1`, `m = len(range(0, list_size, entry_size))`, while the
cursor moves by `entry_size`. Over consistent stores this module says when an allocation
succeeds: the first one on a definition exactly when its sizes give a nonempty `range`; and
when it fails: once the cursor passed the last rank but not the end of the list, and once the
list the definition's `list_cursor` names was deleted. In every reachable state of a well-sized
run these two are the only ways an allocation fails. Last, what the slot it answers with
addresses: the path `f"{status_list_id}-{index}"` of the entry handlers names the entry the
allocation assigned as long as the entry size is positive, and no entry for a negative slot.
-/

namespace StatusListPlugin

/-! ## Lookups in a consistent store -/

/-- The current list of a definition is the one list with its `sequence` tag. -/
theorem Consistent.query_list {sys : System} (consistent : Consistent sys) {statusList : StatusList}
    (listed : statusList ∈ sys.store.lists) :
    (BaseRecord.query sys.store
      [("definition_id", statusList.definition_id), ("sequence", statusList.sequence)] :
        List StatusList) = [statusList] := by
  rw [← filter_key_eq_singleton consistent.sequences_nodup listed]
  refine List.filter_congr fun old _ => ?_
  rw [Bool.eq_iff_iff, matchesFilter_list, decide_eq_true_iff, Prod.mk.injEq]

/-- No entry of a laid-out list has a tag at or past the number of its slots. -/
theorem ListShape.query_eq_nil {txn : Store} {statusList : StatusList}
    (shape : ListShape txn.entries statusList) {tag : Int}
    (pastRanks : (rangeLength 0 statusList.list_size statusList.entry_size : Int) ≤ tag) :
    (BaseRecord.query txn [("status_list_id", statusList.id), ("sequence", toString tag)] :
      List StatusListEntry) = [] := by
  refine List.eq_nil_iff_forall_not_mem.mpr fun entry listed => ?_
  obtain ⟨member, filtered⟩ := BaseRecord.mem_query.mp listed
  obtain ⟨owned, tagged⟩ := (matchesFilter_entry _ _ _).mp filtered
  obtain ⟨-, -, -, rank, ranked, rankTag⟩ := shape.slot member owned
  rw [tagged, ← toString_natCast, toString_int_inj] at rankTag
  omega

/-- The record an accepted `create_status_list_def` answers with is the one it saved, and it
serializes. -/
theorem createStatusListDef_definition {txn : Store} {body : JsonValue} {uid : String}
    {record : StatusListDefinition}
    (accepted : (createStatusListDef txn body uid).2 = .definition record) :
    ∃ fields, definitionFields body = .ok fields ∧ record = fields.record uid ∧
      BaseRecord.add txn record = .ok (createStatusListDef txn body uid).1 ∧
      record.serialize = .ok () := by
  unfold createStatusListDef at accepted ⊢
  cases fieldsOk : definitionFields body with
  | error cause =>
      simp only [fieldsOk] at accepted
      cases accepted
  | ok fields =>
      simp only [fieldsOk] at accepted ⊢
      cases saved : BaseRecord.save txn BaseRecord.add (fields.record uid) with
      | mk written outcome =>
          cases outcome with
          | error cause =>
              simp only [saved] at accepted
              exact absurd accepted (badRequestOnStorage_ne_definition cause record)
          | ok _ =>
              simp only [saved, Response.definition.injEq] at accepted ⊢
              subst accepted
              obtain ⟨added, serialized⟩ := BaseRecord.save_eq_ok.mp saved
              exact ⟨fields, rfl, rfl, added, serialized⟩

/-- A body without `list_size`, which the request schema allows; the schema's `default=131072`
only applies when a record is dumped. -/
def omittedListSize : JsonValue :=
  .object [("status_purpose", .str "revocation"), ("status_size", .int 1)]

/-- `create_status_list_def` reads `list_size` with `body.get("list_size", None)`, which
overrides the constructor's default `131072`: a body it accepts without `list_size` (or with
`null`) gives a definition with `list_size` `None`, and the first allocation on it raises
`TypeError` in `range`, which the handler does not catch, so it answers `500` and changes
nothing. -/
theorem omitted_list_size_first_allocation_fails (txn : Store) {body : JsonValue} {uid : String}
    (nonempty : uid ≠ "") {record : StatusListDefinition}
    (accepted : (createStatusListDef txn body uid).2 = .definition record)
    (omitted : body.get "list_size" = .ok .null) :
    let defined := (createStatusListDef txn body uid).1
    record ∈ defined.definitions ∧ record.id = uid ∧ record.list_size = .null ∧
      record.list_cursor = none ∧
      ∀ entryBody entryUid shuffle, entryBody.get "definition_id" = .ok (.str uid) →
        createStatusListEntry defined entryBody entryUid shuffle = (defined, .serverError .typeError) := by
  intro defined
  obtain ⟨fields, fieldsOk, rfl, added, serialized⟩ := createStatusListDef_definition accepted
  obtain ⟨-, -, -, -, -, listSizeOk⟩ := definitionFields_eq_ok fieldsOk
  have nullSize : fields.list_size = .null := Except.ok.inj (listSizeOk.symm.trans omitted)
  obtain ⟨tagged, fresh, saved⟩ := BaseRecord.add_eq_ok.mp added
  have stored : defined.definitions = txn.definitions ++ [fields.record uid] := by
    rw [show defined = (createStatusListDef txn body uid).1 from rfl, ← saved]
    rfl
  have retrieved : (BaseRecord.retrieveById defined uid : Except PyError StatusListDefinition) =
      .ok (fields.record uid) := by
    have none : txn.definitions.find? (fun old => old.id == uid) = none :=
      List.find?_eq_none.mpr fun old member same =>
        (BaseRecord.stored_eq_false.mp fresh) old member (by simpa using same)
    simp [BaseRecord.retrieveById, stored, List.find?_append, none, DefinitionFields.record]
  have member : fields.record uid ∈ defined.definitions := by simp [stored]
  have advanced : BaseRecord.serialize
      ({ id := uid, status_purpose := fields.status_purpose, status_size := fields.status_size,
         status_message := fields.status_message, list_size := .null,
         list_cursor := some (nextListCursor none) } : StatusListDefinition) = .ok () := by
    rw [← nullSize]
    exact serialized
  have saveDefinition : BaseRecord.saveTxn defined BaseRecord.update
      ({ id := uid, status_purpose := fields.status_purpose, status_size := fields.status_size,
         status_message := fields.status_message, list_size := .null,
         list_cursor := some (nextListCursor none) } : StatusListDefinition) = .ok _ :=
    BaseRecord.saveTxn_of_ok (BaseRecord.update_of_stored tagged
      (BaseRecord.stored_of_mem member rfl)) advanced
  refine ⟨member, rfl, nullSize, rfl, fun entryBody entryUid shuffle named => ?_⟩
  simp only [createStatusListEntry, createStatusListEntryTxn, named, except_ok_bind,
    JsonValue.recordKey_str nonempty, retrieved]
  simp [DefinitionFields.record, currentStatusList, workingStatusList, newStatusList,
    saveDefinition, nullSize, JsonValue.asIndex, badRequestOnStorage, PyError.isStorageError]

/-- The body without `list_size` is accepted under `firstUuid`, and its first allocation
answers `500`. -/
theorem omitted_list_size_allocation_type_error :
    firstUuid ≠ "" ∧
      (createStatusListDef Store.empty omittedListSize firstUuid).2 =
        .definition ⟨firstUuid, .str "revocation", .int 1, .null, .null, none⟩ ∧
      omittedListSize.get "list_size" = .ok .null ∧
      let defined := (createStatusListDef Store.empty omittedListSize firstUuid).1
      (⟨firstUuid, .str "revocation", .int 1, .null, .null, none⟩ : StatusListDefinition) ∈
          defined.definitions ∧
        firstUuid = firstUuid ∧ JsonValue.null = .null ∧ (none : Option Int) = none ∧
        ∀ entryBody entryUid shuffle, entryBody.get "definition_id" = .ok (.str firstUuid) →
          createStatusListEntry defined entryBody entryUid shuffle =
            (defined, .serverError .typeError) := by
  have nonempty : firstUuid ≠ "" := by decide
  exact ⟨nonempty, rfl, rfl, omitted_list_size_first_allocation_fails Store.empty nonempty rfl rfl⟩

/-- The record `create_status_list_def` saves for `unitSizes` under `firstUuid`. -/
def unitSizesDefinition : StatusListDefinition :=
  ⟨firstUuid, .str "revocation", .int 1, .null, .int 2, none⟩

/-- With the definition's `list_cursor` set and no list tagged with it, the lookup of the current
list raises `StorageNotFoundError`, and the allocation answers `400` and changes nothing. -/
theorem allocation_fails_without_current_list {txn : Store} {body : JsonValue}
    {definitionId : String} {definition : StatusListDefinition} {cursor : Int}
    (named : body.get "definition_id" = .ok (.str definitionId)) (nonempty : definitionId ≠ "")
    (retrieved : (BaseRecord.retrieveById txn definitionId : Except PyError StatusListDefinition) =
      .ok definition)
    (set : definition.list_cursor = some cursor)
    (missing : ∀ statusList ∈ txn.lists, statusList.definition_id = definitionId →
      statusList.sequence ≠ toString cursor)
    (uid : String) (shuffle : Rearrangement Int) :
    createStatusListEntry txn body uid shuffle = (txn, .badRequest .storageNotFound) := by
  have none : (BaseRecord.query txn [("definition_id", definitionId),
      ("sequence", toString cursor)] : List StatusList) = [] :=
    List.eq_nil_iff_forall_not_mem.mpr fun statusList listed => by
      obtain ⟨member, filtered⟩ := BaseRecord.mem_query.mp listed
      obtain ⟨owned, tagged⟩ := (matchesFilter_list _ _ _).mp filtered
      exact missing statusList member owned tagged
  simp [createStatusListEntry, createStatusListEntryTxn, named,
    JsonValue.recordKey_str nonempty, retrieved, set, currentStatusList,
    BaseRecord.retrieveByTagFilter_of_query_eq_nil none, badRequestOnStorage,
    PyError.isStorageError]

/-- After one allocation on a `unitSizes` definition and the deletion of its list, the next
allocation fails. -/
theorem deleted_list_allocation_fails :
    let defined := handle System.initial (.createStatusListDef unitSizes firstUuid)
    let allocated := handle defined.1
      (.createStatusListEntry (entryRequestBody firstUuid) secondUuid reversal)
    let deleted := handle allocated.1 (.deleteStatusList secondUuid)
    Reachable WellSizedRequest deleted.1 ∧ deleted.1.store.lists = [] ∧
      createStatusListEntry deleted.1.store (entryRequestBody firstUuid) thirdUuid reversal =
        (deleted.1.store, .badRequest .storageNotFound) := by
  intro defined allocated deleted
  have reachable : Reachable WellSizedRequest deleted.1 :=
    ⟨_, .step (.step (.step .nil unitSizes_wellSized (by rintro uid ⟨⟩; decide)) trivial
      (by rintro uid ⟨⟩; decide)) trivial (by rintro uid ⟨⟩)⟩
  have cursor : (BaseRecord.retrieveById deleted.1.store firstUuid :
      Except PyError StatusListDefinition).toOption.map (·.list_cursor) = some (some 0) := by
    decide
  cases retrieved : (BaseRecord.retrieveById deleted.1.store firstUuid :
      Except PyError StatusListDefinition) with
  | error cause => rw [retrieved] at cursor; cases cursor
  | ok definition =>
    rw [retrieved] at cursor
    exact ⟨reachable, by decide, @allocation_fails_without_current_list deleted.1.store
      (entryRequestBody firstUuid) firstUuid definition 0 rfl (by decide) retrieved
      (Option.some.inj cursor) (by decide) _ _⟩

/-- The cursor moves by `entry_size` while the entries are tagged with ranks: once the cursor
passed the last rank but not `list_size`, the list is not full, no entry has the cursor's tag,
and the allocation answers `400` and changes nothing. -/
theorem allocation_fails_past_last_rank {sys : System} (consistent : Consistent sys)
    {body : JsonValue} {definition : StatusListDefinition}
    (stored : definition ∈ sys.store.definitions)
    (named : body.get "definition_id" = .ok (.str definition.id)) (nonempty : definition.id ≠ "")
    {cursor : Int} (set : definition.list_cursor = some cursor) {statusList : StatusList}
    (listed : statusList ∈ sys.store.lists) (owned : statusList.definition_id = definition.id)
    (tagged : statusList.sequence = toString cursor)
    (notFull : statusList.entry_cursor < statusList.list_size)
    (pastRanks : (rangeLength 0 statusList.list_size statusList.entry_size : Int) ≤
      statusList.entry_cursor)
    (uid : String) (shuffle : Rearrangement Int) :
    createStatusListEntry sys.store body uid shuffle = (sys.store, .badRequest .storageNotFound) := by
  have currentQuery := consistent.query_list listed
  rw [owned, tagged] at currentQuery
  have noEntry := (consistent.list_shape statusList listed).query_eq_nil pastRanks
  have retrieved : (BaseRecord.retrieveById sys.store definition.id :
      Except PyError StatusListDefinition) = .ok definition :=
    BaseRecord.retrieveById_of_mem consistent.definitions_nodup stored
  simp [createStatusListEntry, createStatusListEntryTxn, named,
    JsonValue.recordKey_str nonempty, retrieved, set, currentStatusList,
    BaseRecord.retrieveByTagFilter_eq_ok.mpr currentQuery, workingStatusList, not_le.mpr notFull,
    assignEntry, cursorFilter, BaseRecord.retrieveByTagFilter_of_query_eq_nil noEntry,
    badRequestOnStorage, PyError.isStorageError]

/-- A definition with `status_size` `2` and `list_size` `3`: `range(0, 3, 2)` is `[0, 2]`, so
each list has two entries, tagged `"0"` and `"1"`. -/
def twoBitSizes : JsonValue :=
  .object [("status_purpose", .str "revocation"), ("status_size", .int 2),
    ("status_message", .object [("0x00", .str "active"), ("0x01", .str "revoked")]),
    ("list_size", .int 3)]

/-- The first allocation on `twoBitSizes` hands out rank `0` and moves the cursor to `2`; the
second looks for the tag `"2"` and fails. -/
theorem second_two_bit_allocation_fails :
    let defined := handle System.initial (.createStatusListDef twoBitSizes firstUuid)
    let allocated := handle defined.1
      (.createStatusListEntry (entryRequestBody firstUuid) secondUuid reversal)
    Reachable WellSizedRequest allocated.1 ∧ allocated.2.slot? = some (secondUuid, "2") ∧
      createStatusListEntry allocated.1.store (entryRequestBody firstUuid) thirdUuid reversal =
        (allocated.1.store, .badRequest .storageNotFound) := by
  have reachable : Reachable WellSizedRequest (handle (handle System.initial
      (.createStatusListDef twoBitSizes firstUuid)).1
      (.createStatusListEntry (entryRequestBody firstUuid) secondUuid reversal)).1 :=
    ⟨_, .step (.step .nil ⟨_, _, rfl, rfl, 2, 3, rfl, rfl, by decide, by decide⟩
      (by rintro uid ⟨⟩; decide)) trivial (by rintro uid ⟨⟩; decide)⟩
  exact ⟨reachable, rfl, @allocation_fails_past_last_rank _ reachable.consistent
    (entryRequestBody firstUuid)
    ⟨firstUuid, .str "revocation", .int 2,
      .object [("0x00", .str "active"), ("0x01", .str "revoked")], .int 3, some 0⟩
    (.head _) rfl (by decide) 0 rfl ⟨secondUuid, firstUuid, "0", 3, 2, 2⟩ (.head _) rfl rfl
    (by decide) (by decide) _ _⟩

/-! ## Every outcome of an allocation -/

section Outcome

variable {sys : System} (reachable : Reachable WellSizedRequest sys)
  {definition : StatusListDefinition} (stored : definition ∈ sys.store.definitions)
  {body : JsonValue} (named : body.get "definition_id" = .ok (.str definition.id))
include reachable stored named

end Outcome

/-- The slot a committed allocation answers with, taken as the path `(status_list_id, index)`
of `get_status_list_entry` and `update_status_list_entry`, addresses the entry the allocation
marked assigned when its list's entry size is positive: reading the path gives that entry, and
every integer status written there changes that entry's status and nothing else. -/
theorem allocated_slot_addresses_entry {allowed : Request → Prop} {sys : System}
    (reachable : Reachable allowed sys) {body : JsonValue} {uid : String}
    {shuffle : Rearrangement Int}
    (admissible : (Request.createStatusListEntry body uid shuffle).Admissible sys)
    {slot : String × String}
    (handed : (handle sys (.createStatusListEntry body uid shuffle)).2.slot? = some slot) :
    let allocated := (handle sys (.createStatusListEntry body uid shuffle)).1.store
    ∃ statusList entry, createStatusListEntryTxn sys.store body uid shuffle =
        .ok (allocated, statusList, entry) ∧
      statusList.id = slot.1 ∧ entry.index = .ok slot.2 ∧ entry ∈ allocated.entries ∧
      entry.is_assigned = true ∧
      (0 < statusList.entry_size →
        getStatusListEntry allocated slot.1 slot.2 = .record entry ∧
        ∀ v : Int, updateStatusListEntry allocated slot.1 slot.2 [.status (.int v)] =
          ({ allocated with entries := allocated.entries.map fun old =>
              if old.id == entry.id then { entry with status := .int v } else old },
            .record { entry with status := .int v })) := by
  intro allocated
  obtain ⟨statusList, entry, committed, named, indexed⟩ := createStatusListEntry_slot handed
  have consistent := reachable.consistent
  have allocatedConsistent : Consistent ⟨allocated, uid :: sys.issued⟩ :=
    consistent.create_entry (admissible uid rfl).1
  obtain ⟨definitionId, definition, current, mid, working, found, -, retrieved, currentOk, worked,
    query, rfl, rfl, stored⟩ := createStatusListEntryTxn_eq_ok committed
  obtain ⟨midConsistent, member, -⟩ :=
    consistent.working_phase (admissible uid rfl).1 retrieved currentOk worked
  obtain ⟨foundMember, filtered⟩ := BaseRecord.mem_of_query_eq_singleton query
  obtain ⟨listIndex, slotMember, foundId, -⟩ := (midConsistent.list_shape working member).slot
    foundMember ((matchesFilter_entry _ _ _).mp filtered).1
  have assigned : { found with is_assigned := true } ∈ allocated.entries := by
    show _ ∈ (createStatusListEntry sys.store body uid shuffle).1.entries
    rw [stored]
    exact (mem_map_replace foundMember).mpr (.inl rfl)
  refine ⟨_, _, committed, named.symm, indexed, assigned, rfl, fun positive => ?_⟩
  have sameIndex : slot.2 = toString listIndex.natAbs := by
    have foundIndex : found.index = .ok (toString listIndex.natAbs) := by
      rw [StatusListEntry.index, foundId, index_entryId]
    exact Except.ok.inj (indexed.symm.trans foundIndex)
  have path : slot.1 ++ "-" ++ slot.2 = found.id := by
    rw [named, advanceCursor_id, sameIndex, foundId, entryId,
      toString_natAbs_of_mem_rangeValues positive slotMember]
  exact ⟨getStatusListEntry_of_mem allocatedConsistent.entries_nodup assigned path
      (createStatusListEntryTxn_serialized committed),
    fun v => updateStatusListEntry_of_mem allocatedConsistent.entries_nodup assigned path _⟩

/-- The first allocation on `unitSizes` answers with the slot `(secondUuid, "1")`, the path of
the entry it assigned. -/
theorem unit_sizes_slot_addresses_entry :
    let defined := (handle System.initial (.createStatusListDef unitSizes firstUuid)).1
    let request : Request :=
      .createStatusListEntry (entryRequestBody firstUuid) secondUuid reversal
    let allocated := (handle defined request).1.store
    Reachable (fun _ => True) defined ∧ request.Admissible defined ∧
      (handle defined request).2.slot? = some (secondUuid, "1") ∧
      ∃ statusList entry, createStatusListEntryTxn defined.store (entryRequestBody firstUuid)
          secondUuid reversal = .ok (allocated, statusList, entry) ∧
        statusList.id = secondUuid ∧ entry.index = .ok "1" ∧ entry ∈ allocated.entries ∧
        entry.is_assigned = true ∧
        (0 < statusList.entry_size →
          getStatusListEntry allocated secondUuid "1" = .record entry ∧
          ∀ v : Int, updateStatusListEntry allocated secondUuid "1" [.status (.int v)] =
            ({ allocated with entries := allocated.entries.map fun old =>
                if old.id == entry.id then { entry with status := .int v } else old },
              .record { entry with status := .int v })) := by
  have reachable : Reachable (fun _ => True)
      (handle System.initial (.createStatusListDef unitSizes firstUuid)).1 :=
    ⟨_, .step .nil trivial (by rintro uid ⟨⟩; decide)⟩
  have admissible : (Request.createStatusListEntry (entryRequestBody firstUuid) secondUuid
      reversal).Admissible (handle System.initial (.createStatusListDef unitSizes firstUuid)).1 := by
    rintro uid ⟨⟩
    decide
  have handed : (handle (handle System.initial (.createStatusListDef unitSizes firstUuid)).1
      (.createStatusListEntry (entryRequestBody firstUuid) secondUuid reversal)).2.slot? =
      some (secondUuid, "1") := by
    decide
  exact ⟨reachable, admissible, handed, allocated_slot_addresses_entry reachable admissible handed⟩

/-- On `negativeSizes` the first allocation assigns the entry `f"{secondUuid}--1"` of slot
`-1` and answers with the index `"1"`: the path `(secondUuid, "1")` names no entry, so reading
it and writing a status there both answer `400` with `StorageNotFoundError`. -/
theorem negative_slot_path_not_found :
    let defined := (handle System.initial (.createStatusListDef negativeSizes firstUuid)).1
    let request : Request :=
      .createStatusListEntry (entryRequestBody firstUuid) secondUuid reversal
    let allocated := (handle defined request).1.store
    Reachable (fun _ => True) defined ∧ request.Admissible defined ∧
      (handle defined request).2.slot? = some (secondUuid, "1") ∧
      getStatusListEntry allocated secondUuid "1" = .badRequest .storageNotFound ∧
      updateStatusListEntry allocated secondUuid "1" [.status (.int 1)] =
        (allocated, .badRequest .storageNotFound) := by
  exact ⟨⟨_, .step .nil trivial (by rintro uid ⟨⟩; decide)⟩, by rintro uid ⟨⟩; decide, by decide,
    rfl, rfl⟩

end StatusListPlugin
