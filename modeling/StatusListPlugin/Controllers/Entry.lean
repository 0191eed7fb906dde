import StatusListPlugin.Storage

/-!
# The status list entry controller

`create_status_list_entry`, `update_status_list_entry`, `get_status_list_entry` and
`recycle_status_list_entry` of `status_list_entry.py`. The allocation runs in one transaction:
it loads the definition and the status list at the definition's `list_cursor`, creates the next
status list when there is none or the current one is full, hands out the entry whose `sequence`
tag is the list's `entry_cursor`, and advances that cursor by the entry size. Each phase of the
transaction is a definition of its own, named after what the source does there. Every `save`
ends with the record's `serialize()`, whose exception aborts the transaction.
-/

namespace StatusListPlugin

/-- The value `list_cursor` is advanced to: `0` from `None`, else one more. -/
def nextListCursor : Option Int → Int
  | none => 0
  | some listCursor => listCursor + 1

/-- Lines 94–103: the status list whose `sequence` tag is the definition's `list_cursor`, or
`None` while the cursor is unset. -/
def currentStatusList (txn : Store) (definitionId : String) :
    Option Int → Except PyError (Option StatusList)
  | none => pure none
  | some listCursor =>
      some <$> BaseRecord.retrieveByTagFilter txn
        [("definition_id", definitionId), ("sequence", toString listCursor)]

/-- Lines 131–138: the entries of a new status list, one per slot in the shuffled order, the
slot's position in that order as its `sequence` tag. -/
def slotEntries (statusListId : String) (entryList : List Int) : List StatusListEntry :=
  entryList.enum.map fun (sequence, listIndex) =>
    { id := entryId statusListId listIndex, status_list_id := statusListId,
      sequence := toString sequence, status := .int 0, is_assigned := false }

/-- Line 139: the entries saved one after another, each as a new record. -/
def addEntries (txn : Store) : List StatusListEntry → Except PyError Store
  | [] => pure txn
  | entry :: rest => do addEntries (← BaseRecord.saveTxn txn BaseRecord.add entry) rest

/-- Lines 110–139: advance the definition's `list_cursor` and save the definition, create the
status list at it under the uuid `uid`, and save one entry per slot of
`list(range(0, list_size, entry_size))` in the order `shuffle` gives. The source saves the new
list before `range` runs; either failing aborts the transaction, so the model reads the sizes
first. The new list's `serialize()` dumps the two sizes the definition's has just dumped, and
each new entry's the status `0`, so neither raises. -/
def newStatusList (txn : Store) (definition : StatusListDefinition) (uid : String)
    (shuffle : Rearrangement Int) : Except PyError (Store × StatusList) := do
  let listCursor := nextListCursor definition.list_cursor
  let txn ← BaseRecord.saveTxn txn BaseRecord.update
    { definition with list_cursor := some listCursor }
  let listSize ← definition.list_size.asIndex
  let entrySize ← definition.status_size.asIndex
  let entryList ← range 0 listSize entrySize
  let statusList : StatusList :=
    { id := uid, definition_id := definition.id, sequence := toString listCursor,
      list_size := listSize, entry_size := entrySize, entry_cursor := 0 }
  let txn ← BaseRecord.saveTxn txn BaseRecord.add statusList
  let txn ← addEntries txn (slotEntries statusList.id (shuffle.apply entryList))
  pure (txn, statusList)

/-- Lines 105–139: the status list the entry is taken from, a new one when there is no
current list or its `entry_cursor` reached its `list_size`. -/
def workingStatusList (txn : Store) (definition : StatusListDefinition) (uid : String)
    (shuffle : Rearrangement Int) : Option StatusList → Except PyError (Store × StatusList)
  | none => newStatusList txn definition uid shuffle
  | some statusList =>
      if statusList.entry_cursor ≥ statusList.list_size then
        newStatusList txn definition uid shuffle
      else pure (txn, statusList)

/-- Lines 142–145: the tag filter the entry is looked up with. -/
def cursorFilter (statusList : StatusList) : List (String × String) :=
  [("status_list_id", statusList.id), ("sequence", toString statusList.entry_cursor)]

/-- Lines 142–150: the entry whose `sequence` tag is `str(entry_cursor)`, marked assigned. -/
def assignEntry (txn : Store) (statusList : StatusList) :
    Except PyError (Store × StatusListEntry) := do
  let entry : StatusListEntry ← BaseRecord.retrieveByTagFilter txn (cursorFilter statusList)
  let entry := { entry with is_assigned := true }
  let txn ← BaseRecord.saveTxn txn BaseRecord.update entry
  pure (txn, entry)

/-- Lines 153–154: the list's `entry_cursor` advanced by its entry size. -/
def advanceCursor (statusList : StatusList) : StatusList :=
  { statusList with entry_cursor := statusList.entry_cursor + statusList.entry_size }

@[simp] theorem advanceCursor_id (statusList : StatusList) :
    (advanceCursor statusList).id = statusList.id := rfl

/-- The list an advanced cursor came from is determined: its cursor is the new one less the
entry size. -/
theorem advanceCursor_injective : Function.Injective advanceCursor := by
  rintro ⟨id, definition_id, sequence, list_size, entry_size, entry_cursor⟩
    ⟨id', definition_id', sequence', list_size', entry_size', entry_cursor'⟩ same
  simp only [advanceCursor, StatusList.mk.injEq] at same
  obtain ⟨rfl, rfl, rfl, rfl, rfl, cursors⟩ := same
  rw [add_right_cancel cursors]

@[simp] theorem advanceCursor_definition_id (statusList : StatusList) :
    (advanceCursor statusList).definition_id = statusList.definition_id := rfl

@[simp] theorem advanceCursor_sequence (statusList : StatusList) :
    (advanceCursor statusList).sequence = statusList.sequence := rfl

@[simp] theorem advanceCursor_list_size (statusList : StatusList) :
    (advanceCursor statusList).list_size = statusList.list_size := rfl

@[simp] theorem advanceCursor_entry_size (statusList : StatusList) :
    (advanceCursor statusList).entry_size = statusList.entry_size := rfl

@[simp] theorem advanceCursor_entry_cursor (statusList : StatusList) :
    (advanceCursor statusList).entry_cursor =
      statusList.entry_cursor + statusList.entry_size := rfl

/-- The transaction of `create_status_list_entry`, lines 89–157: the store it commits, the
status list and the assigned entry. -/
def createStatusListEntryTxn (txn : Store) (body : JsonValue) (uid : String)
    (shuffle : Rearrangement Int) : Except PyError (Store × StatusList × StatusListEntry) := do
  let definitionId ← (← body.get "definition_id").recordKey
  let definition : StatusListDefinition ← BaseRecord.retrieveById txn definitionId
  let current ← currentStatusList txn definitionId definition.list_cursor
  let (txn, statusList) ← workingStatusList txn definition uid shuffle current
  let (txn, entry) ← assignEntry txn statusList
  let statusList := advanceCursor statusList
  let txn ← BaseRecord.saveTxn txn BaseRecord.update statusList
  pure (txn, statusList, entry)

/-- `create_status_list_entry`: a failed transaction is rolled back; after the commit the
response reads the entry's `index`. -/
def createStatusListEntry (txn : Store) (body : JsonValue) (uid : String)
    (shuffle : Rearrangement Int) : Store × Response :=
  match createStatusListEntryTxn txn body uid shuffle with
  | .error cause => (txn, badRequestOnStorage cause)
  | .ok (committed, statusList, entry) =>
      match entry.index with
      | .ok index => (committed, .entry statusList.id index entry.status)
      | .error cause => (committed, .serverError cause)

/-- An item of an `update_status_list_entry` body whose key names a field of the entry and whose
value has that field's type: `setattr` sets the field, and `id` and `index`, properties without
a setter, raise `AttributeError`. -/
inductive EntrySetting
  | status_list_id (value : String)
  | sequence (value : String)
  | status (value : JsonValue)
  | is_assigned (value : Bool)
  | id (value : JsonValue)
  | index (value : JsonValue)

/-- `setattr(record, attr, value)` on an entry. -/
def EntrySetting.setattr (record : StatusListEntry) : EntrySetting → Except PyError StatusListEntry
  | .status_list_id value => pure { record with status_list_id := value }
  | .sequence value => pure { record with sequence := value }
  | .status value => pure { record with status := value }
  | .is_assigned value => pure { record with is_assigned := value }
  | .id _ | .index _ => throw .attributeError

/-- `update_status_list_entry`, lines 286–317: the entry `f"{status_list_id}-{index}"` with the
body's items set. -/
def updateStatusListEntry (txn : Store) (status_list_id index : String)
    (body : List EntrySetting) : Store × Response :=
  patchRecord EntrySetting.setattr .record txn (status_list_id ++ "-" ++ index) body

/-- `get_status_list_entry`, lines 254–271: the entry `f"{status_list_id}-{index}"`, read and
serialized in a session that leaves the store as it was. -/
def getStatusListEntry (txn : Store) (status_list_id index : String) : Response :=
  match (do
      let record : StatusListEntry ← BaseRecord.retrieveById txn (status_list_id ++ "-" ++ index)
      record.serialize
      pure record : Except PyError StatusListEntry) with
  | .ok record => .record record
  | .error cause => badRequestOnStorage cause

/-- `recycle_status_list_entry`, lines 327–350: the entry the filter
`{"status_list_id": status_list_id, "index": index}` finds, reset and saved. After the session
the handler reads `entry.value`, which a `StatusListEntry` does not have, and would then call
`serialize` on a plain `dict`; both raise `AttributeError` outside the `try`. -/
def recycleStatusListEntry (txn : Store) (status_list_id index : String) : Store × Response :=
  match (BaseRecord.retrieveByTagFilter txn
      [("status_list_id", status_list_id), ("index", index)] : Except PyError StatusListEntry) with
  | .error cause => (txn, badRequestOnStorage cause)
  | .ok entry =>
      match BaseRecord.save txn BaseRecord.update { entry with status := .int 0, is_assigned := false } with
      | (saved, .ok ()) => (saved, .serverError .attributeError)
      | (saved, .error cause) => (saved, badRequestOnStorage cause)

/-! ## What each phase does -/

theorem addEntries_eq_ok {txn txn' : Store} {entries : List StatusListEntry}
    (added : addEntries txn entries = .ok txn') :
    txn' = { txn with entries := txn.entries ++ entries } ∧
      ((txn.entries.map (·.id)).Nodup → ((txn.entries ++ entries).map (·.id)).Nodup) := by
  induction entries generalizing txn with
  | nil =>
      cases added
      simp
  | cons entry rest inductionHypothesis =>
      obtain ⟨mid, addedOne, addedRest⟩ := except_bind_eq_ok.mp added
      obtain ⟨-, fresh, rfl⟩ := BaseRecord.add_eq_ok.mp (BaseRecord.saveTxn_eq_ok.mp addedOne).1
      obtain ⟨rfl, nodupRest⟩ := inductionHypothesis addedRest
      refine ⟨by simp, fun nodup => ?_⟩
      have nodupOne : ((txn.entries ++ [entry]).map (·.id)).Nodup := by
        simpa [List.nodup_append] using ⟨nodup, BaseRecord.stored_eq_false.mp fresh⟩
      simpa using nodupRest nodupOne

/-- The definition with its `list_cursor` advanced, as `newStatusList` saves it. -/
def advanceListCursor (definition : StatusListDefinition) : StatusListDefinition :=
  { definition with list_cursor := some (nextListCursor definition.list_cursor) }

/-- Everything `newStatusList` did when it succeeded. -/
structure CreatedStatusList (txn : Store) (definition : StatusListDefinition) (uid : String)
    (shuffle : Rearrangement Int) (txn' : Store) (statusList : StatusList) : Prop where
  list_size_eq : definition.list_size.asIndex = .ok statusList.list_size
  entry_size_eq : definition.status_size.asIndex = .ok statusList.entry_size
  entry_size_ne_zero : statusList.entry_size ≠ 0
  id_eq : statusList.id = uid
  definition_id_eq : statusList.definition_id = definition.id
  sequence_eq : statusList.sequence = toString (nextListCursor definition.list_cursor)
  entry_cursor_eq : statusList.entry_cursor = 0
  definition_stored : ∃ old ∈ txn.definitions, old.id = definition.id
  fresh_list : ∀ old ∈ txn.lists, old.id ≠ uid
  definitions_eq : txn'.definitions = txn.definitions.map fun old =>
    if old.id == definition.id then advanceListCursor definition else old
  lists_eq : txn'.lists = txn.lists ++ [statusList]
  entries_eq : txn'.entries = txn.entries ++
    slotEntries uid (shuffle.apply (rangeValues 0 statusList.list_size statusList.entry_size))
  entries_nodup : (txn.entries.map (·.id)).Nodup → (txn'.entries.map (·.id)).Nodup
  tags_accepted : definition.tagsAccepted = true
  definition_serialized : definition.serialize = .ok ()
  slots_bounded : rangeLength 0 statusList.list_size statusList.entry_size ≤ maxSize

theorem newStatusList_eq_ok {txn txn' : Store} {definition : StatusListDefinition}
    {uid : String} {shuffle : Rearrangement Int} {statusList : StatusList}
    (created : newStatusList txn definition uid shuffle = .ok (txn', statusList)) :
    CreatedStatusList txn definition uid shuffle txn' statusList := by
  simp only [newStatusList, except_bind_eq_ok] at created
  obtain ⟨saved, savedDefinition, listSize, listSizeOk, entrySize, entrySizeOk, entryList,
    ranged, added, addedList, withEntries, addedEntries, done⟩ := created
  cases done
  obtain ⟨updated, serialized⟩ := BaseRecord.saveTxn_eq_ok.mp savedDefinition
  obtain ⟨accepted, stored, rfl⟩ := BaseRecord.update_eq_ok.mp updated
  obtain ⟨-, fresh, rfl⟩ := BaseRecord.add_eq_ok.mp (BaseRecord.saveTxn_eq_ok.mp addedList).1
  obtain ⟨step, bounded, rfl⟩ := range_eq_ok.mp ranged
  obtain ⟨rfl, nodup⟩ := addEntries_eq_ok addedEntries
  refine ⟨listSizeOk, entrySizeOk, step, rfl, rfl, rfl, rfl, ?_, ?_, ?_, ?_, rfl, ?_, accepted,
    serialized, bounded⟩
  · simpa [BaseRecord.stored] using stored
  · simpa using BaseRecord.stored_eq_false.mp fresh
  · simp [advanceListCursor]
  · simp
  · simpa using nodup

/-- The current list, when there is one, is the one list the definition's cursor tags. -/
theorem currentStatusList_eq_ok {txn : Store} {definitionId : String} {listCursor : Option Int}
    {statusList : StatusList}
    (found : currentStatusList txn definitionId listCursor = .ok (some statusList)) :
    ∃ cursor, listCursor = some cursor ∧ (BaseRecord.query txn
      [("definition_id", definitionId), ("sequence", toString cursor)] : List StatusList) =
        [statusList] := by
  cases listCursor with
  | none => cases found
  | some cursor =>
      obtain ⟨retrievedList, retrieved, equal⟩ := except_map_eq_ok.mp found
      cases equal
      exact ⟨cursor, rfl, BaseRecord.retrieveByTagFilter_eq_ok.mp retrieved⟩

/-- The working list is the current one, when it is not full, or a new one. -/
theorem workingStatusList_eq_ok {txn txn' : Store} {definition : StatusListDefinition}
    {uid : String} {shuffle : Rearrangement Int} {current : Option StatusList}
    {working : StatusList}
    (worked : workingStatusList txn definition uid shuffle current = .ok (txn', working)) :
    (txn' = txn ∧ current = some working ∧ working.entry_cursor < working.list_size) ∨
      CreatedStatusList txn definition uid shuffle txn' working := by
  cases current with
  | none => exact .inr (newStatusList_eq_ok worked)
  | some statusList =>
      simp only [workingStatusList] at worked
      split at worked
      · exact .inr (newStatusList_eq_ok worked)
      · cases worked
        exact .inl ⟨rfl, rfl, by omega⟩

/-- While the current list has room, it is the working list and nothing is saved. -/
theorem workingStatusList_of_room {txn : Store} {definition : StatusListDefinition} {uid : String}
    {shuffle : Rearrangement Int} {statusList : StatusList}
    (room : statusList.entry_cursor < statusList.list_size) :
    workingStatusList txn definition uid shuffle (some statusList) = .ok (txn, statusList) := by
  simp [workingStatusList, not_le.mpr room]

theorem assignEntry_eq_ok {txn txn' : Store} {statusList : StatusList} {entry : StatusListEntry}
    (assigned : assignEntry txn statusList = .ok (txn', entry)) :
    ∃ found, (BaseRecord.query txn (cursorFilter statusList) : List StatusListEntry) = [found] ∧
      entry = { found with is_assigned := true } ∧
      txn' = { txn with entries := txn.entries.map fun old =>
        if old.id == found.id then entry else old } := by
  simp only [assignEntry, except_bind_eq_ok] at assigned
  obtain ⟨found, retrieved, saved, updated, done⟩ := assigned
  cases done
  obtain ⟨-, -, rfl⟩ := BaseRecord.update_eq_ok.mp (BaseRecord.saveTxn_eq_ok.mp updated).1
  exact ⟨found, BaseRecord.retrieveByTagFilter_eq_ok.mp retrieved, rfl, by simp⟩

/-- The entry handed out has a status that serializes. -/
theorem assignEntry_serialized {txn txn' : Store} {statusList : StatusList}
    {entry : StatusListEntry} (assigned : assignEntry txn statusList = .ok (txn', entry)) :
    entry.serialize = .ok () := by
  simp only [assignEntry, except_bind_eq_ok] at assigned
  obtain ⟨found, -, saved, updated, done⟩ := assigned
  cases done
  exact (BaseRecord.saveTxn_eq_ok.mp updated).2

theorem assignEntry_of_query {txn : Store} {statusList : StatusList} {found : StatusListEntry}
    (query : (BaseRecord.query txn (cursorFilter statusList) : List StatusListEntry) = [found])
    (serialized : found.serialize = .ok ()) :
    assignEntry txn statusList = .ok ({ txn with entries := txn.entries.map fun old =>
      if old.id == found.id then { found with is_assigned := true } else old },
      { found with is_assigned := true }) := by
  have saved : BaseRecord.saveTxn txn BaseRecord.update { found with is_assigned := true } =
      .ok _ :=
    BaseRecord.saveTxn_of_ok (BaseRecord.update_of_stored rfl
      (BaseRecord.stored_of_mem (BaseRecord.mem_of_query_eq_singleton query).1 rfl)) serialized
  rw [assignEntry, BaseRecord.retrieveByTagFilter_eq_ok.mpr query, except_ok_bind]
  dsimp only
  rw [saved, except_ok_bind, except_pure_eq]
  simp

/-- Every phase of a committed `create_status_list_entry` transaction. -/
theorem createStatusListEntryTxn_eq_ok {txn txn' : Store} {body : JsonValue} {uid : String}
    {shuffle : Rearrangement Int} {statusList : StatusList} {entry : StatusListEntry}
    (committed : createStatusListEntryTxn txn body uid shuffle = .ok (txn', statusList, entry)) :
    ∃ definitionId definition current mid working found,
      body.get "definition_id" = .ok (.str definitionId) ∧
      (BaseRecord.retrieveById txn definitionId : Except PyError StatusListDefinition) =
        .ok definition ∧
      currentStatusList txn definitionId definition.list_cursor = .ok current ∧
      workingStatusList txn definition uid shuffle current = .ok (mid, working) ∧
      (BaseRecord.query mid (cursorFilter working) : List StatusListEntry) = [found] ∧
      entry = { found with is_assigned := true } ∧
      statusList = advanceCursor working ∧
      txn' = { mid with
        entries := mid.entries.map fun old => if old.id == found.id then entry else old,
        lists := mid.lists.map fun old => if old.id == working.id then statusList else old } := by
  simp only [createStatusListEntryTxn, except_bind_eq_ok] at committed
  obtain ⟨bodyValue, bodyOk, definitionId, keyOk, definition, retrieved, current, currentOk,
    ⟨mid, working⟩, workingOk, ⟨assigned, assignedEntry⟩, assignedOk, saved, updated, done⟩ :=
    committed
  cases done
  obtain ⟨rfl, -⟩ := JsonValue.recordKey_eq_ok keyOk
  obtain ⟨found, query, rfl, rfl⟩ := assignEntry_eq_ok assignedOk
  obtain ⟨-, -, rfl⟩ := BaseRecord.update_eq_ok.mp (BaseRecord.saveTxn_eq_ok.mp updated).1
  exact ⟨definitionId, definition, current, mid, working, found, bodyOk, retrieved, currentOk,
    workingOk, query, rfl, rfl, by simp⟩

/-- The entry a committed transaction hands out has a status that serializes. -/
theorem createStatusListEntryTxn_serialized {txn txn' : Store} {body : JsonValue} {uid : String}
    {shuffle : Rearrangement Int} {statusList : StatusList} {entry : StatusListEntry}
    (committed : createStatusListEntryTxn txn body uid shuffle = .ok (txn', statusList, entry)) :
    entry.serialize = .ok () := by
  simp only [createStatusListEntryTxn, except_bind_eq_ok] at committed
  obtain ⟨bodyValue, bodyOk, definitionId, keyOk, definition, retrieved, current, currentOk,
    ⟨mid, working⟩, workingOk, ⟨assigned, assignedEntry⟩, assignedOk, saved, updated, done⟩ :=
    committed
  cases done
  exact assignEntry_serialized assignedOk

/-- The store `create_status_list_entry` leaves: the old one, or the one its transaction
committed. -/
theorem createStatusListEntry_store (txn : Store) (body : JsonValue) (uid : String)
    (shuffle : Rearrangement Int) :
    (createStatusListEntry txn body uid shuffle).1 = txn ∨
      ∃ statusList entry, createStatusListEntryTxn txn body uid shuffle =
        .ok ((createStatusListEntry txn body uid shuffle).1, statusList, entry) := by
  unfold createStatusListEntry
  split
  · exact .inl rfl
  · rename_i committed statusList entry done
    refine .inr ⟨statusList, entry, ?_⟩
    split <;> exact done

/-- A slot `create_status_list_entry` answers with comes from its committed transaction: the
status list's id and the index of the assigned entry. -/
theorem createStatusListEntry_slot {txn : Store} {body : JsonValue} {uid : String}
    {shuffle : Rearrangement Int} {slot : String × String}
    (handed : (createStatusListEntry txn body uid shuffle).2.slot? = some slot) :
    ∃ statusList entry, createStatusListEntryTxn txn body uid shuffle =
        .ok ((createStatusListEntry txn body uid shuffle).1, statusList, entry) ∧
      slot.1 = statusList.id ∧ entry.index = .ok slot.2 := by
  cases committed : createStatusListEntryTxn txn body uid shuffle with
  | error cause => simp [createStatusListEntry, committed] at handed
  | ok result =>
      obtain ⟨committedStore, statusList, entry⟩ := result
      cases indexed : entry.index with
      | error cause =>
          simp [createStatusListEntry, committed, indexed, Response.slot?] at handed
      | ok index =>
          simp only [createStatusListEntry, committed, indexed, Response.slot?,
            Option.some.injEq] at handed ⊢
          subst handed
          exact ⟨statusList, entry, rfl, rfl, indexed⟩

/-- The store `update_status_list_entry` with the body `{"status": status}` leaves: the old one,
or the old one with one entry's status changed. -/
theorem updateStatusListEntry_store (txn : Store) (status_list_id index : String)
    (status : JsonValue) :
    (updateStatusListEntry txn status_list_id index [.status status]).1 = txn ∨
      ∃ found ∈ txn.entries, (updateStatusListEntry txn status_list_id index [.status status]).1 =
        { txn with entries := txn.entries.map fun old =>
          if old.id == found.id then { found with status := status } else old } := by
  rcases patchRecord_store EntrySetting.setattr Response.record txn
    (status_list_id ++ "-" ++ index) [.status status] with kept | ⟨found, patched, retrieved,
    applied, updated⟩
  · exact .inl kept
  · simp only [List.foldlM, EntrySetting.setattr, except_pure_eq, except_ok_bind,
      Except.ok.injEq] at applied
    subst applied
    obtain ⟨-, -, written⟩ := BaseRecord.update_eq_ok.mp updated
    refine .inr ⟨found, (BaseRecord.retrieveById_eq_ok retrieved).1, ?_⟩
    rw [updateStatusListEntry, ← written]
    simp

/-- What `get_status_list_entry` and `update_status_list_entry` answer for the entry they
read or wrote: `record.serialize()`, or `500` when it raises. -/
def entryAnswer (entry : StatusListEntry) : Response :=
  match entry.serialize with
  | .ok () => .record entry
  | .error cause => .serverError cause

/-- The path of an entry reads it. -/
theorem getStatusListEntry_of_retrieved {txn : Store} {status_list_id index : String}
    {entry : StatusListEntry}
    (retrieved : BaseRecord.retrieveById txn (status_list_id ++ "-" ++ index) = .ok entry) :
    getStatusListEntry txn status_list_id index = entryAnswer entry := by
  rw [getStatusListEntry, retrieved, except_ok_bind]
  cases serialized : entry.serialize with
  | ok => simp [entryAnswer, serialized]
  | error cause =>
      simp [entryAnswer, serialized, badRequestOnStorage,
        BaseRecord.serialize_not_storage entry cause serialized]

/-- The path `(status_list_id, index)` of a stored entry whose id is
`f"{status_list_id}-{index}"` reads that entry, when it serializes. -/
theorem getStatusListEntry_of_mem {txn : Store} {entry : StatusListEntry}
    (nodup : (txn.entries.map (·.id)).Nodup) (member : entry ∈ txn.entries)
    {status_list_id index : String} (named : status_list_id ++ "-" ++ index = entry.id)
    (serialized : entry.serialize = .ok ()) :
    getStatusListEntry txn status_list_id index = .record entry := by
  rw [getStatusListEntry_of_retrieved (by rw [named]; exact BaseRecord.retrieveById_of_mem nodup member),
    entryAnswer, serialized]

/-- The id `f"{status_list_id}-{index}"` the entry handlers read is never empty. -/
theorem entryPath_ne_empty (status_list_id index : String) :
    status_list_id ++ "-" ++ index ≠ "" := fun empty => by
  have lengths := congrArg String.length empty
  have dash : "-".length = 1 := rfl
  simp only [String.length_append, dash, String.length_empty] at lengths
  omega

/-- An update at the path of an entry sets that entry's status and changes nothing else; it
answers the entry, or `500` when the new status does not serialize. -/
theorem updateStatusListEntry_of_retrieved {txn : Store} {status_list_id index : String}
    {entry : StatusListEntry}
    (retrieved : BaseRecord.retrieveById txn (status_list_id ++ "-" ++ index) = .ok entry)
    (status : JsonValue) :
    updateStatusListEntry txn status_list_id index [.status status] =
      ({ txn with entries := txn.entries.map fun old =>
          if old.id == entry.id then { entry with status := status } else old },
        entryAnswer { entry with status := status }) :=
  patchRecord_of_retrieved (entryPath_ne_empty _ _) retrieved
    (show [EntrySetting.status status].foldlM EntrySetting.setattr entry =
      .ok { entry with status := status } from rfl) rfl rfl

theorem updateStatusListEntry_of_mem {txn : Store} {entry : StatusListEntry}
    (nodup : (txn.entries.map (·.id)).Nodup) (member : entry ∈ txn.entries)
    {status_list_id index : String} (named : status_list_id ++ "-" ++ index = entry.id)
    (status : JsonValue) :
    updateStatusListEntry txn status_list_id index [.status status] =
      ({ txn with entries := txn.entries.map fun old =>
          if old.id == entry.id then { entry with status := status } else old },
        entryAnswer { entry with status := status }) :=
  updateStatusListEntry_of_retrieved
    (by rw [named]; exact BaseRecord.retrieveById_of_mem nodup member) status

/-- No entry has an `index` tag, so the lookup of `recycle_status_list_entry` never finds its
entry. -/
theorem retrieveByTagFilter_index (txn : Store) (status_list_id index : String) :
    (BaseRecord.retrieveByTagFilter txn [("status_list_id", status_list_id), ("index", index)] :
      Except PyError StatusListEntry) = .error .storageNotFound := by
  have noMatch : (BaseRecord.query txn [("status_list_id", status_list_id), ("index", index)] :
      List StatusListEntry) = [] := by
    simp [BaseRecord.query, matchesFilter_index]
  exact BaseRecord.retrieveByTagFilter_of_query_eq_nil noMatch

/-- `recycle_status_list_entry` leaves the store as it was. -/
theorem recycleStatusListEntry_store (txn : Store) (status_list_id index : String) :
    (recycleStatusListEntry txn status_list_id index).1 = txn := by
  simp [recycleStatusListEntry, retrieveByTagFilter_index]

/-- `recycle_status_list_entry` never resets an entry: its lookup filters on an `index` tag that
no entry carries, so every call, whatever the store and the path, answers `400` with
`StorageNotFoundError` and leaves the store as it was. -/
theorem recycle_status_list_entry_not_found (txn : Store) (status_list_id index : String) :
    recycleStatusListEntry txn status_list_id index = (txn, .badRequest .storageNotFound) := by
  simp [recycleStatusListEntry, retrieveByTagFilter_index, badRequestOnStorage,
    PyError.isStorageError]

end StatusListPlugin
