import StatusListPlugin.Models

/-!
# What the store operations do

One lemma per `BaseRecord` operation saying exactly when it succeeds and what store it
leaves, and `rfl` lemmas reading each record class's table and tags. Proofs about the
handlers cite these and never unfold the operations.
-/

namespace StatusListPlugin

/-! ## The three record classes -/

@[simp] theorem table_definitions (txn : Store) :
    (BaseRecord.table txn : List StatusListDefinition) = txn.definitions := rfl

@[simp] theorem table_lists (txn : Store) :
    (BaseRecord.table txn : List StatusList) = txn.lists := rfl

@[simp] theorem table_entries (txn : Store) :
    (BaseRecord.table txn : List StatusListEntry) = txn.entries := rfl

@[simp] theorem setTable_definitions (txn : Store) (definitions : List StatusListDefinition) :
    BaseRecord.setTable txn definitions = { txn with definitions } := rfl

@[simp] theorem setTable_lists (txn : Store) (lists : List StatusList) :
    BaseRecord.setTable txn lists = { txn with lists } := rfl

@[simp] theorem setTable_entries (txn : Store) (entries : List StatusListEntry) :
    BaseRecord.setTable txn entries = { txn with entries } := rfl

@[simp] theorem recordId_definition (definition : StatusListDefinition) :
    BaseRecord.recordId definition = definition.id := rfl

@[simp] theorem recordId_list (statusList : StatusList) :
    BaseRecord.recordId statusList = statusList.id := rfl

@[simp] theorem recordId_entry (entry : StatusListEntry) :
    BaseRecord.recordId entry = entry.id := rfl

@[simp] theorem tags_list (statusList : StatusList) :
    BaseRecord.tags statusList = statusList.tags := rfl

@[simp] theorem tagsAccepted_definition (definition : StatusListDefinition) :
    BaseRecord.tagsAccepted definition = definition.tagsAccepted := rfl

@[simp] theorem tagsAccepted_list (statusList : StatusList) :
    BaseRecord.tagsAccepted statusList = true := rfl

@[simp] theorem tagsAccepted_entry (entry : StatusListEntry) :
    BaseRecord.tagsAccepted entry = true := rfl

@[simp] theorem serialize_definition (definition : StatusListDefinition) :
    BaseRecord.serialize definition = definition.serialize := rfl

@[simp] theorem serialize_list (statusList : StatusList) :
    BaseRecord.serialize statusList = .ok () := rfl

@[simp] theorem serialize_entry (entry : StatusListEntry) :
    BaseRecord.serialize entry = entry.status.dumpInt := rfl

@[simp] theorem tags_entry (entry : StatusListEntry) :
    BaseRecord.tags entry = entry.tags := rfl

/-- A list matches a filter on its definition and sequence exactly when it has both. -/
@[simp] theorem matchesFilter_list (statusList : StatusList) (definitionId sequence : String) :
    BaseRecord.matchesFilter [("definition_id", definitionId), ("sequence", sequence)]
        statusList = true ↔
      statusList.definition_id = definitionId ∧ statusList.sequence = sequence := by
  simp [BaseRecord.matchesFilter, StatusList.tags, @eq_comm _ definitionId, @eq_comm _ sequence]

@[simp] theorem matchesFilter_definition_id (statusList : StatusList) (definitionId : String) :
    BaseRecord.matchesFilter [("definition_id", definitionId)] statusList = true ↔
      statusList.definition_id = definitionId := by
  simp [BaseRecord.matchesFilter, StatusList.tags, @eq_comm _ definitionId]

/-- An entry matches a filter on its list and sequence exactly when it has both. -/
@[simp] theorem matchesFilter_entry (entry : StatusListEntry) (statusListId sequence : String) :
    BaseRecord.matchesFilter [("status_list_id", statusListId), ("sequence", sequence)]
        entry = true ↔
      entry.status_list_id = statusListId ∧ entry.sequence = sequence := by
  simp [BaseRecord.matchesFilter, StatusListEntry.tags, @eq_comm _ statusListId,
    @eq_comm _ sequence]

@[simp] theorem matchesFilter_status_list_id (entry : StatusListEntry) (statusListId : String) :
    BaseRecord.matchesFilter [("status_list_id", statusListId)] entry = true ↔
      entry.status_list_id = statusListId := by
  simp [BaseRecord.matchesFilter, StatusListEntry.tags, @eq_comm _ statusListId]

/-- No entry carries an `index` tag: `TAG_NAMES` has none. -/
theorem matchesFilter_index (entry : StatusListEntry) (statusListId index : String) :
    BaseRecord.matchesFilter [("status_list_id", statusListId), ("index", index)] entry = false := by
  simp [BaseRecord.matchesFilter, StatusListEntry.tags]

/-! ## The operations -/

namespace BaseRecord

variable {α : Type} [BaseRecord α] {txn txn' : Store} {record : α}

theorem stored_eq_false {key : String} :
    stored (α := α) txn key = false ↔ ∀ old ∈ (table txn : List α), recordId old ≠ key := by
  simp [stored]

theorem retrieveById_eq_ok {key : String} (retrieved : retrieveById txn key = .ok record) :
    record ∈ (table txn : List α) ∧ recordId record = key := by
  unfold retrieveById at retrieved
  split at retrieved
  · rename_i found
    cases retrieved
    exact ⟨List.mem_of_find?_eq_some found, by simpa using List.find?_some found⟩
  · cases retrieved

theorem mem_query {filter : List (String × String)} :
    record ∈ (query txn filter : List α) ↔ record ∈ (table txn : List α) ∧
      matchesFilter filter record = true := by
  simp [query]

theorem retrieveByTagFilter_eq_ok {filter : List (String × String)} :
    retrieveByTagFilter txn filter = .ok record ↔ (query txn filter : List α) = [record] := by
  unfold retrieveByTagFilter
  split <;> simp_all

theorem mem_of_query_eq_singleton {filter : List (String × String)}
    (found : (query txn filter : List α) = [record]) :
    record ∈ (table txn : List α) ∧ matchesFilter filter record = true := by
  have listed : record ∈ (query txn filter : List α) := by
    rw [found]
    exact List.mem_singleton_self record
  exact mem_query.mp listed

theorem retrieveByTagFilter_of_query_eq_nil {filter : List (String × String)}
    (none : (query txn filter : List α) = []) :
    (retrieveByTagFilter txn filter : Except PyError α) = .error .storageNotFound := by
  simp [retrieveByTagFilter, none]

/-- A table holds the id of each of its records, and of every record saved under one of
them. -/
theorem stored_of_mem {old : α} (member : old ∈ (table txn : List α))
    (sameId : recordId old = recordId record) : stored (α := α) txn (recordId record) = true := by
  simp only [stored, List.any_eq_true, beq_iff_eq]
  exact ⟨old, member, sameId⟩

theorem update_of_stored (accepted : tagsAccepted record = true)
    (present : stored (α := α) txn (recordId record) = true) :
    update txn record = .ok (setTable txn ((table txn).map fun (old : α) =>
      if recordId old == recordId record then record else old)) := by
  simp [update, accepted, present]

theorem add_eq_ok :
    add txn record = .ok txn' ↔ tagsAccepted record = true ∧
      stored (α := α) txn (recordId record) = false ∧ setTable txn (table txn ++ [record]) = txn' := by
  unfold add
  split_ifs <;> simp_all

theorem update_eq_ok :
    update txn record = .ok txn' ↔ tagsAccepted record = true ∧
      stored (α := α) txn (recordId record) = true ∧
        setTable txn ((table txn).map fun (old : α) =>
          if recordId old == recordId record then record else old) = txn' := by
  unfold update
  split_ifs <;> simp_all

/-- In a session, a `save` whose write went through leaves the written store, and raises what
`serialize` raises. -/
theorem save_of_ok {write : Store → α → Except PyError Store} (written : write txn record = .ok txn') :
    save txn write record = (txn', serialize record) := by
  simp [save, written]

/-- In a session, a `save` whose write raised leaves the store as it was. -/
theorem save_of_error {write : Store → α → Except PyError Store} {cause : PyError}
    (failed : write txn record = .error cause) :
    (save txn write record).1 = txn := by
  simp [save, failed]

/-- A `save` that did not raise wrote, and its record serialized. -/
theorem save_eq_ok {write : Store → α → Except PyError Store} :
    save txn write record = (txn', .ok ()) ↔
      write txn record = .ok txn' ∧ serialize record = .ok () := by
  unfold save
  cases write txn record <;> cases serialize record <;>
    simp [SeqRight.seqRight, bind, Except.bind, eq_comm]

/-- In a transaction, a `save` returns exactly when its write went through and `serialize`
did not raise. -/
theorem saveTxn_eq_ok {write : Store → α → Except PyError Store} :
    saveTxn txn write record = .ok txn' ↔ write txn record = .ok txn' ∧ serialize record = .ok () := by
  unfold saveTxn save
  cases write txn record <;> cases serialize record <;>
    simp [SeqRight.seqRight, bind, Except.bind, Except.map]

theorem saveTxn_of_ok {write : Store → α → Except PyError Store} (written : write txn record = .ok txn')
    (serialized : serialize record = .ok ()) : saveTxn txn write record = .ok txn' :=
  saveTxn_eq_ok.mpr ⟨written, serialized⟩

theorem deleteRecord_eq_ok :
    deleteRecord txn record = .ok txn' ↔
      stored (α := α) txn (recordId record) = true ∧
        setTable txn ((table txn).filter fun (old : α) => recordId old != recordId record) = txn' := by
  unfold deleteRecord
  split <;> simp_all

end BaseRecord

/-! ## Tables with unique ids -/

section UniqueIds

variable {α β : Type} {records : List α} {id : α → String}

/-- In a table with unique ids, a record is determined by its id. -/
theorem eq_of_id_eq (nodup : (records.map id).Nodup) {first second : α}
    (firstMember : first ∈ records) (secondMember : second ∈ records)
    (sameId : id first = id second) : first = second :=
  List.inj_on_of_nodup_map nodup firstMember secondMember sameId

/-- What `update` leaves in a table with unique ids: the new record, and the others. -/
theorem mem_map_replace {found new record : α} (member : found ∈ records) :
    record ∈ (records.map fun old => if id old == id found then new else old) ↔
      record = new ∨ (record ∈ records ∧ id record ≠ id found) := by
  constructor
  · intro replaced
    obtain ⟨old, oldMember, rfl⟩ := List.mem_map.mp replaced
    by_cases sameId : id old = id found <;> simp [sameId, oldMember]
  · rintro (rfl | ⟨recordMember, distinct⟩)
    · exact List.mem_map.mpr ⟨found, member, by simp⟩
    · exact List.mem_map.mpr ⟨record, recordMember, by simp [distinct]⟩

/-- Replacing the record with a given id by one with the same key leaves the table's column of
keys as it was. -/
theorem map_replace_keys (key : α → β) (new : α) (nodup : (records.map id).Nodup) {found : α}
    (member : found ∈ records) (same : key new = key found) :
    (records.map fun old => if id old == id found then new else old).map key =
      records.map key := by
  rw [List.map_map]
  refine List.map_congr_left fun old oldMember => ?_
  by_cases sameId : id old = id found
  · simp [sameId, eq_of_id_eq nodup oldMember member sameId, same]
  · simp [sameId]

/-- Writing a record over the row of its id, and then writing the row back, restores a table with
unique ids. -/
theorem map_replace_restore {row : α} (new : α) (nodup : (records.map id).Nodup)
    (member : row ∈ records) (same : id new = id row) :
    ((records.map fun old => if id old == id row then new else old).map
      fun old => if id old == id row then row else old) = records := by
  rw [List.map_map]
  conv_rhs => rw [← List.map_id records]
  refine List.map_congr_left fun old oldMember => ?_
  by_cases sameId : id old = id row
  · simp [sameId, same, eq_of_id_eq nodup oldMember member sameId]
  · simp [sameId]

/-- A search whose filter takes a record and the row it is written over alike finds the rows it
found before, with the record written over its row. -/
theorem filter_map_replace {p : α → Bool} {row : α} (new : α) (nodup : (records.map id).Nodup)
    (member : row ∈ records) (same : p new = p row) :
    (records.map fun old => if id old == id row then new else old).filter p =
      (records.filter p).map fun old => if id old == id row then new else old := by
  rw [List.filter_map]
  congr 1
  refine List.filter_congr fun old oldMember => ?_
  by_cases sameId : id old = id row
  · simp [sameId, same, eq_of_id_eq nodup oldMember member sameId]
  · simp [sameId]

theorem nodup_map_append_singleton {key : α → β} {record : α} (nodup : (records.map key).Nodup)
    (fresh : ∀ old ∈ records, key old ≠ key record) : ((records ++ [record]).map key).Nodup := by
  simpa [List.nodup_append] using ⟨nodup, fun old member equal => fresh old member equal⟩

theorem nodup_map_filter {key : α → β} (nodup : (records.map key).Nodup) (keep : α → Bool) :
    ((records.filter keep).map key).Nodup :=
  nodup.sublist ((List.filter_sublist records).map key)

/-- In a table whose keys are unique, the records with a record's key are that record alone. -/
theorem filter_key_eq_singleton [DecidableEq β] {key : α → β}
    (nodup : (records.map key).Nodup) {record : α} (member : record ∈ records) :
    records.filter (fun old => decide (key old = key record)) = [record] := by
  have counted := List.count_eq_one_of_mem nodup (List.mem_map_of_mem key member)
  rw [List.count, List.countP_map, List.countP_eq_length_filter] at counted
  obtain ⟨single, singleEq⟩ := List.length_eq_one.mp counted
  have listed : record ∈ records.filter (fun old => decide (key old = key record)) :=
    List.mem_filter.mpr ⟨member, by simp⟩
  rw [show records.filter (fun old => decide (key old = key record)) = [single] from singleEq]
    at listed ⊢
  rw [List.mem_singleton.mp listed]

/-- In a table with unique ids, `retrieve_by_id` finds each record by its id. -/
theorem BaseRecord.retrieveById_of_mem {α : Type} [BaseRecord α] {txn : Store} {record : α}
    (nodup : ((BaseRecord.table txn : List α).map BaseRecord.recordId).Nodup)
    (member : record ∈ (BaseRecord.table txn : List α)) :
    BaseRecord.retrieveById txn (BaseRecord.recordId record) = .ok record := by
  unfold BaseRecord.retrieveById
  split
  · rename_i found foundEq
    have sameId : BaseRecord.recordId found = BaseRecord.recordId record := by
      simpa using List.find?_some foundEq
    rw [eq_of_id_eq nodup (List.mem_of_find?_eq_some foundEq) member sameId]
    rfl
  · rename_i noneEq
    simpa using List.find?_eq_none.mp noneEq record member

end UniqueIds

/-! ## The shape of the update handlers -/

/-- The shape of `update_status_list_def`, `update_status_list` and `update_status_list_entry`:
in a session, the record with the id is read, `setattr(record, attr, value)` runs for each item
of the body in order, and the record is saved and answered. An exception other than the storage
errors is not caught. The `serialize()` of the answer repeats the one in `save`'s `finally` and
cannot raise after it. -/
def patchRecord {α σ : Type} [BaseRecord α] (setattr : α → σ → Except PyError α)
    (answer : α → Response) (txn : Store) (id : String) (body : List σ) : Store × Response :=
  match (do
      let key ← (JsonValue.str id).recordKey
      let record : α ← BaseRecord.retrieveById txn key
      body.foldlM setattr record : Except PyError α) with
  | .error cause => (txn, badRequestOnStorage cause)
  | .ok record =>
      match BaseRecord.save txn BaseRecord.update record with
      | (saved, .ok ()) => (saved, answer record)
      | (saved, .error cause) => (saved, badRequestOnStorage cause)

/-- What an update handler leaves: the store as it was, or the store with the record it read,
as the body set it, written over the stored one. -/
theorem patchRecord_store {α σ : Type} [BaseRecord α] (setattr : α → σ → Except PyError α)
    (answer : α → Response) (txn : Store) (id : String) (body : List σ) :
    (patchRecord setattr answer txn id body).1 = txn ∨
      ∃ found patched, (BaseRecord.retrieveById txn id : Except PyError α) = .ok found ∧
        body.foldlM setattr found = .ok patched ∧
        BaseRecord.update txn patched = .ok (patchRecord setattr answer txn id body).1 := by
  unfold patchRecord
  split
  · exact .inl rfl
  · rename_i patched read
    obtain ⟨key, keyOk, read⟩ := except_bind_eq_ok.mp read
    obtain ⟨found, retrieved, applied⟩ := except_bind_eq_ok.mp read
    obtain ⟨keyValue, -⟩ := JsonValue.recordKey_eq_ok keyOk
    cases keyValue
    cases written : BaseRecord.update txn patched with
    | error cause =>
        left
        have kept := BaseRecord.save_of_error written
        split <;> simp_all
    | ok saved =>
        right
        refine ⟨found, patched, retrieved, applied, ?_⟩
        rw [BaseRecord.save_of_ok written]
        split <;> simp_all

/-- An update handler that read its record and set the body's items on it, with the id kept and
tags askar takes, writes it over the stored one; it answers the record when `serialize()`
returns, and `500` with what `serialize()` raised otherwise. -/
theorem patchRecord_of_retrieved {α σ : Type} [BaseRecord α] {setattr : α → σ → Except PyError α}
    {answer : α → Response} {txn : Store} {id : String} {body : List σ} {found patched : α}
    (nonempty : id ≠ "") (retrieved : BaseRecord.retrieveById txn id = .ok found)
    (applied : body.foldlM setattr found = .ok patched)
    (accepted : BaseRecord.tagsAccepted patched = true)
    (sameId : BaseRecord.recordId patched = BaseRecord.recordId found) :
    patchRecord setattr answer txn id body =
      (BaseRecord.setTable txn ((BaseRecord.table txn).map fun old =>
          if BaseRecord.recordId old == BaseRecord.recordId patched then patched else old),
        match BaseRecord.serialize patched with
        | .ok () => answer patched
        | .error cause => .serverError cause) := by
  have updated := BaseRecord.update_of_stored accepted
    (BaseRecord.stored_of_mem (BaseRecord.retrieveById_eq_ok retrieved).1 sameId.symm)
  rw [patchRecord, JsonValue.recordKey_str nonempty]
  simp only [except_ok_bind, retrieved, applied]
  rw [BaseRecord.save_of_ok updated]
  cases serialized : BaseRecord.serialize patched with
  | ok => rfl
  | error cause =>
      simp [badRequestOnStorage, BaseRecord.serialize_not_storage patched cause serialized]

end StatusListPlugin
