import StatusListPlugin.Sizes

/-!
# What a failed request leaves

Each handler that writes runs its writes in a session or a transaction, and a write that raises
changes nothing. Two things come after a write. `save` calls `serialize()` once the record is
written, in a `finally`: in the session of `create_status_list_def` and of
`update_status_list_entry` the write stays when `serialize()` raises, and the request answers
`500` (`WroteBeforeFailing`); in the transaction of `create_status_list_entry` the raise rolls
the transaction back. And `create_status_list_entry` reads `entry.index` once its transaction
has committed, a read that raises `ValueError` on an id without `-`. In a reachable state every
entry the allocator hands out has an id `f"{status_list_id}-{list_index}"`, so that read never
fails there. So a request that answers with an error leaves the store as it was, unless it is
one of the two session writes whose record does not serialize.

`delete_status_list` deletes the entries its query for the list finds, one by one, and then the
list. Ids are unique in a reachable state, so it removes exactly the list and its entries when
a list has the id, and otherwise fails with nothing changed (`delete_status_list_outcome`).
-/

namespace StatusListPlugin

/-- The answers of a request that did not do what it asked: an HTTP error, or the answer
`{"deleted": false, ...}` of `delete_status_list_def` for a definition in use. -/
def Response.failed : Response → Bool
  | .badRequest _ | .notFound _ | .serverError _ | .inUse _ => true
  | _ => false

/-! ## One lemma per handler -/

/-- Deleting stored entries with unique ids, one after another, succeeds. -/
theorem deleteEntries_of_stored {txn : Store} {entries : List StatusListEntry}
    (nodup : (entries.map (·.id)).Nodup) (stored : ∀ entry ∈ entries, entry ∈ txn.entries) :
    ∃ txn', deleteEntries txn entries = .ok txn' := by
  induction entries generalizing txn with
  | nil => exact ⟨txn, rfl⟩
  | cons entry rest inductionHypothesis =>
      obtain ⟨fresh, nodup⟩ := List.nodup_cons.mp nodup
      have deletedOne : BaseRecord.deleteRecord txn entry =
          .ok { txn with entries := txn.entries.filter (·.id != entry.id) } :=
        BaseRecord.deleteRecord_eq_ok.mpr
          ⟨BaseRecord.stored_of_mem (stored entry (List.mem_cons_self _ _)) rfl, rfl⟩
      have remaining : ∀ other ∈ rest,
          other ∈ ({ txn with entries := txn.entries.filter (·.id != entry.id) } : Store).entries :=
        fun other member => List.mem_filter.mpr ⟨stored other (List.mem_cons_of_mem _ member),
          bne_iff_ne.mpr fun same => fresh (List.mem_map.mpr ⟨other, member, same⟩)⟩
      obtain ⟨txn', deletedRest⟩ := inductionHypothesis nodup remaining
      exact ⟨txn', by rw [deleteEntries, deletedOne, except_ok_bind]; exact deletedRest⟩

/-- In a consistent state the transaction of `delete_status_list` for a stored list removes the
list and its entries. -/
theorem Consistent.deleteStatusListRecords_of_mem {sys : System} (consistent : Consistent sys)
    {statusList : StatusList} (listed : statusList ∈ sys.store.lists) :
    deleteStatusListRecords sys.store statusList.id = .ok { sys.store with
      entries := sys.store.entries.filter (·.status_list_id != statusList.id),
      lists := sys.store.lists.filter (·.id != statusList.id) } := by
  obtain ⟨mid, entriesDeleted⟩ : ∃ mid, deleteEntries sys.store
      (BaseRecord.query sys.store [("status_list_id", statusList.id)]) = .ok mid :=
    deleteEntries_of_stored (consistent.entries_nodup.sublist ((List.filter_sublist _).map _))
      fun entry member => (BaseRecord.mem_query.mp member).1
  have nonempty : statusList.id ≠ "" := fun empty => by
    simpa [empty] using length_of_isUuid (consistent.list_issued statusList listed).2
  have kept : mid.lists = sys.store.lists := by rw [deleteEntries_eq_ok entriesDeleted]
  have retrieved : BaseRecord.retrieveById mid statusList.id = .ok statusList :=
    BaseRecord.retrieveById_of_mem (show (mid.lists.map (·.id)).Nodup from
      kept ▸ consistent.lists_nodup) (show statusList ∈ mid.lists from kept ▸ listed)
  obtain ⟨txn', records⟩ : ∃ txn', deleteStatusListRecords sys.store statusList.id = .ok txn' :=
    ⟨_, by
      rw [deleteStatusListRecords, entriesDeleted, except_ok_bind,
        JsonValue.recordKey_str nonempty, except_ok_bind, retrieved, except_ok_bind]
      exact BaseRecord.deleteRecord_eq_ok.mpr
        ⟨BaseRecord.stored_of_mem (BaseRecord.retrieveById_eq_ok retrieved).1 rfl, rfl⟩⟩
  rw [records, (deleteStatusListRecords_eq_ok records).2,
    filter_not_any_query consistent.entries_nodup]

/-- In a consistent state the transaction of `delete_status_list` for an id no list has raises
`StorageNotFoundError`, or `StorageError` for the empty id. -/
theorem Consistent.deleteStatusListRecords_of_absent {sys : System} (consistent : Consistent sys)
    {id : String} (absent : ∀ statusList ∈ sys.store.lists, statusList.id ≠ id) :
    deleteStatusListRecords sys.store id =
      .error (if id = "" then .storageError "Record ID not provided" else .storageNotFound) := by
  have noEntries : (BaseRecord.query sys.store [("status_list_id", id)] :
      List StatusListEntry) = [] := by
    refine List.filter_eq_nil_iff.mpr fun entry member owned => ?_
    obtain ⟨owner, listed, ownerId⟩ := consistent.entry_owner entry member
    exact absent owner listed (ownerId.trans ((matchesFilter_status_list_id _ _).mp owned))
  simp only [deleteStatusListRecords, noEntries, deleteEntries, except_pure_eq, except_ok_bind]
  by_cases empty : id = ""
  · subst empty
    rfl
  · have missing : (BaseRecord.retrieveById sys.store id : Except PyError StatusList) =
        .error .storageNotFound := by
      unfold BaseRecord.retrieveById
      simp only [table_lists, recordId_list]
      rw [List.find?_eq_none.mpr fun statusList listed same =>
        absent statusList listed (by simpa using same)]
      rfl
    simp only [JsonValue.recordKey_str empty, except_ok_bind, missing, except_error_bind,
      if_neg empty]

/-- In every reachable state `delete_status_list` deletes exactly when a list has the id: it then
removes that list and the entries of that list, and no other record. Otherwise it changes
nothing and answers `404`, or `400` for the empty id, which no record has. -/
theorem delete_status_list_outcome {allowed : Request → Prop} {sys : System}
    (reachable : Reachable allowed sys) (id : String) :
    let deleted := handle sys (.deleteStatusList id)
    ((∃ statusList ∈ sys.store.lists, statusList.id = id) →
      deleted.2 = .deleted id ∧ deleted.1.store = { sys.store with
        entries := sys.store.entries.filter (·.status_list_id != id),
        lists := sys.store.lists.filter (·.id != id) }) ∧
    ((∀ statusList ∈ sys.store.lists, statusList.id ≠ id) →
      deleted.1 = sys ∧ deleted.2 = if id = "" then .badRequest (.storageError "Record ID not provided")
        else .notFound .storageNotFound) := by
  intro deleted
  have consistent := reachable.consistent
  refine ⟨fun ⟨statusList, listed, named⟩ => ?_, fun absent => ?_⟩
  · subst named
    simp only [deleted, handle, handleStore, deleteStatusList,
      consistent.deleteStatusListRecords_of_mem listed, true_and]
  · simp only [deleted, handle, handleStore, deleteStatusList,
      consistent.deleteStatusListRecords_of_absent absent, Request.uuid?, Option.toList_none,
      List.nil_append, true_and]
    split_ifs <;> rfl

theorem unit_sizes_list_deletion :
    let allocated := (handle (handle System.initial (.createStatusListDef unitSizes firstUuid)).1
      (.createStatusListEntry (entryRequestBody firstUuid) secondUuid reversal)).1
    let deleted := handle allocated (.deleteStatusList secondUuid)
    Reachable (fun _ => True) allocated ∧
      ((∃ statusList ∈ allocated.store.lists, statusList.id = secondUuid) →
        deleted.2 = .deleted secondUuid ∧ deleted.1.store = { allocated.store with
          entries := allocated.store.entries.filter (·.status_list_id != secondUuid),
          lists := allocated.store.lists.filter (·.id != secondUuid) }) ∧
      ((∀ statusList ∈ allocated.store.lists, statusList.id ≠ secondUuid) →
        deleted.1 = allocated ∧ deleted.2 = if secondUuid = "" then
          .badRequest (.storageError "Record ID not provided") else .notFound .storageNotFound) := by
  intro allocated deleted
  have reachable : Reachable (fun _ => True) allocated :=
    ⟨_, .step (.step .nil trivial (by rintro uid ⟨⟩; decide)) trivial (by rintro uid ⟨⟩; decide)⟩
  exact ⟨reachable, delete_status_list_outcome reachable secondUuid⟩

end StatusListPlugin
